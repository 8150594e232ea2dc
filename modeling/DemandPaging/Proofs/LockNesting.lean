import Mathlib.Data.List.Induction
import DemandPaging.SpinLock

/-!
# Nested locks keep interrupts off

A lock saves the interrupt flag that its taker found, and only giving it up reads that flag again.
From the history of a bench one can tell which acquisitions are in force and what the flag was just
before each of them (`outstanding`). The locks record exactly these (`Processor.Records`), whatever
the order of release; where locks are given up in the reverse order, the saved flags form a stack
above the flag of the processor (`IsStack`), and that keeps interrupts off until the stack is empty.
-/

namespace DemandPaging

namespace Processor

variable {processor : Processor} {lock : Nat}

/-- A lock counts as held as long as it keeps a saved flag. -/
theorem isHeld_iff :
    processor.isHeld lock = true ↔ ∃ saved, processor.locks[lock]? = some ⟨true, saved⟩ := by
  unfold isHeld
  split
  · rename_i state found
    cases state
    simp [found]
  · simp [*]

/-- Taking a free lock saves the interrupt flag as it was found and turns interrupts off. -/
theorem lock_of_free (free : processor.isHeld lock = false) :
    processor.lock lock =
      some ((processor.setInterrupts false).seize lock processor.interrupts) := by
  have masked : (processor.setInterrupts false).isHeld lock = false := free
  simp [Processor.lock, maskInterrupts, masked]

/-- An attempt on a free lock does what taking it does. -/
theorem tryLock_of_free (free : processor.isHeld lock = false) :
    processor.tryLock lock =
      (true, (processor.setInterrupts false).seize lock processor.interrupts) := by
  have masked : (processor.setInterrupts false).isHeld lock = false := free
  simp [tryLock, maskInterrupts, masked]

/-- A try that fails restores the interrupt flag that it had disabled. -/
theorem tryLock_of_held (held : processor.isHeld lock = true) :
    processor.tryLock lock = (false, processor) := by
  have masked : (processor.setInterrupts false).isHeld lock = true := held
  simp only [tryLock, maskInterrupts, masked, if_true]
  rfl

/-- Giving up a lock puts back the flag that it saved. -/
theorem unlock_of_held {saved : Bool} (held : processor.locks[lock]? = some ⟨true, saved⟩) :
    processor.unlock lock = (processor.free lock).setInterrupts saved := by
  simp [unlock, held]

@[simp] theorem locks_setInterrupts (enabled : Bool) :
    (processor.setInterrupts enabled).locks = processor.locks := rfl

@[simp] theorem interrupts_setInterrupts (enabled : Bool) :
    (processor.setInterrupts enabled).interrupts = enabled := rfl

@[simp] theorem interrupts_seize (found : Bool) :
    (processor.seize lock found).interrupts = processor.interrupts := rfl

/-- A lock that is taken keeps the flag that was found. -/
theorem getElem?_locks_seize_self {found : Bool} (exist : lock < processor.locks.size) :
    (processor.seize lock found).locks[lock]? = some ⟨true, found⟩ := by
  simp [seize, Array.getElem_modify, exist]

/-- Taking one lock leaves the others alone. -/
theorem getElem?_locks_seize_of_ne {found : Bool} {other : Nat} (ne : other ≠ lock) :
    (processor.seize lock found).locks[other]? = processor.locks[other]? := by
  simp [seize, Array.getElem?_modify, ne.symm]

theorem isHeld_free_self : (processor.free lock).isHeld lock = false := by
  simp only [isHeld, free, Array.getElem?_modify, if_true]
  cases processor.locks[lock]? <;> rfl

/-- Giving up one lock leaves the others alone. -/
theorem getElem?_locks_free_of_ne {other : Nat} (ne : other ≠ lock) :
    (processor.free lock).locks[other]? = processor.locks[other]? := by
  simp [free, Array.getElem?_modify, ne.symm]

/-- Whether a lock is held depends on that lock only. -/
theorem isHeld_congr {next : Processor} (same : next.locks[lock]? = processor.locks[lock]?) :
    next.isHeld lock = processor.isHeld lock := by
  simp [isHeld, same]

end Processor

/-! ## Histories -/

/-- A step, with the bench that it is carried out on. -/
structure LockMove where
  before : LockBench
  step : LockStep

namespace LockMove

/-- What the step answers. -/
def answer (move : LockMove) : LockAnswer :=
  (move.before.perform move.step).1

/-- The bench that the step leaves. -/
def after (move : LockMove) : LockBench :=
  (move.before.perform move.step).2

/-- The lock that the move takes, if it takes one. -/
def taken? (move : LockMove) : Option Nat :=
  match move.step, move.answer with
  | .lock lock, .done => some lock
  | .tryLock lock, .verdict true => some lock
  | _, _ => none

/-- The lock that the move gives up, if it gives one up. -/
def given? (move : LockMove) : Option Nat :=
  match move.step, move.answer with
  | .unlock lock, .verdict true => some lock
  | _, _ => none

end LockMove

/-- A lock that was taken, and the interrupt flag just before. -/
structure Acquisition where
  lock : Nat
  interrupts : Bool
deriving DecidableEq

/-- The acquisitions in force after a move, the latest first: taking a lock adds one, giving up a
lock ends the latest acquisition of it. -/
def LockMove.hold (held : List Acquisition) (move : LockMove) : List Acquisition :=
  match move.taken?, move.given? with
  | some lock, _ => ⟨lock, move.before.processor.interrupts⟩ :: held
  | none, some lock => held.eraseP (·.lock = lock)
  | none, none => held

/-- The acquisitions that a history leaves in force, the latest first. -/
def outstanding (moves : List LockMove) : List Acquisition :=
  moves.foldl LockMove.hold []

@[simp] theorem outstanding_nil : outstanding [] = [] := rfl

@[simp] theorem outstanding_concat (moves : List LockMove) (move : LockMove) :
    outstanding (moves ++ [move]) = move.hold (outstanding moves) := by
  simp [outstanding]

/-- All locks of a new bench are free. -/
theorem LockBench.isHeld_ofCount {count lock : Nat} :
    (ofCount count).processor.isHeld lock = false := by
  by_cases exist : lock < count <;> simp [Processor.isHeld, ofCount, Processor.withLocks, exist]

/-- A step that may be carried out: it names a lock that exists, waits only for a free one and gives
up only a held one. -/
def LockBench.Admits (bench : LockBench) : LockStep → Prop
  | .lock lock => lock < bench.processor.locks.size ∧ bench.processor.isHeld lock = false
  | .tryLock lock => lock < bench.processor.locks.size
  | .unlock lock => bench.processor.isHeld lock = true
  | .setInterrupts _ => True
  | .add _ _ => True

instance (bench : LockBench) : (step : LockStep) → Decidable (bench.Admits step)
  | .lock lock => inferInstanceAs
      (Decidable (lock < bench.processor.locks.size ∧ bench.processor.isHeld lock = false))
  | .tryLock lock => inferInstanceAs (Decidable (lock < bench.processor.locks.size))
  | .unlock lock => inferInstanceAs (Decidable (bench.processor.isHeld lock = true))
  | .setInterrupts _ => inferInstanceAs (Decidable True)
  | .add _ _ => inferInstanceAs (Decidable True)

/-- The bench is reached from `start` by the moves. -/
inductive LockRun (start : LockBench) : List LockMove → LockBench → Prop where
  | nil : LockRun start [] start
  | step {moves : List LockMove} {bench : LockBench} (run : LockRun start moves bench)
      (step : LockStep) (admits : bench.Admits step) :
      LockRun start (moves ++ [⟨bench, step⟩]) (LockMove.after ⟨bench, step⟩)

namespace LockRun

variable {start bench : LockBench} {moves earlier later : List LockMove} {move : LockMove}

/-- The last step of a history was one that could be carried out. -/
theorem of_concat (run : LockRun start (moves ++ [move]) bench) :
    LockRun start moves move.before ∧ move.before.Admits move.step ∧ bench = move.after := by
  generalize whole : moves ++ [move] = all at run
  cases run with
  | nil => simp at whole
  | step run step admits =>
    obtain ⟨rfl, last⟩ := List.append_inj' whole rfl
    obtain rfl := List.singleton_inj.mp last
    exact ⟨run, admits, rfl⟩

/-- Whatever a run passes through, it has reached by a run. -/
theorem of_append (run : LockRun start (earlier ++ later) bench) :
    ∃ middle, LockRun start earlier middle := by
  induction later using List.reverseRecOn generalizing bench with
  | nil => exact ⟨bench, by simpa using run⟩
  | append_singleton rest last ih =>
    rw [← List.append_assoc] at run
    exact ih run.of_concat.1

/-- Every move of a history was made on the bench that the history had reached by then. -/
theorem split (run : LockRun start (earlier ++ move :: later) bench) :
    LockRun start earlier move.before ∧ move.before.Admits move.step := by
  have whole : earlier ++ move :: later = (earlier ++ [move]) ++ later := by simp
  obtain ⟨middle, reached⟩ := (whole ▸ run).of_append
  exact ⟨reached.of_concat.1, reached.of_concat.2.1⟩

end LockRun

/-! ## What the locks record -/

/-- The locks of a processor record the acquisitions in force, and nothing else holds a lock. -/
structure Processor.Records (processor : Processor) (held : List Acquisition) : Prop where
  /-- No lock is held by two acquisitions. -/
  nodup : (held.map (·.lock)).Nodup
  saved : ∀ acquisition ∈ held,
    processor.locks[acquisition.lock]? = some ⟨true, acquisition.interrupts⟩
  listed : ∀ lock, processor.isHeld lock = true → lock ∈ held.map (·.lock)

/-- No acquisition is listed twice, so ending the latest one of a lock ends all of them. -/
theorem mem_eraseP_iff {held : List Acquisition} {lock : Nat} {acquisition : Acquisition}
    (nodup : (held.map (·.lock)).Nodup) :
    acquisition ∈ held.eraseP (·.lock = lock) ↔ acquisition ∈ held ∧ acquisition.lock ≠ lock := by
  induction held with
  | nil => simp
  | cons first rest ih =>
    rw [List.map_cons, List.nodup_cons] at nodup
    by_cases same : first.lock = lock
    · have apart : acquisition ∈ rest → acquisition.lock ≠ lock := fun listed equal =>
        nodup.1 (List.mem_map.mpr ⟨acquisition, listed, equal.trans same.symm⟩)
      rw [List.eraseP_cons_of_pos (by simpa using same)]
      constructor
      · intro listed
        exact ⟨.tail _ listed, apart listed⟩
      · rintro ⟨listed, ne⟩
        obtain rfl | listed := List.mem_cons.mp listed
        · exact absurd same ne
        · exact listed
    · rw [List.eraseP_cons_of_neg (by simpa using same), List.mem_cons, List.mem_cons, ih nodup.2]
      constructor
      · rintro (rfl | ⟨listed, ne⟩)
        · exact ⟨.inl rfl, same⟩
        · exact ⟨.inr listed, ne⟩
      · rintro ⟨rfl | listed, ne⟩
        · exact .inl rfl
        · exact .inr ⟨listed, ne⟩

namespace Processor.Records

variable {processor : Processor} {held : List Acquisition} {lock : Nat}

/-- The locks that are held are those of the acquisitions in force. -/
theorem isHeld_iff (records : processor.Records held) :
    processor.isHeld lock = true ↔ lock ∈ held.map (·.lock) := by
  constructor
  · exact records.listed lock
  · intro listed
    obtain ⟨acquisition, mem, rfl⟩ := List.mem_map.mp listed
    exact Processor.isHeld_iff.mpr ⟨_, records.saved acquisition mem⟩

/-- The record of acquisitions says nothing about the interrupt flag. -/
theorem of_locks {next : Processor} (records : processor.Records held)
    (same : next.locks = processor.locks) : next.Records held where
  nodup := records.nodup
  saved := by simpa [same] using records.saved
  listed := by simpa [Processor.isHeld, same] using records.listed

/-- A lock that was free is held by its taker alone. -/
theorem seize (records : processor.Records held) (found : Bool)
    (exist : lock < processor.locks.size) (free : processor.isHeld lock = false) :
    (processor.seize lock found).Records (⟨lock, found⟩ :: held) where
  nodup := by
    have unlisted : lock ∉ held.map (·.lock) := fun listed => by
      simp [records.isHeld_iff.mpr listed] at free
    exact List.nodup_cons.mpr ⟨unlisted, records.nodup⟩
  saved := by
    intro acquisition listed
    obtain rfl | earlier := List.mem_cons.mp listed
    · exact getElem?_locks_seize_self exist
    · have ne : acquisition.lock ≠ lock := by
        rintro rfl
        simp [Processor.isHeld, records.saved acquisition earlier] at free
      rw [getElem?_locks_seize_of_ne ne]
      exact records.saved acquisition earlier
  listed := by
    intro other isHeld
    by_cases same : other = lock
    · simp [same]
    · rw [isHeld_congr (getElem?_locks_seize_of_ne same)] at isHeld
      exact List.mem_cons_of_mem _ (records.listed other isHeld)

/-- A lock that is given up is held by nobody, and the others stay with their takers. -/
theorem free (records : processor.Records held) (lock : Nat) :
    (processor.free lock).Records (held.eraseP (·.lock = lock)) where
  nodup := records.nodup.sublist (List.eraseP_sublist.map _)
  saved := by
    intro acquisition listed
    obtain ⟨listed, ne⟩ := (mem_eraseP_iff records.nodup).mp listed
    rw [getElem?_locks_free_of_ne ne]
    exact records.saved acquisition listed
  listed := by
    intro other isHeld
    have ne : other ≠ lock := by
      rintro rfl
      simp [isHeld_free_self] at isHeld
    rw [isHeld_congr (getElem?_locks_free_of_ne ne)] at isHeld
    obtain ⟨acquisition, listed, rfl⟩ := List.mem_map.mp (records.listed other isHeld)
    exact List.mem_map.mpr ⟨acquisition, (mem_eraseP_iff records.nodup).mpr ⟨listed, ne⟩, rfl⟩

end Processor.Records

/-! ## One step -/

/-- What a step that may be carried out does to the locks and to the interrupt flag. -/
inductive LockMove.Acts (move : LockMove) : Prop where
  | takes (lock : Nat) (taken : move.taken? = some lock) (ungiven : move.given? = none)
      (exist : lock < move.before.processor.locks.size)
      (free : move.before.processor.isHeld lock = false)
      (after : move.after.processor =
        (move.before.processor.setInterrupts false).seize lock move.before.processor.interrupts)
  | gives (lock : Nat) (saved : Bool) (untaken : move.taken? = none)
      (given : move.given? = some lock) (step : move.step = .unlock lock)
      (held : move.before.processor.locks[lock]? = some ⟨true, saved⟩)
      (after : move.after.processor = (move.before.processor.free lock).setInterrupts saved)
  | spares (untaken : move.taken? = none) (ungiven : move.given? = none)
      (locks : move.after.processor.locks = move.before.processor.locks)
      (interrupts : move.after.processor.interrupts = move.before.processor.interrupts ∨
        ∃ enabled, move.step = .setInterrupts enabled)

namespace LockMove

variable {bench : LockBench} {lock : Nat}

/-- A free lock is taken at the first look, so the wait for it ends. -/
theorem acts_lock (exist : lock < bench.processor.locks.size)
    (free : bench.processor.isHeld lock = false) :
    (⟨bench, .lock lock⟩ : LockMove).Acts :=
  .takes lock (by simp [taken?, answer, LockBench.perform, Processor.lock_of_free free])
    (by simp [given?]) exist free
    (by simp [after, LockBench.perform, Processor.lock_of_free free])

/-- An attempt on a held lock answers no and leaves the bench as it was. -/
theorem perform_tryLock_of_held (held : bench.processor.isHeld lock = true) :
    bench.perform (.tryLock lock) = (.verdict false, bench) := by
  simp [LockBench.perform, Processor.tryLock_of_held held]

/-- An attempt acts like an acquisition or not at all, according to whether the lock was free. -/
theorem acts_tryLock (exist : lock < bench.processor.locks.size) :
    (⟨bench, .tryLock lock⟩ : LockMove).Acts := by
  cases held : bench.processor.isHeld lock with
  | false =>
    have tried := Processor.tryLock_of_free held
    exact .takes lock (by simp [taken?, answer, LockBench.perform, tried]) (by simp [given?]) exist
      held (by simp [after, LockBench.perform, tried])
  | true =>
    have failed := perform_tryLock_of_held held
    exact .spares (by simp [taken?, answer, failed]) (by simp [given?]) (by simp [after, failed])
      (.inl (by simp [after, failed]))

/-- Giving up a held lock frees that lock only, and puts back its flag. -/
theorem acts_unlock (held : bench.processor.isHeld lock = true) :
    (⟨bench, .unlock lock⟩ : LockMove).Acts := by
  obtain ⟨saved, found⟩ := Processor.isHeld_iff.mp held
  exact .gives lock saved (by simp [taken?]) (by simp [given?, answer, LockBench.perform, held]) rfl
    found (by simp [after, LockBench.perform, held, Processor.unlock_of_held found])

/-- A change of the shared data touches no lock and no flag. -/
theorem acts_add (amount : Int64) : (⟨bench, .add lock amount⟩ : LockMove).Acts := by
  have same : (LockMove.after ⟨bench, .add lock amount⟩).processor = bench.processor := by
    simp only [after, LockBench.perform]
    split <;> rfl
  exact .spares (by simp [taken?]) (by simp [given?]) (by rw [same]) (.inl (by rw [same]))

/-- What one step may do to the locks and to the interrupt flag, for every kind of step. -/
theorem acts (move : LockMove) (admits : move.before.Admits move.step) : move.Acts := by
  obtain ⟨bench, step⟩ := move
  cases step with
  | setInterrupts enabled =>
    exact .spares (by simp [taken?]) (by simp [given?]) rfl (.inr ⟨enabled, rfl⟩)
  | lock lock => exact acts_lock admits.1 admits.2
  | tryLock lock => exact acts_tryLock admits
  | unlock lock => exact acts_unlock admits
  | add lock amount => exact acts_add amount

/-- A step keeps the locks in agreement with the acquisitions in force. -/
theorem records_hold {move : LockMove} {held : List Acquisition}
    (records : move.before.processor.Records held) (admits : move.before.Admits move.step) :
    move.after.processor.Records (move.hold held) := by
  cases acts move admits with
  | takes lock taken ungiven exist free after =>
    have masked := records.of_locks (Processor.locks_setInterrupts false)
    simpa [hold, taken, after] using masked.seize move.before.processor.interrupts exist free
  | gives lock saved untaken given step held after =>
    simpa [hold, untaken, given, after] using
      (records.free lock).of_locks (Processor.locks_setInterrupts saved)
  | spares untaken ungiven locks interrupts =>
    simpa [hold, untaken, ungiven] using records.of_locks locks

end LockMove

namespace LockRun

variable {start bench : LockBench} {moves : List LockMove}

/-- The locks that are held and the flags that they saved are those of the acquisitions in force, by
induction on the history. -/
theorem records (run : LockRun start moves bench)
    (free : ∀ lock, start.processor.isHeld lock = false) :
    bench.processor.Records (outstanding moves) := by
  induction run with
  | nil => exact ⟨.nil, by simp, fun lock held => by simp [free lock] at held⟩
  | step run step admits ih =>
    rw [outstanding_concat]
    exact LockMove.records_hold ih admits

end LockRun

/-! ## Whose flag is restored -/

/-- The move takes the lock, and the history after it neither takes that lock nor gives it up. -/
def TakenLast (moves : List LockMove) (lock : Nat) (taking : LockMove) : Prop :=
  ∃ earlier since, moves = earlier ++ taking :: since ∧ taking.taken? = some lock ∧
    ∀ move ∈ since, move.taken? ≠ some lock ∧ move.given? ≠ some lock

/-- A move that neither takes nor gives up the lock leaves its last acquisition the last one. -/
theorem TakenLast.concat {moves : List LockMove} {lock : Nat} {taking move : LockMove}
    (last : TakenLast moves lock taking) (untaken : move.taken? ≠ some lock)
    (ungiven : move.given? ≠ some lock) : TakenLast (moves ++ [move]) lock taking := by
  obtain ⟨earlier, since, rfl, taken, apart⟩ := last
  refine ⟨earlier, since ++ [move], by simp, taken, fun next mem => ?_⟩
  obtain mem | mem := List.mem_append.mp mem
  · exact apart next mem
  · obtain rfl := List.mem_singleton.mp mem
    exact ⟨untaken, ungiven⟩

/-- An acquisition in force goes back to a move of the history that took the lock and found the
interrupt flag so. -/
theorem LockRun.takenLast {start bench : LockBench} {moves : List LockMove}
    (run : LockRun start moves bench) (free : ∀ lock, start.processor.isHeld lock = false)
    {acquisition : Acquisition} (listed : acquisition ∈ outstanding moves) :
    ∃ taking, TakenLast moves acquisition.lock taking ∧
      taking.before.processor.interrupts = acquisition.interrupts := by
  induction run with
  | nil => simp at listed
  | @step moves bench run step admits ih =>
    rw [outstanding_concat] at listed
    cases LockMove.acts ⟨bench, step⟩ admits with
    | takes lock taken ungiven exist isFree after =>
      simp only [LockMove.hold, taken, List.mem_cons] at listed
      obtain rfl | earlier := listed
      · exact ⟨_, ⟨moves, [], rfl, taken, by simp⟩, rfl⟩
      · have ne : lock ≠ acquisition.lock := by
          rintro rfl
          have isHeld := (run.records free).isHeld_iff.mpr (List.mem_map_of_mem earlier)
          exact absurd (isHeld.symm.trans isFree) (by decide)
        obtain ⟨taking, last, flag⟩ := ih earlier
        exact ⟨taking, last.concat (by simp [taken, ne]) (by simp [ungiven]), flag⟩
    | gives lock saved untaken given step held after =>
      simp only [LockMove.hold, untaken, given, mem_eraseP_iff (run.records free).nodup] at listed
      obtain ⟨taking, last, flag⟩ := ih listed.1
      exact ⟨taking, last.concat (by simp [untaken]) (by simp [given, listed.2.symm]), flag⟩
    | spares untaken ungiven locks interrupts =>
      simp only [LockMove.hold, untaken, ungiven] at listed
      obtain ⟨taking, last, flag⟩ := ih listed
      exact ⟨taking, last.concat (by simp [untaken]) (by simp [ungiven]), flag⟩

/-- Giving up a lock sets the flag to what it was just before the lock was taken, in whatever order
the locks are given up. -/
theorem LockRun.restores {start : LockBench} {earlier : List LockMove} {giving : LockMove}
    {lock : Nat} (run : LockRun start earlier giving.before)
    (free : ∀ lock, start.processor.isHeld lock = false)
    (admits : giving.before.Admits giving.step) (step : giving.step = .unlock lock) :
    ∃ taking, TakenLast earlier lock taking ∧
      giving.after.processor.interrupts = taking.before.processor.interrupts := by
  have records := run.records free
  rw [step] at admits
  obtain ⟨acquisition, listed, rfl⟩ := List.mem_map.mp (records.listed lock admits)
  obtain ⟨taking, last, flag⟩ := run.takenLast free listed
  refine ⟨taking, last, ?_⟩
  have unlocked := Processor.unlock_of_held (records.saved acquisition listed)
  rw [flag, LockMove.after, step]
  simp only [LockBench.perform, show _ = true from admits, if_true, unlocked,
    Processor.interrupts_setInterrupts]

/-! ## Release in the reverse order -/

/-- The saved flags lie above each other: an acquisition in force keeps interrupts off, and what it
saved is the flag under which the acquisitions before it were in force. -/
def IsStack : Bool → List Acquisition → Prop
  | _, [] => True
  | interrupts, latest :: rest => interrupts = false ∧ IsStack latest.interrupts rest

/-- A move that respects the stack: it gives up only the lock that was taken last, and it sets the
interrupt flag only while no lock is held. -/
def LockMove.Nests (held : List Acquisition) (move : LockMove) : Prop :=
  match move.step with
  | .unlock lock => held.head?.map (·.lock) = some lock
  | .setInterrupts _ => held = []
  | .lock _ => True
  | .tryLock _ => True
  | .add _ _ => True

instance (held : List Acquisition) : (move : LockMove) → Decidable (move.Nests held)
  | ⟨_, .unlock lock⟩ => inferInstanceAs (Decidable (held.head?.map (·.lock) = some lock))
  | ⟨_, .setInterrupts _⟩ => inferInstanceAs (Decidable (held = []))
  | ⟨_, .lock _⟩ => inferInstanceAs (Decidable True)
  | ⟨_, .tryLock _⟩ => inferInstanceAs (Decidable True)
  | ⟨_, .add _ _⟩ => inferInstanceAs (Decidable True)

/-- A history that gives up its locks in the reverse order of their acquisition, and in which
nothing else changes the interrupt flag while a lock is held. -/
def Nested (moves : List LockMove) : Prop :=
  ∀ earlier move later, moves = earlier ++ move :: later → move.Nests (outstanding earlier)

/-- Where nothing was done yet, nothing is out of order. -/
theorem nested_nil : Nested [] := by
  intro earlier move later whole
  simp at whole

/-- A history stays in order exactly if its next move respects the stack. -/
theorem nested_concat_iff {moves : List LockMove} {move : LockMove} :
    Nested (moves ++ [move]) ↔ Nested moves ∧ move.Nests (outstanding moves) := by
  constructor
  · intro nested
    refine ⟨fun earlier inner later whole => ?_, nested moves move [] rfl⟩
    exact nested earlier inner (later ++ [move]) (by simp [whole])
  · rintro ⟨nested, nests⟩ earlier inner later whole
    induction later using List.reverseRecOn with
    | nil =>
      obtain ⟨rfl, last⟩ := List.append_inj' whole rfl
      obtain rfl := List.singleton_inj.mp last
      exact nests
    | append_singleton rest last _ =>
      rw [← List.cons_append, ← List.append_assoc] at whole
      exact nested earlier inner rest (List.append_inj' whole rfl).1

namespace LockMove

variable {move : LockMove} {held : List Acquisition}

/-- In a stack, giving up a lock takes away its top, and the flag becomes what the top had saved. -/
theorem exists_top {lock : Nat} (nests : move.Nests held) (step : move.step = .unlock lock) :
    ∃ top rest, held = top :: rest ∧ top.lock = lock ∧ held.eraseP (·.lock = lock) = rest := by
  rw [Nests, step] at nests
  cases held with
  | nil => simp at nests
  | cons top rest =>
    have same : top.lock = lock := by simpa using nests
    exact ⟨top, rest, rfl, same, List.eraseP_cons_of_pos (by simpa using same)⟩

/-- One move that respects the stack leaves a stack of saved flags. -/
theorem isStack_hold (records : move.before.processor.Records held)
    (admits : move.before.Admits move.step) (nests : move.Nests held)
    (stack : IsStack move.before.processor.interrupts held) :
    IsStack move.after.processor.interrupts (move.hold held) := by
  cases acts move admits with
  | takes lock taken ungiven exist free after =>
    simpa [hold, taken, after, IsStack] using stack
  | gives lock saved untaken given step found after =>
    obtain ⟨top, rest, rfl, rfl, erased⟩ := exists_top nests step
    have own := (records.saved top (List.mem_cons_self ..)).symm.trans found
    obtain rfl : top.interrupts = saved := by simpa using own
    simpa [hold, untaken, given, after, erased] using stack.2
  | spares untaken ungiven locks interrupts =>
    simp only [hold, untaken, ungiven]
    obtain same | ⟨enabled, step⟩ := interrupts
    · rwa [same]
    · obtain rfl : held = [] := by simpa [Nests, step] using nests
      trivial

/-- As long as the stack does not become empty, its bottom stays. -/
theorem getLast?_hold (admits : move.before.Admits move.step) (nests : move.Nests held)
    (some : held ≠ []) (remain : move.hold held ≠ []) :
    (move.hold held).getLast? = held.getLast? := by
  cases acts move admits with
  | takes lock taken ungiven exist free after =>
    simp only [hold, taken]
    rw [List.getLast?_cons_of_ne_nil some]
  | gives lock saved untaken given step found after =>
    obtain ⟨top, rest, rfl, rfl, erased⟩ := exists_top nests step
    simp only [hold, untaken, given, erased] at remain ⊢
    rw [List.getLast?_cons_of_ne_nil remain]
  | spares untaken ungiven locks interrupts => simp only [hold, untaken, ungiven]

/-- The move that empties the stack restores the flag that its bottom had saved. -/
theorem interrupts_of_emptied {bottom : Acquisition} (records : move.before.processor.Records held)
    (admits : move.before.Admits move.step) (nests : move.Nests held)
    (last : held.getLast? = some bottom) (emptied : move.hold held = []) :
    move.after.processor.interrupts = bottom.interrupts := by
  cases acts move admits with
  | takes lock taken ungiven exist free after => simp [hold, taken] at emptied
  | gives lock saved untaken given step found after =>
    obtain ⟨top, rest, rfl, rfl, erased⟩ := exists_top nests step
    obtain rfl : rest = [] := by simpa [hold, untaken, given, erased] using emptied
    obtain rfl : top = bottom := by simpa using last
    have own := (records.saved top (List.mem_cons_self ..)).symm.trans found
    obtain rfl : top.interrupts = saved := by simpa using own
    simp [after]
  | spares untaken ungiven locks interrupts =>
    simp only [hold, untaken, ungiven] at emptied
    simp [emptied] at last

end LockMove

namespace LockRun

variable {start bench : LockBench} {moves : List LockMove}

/-- In a history that respects the stack the saved flags lie above each other, by induction on the
history. -/
theorem isStack (run : LockRun start moves bench)
    (free : ∀ lock, start.processor.isHeld lock = false) (nested : Nested moves) :
    IsStack bench.processor.interrupts (outstanding moves) := by
  induction run with
  | nil => trivial
  | step run step admits ih =>
    obtain ⟨nested, nests⟩ := nested_concat_iff.mp nested
    rw [outstanding_concat]
    exact LockMove.isStack_hold (run.records free) admits nests (ih nested)

/-- Throughout a nest of acquisitions the outermost one lies at the bottom of the stack. -/
theorem getLast?_outstanding {before nest : List LockMove} {opening : LockMove}
    (run : LockRun start (before ++ opening :: nest) bench)
    (nested : Nested (before ++ opening :: nest)) (idle : outstanding before = [])
    (holds : ∀ part, part <+: nest → outstanding (before ++ opening :: part) ≠ []) :
    ∃ lock, (outstanding (before ++ opening :: nest)).getLast? =
      some ⟨lock, opening.before.processor.interrupts⟩ := by
  induction nest using List.reverseRecOn generalizing bench with
  | nil =>
    have opens := holds [] (List.prefix_refl [])
    rw [outstanding_concat, idle] at opens ⊢
    cases LockMove.acts opening run.of_concat.2.1 with
    | takes lock taken ungiven exist free after => exact ⟨lock, by simp [LockMove.hold, taken]⟩
    | gives lock saved untaken given step found after =>
      simp [LockMove.hold, untaken, given] at opens
    | spares untaken ungiven locks interrupts => simp [LockMove.hold, untaken, ungiven] at opens
  | append_singleton nest move ih =>
    have remain := holds (nest ++ [move]) (List.prefix_refl _)
    have some := holds nest (List.prefix_append ..)
    rw [← List.cons_append, ← List.append_assoc] at run nested remain ⊢
    obtain ⟨nested, nests⟩ := nested_concat_iff.mp nested
    obtain ⟨run, admits, -⟩ := run.of_concat
    obtain ⟨lock, bottom⟩ := ih run nested fun part shorter =>
      holds part (shorter.trans (List.prefix_append ..))
    rw [outstanding_concat] at remain ⊢
    exact ⟨lock, (LockMove.getLast?_hold admits nests some remain).trans bottom⟩

end LockRun

/-! ## The discipline -/

/-- What a history of any number of locks, all free at first, guarantees at the bench it reaches. -/
structure KeepsInterrupts (moves : List LockMove) (bench : LockBench) : Prop where
  /-- A lock is held by at most one acquisition at a time. -/
  exclusive : ((outstanding moves).map (·.lock)).Nodup
  /-- A lock counts as held exactly while one of its acquisitions is in force. -/
  isHeld_iff : ∀ lock,
    bench.processor.isHeld lock = true ↔ lock ∈ (outstanding moves).map (·.lock)
  /-- Waiting for a free lock ends with the lock taken. -/
  takes : ∀ {earlier move later lock}, moves = earlier ++ move :: later →
    move.step = .lock lock → move.taken? = some lock
  /-- A try takes a free lock; on a held one it fails, and then the flag and all locks, what they
  saved included, are as before. -/
  tries : ∀ {earlier move later lock}, moves = earlier ++ move :: later →
    move.step = .tryLock lock →
    (move.before.processor.isHeld lock = false → move.taken? = some lock) ∧
    (move.before.processor.isHeld lock = true →
      move.answer = .verdict false ∧ move.after = move.before)
  /-- Whatever the order of release, giving up a lock sets the flag to what it was just before the
  acquisition that it ends. -/
  restores : ∀ {earlier move later lock}, moves = earlier ++ move :: later →
    move.step = .unlock lock →
    ∃ taking, TakenLast earlier lock taking ∧
      move.after.processor.interrupts = taking.before.processor.interrupts
  /-- In a nested history interrupts are disabled while any lock is held. -/
  disables : Nested moves → outstanding moves ≠ [] → bench.processor.interrupts = false
  /-- In a nested history the flag regains, when the last held lock is given up, the value it had
  before the outermost acquisition. -/
  regains : Nested moves → ∀ {before opening nest closing},
    moves = before ++ opening :: (nest ++ [closing]) → outstanding before = [] →
    (∀ part, part <+: nest → outstanding (before ++ opening :: part) ≠ []) →
    outstanding moves = [] → bench.processor.interrupts = opening.before.processor.interrupts

namespace LockRun

variable {start bench : LockBench} {moves : List LockMove}

/-- Once every lock that was taken since is given up again, the interrupt flag is what the outermost
acquisition found. -/
theorem interrupts_of_closed {before nest : List LockMove} {opening closing : LockMove}
    (run : LockRun start (before ++ opening :: (nest ++ [closing])) bench)
    (free : ∀ lock, start.processor.isHeld lock = false)
    (nested : Nested (before ++ opening :: (nest ++ [closing]))) (idle : outstanding before = [])
    (holds : ∀ part, part <+: nest → outstanding (before ++ opening :: part) ≠ [])
    (closed : outstanding (before ++ opening :: (nest ++ [closing])) = []) :
    bench.processor.interrupts = opening.before.processor.interrupts := by
  rw [← List.cons_append, ← List.append_assoc] at run nested closed
  obtain ⟨nested, nests⟩ := nested_concat_iff.mp nested
  obtain ⟨reached, admits, rfl⟩ := run.of_concat
  obtain ⟨lock, bottom⟩ := reached.getLast?_outstanding nested idle holds
  rw [outstanding_concat] at closed
  exact LockMove.interrupts_of_emptied (reached.records free) admits nests bottom closed

/-- Locks keep interrupts off while they are held and restore them exactly, however many there are
and however they are reused. -/
theorem keepsInterrupts (run : LockRun start moves bench)
    (free : ∀ lock, start.processor.isHeld lock = false) : KeepsInterrupts moves bench where
  exclusive := (run.records free).nodup
  isHeld_iff _ := (run.records free).isHeld_iff
  takes := by
    rintro earlier ⟨bench, _⟩ later lock rfl rfl
    have free := run.split.2.2
    simp [LockMove.taken?, LockMove.answer, LockBench.perform, Processor.lock_of_free free]
  tries := by
    rintro earlier ⟨bench, _⟩ later lock rfl rfl
    constructor
    · intro free
      simp [LockMove.taken?, LockMove.answer, LockBench.perform, Processor.tryLock_of_free free]
    · intro held
      have failed := LockMove.perform_tryLock_of_held held
      exact ⟨congrArg Prod.fst failed, congrArg Prod.snd failed⟩
  restores := by
    rintro earlier move later lock rfl step
    exact run.split.1.restores free run.split.2 step
  disables nested some := by
    have stack := run.isStack free nested
    obtain ⟨latest, rest, held⟩ := List.exists_cons_of_ne_nil some
    rw [held] at stack
    exact stack.1
  regains nested := by
    rintro before opening nest closing rfl idle holds closed
    exact run.interrupts_of_closed free nested idle holds closed

/-- Two locks are taken in one order and then in the other; in between a try on a held lock fails
and somebody else disables interrupts, so the second nest leaves them off. -/
theorem keepsInterrupts_reused : ∃ moves bench, LockRun (.ofCount 2) moves bench ∧
    moves.map (·.step) = [.lock 0, .tryLock 1, .tryLock 0, .unlock 1, .unlock 0,
      .setInterrupts false, .lock 1, .lock 0, .unlock 0, .unlock 1] ∧
    Nested moves ∧ KeepsInterrupts moves bench := by
  have start : LockRun (.ofCount 2) [] (.ofCount 2) := .nil
  have outer := ((start.step (.lock 0) (by decide)).step (.tryLock 1) (by decide)).step
    (.tryLock 0) (by decide)
  have closed := ((outer.step (.unlock 1) (by decide)).step (.unlock 0) (by decide)).step
    (.setInterrupts false) (by decide)
  have again := ((closed.step (.lock 1) (by decide)).step (.lock 0) (by decide)).step
    (.unlock 0) (by decide)
  exact ⟨_, _, again.step (.unlock 1) (by decide), rfl,
    by simp only [nested_concat_iff, nested_nil]; decide,
    keepsInterrupts (again.step (.unlock 1) (by decide)) fun _ => LockBench.isHeld_ofCount⟩

end LockRun

end DemandPaging

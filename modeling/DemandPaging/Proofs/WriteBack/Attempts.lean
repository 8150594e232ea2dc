import DemandPaging.Proofs.Conduct
import DemandPaging.Proofs.Keeping

/-!
# Attempts to write back

Every attempt to write to a file is recorded before anything can go wrong with it. A page owes an
attempt when its residency ends, if it is a page of a file that was written to and has bytes from the
file: its first bytes are to be written to its place. The attempts of a way are what the pages owed
whose residency ended on it, in order.
-/

namespace DemandPaging

namespace Action

variable {State Value Next Entry : Type}

/-- Catching an error turns it into a result, in the state where it occurred. -/
theorem attempt_eq_done_iff {action : Action State Value} {state last : State}
    {result : Except VmError Value} :
    action.attempt state = .done result last ↔
      (∃ value, result = .ok value ∧ action state = .done value last) ∨
        ∃ error, result = .error error ∧ action state = .failed error last := by
  unfold Action.attempt
  cases action state with
  | done value middle =>
    constructor
    · intro same
      cases same
      exact .inl ⟨value, rfl, rfl⟩
    · rintro (⟨_, rfl, same⟩ | ⟨_, _, same⟩) <;> cases same
      rfl
  | failed error middle =>
    constructor
    · intro same
      cases same
      exact .inr ⟨error, rfl, rfl⟩
    · rintro (⟨_, _, same⟩ | ⟨_, rfl, same⟩) <;> cases same
      rfl
  | panicked panic middle =>
    constructor
    · exact nofun
    · rintro (⟨_, _, same⟩ | ⟨_, _, same⟩) <;> cases same

/-- A panic is not caught. -/
theorem attempt_eq_panicked_iff {action : Action State Value} {state last : State} {panic : Panic} :
    action.attempt state = .panicked panic last ↔ action state = .panicked panic last := by
  unfold Action.attempt
  cases action state with
  | done | failed => exact ⟨nofun, nofun⟩
  | panicked => exact .of_eq (by simp only [Outcome.panicked.injEq])

/-- However an action ends, it adds entries to what is seen of the state. -/
structure Appends (look : State → List Entry) (added : List Entry) (action : Action State Value) :
    Prop where
  same : ∀ state, look (action state).state = look state ++ added

variable {look : State → List Entry} {added : List Entry}

/-- To keep a view is to append nothing to it. -/
theorem Keeps.appends {action : Action State Value} (keeps : action.Keeps look) :
    action.Appends look [] :=
  ⟨fun state => (keeps.same state).trans (List.append_nil _).symm⟩

namespace Appends

theorem of_done {action : Action State Value} {state later : State} {value : Value}
    (appends : action.Appends look added) (done : action state = .done value later) :
    look later = look state ++ added := by
  have same := appends.same state
  rwa [done] at same

theorem of_panicked {action : Action State Value} {state last : State} {panic : Panic}
    (appends : action.Appends look added) (panicked : action state = .panicked panic last) :
    look last = look state ++ added := by
  have same := appends.same state
  rwa [panicked] at same

/-- A sequence appends what its first part appends if the second one keeps the view. -/
theorem bind {first : Action State Value} {next : Value → Action State Next}
    (before : first.Appends look added) (after : ∀ value, (next value).Keeps look) :
    (first >>= next).Appends look added := by
  refine ⟨fun state => ?_⟩
  have first' := before.same state
  rw [bind_apply]
  cases outcome : first state with
  | done value middle =>
    rw [outcome] at first'
    exact ((after value).same middle).trans first'
  | failed | panicked =>
    rw [outcome] at first'
    exact first'

/-- Catching the error of an action does not undo what it has appended. -/
theorem attempt {action : Action State Value} (appends : action.Appends look added) :
    action.attempt.Appends look added := by
  refine ⟨fun state => (appends.same state).symm.trans ?_ |>.symm⟩
  unfold Action.attempt
  cases action state <;> rfl

end Appends

end Action

/-- Whether an event is an attempt to write to a file. -/
def Event.isWriteBack : Event → Bool
  | .writingBack .. => true
  | _ => false

/-- A mere report is no attempt to write. -/
theorem Event.isWriteBack_of_isNote {event : Event} (isNote : event.isNote = true) :
    event.isWriteBack = false := by
  cases event <;> first | rfl | cases isNote

variable {config : Config}

namespace Environment

/-- The attempts to write to files, in the order in which they were made. -/
def writeAttempts (environment : Environment config) : List Event :=
  environment.history.toList.filter Event.isWriteBack

variable {environment : Environment config}

/-- Other events leave the list of attempts as it is. -/
theorem writeAttempts_record {event : Event} (other : event.isWriteBack = false) :
    (environment.record event).writeAttempts = environment.writeAttempts := by
  simp [writeAttempts, record, other]

/-- An attempt to write is the last of the list once it is reported. -/
theorem writeAttempts_record_writingBack {handle : FileHandle} {offset : Word} {bytes : Bytes} :
    (environment.record (.writingBack handle offset bytes)).writeAttempts =
      environment.writeAttempts ++ [.writingBack handle offset bytes] := by
  simp [writeAttempts, record, Event.isWriteBack]

theorem ignoresLoading_writeAttempts : IgnoresLoading (@writeAttempts config) where
  swap _ _ := rfl
  files _ _ := rfl
  runs _ _ := rfl
  initializing _ _ _ := writeAttempts_record rfl
  reading _ _ _ _ := writeAttempts_record rfl
  shortRead _ _ _ _ := writeAttempts_record rfl

end Environment

/-! ## What pages owe -/

/-- The attempt that the content of a frame owes to a file when the page loses the frame. -/
def PageKind.owed (kind : PageKind config) (bytes : PageBytes config) (dirty : Bool) : List Event :=
  match kind with
  | .file backing =>
    if dirty = true ∧ backing.readBytes ≠ 0 then
      [.writingBack backing.handle backing.offset (backing.portion bytes)]
    else []
  | _ => []

namespace Machine

variable (machine : Machine config)

/-- The attempts to write to files, in the order in which they were made. -/
def writeAttempts : List Event := machine.environment.writeAttempts

/-- The attempt that a page owes when its residency ends. A page that is not resident owes nothing. -/
def owed (key : SpaceKey) (number : PageNumber) : List Event :=
  match machine.page? key number with
  | none => []
  | some page =>
    match page.frame with
    | none => []
    | some frame => page.kind.owed (machine.frameBytes frame) ((machine.space key).isDirty number)

variable {machine} {key : SpaceKey} {number : PageNumber}

/-- What a resident page owes depends on its kind, its bytes, and whether it was written to. -/
theorem owed_of_resident {page : Page config} {frame : FrameNumber}
    (found : machine.page? key number = some page) (resident : page.frame = some frame) :
    machine.owed key number =
      page.kind.owed (machine.frameBytes frame) ((machine.space key).isDirty number) := by
  simp only [owed, found, resident]

/-- A page without a frame owes nothing. -/
theorem owed_of_absent {page : Page config} (found : machine.page? key number = some page)
    (absent : page.frame = none) : machine.owed key number = [] := by
  simp only [owed, found, absent]

end Machine

/-- What a transition owes to files: it ends the residency of one page at most. -/
def Move.owed (move : Move config) : List Event :=
  match move.transition with
  | .evict key number _ | .discard key number => move.before.owed key number
  | _ => []

@[simp] theorem Move.owed_evict {machine : Machine config} {key : SpaceKey} {number : PageNumber}
    {frame : FrameNumber} :
    Move.owed ⟨machine, .evict key number frame⟩ = machine.owed key number := rfl

@[simp] theorem Move.owed_discard {machine : Machine config} {key : SpaceKey} {number : PageNumber} :
    Move.owed ⟨machine, .discard key number⟩ = machine.owed key number := rfl

/-! ## What the kernel attempts -/

/-- A write-back makes the attempt that the page owes, no matter how the device answers. -/
theorem FileBacking.appends_writeBack (backing : FileBacking config) (bytes : PageBytes config) :
    (backing.writeBack bytes).Appends Environment.writeAttempts
      ((PageKind.file backing).owed bytes true) := by
  unfold writeBack
  by_cases empty : backing.readBytes = 0
  · rw [if_pos empty, PageKind.owed, if_neg fun owes => owes.2 empty]
    exact (Action.Keeps.pure ()).appends
  rw [if_neg empty, PageKind.owed, if_pos ⟨rfl, empty⟩]
  obtain ⟨rest, same, keeps⟩ := EnvironmentAction.writeFile_eq Environment.writeAttempts
    backing.handle backing.offset (bytes.slice 0 backing.readBytes)
  rw [same]
  have records : Action.Appends Environment.writeAttempts
      [.writingBack backing.handle backing.offset (backing.portion bytes)]
      (EnvironmentAction.record (.writingBack backing.handle backing.offset
        (bytes.slice 0 backing.readBytes)) : EnvironmentAction config Unit) :=
    ⟨fun _ => Environment.writeAttempts_record_writingBack⟩
  refine (records.bind fun _ => keeps fun _ _ => rfl).bind fun count => ?_
  split
  · exact .pure _
  · exact .bind (.change fun _ => Environment.writeAttempts_record rfl) fun _ => .fail _

namespace PageKind

variable {kind : PageKind config} {bytes : PageBytes config} {dirty : Bool}

/-- Saving a page attempts what the page owes, whether or not it succeeds. -/
theorem appends_store (number : PageNumber) :
    (kind.store number bytes dirty).Appends Environment.writeAttempts (kind.owed bytes dirty) := by
  match kind, dirty with
  | .unloaded _ _, _ => exact (Action.Keeps.halt _).appends
  | .anonymous slot, _ =>
    refine Action.Keeps.appends (.bind (.assert _ _) fun _ => ?_)
    split
    · exact .pure _
    · exact .bind (EnvironmentAction.keeps_swapOut bytes fun _ _ => rfl) fun _ => .pure _
  | .file backing, false => exact (Action.Keeps.pure _).appends
  | .file backing, true =>
    refine (backing.appends_writeBack bytes).attempt.bind fun result => ?_
    split
    · exact .pure _
    · exact .halt _

/-- Ending a resident page attempts what the page owes. -/
theorem appends_discard :
    (kind.discard (some (bytes, dirty))).Appends Environment.writeAttempts
      (kind.owed bytes dirty) := by
  match kind, dirty with
  | .unloaded _ _, _ => exact (Action.Keeps.pure _).appends
  | .anonymous none, _ => exact (Action.Keeps.pure _).appends
  | .anonymous (some slot), _ =>
    exact (EnvironmentAction.keeps_freeSlot slot fun _ _ => rfl).appends
  | .file backing, false => exact (Action.Keeps.pure _).appends
  | .file backing, true => exact backing.appends_writeBack bytes

/-- Ending a page that is not resident attempts nothing. -/
theorem keeps_discard_absent : (kind.discard none).Keeps Environment.writeAttempts := by
  match kind with
  | .unloaded _ _ => exact .pure _
  | .anonymous none => exact .pure _
  | .anonymous (some slot) => exact EnvironmentAction.keeps_freeSlot slot fun _ _ => rfl
  | .file _ => exact .pure _

end PageKind

/-! ## What transitions attempt -/

namespace Transition

open Machine

variable {transition : Transition config} {machine next : Machine config}

/-- A transition attempts what it owes, and nothing else. -/
theorem Leads.writeAttempts_eq (leads : transition.Leads machine next) :
    next.writeAttempts = machine.writeAttempts ++ Move.owed ⟨machine, transition⟩ := by
  have kept : next.environment.writeAttempts = machine.environment.writeAttempts →
      next.writeAttempts = machine.writeAttempts ++ [] :=
    fun same => same.trans (List.append_nil _).symm
  cases leads with
  | note isNote => exact kept (Environment.writeAttempts_record (Event.isWriteBack_of_isNote isNote))
  | take =>
    apply kept
    rw [environment_take]
    exact Environment.writeAttempts_record rfl
  | register | unregister | store | set | forget | setFile | createFile | listInitializer
  | setSwapFaults | lend | reclaim => exact kept rfl
  | release => exact kept (congrArg _ environment_release)
  | pin => exact kept (congrArg _ (environment_updateTable ..))
  | create => exact kept (congrArg _ environment_addSpace)
  | copy =>
    apply kept
    rw [environment_settleCopy]
    exact Environment.writeAttempts_record rfl
  | @evict _ key page frame remaining _ _ _ _ found resident stored =>
    have appended := (PageKind.appends_store page.number).of_done stored
    rw [environment_beforeStore, Environment.writeAttempts_record rfl,
      Environment.writeAttempts_record rfl] at appended
    rw [writeAttempts, environment_vacate, Move.owed_evict, owed_of_resident found resident]
    exact appended
  | load _ _ _ loaded =>
    have same := (PageKind.keeps_load Environment.ignoresLoading_writeAttempts _ _).of_done loaded
    apply kept
    rw [environment_settleLoaded, Environment.writeAttempts_record rfl]
    exact same.trans (Environment.writeAttempts_record rfl)
  | spoil _ _ _ failed =>
    have same := (PageKind.keeps_load Environment.ignoresLoading_writeAttempts _ _).of_failed failed
    apply kept
    exact (Environment.writeAttempts_record rfl).trans
      (same.trans (Environment.writeAttempts_record rfl))
  | discard found absent ended =>
    have same := PageKind.keeps_discard_absent.of_done ended
    rw [Move.owed_discard, owed_of_absent found absent]
    exact kept same
  | discardResident found resident ended =>
    have appended := PageKind.appends_discard.attempt.of_done ended
    rw [writeAttempts, environment_endResident, Move.owed_discard, owed_of_resident found resident]
    exact appended

end Transition

/-- The attempts of a way are what its transitions owed. -/
theorem Trail.writeAttempts_eq {start last : Machine config} {moves : List (Move config)}
    (trail : Trail start moves last) :
    last.writeAttempts = start.writeAttempts ++ moves.flatMap Move.owed := by
  induction trail with
  | refl => simp
  | step _ leads inductionHypothesis =>
    rw [leads.writeAttempts_eq, inductionHypothesis, List.flatMap_append, List.append_assoc]
    simp

end DemandPaging

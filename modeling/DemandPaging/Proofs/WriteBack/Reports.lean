import DemandPaging.Proofs.Acquisition
import DemandPaging.Proofs.WriteBack.Storing

/-!
# Reports of failed write-backs

A write-back that fails, or that the file takes in part only, does not pass unnoticed. Where a page is
evicted the kernel stops; where a page is removed the caller gets the error; and where a space is torn down
the history names each page whose content was lost. How an attempt ends depends on when it is made, so the
pages that end one after the other have their turns, each with its moment.
-/

namespace DemandPaging

variable {config : Config}

/-! ## Turns -/

/-- The turn of a page to end: what the page owes is attempted at the moment. -/
structure Turn where
  page : PageNumber
  moment : Nat

namespace Machine

/-- The error with which the content of a page is lost if the page ends in this turn, unless it can be
saved. -/
def loss? (machine : Machine config) (key : SpaceKey) (turn : Turn) : Option VmError :=
  machine.environment.loss? (machine.owed key turn.page) turn.moment

/-- The turns of pages that end one after the other, when the first attempt is made at a moment. -/
def turnsFrom (machine : Machine config) (key : SpaceKey) (moment : Nat) : List PageNumber → List Turn
  | [] => []
  | number :: rest =>
    ⟨number, moment⟩ :: machine.turnsFrom key (moment + (machine.owed key number).length) rest

/-- The turns of pages that end from now on. -/
def turns (machine : Machine config) (key : SpaceKey) (numbers : List PageNumber) : List Turn :=
  machine.turnsFrom key (machine.environment.moment + 1) numbers

variable {machine later : Machine config} {key : SpaceKey} {moment : Nat}
  {numbers gone further : List PageNumber}

/-- Every page of a list has one turn, and the turns follow the list. -/
@[simp] theorem map_page_turnsFrom :
    (machine.turnsFrom key moment numbers).map Turn.page = numbers := by
  induction numbers generalizing moment with
  | nil => rfl
  | cons number rest inductionHypothesis => rw [turnsFrom, List.map_cons, inductionHypothesis]

/-- Only the pages of the list have a turn. -/
theorem mem_of_turn {turn : Turn} (listed : turn ∈ machine.turnsFrom key moment numbers) :
    turn.page ∈ numbers := by
  rw [← @map_page_turnsFrom _ machine key moment numbers]
  exact List.mem_map_of_mem listed

/-- The turns of two lists follow on each other: the second one begins when the attempts of the
first have been made. -/
theorem turnsFrom_append :
    machine.turnsFrom key moment (gone ++ further) = machine.turnsFrom key moment gone ++
      machine.turnsFrom key (moment + (gone.flatMap (machine.owed key)).length) further := by
  induction gone generalizing moment with
  | nil => rfl
  | cons number rest inductionHypothesis =>
    rw [List.cons_append, turnsFrom, turnsFrom, inductionHypothesis, List.flatMap_cons,
      List.length_append, List.cons_append, Nat.add_assoc]

/-- The turns of pages depend on what the pages owe. -/
theorem turnsFrom_congr (same : ∀ number ∈ numbers, later.owed key number = machine.owed key number) :
    later.turnsFrom key moment numbers = machine.turnsFrom key moment numbers := by
  induction numbers generalizing moment with
  | nil => rfl
  | cons number rest inductionHypothesis =>
    obtain ⟨here, behind⟩ := List.forall_mem_cons.mp same
    rw [turnsFrom, turnsFrom, here, inductionHypothesis behind]

/-! ## Pages that can be saved -/

/-- A page without a frame has no content to lose. -/
theorem loss?_of_absent {page : Page config} (found : machine.page? key page.number = some page)
    (absent : page.frame = none) : machine.loss? key ⟨page.number, moment⟩ = none := by
  rw [loss?, owed_of_absent found absent, Environment.loss?_nil]

/-- What is not registered has no content to lose. -/
theorem loss?_of_vacant {number : PageNumber} (vacant : machine.page? key number = none) :
    machine.loss? key ⟨number, moment⟩ = none := by
  rw [loss?, owed, vacant, Environment.loss?_nil]

/-- Whether a resident page loses its content is a question of what it owes. -/
theorem loss?_of_resident {page : Page config} {frame : FrameNumber}
    (found : machine.page? key page.number = some page) (resident : page.frame = some frame) :
    machine.loss? key ⟨page.number, moment⟩ = machine.environment.loss?
      (page.kind.owed (machine.frameBytes frame) ((machine.space key).isDirty page.number)) moment := by
  rw [loss?, owed_of_resident found resident]

/-- A page on a file whose failures do no harm can be saved at any moment. -/
theorem loss?_of_harmless {number : PageNumber} {page : Page config} {backing : FileBacking config}
    (found : machine.page? key number = some page) (uses : page.kind.backing? = some backing)
    (harmless : (machine.environment.file backing.handle.file).faults.AreHarmless) :
    machine.loss? key ⟨number, moment⟩ = none := by
  cases resident : page.frame with
  | none => rw [loss?, owed_of_absent found resident, Environment.loss?_nil]
  | some frame =>
    rw [loss?, owed_of_resident found resident]
    exact PageKind.loss?_of_harmless uses harmless moment

end Machine

namespace Transition

open Machine

variable {transition : Transition config} {machine next : Machine config} {key : SpaceKey}
  {number : PageNumber}

/-- A page that is not touched owes what it owed. -/
theorem Leads.owed_eq (leads : transition.Leads machine next) (consistent : machine.Consistent)
    (untouched : ¬ transition.Touches key number) : next.owed key number = machine.owed key number := by
  obtain ⟨pages, entries⟩ := leads.untouched consistent untouched
  cases found : machine.page? key number with
  | none => rw [owed, owed, pages, found]
  | some page =>
    have foundNext := pages.trans found
    cases resident : page.frame with
    | none => rw [owed_of_absent found resident, owed_of_absent foundNext resident]
    | some frame =>
      have holds : machine.frame? key number = some frame := by rw [frame?, found]; exact resident
      have kept : next.frame? key number = some frame := by rw [frame?, foundNext]; exact resident
      have unstored : ∀ position piece, transition ≠ .store key number position piece := by
        rintro position piece rfl
        exact untouched ⟨rfl, rfl⟩
      rw [owed_of_resident found resident, owed_of_resident foundNext resident,
        leads.frameBytes_eq consistent holds kept unstored, isDirty_congr entries]

end Transition

/-! ## Evictions -/

namespace Machine

/-- The turn of a page to be evicted: what it owes is attempted next after the request for its frame. -/
def evictionTurn (machine : Machine config) (number : PageNumber) : Turn :=
  ⟨number, machine.environment.moment + 2⟩

/-- Why no frame can be had, and what happened before that was known: either there is no page that can
be evicted, or one page owes what cannot be taken, and the attempt was made. -/
inductive LacksRoom (machine : Machine config) (subsystem : Subsystem) :
    Panic → Machine config → Prop where
  | exhausted {last : Machine config} (files : last.environment.files = machine.environment.files)
      (attempts : last.writeAttempts = machine.writeAttempts) :
    LacksRoom machine subsystem .outOfFrames last
  | unsaved {key : SpaceKey} {number : PageNumber} {frame : FrameNumber} {panic : Panic}
      {last : Machine config} (home : key.subsystem = subsystem)
      (holds : machine.frame? key number = some frame)
      (attempts : last.writeAttempts = machine.writeAttempts ++ machine.owed key number)
      (files : ∀ id, (last.environment.file id).data = (machine.environment.file id).data ∨
        machine.WritesBack last key number id)
      (blames : ∀ error, panic = .writeBackFailed number error ↔
        machine.loss? key (machine.evictionTurn number) = some error) :
    LacksRoom machine subsystem panic last

end Machine

/-- A page is evicted only if it can be saved. -/
theorem Transition.Leads.loss?_of_evict {machine next : Machine config} {key : SpaceKey}
    {number : PageNumber} {frame : FrameNumber}
    (leads : (Transition.evict key number frame).Leads machine next) :
    machine.loss? key (machine.evictionTurn number) = none := by
  cases leads with
  | evict _ _ found resident stored =>
    rw [Machine.environment_beforeStore] at stored
    rw [Machine.evictionTurn, Machine.loss?_of_resident found resident]
    exact PageKind.loss?_of_stored stored

open Machine in
/-- If no frame can be had, the kernel has tried to save one page at most, and says so if its file did
not take what the page owes. -/
theorem KernelAction.acquireFrame_stops {machine last : Machine config} {subsystem : Subsystem}
    {held : List SpaceKey} {panic : Panic} (consistent : machine.Consistent)
    (stopped : acquireFrame subsystem held machine = .panicked panic last) :
    machine.LacksRoom subsystem panic last := by
  cases (acquireFrame_eq_panicked_iff consistent).mp stopped with
  | exhausted => exact .exhausted rfl (Environment.writeAttempts_record rfl)
  | @unstored key page _ _ _ _ _ home _ found resident unstored =>
    have isLoaded := consistent.fits.isLoaded found resident
    rw [environment_beforeStore] at unstored
    have rewrites := PageKind.rewrites_of_unstored isLoaded unstored
    have appended := (PageKind.appends_store page.number).of_panicked unstored
    rw [Environment.writeAttempts_record rfl, Environment.writeAttempts_record rfl] at appended
    apply LacksRoom.unsaved home ((frame?_of_found found).trans resident)
    · rw [owed_of_resident found resident]
      exact appended
    · intro id
      rcases rewrites.of_record.of_record id with same | ⟨backing, isFile, rfl, owes, patches⟩
      · exact .inl same
      · rw [← owed_of_resident found resident] at owes
        exact .inr (.intro found resident isFile owes patches)
    · intro error
      rw [evictionTurn, loss?_of_resident found resident]
      exact ((PageKind.store_stops_iff isLoaded).mp ⟨_, unstored⟩).eq_writeBackFailed_iff error

/-! ## Removals -/

namespace KernelAction

open Machine

variable {machine : Machine config} {key : SpaceKey}

/-- The removal of a page ends as the attempt to save the page does. -/
theorem removePage_settles (consistent : machine.Consistent) {page : Page config}
    (found : machine.page? key page.number = some page) :
    (removePage key page.number).Ends machine
      (fun _ later => (Transition.discard key page.number).Leads machine later ∧
        machine.loss? key ⟨page.number, machine.environment.moment + 1⟩ = none)
      (fun error later => (Transition.discard key page.number).Leads machine later ∧
        machine.loss? key ⟨page.number, machine.environment.moment + 1⟩ = some error) := by
  refine (removePage_answers consistent found).mono ?_ ?_
  · rintro _ later ⟨leads, saved⟩
    refine ⟨leads, ?_⟩
    cases resident : page.frame with
    | none => exact loss?_of_absent found resident
    | some frame =>
      have isLoaded := consistent.fits.isLoaded found resident
      obtain ⟨environment, done⟩ := saved frame resident
      rw [loss?_of_resident found resident]
      exact ((PageKind.discard_resident_delivers isLoaded _ _ _).of_done done).2
  · rintro error later ⟨leads, frame, environment, resident, failed⟩
    have isLoaded := consistent.fits.isLoaded found resident
    rw [loss?_of_resident found resident]
    exact ⟨leads, ((PageKind.discard_resident_delivers isLoaded _ _ _).of_failed failed).2⟩

end KernelAction

/-! ## Losses of a teardown -/

/-- Whether an event reports that the content of a page was lost. -/
def Event.isLoss : Event → Bool
  | .teardownFailed .. => true
  | _ => false

/-- The reports of lost pages, in the order in which they were made. -/
def Environment.losses (environment : Environment config) : List Event :=
  environment.history.toList.filter Event.isLoss

/-- Other events leave the list of losses as it is. -/
theorem Environment.losses_record_of_not {environment : Environment config} {event : Event}
    (other : event.isLoss = false) : (environment.record event).losses = environment.losses := by
  simp [losses, record, other]

/-- A loss is the last of the list once it is reported. -/
theorem Environment.losses_record_teardownFailed {environment : Environment config}
    {number : PageNumber} {error : VmError} :
    (environment.record (.teardownFailed number error)).losses =
      environment.losses ++ [.teardownFailed number error] := by
  simp [losses, record, Event.isLoss]

theorem Environment.ignoresSaving_losses : IgnoresSaving (@losses config) where
  swap _ _ := rfl
  files _ _ := rfl
  writing _ _ _ _ := losses_record_of_not rfl
  shortWrite _ _ _ _ := losses_record_of_not rfl

namespace Machine

/-- The reports of lost pages, in the order in which they were made. -/
def losses (machine : Machine config) : List Event := machine.environment.losses

end Machine

/-- Discarding a page reports nothing of its own. -/
theorem Transition.Leads.losses_eq {machine next : Machine config} {key : SpaceKey}
    {number : PageNumber} (leads : (Transition.discard key number).Leads machine next) :
    next.losses = machine.losses := by
  cases leads with
  | discard _ _ ended => exact (PageKind.keeps_discard Environment.ignoresSaving_losses _ _).of_done ended
  | discardResident _ _ ended =>
    rw [Machine.losses, Machine.environment_endResident]
    exact (PageKind.keeps_discard Environment.ignoresSaving_losses _ _).attempt.of_done ended

namespace Machine

/-- The report that the content of a page is lost if the page ends in this turn, unless it can be saved. -/
def lossReport? (machine : Machine config) (key : SpaceKey) (turn : Turn) : Option Event :=
  (machine.loss? key turn).map (.teardownFailed turn.page)

end Machine

end DemandPaging

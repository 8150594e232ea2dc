import DemandPaging.Proofs.FileBytes
import DemandPaging.Proofs.Materialisation
import DemandPaging.Proofs.WriteBack.Attempts
import DemandPaging.Proofs.WriteBack.Residence

/-!
# Permissions of pages

A page keeps the permission that it was registered with until it is withdrawn, and a copied page has the
permission of its model. Bytes are stored in writable pages only, and a copy counts as written to only
if its model does, so a read-only page never counts as written to and never owes anything to a file.
-/

namespace DemandPaging

variable {config : Config}

namespace Machine

/-- Whether a registered page may be written to. -/
def permission? (machine : Machine config) (key : SpaceKey) (number : PageNumber) : Option Bool :=
  (machine.page? key number).map Page.writable

variable {machine later : Machine config} {key : SpaceKey} {number : PageNumber}

/-- The permission of a page is read from the page. -/
theorem permission?_of_found {page : Page config} (found : machine.page? key number = some page) :
    machine.permission? key number = some page.writable :=
  congrArg (Option.map Page.writable) found

/-- Only a registered page has a permission. -/
theorem exists_of_permission? {writable : Bool}
    (known : machine.permission? key number = some writable) :
    ∃ page, machine.page? key number = some page ∧ page.writable = writable :=
  Option.map_eq_some_iff.mp known

/-- The permission of a page is part of its shape. -/
theorem permission?_eq_shape? :
    machine.permission? key number = (machine.shape? key number).map Page.writable := by
  unfold permission? shape?
  cases machine.page? key number <;> rfl

/-- Pages of the same shape have the same permission. -/
theorem permission?_congr {other : SpaceKey}
    (same : later.shape? key number = machine.shape? other number) :
    later.permission? key number = machine.permission? other number := by
  rw [permission?_eq_shape?, same, ← permission?_eq_shape?]

/-- A page that is not resident does not count as written to. -/
theorem isDirty_of_absent (fits : machine.Fits) (absent : machine.frame? key number = none) :
    (machine.space key).isDirty number = false := by
  have unmapped : machine.mapped? key number = none := by
    cases found : machine.page? key number with
    | none => exact fits.entry_of_vacant found
    | some page => exact fits.entry_of_absent found ((frame?_of_found found).symm.trans absent)
  rw [isDirty_eq, unmapped]

/-- No read-only page counts as written to. -/
def ReadOnlyClean (machine : Machine config) : Prop :=
  ∀ key number, machine.permission? key number = some false →
    (machine.space key).isDirty number = false

/-- A page that counts as written to may be written to. -/
theorem ReadOnlyClean.permission?_of_isDirty (clean : machine.ReadOnlyClean)
    (found : (machine.page? key number).isSome) (dirty : (machine.space key).isDirty number = true) :
    machine.permission? key number = some true := by
  obtain ⟨page, known⟩ := Option.isSome_iff_exists.mp found
  cases writable : page.writable with
  | true => rw [permission?_of_found known, writable]
  | false =>
    have readOnly := (permission?_of_found known).trans (congrArg some writable)
    cases dirty.symm.trans (clean key number readOnly)

/-- A page that owes something to a file may be written to. -/
theorem ReadOnlyClean.permission?_of_owed (clean : machine.ReadOnlyClean) {event : Event}
    (owes : event ∈ machine.owed key number) : machine.permission? key number = some true := by
  have dirty := isDirty_of_owed (List.ne_nil_of_mem owes)
  refine clean.permission?_of_isDirty ?_ dirty
  cases found : machine.page? key number with
  | none =>
    rw [owed, found] at owes
    cases owes
  | some page => rfl

end Machine

/-- What a transition owes is owed by the page whose residency it ends. -/
theorem Move.exists_of_mem_owed {move : Move config} {event : Event} (owed : event ∈ move.owed) :
    ∃ key number, move.transition.EndsResidency key number ∧
      event ∈ move.before.owed key number := by
  unfold Move.owed at owed
  split at owed
  · next key number frame isEvict => exact ⟨key, number, .inl ⟨frame, isEvict⟩, owed⟩
  · next key number isDiscard => exact ⟨key, number, .inr isDiscard, owed⟩
  · cases owed

namespace Transition

open Machine

variable {transition : Transition config} {machine next : Machine config} {key : SpaceKey}
  {number : PageNumber}

/-- A page keeps its permission until it is withdrawn. -/
theorem Leads.permission?_eq (leads : transition.Leads machine next)
    (consistent : machine.Consistent) {writable : Bool}
    (known : machine.permission? key number = some writable)
    (stays : ¬ transition.Withdraws key number) : next.permission? key number = some writable := by
  obtain ⟨page, found, rfl⟩ := exists_of_permission? known
  obtain ⟨later, found', continues, _⟩ := leads.continues consistent found stays
  rw [permission?_of_found found', continues.writable]

/-- A page that was there before a transition and is there after it had the same permission. -/
theorem Leads.permission?_before (leads : transition.Leads machine next)
    (consistent : machine.Consistent) {writable : Bool}
    (known : next.permission? key number = some writable)
    (before : (machine.page? key number).isSome) :
    machine.permission? key number = some writable := by
  have stays : ¬ transition.Withdraws key number := by
    intro withdraws
    obtain ⟨_, found, _⟩ := exists_of_permission? known
    cases (leads.page?_of_withdraws withdraws).symm.trans found
  obtain ⟨page, found⟩ := Option.isSome_iff_exists.mp before
  have kept := leads.permission?_eq consistent (permission?_of_found found) stays
  rw [permission?_of_found found, ← kept, known]

/-- A page counts as written to after it became resident only if it is the copy of one that does. -/
theorem Leads.isDirty_of_makesResident (leads : transition.Leads machine next)
    (consistent : machine.Consistent) (becomes : transition.MakesResident key number)
    (clean : machine.ReadOnlyClean) (known : next.permission? key number = some false) :
    (next.space key).isDirty number = false := by
  rcases becomes with ⟨frame, rfl⟩ | ⟨parent, frame, rfl⟩
  · cases leads with
    | load found =>
      rw [isDirty_eq, mapped?_settleLoaded (isSome_of_page? found), amend_self]
      rfl
  · have there : (machine.page? key number).isSome := by
      cases leads with
      | copy _ found => exact found ▸ rfl
    have before := leads.permission?_before consistent known there
    cases leads with
    | copy model found _ provides =>
      have copied := permission?_of_found found
      rw [before] at copied
      have modelClean := clean parent _ ((permission?_of_found model).trans copied.symm)
      rw [provides.isDirty_eq consistent.fits model] at modelClean
      subst modelClean
      exact isDirty_settleCopy (isSome_of_page? found)

/-- No transition makes a read-only page count as written to. -/
theorem Leads.readOnlyClean (leads : transition.Leads machine next)
    (consistent : machine.Consistent) (clean : machine.ReadOnlyClean) : next.ReadOnlyClean := by
  intro key number known
  cases resident : next.frame? key number with
  | none => exact isDirty_of_absent (leads.consistent consistent).fits resident
  | some frame =>
    -- what is resident now has just become so, or was resident before and is dirty only if it was
    -- or is stored to
    by_cases becomes : transition.MakesResident key number
    · exact leads.isDirty_of_makesResident consistent becomes clean known
    · obtain ⟨same, dirty⟩ := leads.stays consistent (resident ▸ rfl) becomes
      obtain ⟨page, found, _⟩ := Option.bind_eq_some_iff.mp (same.symm.trans resident)
      have before := leads.permission?_before consistent known (found ▸ rfl)
      rw [← Bool.not_eq_true, dirty, clean key number before]
      rintro (absurd' | ⟨position, piece, rfl⟩)
      · cases absurd'
      · cases leads with
        | store held _ writable =>
          rw [permission?_of_found held, writable] at before
          cases before

end Transition

namespace Trail

open Machine

variable {start machine : Machine config} {moves : List (Move config)} {key : SpaceKey}
  {number : PageNumber}

/-- A page keeps its permission on every way on which it is not withdrawn. -/
theorem permission?_eq (trail : Trail start moves machine) (consistent : start.Consistent)
    {writable : Bool} (known : start.permission? key number = some writable)
    (stays : ∀ move ∈ moves, ¬ move.transition.Withdraws key number) :
    machine.permission? key number = some writable := by
  obtain ⟨page, found, rfl⟩ := exists_of_permission? known
  obtain ⟨later, found', continues, _⟩ := trail.continues consistent found stays
  rw [permission?_of_found found', continues.writable]

/-- Read-only pages do not count as written to, at the end of a way and wherever a transition of it
happened. -/
theorem readOnlyClean (trail : Trail start moves machine) (consistent : start.Consistent)
    (clean : start.ReadOnlyClean) :
    machine.ReadOnlyClean ∧ ∀ move ∈ moves, move.before.ReadOnlyClean :=
  trail.preserves_of_consistent consistent clean fun _ _ _ before cleanBefore leads =>
    leads.readOnlyClean before cleanBefore

/-- From its registration until it is withdrawn a page has the permission that it was registered
with. -/
theorem permission?_of_registered {earlier during : List (Move config)} {registration : Move config}
    {page : Page config} (trail : Trail start (earlier ++ registration :: during) machine)
    (consistent : start.Consistent) (registers : registration.transition = .register key page)
    (stays : ∀ move ∈ during, ¬ move.transition.Withdraws key page.number) :
    machine.permission? key page.number = some page.writable := by
  obtain ⟨before, next, leads, since⟩ := trail.split
  rw [registers] at leads
  have nextConsistent := leads.consistent (before.consistent consistent).1
  exact since.permission?_eq nextConsistent (permission?_of_found leads.page?_of_registers) stays

end Trail

/-! ## Copies -/

namespace Machine

/-- While a space is copied each page of the copy is as it was or has the shape of its model, and the
pages of the model keep their shapes. -/
structure Resembles (child parent : SpaceKey) (machine later : Machine config) : Prop where
  model : ∀ number, later.shape? parent number = machine.shape? parent number
  copy : ∀ number, later.shape? child number = machine.shape? child number ∨
    later.shape? child number = machine.shape? parent number

variable {child parent : SpaceKey} {number : PageNumber} {machine middle later : Machine config}

/-- Where no shape changed, a copy resembles its model as before. -/
theorem Resembles.of_same (same : later.shape? = machine.shape?) :
    Resembles child parent machine later where
  model _ := by rw [same]
  copy _ := .inl (by rw [same])

/-- Resemblance carries over from one step of a copy to the next. -/
theorem Resembles.trans (first : Resembles child parent machine middle)
    (second : Resembles child parent middle later) : Resembles child parent machine later where
  model number := (second.model number).trans (first.model number)
  copy number := by
    rcases second.copy number with same | copied
    · rw [same]
      exact first.copy number
    · exact .inr (copied.trans (first.model number))

/-- One page of the copy may be replaced by what resembles its model. -/
theorem Resembles.of_amend {shape : Option (Page config)} (apart : child ≠ parent)
    (shapes : later.shape? = amend machine.shape? child number shape)
    (known : shape = machine.shape? child number ∨ shape = machine.shape? parent number) :
    Resembles child parent machine later where
  model other := by
    rw [shapes, amend_of_ne fun here => apart here.1.symm]
  copy other := by
    rw [shapes]
    by_cases here : other = number
    · rw [here, amend_self]
      exact known
    · rw [amend_of_ne fun same => here same.2]
      exact .inl rfl

/-- A copied page has the shape of its model. -/
theorem CopiesPage.resembles (copies : CopiesPage child parent number machine later)
    (atRest : machine.AtRest) (apart : child ≠ parent) : Resembles child parent machine later := by
  apply Resembles.of_amend apart (copies.shape?_eq atRest)
  cases machine.shape? parent number with
  | none => exact .inl rfl
  | some page => exact .inr rfl

/-- Also a copy that could not be completed has the shape of its model. -/
theorem SpoilsPage.resembles (spoils : SpoilsPage child parent number machine later)
    (atRest : machine.AtRest) (apart : child ≠ parent) : Resembles child parent machine later := by
  cases spoils with
  | known same => exact .of_same (congrArg shape? same)
  | spoiled found registers passes =>
    cases atRest.consistent.fits.number_eq found
    have quiet := passes.path.shape?_eq (registers.consistent atRest.consistent)
      fun _ _ isQuiet => (Transition.IsQuiet.prepares isQuiet).keepsShapes
    refine .of_amend apart (quiet.trans registers.shape?_of_register) (.inr ?_)
    exact (congrArg some (Page.forked_forked _)).trans (shape?_of_found found).symm

/-- Copied pages have the shapes of their models, by induction on the list. -/
theorem CopiesPages.resembles {numbers : List PageNumber} {result : Except VmError Unit}
    (copies : CopiesPages child parent numbers machine result later) (atRest : machine.AtRest)
    (apart : child ≠ parent) : Resembles child parent machine later := by
  induction copies with
  | done => exact .of_same rfl
  | page copies middleRest _ inductionHypothesis =>
    exact (copies.resembles atRest apart).trans (inductionHypothesis middleRest)
  | spoiled spoils => exact spoils.resembles atRest apart

/-- However copying a space ends, each page of the copy was there before or has the shape of its
model. -/
theorem CopiesSpace.resembles {result : Except VmError Unit}
    (copies : CopiesSpace child parent machine result later) (atRest : machine.AtRest) :
    Resembles child parent machine later := by
  cases copies with
  | refused => exact .of_same rfl
  | done apart starts copies ends =>
    have startedRest := starts.atRest atRest
    have finished := (copies.atRest startedRest).consistent
    exact (Resembles.of_same (starts.shape?_eq atRest.consistent trivial)).trans
      ((copies.resembles startedRest apart).trans (.of_same (ends.shape?_eq finished trivial)))
  | spoiled apart starts copies =>
    exact (Resembles.of_same (starts.shape?_eq atRest.consistent trivial)).trans
      (copies.resembles (starts.atRest atRest) apart)

end Machine

/-! ## Permissions that operations give -/

namespace Operation

open Machine

variable {machine later : Machine config} {key child parent : SpaceKey} {address : VirtualAddress}
  {writable : Bool}

/-- An allocated page has the permission that was asked for. -/
theorem Yields.permission?_of_allocate {request : TargetRequest}
    {body : Option (InitializerBody config)}
    (yields : (Operation.request key (.allocate request address writable body)).Yields machine
      (.ok .done) later) (atRest : machine.AtRest) :
    later.permission? key (address.page config) = some writable := by
  generalize answer : (Except.ok Answer.done : Except VmError Answer) = result at yields
  cases yields.performs atRest trivial with
  | refused | noFrame => cases answer
  | requested _ performs =>
    cases performs with
    | refused => cases answer
    | listed shown =>
      obtain ⟨_, refused⟩ := shown _ answer.symm
      cases refused
    | allocated _ registers => exact permission?_of_found registers.page?_of_registers

/-- The pages of a mapping have the permission that was asked for. -/
theorem Yields.permission?_of_map {length offset : Word} {file : FileId} {start : VirtualAddress}
    (yields : (Operation.request key (.map address length writable file offset)).Yields machine
      (.ok (.mappedAt start)) later) (atRest : machine.AtRest) {index : Nat}
    (inside : index < config.pagesFor length) :
    later.permission? key ((address.page config).advance index) = some writable := by
  generalize answer : (Except.ok (Answer.mappedAt start) : Except VmError Answer) = result at yields
  cases yields.performs atRest trivial with
  | refused | noFrame => cases answer
  | requested spaceExists performs =>
    cases performs with
    | refused | unmappable => cases answer
    | mapped maps starts permission _ _ _ counted =>
      rw [← config.toNat_ceilingDiv, ← counted] at inside
      rw [← starts, permission?_of_found (maps.page?_planned spaceExists inside), ← permission]
      rfl

/-- A fork gives each page of the new space the permission of its model. -/
theorem Yields.permission?_of_fork {root : PhysicalAddress}
    (yields : (Operation.fork parent).Yields machine (.ok (.space child root)) later)
    (atRest : machine.AtRest) (number : PageNumber) :
    later.permission? child number = machine.permission? parent number := by
  obtain ⟨_, _, exact⟩ := yields.exactCopy_of_fork atRest
  exact permission?_congr (exact.pages number)

/-- A copy that succeeds adds the pages of the model to those of the copy, with their permissions. -/
theorem Yields.permission?_of_copied
    (yields : (Operation.copy child parent).Yields machine (.ok .done) later)
    (atRest : machine.AtRest) (number : PageNumber) :
    later.permission? child number =
      (machine.permission? parent number).or (machine.permission? child number) := by
  generalize answer : (Except.ok Answer.done : Except VmError Answer) = result at yields
  cases yields.performs atRest trivial with
  | refused => cases answer
  | noFrame => cases answer
  | @copied _ _ _ _ copying copies =>
    cases copying with
    | error error => cases answer
    | ok =>
      have shapes : later.shape? child number =
          (machine.shape? parent number).or (machine.shape? child number) := by
        rw [copies.shape?_eq atRest]
        exact if_pos rfl
      simp only [permission?_eq_shape?, shapes]
      cases machine.shape? parent number <;> rfl

/-- However copying a space ends, a page of the copy has the permission that it had before, or that of
its model. -/
theorem Yields.permission?_of_copy {result : Except VmError Answer}
    (yields : (Operation.copy child parent).Yields machine result later)
    (atRest : machine.AtRest) (number : PageNumber) :
    later.permission? child number = machine.permission? child number ∨
      later.permission? child number = machine.permission? parent number := by
  cases yields.performs atRest trivial with
  | refused => exact .inl rfl
  | noFrame outside => rcases outside with same | same <;> cases same
  | copied copies =>
    exact ((copies.resembles atRest).copy number).imp permission?_congr permission?_congr

end Operation

end DemandPaging

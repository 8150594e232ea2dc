import DemandPaging.Proofs.Course.Basic
import DemandPaging.UserCopy

/-!
# What faults do

A fault ends in one of two ways. Either the page is `Accessed`: it is resident afterwards, having
been loaded if it had to be, and registered first if the stack grew. Or it is `Denied`: then no page
has changed, and a page that was registered for the stack to grow is forgotten again.
-/

namespace DemandPaging

variable {config : Config}

/-- The page that is registered when the stack grows. -/
def Page.ofStack (number : PageNumber) : Page config :=
  Page.awaiting number true .anonymous none

namespace Transition

/-- A transition of the kind that an access to a page takes. -/
def Accesses (key : SpaceKey) (number : PageNumber) (transition : Transition config) : Prop :=
  transition.Loads key number ∨ transition = .register key (Page.ofStack number) ∨
    transition = .unregister key number

end Transition

namespace Machine

/-- The stack grows by a page that was not registered; it is not loaded yet. -/
structure Grows (key : SpaceKey) (number : PageNumber) (machine grown : Machine config) : Prop where
  vacant : machine.page? key number = none
  leads : (Transition.register key (Page.ofStack number)).Leads
    (machine.record (.growingStack number)) grown

/-- A page of a space is resident afterwards. -/
inductive Accessed (key : SpaceKey) (number : PageNumber) (machine later : Machine config) :
    Prop where
  | present {page : Page config} {kind : PageKind config} {frame : FrameNumber}
      (found : machine.page? key number = some page)
      (passes : Passes (Transition.Loads key number) machine later)
      (resident : later.page? key number = some { page with kind := kind, frame := some frame })
  | grown {middle : Machine config} {kind : PageKind config} {frame : FrameNumber}
      (grows : Grows key number machine middle)
      (passes : Passes (Transition.Loads key number) middle later)
      (resident : later.page? key number =
        some { (Page.ofStack number : Page config) with kind := kind, frame := some frame })

/-- No page has changed. -/
inductive Denied (key : SpaceKey) (number : PageNumber) (machine later : Machine config) :
    Prop where
  | refused (passes : Passes Transition.IsQuiet machine later)
  | shrunk {grown spoiled : Machine config} (grows : Grows key number machine grown)
      (passes : Passes Transition.IsQuiet grown spoiled)
      (leads : (Transition.unregister key number).Leads spoiled later)

variable {key : SpaceKey} {number : PageNumber} {machine later : Machine config}

/-- The growth of the stack is a part of an access. -/
theorem Grows.passes (grows : Grows key number machine later) (atRest : machine.AtRest) :
    Passes (Transition.Accesses key number) machine later := by
  have noted : Passes (Transition.Accesses key number) machine
      (machine.record (.growingStack number)) :=
    .single atRest (.note rfl) (.inl (.inl trivial))
  exact noted.trans (.single noted.atRest grows.leads (.inr (.inl rfl)))

/-- The growth of the stack registers one page and leaves the others as they were. -/
theorem Grows.page?_eq (grows : Grows key number machine later) :
    later.page? = amend machine.page? key number (some (Page.ofStack number)) := by
  obtain ⟨vacant, leads⟩ := grows
  cases leads with
  | register _ _ _ spaceExists => exact page?_setPage spaceExists _

/-- An access passes through transitions of its kind only. -/
theorem Accessed.passes (accessed : Accessed key number machine later)
    (atRest : machine.AtRest) : Passes (Transition.Accesses key number) machine later := by
  cases accessed with
  | present _ passes => exact passes.mono fun _ => .inl
  | grown grows passes => exact (grows.passes atRest).trans (passes.mono fun _ => .inl)

/-- So does an access that was denied. -/
theorem Denied.passes (denied : Denied key number machine later)
    (atRest : machine.AtRest) : Passes (Transition.Accesses key number) machine later := by
  cases denied with
  | refused passes => exact passes.mono fun _ quiet => .inl (.inl quiet)
  | shrunk grows passes leads =>
    have before := (grows.passes atRest).trans (passes.mono fun _ quiet => .inl (.inl quiet))
    exact before.trans (.single before.atRest leads (.inr (.inr rfl)))

/-- The page that was accessed is resident afterwards. -/
theorem Accessed.resident (accessed : Accessed key number machine later) :
    ∃ page frame, later.page? key number = some page ∧ page.frame = some frame := by
  cases accessed with
  | present _ _ resident => exact ⟨_, _, resident, rfl⟩
  | grown _ _ resident => exact ⟨_, _, resident, rfl⟩

end Machine

namespace KernelAction

open Machine

variable {key : SpaceKey} {machine : Machine config}

/-- A page can be registered where none is. -/
theorem insertPage_of_vacant (page : Page config)
    (vacant : machine.page? key page.number = none) :
    insertPage key page machine = .done () (machine.updateSpace key (·.setPage page)) := by
  have absent : (machine.space key).pages.contains page.number = false := by
    simp [OrderedMap.contains, show (machine.space key).pages.get? page.number = none from vacant]
  rw [← updateSpace_const key (·.setPage page)]
  simp only [insertPage, space, Action.bind_apply, Action.view_apply, Space.insertPage, absent]
  rfl

/-- No page is registered over another one. -/
theorem insertPage_of_registered (page : Page config)
    (registered : (machine.page? key page.number).isSome) :
    insertPage key page machine = .failed .alreadyMapped machine := by
  have known : (machine.space key).pages.contains page.number = true := registered
  simp only [insertPage, space, Action.bind_apply, Action.view_apply, Space.insertPage, known]
  rfl

/-- Registering a page succeeds exactly where none is. -/
theorem insertPage_ends (page : Page config)
    {whenDone : Unit → Machine config → Prop} {whenFailed : VmError → Machine config → Prop} :
    (insertPage key page).Ends machine whenDone whenFailed ↔
      (machine.page? key page.number = none →
        whenDone () (machine.updateSpace key (·.setPage page))) ∧
      ((machine.page? key page.number).isSome → whenFailed .alreadyMapped machine) := by
  unfold Action.Ends
  cases known : machine.page? key page.number with
  | none =>
    rw [insertPage_of_vacant page known]
    simp
  | some other =>
    rw [insertPage_of_registered page (by rw [known]; rfl)]
    simp

/-- The registration of a page is done exactly if there is none yet. -/
theorem insertPage_eq_done_iff {page : Page config} {later : Machine config} :
    insertPage key page machine = .done () later ↔
      machine.page? key page.number = none ∧ later = machine.updateSpace key (·.setPage page) := by
  cases known : machine.page? key page.number with
  | none =>
    rw [insertPage_of_vacant page known]
    simp [eq_comm]
  | some other =>
    rw [insertPage_of_registered page (by rw [known]; rfl)]
    simp

/-- The stack grows by a page, or it is as it was. -/
theorem growStack_ends (atRest : machine.AtRest) (spaceExists : (machine.spaces.get? key).isSome)
    {number : PageNumber} (vacant : machine.page? key number = none) :
    (growStack key number).Ends machine
      (fun _ later => Accessed key number machine later ∧
        ∃ page, later.page? key number = some page ∧ page.writable = true)
      (fun _ later => Denied key number machine later) := by
  unfold growStack
  simp only [Action.ends_bind, ends_record]
  refine Iff.mpr (insertPage_ends _) ⟨fun _ => ?_, fun known => ?_⟩
  · let grown := (machine.record (.growingStack number)).updateSpace key
      (·.setPage (Page.awaiting number true .anonymous none))
    have grows : Grows key number machine grown :=
      ⟨vacant, .register vacant rfl rfl spaceExists nofun⟩
    let page : Page config := Page.ofStack number
    have found : grown.page? key page.number = some page := by
      rw [grows.page?_eq]
      exact amend_self
    simp only [Action.ends_bind, Action.ends_attempt]
    refine (claimPage_ends (grows.passes atRest).atRest found rfl).mono ?_ ?_
    · rintro _ later ⟨passes, kind, frame, resident⟩
      exact ⟨.grown grows passes resident, _, resident, rfl⟩
    · rintro _ spoiled passes
      have kept := (passes.path.page?_eq ((frame?_of_found found).trans rfl)).trans found
      exact .shrunk grows passes (.unregister kept rfl)
  · simp [Page.awaiting, vacant] at known

/-- A fault is resolved, and the page resident, or it is refused, and no page has changed. -/
theorem handleFault_ends (atRest : machine.AtRest)
    (spaceExists : (machine.spaces.get? key).isSome) (fault : PageFault) :
    (handleFault key fault).Ends machine
      (fun _ later => Accessed key (fault.address.page config) machine later ∧
        (fault.cause.write = true → ∃ page,
          later.page? key (fault.address.page config) = some page ∧ page.writable = true))
      (fun _ later => Denied key (fault.address.page config) machine later) := by
  have refused : Denied key (fault.address.page config) machine machine := .refused (.refl atRest)
  unfold handleFault
  simp only [Action.ends_bind, Action.ends_require, ends_space]
  refine ⟨fun _ => ⟨fun _ => ?_, fun _ => refused⟩, fun _ => refused⟩
  cases known : (machine.space key).pages.get? (fault.address.page config) with
  | none =>
    simp only []
    split
    · refine (growStack_ends atRest spaceExists known).mono ?_ (fun _ _ => id)
      exact fun _ _ ⟨accessed, writable⟩ => ⟨accessed, fun _ => writable⟩
    · simp only [Action.ends_bind, ends_record, Action.ends_fail]
      exact .refused (.single atRest (.note rfl) trivial)
  | some page =>
    have found : machine.page? key (fault.address.page config) = some page := known
    simp only [Action.ends_bind, Action.ends_require]
    refine ⟨fun allowed => ?_, fun _ => refused⟩
    have writable : fault.cause.write = true → page.writable = true := by
      intro asked
      simpa [asked] using allowed
    have numbered := atRest.consistent.fits.number_eq found
    cases resident : page.frame with
    | some frame =>
      rw [if_pos (by simp [Page.isResident, resident])]
      have held : machine.page? key (fault.address.page config) =
          some { page with kind := page.kind, frame := some frame } := by
        rw [found, ← resident]
      exact ⟨.present found (.refl atRest) held, fun asked => ⟨page, found, writable asked⟩⟩
    | none =>
      rw [if_neg (by simp [Page.isResident, resident])]
      rw [← numbered] at found ⊢
      refine (claimPage_ends atRest found resident).mono ?_ ?_
      · rintro _ later ⟨passes, kind, frame, loaded⟩
        exact ⟨.present found passes loaded, fun asked => ⟨_, loaded, writable asked⟩⟩
      · exact fun _ _ passes => .refused passes

end KernelAction

end DemandPaging

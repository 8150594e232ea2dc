import DemandPaging.Proofs.UserCopy
import DemandPaging.Proofs.Window.Reflection

/-!
# Accesses to a window

A window is open as long as all its pages are registered. Accesses leave it open and change nothing that
it shows, whatever they load and evict, and an access to a page of an open window is never denied: the
page is there, it can be written to, and its file can be read.
-/

namespace DemandPaging

variable {config : Config}

open Machine

namespace Machine

/-- A page that is registered stays, with its permission and the part of a file that is on it. -/
def Retains (machine : Machine config) (key : SpaceKey) (number : PageNumber)
    (later : Machine config) : Prop :=
  ∀ page, machine.page? key number = some page → ∃ page', later.page? key number = some page' ∧
    page'.writable = page.writable ∧ page'.kind.backing? = page.kind.backing?

variable {machine middle later : Machine config} {key : SpaceKey} {number : PageNumber}

/-- Pages that did not change are retained. -/
theorem Retains.of_page? (same : later.page? key number = machine.page? key number) :
    machine.Retains key number later :=
  fun page found => ⟨page, same.trans found, rfl, rfl⟩

/-- A page that is retained twice is retained. -/
theorem Retains.trans (first : machine.Retains key number middle)
    (second : middle.Retains key number later) : machine.Retains key number later := by
  intro page found
  obtain ⟨page', found', writable, backing⟩ := first page found
  obtain ⟨last, there, writable', backing'⟩ := second page' found'
  exact ⟨last, there, writable'.trans writable, backing'.trans backing⟩

end Machine

namespace Transition

/-- A transition that does not take a page away. -/
def KeepsPage (key : SpaceKey) (number : PageNumber) : Transition config → Prop
  | .discard space other | .unregister space other => ¬ (space = key ∧ other = number)
  | _ => True

variable {transition : Transition config} {machine next : Machine config} {key : SpaceKey}
  {number : PageNumber}

/-- A transition that does not take a page away leaves it with its permission and its part of the
file. -/
theorem Leads.retains (leads : transition.Leads machine next) (consistent : machine.Consistent)
    (keeps : transition.KeepsPage key number) : machine.Retains key number next := by
  intro page found
  have alters := leads.alters consistent key number
  rw [found] at alters
  generalize next.page? key number = after at alters ⊢
  cases alters with
  | same => exact ⟨page, rfl, rfl, rfl⟩
  | changed backing => exact ⟨_, rfl, rfl, backing⟩
  | removed isRemoved =>
    rcases isRemoved with rfl | rfl
    · exact absurd ⟨rfl, rfl⟩ keeps
    · exact absurd ⟨rfl, rfl⟩ keeps

/-- Making room takes no page away. -/
theorem IsQuiet.keepsPage (isQuiet : transition.IsQuiet) : transition.KeepsPage key number := by
  cases transition <;> first | exact trivial | exact isQuiet.elim

/-- Loading takes no page away. -/
theorem Loads.keepsPage {space : SpaceKey} {other : PageNumber}
    (loads : transition.Loads space other) : transition.KeepsPage key number := by
  rcases loads with isQuiet | ⟨frame, rfl⟩
  · exact isQuiet.keepsPage
  · exact trivial

end Transition

/-- A way on which no page is taken away retains each of them. -/
theorem Path.retains {permits : Machine config → Transition config → Prop}
    {start last : Machine config} {key : SpaceKey} {number : PageNumber}
    (path : Path permits start last) (consistent : start.Consistent)
    (keeps : ∀ middle transition, permits middle transition → transition.KeepsPage key number) :
    start.Retains key number last := by
  induction path with
  | refl => exact .of_page? rfl
  | step prior leads permitted inductionHypothesis =>
    exact inductionHypothesis.trans
      (leads.retains (prior.consistent consistent) (keeps _ _ permitted))

namespace Machine

variable {machine middle later : Machine config} {space key : SpaceKey} {other number : PageNumber}

/-- The stack grows by a page, and all others are retained. -/
theorem Grows.retains (grows : Grows space other machine later) (consistent : machine.Consistent) :
    machine.Retains key number later := by
  have noted : (Transition.note (.growingStack other)).Leads machine
      (machine.record (.growingStack other)) := .note rfl
  have first : machine.Retains key number (machine.record (.growingStack other)) :=
    .of_page? (by rw [page?_record])
  exact first.trans (grows.leads.retains (noted.consistent consistent) trivial)

/-- Accesses take no page away. -/
theorem Accessed.retains (accessed : Accessed space other machine later) (atRest : machine.AtRest) :
    machine.Retains key number later := by
  cases accessed with
  | present _ passes =>
    exact passes.path.retains atRest.consistent fun _ _ => Transition.Loads.keepsPage
  | grown grows passes =>
    have grown := (grows.passes atRest).atRest
    exact (grows.retains atRest.consistent).trans
      (passes.path.retains grown.consistent fun _ _ => Transition.Loads.keepsPage)

/-- Also an access that is denied takes no page away but one that it has registered itself. -/
theorem Denied.retains (denied : Denied space other machine later) (atRest : machine.AtRest) :
    machine.Retains key number later := by
  cases denied with
  | refused passes =>
    exact passes.path.retains atRest.consistent fun _ _ => Transition.IsQuiet.keepsPage
  | shrunk grows passes leads =>
    by_cases here : space = key ∧ other = number
    · obtain ⟨rfl, rfl⟩ := here
      intro page found
      cases grows.vacant.symm.trans found
    · have grown := (grows.passes atRest).atRest
      apply Retains.trans _ (leads.retains passes.atRest.consistent here)
      apply (grows.retains atRest.consistent).trans
      exact passes.path.retains grown.consistent fun _ _ => Transition.IsQuiet.keepsPage

end Machine

namespace FileWindow

variable {window : FileWindow config} {machine middle later : Machine config} {content : Nat → UInt8}

variable (window) in
/-- All pages of the window are there, and can be written to. -/
def IsOpen (machine : Machine config) : Prop :=
  ∀ number backing, window.Holds number backing →
    ∃ page, window.Has machine number page backing ∧ page.writable = true

/-- A window stays open while its pages are retained. -/
theorem IsOpen.of_retains (isOpen : window.IsOpen machine)
    (retains : ∀ number backing, window.Holds number backing →
      machine.Retains window.space number later) : window.IsOpen later := by
  intro number backing holds
  obtain ⟨page, has, writable⟩ := isOpen number backing holds
  obtain ⟨page', found, writable', same⟩ := retains number backing holds page has.found
  exact ⟨page', ⟨found, holds, same.trans has.uses⟩, writable'.trans writable⟩

/-- Making room for other pages does a window no harm. -/
theorem Tolerates.of_isQuiet {transition : Transition config} (isQuiet : transition.IsQuiet) :
    window.Tolerates machine transition := by
  cases transition <;> first | exact trivial | exact isQuiet.elim

/-- Accesses to pages, of the window or not, do it no harm. -/
theorem Tolerates.of_accesses {transition : Transition config} {key : SpaceKey}
    {number : PageNumber} (accesses : transition.Accesses key number) :
    window.Tolerates machine transition := by
  rcases accesses with (isQuiet | ⟨frame, rfl⟩) | rfl | rfl
  · exact .of_isQuiet isQuiet
  · exact trivial
  · exact nofun
  · exact trivial

/-- A window shows the same bytes after any way of transitions that it tolerates, by induction on
the way. -/
theorem Reflects.of_path {permits : Machine config → Transition config → Prop}
    (path : Path permits machine later) (consistent : machine.Consistent)
    (reflects : window.Reflects content machine)
    (tolerates : ∀ middle transition, window.Reflects content middle → permits middle transition →
      window.Tolerates middle transition) : window.Reflects content later := by
  induction path with
  | refl => exact reflects
  | step prior leads permitted inductionHypothesis =>
    have middle := inductionHypothesis
    exact middle.of_leads leads (prior.consistent consistent) (tolerates _ _ middle permitted)

/-- An open window and what it shows. -/
structure Stands (window : FileWindow config) (content : Nat → UInt8) (machine : Machine config) :
    Prop where
  reflects : window.Reflects content machine
  isOpen : window.IsOpen machine

/-- An open window stays open and shows the same bytes while its pages are retained and only
tolerable things happen. -/
theorem Stands.of_passes {permits : Transition config → Prop}
    (stands : window.Stands content machine) (passes : Passes permits machine later)
    (atRest : machine.AtRest) (tolerates : ∀ middle transition, permits transition →
      window.Tolerates middle transition)
    (retains : ∀ key number, machine.Retains key number later) : window.Stands content later where
  reflects := .of_path passes.path atRest.consistent stands.reflects
    fun middle transition _ => tolerates middle transition
  isOpen := stands.isOpen.of_retains fun number _ _ => retains window.space number

/-- An access to a page leaves a window as it is. -/
theorem Stands.of_accessed {key : SpaceKey} {number : PageNumber}
    (stands : window.Stands content machine) (accessed : Accessed key number machine later)
    (atRest : machine.AtRest) : window.Stands content later :=
  stands.of_passes (accessed.passes atRest) atRest (fun _ _ => .of_accesses)
    fun _ _ => accessed.retains atRest

/-- An access that was denied leaves a window as it is. -/
theorem Stands.of_denied {key : SpaceKey} {number : PageNumber}
    (stands : window.Stands content machine) (denied : Denied key number machine later)
    (atRest : machine.AtRest) : window.Stands content later :=
  stands.of_passes (denied.passes atRest) atRest (fun _ _ => .of_accesses)
    fun _ _ => denied.retains atRest

/-! ## Accesses that succeed -/

open KernelAction

/-- A page of the window is registered under its own number. -/
theorem Has.number_eq {number : PageNumber} {page : Page config} {backing : FileBacking config}
    (has : window.Has machine number page backing) (fits : machine.Fits) : page.number = number :=
  fits.number_eq has.found

/-- A page of the window can be loaded. -/
theorem claimPage_completes {number : PageNumber} {page : Page config}
    {backing : FileBacking config} (reflects : window.Reflects content machine)
    (atRest : machine.AtRest) (has : window.Has machine number page backing)
    (absent : page.frame = none) :
    (claimPage window.space number).Ends machine (fun _ _ => True) (fun _ _ => False) := by
  obtain rfl := has.number_eq atRest.consistent.fits
  unfold claimPage
  simp only [Action.ends_bind]
  refine (acquireFrame_ends atRest.consistent window.space.subsystem [window.space]).mono ?_
    (fun _ _ => False.elim)
  rintro frame ready ⟨acquire, acquires, acquired⟩
  have awaits := acquires.awaits acquired
  have same : ready.page? window.space page.number = machine.page? window.space page.number :=
    acquires.isQuiet.page?_eq acquired ((frame?_of_found has.found).trans absent)
  have hasNow : window.Has ready page.number page backing := (Has.congr same).mpr has
  have shows := reflects.of_leads acquired atRest.consistent (.of_isQuiet acquires.isQuiet)
  have ours : backing.handle.file = window.file := congrArg FileHandle.file has.holds.handle_eq
  have foundNow : (ready.space window.space).pages.get? page.number = some page := hasNow.found
  simp only [ends_space, foundNow, Action.ends_bind, ends_record, Action.ends_attempt, ends_onFrame]
  have loads : (page.kind.load page.number).Ends
      ((ready.record (.loading window.space page.number)).window frame) (fun _ _ => True)
      (fun _ _ => False) :=
    PageKind.load_completes page.number has.uses (reflects.placed has.found has.uses ours).2.2
      (ours ▸ shows.harmless) (shows.isCovered hasNow)
  refine loads.mono ?_ (fun _ _ => False.elim)
  intro kind filled _
  simp only [ends_updateSpace]
  refine Iff.mpr (settlePage_ends ?_ ?_) trivial
  · exact absent
  · exact awaits.mem_frames

/-- A fault on a page of an open window is resolved. -/
theorem handleFault_completes (stands : window.Stands content machine) (atRest : machine.AtRest)
    {address : VirtualAddress} {write : Bool}
    {backing : FileBacking config} (nameable : address.isNameable config = true)
    (holds : window.Holds (address.page config) backing) :
    (handleFault window.space (PageFault.ofKernel address write)).Ends machine
      (fun _ _ => True) (fun _ _ => False) := by
  obtain ⟨page, has, writable⟩ := stands.isOpen _ _ holds
  have found : (machine.space window.space).pages.get? (address.page config) = some page := has.found
  unfold handleFault
  simp only [Action.ends_bind, Action.ends_require, ends_space]
  refine ⟨fun _ => ⟨fun _ => ?_, nofun⟩, fun refused => ?_⟩
  · simp only [PageFault.ofKernel, found, Action.ends_bind, Action.ends_require]
    refine ⟨fun _ => ?_, fun refused => ?_⟩
    · cases held : page.frame with
      | some frame =>
        rw [Page.isResident, held]
        exact trivial
      | none =>
        rw [Page.isResident, held]
        exact claimPage_completes stands.reflects atRest has held
    · simp [writable] at refused
  · exact Bool.noConfusion (nameable.symm.trans refused)

/-- An access to a page of an open window finds its frame. -/
theorem accessFrame_completes (stands : window.Stands content machine) (atRest : machine.AtRest)
    {address : VirtualAddress} {write : Bool}
    {backing : FileBacking config} (nameable : address.isNameable config = true)
    (holds : window.Holds (address.page config) backing) :
    (accessFrame window.space address write).Ends machine (fun _ _ => True) (fun _ _ => False) := by
  have finds : ∀ {later : Machine config} {page : Page config} {frame : FrameNumber} (lookups : Nat),
      window.Stands content later → later.AtRest →
      later.page? window.space (address.page config) = some page → page.frame = some frame →
      (frameWithin window.space address write (lookups + 1)).Ends later (fun _ _ => True)
        (fun _ _ => False) := by
    intro later page frame lookups stands atRest found resident
    obtain ⟨page', has, writable⟩ := stands.isOpen _ _ holds
    cases found.symm.trans has.found
    refine Iff.mpr (frameWithin_ends atRest.consistent.fits found resident write lookups)
      ⟨fun _ => trivial, fun ⟨_, denied⟩ => ?_⟩
    rw [writable] at denied
    cases denied
  obtain ⟨page, has, _⟩ := stands.isOpen _ _ holds
  have spaceExists := isSome_of_page? has.found
  unfold accessFrame
  simp only [Action.ends_bind, Action.ends_require]
  refine ⟨fun _ => ?_, fun refused => Bool.noConfusion (nameable.symm.trans refused)⟩
  cases mapped : machine.mapped? window.space (address.page config) with
  | some entry =>
    obtain ⟨page, found, resident, _⟩ := atRest.consistent.fits.page_of_entry mapped
    exact finds 1 stands atRest found resident
  | none =>
    have absent : (machine.space window.space).pageTable.get? (address.page config) = none := mapped
    rw [frameWithin]
    simp only [Action.ends_bind, ends_space, absent]
    have resolved := (handleFault_ends atRest spaceExists (PageFault.ofKernel address write)).and
      (handleFault_completes stands atRest nameable holds)
    refine resolved.mono ?_ (fun _ _ both => both.2)
    rintro _ later ⟨⟨accessed, _⟩, _⟩
    obtain ⟨page, frame, found, resident⟩ := accessed.resident
    exact finds 0 (stands.of_accessed accessed atRest) (accessed.passes atRest).atRest found resident

end FileWindow

end DemandPaging

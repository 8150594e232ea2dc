import DemandPaging.Proofs.Mapping.Exactness
import DemandPaging.Proofs.Materialisation
import DemandPaging.Proofs.Window.Records

/-!
# Where pages are

Every page that is registered begins in user memory. Allocations, faults and copies check the address
that they are given, a mapping checks where it ends, and a copied page has the number of its model.
-/

namespace DemandPaging

variable {config : Config}

/-- The page begins in user memory. -/
def PageNumber.IsUser (config : Config) (number : PageNumber) : Prop :=
  number.word.toNat * config.pageSize < config.userEnd.toNat

/-- The page of a user address begins in user memory, even if it does not end there. -/
theorem VirtualAddress.isUser_page {address : VirtualAddress}
    (nameable : address.isNameable config = true) : (address.page config).IsUser config := by
  have below := Nat.div_mul_le_self address.word.toNat config.pageSize
  rw [← toNat_page] at below
  exact Nat.lt_of_le_of_lt below (isNameable_iff.mp nameable).2

namespace Machine

/-- Every registered page begins in user memory. -/
def PagesPlaced (machine : Machine config) : Prop :=
  ∀ key number, (machine.page? key number).isSome → number.IsUser config

/-- Whether pages lie in user memory is read from the page maps. -/
theorem PagesPlaced.of_page? {machine later : Machine config} (placed : machine.PagesPlaced)
    (same : later.page? = machine.page?) : later.PagesPlaced := by
  intro key number found
  rw [same] at found
  exact placed key number found

/-- Where pages are taken away, the others are where they were. -/
theorem PagesPlaced.of_removed {machine later : Machine config}
    {gone : SpaceKey → PageNumber → Prop} [∀ key number, Decidable (gone key number)]
    (placed : machine.PagesPlaced) (pages : later.page? = fun key number =>
      if gone key number then none else machine.page? key number) : later.PagesPlaced := by
  intro key number found
  rw [congrFun (congrFun pages key) number] at found
  split at found
  · cases found
  · exact placed key number found

end Machine

namespace Transition

open Machine

/-- A page that is registered begins in user memory. -/
def Settles : Transition config → Prop
  | .register _ page => page.number.IsUser config
  | _ => True

variable {transition : Transition config} {machine next : Machine config} {key : SpaceKey}
  {number : PageNumber}

/-- A transition keeps pages in user memory if the page that it registers begins there. -/
theorem Leads.pagesPlaced (leads : transition.Leads machine next) (consistent : machine.Consistent)
    (settles : transition.Settles) (placed : machine.PagesPlaced) : next.PagesPlaced := by
  intro key number found
  rcases leads.registered consistent found with ⟨page, rfl, rfl⟩ | old
  · exact settles
  · exact placed key number old.1

/-- Making room registers no page. -/
theorem IsQuiet.settles (isQuiet : transition.IsQuiet) : transition.Settles := by
  cases transition <;> first | exact trivial | exact isQuiet.elim

/-- Preparing a copy registers no page. -/
theorem Prepares.settles (prepares : transition.Prepares) : transition.Settles := by
  cases transition <;> first | exact trivial | exact prepares.elim

/-- An access to user memory registers a page of user memory at most. -/
theorem Accesses.settles (accesses : transition.Accesses key number) (isUser : number.IsUser config) :
    transition.Settles := by
  rcases accesses with (isQuiet | ⟨frame, rfl⟩) | rfl | rfl
  · exact isQuiet.settles
  · exact trivial
  · exact isUser
  · exact trivial

end Transition

/-- On a way that registers pages of user memory only, all pages stay there. -/
theorem Path.pagesPlaced {permits : Machine config → Transition config → Prop}
    {start last : Machine config} (path : Path permits start last) (consistent : start.Consistent)
    (settles : ∀ machine transition, permits machine transition → transition.Settles)
    (placed : start.PagesPlaced) : last.PagesPlaced := by
  induction path with
  | refl => exact placed
  | step prior leads permitted inductionHypothesis =>
    exact leads.pagesPlaced (prior.consistent consistent) (settles _ _ permitted) inductionHypothesis

namespace Machine

variable {key child parent : SpaceKey} {number : PageNumber} {machine later : Machine config}

/-- An access to user memory keeps all pages there. -/
theorem Accessed.pagesPlaced (accessed : Accessed key number machine later)
    (atRest : machine.AtRest) (isUser : number.IsUser config) (placed : machine.PagesPlaced) :
    later.PagesPlaced :=
  (accessed.passes atRest).path.pagesPlaced atRest.consistent
    (fun _ _ accesses => accesses.settles isUser) placed

/-- An access that is denied leaves no page behind, so it need not be to user memory. -/
theorem Denied.pagesPlaced (denied : Denied key number machine later) (atRest : machine.AtRest)
    (placed : machine.PagesPlaced) : later.PagesPlaced := by
  intro probe other found
  rw [← isSome_flat_page?, (denied.idles atRest).pages, isSome_flat_page?] at found
  exact placed probe other found

/-- A copy from user memory accesses user memory only, by induction on the chunks. -/
theorem ReadsChunks.pagesPlaced {base : VirtualAddress} {chunks : List Chunk} {buffer : Bytes}
    {result : Bytes × Except VmError Unit}
    (reads : ReadsChunks key base chunks buffer machine result later) (atRest : machine.AtRest)
    (placed : machine.PagesPlaced) : later.PagesPlaced := by
  induction reads with
  | done => exact placed
  | chunk _ nameable accessed _ _ _ inductionHypothesis =>
    have middle := accessed.pagesPlaced atRest (VirtualAddress.isUser_page nameable) placed
    exact inductionHypothesis (accessed.passes atRest).atRest middle
  | denied denied => exact denied.pagesPlaced atRest placed

/-- A copy to user memory accesses user memory only, by induction on the chunks. -/
theorem WritesChunks.pagesPlaced {base : VirtualAddress} {bytes : Bytes} {chunks : List Chunk}
    {result : Except VmError Unit}
    (writes : WritesChunks key base bytes chunks machine result later) (atRest : machine.AtRest)
    (placed : machine.PagesPlaced) : later.PagesPlaced := by
  induction writes with
  | done => exact placed
  | chunk _ nameable accessed leads _ inductionHypothesis =>
    have middle := accessed.pagesPlaced atRest (VirtualAddress.isUser_page nameable) placed
    have middleRest := (accessed.passes atRest).atRest
    exact inductionHypothesis (leads.atRest middleRest)
      (leads.pagesPlaced middleRest.consistent trivial middle)
  | denied denied => exact denied.pagesPlaced atRest placed

/-! ## Copies of spaces -/

/-- The copy of a page is registered in the place of its model. -/
theorem settles_forked (child : SpaceKey) {page : Page config} (fits : machine.Fits)
    (placed : machine.PagesPlaced) (found : machine.page? parent number = some page) :
    (Transition.register child page.forked).Settles := by
  have isUser := placed parent number (Option.isSome_iff_exists.mpr ⟨page, found⟩)
  rwa [← fits.number_eq found] at isUser

/-- A copied page begins where its model begins. -/
theorem CopiesPage.pagesPlaced (copies : CopiesPage child parent number machine later)
    (atRest : machine.AtRest) (placed : machine.PagesPlaced) : later.PagesPlaced := by
  have consistent := atRest.consistent
  cases copies with
  | vacant _ same => exact same ▸ placed
  | registered found _ leads =>
    exact leads.pagesPlaced consistent (settles_forked child consistent.fits placed found) placed
  | copied found registers prepares leads =>
    have settles := settles_forked child consistent.fits placed found
    have grown := registers.consistent consistent
    have ready := prepares.pagesPlaced grown (fun _ _ => Transition.Prepares.settles)
      (registers.pagesPlaced consistent settles placed)
    exact leads.pagesPlaced (prepares.consistent grown) trivial ready

/-- A copy of a page that goes wrong leaves all pages in user memory. -/
theorem SpoilsPage.pagesPlaced (spoils : SpoilsPage child parent number machine later)
    (atRest : machine.AtRest) (placed : machine.PagesPlaced) : later.PagesPlaced := by
  cases spoils with
  | known same => exact same ▸ placed
  | spoiled found registers passes =>
    have settles := settles_forked child atRest.consistent.fits placed found
    exact passes.path.pagesPlaced (registers.consistent atRest.consistent)
      (fun _ _ => Transition.IsQuiet.settles)
      (registers.pagesPlaced atRest.consistent settles placed)

/-- Copying pages keeps all pages in user memory, by induction on the list. -/
theorem CopiesPages.pagesPlaced {numbers : List PageNumber} {result : Except VmError Unit}
    (copies : CopiesPages child parent numbers machine result later) (atRest : machine.AtRest)
    (placed : machine.PagesPlaced) : later.PagesPlaced := by
  induction copies with
  | done => exact placed
  | page copies middleRest _ inductionHypothesis =>
    exact inductionHypothesis middleRest (copies.pagesPlaced atRest placed)
  | spoiled spoils => exact spoils.pagesPlaced atRest placed

/-- Copying a space keeps all pages in user memory. -/
theorem CopiesSpace.pagesPlaced {result : Except VmError Unit}
    (copies : CopiesSpace child parent machine result later) (atRest : machine.AtRest)
    (placed : machine.PagesPlaced) : later.PagesPlaced := by
  cases copies with
  | refused => exact placed
  | done _ starts copies ends =>
    have startedRest := starts.atRest atRest
    have copied := copies.pagesPlaced startedRest
      (starts.pagesPlaced atRest.consistent trivial placed)
    exact ends.pagesPlaced (copies.atRest startedRest).consistent trivial copied
  | spoiled _ starts copies =>
    exact copies.pagesPlaced (starts.atRest atRest)
      (starts.pagesPlaced atRest.consistent trivial placed)

/-- Forking a space keeps all pages in user memory. -/
theorem Forks.pagesPlaced {result : Except VmError SpaceKey}
    (forks : Forks parent machine result later) (atRest : machine.AtRest)
    (placed : machine.PagesPlaced) : later.PagesPlaced := by
  have created : ∀ root, (machine.addSpace parent.subsystem root).PagesPlaced := fun root =>
    placed.of_page? (page?_addSpace (atRest.consistent.known.unissued.vacant _))
  cases forks with
  | done creates copies =>
    subst creates
    exact copies.pagesPlaced (addSpace_atRest atRest _ _) (created _)
  | undone creates copies _ _ pages =>
    subst creates
    exact (copies.pagesPlaced (addSpace_atRest atRest _ _) (created _)).of_removed pages

end Machine

/-! ## Along a run -/

namespace KernelAction

open Machine

variable {key : SpaceKey} {machine later : Machine config}

/-- A fault that is resolved was at a user address. -/
theorem isNameable_of_handleFault {fault : PageFault}
    (done : handleFault key fault machine = .done () later) :
    fault.address.isNameable config = true := by
  obtain ⟨_, _, nameable, _⟩ := Action.bind_eq_done_iff.mp done
  exact (Action.require_eq_done_iff.mp nameable).1

/-- A fault that a program may retry is on an address that it may use. -/
theorem isNameable_of_handleUserFault {fault : PageFault}
    (done : handleUserFault key fault machine = .done .retry later) :
    fault.address.isNameable config = true := by
  obtain ⟨result, middle, attempted, verdict⟩ := Action.bind_eq_done_iff.mp done
  rcases Action.attempt_eq_done_iff.mp attempted with ⟨_, _, handled⟩ | ⟨_, rfl, _⟩
  · exact isNameable_of_handleFault handled
  · obtain ⟨_, _, _, exits⟩ := Action.bind_eq_done_iff.mp verdict
    cases exits

/-- A page is registered at an address that programs may use only. -/
theorem isNameable_of_allocateNamed {request : TargetRequest} {address : VirtualAddress}
    {writable : Bool} {registered : Option (Initializer config)}
    (done : allocateNamed key request address writable registered machine = .done .done later) :
    address.isNameable config = true := by
  obtain ⟨granted, _, _, done⟩ := Action.bind_eq_done_iff.mp done
  cases granted with
  | error refusal => cases done
  | ok target =>
    obtain ⟨_, _, allocated, _⟩ := Action.bind_eq_done_iff.mp done
    obtain ⟨_, _, nameable, _⟩ := Action.bind_eq_done_iff.mp allocated
    exact (Action.require_eq_done_iff.mp nameable).1

/-- A page that is allocated was asked for at a user address. -/
theorem isNameable_of_allocate {request : TargetRequest} {address : VirtualAddress}
    {writable : Bool} {body : Option (InitializerBody config)}
    (done : (SpaceRequest.allocate request address writable body).perform key machine =
      .done .done later) : address.isNameable config = true := by
  unfold SpaceRequest.perform at done
  cases body with
  | none => exact isNameable_of_allocateNamed done
  | some run =>
    obtain ⟨_, _, _, named⟩ := Action.bind_eq_done_iff.mp done
    exact isNameable_of_allocateNamed named

/-- A mapping that is made lies in user memory. -/
theorem pagesPlaced_of_mapFile {address : VirtualAddress} {length offset : Word} {writable : Bool}
    {file : FileHandle} (spaceExists : (machine.spaces.get? key).isSome)
    (done : mapFile key address length writable file offset machine = .done address later)
    (placed : machine.PagesPlaced) : later.PagesPlaced := by
  obtain ⟨-, mappable, range, maps, counted⟩ :=
    (mapFile_decides spaceExists address length writable file offset).of_done done
  rw [← UInt64.toNat_inj, config.toNat_ceilingDiv] at counted
  intro probe number found
  by_cases planned : probe = key ∧ ∃ index < range.length.toNat,
      number = (address.page config).advance index
  · obtain ⟨rfl, index, inside, rfl⟩ := planned
    have small : (address.page config).word.toNat + index < Word.modulus :=
      Nat.lt_trans (Nat.add_lt_add_left inside _) maps.fits.pages
    rw [PageNumber.IsUser, PageNumber.toNat_advance small]
    exact mappable.page_lt (counted ▸ inside)
  · rw [maps.page?_other spaceExists fun own index inside same =>
      planned ⟨own, index, inside, same⟩] at found
    exact placed probe number found

end KernelAction

namespace Operation

open Machine KernelAction

variable {operation : Operation config} {machine later : Machine config}
  {result : Except VmError Answer}

/-- An operation registers pages in user memory only. -/
theorem Yields.pagesPlaced (yields : operation.Yields machine result later)
    (atRest : machine.AtRest) (permitted : operation.IsPermitted machine)
    (placed : machine.PagesPlaced) : later.PagesPlaced := by
  have consistent := atRest.consistent
  have listed : ∀ body, (machine.listed body).PagesPlaced ∧ (machine.listed body).Consistent :=
    fun body => ⟨placed.of_page? (by unfold listed; split <;> rfl), listed_consistent consistent body⟩
  cases yields.performs atRest permitted with
  | refused | idle | noFrame | closedFile | wroteFile | setFileFaults => exact placed
  | created => exact placed.of_page? (page?_addSpace (consistent.known.unissued.vacant _))
  | dropped _ pages => exact placed.of_removed pages
  | forked forks | unforked forks => exact forks.pagesPlaced atRest placed
  | copied copies => exact copies.pagesPlaced atRest placed
  | tookFrame leads | returnedFrame leads | createdFile leads | setSwapFaults leads =>
    exact leads.pagesPlaced consistent trivial placed
  | requested spaceExists performs =>
    cases performs with
    | refused | unremoved | notUnmapped => exact placed
    | listed => exact (listed _).1
    | @allocated _ _ address _ _ _ _ _ registers =>
      obtain ⟨-, done⟩ := withSpace_eq_done yields nofun
      have isUser := VirtualAddress.isUser_page (isNameable_of_allocate done)
      exact registers.pagesPlaced (listed _).2 isUser (listed _).1
    | @claimed address _ _ known accessed =>
      exact accessed.pagesPlaced atRest (placed _ _ known) placed
    | unclaimed passes =>
      exact passes.path.pagesPlaced consistent (fun _ _ => Transition.IsQuiet.settles) placed
    | removed _ leads => exact leads.pagesPlaced consistent trivial placed
    | resolved accessed =>
      obtain ⟨-, done⟩ := withSpace_eq_done yields nofun
      obtain ⟨_, _, handled, answered⟩ := Action.bind_eq_done_iff.mp done
      cases answered
      exact accessed.pagesPlaced atRest
        (VirtualAddress.isUser_page (isNameable_of_handleFault handled)) placed
    | unresolved denied => exact denied.pagesPlaced atRest placed
    | retried accessed =>
      obtain ⟨-, done⟩ := withSpace_eq_done yields nofun
      obtain ⟨verdict, _, handled, answered⟩ := Action.bind_eq_done_iff.mp done
      cases answered
      exact accessed.pagesPlaced atRest
        (VirtualAddress.isUser_page (isNameable_of_handleUserFault handled)) placed
    | exited denied => exact (denied.pagesPlaced atRest placed).of_page? rfl
    | pointed => exact placed.of_page? (Transition.Leads.page?_of_set (.set fun _ => rfl))
    | read reads => exact reads.pagesPlaced atRest placed
    | written writes => exact writes.pagesPlaced atRest placed
    | mapped =>
      obtain ⟨-, done⟩ := withSpace_eq_done yields nofun
      exact pagesPlaced_of_mapFile spaceExists (mapFile_of_mapped done).2 placed
    | unmappable leaves =>
      obtain ⟨_, rfl, _⟩ := leaves.onlyEnvironment
      exact placed
    | unmapped _ unmaps => exact placed.of_removed unmaps.page?_eq
    | tornDown _ pages => exact placed.of_removed pages

end Operation

/-- In every reachable machine, pages begin in user memory. -/
theorem Run.pagesPlaced {frames slots : Nat} {log : OperationLog config} {machine : Machine config}
    (run : Run (.boot config frames slots) log machine) : machine.PagesPlaced := by
  have booted : (Machine.boot config frames slots).PagesPlaced := fun _ _ found => nomatch found
  induction run with
  | nil => exact booted
  | step prior permitted yields inductionHypothesis =>
    exact yields.pagesPlaced prior.atRest permitted inductionHypothesis

end DemandPaging

import DemandPaging.Proofs.Bystander

/-!
# What a transition does to one page and to one file

A transition touches one page at most. The page it touches may be loaded, may lose its frame, or may
come and go, but as long as it is there it stays a page of the same file with the same permission. A
file that is not replaced changes only through its own pages.
-/

namespace DemandPaging

variable {config : Config}

namespace Transition

/-- The page of a transition, if it has one. -/
def Touches (key : SpaceKey) (number : PageNumber) : Transition config → Prop
  | .evict space other _ | .load space other _ | .copy space _ other _ | .unregister space other
  | .discard space other | .store space other _ _ => space = key ∧ other = number
  | .register space page => space = key ∧ page.number = number
  | _ => False

/-- No transition touches two pages. -/
theorem Touches.unique {transition : Transition config} {key other : SpaceKey}
    {number number' : PageNumber} (touches : transition.Touches key number)
    (touches' : transition.Touches other number') : other = key ∧ number' = number := by
  cases transition <;>
    first
    | exact touches.elim
    | exact ⟨touches'.1.symm.trans touches.1, touches'.2.symm.trans touches.2⟩

/-- What can become of a page by a transition. -/
inductive Alters (transition : Transition config) (key : SpaceKey) (number : PageNumber) :
    Option (Page config) → Option (Page config) → Prop where
  | same {page : Option (Page config)} : Alters transition key number page page
  | changed {page : Page config} {kind : PageKind config} {frame : Option FrameNumber}
      (backing : kind.backing? = page.kind.backing?)
      (waits : kind.initializer? = none ∨ kind.initializer? = page.kind.initializer?) :
    Alters transition key number (some page) (some { page with kind := kind, frame := frame })
  | registered {page : Page config} (isRegistered : transition = .register key page) :
    Alters transition key number none (some page)
  | removed {page : Page config}
      (isRemoved : transition = .discard key number ∨ transition = .unregister key number) :
    Alters transition key number (some page) none

open Machine

variable {transition : Transition config} {machine next : Machine config} {key : SpaceKey}
  {number : PageNumber}

/-- Loading a page does not take it off its file. -/
theorem Loaded.backing?_eq {before after : FrameWindow config} {kind later : PageKind config}
    (loaded : kind.Loaded number before later after) : later.backing? = kind.backing? := by
  cases loaded with
  | fromSlot | blank | fromFile => rfl
  | first filled => cases filled <;> rfl

/-- What becomes of a page is one of the things that can become of it. -/
theorem Leads.alters (leads : transition.Leads machine next) (consistent : machine.Consistent)
    (key : SpaceKey) (number : PageNumber) :
    transition.Alters key number (machine.page? key number) (next.page? key number) := by
  have unchanged : next.page? = machine.page? →
      transition.Alters key number (machine.page? key number) (next.page? key number) := by
    intro same
    rw [same]
    exact .same
  have amended : ∀ {key' : SpaceKey} {number' : PageNumber} {after : Option (Page config)},
      next.page? = amend machine.page? key' number' after →
      transition.Alters key' number' (machine.page? key' number') after →
      transition.Alters key number (machine.page? key number) (next.page? key number) := by
    intro key' number' after pages becomes
    rw [pages]
    by_cases here : key = key' ∧ number = number'
    · obtain ⟨rfl, rfl⟩ := here
      rw [amend_self]
      exact becomes
    · rw [amend_of_ne here]
      exact .same
  have kept := leads.page?_eq consistent.known.unissued
  cases leads with
  | evict _ _ found resident stored =>
    have became := consistent.fits.stored found resident stored
    refine amended (page?_evicted (isSome_of_page? found)) ?_
    rw [found]
    exact .changed became.backing?_eq (.inl became.initializer?_eq)
  | load found _ _ loaded =>
    have became := (PageKind.load_ends _ _ _).of_done loaded
    refine amended (page?_settleLoaded (isSome_of_page? found)) ?_
    rw [found]
    exact .changed (Loaded.backing?_eq became) (.inl became.isLoaded.initializer?_eq)
  | copy _ found =>
    refine amended (page?_settleCopy (isSome_of_page? found)) ?_
    refine found ▸ .changed rfl (.inr rfl)
  | register vacant _ _ spaceExists =>
    refine amended (page?_setPage spaceExists _) ?_
    rw [vacant]
    exact .registered rfl
  | unregister found =>
    refine amended (page?_dropPage (isSome_of_page? found)) ?_
    rw [found]
    exact .removed (.inr rfl)
  | discard found =>
    refine amended (page?_endAbsent (isSome_of_page? found)) ?_
    rw [found]
    exact .removed (.inl rfl)
  | discardResident found =>
    refine amended (page?_endResident (isSome_of_page? found)) ?_
    rw [found]
    exact .removed (.inl rfl)
  | _ => exact unchanged (kept trivial)

/-- A page that a transition does not touch is as it was, and so is its entry in the page table. -/
theorem Leads.untouched (leads : transition.Leads machine next) (consistent : machine.Consistent)
    (untouched : ¬ transition.Touches key number) :
    next.page? key number = machine.page? key number ∧
      next.mapped? key number = machine.mapped? key number := by
  have unchanged : next.page? = machine.page? → next.mapped? = machine.mapped? →
      next.page? key number = machine.page? key number ∧
        next.mapped? key number = machine.mapped? key number := by
    intro pages entries
    rw [pages, entries]
    exact ⟨rfl, rfl⟩
  have elsewhere : ∀ {key' : SpaceKey} {number' : PageNumber}, ¬ (key' = key ∧ number' = number) →
      ¬ (key = key' ∧ number = number') :=
    fun different here => different ⟨here.1.symm, here.2.symm⟩
  cases leads with
  | note | spoil | setFile | createFile | listInitializer | setSwapFaults | lend | reclaim =>
    exact unchanged rfl rfl
  | take => exact unchanged page?_take mapped?_take
  | release => exact unchanged page?_release mapped?_release
  | pin => exact unchanged (page?_updateTable ..) (mapped?_updateTable ..)
  | set isSetting =>
    refine unchanged (Leads.page?_of_set (.set isSetting)) (mapped?_updateSpace_of_same ?_)
    intro space
    rw [isSetting space]
  | create =>
    exact unchanged (page?_addSpace (consistent.known.unissued.vacant _))
      (mapped?_addSpace fun other => consistent.fits.entry_of_vacant
        (consistent.known.unissued.vacant _ other))
  | forget empty =>
    exact unchanged (page?_erase empty)
      (mapped?_erase fun other => consistent.fits.entry_of_vacant (empty other))
  | evict _ _ found =>
    rw [page?_evicted (isSome_of_page? found), mapped?_evicted (isSome_of_page? found),
      amend_of_ne (elsewhere untouched), amend_of_ne (elsewhere untouched)]
    exact ⟨rfl, rfl⟩
  | load found =>
    rw [page?_settleLoaded (isSome_of_page? found), mapped?_settleLoaded (isSome_of_page? found),
      amend_of_ne (elsewhere untouched), amend_of_ne (elsewhere untouched)]
    exact ⟨rfl, rfl⟩
  | copy _ found =>
    rw [page?_settleCopy (isSome_of_page? found), mapped?_settleCopy (isSome_of_page? found)]
    exact ⟨amend_of_ne (elsewhere untouched), amend_of_ne (elsewhere untouched)⟩
  | register _ _ _ spaceExists =>
    rw [page?_setPage spaceExists, mapped?_setPage, amend_of_ne (elsewhere untouched)]
    exact ⟨rfl, rfl⟩
  | unregister found =>
    rw [page?_dropPage (isSome_of_page? found), mapped?_dropPage,
      amend_of_ne (elsewhere untouched)]
    exact ⟨rfl, rfl⟩
  | discard found =>
    rw [page?_endAbsent (isSome_of_page? found), mapped?_endAbsent,
      amend_of_ne (elsewhere untouched)]
    exact ⟨rfl, rfl⟩
  | discardResident found =>
    rw [page?_endResident (isSome_of_page? found), mapped?_endResident (isSome_of_page? found),
      amend_of_ne (elsewhere untouched), amend_of_ne (elsewhere untouched)]
    exact ⟨rfl, rfl⟩
  | store found =>
    refine ⟨congrFun (congrFun page?_markDirty key) number, ?_⟩
    exact (congrFun (congrFun (mapped?_markDirty (isSome_of_page? found)) key) number).trans
      (amend_of_ne (elsewhere untouched))

/-- Loading a page leaves the data and the failures of all files alone. -/
theorem Loaded.uncounted_eq {before after : FrameWindow config} {kind later : PageKind config}
    (loaded : kind.Loaded number before later after) (file : FileId) :
    (after.environment.file file).uncounted = (before.environment.file file).uncounted := by
  cases loaded with
  | fromSlot | blank => rfl
  | fromFile _ same => exact same.file file
  | first _ _ same => exact same.file file

/-- A file keeps its data and its failures, unless it is replaced or the transition touches one of
its pages. -/
theorem Leads.uncounted_eq (leads : transition.Leads machine next) (consistent : machine.Consistent)
    {file : FileId} (known : (machine.environment.files.get? file).isSome)
    (unset : ∀ contents, transition ≠ .setFile file contents)
    (elsewhere : ∀ key number page backing, transition.Touches key number →
      machine.page? key number = some page → page.kind.backing? = some backing →
        backing.handle.file ≠ file) :
    (next.environment.file file).uncounted = (machine.environment.file file).uncounted := by
  have ofEnvironment : next.environment.files = machine.environment.files →
      (next.environment.file file).uncounted = (machine.environment.file file).uncounted := by
    intro files
    rw [Environment.file, Environment.file, files]
  have ofOther : ∀ {id : FileId}, id ≠ file → machine.environment.SameBut id next.environment →
      (next.environment.file file).uncounted = (machine.environment.file file).uncounted := by
    intro id other same
    rw [Environment.file, Environment.file, same.others file (Ne.symm other)]
  have kept := leads.environment_eq
  cases leads with
  | listInitializer | setSwapFaults => rfl
  | @setFile _ other contents =>
    have different : file ≠ other := fun same => unset contents (same ▸ rfl)
    show ((machine.environment.setFile other contents).file file).uncounted = _
    rw [Environment.file_setFile, if_neg fun here => different here.1]
  | createFile =>
    refine congrArg (fun found : Option File => (found.getD {}).uncounted) ?_
    show OrderedMap.get? (OrderedMap.insert _ _ _) file = _
    rw [OrderedMap.get?_insert_eq, if_neg]
    rintro rfl
    rw [consistent.names.fresh_file] at known
    cases known
  | @evict _ key page frame remaining _ _ _ _ found resident stored =>
    have became := consistent.fits.stored found resident stored
    have foreign := elsewhere key page.number page
    rw [environment_vacate]
    generalize page.kind = earlier at became foreign
    have files : (machine.beforeStore key page.number remaining).environment.files =
        machine.environment.files := by
      rw [environment_beforeStore]
      rfl
    cases became with
    | blank | clean | toSlot =>
      unfold Environment.file
      exact congrArg _ (congrArg (fun map => (OrderedMap.get? map file).getD {}) files)
    | @toFile backing =>
      -- The victim is touched, so by assumption it does not lie on this file.
      have other := foreign backing ⟨rfl, rfl⟩ found rfl
      split
      · unfold Environment.file
        rw [files]
      · have same := backing.sameBut_writtenBack (machine.frameBytes frame)
          (machine.beforeStore key page.number remaining).environment
        unfold Environment.file
        rw [same.others file (Ne.symm other), files]
  | load _ _ _ loaded =>
    have became := (PageKind.load_ends _ _ _).of_done loaded
    rw [environment_settleLoaded]
    exact Loaded.uncounted_eq became file
  | spoil _ _ _ failed =>
    exact ((PageKind.load_ends _ _ _).of_failed failed).1.file file
  | @discard _ key page environment found _ ended =>
    have later := (PageKind.discard_absent_ends _ _ (consistent.slots.allocated found)).of_done ended
    refine ofEnvironment (show environment.files = _ from ?_)
    rw [later]
    cases page.kind.slot? <;> rfl
  | @discardResident _ key page _ _ _ found resident ended =>
    have isLoaded := consistent.fits.isLoaded found resident
    rw [environment_endResident] at ofEnvironment ofOther ⊢
    rcases PageKind.sameBut_of_discard_resident isLoaded ended with rfl | ⟨backing, isFile, same⟩
    · rfl
    · refine ofOther ?_ same
      exact elsewhere key page.number page backing ⟨rfl, rfl⟩ found (by rw [isFile]; rfl)
  | _ => exact ofEnvironment (by rw [kept trivial])

end Transition

end DemandPaging

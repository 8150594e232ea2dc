import DemandPaging.Proofs.Window.Copy
import DemandPaging.Proofs.Window.Records

/-!
# What programs may do around a window

`Operation.SparesMapping` lists what must not happen while a window is in use: nothing else may get at
its file, and neither its pages nor its record may be removed. All other operations, on whatever spaces,
leave the window open, and what they may do to the machine does not change what the window shows.
-/

namespace DemandPaging

variable {config : Config}

open Machine

/-! ## Operations that leave a page in place -/

namespace Transition

variable {transition : Transition config} {key other child parent : SpaceKey}
  {number : PageNumber}

/-- Copying to a space takes none of its pages away. -/
theorem Clones.keepsPage (clones : transition.Clones child parent) :
    transition.KeepsPage key number := by
  rcases clones with prepares | rfl | ⟨_, rfl⟩ | ⟨_, _, rfl⟩
  · cases transition <;> first | exact trivial | exact prepares.elim
  · exact trivial
  · exact trivial
  · exact trivial

/-- Dropping a space takes no page of another space away. -/
theorem Drops.keepsPage (drops : transition.Drops other) (elsewhere : other ≠ key) :
    transition.KeepsPage key number := by
  rcases drops with (discards | rfl) | rfl
  · cases transition <;> first | exact trivial | exact discards.elim | skip
    exact fun same => elsewhere (discards.symm.trans same.1)
  · exact trivial
  · exact trivial

/-- Accesses to another space take no page of this one away. -/
theorem Accesses.keepsPage {accessed : PageNumber} (accesses : transition.Accesses other accessed)
    (elsewhere : other ≠ key) : transition.KeepsPage key number := by
  rcases accesses with loads | rfl | rfl
  · exact loads.keepsPage
  · exact trivial
  · exact fun same => elsewhere same.1

end Transition

/-- A request of another space takes no page of this one away. -/
theorem SpaceRequest.Takes.keepsPage {space key : SpaceKey} {asked : SpaceRequest config}
    {current : Machine config} {transition : Transition config} {number : PageNumber}
    (takes : asked.Takes space current transition) (elsewhere : space ≠ key) :
    transition.KeepsPage key number := by
  cases asked with
  | allocate => rcases takes with ⟨_, rfl⟩ | ⟨_, _, _, rfl⟩ <;> exact trivial
  | claim | fault | userFault => exact Transition.Accesses.keepsPage takes elsewhere
  | remove =>
    rw [show transition = _ from takes]
    exact fun same => elsewhere same.1
  | recordStackPointer => exact takes ▸ trivial
  | read =>
    obtain ⟨_, accesses⟩ := takes
    exact accesses.keepsPage elsewhere
  | write =>
    rcases takes with ⟨_, accesses⟩ | ⟨_, _, _, rfl⟩
    · exact accesses.keepsPage elsewhere
    · exact trivial
  | map => rcases takes with ⟨_, rfl⟩ | rfl | rfl | ⟨_, _, _, rfl⟩ <;> exact trivial
  | unmap | tearDown => exact Transition.Drops.keepsPage (.inl takes) elsewhere

/-- An operation on a space, which may take pages of the space away. -/
def Operation.WorksOn (key : SpaceKey) : Operation config → Prop
  | .drop other | .request other _ => other = key
  | _ => False

/-- An operation on another space takes no page of this one away. -/
theorem Operation.Takes.keepsPage {operation : Operation config} {start current : Machine config}
    {transition : Transition config} {key : SpaceKey} {number : PageNumber}
    (takes : operation.Takes start current transition) (elsewhere : ¬ operation.WorksOn key)
    (known : (start.spaces.get? key).isSome) (unissued : start.Unissued) :
    transition.KeepsPage key number := by
  cases operation with
  | create | setSwapFaults => exact takes ▸ trivial
  | drop => exact Transition.Drops.keepsPage takes elsewhere
  | fork parent =>
    rcases takes with rfl | clones | drops
    · exact trivial
    · exact clones.keepsPage
    · apply drops.keepsPage
      rintro rfl
      rw [unissued] at known
      cases known
  | copy => exact Transition.Clones.keepsPage takes
  | request => exact SpaceRequest.Takes.keepsPage takes elsewhere
  | shutdown => exact takes.elim
  | takeFrame | returnFrame | createFile =>
    obtain ⟨_, rfl⟩ := takes
    exact trivial
  | closeFile | writeFile | setFileFaults => exact takes ▸ trivial

/-- An operation on another space leaves the pages of this one in their places. -/
theorem Operation.Performs.retains {operation : Operation config} {machine later : Machine config}
    {result : Except VmError Answer} (performs : operation.Performs machine result later)
    (atRest : machine.AtRest) {key : SpaceKey} (elsewhere : ¬ operation.WorksOn key)
    (number : PageNumber) : machine.Retains key number later := by
  intro page found
  exact (performs.path atRest).retains atRest.consistent
    (fun _ _ takes => takes.keepsPage elsewhere (isSome_of_page? found)
      atRest.consistent.known.unissued) page found

/-- The operations that do not interfere with a mapping of a file on a number of pages of a space:
neither its pages nor its record are removed, and nothing else gets at the file. The space must not be
copied, and other spaces must not be copied to it if that replaces its record. -/
def Operation.SparesMapping (key : SpaceKey) (start : PageNumber) (count : Nat) (file : FileId)
    (machine : Machine config) : Operation config → Prop
  | .drop other | .fork other | .request other .tearDown => other ≠ key
  | .copy child parent => parent ≠ key ∧
    (child = key → (machine.regions parent).get? start = none)
  | .request _ (.allocate (.file source _ _ _) _ _ _) => source ≠ file
  | .request _ (.map _ _ _ source _) => source ≠ file
  | .request other (.remove address) =>
    other = key → ¬ ∃ index < count, address.page config = start.advance index
  | .request other (.unmap address) => other = key → address.page config ≠ start
  | .writeFile other _ _ => other ≠ file
  | .setFileFaults other change => other = file →
    (change (machine.environment.file other).faults).AreHarmless
  | _ => True

instance (key : SpaceKey) (start : PageNumber) (count : Nat) (file : FileId)
    (machine : Machine config) (operation : Operation config) :
    Decidable (operation.SparesMapping key start count file machine) :=
  match operation with
  | .drop other | .fork other | .request other .tearDown => inferInstanceAs (Decidable (other ≠ key))
  | .copy child parent => inferInstanceAs (Decidable (parent ≠ key ∧
      (child = key → (machine.regions parent).get? start = none)))
  | .request _ (.allocate (.file source _ _ _) _ _ _) | .request _ (.map _ _ _ source _) =>
    inferInstanceAs (Decidable (source ≠ file))
  | .request other (.remove address) => inferInstanceAs (Decidable (other = key →
      ¬ ∃ index < count, address.page config = start.advance index))
  | .request other (.unmap address) =>
    inferInstanceAs (Decidable (other = key → address.page config ≠ start))
  | .writeFile other _ _ => inferInstanceAs (Decidable (other ≠ file))
  | .setFileFaults other change => inferInstanceAs (Decidable (other = file →
      (change (machine.environment.file other).faults).AreHarmless))
  | .request _ (.allocate .anonymous _ _ _) | .request _ (.allocate (.malformed _) _ _ _)
  | .request _ (.claim _) | .request _ (.fault _) | .request _ (.userFault _)
  | .request _ (.recordStackPointer _) | .request _ (.read _ _) | .request _ (.write _ _)
  | .create _ | .shutdown _ | .takeFrame | .returnFrame | .createFile _ | .closeFile _
  | .setSwapFaults _ _ _ => isTrue trivial

namespace FileWindow

variable (window : FileWindow config)

/-- The operations that do not interfere with a window. -/
abbrev Admits (machine : Machine config) (operation : Operation config) : Prop :=
  operation.SparesMapping window.space window.plan.start window.count window.file machine

/-- The window has its record, and there is no other record of its handle. -/
structure IsRecorded (machine : Machine config) : Prop where
  recorded : ∃ region, (machine.regions window.space).get? window.plan.start = some region ∧
    region.handle = window.plan.handle ∧
      ∀ number, window.IsPage number → region.range.contains number = true
  alone : ∀ key start region, (machine.regions key).get? start = some region →
    region.handle = window.plan.handle → start = window.plan.start

variable {window} {machine current later : Machine config} {content : Nat → UInt8}
  {operation : Operation config} {transition : Transition config}
  {result : Except VmError Answer}

namespace Admits

/-- An operation that a window admits asks for pages of other files only. -/
theorem not_asksFor (admits : window.Admits machine operation) {id : FileId}
    (asks : operation.AsksFor id) : id ≠ window.file := by
  cases operation with
  | request key asked =>
    cases asked with
    | allocate request =>
      cases request with
      | file =>
        have source : _ = id := asks
        exact source ▸ admits
      | _ => exact asks.elim
    | map =>
      have source : _ = id := asks
      exact source ▸ admits
    | _ => exact asks.elim
  | _ => exact asks.elim

/-- An operation that a window admits copies other spaces only. -/
theorem not_copiesFrom (admits : window.Admits machine operation) {parent : SpaceKey}
    (copies : operation.CopiesFrom parent) : parent ≠ window.space := by
  cases operation with
  | fork =>
    have model : _ = parent := copies
    exact model ▸ admits
  | copy =>
    have model : _ = parent := copies
    exact model ▸ admits.1
  | _ => exact copies.elim

/-- An operation that a window admits leaves its record there. -/
theorem sparesRecord (admits : window.Admits machine operation)
    (occupied : (machine.page? window.space window.plan.start).isSome) :
    operation.SparesRecord machine window.space window.plan.start := by
  cases operation with
  | drop => exact admits
  | copy => exact admits.2
  | request key asked =>
    cases asked with
    | map => exact fun _ _ => occupied
    | unmap => exact admits
    | tearDown => exact admits
    | _ => exact trivial
  | _ => exact trivial

/-- What admitted operations do to the machine, other than writes through the window and changes of the
failures of files, is tolerated. -/
theorem tolerates (admits : window.Admits machine operation)
    (reflects : window.Reflects content current)
    (takes : operation.Takes machine current transition)
    (origin : transition.HasOrigin operation current)
    (written : ∀ address bytes, operation ≠ .request window.space (.write address bytes))
    (faulted : ∀ file change, operation ≠ .setFileFaults file change) :
    window.Tolerates current transition := by
  cases transition with
  | register key page =>
    intro backing uses ours
    rcases origin backing uses with asks | ⟨parent, number, model, copies, found, same⟩
    · exact admits.not_asksFor asks ours
    · exact admits.not_copiesFrom copies (reflects.placed found same ours).1
  | copy child parent =>
    rcases takes.isDueTo with rfl | rfl
    · exact admits
    · exact admits.1
  | store key =>
    obtain ⟨address, bytes, rfl⟩ := takes.isDueTo
    rintro page backing ⟨rfl, has⟩
    exact written address bytes rfl
  | setFile id contents =>
    rintro rfl
    cases takes.revises with
    | opened | closed => exact ⟨rfl, reflects.harmless⟩
    | written => exact absurd rfl admits
    | faulted => exact absurd rfl (faulted _ _)
  | _ => exact trivial

end Admits

/-- An operation that a window admits, but for a write to its space, changes nothing about what the
window shows. -/
theorem Reflects.of_performs (reflects : window.Reflects content machine)
    (performs : operation.Performs machine result later) (atRest : machine.AtRest)
    (admits : window.Admits machine operation)
    (written : ∀ address bytes, operation ≠ .request window.space (.write address bytes)) :
    window.Reflects content later := by
  have path := performs.origins atRest
  cases operation with
  | setFileFaults file change =>
    cases performs with
    | refused => exact reflects
    | noFrame outside => rcases outside with same | same <;> cases same
    | setFileFaults =>
      apply reflects.of_leads .setFile atRest.consistent
      rintro rfl
      exact ⟨rfl, admits rfl⟩
  | _ =>
    exact .of_path path atRest.consistent reflects fun _ _ reflects ⟨takes, origin⟩ =>
      admits.tolerates reflects takes origin written nofun

/-- A record owns a page of the window if it is of the same handle and covers the page. -/
theorem Has.owned_iff {number : PageNumber} {page : Page config} {backing : FileBacking config}
    (has : window.Has machine number page backing) (fits : machine.Fits) {region : Region} :
    (machine.page? window.space number).any region.owns = true ↔
      region.range.contains number = true ∧ region.handle = window.plan.handle := by
  rw [has.found, Option.any_some, Region.owns, Page.uses, has.uses, has.number_eq fits,
    Bool.and_eq_true, beq_iff_eq, has.holds.handle_eq, eq_comm (a := window.plan.handle)]

/-- No page of the window is taken away by removing a mapping that is not its own. -/
theorem IsOpen.of_unmapsFile {start : PageNumber} {region : Region}
    (isOpen : window.IsOpen machine) (unmaps : UnmapsFile window.space start region machine later)
    (fits : machine.Fits) (other : region.handle ≠ window.plan.handle) : window.IsOpen later := by
  apply isOpen.of_retains
  intro number backing holds
  obtain ⟨page, has, _⟩ := isOpen number backing holds
  apply Retains.of_page?
  rw [unmaps.page?_eq]
  exact if_neg fun ⟨_, owned⟩ => other ((has.owned_iff fits).mp owned).2

/-- Requests of the space of a window that are admitted leave the window open. -/
theorem Stands.isOpen_of_request {asked : SpaceRequest config}
    (stands : window.Stands content machine)
    (performs : asked.Performs window.space machine result later) (atRest : machine.AtRest)
    (spaceExists : (machine.spaces.get? window.space).isSome)
    (admits : window.Admits machine (.request window.space asked))
    (recorded : window.IsRecorded machine) : window.IsOpen later := by
  have retained : (∀ number, machine.Retains window.space number later) → window.IsOpen later :=
    fun retains => stands.isOpen.of_retains fun number _ _ => retains number
  have path := performs.path atRest spaceExists
  have unharmed : (∀ number middle transition, asked.Takes window.space middle transition →
      transition.KeepsPage window.space number) → window.IsOpen later :=
    fun keeps => retained fun number => path.retains atRest.consistent (keeps number)
  cases asked with
  | allocate =>
    apply unharmed
    rintro number middle transition (⟨_, rfl⟩ | ⟨_, _, _, rfl⟩) <;> exact trivial
  | recordStackPointer =>
    apply unharmed
    rintro number middle transition rfl
    exact trivial
  | map =>
    apply unharmed
    rintro number middle transition (⟨_, rfl⟩ | rfl | rfl | ⟨_, _, _, rfl⟩) <;> exact trivial
  | remove address =>
    apply stands.isOpen.of_retains
    intro number backing holds
    apply path.retains atRest.consistent
    rintro middle transition rfl ⟨_, rfl⟩
    exact admits rfl holds.isPage
  | claim =>
    cases performs with
    | refused => exact stands.isOpen
    | claimed _ accessed => exact retained fun _ => accessed.retains atRest
    | unclaimed passes =>
      exact retained fun _ => passes.path.retains atRest.consistent fun _ _ isQuiet =>
        isQuiet.keepsPage
  | fault =>
    cases performs with
    | refused => exact stands.isOpen
    | resolved accessed => exact retained fun _ => accessed.retains atRest
    | unresolved denied => exact retained fun _ => denied.retains atRest
  | userFault =>
    cases performs with
    | refused => exact stands.isOpen
    | retried accessed => exact retained fun _ => accessed.retains atRest
    | exited denied =>
      exact retained fun _ => (denied.retains atRest).trans (.of_page? (by rw [page?_record]))
  | read =>
    cases performs with
    | refused => exact stands.isOpen
    | read reads => exact (stands.of_copyFromUser reads atRest).1.isOpen
  | write =>
    cases performs with
    | refused => exact stands.isOpen
    | written writes =>
      obtain ⟨_, _, _, later⟩ := stands.of_copyToUser writes atRest
      exact later.isOpen
  | unmap address =>
    cases performs with
    | refused | notUnmapped => exact stands.isOpen
    | unmapped _ unmaps =>
      -- The record that is removed is not that of the window, so its handle is another one.
      apply stands.isOpen.of_unmapsFile unmaps atRest.consistent.fits
      exact fun same => admits rfl (recorded.alone _ _ _ unmaps.recorded same)
  | tearDown => exact absurd rfl admits

/-- An operation that a window admits does not close it. -/
theorem Stands.isOpen_of_performs (stands : window.Stands content machine)
    (performs : operation.Performs machine result later) (atRest : machine.AtRest)
    (admits : window.Admits machine operation) (recorded : window.IsRecorded machine) :
    window.IsOpen later := by
  by_cases works : operation.WorksOn window.space
  · cases operation with
    | drop => exact absurd works admits
    | request key asked =>
      obtain rfl : key = window.space := works
      cases performs with
      | refused => exact stands.isOpen
      | noFrame outside => rcases outside with same | same <;> cases same
      | requested spaceExists performs =>
        exact stands.isOpen_of_request performs atRest spaceExists admits recorded
    | _ => exact works.elim
  · exact stands.isOpen.of_retains fun number _ _ => performs.retains atRest works number

/-- The first page of an open window is registered. -/
theorem IsOpen.exists_page (isOpen : window.IsOpen machine) :
    (machine.page? window.space window.plan.start).isSome := by
  obtain ⟨page, has, _⟩ := isOpen _ _ ⟨0, window.occupied, rfl, rfl⟩
  rw [← PageNumber.advance_zero window.plan.start, has.found]
  rfl

/-- The record of a window stays, and no other gets its handle: new mappings get new handles. -/
theorem IsRecorded.of_yields (recorded : window.IsRecorded machine)
    (yields : operation.Yields machine result later) (atRest : machine.AtRest)
    (permitted : operation.IsPermitted machine) (opened : machine.RecordsOpened)
    (admits : window.Admits machine operation) (isOpen : window.IsOpen machine) :
    window.IsRecorded later where
  recorded := by
    obtain ⟨region, found, ours, covers⟩ := recorded.recorded
    refine ⟨region, ?_, ours, covers⟩
    exact yields.record_stays atRest permitted (admits.sparesRecord isOpen.exists_page) found
  alone := by
    intro key start region found ours
    cases yields.records atRest permitted found with
    | old found => exact recorded.alone _ _ _ found ours
    | @fresh _ _ _ _ _ plan _ _ maps _ _ _ same =>
      obtain ⟨first, known, handle, _⟩ := recorded.recorded
      have again : plan.handle = window.plan.handle := by
        rw [← ours, same]
      have older := opened _ _ _ known
      have newer := maps.fresh
      rw [handle] at older
      rw [again] at newer
      omega

end FileWindow

end DemandPaging

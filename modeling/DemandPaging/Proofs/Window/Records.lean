import DemandPaging.Proofs.Causes
import DemandPaging.Proofs.Regions

/-!
# Records that stay

A mapping keeps its record as long as the record is not removed with the mapping or with its space, and
no other mapping takes its place. Handles that mappings open are new, so a record is the only one of its
handle until its space is copied.
-/

namespace DemandPaging

variable {config : Config}

open Machine

/-- To go no page on is to stay. -/
theorem PageNumber.advance_zero (number : PageNumber) : number.advance 0 = number :=
  congrArg PageNumber.mk (UInt64.ofNat_toNat ..)

/-- Bytes take up a page at least. -/
theorem Word.ceilingDiv_pos {dividend : Word} (positive : dividend ≠ 0) (config : Config) :
    0 < (Word.ceilingDiv dividend config.pageSizeWord).toNat := by
  have covers := (Word.ceilingDiv_bounds dividend config.pageSizeWord
    (by rw [Config.toNat_pageSizeWord]; exact config.pageSize_pos)).1
  apply Nat.pos_of_ne_zero
  intro zero
  rw [zero, Nat.zero_mul] at covers
  exact positive (UInt64.toNat_inj.mp (Nat.le_zero.mp covers))

namespace KernelAction

variable {machine later : Machine config} {key : SpaceKey}

/-- What a mapping that is established has been checked for. -/
theorem mapFile_checks {address result : VirtualAddress} {length offset : Word} {writable : Bool}
    {file : FileHandle}
    (done : mapFile key address length writable file offset machine = .done result later) :
    address.word.toNat ≠ 0 ∧ address.word.toNat % config.pageSize = 0 ∧ length ≠ 0 ∧
      offset.toNat % config.pageSize = 0 ∧
      address.word.toNat + length.toNat ≤ config.userEnd.toNat := by
  obtain ⟨_, _, checked, done⟩ := Action.bind_eq_done_iff.mp done
  obtain ⟨placed, rfl⟩ := Action.require_eq_done_iff.mp checked
  obtain ⟨_, _, checked, done⟩ := Action.bind_eq_done_iff.mp done
  obtain ⟨sized, rfl⟩ := Action.require_eq_done_iff.mp checked
  obtain ⟨stop, _, within, done⟩ := Action.bind_eq_done_iff.mp done
  obtain ⟨_, _, checked, done⟩ := Action.bind_eq_done_iff.mp done
  obtain ⟨bounded, rfl⟩ := Action.require_eq_done_iff.mp checked
  simp only [Bool.and_eq_true, Bool.not_eq_true', VirtualAddress.isNull, beq_eq_false_iff_ne, ne_eq,
    VirtualAddress.isPageAligned_iff] at placed
  simp only [Bool.and_eq_true, bne_iff_ne, ne_eq, beq_iff_eq] at sized
  refine ⟨fun zero => placed.1 (UInt64.toNat_inj.mp zero), placed.2, sized.1, ?_, ?_⟩
  · rw [← config.toNat_offsetInPage, sized.2]
    rfl
  · cases reached : address.checkedAdd length with
    | none =>
      rw [reached] at within
      cases within
    | some last =>
      rw [reached] at within
      cases within
      rw [← VirtualAddress.toNat_of_checkedAdd reached]
      exact UInt64.le_iff_toNat_le.mp (of_decide_eq_true bounded)

/-- A request for a mapping that is granted establishes one of a file that exists. -/
theorem mapFile_of_mapped {address : VirtualAddress} {length offset : Word} {writable : Bool}
    {file : FileId}
    (done : (SpaceRequest.map address length writable file offset : SpaceRequest config).perform key
      machine = .done (.mappedAt address) later) :
    (machine.environment.files.get? file).isSome ∧
      mapFile key address length writable file.creationHandle offset machine =
        .done address later := by
  obtain ⟨reason, middle, checked, done⟩ := Action.bind_eq_done_iff.mp done
  obtain ⟨_, _, seen, checked⟩ := Action.bind_eq_done_iff.mp checked
  cases seen
  cases known : machine.environment.files.get? file with
  | none =>
    simp only [known] at checked
    cases checked
    cases done
  | some contents =>
    simp only [known] at checked
    cases held : contents.creatorHolds with
    | false =>
      rw [held] at checked
      cases checked
      cases done
    | true =>
      rw [held] at checked
      cases checked
      simp only [map_eq_pure_bind] at done
      obtain ⟨reached, _, mapped, answered⟩ := Action.bind_eq_done_iff.mp done
      cases answered
      exact ⟨rfl, mapped⟩

end KernelAction

namespace Operation

open KernelAction

/-- The operations after which a record is still there: its space and its mapping are not removed, and
no other mapping begins at its first page. -/
def SparesRecord (machine : Machine config) (key : SpaceKey) (start : PageNumber) :
    Operation config → Prop
  | .drop other | .request other .tearDown => other ≠ key
  | .copy child parent => child = key → (machine.regions parent).get? start = none
  | .request other (.map address _ _ _ _) =>
    other = key → address.page config = start → (machine.page? key start).isSome
  | .request other (.unmap address) => other = key → address.page config ≠ start
  | _ => True

variable {operation : Operation config} {machine later : Machine config}
  {result : Except VmError Answer}

/-- A record that an operation spares is there afterwards. -/
theorem Yields.record_stays (yields : operation.Yields machine result later)
    (atRest : machine.AtRest) (permitted : operation.IsPermitted machine) {key : SpaceKey}
    {start : PageNumber} {region : Region} (spares : operation.SparesRecord machine key start)
    (recorded : (machine.regions key).get? start = some region) :
    (later.regions key).get? start = some region := by
  cases yields.revisesRecords atRest permitted with
  | kept same =>
    rw [same]
    exact recorded
  | @cleared _ _ space ends same =>
    have elsewhere : key ≠ space := by
      rcases ends with rfl | rfl <;> exact Ne.symm spares
    rw [same, if_neg elsewhere]
    exact recorded
  | copied copies same =>
    rw [same]
    split
    · next here =>
      subst here
      refine Option.or_eq_some_iff.mpr (.inr ⟨?_, recorded⟩)
      rcases copies with rfl | ⟨-, unknown⟩
      · exact spares rfl
      · rw [regions_of_unknown unknown] at recorded
        cases recorded
    · exact recorded
  | @mapped space _ _ _ _ _ plan range maps starts _ counted same =>
    rw [same]
    split
    · next here =>
      subst here
      have other : plan.start ≠ start := by
        intro taken
        obtain ⟨-, done⟩ := withSpace_eq_done yields nofun
        have sized := (mapFile_checks (mapFile_of_mapped done).2).2.2.1
        have positive : 0 < range.length.toNat := counted ▸ Word.ceilingDiv_pos sized config
        have vacant := maps.vacant 0 positive
        rw [PageNumber.advance_zero, taken] at vacant
        have known := spares rfl (starts.symm.trans taken)
        rw [vacant] at known
        cases known
      rw [OrderedMap.get?_insert_of_ne other]
      exact recorded
    · exact recorded
  | @unmapped space address _ same =>
    rw [same]
    split
    · next here =>
      rw [OrderedMap.get?_erase_of_ne (spares here.symm)]
      exact recorded
    · exact recorded

end Operation

/-! ## Handles of mappings are new -/

/-- The handles of all records have been opened. -/
def Machine.RecordsOpened (machine : Machine config) : Prop :=
  ∀ key start region, (machine.regions key).get? start = some region →
    region.handle.serial ≤ (machine.environment.file region.handle.file).reopens

/-- No handle that was opened is forgotten by a transition. -/
theorem Transition.Leads.reopens_le {transition : Transition config} {machine next : Machine config}
    (leads : transition.Leads machine next) (consistent : machine.Consistent)
    (grows : ∀ id contents, transition = .setFile id contents →
      (machine.environment.file id).reopens ≤ contents.reopens) (id : FileId) :
    (machine.environment.file id).reopens ≤ (next.environment.file id).reopens := by
  by_cases keeps : transition.KeepsFiles
  · have terms := (leads.serves consistent.fits consistent.slots keeps).sameTerms.file id
    have same := congrArg File.reopens terms
    exact Nat.le_of_eq same.symm
  · cases leads with
    | @setFile _ other contents =>
      show _ ≤ ((machine.environment.setFile other contents).file id).reopens
      rw [Environment.file_setFile]
      split
      · next here => exact here.1 ▸ grows other contents rfl
      · exact Nat.le_refl _
    | @createFile _ data =>
      by_cases fresh : id = ⟨machine.environment.files.size⟩
      · rw [fresh, Environment.file, consistent.names.fresh_file]
        exact Nat.zero_le _
      · have same := (OrderedMap.get?_insert_eq machine.environment.files _ id
          ({ data := data } : File)).trans (if_neg fresh)
        have counts := congrArg (fun file : Option File => (file.getD {}).reopens) same
        exact Nat.le_of_eq counts.symm
    | listInitializer => exact Nat.le_refl _
    | _ => exact (keeps trivial).elim

/-- No handle that was opened is forgotten on a way. -/
theorem Path.reopens_le {permits : Machine config → Transition config → Prop}
    {start last : Machine config} (path : Path permits start last) (consistent : start.Consistent)
    (grows : ∀ machine id contents, permits machine (.setFile id contents) →
      (machine.environment.file id).reopens ≤ contents.reopens) (id : FileId) :
    (start.environment.file id).reopens ≤ (last.environment.file id).reopens := by
  induction path with
  | refl => exact Nat.le_refl _
  | step prior leads permitted inductionHypothesis =>
    refine Nat.le_trans inductionHypothesis (leads.reopens_le (prior.consistent consistent) ?_ id)
    rintro other contents rfl
    exact grows _ _ _ permitted

namespace Operation

variable {operation : Operation config} {start machine later : Machine config}
  {result : Except VmError Answer} {id : FileId} {contents : File}

/-- What operations make of a file forgets no handle that was opened. -/
theorem Revises.reopens_le {before : File} (revises : operation.Revises id before contents) :
    before.reopens ≤ contents.reopens := by
  cases revises with
  | opened => exact Nat.le_succ _
  | closed | written | faulted => exact Nat.le_refl _

/-- No operation counts the handles of a file down. -/
theorem Performs.reopens_le (performs : operation.Performs machine result later)
    (atRest : machine.AtRest) (id : FileId) :
    (machine.environment.file id).reopens ≤ (later.environment.file id).reopens :=
  (performs.path atRest).reopens_le atRest.consistent
    (fun _ _ _ takes => takes.revises.reopens_le) id

/-- One operation preserves that the handles of all records have been opened. -/
theorem Yields.recordsOpened (yields : operation.Yields machine result later)
    (atRest : machine.AtRest) (permitted : operation.IsPermitted machine)
    (opened : machine.RecordsOpened) : later.RecordsOpened := by
  intro key start region recorded
  have performs := yields.performs atRest permitted
  have kept : (machine.regions key).get? start = some region →
      region.handle.serial ≤ (later.environment.file region.handle.file).reopens :=
    fun recorded => Nat.le_trans (opened _ _ _ recorded) (performs.reopens_le atRest _)
  cases yields.records atRest permitted recorded with
  | old recorded =>
    exact Nat.le_trans (opened _ _ _ recorded) (performs.reopens_le atRest _)
  | fresh isMap =>
    subst isMap
    cases performs with
    | refused => exact kept recorded
    | noFrame outside => rcases outside with same | same <;> cases same
    | requested spaceExists performs =>
      cases performs with
      | refused => exact kept recorded
      | unmappable leaves =>
        have regions : later.regions = machine.regions := by
          obtain ⟨_, rfl, _⟩ := leaves.onlyEnvironment
          rfl
        exact kept (regions ▸ recorded)
      | @mapped _ _ _ _ _ plan range _ _ maps _ _ source =>
        obtain ⟨-, done⟩ := KernelAction.withSpace_eq_done yields nofun
        have known := (KernelAction.mapFile_of_mapped done).1
        rw [maps.regions_eq spaceExists, if_pos rfl, OrderedMap.get?_insert_eq] at recorded
        split at recorded
        · cases recorded
          have counted : (later.environment.file plan.handle.file).reopens = plan.handle.serial := by
            rw [maps.maps]
            show ((machine.environment.setFile _ _).file _).reopens = _
            rw [Environment.file_setFile, if_pos ⟨rfl, source ▸ known⟩]
          exact Nat.le_of_eq counted.symm
        · exact kept recorded

end Operation

/-- In every reachable machine, the handles of all records have been opened. -/
theorem Run.recordsOpened {frames slots : Nat} {log : OperationLog config} {machine : Machine config}
    (run : Run (.boot config frames slots) log machine) : machine.RecordsOpened := by
  have booted : (Machine.boot config frames slots).RecordsOpened := by
    intro key start region recorded
    rw [Machine.regions_of_unknown rfl] at recorded
    cases recorded
  induction run with
  | nil => exact booted
  | step prior permitted yields inductionHypothesis =>
    exact yields.recordsOpened prior.atRest permitted inductionHypothesis

end DemandPaging

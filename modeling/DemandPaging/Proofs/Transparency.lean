import DemandPaging.Proofs.Flat.Operation

/-!
# Paging is transparent

The content of an anonymous page that has been used stays what it is until bytes are copied to it or it
is removed, wherever evictions and loads put it in between, and a copy from user memory returns what
a memory without paging has.
-/

namespace DemandPaging

variable {config : Config}

namespace Machine

/-- The content of an anonymous page that has been loaded at least once. -/
def content? (machine : Machine config) (key : SpaceKey) (number : PageNumber) :
    Option (PageBytes config) :=
  (machine.page? key number).bind fun page =>
    match page.kind with
    | .anonymous _ => some (machine.content page)
    | _ => none

variable {machine : Machine config} {key : SpaceKey} {number : PageNumber}

/-- The pages that have content are those of the memory without paging that have it. -/
theorem content?_eq_some_iff {bytes : PageBytes config} :
    machine.content? key number = some bytes ↔
      machine.flat.page? key number = some (.present bytes) := by
  unfold content?
  cases found : machine.page? key number with
  | none => simp [flat_page?_of_vacant found]
  | some page =>
    rw [flat_page?_of_found found]
    match kindIs : page.kind with
    | .unloaded .anonymous _ => simp [kindIs, flatPage_of_pending kindIs]
    | .unloaded (.file _) _ => simp [kindIs, flatPage_of_pendingFile kindIs]
    | .anonymous _ => simp [kindIs, flatPage_of_anonymous kindIs]
    | .file _ => simp [kindIs, flatPage_of_file kindIs]

/-- Pages have the same content if a memory without paging has the same in them. -/
theorem content?_eq_of_flat_page {later : Machine config} {probe : SpaceKey} {other : PageNumber}
    (same : later.flat.page? probe other = machine.flat.page? key number) :
    later.content? probe other = machine.content? key number := by
  refine Option.ext fun bytes => ?_
  rw [content?_eq_some_iff, content?_eq_some_iff, same]

/-- The content of pages can be read from the memory without paging. -/
theorem content?_eq_of_flat {later : Machine config} (same : later.flat.page? = machine.flat.page?) :
    later.content? = machine.content? := by
  funext probe other
  exact content?_eq_of_flat_page (congrFun (congrFun same probe) other)

end Machine

namespace Operation

/-- A page is removed by an operation, if it is there. -/
def Removes (operation : Operation config) (key : SpaceKey) (number : PageNumber) : Prop :=
  match operation with
  | .drop space => space = key
  | .request space (.remove address) => space = key ∧ address.page config = number
  | .request space .tearDown => space = key
  | _ => False

/-- What an operation does to pages with content: a copy to user memory stores its bytes in the
pages of its own space that it reaches, all of them if it succeeds, and every other operation leaves
the content of all pages alone that it does not remove. -/
def PreservesContent (operation : Operation config) (result : Except VmError Answer)
    (machine later : Machine config) : Prop :=
  match operation with
  | .request space (.write address bytes) =>
    ∃ reached ≤ bytes.size, (result = .ok .done → reached = bytes.size) ∧
      (∀ error, result = .error error →
        StopsAt config address bytes.size reached (.error error)) ∧
      ∀ key number content, machine.content? key number = some content →
        (key = space → number.IsTouched config address.word.toNat 0 reached →
          later.content? key number = some (content.patched number address.word.toNat bytes)) ∧
        (¬ (key = space ∧ number.IsTouched config address.word.toNat 0 reached) →
          later.content? key number = some content)
  | _ => ∀ key number content, machine.content? key number = some content →
    ¬ operation.Removes key number → later.content? key number = some content

/-- What a copy from user memory returns that succeeds: the content of the pages that it reads. -/
def ReadsContent (operation : Operation config) (result : Except VmError Answer)
    (later : Machine config) : Prop :=
  ∀ key address buffer filled, operation = .request key (.read address buffer) →
    result = .ok (.filled filled (.ok ())) →
      filled.size = buffer.size ∧ ∀ index number content, index < buffer.size →
        (address.word.toNat + index) / config.pageSize = number.word.toNat →
          later.content? key number = some content →
            filled[index]? = some (content.byteAt (address.word.toNat + index))

end Operation

namespace FlatMemory

variable {before after : FlatMemory config} {key probe : SpaceKey} {number : PageNumber}
  {bytes : PageBytes config}

/-- A page with content is not changed where nothing happens to pages. -/
theorem Idles.page_eq (idles : before.Idles after)
    (present : before.page? probe number = some (.present bytes)) :
    after.page? probe number = some (.present bytes) := by
  rw [idles.pages]
  exact present

/-- A page with content is used as it is. -/
theorem Visits.page_eq {touched : PageNumber → Prop}
    {store : PageNumber → PageBytes config → PageBytes config}
    (visits : before.Visits key touched store after) (here : touched number)
    (present : before.page? key number = some (.present bytes)) :
    after.page? key number = some (.present (store number bytes)) := by
  obtain ⟨page, uses, became⟩ := visits.visited number here
  rw [present] at uses
  cases uses
  exact became

/-- A page with content is not changed by being used. -/
theorem Looks.page_eq {touched : PageNumber → Prop} (looks : before.Looks key touched after)
    (present : before.page? probe number = some (.present bytes)) :
    after.page? probe number = some (.present bytes) := by
  by_cases here : probe = key ∧ touched number
  · obtain ⟨rfl, here⟩ := here
    exact Visits.page_eq looks here present
  · rw [looks.others probe number fun own touches => here ⟨own, touches⟩]
    exact present

/-- Requests other than copies to user memory keep the content of pages that they do not remove. -/
theorem Answers.page_eq {asked : SpaceRequest config} {result : Except VmError Answer}
    (answers : Answers key asked result before after)
    (notWrite : ∀ address piece, asked ≠ .write address piece)
    (kept : ¬ (Operation.request key asked).Removes probe number)
    (present : before.page? probe number = some (.present bytes)) :
    after.page? probe number = some (.present bytes) := by
  cases answers with
  | refused idles | failed _ idles | exited idles | pointed idles => exact idles.page_eq present
  | claimed _ looks | resolved looks | retried looks | read _ _ looks => exact looks.page_eq present
  | allocated _ _ _ _ vacant pages =>
    rw [pages, amend_of_ne]
    · exact present
    · rintro ⟨rfl, rfl⟩
      rw [vacant] at present
      cases present
  | removed _ _ pages =>
    rw [pages, amend_of_ne]
    · exact present
    · exact fun here => kept ⟨here.1.symm, here.2.symm⟩
  | written => exact absurd rfl (notWrite _ _)
  | mapped _ _ vacant _ others =>
    rw [others]
    · exact present
    · rintro rfl index inside rfl
      rw [vacant index inside] at present
      cases present
  | unmapped _ _ pages =>
    rcases pages probe number with same | ⟨rfl, foreign, _⟩
    · rw [same]
      exact present
    · rw [foreign] at present
      cases present
  | tornDown _ pages =>
    rw [pages]
    exact (if_neg fun own => kept own.symm).trans present

/-- What an operation on a space may do to the memory is what its request may do. -/
theorem Performs.answers {asked : SpaceRequest config} {result : Except VmError Answer}
    (performs : Performs (.request key asked) result before after) :
    Answers key asked result before after := by
  cases performs with
  | idle unrelated => exact unrelated.elim
  | refused idles => exact .refused idles
  | requested answers => exact answers

/-- Operations other than copies to user memory keep the content of pages that they do not
remove. -/
theorem Performs.page_eq {operation : Operation config} {result : Except VmError Answer}
    (performs : Performs operation result before after)
    (notWrite : ∀ space address piece, operation ≠ .request space (.write address piece))
    (kept : ¬ operation.Removes probe number)
    (present : before.page? probe number = some (.present bytes)) :
    after.page? probe number = some (.present bytes) := by
  cases performs with
  | idle _ idles | refused idles | unforked idles => exact idles.page_eq present
  | requested answers =>
    exact answers.page_eq (fun _ _ same => notWrite _ _ _ (congrArg _ same)) kept present
  | dropped _ pages =>
    rw [pages]
    exact (if_neg fun own => kept own.symm).trans present
  | forked fresh pages =>
    rw [pages]
    refine (if_neg ?_).trans present
    rintro rfl
    rw [fresh] at present
    cases present
  | @copied child parent _ _ vacant pages =>
    rw [pages]
    by_cases own : probe = child
    · subst own
      refine (if_pos rfl).trans ?_
      have unmodelled : before.page? parent number = none := by
        refine Option.not_isSome_iff_eq_none.mp fun there => ?_
        rw [vacant number there] at present
        cases present
      rw [unmodelled]
      exact present
    · exact (if_neg own).trans present
  | uncopied pages =>
    rcases pages probe number with same | ⟨rfl, missing⟩
    · rw [same]
      exact present
    · rw [missing] at present
      cases present

end FlatMemory

namespace Operation

open Machine

variable {operation : Operation config} {result : Except VmError Answer}
  {machine later : Machine config}

/-- A copy to user memory keeps what it does not store over. -/
theorem preservesContent_of_write {space : SpaceKey} {address : VirtualAddress} {bytes : Bytes}
    (answers : FlatMemory.Answers space (.write address bytes) result machine.flat later.flat) :
    (Operation.request space (.write address bytes)).PreservesContent result machine later := by
  cases answers with
  | refused idles =>
    refine ⟨0, Nat.zero_le _, nofun, nofun, fun key number content present => ?_⟩
    refine ⟨fun _ touched => absurd touched (PageNumber.not_isTouched_self 0), fun _ => ?_⟩
    exact content?_eq_some_iff.mpr (idles.page_eq (content?_eq_some_iff.mp present))
  | failed notWrite => exact absurd rfl (notWrite _ _)
  | @written _ _ outcome reached _ _ within stops visits =>
    refine ⟨reached, within, fun succeeded => ?_, fun error isError => ?_,
      fun key number content present => ?_⟩
    · cases outcome with
      | ok done => exact stops
      | error error => cases succeeded
    · cases outcome with
      | ok done => cases isError
      | error error => exact stops
    · rw [content?_eq_some_iff] at present
      refine ⟨fun own touched => ?_, fun elsewhere => ?_⟩
      · subst own
        exact content?_eq_some_iff.mpr (visits.page_eq touched present)
      · rw [content?_eq_some_iff, visits.others key number fun own here => elsewhere ⟨own, here⟩]
        exact present

/-- Every operation preserves the content of pages, as far as it is supposed to. -/
theorem preservesContent_of_performs
    (performs : FlatMemory.Performs operation result machine.flat later.flat) :
    operation.PreservesContent result machine later := by
  by_cases isWrite : ∃ space address bytes, operation = .request space (.write address bytes)
  · obtain ⟨space, address, bytes, rfl⟩ := isWrite
    exact preservesContent_of_write performs.answers
  · have notWrite : ∀ space address bytes, operation ≠ .request space (.write address bytes) :=
      fun space address bytes same => isWrite ⟨space, address, bytes, same⟩
    unfold PreservesContent
    split
    · exact absurd rfl (notWrite _ _ _)
    · intro key number content present kept
      rw [content?_eq_some_iff] at present ⊢
      exact performs.page_eq notWrite kept present

/-- Every copy from user memory that succeeds returns the content of the pages that it reads. -/
theorem readsContent_of_performs
    (performs : FlatMemory.Performs operation result machine.flat later.flat) :
    operation.ReadsContent result later := by
  rintro key address buffer filled rfl rfl
  cases performs.answers with
  | read within stops looks size copied kept =>
    refine ⟨size, fun index number content inside here present => ?_⟩
    rw [content?_eq_some_iff] at present
    refine copied index _ (Nat.lt_of_lt_of_eq inside (Eq.symm stops)) ?_
    exact (FlatMemory.byte?_eq_some_iff here).mpr ⟨content, present, rfl⟩

end Operation

/-- What programs see of any run is a run on a memory without paging; every operation preserves the
content of all pages that it neither removes nor stores bytes in; and every copy from user memory
that succeeds returns the content of the pages that it reads. -/
theorem Run.paging_transparent {frames slots : Nat} {log : OperationLog config}
    {machine : Machine config} (run : Run (.boot config frames slots) log machine) :
    FlatMemory.Run log machine.flat ∧
    ∀ (operation : Operation config) result later, operation.IsPermitted machine →
      operation.Yields machine result later →
        operation.PreservesContent result machine later ∧
          operation.ReadsContent result later := by
  refine ⟨run.flat, fun operation result later permitted yields => ?_⟩
  have performs := (yields.performs run.atRest permitted).flat run.atRest
  exact ⟨Operation.preservesContent_of_performs performs,
    Operation.readsContent_of_performs performs⟩

/-- The program with too few frames sees a memory without paging. -/
theorem Run.paging_transparent_crowded : ∃ log machine,
    performAll crowdedProgram (.boot .small 3 8) = some (log, machine) ∧
      0 < machine.mainTable.evictions ∧ FlatMemory.Run log machine.flat := by
  obtain ⟨log, machine, performed, evicted⟩ := crowdedProgram_performed
  have run : Run (.boot .small 3 8) log machine := Run.nil.append performed
  exact ⟨log, machine, performed, evicted, run.paging_transparent.1⟩

end DemandPaging

import DemandPaging.Proofs.Ownership

/-!
# A mapping that fails leaves no trace

A mapping that is refused by a check has touched nothing, and one whose file cannot be used has at
most opened a handle that nobody uses. A mapping that meets a registered page has registered exactly
the pages before it, which were not registered until then, so forgetting the pages up to that point
forgets those of this mapping and no others.
-/

namespace DemandPaging

variable {config : Config}

open Machine

/-! ## How far a mapping gets -/

namespace KernelAction

variable {machine : Machine config} {key : SpaceKey} {plan : MappingPlan}

/-- A page that is not registered yet is registered, and the mapping goes on behind it. -/
theorem registerPages_of_vacant {index : Nat} (fits : plan.Fits config (index + 1))
    (address : VirtualAddress) (remaining : Nat)
    (vacant : machine.page? key (plan.start.advance index) = none) :
    registerPages key address plan index (remaining + 1) machine =
      registerPages key address plan (index + 1) remaining
        (machine.updateSpace key (·.setPage (plan.pageAt config index))) := by
  have inserted := insertPage_of_vacant (plan.pageAt config index) vacant
  conv_lhs => unfold registerPages
  simp only [fits.page_eq (Nat.lt_succ_self index), Action.bind_apply, Action.exactly,
    Action.value_apply, Action.attempt, inserted]

/-- At a page that is registered already the mapping forgets the pages before it, and fails. -/
theorem registerPages_of_registered {index : Nat} (fits : plan.Fits config (index + 1))
    (address : VirtualAddress) (remaining : Nat)
    (registered : (machine.page? key (plan.start.advance index)).isSome) :
    registerPages key address plan index (remaining + 1) machine =
      .failed .alreadyMapped
        ((machine.record (.mapFailed address (plan.start.advance index) .alreadyMapped)).updateSpace
          key (·.dropPages plan.start index)) := by
  have refused := insertPage_of_registered (plan.pageAt config index) registered
  conv_lhs => unfold registerPages
  simp only [fits.page_eq (Nat.lt_succ_self index), Action.bind_apply, Action.exactly,
    Action.value_apply, Action.attempt, refused]
  rfl

/-- A mapping gets as far as its pages are not registered yet. -/
theorem registerPages_reaches (spaceExists : (machine.spaces.get? key).isSome)
    (address : VirtualAddress) (index : Nat) :
    ∀ remaining, plan.Fits config (index + remaining) →
      (∀ before < index, machine.page? key (plan.start.advance before) = none) →
      registerPages key address plan 0 (index + remaining) machine =
        registerPages key address plan index remaining (machine.withPages key plan index) := by
  induction index with
  | zero =>
    intro remaining _ _
    rw [withPages_zero, Nat.zero_add]
  | succ index inductionHypothesis =>
    intro remaining fits vacant
    have whole : index + 1 + remaining = index + (remaining + 1) := by omega
    have next : plan.Fits config (index + 1) := fits.mono (by omega)
    rw [whole, inductionHypothesis (remaining + 1) (whole ▸ fits) fun before inside =>
      vacant before (Nat.lt_succ_of_lt inside)]
    rw [registerPages_of_vacant next address remaining, withPages_succ]
    rw [page?_withPages_next next spaceExists]
    exact vacant index (Nat.lt_succ_self index)

end KernelAction

/-! ## What is left -/

namespace Machine

/-- A machine that a request has left as it was, up to a count of openings and the history. -/
structure IsUntraced (machine later : Machine config) : Prop where
  /-- All pages with their kinds, frames and slots, all page tables and all records. -/
  spaces : later.spaces = machine.spaces
  memory : later.memory = machine.memory
  pool : later.pool = machine.pool
  tables : later.table = machine.table
  pageTables : later.pageTables = machine.pageTables
  swap : later.environment.swap = machine.environment.swap
  runs : later.environment.runs = machine.environment.runs
  /-- All bytes of the files, and what was done to them. -/
  files : ∀ file, (later.environment.file file).unopened = (machine.environment.file file).unopened
  handles : ∀ file, later.openHandles file = machine.openHandles file

variable {machine later : Machine config} {key : SpaceKey}

/-- A mapping that failed leaves no trace but in the counts and the history. -/
theorem LeavesUnmapped.isUntraced {file : FileId} (leaves : machine.LeavesUnmapped file later) :
    machine.IsUntraced later := by
  obtain ⟨environment, rfl, same⟩ := leaves.onlyEnvironment
  exact {
    spaces := rfl
    memory := rfl
    pool := rfl
    tables := rfl
    pageTables := rfl
    swap := same.swap
    runs := same.runs
    files := same.file
    handles := openHandles_congr rfl fun file => (congrArg File.creatorHolds (same.file file) :) }

/-- How a mapping of `count` pages that meets a registered page at `index` is undone: `grown` is the
machine that it had reached by then. -/
structure RollsBack (key : SpaceKey) (address : VirtualAddress) (plan : MappingPlan)
    (count index : Nat) (opened grown later : Machine config) : Prop where
  /-- None of the pages before was registered until the mapping registered them. -/
  vacant : ∀ before < index, opened.page? key (plan.start.advance before) = none
  inserted : ∀ before < index,
    grown.page? key (plan.start.advance before) = some (plan.pageAt config before)
  others : ∀ number, (∀ before < index, number ≠ plan.start.advance before) →
    grown.page? key number = opened.page? key number
  reaches : KernelAction.registerPages key address plan 0 count opened =
    KernelAction.registerPages key address plan index (count - index) grown
  /-- From there it fails. -/
  stops : KernelAction.registerPages key address plan index (count - index) grown =
    .failed .alreadyMapped later
  /-- What is removed is what was inserted. -/
  removed : ∀ number, later.page? key number =
    if ∃ before < index, number = plan.start.advance before then none
    else grown.page? key number
  /-- The page in the way was there before and is there still, unchanged. -/
  survives : ∃ page, opened.page? key (plan.start.advance index) = some page ∧
    grown.page? key (plan.start.advance index) = some page ∧
    later.page? key (plan.start.advance index) = some page

/-- A mapping that meets a registered page takes back the pages that it has registered, and those
only. -/
theorem rollsBack {plan : MappingPlan} {address : VirtualAddress} {count index : Nat}
    (spaceExists : (machine.spaces.get? key).isSome) (fits : plan.Fits config count)
    (inside : index < count)
    (vacant : ∀ before < index, machine.page? key (plan.start.advance before) = none)
    (taken : (machine.page? key (plan.start.advance index)).isSome) :
    RollsBack key address plan count index machine (machine.withPages key plan index)
      (machine.record (.mapFailed address (plan.start.advance index) .alreadyMapped)) := by
  have fewer : plan.Fits config index := fits.mono (Nat.le_of_lt inside)
  have next : plan.Fits config (index + 1) := fits.mono inside
  have rest : count - index = (count - index - 1) + 1 := by omega
  have known := page?_withPages_next next spaceExists
  obtain ⟨page, found⟩ := Option.isSome_iff_exists.mp taken
  have undone : ((machine.record (.mapFailed address (plan.start.advance index)
      .alreadyMapped)).withPages key plan index).updateSpace key (·.dropPages plan.start index) =
        machine.record _ := dropPages_withPages vacant
  constructor
  case vacant => exact vacant
  case inserted =>
    intro before earlier
    rw [page?_withPages spaceExists]
    exact MappingPlan.get?_registerIn_self _ fewer earlier
  case others =>
    intro number elsewhere
    rw [page?_withPages spaceExists]
    exact MappingPlan.get?_registerIn_of_ne _ elsewhere
  case reaches =>
    have reaches := KernelAction.registerPages_reaches spaceExists address index
      (count - index) (by rwa [Nat.add_sub_cancel' (Nat.le_of_lt inside)]) vacant
    rwa [Nat.add_sub_cancel' (Nat.le_of_lt inside)] at reaches
  case stops =>
    rw [rest, KernelAction.registerPages_of_registered next address _ (known ▸ taken)]
    exact congrArg _ undone
  case removed =>
    intro number
    split
    · next own =>
      obtain ⟨before, earlier, rfl⟩ := own
      exact vacant before earlier
    · next foreign =>
      rw [page?_withPages spaceExists]
      exact (MappingPlan.get?_registerIn_of_ne _ fun before earlier same =>
        foreign ⟨before, earlier, same⟩).symm
  case survives =>
    exact ⟨page, found, known.trans found, found⟩

end Machine

namespace KernelAction

/-- A mapping that fails has changed nothing: neither pages nor frames, neither slots nor files, and
no handle is open that was not open before. Where it met a registered page, it has forgotten exactly
the pages that it had registered itself. -/
theorem mapFile_leaves_no_trace {machine later : Machine config} {key : SpaceKey}
    (spaceExists : (machine.spaces.get? key).isSome) {address : VirtualAddress} {length : Word}
    {writable : Bool} {file : FileHandle} {offset : Word} {error : VmError}
    (failed : mapFile key address length writable file offset machine = .failed error later) :
    machine.IsUntraced later ∧
    machine.MappingFails key address length file.file offset error later ∧
    (error = .alreadyMapped → ∃ index < config.pagesFor length, ∃ grown,
      RollsBack key address (machine.mappingPlan address writable file.file offset)
        (config.pagesFor length) index
        (machine.reopened (machine.environment.nextHandle file.file)) grown later) := by
  have fails := (mapFile_decides spaceExists address length writable file offset).of_failed failed
  refine ⟨fails.leavesUnmapped.isUntraced, fails, ?_⟩
  rintro rfl
  cases fails with
  | @occupied sound reopens reached index inside vacant taken =>
    have fits := sound.fits machine writable file.file
    exact ⟨index, inside, _, rollsBack spaceExists fits inside vacant taken⟩

/-- A mapping of three pages meets a registered page at its third page. -/
theorem mapFile_leaves_no_trace_blocked : ∃ log machine later,
    performAll [.create .main, .createFile #[10, 11, 12, 13, 14, 15],
      .request ⟨.main, ⟨1⟩⟩ (.allocate .anonymous ⟨24⟩ true none)] (.boot .small 3 8) =
        some (log, machine) ∧
    mapFile ⟨.main, ⟨1⟩⟩ ⟨16⟩ 12 true ⟨⟨0⟩, 0⟩ 0 machine = .failed .alreadyMapped later ∧
    machine.IsUntraced later ∧
    ∃ index < 3, ∃ grown, RollsBack ⟨.main, ⟨1⟩⟩ ⟨16⟩ (machine.mappingPlan ⟨16⟩ true ⟨0⟩ 0) 3 index
      (machine.reopened (machine.environment.nextHandle ⟨0⟩)) grown later := by
  have performed : ((performAll [.create .main, .createFile #[10, 11, 12, 13, 14, 15],
      .request ⟨.main, ⟨1⟩⟩ (.allocate .anonymous ⟨24⟩ true none)] (.boot .small 3 8)).any
      fun (_, machine) => (machine.spaces.get? ⟨.main, ⟨1⟩⟩).isSome ∧
        (mapFile ⟨.main, ⟨1⟩⟩ ⟨16⟩ 12 true ⟨⟨0⟩, 0⟩ 0 machine).error? = some .alreadyMapped) =
          true := by
    decide +kernel
  obtain ⟨⟨log, machine⟩, outcome, ready⟩ := (Option.any_eq_true _ _).mp performed
  obtain ⟨spaceExists, refused⟩ := of_decide_eq_true ready
  obtain ⟨later, failed⟩ := Outcome.exists_of_error? refused
  obtain ⟨untraced, -, blocked⟩ := mapFile_leaves_no_trace spaceExists failed
  exact ⟨log, machine, later, outcome, failed, untraced, blocked rfl⟩

end KernelAction

end DemandPaging

import DemandPaging.Proofs.Agreement
import DemandPaging.Proofs.Regions

/-!
# What can stop the kernel

An operation stops the kernel only if room has to be made and cannot be made. Its other panics stand
for contradictions in its tables or for numbers that do not fit a machine word, and no program brings
those about. What is not checked fits, too: the pieces of a user copy lie in the buffer and in their
page, the physical address behind a mapped one exists, and counters do not outgrow the number of
transitions.
-/

namespace DemandPaging

variable {config : Config}

/-! ## The pieces of a copy -/

namespace Chunk

variable {offset length : Nat} {chunk : Chunk}

/-- Each piece of a copy lies in what is copied and in one page. -/
theorem fits_of_mem (inPage : offset < config.pageSize) (listed : chunk ∈ ofCopy config offset length) :
    chunk.start < chunk.stop ∧ chunk.stop ≤ length ∧
      (offset + chunk.start) % config.pageSize + chunk.length ≤ config.pageSize := by
  obtain ⟨index, counted, rfl⟩ := List.mem_map.mp listed
  rw [List.mem_range, pagesTouched] at counted
  split at counted
  · exact absurd counted (Nat.not_lt_zero _)
  next positive =>
  have reached : index * config.pageSize ≤ offset + length - 1 :=
    (Nat.le_div_iff_mul_le config.pageSize_pos).mp (Nat.lt_succ_iff.mp counted)
  have grows : (index + 1) * config.pageSize = index * config.pageSize + config.pageSize :=
    Nat.succ_mul ..
  simp only [cut, Chunk.length, grows]
  refine ⟨by omega, Nat.min_le_left _ _, ?_⟩
  cases index with
  | zero =>
    have first : offset + min length (0 * config.pageSize - offset) = offset := by omega
    rw [first, Nat.mod_eq_of_lt inPage]
    omega
  | succ index =>
    have after : config.pageSize ≤ (index + 1) * config.pageSize := Nat.le_mul_of_pos_left _ (by omega)
    have boundary : offset + min length ((index + 1) * config.pageSize - offset) =
        (index + 1) * config.pageSize := by omega
    rw [boundary, Nat.mul_mod_left]
    omega

/-- Where a piece of a copy begins in its page, there is room for it. -/
theorem pageOffset_add_length_le {base address : VirtualAddress} (small : length < Word.modulus)
    (listed : chunk ∈ ofCopy config (base.pageOffset config).toNat length)
    (within : base.checkedAdd (UInt64.ofNat chunk.start) = some address) :
    (address.pageOffset config).toNat + chunk.length ≤ config.pageSize := by
  have offset := VirtualAddress.toNat_pageOffset base config
  have inPage : (base.pageOffset config).toNat < config.pageSize :=
    offset ▸ Nat.mod_lt _ config.pageSize_pos
  obtain ⟨ordered, inside, fits⟩ := fits_of_mem inPage listed
  have starts : (UInt64.ofNat chunk.start).toNat = chunk.start := Word.toNat_ofNat_of_lt (by omega)
  rw [VirtualAddress.toNat_pageOffset, VirtualAddress.toNat_of_checkedAdd within, starts]
  rwa [offset, Nat.mod_add_mod] at fits

end Chunk

/-! ## Counters -/

namespace Transition

open Machine

variable {transition : Transition config} {machine next : Machine config}

/-- A transition counts one eviction or issues one id at most. -/
theorem Leads.counts (leads : transition.Leads machine next) (subsystem : Subsystem) :
    (next.table subsystem).evictions ≤ (machine.table subsystem).evictions + 1 ∧
      (next.table subsystem).nextSpace ≤ (machine.table subsystem).nextSpace + 1 := by
  obtain ⟨counted, issued⟩ := leads.counters subsystem
  have once : transition.evictions subsystem ≤ 1 ∧ transition.issues subsystem ≤ 1 := by
    unfold evictions issues
    constructor <;> repeat' split
    all_goals omega
  omega

end Transition

/-- Counters do not outgrow the number of transitions. -/
theorem Trail.counts {start last : Machine config} {moves : List (Move config)}
    (trail : Trail start moves last) (subsystem : Subsystem) :
    (last.table subsystem).evictions ≤ (start.table subsystem).evictions + moves.length ∧
      (last.table subsystem).nextSpace ≤ (start.table subsystem).nextSpace + moves.length := by
  induction trail with
  | refl => exact ⟨Nat.le_refl _, Nat.le_refl _⟩
  | step _ leads inductionHypothesis =>
    have counts := leads.counts subsystem
    rw [List.length_append, List.length_singleton]
    omega

/-! ## Physical addresses -/

/-- A mapped page lies in a frame that the machine began with. -/
theorem Run.index_lt_of_mapped {frames slots : Nat} {log : OperationLog config}
    {machine : Machine config} (run : Run (.boot config frames slots) log machine) {key : SpaceKey}
    {number : PageNumber} {entry : PageTableEntry} (mapped : machine.mapped? key number = some entry) :
    entry.frame.index < frames := by
  have consistent := run.atRest.consistent
  obtain ⟨page, found, _⟩ :=
    (consistent.mapped_iff key number).mp (Option.isSome_iff_exists.mpr ⟨entry, mapped⟩)
  have resident := (consistent.shows mapped found).frame
  have holds : machine.Holds key number entry.frame := by
    rw [consistent.holds_iff, Machine.frame?, found]
    exact resident
  obtain ⟨listed, member, same, _⟩ :=
    (run.atRest.agreement.holders key.subsystem entry.frame ⟨key.id, number⟩).mpr holds
  exact run.index_lt_of_mem (List.mem_map.mpr ⟨listed, member, same⟩)

/-- The physical address behind a mapped address does not leave the frame. -/
theorem Run.toNat_translate {frames slots : Nat} {log : OperationLog config}
    {machine : Machine config} (run : Run (.boot config frames slots) log machine)
    (fits : poolBase + frames * config.pageSize ≤ Word.modulus) {key : SpaceKey}
    {address : VirtualAddress} {physical : PhysicalAddress}
    (translated : (machine.space key).translate address = some physical) :
    ∃ entry, machine.mapped? key (address.page config) = some entry ∧
      physical.word.toNat =
        poolBase + entry.frame.index * config.pageSize + (address.pageOffset config).toNat := by
  obtain ⟨entry, mapped, rfl⟩ := Option.map_eq_some_iff.mp translated
  refine ⟨entry, mapped, ?_⟩
  have inside := run.index_lt_of_mapped mapped
  have whole : (entry.frame.index + 1) * config.pageSize ≤ frames * config.pageSize :=
    Nat.mul_le_mul_right _ inside
  have offset : (address.pageOffset config).toNat < config.pageSize :=
    address.toNat_pageOffset config ▸ Nat.mod_lt _ config.pageSize_pos
  have below : poolBase + entry.frame.index * config.pageSize +
      (address.pageOffset config).toNat < Word.modulus := by
    rw [Nat.succ_mul] at whole
    omega
  have base : (entry.frame.address config).word.toNat =
      poolBase + entry.frame.index * config.pageSize :=
    Word.toNat_ofNat_of_lt (by omega)
  rw [UInt64.toNat_add, base]
  exact Nat.mod_eq_of_lt below

/-! ## Safety -/

/-- Only exhaustion stops an operation in a reachable machine: no frame to be had, no slot, or content
that cannot be saved for want of a working device. Nothing that the kernel computes without a check
leaves the range of its type. -/
theorem Run.stops_only_exhausted {frames slots : Nat} {log : OperationLog config}
    {machine : Machine config} (run : Run (.boot config frames slots) log machine)
    (fits : poolBase + frames * config.pageSize ≤ Word.modulus) :
    (∀ operation : Operation config, operation.IsPermitted machine →
      ∀ panic last, operation.perform machine = .panicked panic last → panic.IsExhaustion) ∧
    (∀ (base address : VirtualAddress) length, length < Word.modulus →
      ∀ chunk ∈ Chunk.ofCopy config (base.pageOffset config).toNat length, chunk.stop ≤ length ∧
        (base.checkedAdd (UInt64.ofNat chunk.start) = some address →
          (address.pageOffset config).toNat + chunk.length ≤ config.pageSize)) ∧
    machine.RegionsPlaced ∧
    (∀ key address physical, (machine.space key).translate address = some physical →
      ∃ entry, machine.mapped? key (address.page config) = some entry ∧
        physical.word.toNat =
          poolBase + entry.frame.index * config.pageSize + (address.pageOffset config).toNat) ∧
    (∃ episodes, Chronicle (.boot config frames slots) episodes machine ∧
      episodes.map Episode.entry = log) ∧
    ∀ episodes, Chronicle (.boot config frames slots) episodes machine → ∀ subsystem,
      (machine.table subsystem).evictions ≤ (Episode.allMoves episodes).length ∧
        (machine.table subsystem).nextSpace ≤ (Episode.allMoves episodes).length + 1 := by
  refine ⟨?_, ?_, run.regionsPlaced, fun _ _ _ => run.toNat_translate fits,
    run.chronicle (boot_atRest config frames slots), ?_⟩
  · intro operation permitted panic last stopped
    have ends := Operation.perform_ends run.atRest operation permitted
    exact (Action.ends_iff.mp ends).2.2 panic last stopped
  · intro base address length small chunk listed
    have inPage : (base.pageOffset config).toNat < config.pageSize :=
      base.toNat_pageOffset config ▸ Nat.mod_lt _ config.pageSize_pos
    exact ⟨(Chunk.fits_of_mem inPage listed).2.1, Chunk.pageOffset_add_length_le small listed⟩
  · intro episodes chronicle subsystem
    have counts := chronicle.trail.counts subsystem
    have fresh : ((Machine.boot config frames slots).table subsystem).evictions = 0 ∧
        ((Machine.boot config frames slots).table subsystem).nextSpace = 1 := by
      cases subsystem <;> exact ⟨rfl, rfl⟩
    omega

/-- A program that leaves its only page without a frame to be loaded into: outsiders take them all. -/
def starvedProgram : List (Operation .small) :=
  let space : SpaceKey := ⟨.main, ⟨1⟩⟩
  crowdedProgram ++
    [.drop ⟨.main, ⟨2⟩⟩, .request space .tearDown, .takeFrame, .takeFrame, .takeFrame,
      .request space (.allocate .anonymous ⟨4⟩ true none)]

/-- Whether an operation stops the kernel. -/
def Operation.stops (operation : Operation config) (machine : Machine config) : Bool :=
  match operation.perform machine with
  | .panicked _ _ => true
  | .done _ _ | .failed _ _ => false

/-- An operation that stops the kernel does so with a panic and in some state. -/
theorem Operation.exists_of_stops {operation : Operation config} {machine : Machine config}
    (stops : operation.stops machine = true) :
    ∃ panic last, operation.perform machine = .panicked panic last := by
  unfold Operation.stops at stops
  split at stops
  · next panic last panicked => exact ⟨panic, last, panicked⟩
  · cases stops
  · cases stops

/-- After the program no frame can be had, and loading the page stops the kernel, as it may. -/
theorem Run.stops_only_exhausted_starved : ∃ log machine panic last,
    performAll starvedProgram (.boot .small 3 8) = some (log, machine) ∧
    poolBase + 3 * Config.small.pageSize ≤ Word.modulus ∧
    0 < machine.mainTable.evictions ∧ machine.RegionsPlaced ∧
    (Operation.request ⟨.main, ⟨1⟩⟩ (.claim ⟨4⟩)).perform machine = .panicked panic last ∧
    panic.IsExhaustion := by
  have performed : ((performAll starvedProgram (.boot .small 3 8)).any fun reached =>
      0 < reached.2.mainTable.evictions &&
        (Operation.request ⟨.main, ⟨1⟩⟩ (.claim ⟨4⟩)).stops reached.2) = true := by
    decide +kernel
  have fits : poolBase + 3 * Config.small.pageSize ≤ Word.modulus := by decide
  obtain ⟨⟨log, machine⟩, outcome, facts⟩ := (Option.any_eq_true _ _).mp performed
  rw [Bool.and_eq_true, decide_eq_true_eq] at facts
  obtain ⟨evicted, stops⟩ := facts
  obtain ⟨exhaustion, _, placed, _⟩ := Run.stops_only_exhausted (Run.nil.append outcome) fits
  obtain ⟨panic, last, stopped⟩ := Operation.exists_of_stops stops
  exact ⟨log, machine, panic, last, outcome, fits, evicted, placed, stopped,
    exhaustion (.request ⟨.main, ⟨1⟩⟩ (.claim ⟨4⟩)) trivial panic last stopped⟩

end DemandPaging

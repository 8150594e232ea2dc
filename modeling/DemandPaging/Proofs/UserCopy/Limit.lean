import DemandPaging.Proofs.UserCopy.RoundTrip

/-!
# Copies and the end of user memory

The kernel checks the address at which a copy comes to a page, and no other. So a copy stays below the end
of user memory up to the page in which user memory ends: if that end is not the end of a page, the rest of
the page is copied like the beginning of it.
-/

namespace DemandPaging

open Machine

variable {config : Config}

/-- The first bytes of a copy that begins at an address belong to the program, but for those that share a
page with the last byte that does. -/
structure StaysBelowEnd (config : Config) (base reached : Nat) : Prop where
  positive : ∀ index < reached, 0 < base + index
  below : ∀ index < reached, base + index < config.userEnd.toNat ∨
    config.userEnd.toNat % config.pageSize ≠ 0 ∧
      (base + index) / config.pageSize = config.userEnd.toNat / config.pageSize
  /-- If user memory ends with a page, they all belong to the program. -/
  aligned : config.pageSize ∣ config.userEnd.toNat →
    ∀ index < reached, base + index < config.userEnd.toNat

/-- It is enough that the addresses belong to the program at which the copy comes to a page. -/
theorem StaysBelowEnd.of_named {base reached : Nat}
    (named : ∀ index < reached, index = 0 ∨ (base + index) % config.pageSize = 0 →
      0 < base + index ∧ base + index < config.userEnd.toNat) :
    StaysBelowEnd config base reached := by
  have begins : ∀ index < reached,
      0 < base + index ∧ (base + index) / config.pageSize * config.pageSize < config.userEnd.toNat := by
    intro index inside
    have first := named 0 (by omega) (.inl rfl)
    have start := Nat.div_mul_le_self (base + index) config.pageSize
    refine ⟨by omega, ?_⟩
    rcases Nat.lt_or_ge ((base + index) / config.pageSize * config.pageSize) base with before | after
    · omega
    · -- the page begins within the copy, at the byte at which the copy comes to it
      have whole : base + ((base + index) / config.pageSize * config.pageSize - base) =
          (base + index) / config.pageSize * config.pageSize := Nat.add_sub_cancel' after
      have comes := named ((base + index) / config.pageSize * config.pageSize - base) (by omega)
        (.inr (by rw [whole, Nat.mul_mod_left]))
      omega
  have below : ∀ index < reached, base + index < config.userEnd.toNat ∨
      config.userEnd.toNat % config.pageSize ≠ 0 ∧
        (base + index) / config.pageSize = config.userEnd.toNat / config.pageSize := by
    intro index inside
    have page := (begins index inside).2
    have parts := Nat.div_add_mod' (base + index) config.pageSize
    have rest := Nat.mod_lt (base + index) config.pageSize_pos
    have ends := Nat.div_add_mod' config.userEnd.toNat config.pageSize
    refine (Nat.lt_or_ge (base + index) config.userEnd.toNat).imp_right fun beyond => ?_
    have atLeast := Nat.div_le_div_right beyond (c := config.pageSize)
    have atMost : (base + index) / config.pageSize ≤ config.userEnd.toNat / config.pageSize :=
      (Nat.le_div_iff_mul_le config.pageSize_pos).mpr (Nat.le_of_lt page)
    have same := Nat.le_antisymm atMost atLeast
    refine ⟨fun whole => ?_, same⟩
    rw [same] at page
    omega
  refine ⟨fun index inside => (begins index inside).1, below, fun whole index inside => ?_⟩
  exact (below index inside).resolve_right fun beyond => beyond.1 (Nat.mod_eq_zero_of_dvd whole)

/-- What copies read and store lies below the end of user memory, or in the page in which user memory
ends. -/
theorem Run.copies_stay_below_end {frames slots : Nat} {log : OperationLog config}
    {machine : Machine config} (run : Run (.boot config frames slots) log machine) {key : SpaceKey}
    (spaceExists : (machine.spaces.get? key).isSome) (base : VirtualAddress) (buffer bytes : Bytes) :
    (KernelAction.copyFromUser key base buffer).Ends machine
      (fun returned later => ∃ reached, StopsAt config base buffer.size reached returned.2 ∧
        FillsPrefix key base buffer reached machine returned.1 later ∧
        StaysBelowEnd config base.word.toNat reached)
      (fun _ _ => False) ∧
    (KernelAction.copyToUser key base bytes).Ends machine
      (fun _ later => StoresPrefix key base bytes bytes.size machine later ∧
        StaysBelowEnd config base.word.toNat bytes.size)
      (fun error later => ∃ reached, StopsAt config base bytes.size reached (.error error) ∧
        StoresPrefix key base bytes reached machine later ∧
        StaysBelowEnd config base.word.toNat reached) := by
  have atRest := run.atRest
  constructor
  · refine (KernelAction.copyFromUser_fillsPrefix atRest spaceExists base buffer).mono ?_ (fun _ _ => id)
    rintro returned later ⟨reached, stops, fills, -⟩
    exact ⟨reached, stops, fills, .of_named fills.named⟩
  · refine (KernelAction.copyToUser_ends atRest spaceExists bytes).outcome.mono ?_ ?_
    · rintro _ later ⟨done, -⟩
      have stores := KernelAction.storesPrefix_of_copyToUser atRest spaceExists done
      exact ⟨stores, .of_named stores.named⟩
    · rintro error later ⟨failed, -⟩
      obtain ⟨reached, _, stops, stores, -⟩ :=
        KernelAction.storesPrefix_of_copyToUser_failed atRest spaceExists failed
      exact ⟨reached, stops, stores, .of_named stores.named⟩

/-- A program with one anonymous page, at address 124. -/
def lastPage (config : Config) : List (Operation config) :=
  [.create .main, .request ⟨.main, ⟨1⟩⟩ (.allocate .anonymous ⟨124⟩ true none)]

/-- Where user memory ends with a page, a copy that runs over the end stops there. -/
theorem Run.copies_stay_below_end_aligned :
    let key : SpaceKey := ⟨.main, ⟨1⟩⟩
    ∃ log machine later reached, performAll (lastPage .small) (.boot .small 1 8) = some (log, machine) ∧
      KernelAction.copyToUser key ⟨124⟩ #[1, 2, 3, 4, 5, 6] machine = .failed .invalidAddress later ∧
      StopsAt .small ⟨124⟩ 6 reached (.error .invalidAddress) ∧
      StoresPrefix key ⟨124⟩ #[1, 2, 3, 4, 5, 6] reached machine later ∧
      ∀ index < reached, 124 + index < Config.small.userEnd.toNat := by
  intro key
  have performed : ((performAll (lastPage .small) (.boot .small 1 8)).any fun (_, machine) =>
      (machine.spaces.get? key).isSome &&
      (KernelAction.copyToUser key ⟨124⟩ #[1, 2, 3, 4, 5, 6] machine).error? = some .invalidAddress) =
        true := by
    decide +kernel
  obtain ⟨⟨log, machine⟩, outcome, checked⟩ := (Option.any_eq_true _ _).mp performed
  obtain ⟨spaceExists, failing⟩ := Bool.and_eq_true_iff.mp checked
  have run : Run (.boot .small 1 8) log machine := Run.nil.append outcome
  obtain ⟨later, failed⟩ := Outcome.exists_of_error? (of_decide_eq_true failing)
  obtain ⟨reached, stops, stores, below⟩ :=
    (run.copies_stay_below_end spaceExists ⟨124⟩ #[] #[1, 2, 3, 4, 5, 6]).2.of_failed failed
  exact ⟨log, machine, later, reached, outcome, failed, stops, stores, below.aligned (by decide)⟩

/-- The small configuration with a user memory that ends inside a page. -/
def Config.ragged : Config := { Config.small with userEnd := 126 }

/-- A copy stores bytes behind the end of user memory, and another one reads them, without an error. -/
theorem copies_pass_ragged_end :
    let key : SpaceKey := ⟨.main, ⟨1⟩⟩
    ∃ log machine stored filled last,
      performAll (lastPage .ragged) (.boot .ragged 1 8) = some (log, machine) ∧
      KernelAction.copyToUser key ⟨124⟩ #[1, 2, 3, 4] machine = .done () stored ∧
      KernelAction.copyFromUser key ⟨124⟩ #[0, 0, 0, 0] stored = .done (filled, .ok ()) last ∧
      filled = #[1, 2, 3, 4] ∧
      ¬ ∀ index < 4, 124 + index < Config.ragged.userEnd.toNat := by
  intro key
  have performed : ((performAll (lastPage .ragged) (.boot .ragged 1 8)).any fun (_, machine) =>
      (KernelAction.copyToUser key ⟨124⟩ #[1, 2, 3, 4] machine).done?.any fun stored =>
        (KernelAction.copyFromUser key ⟨124⟩ #[0, 0, 0, 0] stored).value?.any fun returned =>
          returned.1 == #[1, 2, 3, 4] && returned.2.isOk) = true := by
    decide +kernel
  obtain ⟨⟨log, machine⟩, outcome, checked⟩ := (Option.any_eq_true _ _).mp performed
  obtain ⟨stored, stores, checked⟩ := (Option.any_eq_true _ _).mp checked
  obtain ⟨⟨filled, result⟩, returns, checked⟩ := (Option.any_eq_true _ _).mp checked
  obtain ⟨same, fills⟩ := Bool.and_eq_true_iff.mp checked
  obtain ⟨_, done⟩ := Outcome.exists_of_done? stores
  obtain ⟨last, read⟩ := Outcome.exists_of_value? returns
  cases result with
  | ok =>
    exact ⟨log, machine, stored, filled, last, outcome, done, read, eq_of_beq same,
      fun below => absurd (below 3 (by decide)) (by decide)⟩
  | error => cases fills

end DemandPaging

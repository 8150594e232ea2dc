import Mathlib.Data.List.Find
import DemandPaging.Proofs.WriteBack.Delivery

/-!
# Content that cannot be stored

A page that loses its frame leaves its content behind: an anonymous page in a swap slot unless it is blank,
and a page of a file that was written to in its file. `PageKind.CannotStore` lists what can prevent this,
and `PageKind.store_stops_iff` says that the kernel stops for these reasons only.
-/

namespace DemandPaging

variable {config : Config}

/-- No slot is free if all of them are allocated. -/
theorem SwapDevice.lowestFree_eq_none_iff {device : SwapDevice config} :
    device.lowestFree = none ↔ ∀ index < device.capacity, device.slots.contains ⟨index⟩ = true := by
  unfold SwapDevice.lowestFree
  simp

/-- A page goes to the lowest free slot, if there is one and the device takes it. -/
theorem EnvironmentAction.swapOut_eq_panicked_iff {bytes : PageBytes config}
    {environment : Environment config} {panic : Panic} :
    (∃ last, swapOut bytes environment = .panicked panic last) ↔
      (environment.swap.lowestFree = none ∧ panic = .swapFull) ∨
        ∃ slot code, environment.swap.lowestFree = some slot ∧
          environment.swapSwitches.write = some code ∧ panic = .swapWriteFailed slot code := by
  simp only [swapOut, Action.bind_apply, Action.current_apply]
  cases lowest : environment.swap.lowestFree with
  | none =>
    constructor
    · rintro ⟨_, stopped⟩
      cases stopped
      exact .inl ⟨rfl, rfl⟩
    · rintro (⟨_, rfl⟩ | ⟨_, _, found, _⟩)
      · exact ⟨_, rfl⟩
      · cases found
  | some slot =>
    have allocated : (environment.swap.allocate slot).slots.contains slot = true :=
      OrderedMap.contains_eq_true_iff.mpr ⟨none, OrderedMap.get?_insert_self ..⟩
    have same : Environment.swapSwitches
        { environment with swap := environment.swap.allocate slot } = environment.swapSwitches := rfl
    simp only [Action.bind_apply, Action.change_apply, Action.current_apply, SwapDevice.write, same,
      allocated]
    cases environment.swapSwitches.write with
    | none =>
      constructor
      · rintro ⟨_, stopped⟩
        cases stopped
      · rintro (⟨missing, _⟩ | ⟨_, _, _, failing, _⟩)
        · cases missing
        · cases failing
    | some code =>
      constructor
      · rintro ⟨_, stopped⟩
        cases stopped
        exact .inr ⟨slot, code, rfl, rfl, rfl⟩
      · rintro (⟨missing, _⟩ | ⟨_, _, found, failing, rfl⟩)
        · cases missing
        · cases found
          cases failing
          exact ⟨_, rfl⟩

namespace PageKind

/-- Why the content of a resident page cannot be stored now. -/
inductive CannotStore (environment : Environment config) (number : PageNumber)
    (bytes : PageBytes config) (dirty : Bool) : PageKind config → Panic → Prop where
  | full (used : bytes ≠ PageBytes.zero)
      (taken : ∀ index < environment.swap.capacity,
        environment.swap.slots.contains ⟨index⟩ = true) :
    CannotStore environment number bytes dirty (.anonymous none) .swapFull
  | unwritable {slot : SwapSlot} {code : ErrorCode} (used : bytes ≠ PageBytes.zero)
      (free : environment.swap.lowestFree = some slot)
      (failing : environment.swapSwitches.write = some code) :
    CannotStore environment number bytes dirty (.anonymous none) (.swapWriteFailed slot code)
  /-- The file cannot be reached, fails, or takes too few bytes. -/
  | refused {backing : FileBacking config} {error : VmError} (written : dirty = true)
      (reads : backing.readBytes ≠ 0)
      (refused : (environment.nextSwitches backing.handle.file).refusal? backing.offset.toNat
        backing.readBytes = some error) :
    CannotStore environment number bytes dirty (.file backing) (.writeBackFailed number error)

variable {environment : Environment config} {number : PageNumber} {bytes : PageBytes config}
  {dirty : Bool} {kind : PageKind config} {panic : Panic}

/-- A content that cannot be stored is one of the reasons to stop the kernel. -/
theorem CannotStore.isExhaustion (cannot : kind.CannotStore environment number bytes dirty panic) :
    panic.IsExhaustion := by
  cases cannot with
  | full => exact .swapFull
  | unwritable => exact .swapWriteFailed ..
  | refused => exact .writeBackFailed ..

/-- A content that cannot be stored is not mistaken for a lack of frames. -/
theorem CannotStore.ne_outOfFrames (cannot : kind.CannotStore environment number bytes dirty panic) :
    panic ≠ .outOfFrames := by
  cases cannot <;> exact nofun

/-- The reasons lie with the swap device and with the failures that are next in force. -/
theorem CannotStore.congr {later : Environment config}
    (cannot : kind.CannotStore environment number bytes dirty panic)
    (device : later.swap = environment.swap)
    (swap : later.swapSwitches = environment.swapSwitches)
    (next : ∀ file, later.nextSwitches file = environment.nextSwitches file) :
    kind.CannotStore later number bytes dirty panic := by
  cases cannot with
  | full used taken => exact .full used (device ▸ taken)
  | unwritable used free failing => exact .unwritable used (device ▸ free) (swap ▸ failing)
  | refused written reads refused => exact .refused written reads (next _ ▸ refused)

/-- A report changes no reason. -/
theorem cannotStore_record {event : Event} (unasked : event.isRequest = false) :
    kind.CannotStore (environment.record event) number bytes dirty panic ↔
      kind.CannotStore environment number bytes dirty panic := by
  have swap := environment.swapSwitches_record unasked
  have next := environment.nextSwitches_record unasked
  exact ⟨fun cannot => cannot.congr rfl swap.symm fun file => (next file).symm,
    fun cannot => cannot.congr rfl swap next⟩

/-- The write-back is to blame exactly if the file refuses what the page owes. -/
theorem CannotStore.eq_writeBackFailed_iff
    (cannot : kind.CannotStore environment number bytes dirty panic) (error : VmError) :
    panic = .writeBackFailed number error ↔
      environment.loss? (kind.owed bytes dirty) (environment.moment + 1) = some error := by
  cases cannot with
  | full | unwritable => exact ⟨nofun, nofun⟩
  | refused written reads refused =>
    subst written
    rw [loss?_owed_file reads]
    show _ ↔ (environment.nextSwitches _).refusal? _ _ = _
    rw [refused]
    exact ⟨fun same => by cases same; rfl, fun same => by cases same; rfl⟩

/-- A page of a file is written back unless its file refuses what the page owes. -/
theorem writeBack_fails_iff {backing : FileBacking config} {error : VmError} :
    (∃ last, backing.writeBack bytes environment = .failed error last) ↔
      backing.readBytes ≠ 0 ∧ (environment.nextSwitches backing.handle.file).refusal?
        backing.offset.toNat backing.readBytes = some error := by
  have decided : ∀ result, environment.loss? ((PageKind.file backing).owed bytes true)
      (environment.moment + 1) = some result ↔
        backing.readBytes ≠ 0 ∧ (environment.nextSwitches backing.handle.file).refusal?
          backing.offset.toNat backing.readBytes = some result := by
    intro result
    by_cases empty : backing.readBytes = 0
    · simp [owed, empty]
    · rw [loss?_owed_file empty, and_iff_right empty]
      rfl
  have delivers := backing.writeBack_delivers bytes environment
  rw [← decided]
  constructor
  · rintro ⟨last, failed⟩
    exact (delivers.of_failed failed).2
  · intro loses
    cases outcome : backing.writeBack bytes environment with
    | done value last =>
      rw [(delivers.of_done outcome).2] at loses
      cases loses
    | failed cause last =>
      have same := (delivers.of_failed outcome).2
      rw [loses] at same
      cases same
      exact ⟨last, rfl⟩
    | panicked cause last => exact absurd ⟨last, outcome⟩ backing.writeBack_not_stops

/-- An anonymous page goes to the swap device unless it is blank. -/
theorem store_anonymous_stops_iff :
    ((.anonymous none : PageKind config).store number bytes dirty).Stops environment panic ↔
      (.anonymous none : PageKind config).CannotStore environment number bytes dirty panic := by
  have asserted : ((.anonymous none : PageKind config).store number bytes dirty).Stops environment
      panic ↔ (if bytes.isZero then pure (.anonymous none)
        else do
          let fresh ← EnvironmentAction.swapOut bytes
          return .anonymous (some fresh) : EnvironmentAction config (PageKind config)).Stops
            environment panic := Iff.rfl
  rw [asserted]
  by_cases blank : bytes.isZero = true
  · rw [if_pos blank]
    constructor
    · rintro ⟨_, stopped⟩
      cases stopped
    · rintro (⟨used, _⟩ | ⟨used, _, _⟩) <;> exact absurd (PageBytes.isZero_iff.mp blank) used
  · have used : bytes ≠ PageBytes.zero := fun zero => blank (PageBytes.isZero_iff.mpr zero)
    rw [if_neg blank, Action.stops_bind, Action.Stops, EnvironmentAction.swapOut_eq_panicked_iff]
    constructor
    · rintro ((⟨lowest, rfl⟩ | ⟨slot, code, lowest, failing, rfl⟩) | ⟨_, _, _, _, late⟩)
      · exact .full used (SwapDevice.lowestFree_eq_none_iff.mp lowest)
      · exact .unwritable used lowest failing
      · cases late
    · rintro (⟨_, taken⟩ | ⟨_, free, failing⟩)
      · exact .inl (.inl ⟨SwapDevice.lowestFree_eq_none_iff.mpr taken, rfl⟩)
      · exact .inl (.inr ⟨_, _, free, failing, rfl⟩)

/-- A page of a file that was written to goes back to the file. -/
theorem store_written_stops_iff {backing : FileBacking config} :
    ((.file backing : PageKind config).store number bytes true).Stops environment panic ↔
      (.file backing : PageKind config).CannotStore environment number bytes true panic := by
  refine Action.stops_bind.trans ⟨?_, ?_⟩
  · rintro (⟨_, early⟩ | ⟨result, middle, attempted, late⟩)
    · exact absurd (Action.stops_attempt.mp ⟨_, early⟩) backing.writeBack_not_stops
    · obtain ⟨_, rfl, _⟩ | ⟨error, rfl, failed⟩ := Action.attempt_eq_done_iff.mp attempted
      · obtain ⟨_, stopped⟩ := late
        cases stopped
      · obtain ⟨reads, refused⟩ := writeBack_fails_iff.mp ⟨middle, failed⟩
        obtain ⟨_, stopped⟩ := late
        cases stopped
        exact .refused rfl reads refused
  · intro cannot
    cases cannot with
    | @refused _ error _ reads refused =>
      obtain ⟨middle, failed⟩ : ∃ last, backing.writeBack bytes environment = .failed error last :=
        writeBack_fails_iff.mpr ⟨reads, refused⟩
      exact .inr ⟨_, middle, Action.attempt_eq_done_iff.mpr (.inr ⟨_, rfl, failed⟩), middle, rfl⟩

/-- The content of a page that can hold a frame is stored unless there is a reason why it cannot be. -/
theorem store_stops_iff (isLoaded : kind.IsLoaded) :
    (kind.store number bytes dirty).Stops environment panic ↔
      kind.CannotStore environment number bytes dirty panic := by
  cases kind with
  | unloaded => exact isLoaded.elim
  | anonymous slot =>
    cases slot with
    | some => cases isLoaded
    | none => exact store_anonymous_stops_iff
  | file backing =>
    cases dirty with
    | true => exact store_written_stops_iff
    | false =>
      constructor
      · rintro ⟨_, stopped⟩
        cases stopped
      · intro cannot
        cases cannot with
        | refused written => cases written

/-- A page whose content was stored owed nothing that its file refused. -/
theorem loss?_of_stored {later : PageKind config} {last : Environment config}
    (stored : kind.store number bytes dirty environment = .done later last) :
    environment.loss? (kind.owed bytes dirty) (environment.moment + 1) = none := by
  by_contra lost
  obtain ⟨error, lost⟩ := Option.ne_none_iff_exists'.mp lost
  match kind, dirty with
  | .unloaded _ _, _ | .anonymous _, _ | .file _, false => cases lost
  | .file backing, true =>
    by_cases empty : backing.readBytes = 0
    · simp [owed, empty] at lost
    · rw [loss?_owed_file empty] at lost
      have cannot : (PageKind.file backing).CannotStore environment number bytes true
          (.writeBackFailed number error) := .refused rfl empty lost
      obtain ⟨_, stopped⟩ := store_written_stops_iff.mpr cannot
      cases stored.symm.trans stopped

end PageKind

end DemandPaging

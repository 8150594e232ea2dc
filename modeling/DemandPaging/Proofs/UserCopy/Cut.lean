import DemandPaging.Proofs.Flat.Copy
import DemandPaging.Proofs.Replica

/-!
# Copies that are cut short

To copy only the bytes that lie before a page is to work through the chunks before that page, with the
same addresses and the same bytes. So a copy to user memory does first what a copy of fewer bytes does,
and then goes on with the page.
-/

namespace DemandPaging

variable {config : Config}

namespace Action

variable {State Element : Type} {step : Element → Action State Unit} {state middle : State}

/-- A loop depends on what its rounds do for the elements of the list. -/
theorem forEach_congr {other : Element → Action State Unit} {elements : List Element}
    (same : ∀ element ∈ elements, step element = other element) :
    forEach step elements = forEach other elements := by
  induction elements with
  | nil => rfl
  | cons element rest inductionHypothesis =>
    rw [forEach, forEach, same element List.mem_cons_self,
      inductionHypothesis fun element listed => same element (List.mem_cons_of_mem _ listed)]

/-- When the first part of a list is worked through, what is left is the second part. -/
theorem forEach_append_of_done {earlier later : List Element}
    (done : forEach step earlier state = .done () middle) :
    forEach step (earlier ++ later) state = forEach step later middle := by
  induction earlier generalizing state with
  | nil =>
    cases done
    rfl
  | cons element rest inductionHypothesis =>
    obtain ⟨between, first, others⟩ := forEach_cons_eq_done.mp done
    rw [List.cons_append]
    exact (bind_of_done first).trans (inductionHypothesis others)

end Action

/-! ## A copy that is cut short -/

namespace Chunk

variable {base length index stop : Nat}

/-- A copy enters its pages one after the other. -/
theorem entry_mono (ordered : index ≤ stop) :
    entry config base length index ≤ entry config base length stop := by
  have scaled := Nat.mul_le_mul_right config.pageSize ordered
  unfold entry cut
  omega

/-- A copy that is cut short where it enters a page enters the pages before it where it did. -/
theorem entry_entry (before : index ≤ stop) :
    entry config base (entry config base length stop) index = entry config base length index := by
  have ordered := Nat.mul_le_mul_right config.pageSize before
  unfold entry cut
  omega

/-- A copy that is cut short where it enters a page touches the pages before it. -/
theorem pageCount_entry (inside : stop ≤ pageCount config base length) :
    pageCount config base (entry config base length stop) = stop := by
  rcases Nat.lt_or_eq_of_le inside with early | rfl
  · obtain ⟨exact, _⟩ := entry_eq early
    have rest := Nat.mod_lt base config.pageSize_pos
    cases stop with
    | zero =>
      rw [entry_zero]
      rfl
    | succ earlier =>
      have whole : (earlier + 1) * config.pageSize =
          earlier * config.pageSize + config.pageSize := Nat.succ_mul ..
      unfold pageCount pagesTouched
      rw [exact, if_neg (by omega)]
      congr 1
      exact Nat.div_eq_of_lt_le (by omega) (by omega)
  · rw [entry_last]

/-- A copy of some bytes touches a page. -/
theorem pageCount_pos (nonempty : 0 < length) : 0 < pageCount config base length := by
  unfold pageCount pagesTouched
  rw [if_neg (Nat.ne_of_gt nonempty)]
  exact Nat.succ_pos _

/-- A copy that passes the beginning of a page enters the page there. -/
theorem exists_entry {number done : Nat} (begins : base + done = number * config.pageSize)
    (positive : 0 < done) (inside : done < length) :
    ∃ stop, 0 < stop ∧ stop < pageCount config base length ∧
      entry config base length stop = done := by
  have parts := Nat.div_add_mod' base config.pageSize
  have later : base / config.pageSize < number := by
    refine Nat.lt_of_mul_lt_mul_right (a := config.pageSize) ?_
    omega
  have steps : (number - base / config.pageSize) * config.pageSize =
      done + base % config.pageSize := by
    rw [Nat.sub_mul]
    omega
  refine ⟨number - base / config.pageSize, by omega, ?_, ?_⟩
  · unfold pageCount pagesTouched
    rw [if_neg (by omega), Nat.lt_succ_iff, Nat.le_div_iff_mul_le config.pageSize_pos, steps]
    omega
  · unfold entry cut
    rw [steps]
    omega

/-- A copy that is cut off at the entry into a page has the chunks before that page. -/
theorem ofCopyFrom_entry :
    ofCopyFrom config base (entry config base length stop) 0 stop =
      ofCopyFrom config base length 0 stop := by
  refine List.map_congr_left fun index listed => ?_
  obtain ⟨_, inside⟩ := List.mem_range'_1.mp listed
  rw [ofIndex, ofIndex, entry_entry (by omega), entry_entry (by omega)]

/-- Chunks may be listed in two parts. -/
theorem ofCopyFrom_append (first count more : Nat) :
    ofCopyFrom config base length first (count + more) =
      ofCopyFrom config base length first count ++
        ofCopyFrom config base length (first + count) more := by
  unfold ofCopyFrom
  rw [← List.map_append, List.range'_append_1]

end Chunk

namespace KernelAction

open Machine Chunk

variable {key : SpaceKey} {base : VirtualAddress} {bytes : Bytes} {machine : Machine config}

/-- A copy to user memory is a loop over the parts of its pages. -/
theorem copyToUser_eq (base : VirtualAddress) (bytes : Bytes) :
    (copyToUser key base bytes : KernelAction config Unit) =
      Action.forEach (writeChunk key base bytes) (ofCopyFrom config base.word.toNat bytes.size 0
        (pageCount config base.word.toNat bytes.size)) := by
  rw [copyToUser, VirtualAddress.toNat_pageOffset, ofCopy_eq]

/-- Of the bytes of a copy a chunk takes those that lie in it. -/
theorem writeChunk_extract {chunk : Chunk} {stop : Nat} (ordered : chunk.start ≤ chunk.stop)
    (inside : chunk.stop ≤ stop) :
    (writeChunk key base (bytes.extract 0 stop) chunk : KernelAction config Unit) =
      writeChunk key base bytes chunk := by
  have same : Bytes.slice (bytes.extract 0 stop) chunk.start chunk.length =
      bytes.slice chunk.start chunk.length := by
    unfold Bytes.slice Chunk.length
    rw [Array.extract_extract]
    congr 1 <;> omega
  unfold writeChunk
  rw [same]

/-- To copy the bytes up to a page is to work through the chunks before that page. -/
theorem copyToUser_extract {stop : Nat}
    (inside : stop ≤ pageCount config base.word.toNat bytes.size) :
    (copyToUser key base (bytes.extract 0 (entry config base.word.toNat bytes.size stop)) :
      KernelAction config Unit) =
      Action.forEach (writeChunk key base bytes)
        (ofCopyFrom config base.word.toNat bytes.size 0 stop) := by
  have within : entry config base.word.toNat bytes.size stop ≤ bytes.size := Nat.min_le_left _ _
  have sized : (bytes.extract 0 (entry config base.word.toNat bytes.size stop)).size =
      entry config base.word.toNat bytes.size stop := by
    rw [Array.size_extract]
    omega
  rw [copyToUser_eq, sized, pageCount_entry inside, ofCopyFrom_entry]
  apply Action.forEach_congr
  intro chunk listed
  obtain ⟨index, indexed, rfl⟩ := List.mem_map.mp listed
  obtain ⟨_, early⟩ := List.mem_range'_1.mp indexed
  exact writeChunk_extract (entry_mono (Nat.le_succ index)) (entry_mono (by omega))

/-- To copy no bytes is to do nothing. -/
theorem copyToUser_extract_zero :
    copyToUser key base (bytes.extract 0 (entry config base.word.toNat bytes.size 0)) machine =
      .done () machine := by
  rw [copyToUser_extract (Nat.zero_le _)]
  rfl

/-- A copy that has come to a page goes on with the chunk that lies in it, and then with those
behind. -/
theorem copyToUser_of_extract {stop : Nat} {middle : Machine config}
    (inside : stop < pageCount config base.word.toNat bytes.size)
    (done : copyToUser key base (bytes.extract 0 (entry config base.word.toNat bytes.size stop))
      machine = .done () middle) :
    ∃ more, stop + 1 + more = pageCount config base.word.toNat bytes.size ∧
      copyToUser key base bytes machine = Action.forEach (writeChunk key base bytes)
        (ofIndex config base.word.toNat bytes.size stop ::
          ofCopyFrom config base.word.toNat bytes.size (stop + 1) more) middle := by
  rw [copyToUser_extract (Nat.le_of_lt inside)] at done
  obtain ⟨more, whole⟩ := Nat.exists_eq_add_of_lt inside
  refine ⟨more, by omega, ?_⟩
  rw [copyToUser_eq, whole, Nat.add_assoc, ofCopyFrom_append, Action.forEach_append_of_done done,
    Nat.zero_add, ofCopyFrom_succ]

end KernelAction

end DemandPaging

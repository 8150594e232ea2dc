import DemandPaging.Proofs.Flat.Copy
import DemandPaging.Proofs.Window.Access

/-!
# Copies to and from a window

A copy to the space of an open window replaces what the window shows at the addresses that the copy
reaches, and a copy from it returns what the window shows there. A copy that lies within the window
reaches its end.
-/

namespace DemandPaging

variable {config : Config}

open Machine Chunk

namespace FileWindow

variable (window : FileWindow config)

/-- What a window shows after bytes were stored from an address on, as far as the copy reached. -/
def written (base : Nat) (bytes : Bytes) (reached : Nat) (content : Nat → UInt8) (position : Nat) :
    UInt8 :=
  if window.Shows position ∧ base ≤ window.place position ∧
      window.place position < base + reached then
    bytes.getD (window.place position - base) 0
  else content position

variable {window} {number : PageNumber} {backing : FileBacking config} {position : Nat}

/-- A position of the file is seen in the page that its part is on. -/
theorem Holds.div_place (holds : window.Holds number backing) (covers : backing.Covers position) :
    window.place position / config.pageSize = number.word.toNat := by
  have inside := Nat.mod_lt position config.pageSize_pos
  apply Nat.div_eq_of_lt_le
  · rw [holds.place_eq covers]
    omega
  · rw [holds.place_eq covers, Nat.succ_mul]
    omega

/-- A position of the file is seen at its own offset in the page. -/
theorem Holds.mod_place (holds : window.Holds number backing) (covers : backing.Covers position) :
    window.place position % config.pageSize = position % config.pageSize := by
  rw [holds.place_eq covers, Nat.mul_add_mod_self_right, Nat.mod_mod]

/-- The page at the address of a position shows that position. -/
theorem Shows.holds (shows : window.Shows position)
    (here : window.place position / config.pageSize = number.word.toNat) :
    ∃ backing, window.Holds number backing ∧ backing.Covers position := by
  obtain ⟨other, backing, holds, covers⟩ := shows_iff.mp shows
  have same : other = number :=
    Numbered.number_injective ((holds.div_place covers).symm.trans here)
  exact ⟨backing, same ▸ holds, covers⟩

variable {base : VirtualAddress} {bytes : Bytes} {index : Nat} {content : Nat → UInt8}

/-- A copy that reached nothing changes nothing about the window. -/
theorem written_zero (base : Nat) (bytes : Bytes) (content : Nat → UInt8) :
    window.written base bytes 0 content = content := by
  funext position
  rw [written, if_neg]
  omega

/-- Bytes of a chunk are stored on its page only. -/
theorem written_of_elsewhere {base : Nat} (inside : index < pageCount config base bytes.size)
    (elsewhere : window.Shows position →
      window.place position / config.pageSize ≠ base / config.pageSize + index) :
    window.written base bytes (entry config base bytes.size (index + 1)) content position =
      window.written base bytes (entry config base bytes.size index) content position := by
  have grows := (entry_bounds inside).1
  unfold written
  refine if_congr ⟨fun ⟨shows, after, before⟩ => ⟨shows, after, ?_⟩, fun ⟨shows, after, before⟩ =>
    ⟨shows, after, by omega⟩⟩ rfl rfl
  apply Nat.lt_of_not_le
  intro late
  apply elsewhere shows
  have same : (base + (window.place position - base)) / config.pageSize =
      base / config.pageSize + index := div_of_mem inside (by omega) (by omega)
  rw [Nat.add_sub_cancel' after] at same
  exact same

/-- A page that a chunk was stored in shows the bytes of the copy up to the end of the chunk. -/
theorem byteAt_patched {base : Nat} (inside : index < pageCount config base bytes.size)
    (holds : window.Holds number backing) (covers : backing.Covers position)
    (ofChunk : number.word.toNat = base / config.pageSize + index) (page : PageBytes config)
    (shown : page.byteAt position =
      window.written base bytes (entry config base bytes.size index) content position) :
    (page.patched number base bytes).byteAt position =
      window.written base bytes (entry config base bytes.size (index + 1)) content position := by
  have within := Nat.mod_lt position config.pageSize_pos
  have shows : window.Shows position := shows_iff.mpr ⟨number, backing, holds, covers⟩
  have place := holds.place_eq covers
  obtain ⟨grows, ends, _, _, _, stops⟩ := entry_bounds inside
  rw [← ofChunk] at stops
  rw [PageBytes.byteAt_eq _ within, PageBytes.getElem_patched _ _ _ _ within,
    ← PageBytes.byteAt_eq _ within, shown, ← place]
  unfold written
  by_cases before : window.place position < base + entry config base bytes.size (index + 1)
  · by_cases after : base ≤ window.place position
    · rw [if_pos ⟨after, by omega⟩, if_pos ⟨shows, after, before⟩]
    · rw [if_neg (fun both => after both.1), if_neg (fun both => after both.2.1),
        if_neg (fun both => after both.2.1)]
  · -- beyond its last byte the copy has stored nothing, and a chunk before the last fills its page
    have last : entry config base bytes.size (index + 1) = bytes.size := by omega
    rw [if_neg (by omega), if_neg (by omega), if_neg (fun both => before both.2.2)]

variable {machine stored later : Machine config}

/-- A chunk is shown once it is stored, on whatever page it is. -/
theorem Stands.of_chunk
    (stands : window.Stands
      (window.written base.word.toNat bytes (entry config base.word.toNat bytes.size index) content)
      machine)
    (consistent : machine.Consistent) (starts : Starts config base bytes.size index)
    (inside : index < pageCount config base.word.toNat bytes.size) {address : VirtualAddress}
    (within : base.checkedAdd
      (UInt64.ofNat (ofIndex config base.word.toNat bytes.size index).start) = some address)
    (leads : (Transition.store window.space (address.page config) (address.pageOffset config).toNat
      (bytes.slice (ofIndex config base.word.toNat bytes.size index).start
        (ofIndex config base.word.toNat bytes.size index).length)).Leads machine stored) :
    window.Stands
      (window.written base.word.toNat bytes (entry config base.word.toNat bytes.size (index + 1))
        content) stored := by
  have ofChunk := starts.toNat_page inside within
  refine ⟨?_, stands.isOpen.of_retains fun _ _ _ => leads.retains consistent trivial⟩
  by_cases ours : ∃ page backing, window.Has machine (address.page config) page backing
  · obtain ⟨page, backing, has⟩ := ours
    apply stands.reflects.of_store leads consistent has
    · intro before place covers shown
      rw [starts.overwrite_eq_patched inside within]
      exact byteAt_patched inside has.holds covers ofChunk before shown
    · intro place uncovered
      apply written_of_elsewhere inside
      intro shows here
      obtain ⟨backing', holds, covers⟩ := shows.holds (here.trans ofChunk.symm)
      exact uncovered (has.holds.unique holds ▸ covers)
  · have same : window.written base.word.toNat bytes
        (entry config base.word.toNat bytes.size (index + 1)) content =
          window.written base.word.toNat bytes
            (entry config base.word.toNat bytes.size index) content := by
      funext place
      apply written_of_elsewhere inside
      intro shows here
      obtain ⟨backing, holds, _⟩ := shows.holds (here.trans ofChunk.symm)
      obtain ⟨page, has, _⟩ := stands.isOpen _ _ holds
      exact ours ⟨page, backing, has⟩
    rw [same]
    exact stands.reflects.of_leads leads consistent
      fun page backing both => ours ⟨page, backing, both.2⟩

/-- A copy to the space of a window that has come to a chunk stores the rest of its bytes up to where it
stops. -/
theorem Stands.of_writesChunks {count : Nat} {result : Except VmError Unit}
    (writes : WritesChunks window.space base bytes
      (ofCopyFrom config base.word.toNat bytes.size index count) machine result later)
    (whole : index + count = pageCount config base.word.toNat bytes.size)
    (starts : Starts config base bytes.size index) (atRest : machine.AtRest)
    (stands : window.Stands
      (window.written base.word.toNat bytes (entry config base.word.toNat bytes.size index) content)
      machine) :
    ∃ reached ≤ bytes.size, StopsAt config base bytes.size reached result ∧
      window.Stands (window.written base.word.toNat bytes reached content) later := by
  induction count generalizing index machine with
  | zero =>
    rw [Nat.add_zero] at whole
    subst whole
    cases writes
    rw [entry_last] at stands
    exact ⟨bytes.size, Nat.le_refl _, rfl, stands⟩
  | succ count inductionHypothesis =>
    have inside : index < pageCount config base.word.toNat bytes.size := by omega
    rw [ofCopyFrom_succ] at writes
    cases writes with
    | denied denied =>
      exact ⟨_, Nat.le_of_lt (entry_eq inside).2, .denied inside, stands.of_denied denied atRest⟩
    | @chunk _ _ _ middle stored _ _ address within nameable accessed leads writes =>
      have middleRest := (accessed.passes atRest).atRest
      exact inductionHypothesis writes (by omega) (starts.next inside within nameable)
        (leads.atRest middleRest)
        ((stands.of_accessed accessed atRest).of_chunk middleRest.consistent starts inside within
          leads)

/-- A copy from the space of a window that has come to a chunk returns what it has filled before,
followed by what the window shows up to where the copy stops. -/
theorem Stands.of_readsChunks {size count : Nat} {buffer : Bytes}
    {result : Bytes × Except VmError Unit}
    (reads : ReadsChunks window.space base (ofCopyFrom config base.word.toNat size index count)
      buffer machine result later)
    (whole : index + count = pageCount config base.word.toNat size)
    (starts : Starts config base size index) (sized : buffer.size = size)
    (atRest : machine.AtRest) (stands : window.Stands content machine) :
    window.Stands content later ∧
      ∃ reached ≤ size, StopsAt config base size reached result.2 ∧
        result.1.size = size ∧
        (∀ place < entry config base.word.toNat size index, result.1[place]? = buffer[place]?) ∧
        ∀ position, window.Shows position →
          base.word.toNat + entry config base.word.toNat size index ≤ window.place position →
            window.place position < base.word.toNat + reached →
              result.1[window.place position - base.word.toNat]? = some (content position) := by
  induction count generalizing index buffer machine with
  | zero =>
    rw [Nat.add_zero] at whole
    subst whole
    cases reads
    rw [entry_last]
    refine ⟨stands, size, Nat.le_refl _, rfl, sized, fun _ _ => rfl, ?_⟩
    intro position _ after before
    omega
  | succ count inductionHypothesis =>
    have inside : index < pageCount config base.word.toNat size := by omega
    rw [ofCopyFrom_succ] at reads
    cases reads with
    | denied denied =>
      refine ⟨stands.of_denied denied atRest, _, Nat.le_of_lt (entry_eq inside).2, .denied inside,
        sized, fun _ _ => rfl, ?_⟩
      intro position _ after before
      omega
    | @chunk _ _ _ _ middle _ _ address page frame within nameable accessed found resident reads =>
      have ofChunk := starts.toNat_page inside within
      have passes := accessed.passes atRest
      have standing := stands.of_accessed accessed atRest
      obtain ⟨grows, _⟩ := entry_bounds inside
      obtain ⟨last, reached, within', stops, size', kept, shown⟩ :=
        inductionHypothesis reads (by omega) (starts.next inside within nameable)
          (by rw [Bytes.size_overwrite, sized]) passes.atRest standing
      refine ⟨last, reached, within', stops, size', ?_, ?_⟩
      · intro place early
        rw [kept place (by omega)]
        exact starts.getElem?_unfilled inside within _ (.inl early)
      · intro position shows after before
        by_cases ofThis : window.place position <
            base.word.toNat + entry config base.word.toNat size (index + 1)
        · -- the byte comes from the page of this chunk, which is a page of the window
          have here : (base.word.toNat + (window.place position - base.word.toNat)) /
              config.pageSize = base.word.toNat / config.pageSize + index :=
            div_of_mem inside (by omega) (by omega)
          rw [Nat.add_sub_cancel' (by omega)] at here
          obtain ⟨backing, holds, covers⟩ := shows.holds (here.trans ofChunk.symm)
          obtain ⟨page', has, _⟩ := standing.isOpen _ _ holds
          cases found.symm.trans has.found
          rw [kept _ (by omega), starts.getElem?_filled inside within _ sized (by omega) (by omega),
            Nat.add_sub_cancel' (by omega)]
          have same : (middle.frameBytes frame).byteAt (window.place position) =
              (middle.frameBytes frame).byteAt position := by
            unfold PageBytes.byteAt
            simp only [holds.mod_place covers]
          rw [same, standing.reflects.resident has resident covers]
        · exact shown position shows (by omega) before

/-! ## Whole copies -/

/-- What a copy from a window has found when it ended with `result`: everything that it reached and that
the window shows. -/
def Delivers (window : FileWindow config) (content : Nat → UInt8) (base : VirtualAddress) (size : Nat)
    (filled : Bytes) (result : Except VmError Unit) : Prop :=
  filled.size = size ∧ ∃ reached ≤ size, StopsAt config base size reached result ∧
    ∀ position, window.Shows position → base.word.toNat ≤ window.place position →
      window.place position < base.word.toNat + reached →
        filled[window.place position - base.word.toNat]? = some (content position)

/-- A copy from a window leaves it as it is, and delivers what it shows. -/
theorem Stands.of_copyFromUser {buffer : Bytes} {result : Bytes × Except VmError Unit}
    (reads : ReadsChunks window.space base
      (Chunk.ofCopy config (base.pageOffset config).toNat buffer.size) buffer machine result later)
    (atRest : machine.AtRest) (stands : window.Stands content machine) :
    window.Stands content later ∧
      window.Delivers content base buffer.size result.1 result.2 := by
  rw [VirtualAddress.toNat_pageOffset, ofCopy_eq] at reads
  obtain ⟨last, reached, within, stops, size, _, shown⟩ :=
    stands.of_readsChunks reads (Nat.zero_add _) (.zero base _) rfl atRest
  refine ⟨last, size, reached, within, stops, ?_⟩
  intro position shows after before
  apply shown position shows ?_ before
  rw [entry_zero]
  exact after

/-- A copy to a window changes what it shows as far as the copy reached. -/
theorem Stands.of_copyToUser {result : Except VmError Unit}
    (writes : WritesChunks window.space base bytes
      (Chunk.ofCopy config (base.pageOffset config).toNat bytes.size) machine result later)
    (atRest : machine.AtRest) (stands : window.Stands content machine) :
    ∃ reached ≤ bytes.size, StopsAt config base bytes.size reached result ∧
      window.Stands (window.written base.word.toNat bytes reached content) later := by
  rw [VirtualAddress.toNat_pageOffset, ofCopy_eq] at writes
  apply Stands.of_writesChunks writes (Nat.zero_add _) (.zero base _) atRest
  rw [entry_zero, written_zero]
  exact stands

/-! ## Copies that succeed -/

variable (window) in
/-- The addresses of a copy are all addresses of the window. -/
def Spans (base size : Nat) : Prop :=
  window.plan.start.word.toNat * config.pageSize ≤ base ∧
    base + size ≤ (window.plan.start.word.toNat + window.count) * config.pageSize

instance (base size : Nat) : Decidable (window.Spans base size) :=
  inferInstanceAs (Decidable (_ ∧ _))

/-- Each chunk of a copy within the window lies on a page of the window. -/
theorem Spans.chunk {size : Nat} (spans : window.Spans base.word.toNat size)
    (nameable : base.isNameable config = true)
    (inside : index < pageCount config base.word.toNat size) :
    Starts config base size index ∧ ∃ address backing,
      base.checkedAdd (UInt64.ofNat (ofIndex config base.word.toNat size index).start) =
        some address ∧
      address.isNameable config = true ∧ window.Holds (address.page config) backing := by
  obtain ⟨low, high⟩ := spans
  obtain ⟨grows, ends, _, _, begins, _⟩ := entry_bounds inside
  have basePositive := VirtualAddress.pos_of_isNameable nameable
  rw [VirtualAddress.isNameable, Bool.and_eq_true] at nameable
  have baseUser : base.word.toNat < config.userEnd.toNat :=
    UInt64.lt_iff_toNat_lt.mp (of_decide_eq_true nameable.2)
  -- the page of the chunk is one of the window
  have quotient := div_of_mem inside (Nat.le_refl _) grows
  have after : window.plan.start.word.toNat ≤ base.word.toNat / config.pageSize + index := by
    rw [← quotient, Nat.le_div_iff_mul_le config.pageSize_pos]
    omega
  have before : base.word.toNat / config.pageSize + index <
      window.plan.start.word.toNat + window.count := by
    rw [← quotient, Nat.div_lt_iff_lt_mul config.pageSize_pos]
    omega
  obtain ⟨step, page⟩ := Nat.exists_eq_add_of_le after
  have first : base.word.toNat + entry config base.word.toNat size index < config.userEnd.toNat := by
    rcases Nat.eq_zero_or_pos index with rfl | later
    · rw [entry_zero]
      exact baseUser
    · rw [← begins later, page]
      exact window.user step (by omega)
  have bounded := Word.toNat_lt_modulus config.userEnd
  have starts : Starts config base size index := ⟨by omega, fun _ => basePositive⟩
  have start : (UInt64.ofNat (ofIndex config base.word.toNat size index).start).toNat =
      entry config base.word.toNat size index := Word.toNat_ofNat_of_lt starts.small
  obtain ⟨address, within⟩ : ∃ address, base.checkedAdd
      (UInt64.ofNat (ofIndex config base.word.toNat size index).start) = some address := by
    rw [VirtualAddress.checkedAdd, Word.checkedAdd, if_pos (by omega)]
    exact ⟨_, rfl⟩
  have place := starts.toNat_eq within
  have ofChunk := starts.toNat_page inside within
  refine ⟨starts, address, window.part step, within, ?_, step, by omega, ?_, rfl⟩
  · rw [VirtualAddress.isNameable, Bool.and_eq_true, VirtualAddress.isNull, VirtualAddress.isUser]
    refine ⟨?_, decide_eq_true (UInt64.lt_iff_toNat_lt.mpr (by omega))⟩
    rw [Bool.not_eq_true', beq_eq_false_iff_ne]
    intro null
    have zero := congrArg UInt64.toNat null
    rw [place, UInt64.toNat_zero] at zero
    omega
  · apply Numbered.number_injective
    show (address.page config).word.toNat = (window.plan.start.advance step).word.toNat
    rw [ofChunk, toNat_number (by omega), page]

open KernelAction

/-- In an open window reading a chunk does not fail. -/
theorem readChunk_completes (stands : window.Stands content machine) (atRest : machine.AtRest)
    {chunk : Chunk} {address : VirtualAddress}
    (within : base.checkedAdd (UInt64.ofNat chunk.start) = some address)
    (nameable : address.isNameable config = true)
    (holds : window.Holds (address.page config) backing) :
    (readChunk window.space base chunk).Ends machine (fun _ _ => True) (fun _ _ => False) := by
  unfold readChunk
  simp only [within, Action.ends_bind, Action.ends_orFail]
  refine ⟨fun found same => ?_, nofun⟩
  cases same
  exact (accessFrame_completes stands atRest nameable holds).mono (fun _ _ _ => trivial)
    (fun _ _ => id)

/-- In an open window writing a chunk does not fail. -/
theorem writeChunk_completes (stands : window.Stands content machine) (atRest : machine.AtRest)
    {chunk : Chunk} {address : VirtualAddress}
    (within : base.checkedAdd (UInt64.ofNat chunk.start) = some address)
    (nameable : address.isNameable config = true)
    (holds : window.Holds (address.page config) backing) :
    (writeChunk window.space base bytes chunk).Ends machine (fun _ _ => True)
      (fun _ _ => False) := by
  unfold writeChunk
  simp only [within, Action.ends_bind, Action.ends_orFail]
  refine ⟨fun found same => ?_, nofun⟩
  cases same
  exact (accessFrame_completes stands atRest nameable holds).mono (fun _ _ _ => trivial)
    (fun _ _ => id)

/-- A copy from a window that lies within the window reaches its end. -/
theorem copyFromUser_completes (stands : window.Stands content machine) (atRest : machine.AtRest)
    {buffer : Bytes} (nameable : base.isNameable config = true)
    (spans : window.Spans base.word.toNat buffer.size) :
    (copyFromUser window.space base buffer).Ends machine (fun result _ => result.2 = .ok ())
      (fun _ _ => False) := by
  have chunks : ∀ (count index : Nat) (filled : Bytes) (machine : Machine config),
      index + count = pageCount config base.word.toNat buffer.size →
      window.Stands content machine → machine.AtRest →
      (readChunks window.space base filled
        (ofCopyFrom config base.word.toNat buffer.size index count)).Ends machine
          (fun result _ => result.2 = .ok ()) (fun _ _ => False) := by
    intro count
    induction count with
    | zero => exact fun _ _ _ _ _ _ => rfl
    | succ count inductionHypothesis =>
      intro index filled machine whole stands atRest
      have inside : index < pageCount config base.word.toNat buffer.size := by omega
      obtain ⟨_, address, backing, within, nameable, holds⟩ := spans.chunk nameable inside
      obtain ⟨page, has, _⟩ := stands.isOpen _ _ holds
      rw [ofCopyFrom_succ, readChunks]
      simp only [Action.ends_bind, Action.ends_attempt]
      refine ((readChunk_ends atRest (isSome_of_page? has.found) base _).and
        (readChunk_completes stands atRest within nameable holds)).mono ?_ (fun _ _ both => both.2.elim)
      rintro piece middle ⟨⟨_, _, _, _, _, accessed, _⟩, _⟩
      exact inductionHypothesis _ _ _ (by omega) (stands.of_accessed accessed atRest)
        (accessed.passes atRest).atRest
  unfold copyFromUser
  rw [VirtualAddress.toNat_pageOffset, ofCopy_eq]
  exact chunks _ 0 buffer machine (Nat.zero_add _) stands atRest

/-- A copy to a window that lies within the window reaches its end. -/
theorem copyToUser_completes (stands : window.Stands content machine) (atRest : machine.AtRest)
    (nameable : base.isNameable config = true)
    (spans : window.Spans base.word.toNat bytes.size) :
    (copyToUser window.space base bytes).Ends machine (fun _ _ => True) (fun _ _ => False) := by
  have chunks : ∀ (count index : Nat) (machine : Machine config),
      index + count = pageCount config base.word.toNat bytes.size →
      window.Stands (window.written base.word.toNat bytes
        (entry config base.word.toNat bytes.size index) content) machine → machine.AtRest →
      (Action.forEach (writeChunk window.space base bytes)
        (ofCopyFrom config base.word.toNat bytes.size index count)).Ends machine
          (fun _ _ => True) (fun _ _ => False) := by
    intro count
    induction count with
    | zero => exact fun _ _ _ _ _ => trivial
    | succ count inductionHypothesis =>
      intro index machine whole stands atRest
      have inside : index < pageCount config base.word.toNat bytes.size := by omega
      obtain ⟨starts, address, backing, within, nameable, holds⟩ := spans.chunk nameable inside
      obtain ⟨page, has, _⟩ := stands.isOpen _ _ holds
      rw [ofCopyFrom_succ]
      simp only [Action.ends_forEach_cons]
      refine ((writeChunk_ends atRest (isSome_of_page? has.found) base bytes _).and
        (writeChunk_completes stands atRest within nameable holds)).mono ?_
        (fun _ _ both => both.2.elim)
      rintro _ stored ⟨⟨address', middle, within', _, accessed, leads⟩, _⟩
      have middleRest := (accessed.passes atRest).atRest
      exact inductionHypothesis _ _ (by omega)
        ((stands.of_accessed accessed atRest).of_chunk middleRest.consistent starts inside within'
          leads) (leads.atRest middleRest)
  unfold copyToUser
  rw [VirtualAddress.toNat_pageOffset, ofCopy_eq]
  apply chunks _ 0 machine (Nat.zero_add _) _ atRest
  rw [entry_zero, written_zero]
  exact stands

end FileWindow

end DemandPaging

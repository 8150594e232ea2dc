import DemandPaging.Proofs.Flat.Access

/-!
# Copies to and from a memory without paging

A copy goes from chunk to chunk, and every chunk uses one page. Put together, the chunks that were
transferred are the bytes of the copy up to where it stopped, at the addresses at which a memory
without paging has them.
-/

namespace DemandPaging

variable {config : Config}

/-! ## Bytes that are laid over others -/

namespace Bytes

variable {target piece : Bytes} {position index : Nat}

/-- Bytes outside the piece are not overwritten. -/
theorem getElem?_overwrite_of_outside
    (outside : index < position ∨ position + piece.size ≤ index) :
    (target.overwrite position piece)[index]? = target[index]? := by
  have untouched : ∀ under, overlay piece position index under = under := by
    intro under
    unfold overlay
    split
    · rw [Array.getD_eq_getD_getElem?, Array.getElem?_eq_none (by omega), Option.getD_none]
    · rfl
  by_cases inside : index < target.size
  · rw [Array.getElem?_eq_getElem (by rw [size_overwrite]; exact inside),
      Array.getElem?_eq_getElem inside]
    unfold overwrite
    rw [getElem_splice, untouched]
    simp [inside]
  · rw [Array.getElem?_eq_none (by rw [size_overwrite]; omega), Array.getElem?_eq_none (by omega)]

/-- Bytes inside the piece are those of the piece. -/
theorem getElem?_overwrite_of_inside (after : position ≤ index)
    (before : index - position < piece.size) (inside : index < target.size) :
    (target.overwrite position piece)[index]? = some piece[index - position] := by
  rw [Array.getElem?_eq_getElem (by rw [size_overwrite]; exact inside)]
  unfold overwrite
  rw [getElem_splice, overlay, if_pos after]
  simp [before]

end Bytes

namespace PageBytes

variable (page : PageBytes config) {position length index : Nat}

/-- A slice that lies in a page has the length that was asked for. -/
theorem size_slice (within : position + length ≤ config.pageSize) :
    (page.slice position length).size = length := by
  simp only [slice, Bytes.slice, Array.size_extract, Vector.size_toArray]
  omega

/-- A byte of a slice is a byte of the page. -/
theorem getElem_slice (inside : index < (page.slice position length).size)
    (within : position + index < config.pageSize) :
    (page.slice position length)[index] = page[position + index] := by
  simp [slice, Bytes.slice]

end PageBytes

/-! ## The chunks of a copy and the pages it touches -/

namespace Chunk

/-- A copy from an address on has a chunk of the given index, whose start is a word. -/
structure Starts (config : Config) (address : VirtualAddress) (length index : Nat) : Prop where
  small : entry config address.word.toNat length index < Word.modulus
  positive : 0 < index → 0 < address.word.toNat

/-- A chunk extends from the entry into its page to the entry into the next one. -/
theorem length_ofIndex (base length index : Nat) :
    (ofIndex config base length index).length =
      entry config base length (index + 1) - entry config base length index := rfl

/-- A copy enters its first page at its start. -/
theorem entry_zero (base length : Nat) : entry config base length 0 = 0 := by
  simp [entry, cut]

/-- The first chunk of a copy starts at its address. -/
theorem Starts.zero (address : VirtualAddress) (length : Nat) : Starts config address length 0 where
  small := by
    rw [entry_zero]
    decide
  positive := nofun

variable {base address : VirtualAddress} {length index : Nat}

/-- The address of a chunk. -/
theorem Starts.toNat_eq (starts : Starts config base length index)
    (within : base.checkedAdd (UInt64.ofNat (ofIndex config base.word.toNat length index).start) =
      some address) :
    address.word.toNat = base.word.toNat + entry config base.word.toNat length index := by
  rw [VirtualAddress.toNat_of_checkedAdd within]
  exact congrArg _ (Word.toNat_ofNat_of_lt starts.small)

/-- The chunk after one that could be addressed starts at a word, too. -/
theorem Starts.next (starts : Starts config base length index)
    (inside : index < pageCount config base.word.toNat length)
    (within : base.checkedAdd (UInt64.ofNat (ofIndex config base.word.toNat length index).start) =
      some address)
    (nameable : address.isNameable config = true) : Starts config base length (index + 1) := by
  have place := starts.toNat_eq within
  have positive : 0 < base.word.toNat := by
    rcases Nat.eq_zero_or_pos index with rfl | later
    · rw [entry_zero, Nat.add_zero] at place
      rw [← place]
      exact VirtualAddress.pos_of_isNameable nameable
    · exact starts.positive later
  refine ⟨?_, fun _ => positive⟩
  obtain ⟨_, _, low, high, _, _⟩ := entry_bounds inside
  obtain ⟨pages, whole⟩ := config.pageSize_dvd_modulus
  have bounded := Word.toNat_lt_modulus address.word
  rw [Nat.mul_comm] at whole
  have before : base.word.toNat / config.pageSize + index < pages := by
    refine Nat.lt_of_mul_lt_mul_right (a := config.pageSize) ?_
    omega
  have after := Nat.mul_le_mul_right config.pageSize before
  rw [Nat.succ_mul] at after
  omega

/-- A chunk lies in its page: where the page begins, and that it goes on for the whole chunk. -/
theorem Starts.fits (starts : Starts config base length index)
    (inside : index < pageCount config base.word.toNat length)
    (within : base.checkedAdd (UInt64.ofNat (ofIndex config base.word.toNat length index).start) =
      some address) :
    (base.word.toNat / config.pageSize + index) * config.pageSize +
        (address.pageOffset config).toNat = address.word.toNat ∧
      (address.pageOffset config).toNat +
        (ofIndex config base.word.toNat length index).length ≤ config.pageSize := by
  have place := starts.toNat_eq within
  obtain ⟨grows, _, _, high, _, _⟩ := entry_bounds inside
  have parts := Nat.div_add_mod' address.word.toNat config.pageSize
  have quotient := div_of_mem inside (Nat.le_refl _) grows
  rw [← place] at quotient
  rw [quotient] at parts
  rw [VirtualAddress.toNat_pageOffset]
  refine ⟨parts, ?_⟩
  rw [length_ofIndex]
  omega

/-- The page of a chunk. -/
theorem Starts.toNat_page (starts : Starts config base length index)
    (inside : index < pageCount config base.word.toNat length)
    (within : base.checkedAdd (UInt64.ofNat (ofIndex config base.word.toNat length index).start) =
      some address) :
    (address.page config).word.toNat = base.word.toNat / config.pageSize + index := by
  rw [VirtualAddress.toNat_page, starts.toNat_eq within]
  exact div_of_mem inside (Nat.le_refl _) (entry_bounds inside).1

/-- A buffer after a chunk was read into it: the bytes of the chunk are those of its page. -/
theorem Starts.getElem?_filled (starts : Starts config base length index)
    (inside : index < pageCount config base.word.toNat length)
    (within : base.checkedAdd (UInt64.ofNat (ofIndex config base.word.toNat length index).start) =
      some address) (page : PageBytes config) {buffer : Bytes} (sized : buffer.size = length)
    {place : Nat} (after : entry config base.word.toNat length index ≤ place)
    (before : place < entry config base.word.toNat length (index + 1)) :
    (buffer.overwrite (ofIndex config base.word.toNat length index).start
      (page.slice (address.pageOffset config).toNat
        (ofIndex config base.word.toNat length index).length))[place]? =
      some (page.byteAt (base.word.toNat + place)) := by
  obtain ⟨_, ends, _, _, _, _⟩ := entry_bounds inside
  obtain ⟨placed, room⟩ := starts.fits inside within
  have start := starts.toNat_eq within
  have short := page.size_slice room
  have parts := Nat.div_add_mod' (base.word.toNat + place) config.pageSize
  rw [div_of_mem inside after before] at parts
  rw [length_ofIndex] at short room
  have known : place - entry config base.word.toNat length index <
      (page.slice (address.pageOffset config).toNat
        (ofIndex config base.word.toNat length index).length).size := by
    rw [length_ofIndex, short]
    omega
  refine (Bytes.getElem?_overwrite_of_inside after known (by omega)).trans (congrArg some ?_)
  refine (page.getElem_slice known ?_).trans ?_
  · show _ + (place - entry _ _ _ _) < _
    omega
  · congr 1
    show _ + (place - entry _ _ _ _) = _
    omega

/-- The other bytes of the buffer are as they were. -/
theorem Starts.getElem?_unfilled (starts : Starts config base length index)
    (inside : index < pageCount config base.word.toNat length)
    (within : base.checkedAdd (UInt64.ofNat (ofIndex config base.word.toNat length index).start) =
      some address) (page : PageBytes config) {buffer : Bytes} {place : Nat}
    (outside : place < entry config base.word.toNat length index ∨
      entry config base.word.toNat length (index + 1) ≤ place) :
    (buffer.overwrite (ofIndex config base.word.toNat length index).start
      (page.slice (address.pageOffset config).toNat
        (ofIndex config base.word.toNat length index).length))[place]? = buffer[place]? := by
  have grows := (entry_bounds inside).1
  refine Bytes.getElem?_overwrite_of_outside ?_
  rw [page.size_slice (starts.fits inside within).2, length_ofIndex]
  show place < entry _ _ _ _ ∨ entry _ _ _ index + _ ≤ place
  omega

/-- Storing a chunk in its page is storing the bytes of the copy that lie in that page. -/
theorem Starts.overwrite_eq_patched {bytes : Bytes}
    (starts : Starts config base bytes.size index)
    (inside : index < pageCount config base.word.toNat bytes.size)
    (within : base.checkedAdd
      (UInt64.ofNat (ofIndex config base.word.toNat bytes.size index).start) = some address)
    (page : PageBytes config) :
    page.overwrite (address.pageOffset config).toNat
      (bytes.slice (ofIndex config base.word.toNat bytes.size index).start
        (ofIndex config base.word.toNat bytes.size index).length) =
      page.patched (address.page config) base.word.toNat bytes := by
  obtain ⟨grows, ends, low, high, begins, stops⟩ := entry_bounds inside
  obtain ⟨placed, _⟩ := starts.fits inside within
  have start := starts.toNat_eq within
  refine Vector.ext fun position fits => ?_
  rw [PageBytes.getElem_overwrite, Bytes.overlay, PageBytes.getElem_patched,
    starts.toNat_page inside within]
  have first : (ofIndex config base.word.toNat bytes.size index).start =
    entry config base.word.toNat bytes.size index := rfl
  -- a position before the chunk lies before the copy, too, because only the first chunk of a copy
  -- does not begin its page
  have before : position < (address.pageOffset config).toNat →
      (base.word.toNat / config.pageSize + index) * config.pageSize + position <
        base.word.toNat := by
    intro early
    rcases Nat.eq_zero_or_pos index with rfl | later
    · rw [entry_zero] at start
      omega
    · have whole := begins later
      omega
  rw [Array.getD_eq_getD_getElem?, Bytes.slice, Array.getElem?_extract, length_ofIndex, first,
    Array.getD_eq_getD_getElem?]
  by_cases after : (address.pageOffset config).toNat ≤ position
  · have place : (base.word.toNat / config.pageSize + index) * config.pageSize + position -
        base.word.toNat =
        entry config base.word.toNat bytes.size index +
          (position - (address.pageOffset config).toNat) := by
      omega
    rw [if_pos after, place]
    by_cases here : position - (address.pageOffset config).toNat <
        entry config base.word.toNat bytes.size (index + 1) -
          entry config base.word.toNat bytes.size index
    · rw [if_pos (by omega), if_pos (by omega)]
      have known : entry config base.word.toNat bytes.size index +
        (position - (address.pageOffset config).toNat) < bytes.size := by omega
      rw [Array.getElem?_eq_getElem known, Option.getD_some, Option.getD_some]
    · rw [if_neg (by omega), if_neg (by omega), Option.getD_none]
  · rw [if_neg after, if_neg (by have early := before (by omega); omega)]

end Chunk

namespace PageNumber

variable {base length index stop : Nat} {number here : PageNumber}

/-- A copy of no bytes touches no page. -/
theorem not_isTouched_self (first : Nat) : ¬ number.IsTouched config base first first := by
  rintro ⟨place, after, before, _⟩
  omega

open Chunk

/-- The pages that a copy touches from a chunk on are that of the chunk and those of the rest. -/
theorem isTouched_iff
    (inside : index < pageCount config base length)
    (ofChunk : here.word.toNat = base / config.pageSize + index)
    (after : entry config base length (index + 1) ≤ stop) :
    number.IsTouched config base (entry config base length index) stop ↔
      number = here ∨ number.IsTouched config base
        (entry config base length (index + 1)) stop := by
  have grows := (entry_bounds inside).1
  constructor
  · rintro ⟨place, from', upto, same⟩
    by_cases here' : place < entry config base length (index + 1)
    · refine .inl (Numbered.number_injective ?_)
      show number.word.toNat = here.word.toNat
      rw [← same, ofChunk, div_of_mem inside from' here']
    · exact .inr ⟨place, Nat.le_of_not_lt here', upto, same⟩
  · rintro (rfl | ⟨place, from', upto, same⟩)
    · refine ⟨_, Nat.le_refl _, by omega, ?_⟩
      rw [ofChunk, div_of_mem inside (Nat.le_refl _) grows]
    · exact ⟨place, by omega, upto, same⟩

/-- A copy does not come back to the page of a chunk. -/
theorem not_isTouched (inside : index < pageCount config base length)
    (ofChunk : here.word.toNat = base / config.pageSize + index) (within : stop ≤ length) :
    ¬ here.IsTouched config base (entry config base length (index + 1)) stop := by
  rintro ⟨place, after, before, same⟩
  have later := lt_div_of_le inside after (Nat.lt_of_lt_of_le before within)
  omega

end PageNumber

/-- Where a copy stops that is denied the page of a chunk. -/
theorem StopsAt.denied {address : VirtualAddress} {length index : Nat} {error : VmError}
    (inside : index < Chunk.pageCount config address.word.toNat length) :
    StopsAt config address length
      (Chunk.entry config address.word.toNat length index) (.error error) := by
  obtain ⟨_, _, _, _, starts, _⟩ := Chunk.entry_bounds inside
  refine ⟨(Chunk.entry_eq inside).2, ?_⟩
  rcases Nat.eq_zero_or_pos index with rfl | later
  · exact .inl (Chunk.entry_zero _ _)
  · refine .inr ?_
    rw [← starts later]
    exact Nat.mul_mod_left ..

namespace FlatMemory

variable {memory other : FlatMemory config} {key : SpaceKey} {place : Nat} {number : PageNumber}

/-- A byte is in the content of its page. -/
theorem byte?_eq_some_iff (here : place / config.pageSize = number.word.toNat) {byte : UInt8} :
    memory.byte? key place = some byte ↔ ∃ bytes, memory.page? key number = some (.present bytes) ∧
      bytes.byteAt place = byte := by
  have same : (⟨UInt64.ofNat (place / config.pageSize)⟩ : PageNumber) = number := by
    rw [here]
    exact congrArg PageNumber.mk (UInt64.ofNat_toNat ..)
  unfold byte?
  rw [same]
  split
  · next bytes present => simp [present]
  · next missing =>
    refine ⟨nofun, ?_⟩
    rintro ⟨bytes, present, _⟩
    exact absurd present (missing bytes)

end FlatMemory

namespace Machine

open Chunk

variable {key : SpaceKey} {base : VirtualAddress} {machine later : Machine config}

/-- The byte of a resident anonymous page is in its frame. -/
theorem byte_of_resident {number : PageNumber} {page : Page config} {frame : FrameNumber}
    {place : Nat} {byte : UInt8} (found : machine.page? key number = some page)
    (resident : page.frame = some frame) (here : place / config.pageSize = number.word.toNat)
    (shows : machine.flat.byte? key place = some byte) :
    (machine.frameBytes frame).byteAt place = byte := by
  obtain ⟨bytes, present, rfl⟩ := (FlatMemory.byte?_eq_some_iff here).mp shows
  rw [flat_page?_of_found found, flatPage] at present
  split at present
  · cases present
  · cases present
    simp only [content_of_resident resident]
  · cases present

/-- A copy from user memory that has come to a chunk returns what it has filled before, followed by
the bytes of the memory up to where it stops. -/
theorem ReadsChunks.fills {size index count : Nat} {buffer : Bytes}
    {result : Bytes × Except VmError Unit}
    (reads : ReadsChunks key base
      (ofCopyFrom config base.word.toNat size index count)
      buffer machine result later)
    (whole : index + count = pageCount config base.word.toNat size)
    (starts : Starts config base size index) (sized : buffer.size = size)
    (atRest : machine.AtRest) :
    ∃ reached, entry config base.word.toNat size index ≤ reached ∧
      reached ≤ size ∧ StopsAt config base size reached result.2 ∧
      machine.flat.Looks key (fun number => number.IsTouched config base.word.toNat
        (entry config base.word.toNat size index) reached) later.flat ∧
      result.1.size = size ∧
      (∀ place byte, entry config base.word.toNat size index ≤ place →
        place < reached → later.flat.byte? key (base.word.toNat + place) = some byte →
          result.1[place]? = some byte) ∧
      ∀ place, place < entry config base.word.toNat size index ∨
        reached ≤ place → result.1[place]? = buffer[place]? := by
  induction count generalizing index buffer machine with
  | zero =>
    rw [Nat.add_zero] at whole
    subst whole
    cases reads
    rw [entry_last]
    refine ⟨size, Nat.le_refl _, Nat.le_refl _, rfl, ?_, sized, fun place _ after before => ?_,
      fun _ _ => rfl⟩
    · exact FlatMemory.Idles.refl.visits fun number => PageNumber.not_isTouched_self _
    · omega
  | succ count inductionHypothesis =>
    have inside : index < pageCount config base.word.toNat size := by omega
    obtain ⟨grows, ends, low, high, starts', _⟩ := entry_bounds inside
    rw [ofCopyFrom_succ] at reads
    cases reads with
    | denied denied =>
      refine ⟨_, Nat.le_refl _, Nat.le_of_lt (entry_eq inside).2, .denied inside, ?_, sized,
        fun place _ after before => ?_, fun _ _ => rfl⟩
      · exact (denied.idles atRest).visits fun number => PageNumber.not_isTouched_self _
      · omega
    | @chunk _ _ _ _ middle _ _ address page frame within nameable accessed found resident reads =>
      have placed := starts.toNat_eq within
      have ofChunk := starts.toNat_page inside within
      have passes := accessed.passes atRest
      obtain ⟨reached, after, within', stops, looks, size', copied, kept⟩ :=
        inductionHypothesis reads (by omega) (starts.next inside within nameable)
          (by rw [Bytes.size_overwrite, sized]) passes.atRest
      have apart := @PageNumber.not_isTouched config _ _ _ _ _ inside ofChunk within'
      refine ⟨reached, by omega, within', stops, ?_, size', ?_, ?_⟩
      · refine ((accessed.looks atRest).append looks ?_).congr fun number =>
          PageNumber.isTouched_iff inside ofChunk after
        rintro number rfl
        exact apart
      · intro place byte from' upto shows
        rcases Nat.lt_or_ge place
          (entry config base.word.toNat size (index + 1)) with ofThis | ofRest
        · -- the rest of the copy changes neither this byte of the buffer nor the page it came from
          have here := (div_of_mem inside from' ofThis).trans ofChunk.symm
          rw [FlatMemory.byte?_eq_some_iff here, looks.others key _ fun _ => apart,
            ← FlatMemory.byte?_eq_some_iff here] at shows
          rw [kept place (.inl ofThis), starts.getElem?_filled inside within _ sized from' ofThis]
          exact congrArg some (byte_of_resident found resident here shows)
        · exact copied place byte ofRest upto shows
      · intro place outside
        rw [kept place (by omega)]
        exact starts.getElem?_unfilled inside within _ (by omega)

/-- A chunk that is written is stored in its page, which is used for that. -/
theorem Accessed.visits {middle stored : Machine config} {number : PageNumber} {position : Nat}
    {piece : Bytes} {store : PageNumber → PageBytes config → PageBytes config}
    (accessed : Accessed key number machine middle)
    (leads : (Transition.store key number position piece).Leads middle stored)
    (atRest : machine.AtRest) (same : ∀ page, page.overwrite position piece = store number page) :
    machine.flat.Visits key (· = number) store stored.flat := by
  have looks := accessed.looks atRest
  have before := (accessed.passes atRest).atRest.consistent
  obtain ⟨page, there, pages⟩ := leads.flat_store before
  have counts := leads.runsOf_le before.fits before.slots before.names
  refine ⟨fun other here => ?_, fun probe other elsewhere => ?_, fun id => ?_⟩
  · subst here
    obtain ⟨used, uses, became⟩ := looks.visited other rfl
    rw [FlatPage.map_id, there] at became
    cases became
    refine ⟨page, uses.mono (fun _ => Nat.le_refl _) counts, ?_⟩
    rw [pages, amend_self, funext same]
  · rw [pages, amend_of_ne fun here => elsewhere here.1 here.2]
    exact looks.others probe other elsewhere
  · exact Nat.le_trans (looks.runs id) (counts id)

/-- A copy to user memory that has come to a chunk stores the rest of its bytes up to where it
stops. -/
theorem WritesChunks.stores {bytes : Bytes} {index count : Nat} {result : Except VmError Unit}
    (writes : WritesChunks key base bytes
      (ofCopyFrom config base.word.toNat bytes.size index count) machine result later)
    (whole : index + count = pageCount config base.word.toNat bytes.size)
    (starts : Starts config base bytes.size index) (atRest : machine.AtRest) :
    ∃ reached, entry config base.word.toNat bytes.size index ≤ reached ∧
      reached ≤ bytes.size ∧ StopsAt config base bytes.size reached result ∧
      machine.flat.Visits key (fun number => number.IsTouched config base.word.toNat
        (entry config base.word.toNat bytes.size index) reached)
        (fun number page => page.patched number base.word.toNat bytes) later.flat := by
  induction count generalizing index machine with
  | zero =>
    rw [Nat.add_zero] at whole
    subst whole
    cases writes
    rw [entry_last]
    refine ⟨bytes.size, Nat.le_refl _, Nat.le_refl _, rfl, ?_⟩
    exact FlatMemory.Idles.refl.visits fun number => PageNumber.not_isTouched_self _
  | succ count inductionHypothesis =>
    have inside : index < pageCount config base.word.toNat bytes.size := by omega
    have grows := (entry_bounds inside).1
    rw [ofCopyFrom_succ] at writes
    cases writes with
    | denied denied =>
      refine ⟨_, Nat.le_refl _, Nat.le_of_lt (entry_eq inside).2, .denied inside, ?_⟩
      exact (denied.idles atRest).visits fun number => PageNumber.not_isTouched_self _
    | @chunk _ _ _ middle stored _ _ address within nameable accessed leads writes =>
      have ofChunk := starts.toNat_page inside within
      have middleRest := (accessed.passes atRest).atRest
      obtain ⟨reached, after, within', stops, visits⟩ := inductionHypothesis writes (by omega)
        (starts.next inside within nameable) (leads.atRest middleRest)
      have apart := @PageNumber.not_isTouched config _ _ _ _ _ inside ofChunk within'
      have visited : machine.flat.Visits key (· = address.page config)
          (fun number page => page.patched number base.word.toNat bytes) stored.flat :=
        accessed.visits leads atRest (starts.overwrite_eq_patched inside within)
      refine ⟨reached, by omega, within', stops, ?_⟩
      refine (visited.append visits ?_).congr fun number =>
        PageNumber.isTouched_iff inside ofChunk after
      rintro number rfl
      exact apart

end Machine

end DemandPaging

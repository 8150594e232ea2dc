import DemandPaging.Proofs.FailedLoad
import DemandPaging.Proofs.UserCopy.Fading
import DemandPaging.Proofs.UserCopy.Stop

/-!
# What copies transfer

A copy transfers a prefix of its bytes, `reached` bytes long. `Machine.FillsPrefix` and
`Machine.StoresPrefix` say what that means for a copy from and to user memory, whatever was evicted in
the meantime. They hold before the first chunk, every chunk extends the prefix to the end of its page or
of the copy, and an access that is denied leaves it alone.
-/

namespace DemandPaging

variable {config : Config}

/-! ## Single pages -/

namespace Chunk

variable {base length index place : Nat}

/-- What comes before a chunk lies in earlier pages. -/
theorem div_lt_of_lt (inside : index < pageCount config base length)
    (before : place < entry config base length index) :
    (base + place) / config.pageSize < base / config.pageSize + index := by
  obtain ⟨_, _, _, _, begins, _⟩ := entry_bounds inside
  rcases Nat.eq_zero_or_pos index with rfl | later
  · rw [entry_zero] at before
    omega
  · refine (Nat.div_lt_iff_lt_mul config.pageSize_pos).mpr ?_
    have whole := begins later
    omega

/-- A copy comes to the page of a chunk where the chunk starts. -/
theorem entry_eq_of_boundary (inside : index < pageCount config base length)
    (after : entry config base length index ≤ place)
    (before : place < entry config base length (index + 1))
    (boundary : place = 0 ∨ (base + place) % config.pageSize = 0) :
    entry config base length index = place := by
  obtain ⟨_, _, low, _⟩ := entry_bounds inside
  rcases boundary with rfl | boundary
  · omega
  · have parts := Nat.div_add_mod' (base + place) config.pageSize
    rw [div_of_mem inside after before, boundary] at parts
    omega

end Chunk

/-- Whatever lies below a page number is a page number. -/
theorem PageNumber.exists_before {later : PageNumber} {quotient : Nat}
    (before : quotient < later.word.toNat) :
    ∃ number : PageNumber, quotient = number.word.toNat := by
  have exact : (UInt64.ofNat quotient).toNat = quotient :=
    Word.toNat_ofNat_of_lt (Nat.lt_trans before (Word.toNat_lt_modulus _))
  exact ⟨⟨UInt64.ofNat quotient⟩, exact.symm⟩

namespace Chunk.Starts

variable {base address : VirtualAddress} {length index place : Nat} {number : PageNumber}

section

variable (starts : Starts config base length index)
  (inside : index < pageCount config base.word.toNat length)
  (within : base.checkedAdd
    (UInt64.ofNat (ofIndex config base.word.toNat length index).start) = some address)

include starts inside within

/-- The bytes before a chunk have pages, and these come before that of the chunk. -/
theorem exists_page (early : place < entry config base.word.toNat length index) :
    ∃ number : PageNumber, (base.word.toNat + place) / config.pageSize = number.word.toNat :=
  PageNumber.exists_before (starts.toNat_page inside within ▸ div_lt_of_lt inside early)

/-- What comes before the entry into a page of a copy lies in another page. -/
theorem ne_page (early : place < entry config base.word.toNat length index)
    (here : (base.word.toNat + place) / config.pageSize = number.word.toNat) :
    number ≠ address.page config := by
  rintro rfl
  have before := div_lt_of_lt inside early
  rw [here, starts.toNat_page inside within] at before
  exact Nat.lt_irrefl _ before

/-- The bytes of a chunk lie in its page. -/
theorem div_eq (after : entry config base.word.toNat length index ≤ place)
    (before : place < entry config base.word.toNat length (index + 1)) :
    (base.word.toNat + place) / config.pageSize = (address.page config).word.toNat :=
  (div_of_mem inside after before).trans (starts.toNat_page inside within).symm

/-- What comes between the entries into two pages of a copy lies in the first of them. -/
theorem eq_page (after : entry config base.word.toNat length index ≤ place)
    (before : place < entry config base.word.toNat length (index + 1))
    (here : (base.word.toNat + place) / config.pageSize = number.word.toNat) :
    number = address.page config :=
  Numbered.number_injective (here.symm.trans (starts.div_eq inside within after before))

/-- A page in which no byte lies up to the end of a chunk is not the page of the chunk. -/
theorem ne_page_of_untouched (untouched : ∀ place < entry config base.word.toNat length (index + 1),
    (base.word.toNat + place) / config.pageSize ≠ number.word.toNat) :
    number ≠ address.page config := by
  rintro rfl
  obtain ⟨grows, -⟩ := entry_bounds inside
  exact untouched _ grows (starts.div_eq inside within (Nat.le_refl _) grows)

/-- What does not lie in the copy up to the end of a chunk lies in the page of the chunk only if it does not
lie in the copy at all. -/
theorem beside (here : place / config.pageSize = (address.page config).word.toNat)
    (outside : place < base.word.toNat ∨
      base.word.toNat + entry config base.word.toNat length (index + 1) ≤ place) :
    place < base.word.toNat ∨ base.word.toNat + length ≤ place := by
  refine outside.imp_right fun after => ?_
  by_contra upto
  have reached : entry config base.word.toNat length (index + 1) ≤ place - base.word.toNat := by
    omega
  have behind := lt_div_of_le inside reached (by omega)
  rw [Nat.add_sub_cancel' (by omega), here, starts.toNat_page inside within] at behind
  exact Nat.lt_irrefl _ behind

/-- The copy comes to the page of a chunk at an address of the program. -/
theorem isNamed (nameable : address.isNameable config = true)
    (after : entry config base.word.toNat length index ≤ place)
    (before : place < entry config base.word.toNat length (index + 1))
    (boundary : place = 0 ∨ (base.word.toNat + place) % config.pageSize = 0) :
    0 < base.word.toNat + place ∧ base.word.toNat + place < config.userEnd.toNat := by
  rw [← entry_eq_of_boundary inside after before boundary, ← starts.toNat_eq within]
  exact VirtualAddress.isNameable_iff.mp nameable

end

end Chunk.Starts

namespace PageBytes

/-- What a page has after bytes were stored over it. -/
theorem byteAt_patched (page : PageBytes config) {number : PageNumber} {place : Nat}
    (here : place / config.pageSize = number.word.toNat) (base : Nat) (bytes : Bytes) :
    (page.patched number base bytes).byteAt place =
      if base ≤ place ∧ place < base + bytes.size then bytes.getD (place - base) 0
      else page.byteAt place := by
  have parts : number.word.toNat * config.pageSize + place % config.pageSize = place := by
    rw [← here]
    exact Nat.div_add_mod' place config.pageSize
  have inside := Nat.mod_lt place config.pageSize_pos
  rw [byteAt_eq _ inside, byteAt_eq _ inside, getElem_patched, parts]

end PageBytes

namespace Machine

variable {key : SpaceKey} {number : PageNumber} {machine later : Machine config}

/-- The content of a resident page is in its frame. -/
theorem content?_of_resident {page : Page config} {frame : FrameNumber} {content : PageBytes config}
    (found : machine.page? key number = some page) (resident : page.frame = some frame)
    (has : machine.content? key number = some content) : machine.frameBytes frame = content := by
  rw [content?, found, Option.bind_some] at has
  split at has
  · rw [← Option.some.inj has, content_of_resident resident]
  · cases has

/-- A page in which bytes were stored is mapped, counts as written to, and has the bytes. -/
theorem entry_of_store {position : Nat} {piece : Bytes}
    (leads : (Transition.store key number position piece).Leads machine later)
    (consistent : machine.Consistent) :
    ∃ page entry, later.page? key number = some page ∧ page.frame = some entry.frame ∧
      later.mapped? key number = some entry ∧ entry.flags.dirty = true ∧
      later.frameBytes entry.frame = (machine.frameBytes entry.frame).overwrite position piece := by
  generalize number = place at leads ⊢
  cases leads with
  | @store _ _ page frame _ _ found resident =>
    obtain ⟨_, dirty, mapped⟩ := consistent.fits.entry_of_resident found resident
    refine ⟨page, ⟨frame, { EntryFlags.mapped page.writable dirty with dirty := true }⟩, ?_, resident,
      ?_, rfl, ?_⟩
    · exact (congrFun (congrFun page?_markDirty key) _).trans found
    · refine (congrFun (congrFun (mapped?_markDirty (isSome_of_page? found)) key) _).trans ?_
      rw [amend_self]
      exact congrArg _ mapped
    · exact (frameBytes_setFrameBytes ..).trans (if_pos rfl)

end Machine

/-! ## Copies from user memory -/

namespace Machine

/-- A copy from user memory has filled `reached` bytes of a buffer. -/
structure FillsPrefix (key : SpaceKey) (base : VirtualAddress) (buffer : Bytes) (reached : Nat)
    (machine : Machine config) (filled : Bytes) (later : Machine config) : Prop where
  size : filled.size = buffer.size
  /-- The rest of the buffer is untouched. -/
  kept : ∀ index, reached ≤ index → filled[index]? = buffer[index]?
  /-- What was filled was in user memory, at some time on the way. -/
  copied : ∀ index < reached, ∃ current, Passes (Transition.Consults key) machine current ∧
    Passes (Transition.Consults key) current later ∧
    ∃ byte, current.mappedByte? key (base.word.toNat + index) = some byte ∧ filled[index]? = some byte
  /-- It is still there. -/
  shown : ∀ index < reached, ∀ byte,
    later.mappedByte? key (base.word.toNat + index) = some byte → filled[index]? = some byte
  contents : ∀ index < reached, ∀ (number : PageNumber) content,
    (base.word.toNat + index) / config.pageSize = number.word.toNat →
    later.content? key number = some content →
      filled[index]? = some (content.byteAt (base.word.toNat + index))
  /-- Pages with content keep it, and the pages before and behind those of the prefix fade at most. -/
  preserved : ∀ probe number content, machine.content? probe number = some content →
    later.content? probe number = some content
  others : ∀ probe (number : PageNumber), (probe = key → ∀ index < reached,
    (base.word.toNat + index) / config.pageSize ≠ number.word.toNat) → Fades probe number machine later
  /-- The addresses at which it comes to a page belong to the program. -/
  named : ∀ index < reached, index = 0 ∨ (base.word.toNat + index) % config.pageSize = 0 →
    0 < base.word.toNat + index ∧ base.word.toNat + index < config.userEnd.toNat
  passes : Passes (Transition.Consults key) machine later

variable {key : SpaceKey} {base : VirtualAddress} {buffer filled : Bytes}
  {machine middle later : Machine config}

/-- At the start of a copy from user memory nothing has been filled. -/
theorem FillsPrefix.zero (atRest : machine.AtRest) :
    FillsPrefix key base buffer 0 machine buffer machine where
  size := rfl
  kept _ _ := rfl
  copied _ early := absurd early (Nat.not_lt_zero _)
  shown _ early := absurd early (Nat.not_lt_zero _)
  contents _ early := absurd early (Nat.not_lt_zero _)
  preserved _ _ _ has := has
  others _ _ _ := .refl
  named _ early := absurd early (Nat.not_lt_zero _)
  passes := .refl atRest

/-- An access passes through transitions of a mere consultation. -/
theorem Accessed.consults {number : PageNumber} (accessed : Accessed key number machine later)
    (atRest : machine.AtRest) : Passes (Transition.Consults key) machine later :=
  (accessed.passes atRest).mono fun _ accesses => ⟨number, accesses⟩

/-- An access that was denied passes through transitions of a mere consultation. -/
theorem Denied.consults {number : PageNumber} (denied : Denied key number machine later)
    (atRest : machine.AtRest) : Passes (Transition.Consults key) machine later :=
  (denied.passes atRest).mono fun _ accesses => ⟨number, accesses⟩

/-- A page that is accessed after those of the prefix leaves them as they are. -/
theorem Accessed.content?_eq {number other : PageNumber} (accessed : Accessed key number machine later)
    (atRest : machine.AtRest) (apart : other ≠ number) :
    later.content? key other = machine.content? key other :=
  content?_eq_of_flat_page ((accessed.looks atRest).others key other fun _ => apart)

/-- An access that was denied leaves the content of every page alone. -/
theorem Denied.content?_eq {number : PageNumber} (denied : Denied key number machine later)
    (atRest : machine.AtRest) : later.content? = machine.content? :=
  content?_eq_of_flat (denied.idles atRest).pages

open Chunk

/-- One round of a copy from user memory: the next page is accessed, and its bytes are filled in. -/
theorem FillsPrefix.chunk {address : VirtualAddress} {index : Nat} {page : Page config}
    {frame : FrameNumber}
    (fills : FillsPrefix key base buffer (entry config base.word.toNat buffer.size index) machine filled
      middle)
    (starts : Starts config base buffer.size index)
    (inside : index < pageCount config base.word.toNat buffer.size)
    (within : base.checkedAdd
      (UInt64.ofNat (ofIndex config base.word.toNat buffer.size index).start) = some address)
    (nameable : address.isNameable config = true)
    (accessed : Accessed key (address.page config) middle later)
    (found : later.page? key (address.page config) = some page) (resident : page.frame = some frame) :
    FillsPrefix key base buffer (entry config base.word.toNat buffer.size (index + 1)) machine
      (filled.overwrite (ofIndex config base.word.toNat buffer.size index).start
        ((later.frameBytes frame).slice (address.pageOffset config).toNat
          (ofIndex config base.word.toNat buffer.size index).length)) later := by
  have middleRest := fills.passes.atRest
  have consults := accessed.consults middleRest
  obtain ⟨grows, -⟩ := entry_bounds inside
  obtain ⟨_, dirty, mapped⟩ := consults.atRest.consistent.fits.entry_of_resident found resident
  have earlier : ∀ {place : Nat}, place < entry config base.word.toNat buffer.size index ∨
      entry config base.word.toNat buffer.size (index + 1) ≤ place → _ = filled[place]? :=
    fun outside => starts.getElem?_unfilled inside within (later.frameBytes frame) outside
  have added : ∀ {place}, entry config base.word.toNat buffer.size index ≤ place →
      place < entry config base.word.toNat buffer.size (index + 1) →
      _ = some ((later.frameBytes frame).byteAt (base.word.toNat + place)) :=
    starts.getElem?_filled inside within (later.frameBytes frame) fills.size
  -- A place of the new prefix lies in the old one, where the access evicts a page at most, or in the
  -- chunk, where the bytes are those of the page that was accessed.
  refine ⟨?size, ?kept, ?copied, ?shown, ?contents, ?preserved, ?others, ?named, ?passes⟩
  case size => rw [Bytes.size_overwrite, fills.size]
  case kept =>
    intro place after
    rw [earlier (.inr after), fills.kept place (by omega)]
  case copied =>
    intro place before
    rcases Nat.lt_or_ge place (entry config base.word.toNat buffer.size index) with early | after
    · obtain ⟨current, first, rest, byte, shows, same⟩ := fills.copied place early
      exact ⟨current, first, rest.trans consults, byte, shows, (earlier (.inl early)).trans same⟩
    · have here := starts.div_eq inside within after before
      exact ⟨later, fills.passes.trans consults, .refl consults.atRest, _,
        (mappedByte?_eq_some_iff here).mpr ⟨_, mapped, rfl⟩, added after before⟩
  case shown =>
    intro place before byte shows
    rcases Nat.lt_or_ge place (entry config base.word.toNat buffer.size index) with early | after
    · obtain ⟨number, here⟩ := starts.exists_page inside within early
      have different := starts.ne_page inside within early here
      have fades : Fades key number middle later :=
        accessed.fades middleRest fun same => different same.2
      exact (earlier (.inl early)).trans (fills.shown place early byte (fades.mappedByte?_eq here shows))
    · have here := starts.div_eq inside within after before
      obtain ⟨entry, mapped', rfl⟩ := (mappedByte?_eq_some_iff here).mp shows
      cases mapped.symm.trans mapped'
      exact added after before
  case contents =>
    intro place before number content here has
    rcases Nat.lt_or_ge place (entry config base.word.toNat buffer.size index) with early | after
    · have different := starts.ne_page inside within early here
      rw [accessed.content?_eq middleRest different] at has
      exact (earlier (.inl early)).trans (fills.contents place early number content here has)
    · obtain rfl := starts.eq_page inside within after before here
      rw [← content?_of_resident found resident has]
      exact added after before
  case preserved =>
    intro probe number content has
    exact content?_eq_some_iff.mpr ((accessed.looks middleRest).page_eq
      (content?_eq_some_iff.mp (fills.preserved probe number content has)))
  case others =>
    intro probe number untouched
    refine (fills.others probe number fun own place early => untouched own place (by omega)).trans
      (accessed.fades middleRest fun touches => ?_)
    exact starts.ne_page_of_untouched inside within (untouched touches.1) touches.2
  case named =>
    intro place before boundary
    rcases Nat.lt_or_ge place (entry config base.word.toNat buffer.size index) with early | after
    · exact fills.named place early boundary
    · exact starts.isNamed inside within nameable after before boundary
  case passes => exact fills.passes.trans consults

/-- A round that was denied leaves what was filled before. -/
theorem FillsPrefix.denied {reached : Nat} {number : PageNumber}
    (fills : FillsPrefix key base buffer reached machine filled middle)
    (denied : Denied key number middle later) :
    FillsPrefix key base buffer reached machine filled later := by
  have middleRest := fills.passes.atRest
  have consults := denied.consults middleRest
  have contents := denied.content?_eq middleRest
  refine ⟨fills.size, fills.kept, ?copied, ?shown, ?contents, ?preserved, ?others, fills.named,
    fills.passes.trans consults⟩
  case copied =>
    intro place early
    obtain ⟨current, first, rest, found⟩ := fills.copied place early
    exact ⟨current, first, rest.trans consults, found⟩
  case shown =>
    intro place early byte shows
    refine fills.shown place early byte ?_
    obtain ⟨entry, mapped, rfl⟩ := Option.map_eq_some_iff.mp shows
    obtain ⟨original, sameBytes⟩ := denied.fades middleRest key _ entry mapped
    exact Option.map_eq_some_iff.mpr ⟨entry, original, by rw [sameBytes]⟩
  case contents =>
    intro place early number content here has
    exact fills.contents place early number content here (contents ▸ has)
  case preserved =>
    intro probe number content has
    rw [contents]
    exact fills.preserved probe number content has
  case others =>
    intro probe number untouched
    exact (fills.others probe number untouched).trans (denied.fades middleRest probe number)

end Machine

/-! ## Copies to user memory -/

namespace Transition

/-- Nothing is stored but in a part of an address space. -/
def StoresWithin (key : SpaceKey) (first stop : Nat) (transition : Transition config) : Prop :=
  transition.Consults key ∨ ∃ number position piece, transition = .store key number position piece ∧
    first ≤ number.word.toNat * config.pageSize + position ∧
    number.word.toNat * config.pageSize + position + piece.size ≤ stop

/-- What stores in a part of a space stores in every larger part. -/
theorem StoresWithin.mono {key : SpaceKey} {first stop further : Nat} {transition : Transition config}
    (stores : transition.StoresWithin key first stop) (longer : stop ≤ further) :
    transition.StoresWithin key first further := by
  rcases stores with consults | ⟨number, position, piece, same, after, before⟩
  · exact .inl consults
  · exact .inr ⟨number, position, piece, same, after, Nat.le_trans before longer⟩

end Transition

namespace Machine

/-- A copy to user memory has stored `reached` of its bytes. -/
structure StoresPrefix (key : SpaceKey) (base : VirtualAddress) (bytes : Bytes) (reached : Nat)
    (machine later : Machine config) : Prop where
  /-- Each of them was stored in its page, which counted as written to then. -/
  stored : ∀ index < reached, ∃ current,
    Passes (Transition.StoresWithin key base.word.toNat (base.word.toNat + reached)) machine current ∧
    Passes (Transition.StoresWithin key base.word.toNat (base.word.toNat + reached)) current later ∧
    ∃ (number : PageNumber) (entry : PageTableEntry),
      (base.word.toNat + index) / config.pageSize = number.word.toNat ∧
      current.mapped? key number = some entry ∧ entry.flags.dirty = true ∧
      bytes[index]? = some ((current.frameBytes entry.frame).byteAt (base.word.toNat + index))
  /-- Where the page is still resident it counts as written to, and has the byte. -/
  shown : ∀ index < reached, ∀ (number : PageNumber) entry,
    (base.word.toNat + index) / config.pageSize = number.word.toNat →
    later.mapped? key number = some entry → entry.flags.dirty = true ∧
      bytes[index]? = some ((later.frameBytes entry.frame).byteAt (base.word.toNat + index))
  contents : ∀ index < reached, ∀ (number : PageNumber) content,
    (base.word.toNat + index) / config.pageSize = number.word.toNat →
    later.content? key number = some content →
      bytes[index]? = some (content.byteAt (base.word.toNat + index))
  /-- Pages with content keep all of it that does not lie in the prefix. -/
  preserved : ∀ probe (number : PageNumber) content, machine.content? probe number = some content →
    ∃ now, later.content? probe number = some now ∧
      ∀ place, place / config.pageSize = number.word.toNat →
        (probe = key → place < base.word.toNat ∨ base.word.toNat + reached ≤ place) →
          now.byteAt place = content.byteAt place
  others : ∀ probe (number : PageNumber), (probe = key → ∀ index < reached,
    (base.word.toNat + index) / config.pageSize ≠ number.word.toNat) → Fades probe number machine later
  /-- The addresses at which it comes to a page belong to the program. -/
  named : ∀ index < reached, index = 0 ∨ (base.word.toNat + index) % config.pageSize = 0 →
    0 < base.word.toNat + index ∧ base.word.toNat + index < config.userEnd.toNat
  passes : Passes (Transition.StoresWithin key base.word.toNat (base.word.toNat + reached)) machine later

variable {key : SpaceKey} {base : VirtualAddress} {bytes : Bytes}
  {machine middle ready later : Machine config}

/-- At the start of a copy to user memory nothing has been stored. -/
theorem StoresPrefix.zero (atRest : machine.AtRest) :
    StoresPrefix key base bytes 0 machine machine where
  stored _ early := absurd early (Nat.not_lt_zero _)
  shown _ early := absurd early (Nat.not_lt_zero _)
  contents _ early := absurd early (Nat.not_lt_zero _)
  preserved _ _ content has := ⟨content, has, fun _ _ _ => rfl⟩
  others _ _ _ := .refl
  named _ early := absurd early (Nat.not_lt_zero _)
  passes := .refl atRest

open Chunk

/-- A part of a copy was stored in its page, which is mapped since, counts as written to, and has the
bytes. Nothing else has happened but that other pages were evicted. -/
structure StoresChunk (key : SpaceKey) (base : VirtualAddress) (bytes : Bytes) (first next : Nat)
    (number : PageNumber) (own : PageTableEntry) (machine later : Machine config) : Prop where
  page : ∃ page, later.page? key number = some page ∧ page.frame = some own.frame
  mapped : later.mapped? key number = some own
  dirty : own.flags.dirty = true
  holds : ∀ {place}, first ≤ place → place < next →
    bytes[place]? = some ((later.frameBytes own.frame).byteAt (base.word.toNat + place))
  fades : ∀ {probe other}, ¬ (probe = key ∧ other = number) → Fades probe other machine later
  visits : machine.flat.Visits key (· = number)
    (fun number page => page.patched number base.word.toNat bytes) later.flat
  passes : Passes (Transition.StoresWithin key base.word.toNat (base.word.toNat + next)) machine later

/-- The page of a chunk is accessed, and the chunk is stored in it. -/
theorem storesChunk_of_store {address : VirtualAddress} {index : Nat} (middleRest : middle.AtRest)
    (starts : Starts config base bytes.size index)
    (inside : index < pageCount config base.word.toNat bytes.size)
    (within : base.checkedAdd
      (UInt64.ofNat (ofIndex config base.word.toNat bytes.size index).start) = some address)
    (accessed : Accessed key (address.page config) middle ready)
    (leads : (Transition.store key (address.page config) (address.pageOffset config).toNat
      (bytes.slice (ofIndex config base.word.toNat bytes.size index).start
        (ofIndex config base.word.toNat bytes.size index).length)).Leads ready later) :
    ∃ own, StoresChunk key base bytes (entry config base.word.toNat bytes.size index)
      (entry config base.word.toNat bytes.size (index + 1)) (address.page config) own middle later := by
  have readyRest := (accessed.passes middleRest).atRest
  have same := starts.overwrite_eq_patched inside within
  obtain ⟨grows, ends, -⟩ := entry_bounds inside
  obtain ⟨page, own, found, resident, mapped, dirty, became⟩ := entry_of_store leads readyRest.consistent
  rw [same] at became
  refine ⟨own, ⟨page, found, resident⟩, mapped, dirty, ?holds, ?fades,
    accessed.visits leads middleRest same, ?passes⟩
  case holds =>
    intro place after before
    have here := starts.div_eq inside within after before
    have listed : place < bytes.size := by omega
    rw [became, PageBytes.byteAt_patched _ here, if_pos (by omega), Nat.add_sub_cancel_left,
      Array.getD_eq_getD_getElem?, Array.getElem?_eq_getElem listed, Option.getD_some]
  case fades =>
    intro probe other elsewhere
    exact (accessed.fades middleRest elsewhere).trans (leads.fades readyRest.consistent fun touches =>
      absurd ⟨touches.1.symm, touches.2.symm⟩ elsewhere)
  case passes =>
    refine ((accessed.consults middleRest).mono fun _ => .inl).trans
      (.single readyRest leads (.inr ⟨_, _, _, rfl, ?_⟩))
    have place := (starts.fits inside within).1
    rw [← starts.toNat_page inside within, starts.toNat_eq within] at place
    rw [place, Bytes.slice, Array.size_extract, length_ofIndex]
    show _ ∧ _ + (min (entry _ _ _ _ + _) _ - entry _ _ _ _) ≤ _
    omega

/-- One round of a copy to user memory: the next page takes its bytes, which keeps those that were
stored before. -/
theorem StoresPrefix.chunk {address : VirtualAddress} {index : Nat} {own : PageTableEntry}
    (stores : StoresPrefix key base bytes (entry config base.word.toNat bytes.size index) machine middle)
    (starts : Starts config base bytes.size index)
    (inside : index < pageCount config base.word.toNat bytes.size)
    (within : base.checkedAdd
      (UInt64.ofNat (ofIndex config base.word.toNat bytes.size index).start) = some address)
    (nameable : address.isNameable config = true)
    (chunk : StoresChunk key base bytes (entry config base.word.toNat bytes.size index)
      (entry config base.word.toNat bytes.size (index + 1)) (address.page config) own middle later) :
    StoresPrefix key base bytes (entry config base.word.toNat bytes.size (index + 1)) machine later := by
  obtain ⟨grows, -⟩ := entry_bounds inside
  have whole := (stores.passes.mono fun _ within => within.mono (by omega)).trans chunk.passes
  -- A place before the chunk is known from the prefix, and its page is another one; a place in the
  -- chunk is known from the chunk.
  refine ⟨?stored, ?shown, ?contents, ?preserved, ?others, ?named, whole⟩
  case stored =>
    intro place before
    rcases Nat.lt_or_ge place (entry config base.word.toNat bytes.size index) with early | after
    · obtain ⟨current, first, rest, holds⟩ := stores.stored place early
      exact ⟨current, first.mono fun _ within => within.mono (by omega),
        (rest.mono fun _ within => within.mono (by omega)).trans chunk.passes, holds⟩
    · exact ⟨later, whole, .refl chunk.passes.atRest, _, own, starts.div_eq inside within after before,
        chunk.mapped, chunk.dirty, chunk.holds after before⟩
  case shown =>
    intro place before number current here mapped
    rcases Nat.lt_or_ge place (entry config base.word.toNat bytes.size index) with early | after
    · have different := starts.ne_page inside within early here
      obtain ⟨original, sameBytes⟩ := chunk.fades (fun same => different same.2) current mapped
      rw [sameBytes]
      exact stores.shown place early number current here original
    · obtain rfl := starts.eq_page inside within after before here
      cases chunk.mapped.symm.trans mapped
      exact ⟨chunk.dirty, chunk.holds after before⟩
  case contents =>
    intro place before number content here has
    rcases Nat.lt_or_ge place (entry config base.word.toNat bytes.size index) with early | after
    · have different := starts.ne_page inside within early here
      refine stores.contents place early number content here ?_
      rw [content?_eq_some_iff] at has ⊢
      rw [← chunk.visits.others key number fun _ => different]
      exact has
    · obtain rfl := starts.eq_page inside within after before here
      obtain ⟨page, found, resident⟩ := chunk.page
      rw [← content?_of_resident found resident has]
      exact chunk.holds after before
  case preserved =>
    intro probe number content has
    obtain ⟨now, before, kept⟩ := stores.preserved probe number content has
    rw [content?_eq_some_iff] at before
    by_cases here : probe = key ∧ number = address.page config
    · obtain ⟨rfl, rfl⟩ := here
      refine ⟨_, content?_eq_some_iff.mpr (chunk.visits.page_eq rfl before), fun place here outside => ?_⟩
      have beside := starts.beside inside within here (outside rfl)
      rw [PageBytes.byteAt_patched _ here, if_neg (by omega),
        kept place here fun own => (outside own).imp_right (by omega)]
    · refine ⟨now, content?_eq_some_iff.mpr ?_, fun place there outside =>
        kept place there fun own => (outside own).imp_right (by omega)⟩
      rw [chunk.visits.others probe number fun own same => here ⟨own, same⟩]
      exact before
  case others =>
    intro probe number untouched
    refine (stores.others probe number fun own place early => untouched own place (by omega)).trans
      (chunk.fades fun touches => ?_)
    exact starts.ne_page_of_untouched inside within (untouched touches.1) touches.2
  case named =>
    intro place before boundary
    rcases Nat.lt_or_ge place (entry config base.word.toNat bytes.size index) with early | after
    · exact stores.named place early boundary
    · exact starts.isNamed inside within nameable after before boundary

/-- A round that was denied leaves what was stored before. -/
theorem StoresPrefix.denied {reached : Nat} {number : PageNumber}
    (stores : StoresPrefix key base bytes reached machine middle)
    (denied : Denied key number middle later) : StoresPrefix key base bytes reached machine later := by
  have middleRest := stores.passes.atRest
  have contents := denied.content?_eq middleRest
  have step : Passes (Transition.StoresWithin key base.word.toNat (base.word.toNat + reached)) middle
      later := (denied.consults middleRest).mono fun _ => .inl
  refine ⟨?stored, ?shown, ?contents, ?preserved, ?others, stores.named, stores.passes.trans step⟩
  case stored =>
    intro place early
    obtain ⟨current, first, rest, holds⟩ := stores.stored place early
    exact ⟨current, first, rest.trans step, holds⟩
  case shown =>
    intro place early number entry here mapped
    obtain ⟨original, sameBytes⟩ := denied.fades middleRest key number entry mapped
    rw [sameBytes]
    exact stores.shown place early number entry here original
  case contents =>
    intro place early number content here has
    exact stores.contents place early number content here (contents ▸ has)
  case preserved =>
    intro probe number content has
    rw [contents]
    exact stores.preserved probe number content has
  case others =>
    intro probe number untouched
    exact (stores.others probe number untouched).trans (denied.fades middleRest probe number)

end Machine

end DemandPaging

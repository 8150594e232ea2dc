import DemandPaging.Proofs.Layout

/-!
# Addresses, pages and ranges are exact

An address is the start of its page and an offset in it, for every page size and for every machine word:
no sum or product on the way leaves the range of words, and masks, quotients and products agree. The pages
of a range are counted without wrapping around, or there is no such range.
-/

namespace DemandPaging

namespace Word

variable {left right result : Word}

/-- A sum is exact when it is the sum of the numbers. -/
theorem plus_eq_ok_iff : plus left right = .ok result ↔ result.toNat = left.toNat + right.toNat := by
  refine ⟨toNat_of_plus_eq_ok, fun sum => ?_⟩
  have fits : left.toNat + right.toNat < modulus := sum ▸ toNat_lt_modulus result
  have same : left + right = result := by
    rw [← UInt64.toNat_inj, UInt64.toNat_add, sum]
    exact Nat.mod_eq_of_lt fits
  rw [plus, if_pos fits, same]

/-- A product is exact when it is the product of the numbers. -/
theorem times_eq_ok_iff : times left right = .ok result ↔ result.toNat = left.toNat * right.toNat := by
  refine ⟨toNat_of_times_eq_ok, fun product => ?_⟩
  have fits : left.toNat * right.toNat < modulus := product ▸ toNat_lt_modulus result
  have same : left * right = result := by
    rw [← UInt64.toNat_inj, UInt64.toNat_mul, product]
    exact Nat.mod_eq_of_lt fits
  rw [times, if_pos fits, same]

end Word

variable {config : Config}

/-! ## Addresses -/

namespace VirtualAddress

/-- The address lies in the block of a page's length that has the given number of blocks below it. -/
def LiesInBlock (config : Config) (address : VirtualAddress) (block : Nat) : Prop :=
  block * 2 ^ config.pageShift ≤ address.word.toNat ∧
    address.word.toNat < (block + 1) * 2 ^ config.pageShift

variable {address left right : VirtualAddress}

/-- Aligning an address down leads to the start of its page. -/
theorem toNat_alignDown : (address.alignDown config).word.toNat =
    (address.page config).word.toNat * config.pageSize := by
  rw [toNat_page]
  exact config.toNat_alignDown address.word

/-- The start of an address's page can be computed, and it is what aligning the address yields. -/
theorem startAddress_page :
    (address.page config).startAddress config = .ok (address.alignDown config) := by
  have start : Word.times (address.page config).word config.pageSizeWord =
      .ok (address.alignDown config).word := by
    rw [Word.times_eq_ok_iff, toNat_alignDown, Config.toNat_pageSizeWord]
  rw [PageNumber.startAddress, start]
  rfl

/-- An address is the start of its page and its offset there. -/
theorem alignDown_plus_pageOffset :
    Word.plus (address.alignDown config).word (address.pageOffset config) = .ok address.word := by
  rw [Word.plus_eq_ok_iff, toNat_alignDown, toNat_page, toNat_pageOffset, Nat.div_add_mod']

/-- The offset is less than the size of a page. -/
theorem toNat_pageOffset_lt : (address.pageOffset config).toNat < 2 ^ config.pageShift := by
  rw [toNat_pageOffset, ← config.pageSize_eq]
  exact Nat.mod_lt _ config.pageSize_pos

/-- An aligned address has no offset. -/
theorem pageOffset_alignDown : (address.alignDown config).pageOffset config = 0 := by
  rw [← UInt64.toNat_inj, toNat_pageOffset, toNat_alignDown, Nat.mul_mod_left]
  rfl

/-- An address lies in one block only, the one that its page number counts. -/
theorem liesInBlock_iff {block : Nat} :
    address.LiesInBlock config block ↔ (address.page config).word.toNat = block := by
  have positive := config.pageSize_pos
  rw [LiesInBlock, ← config.pageSize_eq, toNat_page]
  constructor
  · rintro ⟨above, below⟩
    exact Nat.div_eq_of_lt_le above below
  · rintro rfl
    exact ⟨Nat.div_mul_le_self _ _, Nat.lt_mul_of_div_lt (Nat.lt_succ_self _) positive⟩

/-- Addresses have the same page exactly if they lie in the same block. -/
theorem page_eq_iff : left.page config = right.page config ↔
    ∃ block, left.LiesInBlock config block ∧ right.LiesInBlock config block := by
  simp only [liesInBlock_iff, exists_eq_left']
  exact ⟨fun same => same ▸ rfl, fun same => Numbered.number_injective same.symm⟩

/-- A page that starts somewhere is the page of its start. -/
theorem page_of_startAddress {number : PageNumber} {start : VirtualAddress}
    (starts : number.startAddress config = .ok start) : start.page config = number := by
  unfold PageNumber.startAddress at starts
  cases product : Word.times number.word config.pageSizeWord with
  | error overflow =>
    rw [product] at starts
    cases starts
  | ok word =>
    rw [product] at starts
    cases starts
    apply Numbered.number_injective
    show (page ⟨word⟩ config).word.toNat = number.word.toNat
    rw [toNat_page, Word.toNat_of_times_eq_ok product, Config.toNat_pageSizeWord,
      Nat.mul_div_cancel _ config.pageSize_pos]

end VirtualAddress

/-! ## Physical addresses -/

namespace FrameNumber

/-- All bytes of a frame have physical addresses. -/
def IsAddressable (config : Config) (frame : FrameNumber) : Prop :=
  (frame.address config).word.toNat + config.pageSize ≤ Word.modulus

variable {frame : FrameNumber}

/-- The frames up to the end of physical memory are addressable. -/
theorem isAddressable_of_fits
    (fits : poolBase + (frame.index + 1) * config.pageSize ≤ Word.modulus) :
    frame.IsAddressable config := by
  have positive := config.pageSize_pos
  rw [Nat.succ_mul] at fits
  have exact : (frame.address config).word.toNat = poolBase + frame.index * config.pageSize :=
    Word.toNat_ofNat_of_lt (by omega)
  rw [IsAddressable, exact]
  omega

/-- If the pool begins where a page could begin, every frame does, and no page leaves the space of
addresses. -/
theorem isAddressable_of_dvd (aligned : config.pageSize ∣ poolBase) : frame.IsAddressable config := by
  obtain ⟨blocks, base⟩ := aligned
  obtain ⟨total, whole⟩ := config.pageSize_dvd_modulus
  have wraps : (frame.address config).word.toNat =
      config.pageSize * ((blocks + frame.index) % total) := by
    show (UInt64.ofNat (poolBase + frame.index * config.pageSize)).toNat = _
    rw [UInt64.toNat_ofNat', base, Nat.mul_comm frame.index, ← Nat.mul_add,
      show 2 ^ 64 = config.pageSize * total from whole, Nat.mul_mod_mul_left]
  have some : 0 < total := by
    rcases Nat.eq_zero_or_pos total with rfl | some
    · cases whole
    · exact some
  have below := Nat.mul_le_mul_left config.pageSize
    (Nat.succ_le_of_lt (Nat.mod_lt (blocks + frame.index) some))
  rw [IsAddressable, wraps, whole, ← Nat.mul_succ]
  exact below

/-- A distance from the start of a page is one from the start of a frame. -/
theorem address_plus_pageOffset (addressable : frame.IsAddressable config)
    (address : VirtualAddress) :
    Word.plus (frame.address config).word (address.pageOffset config) =
      .ok ((frame.address config).word + address.pageOffset config) := by
  have inside : (address.pageOffset config).toNat < 2 ^ config.pageShift :=
    VirtualAddress.toNat_pageOffset_lt
  rw [← config.pageSize_eq] at inside
  rw [IsAddressable] at addressable
  rw [Word.plus, if_pos (by omega)]

end FrameNumber

namespace Space

variable {space : Space config} {address : VirtualAddress}

/-- To translate an address is to translate the start of its page and to go on from there. -/
theorem translate_eq : space.translate address =
    (space.translate (address.alignDown config)).map fun start =>
      ⟨start.word + address.pageOffset config⟩ := by
  have page : (address.alignDown config).page config = address.page config :=
    VirtualAddress.page_of_startAddress VirtualAddress.startAddress_page
  rw [translate, translate, page, VirtualAddress.pageOffset_alignDown, Option.map_map]
  cases space.pageTable.get? (address.page config) with
  | none => rfl
  | some entry => simp

end Space

/-! ## Ranges of pages -/

namespace PageRange

/-- A range holds a number of consecutive pages from its start on, and says so. -/
structure Spans (range : PageRange) (start : PageNumber) (pages : Word) : Prop where
  start_eq : range.start = start
  length_eq : range.length = pages
  /-- The pages come one after the other, in ascending order. -/
  consecutive : range.pages.map (fun number => number.word.toNat) =
    List.range' start.word.toNat pages.toNat
  contains_iff : ∀ number, range.contains number = true ↔ number ∈ range.pages
  isEmpty_iff : range.isEmpty = true ↔ pages = 0

variable {range : PageRange} {start : PageNumber} {pages : Word}

/-- The pages of a range are numbered without a gap. -/
theorem map_toNat_pages : range.pages.map (fun number => number.word.toNat) =
    List.range' range.start.word.toNat range.length.toNat := by
  have ordered := UInt64.le_iff_toNat_le.mp range.ordered
  have bounded : range.stop.word.toNat < Word.modulus := Word.toNat_lt_modulus _
  rw [PageRange.pages, firstPages, Nat.min_self, List.map_map, List.range'_eq_map_range]
  refine List.map_congr_left fun index inside => ?_
  have below := List.mem_range.mp inside
  rw [toNat_length] at below
  exact PageNumber.toNat_advance (by omega)

/-- A range whose stop is a number of pages behind its start holds that many pages. -/
theorem spans_of_stop (starts : range.start = start)
    (stops : Word.plus start.word pages = .ok range.stop.word) : range.Spans start pages := by
  subst starts
  have length : range.length = pages := by
    rw [← UInt64.toNat_inj, toNat_length, Word.toNat_of_plus_eq_ok stops, Nat.add_sub_cancel_left]
  refine ⟨rfl, length, length ▸ map_toNat_pages, fun number => mem_pages_iff range |>.symm, ?_⟩
  rw [isEmpty, beq_iff_eq, ← length, ← UInt64.toNat_inj, toNat_length]
  have ordered := UInt64.le_iff_toNat_le.mp range.ordered
  constructor
  · intro same
    rw [same, Nat.sub_self]
    rfl
  · intro none
    have behind : range.stop.word.toNat - range.start.word.toNat = 0 := none
    exact Numbered.number_injective
      (show range.start.word.toNat = range.stop.word.toNat by omega)

/-- A range can be made if its pages can be numbered. -/
theorem ofCount_of_fits (fits : start.word.toNat + pages.toNat < Word.modulus) :
    ∃ range, ofCount start pages = .ok range ∧ range.Spans start pages := by
  have sum : Word.plus start.word pages = .ok (start.word + pages) := by
    rw [Word.plus, if_pos fits]
  unfold ofCount
  split
  · next stop exact =>
    exact ⟨_, rfl, spans_of_stop rfl exact⟩
  · next overflow failed =>
    cases failed.symm.trans sum

/-- Otherwise the attempt is an overflow. -/
theorem ofCount_of_overflow (beyond : Word.modulus ≤ start.word.toNat + pages.toNat) :
    ofCount start pages = .error .addition := by
  have failed : Word.plus start.word pages = .error .addition := by
    rw [Word.plus, if_neg (Nat.not_lt.mpr beyond)]
  unfold ofCount
  split
  · next stop exact => cases exact.symm.trans failed
  · next overflow failed' =>
    cases failed'.symm.trans failed
    rfl

end PageRange

/-! ## All of it -/

/-- Cutting words into pages is exact for a page size. -/
structure Config.CutsExactly (config : Config) : Prop where
  /-- The start of an address's page is an address, and aligning the address yields it. -/
  start : ∀ address : VirtualAddress,
    (address.page config).startAddress config = .ok (address.alignDown config)
  /-- The start of the page and the offset add up to the address. -/
  parts : ∀ address : VirtualAddress,
    Word.plus (address.alignDown config).word (address.pageOffset config) = .ok address.word
  offset : ∀ address : VirtualAddress,
    (address.pageOffset config).toNat < 2 ^ config.pageShift
  block : ∀ left right : VirtualAddress, left.page config = right.page config ↔
    ∃ block, left.LiesInBlock config block ∧ right.LiesInBlock config block
  page : ∀ (number : PageNumber) start, number.startAddress config = .ok start →
    start.page config = number
  unmapped : ∀ (space : Space config) address,
    space.pageTable.get? (address.page config) = none → space.translate address = none
  /-- A mapped address lies as far behind the start of its frame as behind the start of its page. -/
  mapped : ∀ (space : Space config) address entry,
    space.pageTable.get? (address.page config) = some entry → space.translate address =
      some ⟨(entry.frame.address config).word + address.pageOffset config⟩
  translation : ∀ (space : Space config) address, space.translate address =
    (space.translate (address.alignDown config)).map fun start =>
      ⟨start.word + address.pageOffset config⟩
  physical : ∀ (frame : FrameNumber) (address : VirtualAddress), frame.IsAddressable config →
    Word.plus (frame.address config).word (address.pageOffset config) =
      .ok ((frame.address config).word + address.pageOffset config)
  /-- Frames are addressable unless pages are huge and the frame lies beyond physical memory. -/
  addressable : ∀ frame : FrameNumber,
    config.pageSize ∣ poolBase ∨
      poolBase + (frame.index + 1) * config.pageSize ≤ Word.modulus → frame.IsAddressable config

/-- For every page size, addresses are cut into pages and put together again without loss, and page
ranges hold exactly the pages that they are made of; a range that cannot be numbered stops the kernel. -/
theorem Config.page_arithmetic_exact (config : Config) :
    config.pageSize = 2 ^ config.pageShift ∧ config.CutsExactly ∧
    ∀ (start : PageNumber) (pages : Word),
      (start.word.toNat + pages.toNat < Word.modulus →
        ∃ range, PageRange.ofCount start pages = .ok range ∧ range.Spans start pages) ∧
      (Word.modulus ≤ start.word.toNat + pages.toNat →
        ∀ machine : Machine config,
          (Action.exactly (PageRange.ofCount start pages) : KernelAction config PageRange) machine =
            .panicked (.overflow .addition) machine) := by
  refine ⟨config.pageSize_eq, ?_, fun start pages => ⟨PageRange.ofCount_of_fits, ?_⟩⟩
  · exact {
      start := fun _ => VirtualAddress.startAddress_page
      parts := fun _ => VirtualAddress.alignDown_plus_pageOffset
      offset := fun _ => VirtualAddress.toNat_pageOffset_lt
      block := fun _ _ => VirtualAddress.page_eq_iff
      page := fun _ _ => VirtualAddress.page_of_startAddress
      unmapped := fun _ _ unmapped => by rw [Space.translate, unmapped, Option.map_none]
      mapped := fun _ _ _ mapped => by rw [Space.translate, mapped, Option.map_some]
      translation := fun _ _ => Space.translate_eq
      physical := fun _ address addressable => FrameNumber.address_plus_pageOffset addressable address
      addressable := fun _ inside =>
        inside.elim FrameNumber.isAddressable_of_dvd FrameNumber.isAddressable_of_fits }
  · intro beyond machine
    rw [PageRange.ofCount_of_overflow beyond]
    rfl

/-- The last address lies in the last page, which starts below the end. -/
example : (VirtualAddress.page ⟨0xffffffffffffffff⟩ .standard).startAddress .standard =
    .ok ⟨0xfffffffffffff000⟩ := by
  rfl

/-- No range goes beyond the last page number. -/
example : PageRange.ofCount ⟨0xfffffffffffffff0⟩ 16 = .error .addition := by
  rfl

end DemandPaging

import Mathlib.Algebra.Group.Nat.Defs
import DemandPaging.UserCopy

/-!
# Addresses as numbers

The masks by which addresses are cut into pages are division and remainder by the page size.
-/

namespace DemandPaging

namespace Config

variable (config : Config)

/-- The size of a page is a power of two. -/
theorem pageSize_eq : config.pageSize = 2 ^ config.pageShift := by
  rw [pageSize, Nat.one_shiftLeft]

/-- The mask of a page has ones in the places of the shift. -/
theorem toNat_mask : (config.pageSizeWord - 1).toNat = 2 ^ config.pageShift - 1 := by
  have positive := config.pageSize_pos
  rw [UInt64.toNat_sub_of_le, toNat_pageSizeWord, pageSize_eq]
  · rfl
  · rw [UInt64.le_iff_toNat_le, toNat_pageSizeWord]
    exact positive

/-- Masking an address gives the remainder by the size of a page. -/
theorem toNat_offsetInPage (address : Word) :
    (config.offsetInPage address).toNat = address.toNat % config.pageSize := by
  rw [offsetInPage, UInt64.toNat_and, toNat_mask, Nat.and_two_pow_sub_one_eq_mod, pageSize_eq]

/-- The start of the page that holds an address has the bits of the address above the offset. -/
theorem testBit_alignDown (address : Word) (index : Nat) :
    (config.alignDown address).toNat.testBit index =
      (decide (config.pageShift ≤ index) && address.toNat.testBit index) := by
  have narrow : 2 ^ config.pageShift - 1 < 2 ^ 64 := by
    have grows := Nat.pow_lt_pow_right (show 1 < 2 by decide) config.pageShift_lt
    omega
  have complement : UInt64.size - 1 - (2 ^ config.pageShift - 1) =
      2 ^ 64 - (2 ^ config.pageShift - 1 + 1) := by
    simp only [UInt64.size]
    omega
  rw [alignDown, UInt64.toNat_and, UInt64.toNat_not, toNat_mask, complement, Nat.testBit_and,
    Nat.testBit_two_pow_sub_succ narrow, Nat.testBit_two_pow_sub_one]
  by_cases inside : index < 64
  · simp only [inside, decide_true, Bool.true_and, Bool.and_comm, ← Nat.not_le, decide_not, Bool.not_not]
  · have small : address.toNat < 2 ^ index :=
      Nat.lt_of_lt_of_le address.toNat_lt (Nat.pow_le_pow_right (by decide) (Nat.le_of_not_lt inside))
    rw [Nat.testBit_lt_two_pow small, Bool.false_and, Bool.and_false]

/-- Clearing the low bits of an address rounds it down to a multiple of the page size. -/
theorem toNat_alignDown (address : Word) :
    (config.alignDown address).toNat = address.toNat / config.pageSize * config.pageSize := by
  rw [pageSize_eq]
  refine Nat.eq_of_testBit_eq fun index => ?_
  rw [testBit_alignDown, Nat.testBit_mul_two_pow, Nat.testBit_div_two_pow]
  by_cases above : config.pageShift ≤ index
  · rw [Nat.sub_add_cancel above]
  · simp [above]

end Config

namespace VirtualAddress

variable (address : VirtualAddress) (config : Config)

/-- The number of the page that holds an address counts the pages below it. -/
theorem toNat_page : (address.page config).word.toNat = address.word.toNat / config.pageSize := by
  rw [page, alignDown, UInt64.toNat_div, Config.toNat_pageSizeWord, Config.toNat_alignDown,
    Nat.mul_div_cancel _ config.pageSize_pos]

/-- The offset of an address in its page is the remainder by the size of a page. -/
theorem toNat_pageOffset :
    (address.pageOffset config).toNat = address.word.toNat % config.pageSize :=
  config.toNat_offsetInPage address.word

/-- An address is aligned if nothing remains. -/
theorem isPageAligned_iff :
    address.isPageAligned config = true ↔ address.word.toNat % config.pageSize = 0 := by
  rw [isPageAligned, beq_iff_eq, ← UInt64.toNat_inj, toNat_pageOffset]
  rfl

end VirtualAddress

/-- Rounding up wastes less than one divisor. -/
theorem Word.ceilingDiv_bounds (dividend divisor : Word) (positive : 0 < divisor.toNat) :
    dividend.toNat ≤ (ceilingDiv dividend divisor).toNat * divisor.toNat ∧
      (ceilingDiv dividend divisor).toNat * divisor.toNat < dividend.toNat + divisor.toNat := by
  have parts := Nat.div_add_mod dividend.toNat divisor.toNat
  have rest := Nat.mod_lt dividend.toNat positive
  have exact' : dividend % divisor = 0 ↔ dividend.toNat % divisor.toNat = 0 := by
    rw [← UInt64.toNat_inj, UInt64.toNat_mod]
    rfl
  rw [Nat.mul_comm] at parts
  unfold ceilingDiv
  split
  · next even =>
    rw [UInt64.toNat_div]
    have none := exact'.mp even
    omega
  · next odd =>
    have some := mt exact'.mpr odd
    have large : 2 ≤ divisor.toNat := by
      rcases Nat.lt_or_ge 1 divisor.toNat with large | small
      · exact large
      · have one : divisor.toNat = 1 := by omega
        rw [one, Nat.mod_one] at some
        exact absurd rfl some
    have small : dividend.toNat / divisor.toNat + 1 < 2 ^ 64 := by
      have halved : dividend.toNat / divisor.toNat ≤ dividend.toNat / 2 :=
        Nat.div_le_div_left large (by decide)
      have wide := dividend.toNat_lt
      omega
    rw [UInt64.toNat_add, UInt64.toNat_div, UInt64.toNat_one, Nat.mod_eq_of_lt small, Nat.add_mul]
    omega

namespace PageNumber

/-- To go some pages on is to add their number, as long as it fits. -/
theorem toNat_advance {page : PageNumber} {steps : Nat}
    (fits : page.word.toNat + steps < Word.modulus) :
    (page.advance steps).word.toNat = page.word.toNat + steps :=
  Word.toNat_ofNat_of_lt fits

/-- Pages at different distances are different as long as counting does not wrap around. -/
theorem advance_injective {page : PageNumber} {left right : Nat}
    (leftFits : page.word.toNat + left < Word.modulus)
    (rightFits : page.word.toNat + right < Word.modulus)
    (same : page.advance left = page.advance right) : left = right := by
  have equal := congrArg (fun number : PageNumber => number.word.toNat) same
  simp only [toNat_advance leftFits, toNat_advance rightFits] at equal
  omega

end PageNumber

namespace PageRange

variable (range : PageRange)

/-- The length of a range is the distance of its ends. -/
theorem toNat_length :
    range.length.toNat = range.stop.word.toNat - range.start.word.toNat :=
  UInt64.toNat_sub_of_le _ _ range.ordered

/-- The pages of a range are those that lie in it. -/
theorem mem_pages_iff {number : PageNumber} :
    number ∈ range.pages ↔ range.contains number = true := by
  have ordered := UInt64.le_iff_toNat_le.mp range.ordered
  have bounded : range.stop.word.toNat < Word.modulus := Word.toNat_lt_modulus _
  simp only [pages, firstPages, Nat.min_self, List.mem_map, List.mem_range, toNat_length, contains,
    Bool.and_eq_true, decide_eq_true_eq, UInt64.le_iff_toNat_le, UInt64.lt_iff_toNat_lt]
  constructor
  · rintro ⟨index, inside, rfl⟩
    rw [PageNumber.toNat_advance (by omega)]
    omega
  · rintro ⟨after, before⟩
    refine ⟨number.word.toNat - range.start.word.toNat, by omega, Numbered.number_injective ?_⟩
    show (range.start.advance _).word.toNat = number.word.toNat
    rw [PageNumber.toNat_advance (by omega)]
    omega

end PageRange

/-! ## The chunks of a copy -/

/-- A checked sum of an address that exists is the sum of the numbers. -/
theorem VirtualAddress.toNat_of_checkedAdd {address later : VirtualAddress} {bytes : Word}
    (within : address.checkedAdd bytes = some later) :
    later.word.toNat = address.word.toNat + bytes.toNat := by
  obtain ⟨word, sum, rfl⟩ := Option.map_eq_some_iff.mp within
  exact Word.toNat_of_checkedAdd_eq_some sum

/-- What is a number of bytes further on is found by adding them. -/
theorem VirtualAddress.checkedAdd_of_toNat_eq {base address : VirtualAddress} {bytes : Nat}
    (further : address.word.toNat = base.word.toNat + bytes) :
    base.checkedAdd (UInt64.ofNat bytes) = some address := by
  have fits := Word.toNat_lt_modulus address.word
  have exact : (UInt64.ofNat bytes).toNat = bytes := Word.toNat_ofNat_of_lt (by omega)
  have same : base.word + UInt64.ofNat bytes = address.word := by
    rw [← UInt64.toNat_inj, UInt64.toNat_add, exact, further]
    exact Nat.mod_eq_of_lt (further ▸ fits)
  unfold checkedAdd Word.checkedAdd
  rw [exact, if_pos (further ▸ fits), same]
  rfl

/-- The nameable addresses are those between null and the end of user memory. -/
theorem VirtualAddress.isNameable_iff {config : Config} {address : VirtualAddress} :
    address.isNameable config = true ↔
      0 < address.word.toNat ∧ address.word.toNat < config.userEnd.toNat := by
  rw [isNameable, Bool.and_eq_true, isNull, Bool.not_eq_true', beq_eq_false_iff_ne, ne_eq,
    ← UInt64.toNat_inj, isUser, decide_eq_true_eq, UInt64.lt_iff_toNat_lt, Nat.pos_iff_ne_zero]
  rfl

/-- No address that a program may use is zero. -/
theorem VirtualAddress.pos_of_isNameable {config : Config} {address : VirtualAddress}
    (nameable : address.isNameable config = true) : 0 < address.word.toNat :=
  (isNameable_iff.mp nameable).1

/-- Pages fill the space of addresses exactly. -/
theorem Config.pageSize_dvd_modulus (config : Config) : config.pageSize ∣ Word.modulus := by
  rw [pageSize_eq]
  exact Nat.pow_dvd_pow 2 (Nat.le_of_lt config.pageShift_lt)

namespace Chunk

/-- Where a copy that begins at an address enters its page of the given index. -/
def entry (config : Config) (base length index : Nat) : Nat :=
  cut config (base % config.pageSize) length index

/-- How many pages a copy touches that begins at an address. -/
def pageCount (config : Config) (base length : Nat) : Nat :=
  pagesTouched config (base % config.pageSize) length

/-- The part of a copy that lies in its page of the given index. -/
def ofIndex (config : Config) (base length index : Nat) : Chunk where
  start := entry config base length index
  stop := entry config base length (index + 1)

/-- The chunks of a copy from the given index on. -/
def ofCopyFrom (config : Config) (base length index count : Nat) : List Chunk :=
  (List.range' index count).map (ofIndex config base length)

/-- The chunks of a copy from a page on are the one of that page and those from the next one on. -/
theorem ofCopyFrom_succ (config : Config) (base length index count : Nat) :
    ofCopyFrom config base length index (count + 1) =
      ofIndex config base length index :: ofCopyFrom config base length (index + 1) count := by
  simp [ofCopyFrom, List.range'_succ]

/-- The chunks into which a copy is cut are the parts that lie in its pages, in ascending order. -/
theorem ofCopy_eq (config : Config) (base length : Nat) :
    ofCopy config (base % config.pageSize) length =
      ofCopyFrom config base length 0 (pageCount config base length) := by
  rw [ofCopy, ofCopyFrom, List.range_eq_range']
  rfl

variable {config : Config} {base length index : Nat}

/-- Where the copy enters its page of the given index, unless it has ended before. -/
theorem entry_eq (inside : index < pageCount config base length) :
    entry config base length index =
      index * config.pageSize - base % config.pageSize ∧
        entry config base length index < length := by
  unfold pageCount pagesTouched at inside
  split at inside
  · omega
  · have most := Nat.div_mul_le_self (base % config.pageSize + length - 1) config.pageSize
    have fewer := Nat.mul_le_mul_right config.pageSize (Nat.le_of_lt_succ inside)
    unfold entry cut
    omega

/-- The cuts at which a page begins and ends, counted from the start of memory. -/
theorem entry_bounds (inside : index < pageCount config base length) :
    let first := entry config base length index
    let stop := entry config base length (index + 1)
    first < stop ∧ stop ≤ length ∧ (base / config.pageSize + index) * config.pageSize ≤ base + first ∧
      base + stop ≤ (base / config.pageSize + index) * config.pageSize + config.pageSize ∧
      (0 < index → (base / config.pageSize + index) * config.pageSize = base + first) ∧
      (stop < length →
        base + stop = (base / config.pageSize + index) * config.pageSize + config.pageSize) := by
  obtain ⟨exact, short⟩ := entry_eq inside
  have parts := Nat.div_add_mod' base config.pageSize
  have rest := Nat.mod_lt base config.pageSize_pos
  have next : (index + 1) * config.pageSize = index * config.pageSize + config.pageSize :=
    Nat.succ_mul ..
  have first : 0 < index → config.pageSize ≤ index * config.pageSize :=
    Nat.le_mul_of_pos_left config.pageSize
  simp only [Nat.add_mul]
  rw [exact] at short ⊢
  unfold entry cut
  rw [next]
  omega

/-- A copy ends where the last of its pages does, or before. -/
theorem entry_last :
    entry config base length
      (pageCount config base length) = length := by
  unfold entry pageCount pagesTouched cut
  split
  · next none => rw [none, Nat.zero_min]
  · have more := Nat.lt_div_mul_add config.pageSize_pos
      (a := base % config.pageSize + length - 1)
    rw [Nat.succ_mul]
    omega

/-- The bytes of a chunk lie in its page. -/
theorem div_of_mem (inside : index < pageCount config base length)
    {place : Nat} (after : entry config base length index ≤ place)
    (before : place < entry config base length (index + 1)) :
    (base + place) / config.pageSize = base / config.pageSize + index := by
  obtain ⟨_, _, low, high, _, _⟩ := entry_bounds inside
  have next : (base / config.pageSize + index + 1) * config.pageSize =
    (base / config.pageSize + index) * config.pageSize + config.pageSize := Nat.succ_mul ..
  exact Nat.div_eq_of_lt_le (by omega) (by omega)

/-- What comes after a chunk lies in later pages. -/
theorem lt_div_of_le (inside : index < pageCount config base length)
    {place : Nat} (after : entry config base length (index + 1) ≤ place)
    (before : place < length) : base / config.pageSize + index < (base + place) / config.pageSize := by
  obtain ⟨_, _, _, _, _, ends⟩ := entry_bounds inside
  have next : (base / config.pageSize + index + 1) * config.pageSize =
    (base / config.pageSize + index) * config.pageSize + config.pageSize := Nat.succ_mul ..
  have later : base / config.pageSize + index + 1 ≤ (base + place) / config.pageSize :=
    (Nat.le_div_iff_mul_le config.pageSize_pos).mpr (by omega)
  exact later

end Chunk

end DemandPaging

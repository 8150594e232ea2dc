import DemandPaging.Word

/-!
# Memory layout

A `Config` fixes the page size and the layout of user address spaces. Pages are a power of two
long, so the size is given by its exponent.
-/

namespace DemandPaging

/-- The constants of one machine: how long a page is and where user memory lies. -/
structure Config where
  /-- Pages hold two to the power of `pageShift` bytes. -/
  pageShift : Nat
  pageShift_lt : pageShift < 64
  /-- The stack grows downwards from this address. -/
  stackTop : Word
  /-- Addresses from here on belong to the kernel. -/
  userEnd : Word
  /-- How far below `stackTop` the stack may grow, in bytes. -/
  stackCeiling : Word

/-- The bytes of a machine word. A push touches one word below the stack pointer before it
moves the pointer. -/
def wordSize : Word := 8

/-- Stacks grow to one mebibyte unless a configuration says otherwise. -/
def defaultStackCeiling : Word := 0x100000

/-- The status with which a task ends when its fault cannot be resolved. -/
def faultExitStatus : Int := -1

namespace Config

/-- The number of bytes in a page. -/
def pageSize (config : Config) : Nat := 1 <<< config.pageShift

/-- The number of bytes in a page, as a machine word. -/
def pageSizeWord (config : Config) : Word := UInt64.ofNat config.pageSize

/-- The largest page size a layout may ask for. -/
def largestPageSize : Nat := 4096

/-- The exponent of a page size: defined for the powers of two up to `largestPageSize`. -/
def shiftOf? (size : Nat) : Option (Fin 64) :=
  if size ≤ largestPageSize then (List.finRange 64).find? fun shift => 1 <<< shift.val = size
  else none

/-- The layout with the given page size, if that size is allowed. -/
def ofPageSize? (size : Nat) (stackTop userEnd stackCeiling : Word) : Option Config :=
  (shiftOf? size).map fun shift =>
    { pageShift := shift.val, pageShift_lt := shift.isLt, stackTop, userEnd, stackCeiling }

/-- Pages of 4096 bytes below the usual end of user memory. -/
def standard : Config where
  pageShift := 12
  pageShift_lt := by decide
  stackTop := 0x47480000
  userEnd := 0x800000000000
  stackCeiling := defaultStackCeiling

/-- Pages are powers of two, so none is empty. -/
theorem pageSize_pos (config : Config) : 0 < config.pageSize := by
  rw [pageSize, Nat.one_shiftLeft]
  exact Nat.two_pow_pos config.pageShift

/-- The size of a page fits into a word. -/
theorem pageSize_lt_modulus (config : Config) : config.pageSize < Word.modulus := by
  rw [pageSize, Nat.one_shiftLeft]
  exact Nat.pow_lt_pow_right (by decide) config.pageShift_lt

@[simp] theorem toNat_pageSizeWord (config : Config) :
    config.pageSizeWord.toNat = config.pageSize :=
  Word.toNat_ofNat_of_lt config.pageSize_lt_modulus

end Config

end DemandPaging

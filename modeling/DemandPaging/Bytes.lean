import DemandPaging.Config

/-!
# Bytes and page contents

File contents and transferred data are byte arrays of any length. The content of a page has the
page size in its type, so no transfer can leave a page too short or too long.
-/

namespace DemandPaging

/-- A sequence of bytes. -/
abbrev Bytes := Array UInt8

namespace Bytes

/-- The byte at `index` once `piece` has been laid over a sequence at `position`, where `under`
is the byte that was there. -/
def overlay (piece : Bytes) (position index : Nat) (under : UInt8) : UInt8 :=
  if position ≤ index then piece.getD (index - position) under else under

/-- The first `size` bytes of a sequence with `piece` laid over it at `position`. Bytes that
neither covers are zero. -/
def splice (target : Bytes) (size position : Nat) (piece : Bytes) : Bytes :=
  Array.ofFn fun index : Fin size => overlay piece position index (target.getD index 0)

/-- Lays `piece` over a sequence at `position`; what would lie beyond its end is dropped. -/
def overwrite (target : Bytes) (position : Nat) (piece : Bytes) : Bytes :=
  splice target target.size position piece

/-- At most `length` bytes of a sequence from `position` on. -/
def slice (source : Bytes) (position length : Nat) : Bytes :=
  source.extract position (position + length)

/-- A splice has the size that was asked for, however long the piece is. -/
@[simp] theorem size_splice (target : Bytes) (size position : Nat) (piece : Bytes) :
    (splice target size position piece).size = size := by
  simp [splice]

/-- Overwriting never makes the target longer or shorter. -/
@[simp] theorem size_overwrite (target : Bytes) (position : Nat) (piece : Bytes) :
    (overwrite target position piece).size = target.size :=
  size_splice ..

/-- A byte of a splice comes from the piece where the piece lies, else from the target, else it is
zero. -/
theorem getElem_splice (target : Bytes) (size position : Nat) (piece : Bytes) {index : Nat}
    (inside : index < (splice target size position piece).size) :
    (splice target size position piece)[index] =
      overlay piece position index (target.getD index 0) := by
  simp [splice]

end Bytes

/-- The content of a page. -/
abbrev PageBytes (config : Config) := Vector UInt8 config.pageSize

namespace PageBytes

variable {config : Config}

/-- A page of zeros. -/
def zero : PageBytes config := Vector.replicate config.pageSize 0

/-- Whether every byte is zero. -/
def isZero (page : PageBytes config) : Bool := page.all (· == 0)

/-- Lays `piece` over a page at `position`; what would lie beyond the page is dropped. -/
def overwrite (page : PageBytes config) (position : Nat) (piece : Bytes) : PageBytes config :=
  Vector.ofFn fun index => Bytes.overlay piece position index page[index]

/-- Makes every byte from `position` on zero. -/
def clearFrom (page : PageBytes config) (position : Nat) : PageBytes config :=
  Vector.ofFn fun index => if index < position then page[index] else 0

/-- At most `length` bytes of a page from `position` on. -/
def slice (page : PageBytes config) (position length : Nat) : Bytes :=
  Bytes.slice page.toArray position length

@[simp] theorem getElem_zero {index : Nat} (inside : index < config.pageSize) :
    (zero : PageBytes config)[index] = 0 := by
  simp [zero]

/-- A byte of an overwritten page comes from the piece where the piece lies, else from the page. -/
@[simp] theorem getElem_overwrite (page : PageBytes config) (position : Nat) (piece : Bytes)
    {index : Nat} (inside : index < config.pageSize) :
    (page.overwrite position piece)[index] = Bytes.overlay piece position index page[index] := by
  simp [overwrite]

/-- Clearing keeps the bytes before the position and turns the others into zeros. -/
@[simp] theorem getElem_clearFrom (page : PageBytes config) (position : Nat) {index : Nat}
    (inside : index < config.pageSize) :
    (page.clearFrom position)[index] = if index < position then page[index] else 0 := by
  simp [clearFrom]

/-- The test for zeros recognises the zero page and no other one. -/
theorem isZero_iff {page : PageBytes config} : page.isZero = true ↔ page = zero := by
  unfold isZero
  rw [Vector.all_eq_true]
  constructor
  · intro allZero
    refine Vector.ext fun index inside => ?_
    rw [getElem_zero]
    exact eq_of_beq (allZero index inside)
  · rintro rfl index inside
    rw [getElem_zero]
    exact beq_self_eq_true 0

end PageBytes

end DemandPaging

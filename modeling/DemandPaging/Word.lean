/-!
# Machine words

Addresses, page numbers and file positions are 64-bit words. Arithmetic on them is exact or it
does not happen: an operation whose mathematical result does not fit a word reports an
`Overflow` instead of wrapping around.
-/

namespace DemandPaging

/-- A 64-bit machine word. -/
abbrev Word := UInt64

/-- The arithmetic operation whose exact result does not fit a machine word. -/
inductive Overflow where
  | addition
  | multiplication
deriving DecidableEq, Repr

/-- What the machine reports when it stops on an overflow. -/
def Overflow.message : Overflow → String
  | .addition => "attempt to add with overflow"
  | .multiplication => "attempt to multiply with overflow"

namespace Word

/-- One more than the largest word. -/
def modulus : Nat := 0x10000000000000000

/-- The exact sum of two words, if it is a word. -/
def checkedAdd (left right : Word) : Option Word :=
  if left.toNat + right.toNat < modulus then some (left + right) else none

/-- The exact sum of two words. -/
def plus (left right : Word) : Except Overflow Word :=
  if left.toNat + right.toNat < modulus then .ok (left + right) else .error .addition

/-- The exact product of two words. -/
def times (left right : Word) : Except Overflow Word :=
  if left.toNat * right.toNat < modulus then .ok (left * right) else .error .multiplication

/-- The difference of two words, or zero where it would be negative. -/
def saturatingSub (left right : Word) : Word :=
  if right ≤ left then left - right else 0

/-- The quotient of two words rounded up, for a divisor other than zero. -/
def ceilingDiv (dividend divisor : Word) : Word :=
  if dividend % divisor = 0 then dividend / divisor else dividend / divisor + 1

/-- The written form of addresses: `0x` and the lowercase hexadecimal digits, unpadded. -/
def hex (word : Word) : String :=
  "0x" ++ String.ofList (Nat.toDigits 16 word.toNat)

theorem toNat_lt_modulus (word : Word) : word.toNat < modulus := word.toNat_lt

/-- A number that fits into a word comes back unchanged. -/
theorem toNat_ofNat_of_lt {value : Nat} (fits : value < modulus) :
    (UInt64.ofNat value).toNat = value :=
  UInt64.toNat_ofNat_of_lt' fits

/-- A sum that did not overflow is the sum of the numbers. -/
theorem toNat_of_plus_eq_ok {left right sum : Word} (exact : plus left right = .ok sum) :
    sum.toNat = left.toNat + right.toNat := by
  unfold plus at exact
  split at exact
  · next fits =>
    cases exact
    rw [UInt64.toNat_add]
    exact Nat.mod_eq_of_lt fits
  · cases exact

/-- A product that did not overflow is the product of the numbers. -/
theorem toNat_of_times_eq_ok {left right product : Word}
    (exact : times left right = .ok product) :
    product.toNat = left.toNat * right.toNat := by
  unfold times at exact
  split at exact
  · next fits =>
    cases exact
    rw [UInt64.toNat_mul]
    exact Nat.mod_eq_of_lt fits
  · cases exact

/-- A checked sum that exists is the sum of the numbers. -/
theorem toNat_of_checkedAdd_eq_some {left right sum : Word}
    (exact : checkedAdd left right = some sum) : sum.toNat = left.toNat + right.toNat := by
  unfold checkedAdd at exact
  split at exact
  · next fits =>
    cases exact
    rw [UInt64.toNat_add]
    exact Nat.mod_eq_of_lt fits
  · cases exact

/-- Subtraction that stops at zero is subtraction of natural numbers. -/
theorem toNat_saturatingSub (left right : Word) :
    (saturatingSub left right).toNat = left.toNat - right.toNat := by
  unfold saturatingSub
  split
  · next ordered => exact UInt64.toNat_sub_of_le left right ordered
  · next reversed =>
    rw [UInt64.le_iff_toNat_le] at reversed
    simp
    omega

end Word

end DemandPaging

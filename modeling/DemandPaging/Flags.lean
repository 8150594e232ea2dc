import DemandPaging.Word

/-!
# Page table flags and fault causes

Both are sets of named bits. The sets are records of truth values; `bits` and `ofBits` give their
encoding as a number, in which reading drops the bits that have no name.
-/

namespace DemandPaging

/-- The written form of a set of named bits: the names of its members between bars, or the
encoding of the empty set. -/
def flagText (typeName : String) (members : List String) : String :=
  typeName ++ "(" ++ (if members.isEmpty then "0x0" else " | ".intercalate members) ++ ")"

/-- The permissions and history bits of a page table entry. -/
structure EntryFlags where
  valid : Bool := false
  writable : Bool := false
  user : Bool := false
  accessed : Bool := false
  dirty : Bool := false
deriving DecidableEq

namespace EntryFlags

/-- The flags with which a user page is mapped. -/
def userPage (writable : Bool) : EntryFlags where
  valid := true
  writable := writable
  user := true

/-- The encoding of the flags, one bit each from the lowest up. -/
def bits (flags : EntryFlags) : Nat :=
  flags.valid.toNat + 2 * flags.writable.toNat + 4 * flags.user.toNat +
    8 * flags.accessed.toNat + 16 * flags.dirty.toNat

/-- The flags that an encoding holds; other bits are dropped. -/
def ofBits (bits : Nat) : EntryFlags where
  valid := bits.testBit 0
  writable := bits.testBit 1
  user := bits.testBit 2
  accessed := bits.testBit 3
  dirty := bits.testBit 4

/-- Whether every bit of an encoding has a name. -/
def isKnown (bits : Nat) : Bool := (ofBits bits).bits == bits

/-- Whether all flags of the second set are in the first. -/
def contains (flags required : EntryFlags) : Bool :=
  (!required.valid || flags.valid) && (!required.writable || flags.writable) &&
    (!required.user || flags.user) && (!required.accessed || flags.accessed) &&
    (!required.dirty || flags.dirty)

/-- The names of the flags that are set. -/
def members (flags : EntryFlags) : List String :=
  [(flags.valid, "VALID"), (flags.writable, "WRITABLE"), (flags.user, "USER"),
    (flags.accessed, "ACCESSED"), (flags.dirty, "DIRTY")].filterMap fun (isSet, name) =>
      if isSet then some name else none

/-- How messages describe the flags. -/
def text (flags : EntryFlags) : String := flagText "PteFlags" flags.members

/-- No flag is lost on the way through the bits. -/
theorem ofBits_bits (flags : EntryFlags) : ofBits flags.bits = flags := by
  obtain ⟨valid, writable, user, accessed, dirty⟩ := flags
  cases valid <;> cases writable <;> cases user <;> cases accessed <;> cases dirty <;> rfl

end EntryFlags

/-- What an access that faulted was doing. -/
structure FaultCause where
  /-- The access came from user mode. -/
  user : Bool := false
  /-- The access was a write. -/
  write : Bool := false
  /-- The page was not mapped; otherwise the mapping forbade the access. -/
  notPresent : Bool := false
deriving DecidableEq

namespace FaultCause

/-- The encoding of the cause, one bit each from the lowest up. -/
def bits (cause : FaultCause) : Nat :=
  cause.user.toNat + 2 * cause.write.toNat + 4 * cause.notPresent.toNat

/-- The cause that an encoding holds; other bits are dropped. -/
def ofBits (bits : Nat) : FaultCause where
  user := bits.testBit 0
  write := bits.testBit 1
  notPresent := bits.testBit 2

/-- Whether every bit of an encoding has a name. -/
def isKnown (bits : Nat) : Bool := (ofBits bits).bits == bits

/-- The names of the bits that are set. -/
def members (cause : FaultCause) : List String :=
  [(cause.user, "USER"), (cause.write, "WRITE"),
    (cause.notPresent, "NOT_PRESENT")].filterMap fun (isSet, name) =>
      if isSet then some name else none

/-- How messages describe the cause. -/
def text (cause : FaultCause) : String := flagText "FaultCause" cause.members

/-- No part of a cause is lost on the way through the bits. -/
theorem ofBits_bits (cause : FaultCause) : ofBits cause.bits = cause := by
  obtain ⟨user, write, notPresent⟩ := cause
  cases user <;> cases write <;> cases notPresent <;> rfl

end FaultCause

end DemandPaging

import DemandPaging.Config
import DemandPaging.OrderedMap

/-!
# Addresses and page numbers

Virtual addresses, physical addresses and virtual page numbers are machine words of three
different types, so that one is never taken for another. The page size is a power of two, hence
the offset of an address inside its page is its low bits and the start of its page is the rest.
-/

namespace DemandPaging

/-- An address in a user address space. -/
structure VirtualAddress where
  word : Word
deriving DecidableEq, Inhabited

/-- An address of physical memory. -/
structure PhysicalAddress where
  word : Word
deriving DecidableEq, Inhabited

/-- The number of a page of virtual memory. -/
structure PageNumber where
  word : Word
deriving DecidableEq, Inhabited

namespace Config

/-- The distance of an address from the start of its page. -/
def offsetInPage (config : Config) (address : Word) : Word :=
  address &&& (config.pageSizeWord - 1)

/-- The start of the page that holds an address. -/
def alignDown (config : Config) (address : Word) : Word :=
  address &&& ~~~(config.pageSizeWord - 1)

end Config

namespace VirtualAddress

/-- The distance of the address from the start of its page. -/
def pageOffset (address : VirtualAddress) (config : Config) : Word :=
  config.offsetInPage address.word

/-- Whether the address starts a page. -/
def isPageAligned (address : VirtualAddress) (config : Config) : Bool :=
  address.pageOffset config == 0

/-- The start of the page that holds the address. -/
def alignDown (address : VirtualAddress) (config : Config) : VirtualAddress :=
  ⟨config.alignDown address.word⟩

/-- The number of the page that holds the address. -/
def page (address : VirtualAddress) (config : Config) : PageNumber :=
  ⟨(address.alignDown config).word / config.pageSizeWord⟩

/-- Whether this is the null pointer. -/
def isNull (address : VirtualAddress) : Bool := address.word == 0

/-- Whether the address belongs to user memory. -/
def isUser (address : VirtualAddress) (config : Config) : Bool :=
  address.word < config.userEnd

/-- Whether a user program may name the address at all: not null, and in user memory. -/
def isNameable (address : VirtualAddress) (config : Config) : Bool :=
  !address.isNull && address.isUser config

/-- The address that lies a number of bytes further on, if there is one. -/
def checkedAdd (address : VirtualAddress) (bytes : Word) : Option VirtualAddress :=
  (Word.checkedAdd address.word bytes).map VirtualAddress.mk

/-- The order of addresses. -/
def compare (left right : VirtualAddress) : Ordering := Ord.compare left.word right.word

/-- How messages name the address. -/
def text (address : VirtualAddress) : String := "Vaddr(" ++ Word.hex address.word ++ ")"

end VirtualAddress

namespace PhysicalAddress

/-- The distance of the address from the start of its frame. -/
def pageOffset (address : PhysicalAddress) (config : Config) : Word :=
  config.offsetInPage address.word

/-- The start of the frame that holds the address. -/
def alignDown (address : PhysicalAddress) (config : Config) : PhysicalAddress :=
  ⟨config.alignDown address.word⟩

/-- How messages name the address. -/
def text (address : PhysicalAddress) : String := "Paddr(" ++ Word.hex address.word ++ ")"

end PhysicalAddress

namespace PageNumber

instance : Numbered PageNumber where
  number page := page.word.toNat
  number_injective same := congrArg PageNumber.mk (UInt64.toNat_inj.mp same)

/-- The first address of the page. -/
def startAddress (page : PageNumber) (config : Config) : Except Overflow VirtualAddress :=
  (Word.times page.word config.pageSizeWord).map VirtualAddress.mk

/-- The first address of a page that lies in the address space. -/
def firstAddress (page : PageNumber) (config : Config) : VirtualAddress :=
  ⟨page.word * config.pageSizeWord⟩

/-- The page that lies a number of pages further on. -/
def offset (page : PageNumber) (pages : Word) : Except Overflow PageNumber :=
  (Word.plus page.word pages).map PageNumber.mk

/-- The page `steps` after this one, counting round at the end of the number space. -/
def advance (page : PageNumber) (steps : Nat) : PageNumber :=
  ⟨UInt64.ofNat (page.word.toNat + steps)⟩

/-- How messages name the page. -/
def text (page : PageNumber) : String := "Vpn(" ++ Word.hex page.word ++ ")"

end PageNumber

/-- The consecutive pages from `start` up to, and without, `stop`. -/
structure PageRange where
  start : PageNumber
  stop : PageNumber
  ordered : start.word ≤ stop.word

namespace PageRange

/-- The range of a number of pages from `start` on. -/
def ofCount (start : PageNumber) (pages : Word) : Except Overflow PageRange :=
  match exact : Word.plus start.word pages with
  | .ok stop => .ok
      { start, stop := ⟨stop⟩
        ordered := by
          rw [UInt64.le_iff_toNat_le, Word.toNat_of_plus_eq_ok exact]
          exact Nat.le_add_right _ _ }
  | .error overflow => .error overflow

/-- The number of pages in the range. -/
def length (range : PageRange) : Word := range.stop.word - range.start.word

/-- Whether the range holds no page. -/
def isEmpty (range : PageRange) : Bool := range.start == range.stop

/-- Whether a page lies in the range. -/
def contains (range : PageRange) (page : PageNumber) : Bool :=
  range.start.word ≤ page.word && page.word < range.stop.word

/-- At most `limit` pages from the start of the range, in ascending order. -/
def firstPages (range : PageRange) (limit : Nat) : List PageNumber :=
  (List.range (min limit range.length.toNat)).map range.start.advance

/-- The pages of the range in ascending order. -/
def pages (range : PageRange) : List PageNumber := range.firstPages range.length.toNat

/-- How messages describe the range. -/
def text (range : PageRange) : String :=
  "VpnRange \x7b start: " ++ range.start.text ++ ", end: " ++ range.stop.text ++ " \x7d"

end PageRange

end DemandPaging

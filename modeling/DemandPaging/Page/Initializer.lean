import DemandPaging.Bytes
import DemandPaging.Identity
import DemandPaging.Failure

/-!
# Deferred page initializers

An initializer runs when its page is first loaded, after the page has got its first content. The
kernel only knows it as a function of the run's number, the page and the bytes it finds; `Filling`
gives the initializers that programs here can ask for.
-/

namespace DemandPaging

/-- A function that changes the bytes of a freshly loaded page and may refuse to. -/
structure Initializer (config : Config) where
  id : InitializerId
  /-- What the run of the given number makes of the bytes of a page, and why it fails if it does.
  Runs are counted from one. -/
  run : Nat → PageNumber → PageBytes config → PageBytes config × Option VmError

/-- The ways in which an initializer can fill a page. -/
inductive Filling where
  /-- Every byte becomes this one. -/
  | constant (byte : UInt8)
  /-- One byte is stored at a position, counted round at the end of the page. -/
  | byteAt (position : Nat) (byte : UInt8)
  /-- The number of the run is stored at a position, as far as one byte can tell. -/
  | runCount (position : Nat)
  /-- The page number is stored at the start of the page, lowest byte first. -/
  | pageNumber
  /-- A number is added to every byte. -/
  | increment (amount : UInt8)
deriving DecidableEq

namespace Filling

/-- The eight bytes of a word, lowest first. -/
def littleEndian (word : Word) : Bytes :=
  Array.ofFn fun index : Fin 8 => UInt8.ofNat (word.toNat >>> (8 * index.val))

/-- The page after it has been filled. -/
def apply {config : Config} (filling : Filling) (run : Nat) (number : PageNumber)
    (bytes : PageBytes config) : PageBytes config :=
  match filling with
  | .constant byte => Vector.replicate config.pageSize byte
  | .byteAt position byte => bytes.overwrite (position % config.pageSize) #[byte]
  | .runCount position => bytes.overwrite (position % config.pageSize) #[UInt8.ofNat run]
  | .pageNumber => bytes.overwrite 0 (littleEndian number.word)
  | .increment amount => bytes.map (· + amount)

end Filling

/-- What an initializer does: how it fills its page, and how often it fails afterwards. -/
structure InitializerPlan where
  filling : Filling
  /-- The error of the failing runs, if any fail. -/
  failure : Option VmError := none
  /-- How many runs fail, counted from the first; all of them if there is no number. -/
  failingRuns : Option Nat := none
deriving DecidableEq

/-- The initializer that follows a plan. -/
def InitializerPlan.initializer (config : Config) (plan : InitializerPlan)
    (id : InitializerId) : Initializer config where
  id := id
  run run number bytes :=
    let fails := match plan.failingRuns with
      | some count => decide (run ≤ count)
      | none => true
    (plan.filling.apply run number bytes, if fails then plan.failure else none)

end DemandPaging

import DemandPaging.Proofs.Layout
import DemandPaging.Proofs.Run

/-!
# A memory without paging

`FlatMemory` is what user memory looks like to programs: every page has its content, and there are
neither frames nor slots. `FlatMemory.Performs` says what each operation may do to it. A page that
is used for the first time is filled with zeros and by its initializer; after that only copies to
user memory change it.
-/

namespace DemandPaging

variable {config : Config}

/-- The bytes of a page after a sequence of bytes was stored at an address: those that lie in the
page replace what was there. -/
def PageBytes.patched (page : PageBytes config) (number : PageNumber) (base : Nat) (bytes : Bytes) :
    PageBytes config :=
  Vector.ofFn fun index =>
    let place := number.word.toNat * config.pageSize + index
    if base ≤ place ∧ place < base + bytes.size then bytes.getD (place - base) 0 else page.get index

/-- A byte of a patched page is the one that was stored at its place of the address space, if one
was. -/
@[simp] theorem PageBytes.getElem_patched (page : PageBytes config) (number : PageNumber)
    (base : Nat) (bytes : Bytes) {index : Nat} (inside : index < config.pageSize) :
    (page.patched number base bytes)[index] =
      if base ≤ number.word.toNat * config.pageSize + index ∧
          number.word.toNat * config.pageSize + index < base + bytes.size then
        bytes.getD (number.word.toNat * config.pageSize + index - base) 0
      else page[index] := by
  simp [patched, Vector.get]

/-- The byte of a page on which a place of the address space falls that lies in the page. -/
def PageBytes.byteAt (page : PageBytes config) (place : Nat) : UInt8 :=
  page.get ⟨place % config.pageSize, Nat.mod_lt _ config.pageSize_pos⟩

theorem PageBytes.byteAt_eq (page : PageBytes config) {place : Nat}
    (inside : place % config.pageSize < config.pageSize) :
    page.byteAt place = page[place % config.pageSize] :=
  rfl

/-- A page of a memory without paging. -/
inductive FlatPage (config : Config) where
  /-- An anonymous page that was not used yet. -/
  | pending (initializer : Option (Initializer config))
  /-- An anonymous page with its content. -/
  | present (bytes : PageBytes config)
  /-- A page of a file; its content is not the memory's own. -/
  | foreign

namespace FlatPage

/-- The page with its content changed, if it has content of its own. -/
def map (change : PageBytes config → PageBytes config) : FlatPage config → FlatPage config
  | .present bytes => .present (change bytes)
  | page => page

/-- What a page is once it is used. A page that was pending is filled with zeros and by its
initializer, which was run for that between two counts of its runs; a page that was not there is a
new page of the stack. -/
inductive Uses (number : PageNumber) (early late : InitializerId → Nat) :
    Option (FlatPage config) → FlatPage config → Prop where
  | present {bytes : PageBytes config} :
    Uses number early late (some (.present bytes)) (.present bytes)
  | foreign : Uses number early late (some .foreign) .foreign
  | blank : Uses number early late (some (.pending none)) (.present PageBytes.zero)
  | filled {initializer : Initializer config} {run : Nat} {bytes : PageBytes config}
      (after : early initializer.id < run) (before : run ≤ late initializer.id)
      (ran : initializer.run run number PageBytes.zero = (bytes, none)) :
    Uses number early late (some (.pending (some initializer))) (.present bytes)
  | grown : Uses number early late none (.present PageBytes.zero)

/-- The counts of runs between which a page was used may be taken further apart. -/
theorem Uses.mono {number : PageNumber} {early late earlier later : InitializerId → Nat}
    {before : Option (FlatPage config)} {after : FlatPage config}
    (uses : Uses number early late before after) (start : ∀ id, earlier id ≤ early id)
    (stop : ∀ id, late id ≤ later id) : Uses number earlier later before after := by
  cases uses with
  | present => exact .present
  | foreign => exact .foreign
  | blank => exact .blank
  | filled after before ran =>
    exact .filled (Nat.lt_of_le_of_lt (start _) after) (Nat.le_trans before (stop _)) ran
  | grown => exact .grown

end FlatPage

/-- The pages of all address spaces, and how often each initializer has been run. -/
structure FlatMemory (config : Config) where
  page? : SpaceKey → PageNumber → Option (FlatPage config)
  runs : InitializerId → Nat

/-- A copy touches a page with its bytes from `first` on up to, and without, `stop`. -/
def PageNumber.IsTouched (config : Config) (number : PageNumber) (base first stop : Nat) : Prop :=
  ∃ index, first ≤ index ∧ index < stop ∧ (base + index) / config.pageSize = number.word.toNat

/-- How far a copy of `size` bytes gets: to its end, or to the start of a page that it cannot
use. -/
def StopsAt (config : Config) (address : VirtualAddress) (size reached : Nat) :
    Except VmError Unit → Prop
  | .ok _ => reached = size
  | .error _ => reached < size ∧
    (reached = 0 ∨ (address.word.toNat + reached) % config.pageSize = 0)

namespace FlatMemory

/-- The memory of a machine that was just started. -/
def empty : FlatMemory config where
  page? _ _ := none
  runs _ := 0

/-- The byte at an address that lies in an anonymous page with content. -/
def byte? (memory : FlatMemory config) (key : SpaceKey) (place : Nat) : Option UInt8 :=
  match memory.page? key ⟨UInt64.ofNat (place / config.pageSize)⟩ with
  | some (.present bytes) => some (bytes.byteAt place)
  | _ => none

/-- Some pages of a space are used, and something is stored in each of them. Nothing else changes,
except that initializers may be run in vain. -/
structure Visits (key : SpaceKey) (touched : PageNumber → Prop)
    (store : PageNumber → PageBytes config → PageBytes config) (before after : FlatMemory config) :
    Prop where
  visited : ∀ number, touched number → ∃ page,
    FlatPage.Uses number before.runs after.runs (before.page? key number) page ∧
      after.page? key number = some (page.map (store number))
  others : ∀ probe number, (probe = key → ¬ touched number) →
    after.page? probe number = before.page? probe number
  runs : ∀ id, before.runs id ≤ after.runs id

/-- Pages of a space are used, and nothing is stored in them. -/
abbrev Looks (key : SpaceKey) (touched : PageNumber → Prop) (before after : FlatMemory config) :
    Prop :=
  Visits key touched (fun _ bytes => bytes) before after

/-- No page changes; initializers may be run in vain. -/
structure Idles (before after : FlatMemory config) : Prop where
  pages : after.page? = before.page?
  runs : ∀ id, before.runs id ≤ after.runs id

/-- The page that a registration asks for. -/
def awaited (target : PageTarget config) (initializer : Option (Initializer config)) :
    FlatPage config :=
  match target with
  | .anonymous => .pending initializer
  | .file _ => .foreign

/-- What a request may do to the memory, with the answer or the error that it ends with. -/
inductive Answers (key : SpaceKey) : SpaceRequest config → Except VmError Answer →
    FlatMemory config → FlatMemory config → Prop where
  | refused {asked : SpaceRequest config} {refusal : Refusal} {before after : FlatMemory config}
      (idles : before.Idles after) : Answers key asked (.ok (.refused refusal)) before after
  /-- A request that fails changes nothing, except that a copy has got somewhere and that the page of
  a file is gone also if its content could not be saved. -/
  | failed {asked : SpaceRequest config} {error : VmError} {before after : FlatMemory config}
      (notWrite : ∀ address bytes, asked ≠ .write address bytes) (idles : before.Idles after) :
    Answers key asked (.error error) before after
  | allocated {request : TargetRequest} {target : PageTarget config} {address : VirtualAddress}
      {writable : Bool} {body : Option (InitializerBody config)}
      {initializer : Option (Initializer config)} {before after : FlatMemory config}
      (grants : request.Grants target) (runs : ∀ id, before.runs id ≤ after.runs id)
      (sameBody : initializer.map Initializer.run = body)
      (unused : ∀ fresh, initializer = some fresh → before.runs fresh.id = 0)
      (vacant : before.page? key (address.page config) = none)
      (pages : after.page? =
        amend before.page? key (address.page config) (some (awaited target initializer))) :
    Answers key (.allocate request address writable body) (.ok .done) before after
  | claimed {address : VirtualAddress} {before after : FlatMemory config}
      (known : (before.page? key (address.page config)).isSome)
      (looks : before.Looks key (· = address.page config) after) :
    Answers key (.claim address) (.ok .done) before after
  /-- A page is gone, whether or not its content could be saved. -/
  | removed {address : VirtualAddress} {result : Except VmError Answer}
      {before after : FlatMemory config} (shown : ∀ answer, result = .ok answer → answer = .done)
      (runs : ∀ id, before.runs id ≤ after.runs id)
      (pages : after.page? = amend before.page? key (address.page config) none) :
    Answers key (.remove address) result before after
  | resolved {access : PageFault} {before after : FlatMemory config}
      (looks : before.Looks key (· = access.address.page config) after) :
    Answers key (.fault access) (.ok .done) before after
  | retried {access : PageFault} {before after : FlatMemory config}
      (looks : before.Looks key (· = access.address.page config) after) :
    Answers key (.userFault access) (.ok (.verdict .retry)) before after
  | exited {access : PageFault} {before after : FlatMemory config} (idles : before.Idles after) :
    Answers key (.userFault access) (.ok (.verdict (.exit faultExitStatus))) before after
  | pointed {pointer : VirtualAddress} {result : Except VmError Answer}
      {before after : FlatMemory config} (idles : before.Idles after) :
    Answers key (.recordStackPointer pointer) result before after
  /-- The buffer is filled with the bytes of the memory as far as the copy gets. -/
  | read {address : VirtualAddress} {buffer filled : Bytes} {result : Except VmError Unit}
      {reached : Nat} {before after : FlatMemory config}
      (within : reached ≤ buffer.size) (stops : StopsAt config address buffer.size reached result)
      (looks : before.Looks key
        (fun number => number.IsTouched config address.word.toNat 0 reached) after)
      (size : filled.size = buffer.size)
      (copied : ∀ index byte, index < reached →
        after.byte? key (address.word.toNat + index) = some byte → filled[index]? = some byte)
      (kept : ∀ index, reached ≤ index → filled[index]? = buffer[index]?) :
    Answers key (.read address buffer) (.ok (.filled filled result)) before after
  /-- The bytes replace those of the memory as far as the copy gets. -/
  | written {address : VirtualAddress} {bytes : Bytes} {result : Except VmError Unit}
      {reached : Nat} {before after : FlatMemory config}
      (within : reached ≤ bytes.size) (stops : StopsAt config address bytes.size reached result)
      (visits : before.Visits key
        (fun number => number.IsTouched config address.word.toNat 0 reached)
        (fun number page => page.patched number address.word.toNat bytes) after) :
    Answers key (.write address bytes) (result.map fun _ => .done) before after
  /-- Pages of the file are there where there was nothing. -/
  | mapped {address : VirtualAddress} {length offset : Word} {writable : Bool} {file : FileId}
      {count : Nat} {before after : FlatMemory config}
      (counted : count = (Word.ceilingDiv length config.pageSizeWord).toNat)
      (runs : ∀ id, before.runs id ≤ after.runs id)
      (vacant : ∀ index < count,
        before.page? key ((address.page config).advance index) = none)
      (placed : ∀ index < count,
        after.page? key ((address.page config).advance index) = some .foreign)
      (others : ∀ probe number,
        (probe = key → ∀ index < count, number ≠ (address.page config).advance index) →
          after.page? probe number = before.page? probe number) :
    Answers key (.map address length writable file offset) (.ok (.mappedAt address)) before after
  /-- Only pages of files can be gone. -/
  | unmapped {address : VirtualAddress} {result : Except VmError Answer}
      {before after : FlatMemory config} (shown : ∀ answer, result = .ok answer → answer = .done)
      (runs : ∀ id, before.runs id ≤ after.runs id)
      (pages : ∀ probe number, after.page? probe number = before.page? probe number ∨
        probe = key ∧ before.page? key number = some .foreign ∧ after.page? key number = none) :
    Answers key (.unmap address) result before after
  | tornDown {before after : FlatMemory config} (runs : ∀ id, before.runs id ≤ after.runs id)
      (pages : after.page? = fun probe number =>
        if probe = key then none else before.page? probe number) :
    Answers key .tearDown (.ok .done) before after

end FlatMemory

/-- An operation that is not about the pages of an address space. -/
def Operation.IsUnrelated : Operation config → Prop
  | .drop _ | .fork _ | .copy _ _ | .request _ _ => False
  | _ => True

namespace FlatMemory

/-- What an operation may do to the memory, with the answer or the error that it ends with. -/
inductive Performs : Operation config → Except VmError Answer → FlatMemory config →
    FlatMemory config → Prop where
  | idle {operation : Operation config} {result : Except VmError Answer}
      {before after : FlatMemory config} (unrelated : operation.IsUnrelated)
      (idles : before.Idles after) : Performs operation result before after
  | refused {operation : Operation config} {refusal : Refusal} {before after : FlatMemory config}
      (idles : before.Idles after) : Performs operation (.ok (.refused refusal)) before after
  | requested {key : SpaceKey} {asked : SpaceRequest config} {result : Except VmError Answer}
      {before after : FlatMemory config} (answers : Answers key asked result before after) :
    Performs (.request key asked) result before after
  | dropped {key : SpaceKey} {before after : FlatMemory config}
      (runs : ∀ id, before.runs id ≤ after.runs id)
      (pages : after.page? = fun probe number =>
        if probe = key then none else before.page? probe number) :
    Performs (.drop key) (.ok .done) before after
  /-- The new space has the same pages as its model, with the same content. -/
  | forked {parent child : SpaceKey} {root : PhysicalAddress} {before after : FlatMemory config}
      (fresh : ∀ number, before.page? child number = none)
      (pages : after.page? = fun probe number =>
        if probe = child then before.page? parent number else before.page? probe number)
      (runs : ∀ id, before.runs id ≤ after.runs id) :
    Performs (.fork parent) (.ok (.space child root)) before after
  | unforked {parent : SpaceKey} {error : VmError} {before after : FlatMemory config}
      (idles : before.Idles after) : Performs (.fork parent) (.error error) before after
  /-- Pages of the model appear in the other space where there was nothing. -/
  | copied {child parent : SpaceKey} {before after : FlatMemory config}
      (vacant : ∀ number, (before.page? parent number).isSome → before.page? child number = none)
      (pages : after.page? = fun probe number =>
        if probe = child then (before.page? parent number).or (before.page? child number)
        else before.page? probe number)
      (runs : ∀ id, before.runs id ≤ after.runs id) :
    Performs (.copy child parent) (.ok .done) before after
  | uncopied {child parent : SpaceKey} {error : VmError} {before after : FlatMemory config}
      (pages : ∀ probe number, after.page? probe number = before.page? probe number ∨
        probe = child ∧ before.page? child number = none)
      (runs : ∀ id, before.runs id ≤ after.runs id) :
    Performs (.copy child parent) (.error error) before after

/-- A sequence of operations on a memory that was empty at first, with how each of them ended. -/
inductive Run : OperationLog config → FlatMemory config → Prop where
  | nil : Run [] empty
  | step {log : OperationLog config} {operation : Operation config}
      {result : Except VmError Answer} {before after : FlatMemory config}
      (prior : Run log before) (performs : Performs operation result before after) :
    Run (log ++ [(operation, result)]) after

end FlatMemory

end DemandPaging

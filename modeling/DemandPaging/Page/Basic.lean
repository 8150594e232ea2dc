import DemandPaging.Page.Initializer

/-!
# Pages

A page is registered long before it has content. Until it is first loaded it only knows what it
will become; from then on it is an anonymous page, whose content lives in a frame, in a swap slot,
or nowhere while it is all zeros, or a file page, whose content lives in a frame or in its file.
-/

namespace DemandPaging

/-- Where the content of a file page comes from: `readBytes` bytes of the file from `offset` on,
then `zeroBytes` zeros. -/
structure FileBacking (config : Config) where
  handle : FileHandle
  offset : Word
  readBytes : Nat
  zeroBytes : Nat
  coversPage : readBytes + zeroBytes = config.pageSize

namespace FileBacking

/-- The backing with the given split of the page, if that split covers the page. -/
def ofSplit (config : Config) (handle : FileHandle) (offset readBytes zeroBytes : Word) :
    Except VmError (FileBacking config) :=
  if coversPage : readBytes.toNat + zeroBytes.toNat = config.pageSize then
    .ok { handle, offset, readBytes := readBytes.toNat, zeroBytes := zeroBytes.toNat, coversPage }
  else .error .invalidArgument

/-- The backing of a page that lies at `offset` of a file: as much of the file as there is, then
zeros. -/
def ofFileLength (config : Config) (handle : FileHandle) (offset : Word) (fileLength : Nat) :
    FileBacking config where
  handle := handle
  offset := offset
  readBytes := min config.pageSize (fileLength - offset.toNat)
  zeroBytes := config.pageSize - min config.pageSize (fileLength - offset.toNat)
  coversPage := Nat.add_sub_cancel' (Nat.min_le_left _ _)

/-- The users of a handle that its opener shares with one page and a number of copies of it. -/
def usersWithCopies (copies : Nat) : Nat := 1 + 1 + copies

/-- How messages describe the backing. -/
def text {config : Config} (backing : FileBacking config) : String :=
  "FilePage \x7b file: \"<dyn MmFile>\", offset: " ++ toString backing.offset.toNat ++
    ", read_bytes: " ++ toString backing.readBytes ++
    ", zero_bytes: " ++ toString backing.zeroBytes ++ " \x7d"

end FileBacking

/-- What a page will be once it is loaded. -/
inductive PageTarget (config : Config) where
  /-- An anonymous page, zero at first. -/
  | anonymous
  /-- A file page. -/
  | file (backing : FileBacking config)

/-- What a page is. -/
inductive PageKind (config : Config) where
  /-- The page has never been loaded. -/
  | unloaded (target : PageTarget config) (initializer : Option (Initializer config))
  /-- An anonymous page; while it is not resident its content may be in a swap slot. -/
  | anonymous (slot : Option SwapSlot)
  /-- A file page. -/
  | file (backing : FileBacking config)

/-- What a registered page is, or will be. -/
inductive PageType where
  | unloadedAnonymous
  | unloadedFile
  | anonymous
  | file
deriving DecidableEq

/-- Everything the kernel knows about a page of user memory. -/
structure Page (config : Config) where
  number : PageNumber
  writable : Bool
  kind : PageKind config
  /-- The frame that holds the page while it is resident. -/
  frame : Option FrameNumber := none

namespace PageTarget

variable {config : Config}

/-- How messages describe the target. -/
def text : PageTarget config → String
  | .anonymous => "Anon"
  | .file backing => "File(" ++ backing.text ++ ")"

/-- The file a page will be loaded from. -/
def backing? : PageTarget config → Option (FileBacking config)
  | .anonymous => none
  | .file backing => some backing

end PageTarget

namespace PageKind

variable {config : Config}

/-- The type of a page of this kind. -/
def type : PageKind config → PageType
  | .unloaded .anonymous _ => .unloadedAnonymous
  | .unloaded (.file _) _ => .unloadedFile
  | .anonymous _ => .anonymous
  | .file _ => .file

/-- The file that a page of this kind is, or will be, loaded from. -/
def backing? : PageKind config → Option (FileBacking config)
  | .unloaded target _ => target.backing?
  | .anonymous _ => none
  | .file backing => some backing

/-- The swap slot that holds the content of a page of this kind. -/
def slot? : PageKind config → Option SwapSlot
  | .anonymous slot => slot
  | _ => none

/-- The kind of the copy of a page that a new address space gets. A pending initializer is
shared; the content of an anonymous page is copied separately. -/
def forked : PageKind config → PageKind config
  | .anonymous _ => .anonymous none
  | kind => kind

/-- How messages describe the kind. -/
def text : PageKind config → String
  | .unloaded target initializer =>
    "Uninit(UninitPage \x7b target: " ++ target.text ++ ", init: " ++
      (if initializer.isSome then "Some(\"<initializer>\")" else "None") ++ " \x7d)"
  | .anonymous slot =>
    "Anon(AnonPage \x7b slot: " ++
      (match slot with
        | some slot => "Some(SwapSlot(" ++ toString slot.index ++ "))"
        | none => "None") ++ " \x7d)"
  | .file backing => "File(" ++ backing.text ++ ")"

end PageKind

namespace Page

variable {config : Config}

/-- A page that waits to be loaded. -/
def awaiting (number : PageNumber) (writable : Bool) (target : PageTarget config)
    (initializer : Option (Initializer config)) : Page config where
  number := number
  writable := writable
  kind := .unloaded target initializer

/-- Whether the page holds a frame. -/
def isResident (page : Page config) : Bool := page.frame.isSome

/-- Whether the page is, or will be, loaded through a file handle. -/
def uses (page : Page config) (handle : FileHandle) : Bool :=
  match page.kind.backing? with
  | some backing => backing.handle == handle
  | none => false

/-- The page as a new address space gets it, without a frame. -/
def forked (page : Page config) : Page config :=
  { page with kind := page.kind.forked, frame := none }

/-- How messages describe the page. -/
def text (page : Page config) : String :=
  "Page \x7b vpn: " ++ page.number.text ++ ", writable: " ++ toString page.writable ++
    ", kind: " ++ page.kind.text ++ ", frame: " ++
    Panic.frameText (page.frame.map (FrameNumber.address · config)) ++ " \x7d"

end Page

end DemandPaging

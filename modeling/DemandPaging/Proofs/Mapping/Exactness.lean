import Mathlib.Algebra.BigOperators.Group.Finset.Basic
import DemandPaging.Proofs.Run

/-!
# What exactly a mapping adds

A request for a mapping is granted exactly when it meets the conditions of `Machine.Mappable`, and
no arithmetic on the way overflows. A mapping that is established adds its pages to the page map and
its record to the records of the space, opens one handle, and does nothing else.
-/

namespace DemandPaging

variable {config : Config}

/-! ## No overflow and no panic -/

namespace KernelAction

variable {key : SpaceKey}

/-- Registering a page needs no frame. -/
theorem makesNoRoom_insertPage (page : Page config) : (insertPage key page).MakesNoRoom := by
  refine .bind (.view _) fun space => ?_
  cases space.insertPage page with
  | ok grown => exact .change _
  | error error => exact .fail error

/-- Registering the pages of a mapping needs no frame, for none of them is loaded. -/
theorem makesNoRoom_registerPages (address : VirtualAddress) (plan : MappingPlan)
    (remaining : Nat) : ∀ index,
    (registerPages key address plan index remaining : KernelAction config _).MakesNoRoom := by
  induction remaining with
  | zero => exact fun index => .pure ()
  | succ remaining inductionHypothesis =>
    intro index
    refine .bind (.exactly _) fun page => ?_
    refine .bind (.attempt (makesNoRoom_insertPage page)) fun inserted => ?_
    cases inserted with
    | ok => exact inductionHypothesis (index + 1)
    | error error => exact .bind (.change _) fun _ => .bind (.change _) fun _ => .fail error

theorem makesNoRoom_reopen (handle : FileHandle) :
    (EnvironmentAction.reopen handle : EnvironmentAction config _).MakesNoRoom := by
  refine .bind .current fun environment => ?_
  dsimp only
  cases (environment.fileSwitches handle.file).reopen with
  | some code => exact .fail _
  | none => exact .bind (.change _) fun _ => .pure _

theorem makesNoRoom_fileLength (handle : FileHandle) :
    (EnvironmentAction.fileLength handle : EnvironmentAction config _).MakesNoRoom := by
  refine .bind (.bind .current fun environment => ?_) fun _ => .bind .current fun _ => .pure _
  cases (environment.fileSwitches handle.file).inode with
  | some code => exact .fail _
  | none => exact .pure ()

/-- Mapping a file needs no frame. -/
theorem makesNoRoom_mapFile (address : VirtualAddress) (length : Word) (writable : Bool)
    (file : FileHandle) (offset : Word) :
    (mapFile key address length writable file offset : KernelAction config _).MakesNoRoom := by
  refine .bind (.require _ _) fun _ => .bind (.require _ _) fun _ => ?_
  refine .bind (.orFail _ _) fun stop => .bind (.require _ _) fun _ => ?_
  refine .bind (.exactly _) fun span => .bind (.orFail _ _) fun _ => ?_
  refine .bind (.zoom (makesNoRoom_reopen file)) fun handle => ?_
  refine .bind (.zoom (makesNoRoom_fileLength handle)) fun fileLength => ?_
  refine .bind (.exactly _) fun range => ?_
  refine .bind (makesNoRoom_registerPages address _ _ 0) fun _ => ?_
  exact .bind (.change _) fun _ => .pure address

/-- Mapping a file never stops the kernel: no arithmetic overflows, and no room is made. -/
theorem mapFile_ne_panicked {machine : Machine config}
    (spaceExists : (machine.spaces.get? key).isSome) (address : VirtualAddress) (length : Word)
    (writable : Bool) (file : FileHandle) (offset : Word)
    (panic : Panic) (later : Machine config) :
    mapFile key address length writable file offset machine ≠ .panicked panic later := by
  intro stopped
  have ends := mapFile_decides spaceExists address length writable file offset
  exact makesNoRoom_mapFile address length writable file offset machine panic later stopped
    ((Action.ends_iff.mp ends).2.2 panic later stopped)

end KernelAction

/-! ## The pages of a mapping -/

namespace FileBacking

/-- As much of the file as there is and zeros behind it make up a page, so the check of the split
does not fail. -/
theorem ofSplit_ofFileLength (handle : FileHandle) (offset : Word) (fileLength : Nat) :
    let backing := ofFileLength config handle offset fileLength
    ofSplit config handle offset (UInt64.ofNat backing.readBytes)
      (UInt64.ofNat backing.zeroBytes) = .ok backing := by
  intro backing
  have narrow := config.pageSize_lt_modulus
  have covers := backing.coversPage
  have read : (UInt64.ofNat backing.readBytes).toNat = backing.readBytes :=
    Word.toNat_ofNat_of_lt (by omega)
  have zero : (UInt64.ofNat backing.zeroBytes).toNat = backing.zeroBytes :=
    Word.toNat_ofNat_of_lt (by omega)
  rw [ofSplit, dif_pos (by rw [read, zero, covers])]
  congr 1
  simp only [read, zero]
  rfl

end FileBacking

/-- How much of a page comes from a file. -/
def Page.fileBytes (page : Page config) : Nat :=
  page.kind.backing?.elim 0 FileBacking.readBytes

/-- The page at an index of a mapping of a file: never loaded yet, without an initializer, and with
its own part of the file. -/
structure Page.IsMapped (page : Page config) (plan : MappingPlan) (index : Nat)
    (backing : FileBacking config) : Prop where
  page : page = Page.awaiting (plan.start.advance index) plan.writable (.file backing) none
  handle : backing.handle = plan.handle
  offset : backing.offset.toNat = plan.offset.toNat + index * config.pageSize
  readBytes : backing.readBytes =
    min config.pageSize (plan.fileLength - (plan.offset.toNat + index * config.pageSize))
  zeroBytes : backing.zeroBytes = config.pageSize - backing.readBytes
  /-- The split of the page passes the check that is made on it. -/
  checked : FileBacking.ofSplit config backing.handle backing.offset
    (UInt64.ofNat backing.readBytes) (UInt64.ofNat backing.zeroBytes) = .ok backing

namespace MappingPlan

variable {plan : MappingPlan} {count : Nat}

/-- A page of a mapping that fits has its own part of the file and has never been loaded. -/
theorem Fits.isMapped (fits : plan.Fits config count) {index : Nat} (inside : index < count) :
    (plan.pageAt config index).IsMapped plan index (FileBacking.ofFileLength config plan.handle
      (plan.offset + UInt64.ofNat index * config.pageSizeWord) plan.fileLength) where
  page := rfl
  handle := rfl
  offset := fits.toNat_offset inside
  readBytes := by rw [← fits.toNat_offset inside]; rfl
  zeroBytes := rfl
  checked := FileBacking.ofSplit_ofFileLength ..

/-- The pages of a mapping divide the rest of the file among them. -/
theorem Fits.sum_fileBytes (fits : plan.Fits config count) :
    ∑ index ∈ Finset.range count, (plan.pageAt config index).fileBytes =
      min (count * config.pageSize) (plan.fileLength - plan.offset.toNat) := by
  induction count with
  | zero => simp
  | succ count inductionHypothesis =>
    have last : (plan.pageAt config count).fileBytes =
        min config.pageSize (plan.fileLength - (plan.offset.toNat + count * config.pageSize)) :=
      (fits.isMapped (Nat.lt_succ_self count)).readBytes
    rw [Finset.sum_range_succ, inductionHypothesis (fits.mono (Nat.le_succ count)), last,
      Nat.succ_mul]
    omega

/-- Registering the pages of a mapping where there were none adds so many pages. -/
theorem Fits.size_registerIn (fits : plan.Fits config count) {space : Space config}
    (vacant : ∀ index < count, space.pages.get? (plan.start.advance index) = none) :
    (plan.registerIn space count).pages.size = space.pages.size + count := by
  induction count with
  | zero => rfl
  | succ count inductionHypothesis =>
    have wide := fits.pages
    have apart : ∀ index < count, plan.start.advance count ≠ plan.start.advance index := by
      intro index inside same
      have equal := PageNumber.advance_injective (by omega) (by omega) same
      omega
    have absent : (plan.registerIn space count).pages.get? (plan.pageAt config count).number =
        none := (get?_registerIn_of_ne space apart).trans (vacant count (Nat.lt_succ_self count))
    rw [registerIn, Space.pages_setPage, OrderedMap.size_insert absent,
      inductionHypothesis (fits.mono (Nat.le_succ count)) fun index inside =>
        vacant index (Nat.lt_succ_of_lt inside)]
    rfl

end MappingPlan

/-! ## What is added -/

/-- A machine to which exactly a mapping of `count` pages of a file has been added. -/
structure Machine.AddsMapping (key : SpaceKey) (plan : MappingPlan) (count : Nat)
    (file : FileHandle) (machine later : Machine config) : Prop where
  /-- The handle that all pages share comes from reopening the file, and that is all that happens to
  the environment. -/
  opens : EnvironmentAction.reopen file machine.environment =
    .done plan.handle later.environment
  counts : (machine.environment.files.get? file.file).isSome →
    (later.environment.file file.file).reopens = (machine.environment.file file.file).reopens + 1
  /-- No byte of a file is read or written, and neither contents nor any other count has changed. -/
  files : ∀ other,
    (later.environment.file other).unopened = (machine.environment.file other).unopened
  swap : later.environment.swap = machine.environment.swap
  runs : later.environment.runs = machine.environment.runs
  history : later.environment.history = machine.environment.history
  /-- The pages of the mapping are registered. -/
  planned : ∀ index < count, ∃ page backing,
    later.page? key (plan.start.advance index) = some page ∧ page.IsMapped plan index backing
  /-- All other pages of the space are as they were, so it has gained so many pages. -/
  others : ∀ number, (∀ index < count, number ≠ plan.start.advance index) →
    later.page? key number = machine.page? key number
  gains : (later.space key).pages.size = (machine.space key).pages.size + count
  /-- Each page has its own number and begins in user memory. -/
  numbers : ∀ index < count,
    (plan.start.advance index).word.toNat = plan.start.word.toNat + index ∧
      (plan.start.advance index).word.toNat * config.pageSize < config.userEnd.toNat
  /-- The pages divide the file from the offset on among them. -/
  total : ∑ index ∈ Finset.range count,
      (later.page? key (plan.start.advance index)).elim 0 Page.fileBytes =
    min (count * config.pageSize) (plan.fileLength - plan.offset.toNat)
  /-- The mapping is recorded. -/
  recorded : ∃ range : PageRange, range.start = plan.start ∧ range.length.toNat = count ∧
    (later.space key).regions = (machine.space key).regions.insert plan.start
      { range := range, handle := plan.handle, offset := plan.offset }
  /-- Nothing else of the space has changed, no other space, no frame and no page table. -/
  space : later.space key = { machine.space key with
    pages := (later.space key).pages
    regions := (later.space key).regions }
  spaces : ∀ probe, probe ≠ key → later.spaces.get? probe = machine.spaces.get? probe
  machine : later = { machine with
    spaces := later.spaces
    environment := later.environment }

namespace Machine

variable {machine later : Machine config} {key : SpaceKey} {address : VirtualAddress}
  {length offset : Word}

/-- A change of one space leaves the others as they were. -/
theorem get?_updateSpace_of_ne {probe : SpaceKey} (elsewhere : probe ≠ key)
    {change : Space config → Space config} :
    (machine.updateSpace key change).spaces.get? probe = machine.spaces.get? probe := by
  unfold updateSpace
  rw [OrderedMap.get?_modify_eq, if_neg elsewhere]

/-- A granted mapping lies in user memory. -/
theorem Mappable.page_lt {file : FileId}
    (mappable : machine.Mappable key address length file offset) {index : Nat}
    (inside : index < config.pagesFor length) :
    ((address.page config).word.toNat + index) * config.pageSize < config.userEnd.toNat := by
  have size := config.pageSize_pos
  have start : (address.page config).word.toNat * config.pageSize = address.word.toNat := by
    rw [VirtualAddress.toNat_page]
    exact Nat.div_mul_cancel (Nat.dvd_of_mod_eq_zero mappable.aligned)
  have below := (Nat.lt_div_iff_mul_lt size).mp inside
  have bounded := mappable.bounded
  rw [Nat.add_mul, start]
  omega

/-- What a proper request for a mapping adds to the machine, from the steps in which the mapping is
made. -/
theorem MapsFile.addsMapping {file : FileHandle} {writable : Bool} {range : PageRange}
    (maps : MapsFile key (machine.mappingPlan address writable file.file offset) range machine
      later) (mappable : machine.Mappable key address length file.file offset)
    (counted : range.length.toNat = config.pagesFor length)
    (spaceExists : (machine.spaces.get? key).isSome) :
    AddsMapping key (machine.mappingPlan address writable file.file offset)
      (config.pagesFor length) file machine later := by
  let plan := machine.mappingPlan address writable file.file offset
  have fits : plan.Fits config (config.pagesFor length) := counted ▸ maps.fits
  have environment : later.environment = (machine.reopened plan.handle).environment := by
    rw [maps.maps]
    rfl
  have same := sameButOpenings_reopened machine plan.handle
  have planned : ∀ index < config.pagesFor length,
      later.page? key (plan.start.advance index) = some (plan.pageAt config index) :=
    fun index inside => maps.page?_planned spaceExists (counted ▸ inside)
  have own := maps.space_eq spaceExists key
  rw [if_pos rfl] at own
  exact {
    opens := by
      unfold EnvironmentAction.reopen
      rw [environment]
      simp only [Action.bind_apply, Action.current_apply, mappable.reopens, Action.change_apply]
      rfl
    counts := fun known => by
      obtain ⟨contents, found⟩ := Option.isSome_iff_exists.mp known
      rw [environment, reopened, Environment.file_setFile, if_pos ⟨rfl, known⟩]
      rfl
    files := fun other => by rw [environment]; exact same.file other
    swap := by rw [environment]; rfl
    runs := by rw [environment]; rfl
    history := by rw [environment]; rfl
    planned := fun index inside => ⟨_, _, planned index inside, fits.isMapped inside⟩
    others := fun number elsewhere =>
      maps.page?_other spaceExists fun _ index inside => elsewhere index (counted ▸ inside)
    gains := by
      rw [own, ← counted]
      exact maps.fits.size_registerIn maps.vacant
    numbers := fun index inside => by
      have small : plan.start.word.toNat + index < Word.modulus :=
        Nat.lt_trans (Nat.add_lt_add_left inside _) fits.pages
      have exact := PageNumber.toNat_advance small
      exact ⟨exact, exact ▸ mappable.page_lt inside⟩
    total := by
      rw [← fits.sum_fileBytes]
      refine Finset.sum_congr rfl fun index inside => ?_
      rw [planned index (Finset.mem_range.mp inside)]
      rfl
    recorded := ⟨range, maps.starts, counted, by rw [own]⟩
    space := by rw [own, MappingPlan.registerIn_eq]
    spaces := fun probe elsewhere => by
      rw [maps.maps, get?_updateSpace_of_ne elsewhere, withPages, get?_updateSpace_of_ne elsewhere]
      rfl
    machine := by rw [maps.maps]; rfl }

end Machine

namespace KernelAction

open Machine

/-- A mapping is granted exactly when the request meets all conditions, it never stops the kernel,
and then exactly the pages of the mapping, its record and one handle are added. -/
theorem mapFile_exact {machine : Machine config} {key : SpaceKey}
    (spaceExists : (machine.spaces.get? key).isSome) (address : VirtualAddress) (length : Word)
    (writable : Bool) (file : FileHandle) (offset : Word) :
    ((∃ later, mapFile key address length writable file offset machine = .done address later) ↔
      machine.Mappable key address length file.file offset) ∧
    (∀ panic later,
      mapFile key address length writable file offset machine ≠ .panicked panic later) ∧
    ∀ result later, mapFile key address length writable file offset machine = .done result later →
      result = address ∧ AddsMapping key (machine.mappingPlan address writable file.file offset)
        (config.pagesFor length) file machine later := by
  have ends := mapFile_decides spaceExists address length writable file offset
  have panics := mapFile_ne_panicked spaceExists address length writable file offset
  refine ⟨⟨?_, fun mappable => ?_⟩, panics, ?_⟩
  · rintro ⟨later, done⟩
    exact (ends.of_done done).2.1
  · cases outcome : mapFile key address length writable file offset machine with
    | done result later => exact ⟨later, by rw [(ends.of_done outcome).1]⟩
    | failed error later => exact absurd mappable (ends.of_failed outcome).not_mappable
    | panicked panic later => exact absurd outcome (panics panic later)
  · intro result later done
    obtain ⟨rfl, mappable, range, maps, counted⟩ := ends.of_done done
    refine ⟨rfl, maps.addsMapping mappable ?_ spaceExists⟩
    rw [counted, config.toNat_ceilingDiv]

instance (address : VirtualAddress) (length offset : Word) :
    Decidable (IsSound config address length offset) :=
  decidable_of_iff (address.word.toNat ≠ 0 ∧ address.word.toNat % config.pageSize = 0 ∧
      length.toNat ≠ 0 ∧ offset.toNat % config.pageSize = 0 ∧
      address.word.toNat + length.toNat ≤ config.userEnd.toNat ∧
      offset.toNat + (config.pagesFor length - 1) * config.pageSize < Word.modulus)
    ⟨fun ⟨placed, aligned, sized, offsetAligned, bounded, inFile⟩ =>
      ⟨placed, aligned, sized, offsetAligned, bounded, inFile⟩,
    fun ⟨placed, aligned, sized, offsetAligned, bounded, inFile⟩ =>
      ⟨placed, aligned, sized, offsetAligned, bounded, inFile⟩⟩

instance (machine : Machine config) (key : SpaceKey) (address : VirtualAddress) (length : Word)
    (file : FileId) (offset : Word) :
    Decidable (machine.Mappable key address length file offset) :=
  decidable_of_iff (IsSound config address length offset ∧
      (machine.environment.fileSwitches file).reopen = none ∧
      (machine.environment.fileSwitches file).inode = none ∧
      ∀ index < config.pagesFor length,
        machine.page? key ((address.page config).advance index) = none)
    ⟨fun ⟨sound, reopens, reached, vacant⟩ => ⟨sound, reopens, reached, vacant⟩,
    fun ⟨sound, reopens, reached, vacant⟩ => ⟨sound, reopens, reached, vacant⟩⟩

/-- Two pages that reach the end of user memory exactly: the file ends inside the first of them, so
the second holds zeros only. -/
theorem mapFile_exact_at_limit : ∃ log machine later,
    performAll [.create .main, .createFile #[10, 11, 12, 13, 14, 15],
      .request ⟨.main, ⟨1⟩⟩ (.allocate .anonymous ⟨116⟩ true none)] (.boot .small 3 8) =
        some (log, machine) ∧
    mapFile ⟨.main, ⟨1⟩⟩ ⟨120⟩ 8 true ⟨⟨0⟩, 0⟩ 4 machine = .done ⟨120⟩ later ∧
    AddsMapping ⟨.main, ⟨1⟩⟩ (machine.mappingPlan ⟨120⟩ true ⟨0⟩ 4) 2 ⟨⟨0⟩, 0⟩ machine later := by
  have performed : ((performAll [.create .main, .createFile #[10, 11, 12, 13, 14, 15],
      .request ⟨.main, ⟨1⟩⟩ (.allocate .anonymous ⟨116⟩ true none)] (.boot .small 3 8)).any
      fun (_, machine) => (machine.spaces.get? ⟨.main, ⟨1⟩⟩).isSome ∧
        machine.Mappable ⟨.main, ⟨1⟩⟩ ⟨120⟩ 8 ⟨0⟩ 4) = true := by
    decide +kernel
  obtain ⟨⟨log, machine⟩, outcome, ready⟩ := (Option.any_eq_true _ _).mp performed
  obtain ⟨spaceExists, mappable⟩ := of_decide_eq_true ready
  obtain ⟨granted, -, adds⟩ := mapFile_exact spaceExists ⟨120⟩ 8 true ⟨⟨0⟩, 0⟩ 4
  obtain ⟨later, done⟩ := granted.mpr mappable
  exact ⟨log, machine, later, outcome, done, (adds _ later done).2⟩

end KernelAction

end DemandPaging

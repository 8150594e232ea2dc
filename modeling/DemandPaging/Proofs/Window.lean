import DemandPaging.Proofs.Window.Conduct
import DemandPaging.Proofs.WriteBack

/-!
# File mappings are windows

A mapping that can be written to is a window on its file. `FileWindow.Follows` says what a program sees
through a window: copies to the mapping change what is shown, copies from it deliver what is shown, and
nothing else makes a difference. In every run in which nothing else gets at the file and no transfer of
it fails, the answers are those, however often pages are evicted and loaded again, and once the mapping
or its space is removed the file holds what was shown.
-/

namespace DemandPaging

variable {config : Config}

open Machine

namespace FileWindow

variable (window : FileWindow config)

/-- How an operation is answered through a window that shows `content`, and what the window shows
afterwards. Copies that stay within the window and within user memory succeed. -/
def Answers (content content' : Nat → UInt8) (result : Except VmError Answer) :
    Operation config → Prop
  | .request key (.read address buffer) => content' = content ∧ (key = window.space →
    ∃ filled status, result = .ok (.filled filled status) ∧
      window.Delivers content address buffer.size filled status ∧
        (address.isNameable config = true → window.Spans address.word.toNat buffer.size →
          status = .ok ()))
  | .request key (.write address bytes) =>
    if key = window.space then
      ∃ status reached, result = Except.map (fun _ => .done) status ∧ reached ≤ bytes.size ∧
        StopsAt config address bytes.size reached status ∧
          content' = window.written address.word.toNat bytes reached content ∧
            (address.isNameable config = true → window.Spans address.word.toNat bytes.size →
              status = .ok ())
    else content' = content
  | _ => content' = content

/-- The operations of a log are answered as through a window that shows `original` at first, and the
given content at last. -/
inductive Follows (original : Nat → UInt8) : OperationLog config → (Nat → UInt8) → Prop where
  | nil : Follows original [] original
  | step {log : OperationLog config} {content content' : Nat → UInt8} {operation : Operation config}
      {result : Except VmError Answer} (prior : Follows original log content)
      (answers : window.Answers content content' result operation) :
    Follows original (log ++ [(operation, result)]) content'

/-- The window is open and has its record, and the machine is one that runs lead to. -/
structure Intact (content : Nat → UInt8) (machine : Machine config) : Prop where
  atRest : machine.AtRest
  opened : machine.RecordsOpened
  stands : window.Stands content machine
  recorded : window.IsRecorded machine

variable {window} {machine later : Machine config} {content content' original : Nat → UInt8}
  {operation : Operation config} {result : Except VmError Answer} {log : OperationLog config}

/-- At positions of the file that the window does not show, no operation changes its content. -/
theorem Answers.eq_of_not_shows (answers : window.Answers content content' result operation)
    {position : Nat} (hidden : ¬ window.Shows position) : content' position = content position := by
  cases operation with
  | request key asked =>
    cases asked with
    | read => exact congrFun answers.1 position
    | write =>
      rw [Answers] at answers
      split at answers
      · obtain ⟨_, _, _, _, _, rfl, _⟩ := answers
        exact if_neg fun within => hidden within.1
      · exact congrFun answers position
    | _ => exact congrFun answers position
  | _ => exact congrFun answers position

/-- Only what the window shows changes. -/
theorem Follows.eq_of_not_shows (follows : window.Follows original log content) {position : Nat}
    (hidden : ¬ window.Shows position) : content position = original position := by
  induction follows with
  | nil => rfl
  | step _ answers inductionHypothesis =>
    exact (answers.eq_of_not_shows hidden).trans inductionHypothesis

end FileWindow

/-! ## Operations on an open window -/

/-- What holds however a request of a space that exists ends, holds of its result. -/
theorem Operation.Yields.of_request {key : SpaceKey} {asked : SpaceRequest config}
    {machine later : Machine config} {result : Except VmError Answer}
    (yields : (Operation.request key asked).Yields machine result later)
    (spaceExists : (machine.spaces.get? key).isSome)
    {holds : Except VmError Answer → Machine config → Prop}
    (ends : (asked.perform key).Ends machine (fun answer => holds (.ok answer))
      (fun error => holds (.error error))) : holds result later := by
  unfold Operation.Yields at yields
  rw [Operation.perform, KernelAction.withSpace_apply spaceExists] at yields
  cases result with
  | ok answer => exact ends.of_done yields
  | error error => exact ends.of_failed yields

namespace FileWindow

open KernelAction

variable {window : FileWindow config} {machine later : Machine config}
  {content content' original : Nat → UInt8} {operation : Operation config}
  {result : Except VmError Answer} {log : OperationLog config}

/-- The space of an open window exists. -/
theorem Stands.spaceExists (stands : window.Stands content machine) :
    (machine.spaces.get? window.space).isSome := by
  obtain ⟨page, found⟩ := Option.isSome_iff_exists.mp stands.isOpen.exists_page
  exact isSome_of_page? found

/-- A copy from the space of a window delivers what the window shows. -/
theorem Stands.read_answers {address : VirtualAddress} {buffer : Bytes}
    (stands : window.Stands content machine) (atRest : machine.AtRest)
    (yields : (Operation.request window.space (.read address buffer)).Yields machine result later) :
    window.Answers content content result (.request window.space (.read address buffer)) := by
  refine ⟨rfl, fun _ => ?_⟩
  apply yields.of_request stands.spaceExists
  show (copyFromUser window.space address buffer >>= fun answered =>
    pure (Answer.filled answered.1 answered.2)).Ends _ _ _
  rw [Action.ends_bind]
  have reads : (copyFromUser window.space address buffer).Ends machine _ _ :=
    copyFromUser_ends atRest stands.spaceExists buffer
  by_cases within : address.isNameable config = true ∧ window.Spans address.word.toNat buffer.size
  · apply (reads.and (copyFromUser_completes stands atRest within.1 within.2)).mono
    · rintro answered last ⟨reads, completes⟩
      exact ⟨_, _, rfl, (stands.of_copyFromUser reads atRest).2, fun _ _ => completes⟩
    · exact fun _ _ both => both.2.elim
  · apply reads.mono
    · rintro answered last reads
      exact ⟨_, _, rfl, (stands.of_copyFromUser reads atRest).2,
        fun nameable spans => absurd ⟨nameable, spans⟩ within⟩
    · exact fun _ _ => False.elim

/-- A copy to the space of a window changes what the window shows. -/
theorem Stands.write_answers {address : VirtualAddress} {bytes : Bytes}
    (stands : window.Stands content machine) (atRest : machine.AtRest)
    (yields : (Operation.request window.space (.write address bytes)).Yields machine result later) :
    ∃ content', window.Answers content content' result
      (.request window.space (.write address bytes)) ∧ window.Reflects content' later := by
  apply yields.of_request stands.spaceExists
  show (copyToUser window.space address bytes >>= fun _ => pure Answer.done).Ends _ _ _
  rw [Action.ends_bind]
  have written : ∀ (status : Except VmError Unit) (last : Machine config),
      WritesChunks window.space address bytes
        (Chunk.ofCopy config (address.pageOffset config).toNat bytes.size) machine status last →
      (address.isNameable config = true → window.Spans address.word.toNat bytes.size →
        status = .ok ()) →
      ∃ content', window.Answers content content' (Except.map (fun _ => .done) status)
        (.request window.space (.write address bytes)) ∧ window.Reflects content' last := by
    intro status last writes completes
    obtain ⟨reached, within, stops, standing⟩ := stands.of_copyToUser writes atRest
    refine ⟨_, ?_, standing.reflects⟩
    rw [Answers, if_pos rfl]
    exact ⟨status, reached, rfl, within, stops, rfl, completes⟩
  have writes : (copyToUser window.space address bytes).Ends machine _ _ :=
    copyToUser_ends atRest stands.spaceExists bytes
  by_cases within : address.isNameable config = true ∧ window.Spans address.word.toNat bytes.size
  · apply (writes.and (copyToUser_completes stands atRest within.1 within.2)).mono
    · exact fun _ last both => written (.ok ()) last both.1 fun _ _ => rfl
    · exact fun _ _ both => both.2.elim
  · apply writes.mono
    · exact fun _ last writes => written (.ok ()) last writes fun _ _ => rfl
    · exact fun error last writes => written (.error error) last writes
        fun nameable spans => absurd ⟨nameable, spans⟩ within

/-- An operation that is admitted is answered through the window, and leaves the window intact. -/
theorem Intact.step (intact : window.Intact content machine)
    (permitted : operation.IsPermitted machine) (admits : window.Admits machine operation)
    (yields : operation.Yields machine result later) :
    ∃ content', window.Answers content content' result operation ∧
      window.Intact content' later := by
  have performs := yields.performs intact.atRest permitted
  have stays : ∀ {content' : Nat → UInt8}, window.Reflects content' later →
      window.Intact content' later := fun reflects =>
    { atRest := performs.passes intact.atRest |>.atRest
      opened := yields.recordsOpened intact.atRest permitted intact.opened
      stands := ⟨reflects,
        intact.stands.isOpen_of_performs performs intact.atRest admits intact.recorded⟩
      recorded := intact.recorded.of_yields yields intact.atRest permitted intact.opened admits
        intact.stands.isOpen }
  by_cases written : ∃ address bytes, operation = .request window.space (.write address bytes)
  · obtain ⟨address, bytes, rfl⟩ := written
    obtain ⟨content', answers, reflects⟩ := intact.stands.write_answers intact.atRest yields
    exact ⟨content', answers, stays reflects⟩
  · have reflects := intact.stands.reflects.of_performs performs intact.atRest admits
      fun address bytes same => written ⟨address, bytes, same⟩
    refine ⟨content, ?_, stays reflects⟩
    cases operation with
    | request key asked =>
      cases asked with
      | read =>
        by_cases here : key = window.space
        · subst here
          exact intact.stands.read_answers intact.atRest yields
        · exact ⟨rfl, fun same => absurd same here⟩
      | write address bytes =>
        have elsewhere : key ≠ window.space := by
          rintro rfl
          exact written ⟨address, bytes, rfl⟩
        rw [Answers, if_neg elsewhere]
      | _ => exact rfl
    | _ => exact rfl

/-- A run that does not interfere with a window is answered through the window. -/
theorem Intact.of_guardedRun (intact : window.Intact original machine)
    (guarded : GuardedRun window.Admits machine log later) :
    ∃ content, window.Follows original log content ∧ window.Intact content later := by
  induction guarded with
  | nil => exact ⟨original, .nil, intact⟩
  | step prior permitted admits yields inductionHypothesis =>
    obtain ⟨content, follows, intact⟩ := inductionHypothesis
    obtain ⟨content', answers, intact'⟩ := intact.step permitted admits yields
    exact ⟨content', follows.step answers, intact'⟩

/-! ## The end of a window -/

variable (window) in
/-- The file is as long as when it was mapped, and has the given bytes. -/
def Leaves (content : Nat → UInt8) (machine : Machine config) : Prop :=
  (machine.environment.file window.file).data.size = window.plan.fileLength ∧
    ∀ position, (machine.environment.file window.file).data.getD position 0 = content position

/-- Once all pages of the window are gone, the file holds what the window showed. -/
theorem Reflects.leaves (reflects : window.Reflects content machine)
    (closed : ∀ number page backing, ¬ window.Has machine number page backing) :
    window.Leaves content machine := by
  refine ⟨reflects.size, fun position => reflects.stored position fun number overlays => ?_⟩
  obtain ⟨page, backing, has, _⟩ := overlays
  exact closed number page backing has

/-- Dropping a space does a window no harm, for its pages save what they show. -/
theorem Tolerates.of_drops {transition : Transition config} {key : SpaceKey}
    (drops : transition.Drops key) : window.Tolerates machine transition := by
  rcases drops with (discards | rfl) | rfl
  · cases transition <;> first | exact trivial | exact discards.elim
  · exact trivial
  · exact trivial

/-- Every page of a window can be saved, whenever its turn is. -/
theorem Reflects.loss?_eq_none (reflects : window.Reflects content machine) {turn : Turn}
    {page : Page config} {backing : FileBacking config}
    (has : window.Has machine turn.page page backing) : machine.loss? window.space turn = none := by
  apply loss?_of_harmless has.found has.uses
  rw [has.holds.handle_eq]
  exact reflects.harmless

/-- Removing the mapping succeeds, and leaves in the file what the window showed. -/
theorem Intact.unmap (intact : window.Intact content machine) {address : VirtualAddress}
    (aligned : address.isPageAligned config = true)
    (placed : address.page config = window.plan.start) :
    ∃ later, (Operation.request window.space (.unmap address)).Yields machine (.ok .done) later ∧
      window.Leaves content later := by
  have atRest := intact.atRest
  have fits := atRest.consistent.fits
  obtain ⟨region, found, ours, covers⟩ := intact.recorded.recorded
  have recorded : (machine.space window.space).regions.get? (address.page config) = some region :=
    placed ▸ found
  have savable : ∀ turn ∈ machine.turns window.space (machine.ownedBy window.space region),
      machine.loss? window.space turn = none := by
    intro turn listed
    obtain ⟨page, known, owned⟩ :=
      (Option.any_eq_true _ _).mp ((mem_ownedBy_iff fits).mp (mem_of_turn listed))
    rw [Region.owns, Page.uses, Bool.and_eq_true] at owned
    cases uses : page.kind.backing? with
    | none =>
      rw [uses] at owned
      cases owned.2
    | some backing =>
      rw [uses] at owned
      have handles : backing.handle = region.handle := beq_iff_eq.mp owned.2
      have has := (intact.stands.reflects.has known uses
        (congrArg FileHandle.file (handles.trans ours))).2
      exact intact.stands.reflects.loss?_eq_none has
  rcases atRest.reportsFailures.unmapped aligned recorded with ⟨⟨later, done⟩, _⟩ | ⟨_, lost⟩
  · have unmaps := (unmapFile_recorded_ends atRest aligned recorded).of_done done
    refine ⟨later, ?_, ?_⟩
    · exact (withSpace_apply intact.stands.spaceExists _).trans (Action.bind_of_done done)
    · have reflects : window.Reflects content later :=
        .of_path unmaps.path atRest.consistent intact.stands.reflects
          fun _ _ _ empties => .of_drops (.inl empties)
      apply reflects.leaves
      intro number page backing has
      obtain ⟨page', has', _⟩ := intact.stands.isOpen number backing has.holds
      have gone : later.page? window.space number = none := by
        rw [unmaps.page?_eq]
        exact if_pos ⟨rfl, (has'.owned_iff fits).mpr ⟨covers number has.holds.isPage, ours⟩⟩
      cases gone.symm.trans has.found
  · obtain ⟨turn, listed, unsaved⟩ := lost
    exact absurd (savable turn listed) unsaved

/-- So does dropping the space. -/
theorem Intact.drop (intact : window.Intact content machine) :
    ∃ later, (Operation.drop window.space).Yields machine (.ok .done) later ∧
      window.Leaves content later := by
  have atRest := intact.atRest
  have ends : (dropSpace window.space).Ends machine _ _ := dropSpace_ends atRest
  obtain ⟨_, later, done, drops, pages, _⟩ := ends.completes (makesNoRoom_dropSpace window.space)
  refine ⟨later, ?_, ?_⟩
  · exact (withSpace_apply intact.stands.spaceExists _).trans (Action.bind_of_done done)
  · have reflects : window.Reflects content later :=
      .of_path drops.path atRest.consistent intact.stands.reflects fun _ _ _ => .of_drops
    apply reflects.leaves
    intro number page backing has
    have gone : later.page? window.space number = none := by
      rw [pages]
      exact if_pos rfl
    cases gone.symm.trans has.found

end FileWindow

/-! ## The window of a mapping -/

namespace Machine

/-- Some page of some space is on a file. -/
def Uses (machine : Machine config) (file : FileId) : Prop :=
  ∃ key number handle, machine.handle? key number = some handle ∧ handle.file = file

variable {machine later : Machine config} {file : FileId}

/-- Whether a file is in use can be decided by going through the pages of all spaces. -/
theorem uses_iff : machine.Uses file ↔ ∃ space ∈ machine.spaces.values, ∃ page ∈ space.pages.values,
    ∃ backing ∈ page.kind.backing?, backing.handle.file = file := by
  constructor
  · rintro ⟨key, number, handle, known, same⟩
    obtain ⟨page, backing, found, uses, rfl⟩ := handle?_eq_some_iff.mp known
    obtain ⟨space, present, listed⟩ := exists_space_of_page? found
    refine ⟨space, OrderedMap.mem_values_iff.mpr ⟨key, present⟩, page, ?_, backing, uses, same⟩
    exact OrderedMap.mem_values_iff.mpr ⟨number, listed⟩
  · rintro ⟨space, isSpace, page, isPage, backing, uses, same⟩
    obtain ⟨key, present⟩ := OrderedMap.mem_values_iff.mp isSpace
    obtain ⟨number, listed⟩ := OrderedMap.mem_values_iff.mp isPage
    refine ⟨key, number, backing.handle, handle?_eq_some_iff.mpr ⟨page, backing, ?_, uses, rfl⟩, same⟩
    rw [page?, Machine.space, present]
    exact listed

instance (file : FileId) : Decidable (machine.Uses file) :=
  decidable_of_iff' _ uses_iff

end Machine

namespace FileWindow

open KernelAction

variable {window : FileWindow config} {machine later : Machine config} {range : PageRange}

/-- The window that a granted request for a mapping opens. -/
structure IsOpenedBy (window : FileWindow config) (machine : Machine config) (key : SpaceKey)
    (address : VirtualAddress) (length : Word) (file : FileId) (offset : Word) : Prop where
  space_eq : window.space = key
  file_eq : window.file = file
  offset_eq : window.plan.offset = offset
  fileLength_eq : window.plan.fileLength = (machine.environment.file file).data.size
  start_eq : window.plan.start = address.page config
  address_eq : window.plan.start.word.toNat * config.pageSize = address.word.toNat
  count_eq : window.count = (length.toNat + config.pageSize - 1) / config.pageSize

/-- After a mapping was made, a page belongs to it or was there before. -/
theorem page?_of_mapsFile (maps : MapsFile window.space window.plan range machine later)
    (counted : range.length.toNat = window.count)
    (spaceExists : (machine.spaces.get? window.space).isSome) {key : SpaceKey}
    {number : PageNumber} {page : Page config} (found : later.page? key number = some page) :
    (key = window.space ∧ ∃ index < window.count, number = window.plan.start.advance index ∧
      page = window.plan.pageAt config index) ∨ machine.page? key number = some page := by
  by_cases planned : key = window.space ∧ ∃ index < window.count,
      number = window.plan.start.advance index
  · obtain ⟨rfl, index, inside, rfl⟩ := planned
    rw [maps.page?_planned spaceExists (counted ▸ inside)] at found
    cases found
    exact .inl ⟨rfl, index, inside, rfl, rfl⟩
  · right
    rw [← maps.page?_other spaceExists]
    · exact found
    · rintro rfl index inside rfl
      exact planned ⟨rfl, index, counted ▸ inside, rfl⟩

/-- A mapping that was just made shows the file. -/
theorem Reflects.of_mapsFile (maps : MapsFile window.space window.plan range machine later)
    (counted : range.length.toNat = window.count)
    (spaceExists : (machine.spaces.get? window.space).isSome)
    (known : (machine.environment.files.get? window.file).isSome)
    (harmless : (machine.environment.file window.file).faults.AreHarmless)
    (unused : ¬ machine.Uses window.file) :
    window.Reflects (fun position => (machine.environment.file window.file).data.getD position 0)
      later := by
  have opened : later.environment = machine.environment.setFile window.file
      { machine.environment.file window.file with reopens := window.plan.handle.serial } := by
    rw [maps.maps]
    rfl
  have contents : later.environment.file window.file =
      { machine.environment.file window.file with reopens := window.plan.handle.serial } := by
    rw [opened, Environment.file_setFile, if_pos ⟨rfl, known⟩]
  exact {
    placed := by
      intro key number page backing found uses ours
      rcases page?_of_mapsFile maps counted spaceExists found with fresh | found
      · obtain ⟨rfl, index, inside, rfl, rfl⟩ := fresh
        cases uses
        exact ⟨rfl, ⟨index, inside, rfl, rfl⟩, rfl⟩
      · have known := handle?_eq_some_iff.mpr ⟨page, backing, found, uses, rfl⟩
        exact absurd ⟨key, number, _, known, ours⟩ unused
    known := by
      rw [opened]
      exact ((machine.environment.advances_setFile _ _).files window.file).trans known
    harmless := by
      rw [contents]
      exact harmless
    size := by
      rw [contents]
      exact maps.reads.symm
    resident := by
      intro number page backing frame position has resident
      obtain ⟨index, inside, rfl, _⟩ := has.holds
      have found := has.found
      rw [maps.page?_planned spaceExists (counted ▸ inside)] at found
      cases found
      cases resident
    stored := by
      intro position _
      rw [contents] }

/-- A window is open as soon as its mapping has been made. -/
theorem IsOpen.of_mapsFile (maps : MapsFile window.space window.plan range machine later)
    (counted : range.length.toNat = window.count)
    (spaceExists : (machine.spaces.get? window.space).isSome) : window.IsOpen later := by
  rintro number backing ⟨index, inside, rfl, rfl⟩
  have found := maps.page?_planned spaceExists (counted ▸ inside)
  exact ⟨_, ⟨found, ⟨index, inside, rfl, rfl⟩, rfl⟩, window.writable⟩

/-- A window has its record as soon as its mapping has been made. -/
theorem IsRecorded.of_mapsFile (maps : MapsFile window.space window.plan range machine later)
    (counted : range.length.toNat = window.count)
    (spaceExists : (machine.spaces.get? window.space).isSome) (opened : machine.RecordsOpened) :
    window.IsRecorded later where
  recorded := by
    refine ⟨⟨range, window.plan.handle, window.plan.offset⟩, ?_, rfl, ?_⟩
    · rw [maps.regions_eq spaceExists, if_pos rfl, OrderedMap.get?_insert_self]
    · rintro number ⟨index, inside, rfl⟩
      exact maps.contains (counted ▸ inside)
  alone := by
    intro key start region found ours
    have fresh : (machine.regions key).get? start = some region → start = window.plan.start := by
      intro found
      have older := opened _ _ _ found
      have newer := maps.fresh
      rw [ours] at older
      omega
    rw [maps.regions_eq spaceExists] at found
    split at found
    · rw [OrderedMap.get?_insert_eq] at found
      split at found
      · assumption
      · exact fresh found
    · exact fresh found

/-- A mapping that can be written to is a window. -/
theorem exists_of_mapped {mapped : Machine config} {key : SpaceKey} {address : VirtualAddress}
    {length offset : Word} {file : FileId}
    (granted : (Operation.request key (.map address length true file offset)).Yields machine
      (.ok (.mappedAt address)) mapped) :
    ∃ (window : FileWindow config) (range : PageRange),
      window.IsOpenedBy machine key address length file offset ∧
        address.isPageAligned config = true ∧
          (machine.spaces.get? key).isSome ∧ (machine.environment.files.get? file).isSome ∧
            MapsFile window.space window.plan range machine mapped ∧
              range.length.toNat = window.count := by
  obtain ⟨spaceExists, done⟩ := withSpace_eq_done granted nofun
  obtain ⟨known, done⟩ := mapFile_of_mapped done
  obtain ⟨placed, aligned, sized, offsetAligned, bounded⟩ := mapFile_checks done
  obtain ⟨_, plan, range, maps, starts, permission, source, position, _, counted⟩ :=
    (mapFile_ends spaceExists address length true file.creationHandle offset).of_done done
  have source : plan.handle.file = file := source
  have occupied : 0 < range.length.toNat := counted ▸ Word.ceilingDiv_pos sized config
  have whole : plan.start.word.toNat * config.pageSize = address.word.toNat := by
    rw [starts, VirtualAddress.toNat_page]
    exact Nat.div_mul_cancel (Nat.dvd_of_mod_eq_zero aligned)
  have bounds := Word.ceilingDiv_bounds length config.pageSizeWord
    (by rw [Config.toNat_pageSizeWord]; exact config.pageSize_pos)
  rw [← counted, Config.toNat_pageSizeWord] at bounds
  have size := config.pageSize_pos
  have count : range.length.toNat = (length.toNat + config.pageSize - 1) / config.pageSize := by
    symm
    apply Nat.div_eq_of_lt_le
    · omega
    · rw [Nat.succ_mul]
      omega
  have user : ∀ index < range.length.toNat,
      (plan.start.word.toNat + index) * config.pageSize < config.userEnd.toNat := by
    intro index inside
    have before := Nat.mul_le_mul_right config.pageSize inside
    rw [Nat.succ_mul] at before
    rw [Nat.add_mul, whole]
    omega
  let window : FileWindow config :=
    { space := key
      plan := plan
      count := range.length.toNat
      occupied := occupied
      fits := maps.fits
      writable := permission
      aligned := position ▸ offsetAligned
      positive := Nat.pos_of_ne_zero fun zero => placed (by rw [← whole, zero, Nat.zero_mul])
      user := user }
  refine ⟨window, range, ?_, (VirtualAddress.isPageAligned_iff ..).mpr aligned, spaceExists, known,
    maps, rfl⟩
  exact {
    space_eq := rfl
    file_eq := source
    offset_eq := position
    fileLength_eq := source ▸ maps.reads
    start_eq := starts
    address_eq := whole
    count_eq := count }

end FileWindow

/-- A mapping that can be written to is a faithful window on its file in every run in which nothing else
gets at the file and no transfer of it fails: copies from the mapping deliver the file with what was
copied to the mapping, and removing the mapping or its space leaves just that in the file. -/
theorem Run.mapping_faithful {frames slots : Nat} {log : OperationLog config}
    {machine mapped : Machine config} (run : Run (.boot config frames slots) log machine)
    {key : SpaceKey} {address : VirtualAddress} {length offset : Word} {file : FileId}
    (unused : ¬ machine.Uses file)
    (harmless : (machine.environment.file file).faults.AreHarmless)
    (granted : (Operation.request key (.map address length true file offset)).Yields machine
      (.ok (.mappedAt address)) mapped) :
    ∃ window : FileWindow config, window.IsOpenedBy machine key address length file offset ∧
      ∀ more last, GuardedRun (Operation.SparesMapping key (address.page config)
          ((length.toNat + config.pageSize - 1) / config.pageSize) file) mapped more last →
        ∃ content, window.Follows
            (fun position => (machine.environment.file file).data.getD position 0) more content ∧
          (∀ position, ¬ window.Shows position →
            content position = (machine.environment.file file).data.getD position 0) ∧
          (∃ later, (Operation.request key (.unmap address)).Yields last (.ok .done) later ∧
            window.Leaves content later) ∧
          ∃ later, (Operation.drop key).Yields last (.ok .done) later ∧
            window.Leaves content later := by
  obtain ⟨window, range, opened, aligned, spaceExists, known, maps, counted⟩ :=
    FileWindow.exists_of_mapped granted
  obtain rfl := opened.space_eq
  obtain rfl := opened.file_eq
  have performs := granted.performs run.atRest trivial
  have intact : window.Intact
      (fun position => (machine.environment.file window.file).data.getD position 0) mapped :=
    { atRest := (performs.passes run.atRest).atRest
      opened := granted.recordsOpened run.atRest trivial run.recordsOpened
      stands :=
        { reflects := .of_mapsFile maps counted spaceExists known harmless unused
          isOpen := .of_mapsFile maps counted spaceExists }
      recorded := .of_mapsFile maps counted spaceExists run.recordsOpened }
  refine ⟨window, opened, fun more last guarded => ?_⟩
  rw [← opened.start_eq, ← opened.count_eq] at guarded
  obtain ⟨content, follows, intact⟩ := intact.of_guardedRun guarded
  exact ⟨content, follows, fun _ => follows.eq_of_not_shows,
    intact.unmap aligned opened.start_eq.symm, intact.drop⟩

/-- A space with two pages of its own, and a file of six bytes. -/
def windowPreparation : List (Operation .small) :=
  let space : SpaceKey := ⟨.main, ⟨1⟩⟩
  [.create .main,
    .request space (.allocate .anonymous ⟨4⟩ true none),
    .request space (.allocate .anonymous ⟨8⟩ true none),
    .createFile #[10, 11, 12, 13, 14, 15]]

/-- Copies to and from a mapping of the file, while other pages of the space and of another one take the
frames. -/
def windowProgram : List (Operation .small) :=
  let space : SpaceKey := ⟨.main, ⟨1⟩⟩
  let other : SpaceKey := ⟨.main, ⟨2⟩⟩
  [.request space (.write ⟨18⟩ #[5, 6, 7]),
    .create .main,
    .request other (.allocate .anonymous ⟨16⟩ true none),
    .request other (.write ⟨16⟩ #[1, 2, 3, 4]),
    .request space (.write ⟨4⟩ #[1, 2, 3, 4, 5, 6, 7, 8]),
    .closeFile ⟨0⟩,
    .fork other,
    .request space (.read ⟨16⟩ #[0, 0, 0, 0, 0, 0, 0, 0]),
    .request space (.write ⟨22⟩ #[8, 9]),
    .request space (.read ⟨4⟩ #[0, 0, 0, 0, 0, 0, 0, 0])]

/-- The two pages of a mapping share two frames with other pages. What was copied to the mapping is in
the file in the end; what was copied behind the end of the file is not. -/
theorem Run.mapping_faithful_crowded : ∃ (log more : OperationLog .small)
    (machine mapped last later : Machine .small) (window : FileWindow .small)
    (content : Nat → UInt8),
    performAll windowPreparation (.boot .small 2 8) = some (log, machine) ∧
    performGuarded (Operation.SparesMapping ⟨.main, ⟨1⟩⟩ ⟨4⟩ 2 ⟨0⟩) windowProgram mapped =
      some (more, last) ∧
    0 < last.mainTable.evictions ∧
    window.IsOpenedBy machine ⟨.main, ⟨1⟩⟩ ⟨16⟩ 6 ⟨0⟩ 0 ∧
    window.Follows (fun position => (machine.environment.file ⟨0⟩).data.getD position 0) more
      content ∧
    (Operation.request ⟨.main, ⟨1⟩⟩ (.unmap ⟨16⟩)).Yields last (.ok .done) later ∧
    window.Leaves content later ∧
    (later.environment.file ⟨0⟩).data = #[10, 11, 5, 6, 7, 15] := by
  let space : SpaceKey := ⟨.main, ⟨1⟩⟩
  have performed : ((performAll windowPreparation (.boot .small 2 8)).any fun reached =>
      !decide (reached.2.Uses ⟨0⟩) && decide (reached.2.environment.file ⟨0⟩).faults.AreHarmless &&
        (Operation.request space (.map ⟨16⟩ 6 true ⟨0⟩ 0)).yieldsWith reached.2 fun result mapped =>
          result = .ok (.mappedAt ⟨16⟩) &&
          (performGuarded (Operation.SparesMapping space ⟨4⟩ 2 ⟨0⟩) windowProgram mapped).any
            fun used => 0 < used.2.mainTable.evictions &&
              (performAll [.request space (.unmap ⟨16⟩)] used.2).any fun ended =>
                (ended.2.environment.file ⟨0⟩).data = #[10, 11, 5, 6, 7, 15]) = true := by
    decide +kernel
  obtain ⟨⟨log, machine⟩, prepared, facts⟩ := (Option.any_eq_true _ _).mp performed
  simp only [Bool.and_eq_true, Bool.not_eq_true', decide_eq_true_eq, decide_eq_false_iff_not] at facts
  obtain ⟨⟨unused, harmless⟩, granted⟩ := facts
  obtain ⟨result, mapped, isMapped, facts⟩ := Operation.exists_of_yieldsWith granted
  simp only [Bool.and_eq_true, decide_eq_true_eq] at facts
  obtain ⟨rfl, used⟩ := facts
  obtain ⟨⟨more, last⟩, outcome, crowded⟩ := (Option.any_eq_true _ _).mp used
  simp only [Bool.and_eq_true, decide_eq_true_eq] at crowded
  obtain ⟨evicted, unmapped⟩ := crowded
  obtain ⟨window, opened, faithful⟩ :=
    Run.mapping_faithful (Run.nil.append prepared) unused harmless isMapped
  obtain ⟨content, follows, _, ⟨later, yields, leaves⟩, _⟩ :=
    faithful more last (GuardedRun.nil.append outcome)
  have finished : performAll [] later = some ([], later) := rfl
  rw [yields.performAll_cons trivial finished] at unmapped
  exact ⟨log, more, machine, mapped, last, later, window, content, prepared, outcome, evicted, opened,
    follows, yields, leaves, of_decide_eq_true unmapped⟩

end DemandPaging

import DemandPaging.Proofs.FileBytes
import DemandPaging.Proofs.Flat.View
import DemandPaging.Proofs.Materialisation

/-!
# What a page shows

A page shows the bytes of its frame, or else what it would be loaded with. No transition changes a byte
that a page shows but one that stores it, takes the page away or changes it in the file of the page, and
one more: an eviction gives up a byte that is in the frame alone, if the page does not count as written
to. An initializer can leave such a byte in a page of a file. After the first eviction there is none any
more.
-/

namespace DemandPaging

variable {config : Config}

/-- Inside a page, the byte at a place is the byte at that index. -/
theorem PageBytes.byteAt_of_lt (bytes : PageBytes config) {index : Nat}
    (inside : index < config.pageSize) : bytes.byteAt index = bytes[index] := by
  unfold byteAt
  simp only [Nat.mod_eq_of_lt inside]
  rfl

/-- The byte of a page is found by the offset in the page. -/
theorem PageBytes.byteAt_mod (bytes : PageBytes config) (place : Nat) :
    bytes.byteAt (place % config.pageSize) = bytes.byteAt place := by
  unfold byteAt
  simp only [Nat.mod_mod]

/-- A byte of a page that its backing store keeps: in a page of a file, one that was read from it. -/
structure Page.Retains (page : Page config) (index : Nat) : Prop where
  inside : index < config.pageSize
  read : ∀ backing, page.kind.backing? = some backing → index < backing.readBytes

/-- A page is on the file that it is, or will be, loaded from. -/
theorem PageKind.backing?_eq_target (kind : PageKind config) :
    kind.backing? = kind.target.backing? := by
  cases kind <;> rfl

/-- A page that is still the same is on the same part of its file. -/
theorem Page.Continues.backing?_eq {page later : Page config} (continues : page.Continues later) :
    later.kind.backing? = page.kind.backing? := by
  rw [PageKind.backing?_eq_target, PageKind.backing?_eq_target, continues.target]

namespace FileBacking

variable {backing : FileBacking config} {index : Nat}

/-- A page that is read from a file shows the bytes of the file. -/
theorem byteAt_image_of_lt (data : Bytes) (read : index < backing.readBytes) :
    (backing.image data).byteAt index = data.getD (backing.offset.toNat + index) 0 := by
  have inside := Nat.lt_of_lt_of_le read backing.readBytes_le
  rw [PageBytes.byteAt_of_lt _ inside, getElem_image _ _ inside, if_pos read]

/-- A file that reaches to the end of a part with a byte is there. -/
theorem IsCovered.known {environment : Environment config}
    (covered : backing.IsCovered (environment.file backing.handle.file).data)
    (read : index < backing.readBytes) :
    (environment.files.get? backing.handle.file).isSome := by
  cases known : environment.files.get? backing.handle.file with
  | some => rfl
  | none =>
    have empty : (environment.file backing.handle.file).data = #[] := by
      rw [Environment.file, known]
      rfl
    rw [empty] at covered
    rcases covered with none | reaches
    · omega
    · have size : (#[] : Bytes).size = 0 := rfl
      omega

/-- A byte of a page that was written back is in the file. -/
theorem fileByte_writtenBack {environment : Environment config} {bytes : PageBytes config}
    (known : (environment.files.get? backing.handle.file).isSome) (read : index < backing.readBytes) :
    (backing.writtenBack bytes environment).fileByte backing.handle.file
      (backing.offset.toNat + index) = bytes.byteAt index := by
  have inside := Nat.lt_of_lt_of_le read backing.readBytes_le
  have stored : (backing.writtenBack bytes environment).file backing.handle.file =
      (environment.file backing.handle.file).store backing.offset.toNat (backing.portion bytes) := by
    rw [writtenBack, Environment.file_setFile, if_pos ⟨rfl, known⟩]
  have within : index < (backing.portion bytes).size := by
    rw [size_portion]
    exact read
  rw [Environment.fileByte, stored, File.getD_data_store, if_pos ⟨by omega, by omega⟩,
    Nat.add_sub_cancel_left, Array.getD_eq_getD_getElem?, Array.getElem?_eq_getElem within,
    Option.getD_some, PageBytes.byteAt_of_lt _ inside]
  simp [portion, PageBytes.slice, Bytes.slice]

end FileBacking

namespace Machine

/-- The bytes of a page: those of its frame, or else those that it would be loaded with. -/
def shown (machine : Machine config) (page : Page config) : PageBytes config :=
  match page.frame, page.kind with
  | none, .file backing => backing.image (machine.environment.file backing.handle.file).data
  | _, _ => machine.content page

/-- A page has been loaded and shows a byte; it is the page that was registered as `page`. -/
def Shows (machine : Machine config) (key : SpaceKey) (page : Page config) (index : Nat)
    (byte : UInt8) : Prop :=
  ∃ current, machine.page? key page.number = some current ∧ page.Continues current ∧
    ¬ current.kind.IsPending ∧ (machine.shown current).byteAt index = byte

/-- A byte of a page will not be lost with the frame: it is in the file of the page, if it has one, or
the page counts as written to. -/
def Backs (machine : Machine config) (key : SpaceKey) (page : Page config) (index : Nat)
    (byte : UInt8) : Prop :=
  ∀ backing, page.kind.backing? = some backing →
    (machine.space key).isDirty page.number = true ∨
      machine.environment.fileByte backing.handle.file (backing.offset.toNat + index) = byte

variable {machine next : Machine config} {key : SpaceKey} {page current : Page config} {index : Nat}
  {byte : UInt8}

/-- A resident page shows its frame. -/
theorem shown_of_resident {frame : FrameNumber} (resident : current.frame = some frame) :
    machine.shown current = machine.frameBytes frame := by
  unfold shown
  rw [resident]
  exact content_of_resident resident

/-- A file page without a frame shows its file. -/
theorem shown_of_file {backing : FileBacking config} (absent : current.frame = none)
    (isFile : current.kind = .file backing) :
    machine.shown current =
      backing.image (machine.environment.file backing.handle.file).data := by
  unfold shown
  rw [absent, isFile]

/-- An anonymous page shows its content, wherever that is. -/
theorem shown_of_anonymous {slot : Option SwapSlot} (kind : current.kind = .anonymous slot) :
    machine.shown current = machine.content current := by
  unfold shown
  cases current.frame <;> simp only [kind]

end Machine

/-! ## What can become of a byte -/

/-- A page makes room for another one. -/
def Transition.Evicts (key : SpaceKey) (number : PageNumber) (transition : Transition config) : Prop :=
  ∃ frame, transition = .evict key number frame

/-- A transition after which a page may show another byte, or may not be there. -/
inductive Move.Disturbs (key : SpaceKey) (page : Page config) (index : Nat) (move : Move config) :
    Prop where
  | withdrawn (withdraws : move.transition.Withdraws key page.number)
  | overwritten {position : Nat} {piece : Bytes}
      (stores : move.transition = .store key page.number position piece) (after : position ≤ index)
      (before : index < position + piece.size)
  | replaced {backing : FileBacking config} (uses : page.kind.backing? = some backing)
      (replaces : move.ReplacesByte backing.handle.file (backing.offset.toNat + index))
  /-- Another page writes the byte back to the file. -/
  | saved {backing : FileBacking config} {other : SpaceKey} {number : PageNumber}
      (uses : page.kind.backing? = some backing) (elsewhere : (other, number) ≠ (key, page.number))
      (saves : move.SavesByte other number backing.handle.file (backing.offset.toNat + index))

namespace Transition

open Machine

variable {transition : Transition config} {machine next : Machine config} {key : SpaceKey}
  {page : Page config} {index : Nat} {byte : UInt8} {frame : FrameNumber}

/-- The file keeps the byte, unless it is written back from the page itself. -/
theorem Leads.fileByte_eq (leads : transition.Leads machine next) (consistent : machine.Consistent)
    (undisturbed : ¬ Move.Disturbs key page index ⟨machine, transition⟩)
    {backing : FileBacking config} (uses : page.kind.backing? = some backing)
    (unsaved : ¬ Move.SavesByte ⟨machine, transition⟩ key page.number backing.handle.file
      (backing.offset.toNat + index)) :
    next.environment.fileByte backing.handle.file (backing.offset.toNat + index) =
      machine.environment.fileByte backing.handle.file (backing.offset.toNat + index) := by
  by_contra changed
  rcases leads.saves_or_replaces consistent changed with ⟨other, number, saves⟩ | replaces
  · by_cases here : (other, number) = (key, page.number)
    · cases here
      exact unsaved saves
    · exact undisturbed (.saved uses here saves)
  · exact undisturbed (.replaced uses replaces)

/-- A page that a transition does not touch shows what it has shown. -/
theorem Leads.shows_of_untouched (leads : transition.Leads machine next)
    (consistent : machine.Consistent) (retains : page.Retains index)
    (untouched : ¬ transition.Touches key page.number)
    (undisturbed : ¬ Move.Disturbs key page index ⟨machine, transition⟩)
    (shows : machine.Shows key page index byte) : next.Shows key page index byte := by
  obtain ⟨current, found, continues, loaded, rfl⟩ := shows
  obtain ⟨pages, _, bytes⟩ := leads.bystands consistent untouched
  refine ⟨current, pages.trans found, continues, loaded, ?_⟩
  cases resident : current.frame with
  | some frame =>
    have held := (frame?_of_found found).trans resident
    rw [shown_of_resident resident, shown_of_resident resident, bytes frame held]
  | none =>
    match kindIs : current.kind with
    | .unloaded _ _ =>
      rw [kindIs] at loaded
      exact (loaded trivial).elim
    | .anonymous _ =>
      have same := leads.content_eq consistent found (pages.trans found) (by
        rintro position piece rfl
        exact untouched ⟨rfl, rfl⟩)
      rw [shown_of_anonymous kindIs, shown_of_anonymous kindIs, same]
    | .file backing =>
      have uses : page.kind.backing? = some backing := by
        rw [← continues.backing?_eq, kindIs]
        rfl
      rw [shown_of_file resident kindIs, shown_of_file resident kindIs,
        FileBacking.byteAt_image_of_lt _ (retains.read backing uses),
        FileBacking.byteAt_image_of_lt _ (retains.read backing uses)]
      exact leads.fileByte_eq consistent undisturbed uses fun saves => untouched saves.ends.touches

/-- A page that is evicted shows what it has shown, if the byte was not in the frame alone. -/
theorem Leads.shows_of_evict (leads : (Transition.evict key page.number frame).Leads machine next)
    (consistent : machine.Consistent) (reach : machine.FilesReach) (retains : page.Retains index)
    (undisturbed : ¬ Move.Disturbs key page index ⟨machine, .evict key page.number frame⟩)
    (backs : machine.Backs key page index byte) (shows : machine.Shows key page index byte) :
    next.Shows key page index byte := by
  have kept : ∀ {backing : FileBacking config}, page.kind.backing? = some backing →
      (machine.space key).isDirty page.number = false →
        next.environment.fileByte backing.handle.file (backing.offset.toNat + index) =
          machine.environment.fileByte backing.handle.file (backing.offset.toNat + index) :=
    fun uses clean => leads.fileByte_eq consistent undisturbed uses fun saves =>
      Bool.noConfusion (saves.dirty.symm.trans clean)
  obtain ⟨current, found, continues, loaded, same⟩ := shows
  have uses : ∀ {backing : FileBacking config}, current.kind = .file backing →
      page.kind.backing? = some backing := by
    intro backing kindIs
    rw [← continues.backing?_eq, kindIs]
    rfl
  unfold Machine.Backs at backs
  unfold Machine.Shows
  generalize page.number = number at *
  cases leads with
  | @evict _ _ original _ remaining kind environment _ _ found' resident stored =>
    cases found'.symm.trans found
    have became := consistent.fits.stored found resident stored
    obtain ⟨target, notPending, _⟩ := became.target_eq
    refine ⟨_, eq_of_amend (page?_evicted (isSome_of_page? found)),
      continues.trans ⟨rfl, rfl, target, fun pending => absurd pending notPending⟩, notPending, ?_⟩
    rw [shown_of_resident resident] at same
    generalize kindIs : current.kind = earlier at became
    cases became with
    | blank isBlank =>
      rw [shown_of_anonymous rfl, content_of_nowhere rfl rfl, ← isBlank]
      exact same
    | toSlot =>
      rw [shown_of_anonymous rfl, content_of_slot rfl rfl]
      · exact same
      · unfold stored?
        rw [environment_vacate]
        exact OrderedMap.get?_insert_self ..
    | @clean backing isClean =>
      rw [shown_of_file rfl rfl, FileBacking.byteAt_image_of_lt _ (retains.read _ (uses kindIs))]
      refine (kept (uses kindIs) isClean).trans ((backs _ (uses kindIs)).resolve_left ?_)
      rw [isClean]
      exact Bool.false_ne_true
    | @toFile backing isDirty =>
      have read := retains.read _ (uses kindIs)
      have covered := reach.covered found (Option.isSome_of_eq_some resident) (by rw [kindIs]; rfl)
      have there := FileBacking.IsCovered.known covered read
      rw [shown_of_file rfl rfl, FileBacking.byteAt_image_of_lt _ read, environment_vacate,
        if_neg (Nat.ne_zero_of_lt read)]
      refine (FileBacking.fileByte_writtenBack ?_ read).trans same
      rw [environment_beforeStore]
      exact there

/-- A page that is loaded again shows what it has shown. -/
theorem Leads.shows_of_load (leads : (Transition.load key page.number frame).Leads machine next)
    (shows : machine.Shows key page index byte) : next.Shows key page index byte := by
  obtain ⟨current, found, continues, loaded, same⟩ := shows
  unfold Machine.Shows
  generalize page.number = number at *
  cases leads with
  | @load _ _ original _ kind window found' absent _ loads =>
    cases found'.symm.trans found
    have became := (PageKind.load_ends _ _ _).of_done loads
    obtain ⟨target, notPending⟩ := became.target_eq
    refine ⟨_, eq_of_amend (page?_settleLoaded (isSome_of_page? found)),
      continues.trans ⟨rfl, rfl, target, fun pending => absurd pending notPending⟩, notPending, ?_⟩
    rw [shown_of_resident rfl, frameBytes_settleLoaded, if_pos rfl]
    generalize kindIs : current.kind = earlier at became loaded
    cases became with
    | @fromSlot slot content read =>
      have slotIs : current.kind.slot? = some slot := by rw [kindIs]; rfl
      have holds : machine.content current = content :=
        content_of_slot absent slotIs (SwapDevice.get?_of_read read)
      rw [shown_of_anonymous kindIs, holds] at same
      exact same
    | blank =>
      rw [shown_of_anonymous kindIs, content_of_nowhere absent (by rw [kindIs]; rfl)] at same
      exact same
    | fromFile =>
      rw [shown_of_file absent kindIs] at same
      exact same
    | first => exact (loaded trivial).elim

/-- A byte that is stored nothing over is shown as it was. -/
theorem Leads.shows_of_store {position : Nat} {piece : Bytes}
    (leads : (Transition.store key page.number position piece).Leads machine next)
    (retains : page.Retains index) (beside : ¬ (position ≤ index ∧ index < position + piece.size))
    (shows : machine.Shows key page index byte) : next.Shows key page index byte := by
  obtain ⟨current, found, continues, loaded, rfl⟩ := shows
  unfold Machine.Shows
  generalize page.number = number at *
  cases leads with
  | @store _ _ _ frame _ _ found' resident =>
    cases found'.symm.trans found
    refine ⟨current, (congrFun (congrFun page?_markDirty key) _).trans found, continues, loaded, ?_⟩
    have stored : ((machine.setFrameBytes frame ((machine.frameBytes frame).overwrite position
        piece)).updateSpace key (·.markDirty current.number)).frameBytes frame =
          (machine.frameBytes frame).overwrite position piece :=
      (frameBytes_setFrameBytes ..).trans (if_pos rfl)
    rw [shown_of_resident resident, shown_of_resident resident, stored,
      PageBytes.byteAt_of_lt _ retains.inside, PageBytes.byteAt_of_lt _ retains.inside,
      PageBytes.getElem_overwrite, Bytes.overlay]
    split
    · next after =>
      rw [Array.getD_eq_getD_getElem?, Array.getElem?_eq_none (by omega), Option.getD_none]
    · rfl

/-- A page shows a byte until something is done to it, or it is evicted while the byte is in its frame
alone. -/
theorem Leads.shows (leads : transition.Leads machine next) (consistent : machine.Consistent)
    (reach : machine.FilesReach) (retains : page.Retains index)
    (undisturbed : ¬ Move.Disturbs key page index ⟨machine, transition⟩)
    (uncopied : ∀ parent frame, transition ≠ .copy key parent page.number frame)
    (backed : transition.Evicts key page.number → machine.Backs key page index byte)
    (shows : machine.Shows key page index byte) : next.Shows key page index byte := by
  by_cases touches : transition.Touches key page.number
  · cases transition with
    | evict =>
      obtain ⟨rfl, rfl⟩ := touches
      exact leads.shows_of_evict consistent reach retains undisturbed (backed ⟨_, rfl⟩) shows
    | load =>
      obtain ⟨rfl, rfl⟩ := touches
      exact leads.shows_of_load shows
    | store =>
      obtain ⟨rfl, rfl⟩ := touches
      exact leads.shows_of_store retains
        (fun inside => undisturbed (.overwritten rfl inside.1 inside.2)) shows
    | copy =>
      obtain ⟨rfl, rfl⟩ := touches
      exact absurd rfl (uncopied _ _)
    | register _ fresh =>
      obtain ⟨rfl, numbered⟩ := touches
      obtain ⟨current, found, _⟩ := shows
      cases leads with
      | register vacant =>
        rw [numbered] at vacant
        cases vacant.symm.trans found
    | unregister =>
      obtain ⟨rfl, rfl⟩ := touches
      exact absurd (.withdrawn (.inl rfl)) undisturbed
    | discard =>
      obtain ⟨rfl, rfl⟩ := touches
      exact absurd (.withdrawn (.inr rfl)) undisturbed
    | _ => exact touches.elim
  · exact leads.shows_of_untouched consistent retains touches undisturbed shows

end Transition

namespace Machine

variable {machine : Machine config} {key : SpaceKey} {page : Page config} {index : Nat} {byte : UInt8}

/-- While a page of a file is not resident, what it shows is what the file has. -/
theorem Shows.fileByte_eq (shows : machine.Shows key page index byte) (retains : page.Retains index)
    (absent : machine.frame? key page.number = none) {backing : FileBacking config}
    (uses : page.kind.backing? = some backing) :
    machine.environment.fileByte backing.handle.file (backing.offset.toNat + index) = byte := by
  obtain ⟨current, found, continues, loaded, rfl⟩ := shows
  rw [frame?_of_found found] at absent
  have used := continues.backing?_eq.trans uses
  match kindIs : current.kind with
  | .unloaded _ _ =>
    rw [kindIs] at loaded
    exact (loaded trivial).elim
  | .anonymous _ =>
    rw [kindIs] at used
    cases used
  | .file backing =>
    rw [kindIs] at used
    cases used
    rw [shown_of_file absent kindIs, FileBacking.byteAt_image_of_lt _ (retains.read _ uses)]
    rfl

end Machine

namespace Transition

open Machine

variable {transition : Transition config} {machine next : Machine config} {key : SpaceKey}
  {page : Page config} {index : Nat} {byte : UInt8}

/-- A byte that is not in the frame of the page alone does not come to be so. -/
theorem Leads.backs (leads : transition.Leads machine next) (consistent : machine.Consistent)
    (retains : page.Retains index) (undisturbed : ¬ Move.Disturbs key page index ⟨machine, transition⟩)
    (uncopied : ∀ parent frame, transition ≠ .copy key parent page.number frame)
    (shows : machine.Shows key page index byte) (backs : machine.Backs key page index byte)
    (showsAfter : next.Shows key page index byte) : next.Backs key page index byte := by
  intro backing uses
  by_cases resident : (next.frame? key page.number).isSome
  · have endless : ¬ transition.EndsResidency key page.number := by
      intro ends
      rw [leads.frame?_of_ends ends] at resident
      cases resident
    have kept := leads.fileByte_eq consistent undisturbed uses fun saves => endless saves.ends
    by_cases becomes : transition.MakesResident key page.number
    · rcases becomes with ⟨frame, rfl⟩ | ⟨parent, frame, rfl⟩
      · have absent : machine.frame? key page.number = none := by
          generalize page.number = number at *
          cases leads with
          | load found absent => exact (frame?_of_found found).trans absent
        exact .inr (kept.trans (shows.fileByte_eq retains absent uses))
      · exact absurd rfl (uncopied _ _)
    · have dirty := (leads.stays consistent resident becomes).2
      rcases backs backing uses with wasDirty | inFile
      · exact .inl (dirty.mpr (.inl wasDirty))
      · exact .inr (kept.trans inFile)
  · rw [Bool.not_eq_true, Option.isSome_eq_false_iff, Option.isNone_iff_eq_none] at resident
    exact .inr (showsAfter.fileByte_eq retains resident uses)

/-- An eviction loses a byte that is in the frame alone: afterwards the page shows what the file has. -/
theorem Leads.not_shows_of_evict (leads : transition.Leads machine next) (consistent : machine.Consistent)
    (retains : page.Retains index) (undisturbed : ¬ Move.Disturbs key page index ⟨machine, transition⟩)
    (evicts : transition.Evicts key page.number) (unsaved : ¬ machine.Backs key page index byte) :
    ¬ next.Shows key page index byte := by
  obtain ⟨frame, rfl⟩ := evicts
  intro shows
  apply unsaved
  intro backing uses
  by_contra neither
  obtain ⟨clean, otherwise⟩ := not_or.mp neither
  have absent := leads.frame?_of_ends (.inl ⟨frame, rfl⟩)
  have kept := leads.fileByte_eq consistent undisturbed uses fun saves => clean saves.dirty
  exact otherwise (kept.symm.trans (shows.fileByte_eq retains absent uses))

end Transition

/-! ## Along a way -/

/-- When a page is evicted for the first time on a way, the byte is not in its frame alone. -/
def IsSavedFirst (key : SpaceKey) (page : Page config) (index : Nat) (byte : UInt8)
    (moves : List (Move config)) : Prop :=
  ∀ (earlier : List (Move config)) (move : Move config) (later : List (Move config)),
    moves = earlier ++ move :: later → move.transition.Evicts key page.number →
      (∀ other ∈ earlier, ¬ other.transition.Evicts key page.number) →
        move.before.Backs key page index byte

/-- The byte goes to swap with the rest of an anonymous page. -/
theorem isSavedFirst_of_anonymous {key : SpaceKey} {page : Page config}
    (anonymous : page.kind.backing? = none) {index : Nat} {byte : UInt8}
    (moves : List (Move config)) : IsSavedFirst key page index byte moves := by
  intro _ _ _ _ _ _ backing uses
  cases anonymous.symm.trans uses

/-- A page shows a byte at the end of a way on which nothing was done to it, if the byte was saved when
the page was evicted for the first time. After that it is never in the frame alone. -/
theorem Trail.shows {start machine : Machine config} {moves : List (Move config)} {key : SpaceKey}
    {page : Page config} {index : Nat} {byte : UInt8} (trail : Trail start moves machine)
    (consistent : start.Consistent) (reach : ∀ move ∈ moves, move.before.FilesReach)
    (retains : page.Retains index) (undisturbed : ∀ move ∈ moves, ¬ move.Disturbs key page index)
    (uncopied : ∀ move ∈ moves, ∀ parent frame,
      move.transition ≠ .copy key parent page.number frame)
    (saved : IsSavedFirst key page index byte moves) (shows : start.Shows key page index byte) :
    machine.Shows key page index byte ∧
      ((∃ move ∈ moves, move.transition.Evicts key page.number) →
        machine.Backs key page index byte) := by
  induction trail with
  | refl => exact ⟨shows, fun ⟨_, listed, _⟩ => absurd listed List.not_mem_nil⟩
  | @step moves middle next transition prior leads inductionHypothesis =>
    obtain ⟨reached, reach⟩ := List.forall_mem_append.mp reach
    obtain ⟨before, undisturbed⟩ := List.forall_mem_append.mp undisturbed
    obtain ⟨uncopied', uncopied⟩ := List.forall_mem_append.mp uncopied
    obtain ⟨showsBefore, backsBefore⟩ := inductionHypothesis reached before uncopied' <| by
      rintro earlier move later rfl
      exact saved earlier move (later ++ [⟨middle, transition⟩]) (by simp)
    have here := List.mem_singleton_self (⟨middle, transition⟩ : Move config)
    have middleConsistent := (prior.consistent consistent).1
    have backed : (∃ move ∈ moves, move.transition.Evicts key page.number) ∨
        transition.Evicts key page.number → middle.Backs key page index byte := by
      intro either
      by_cases earlier : ∃ move ∈ moves, move.transition.Evicts key page.number
      · exact backsBefore earlier
      · refine saved moves _ [] rfl (either.resolve_left earlier) ?_
        exact fun other listed evicts => earlier ⟨other, listed, evicts⟩
    have showsAfter := leads.shows middleConsistent (reach _ here) retains (undisturbed _ here)
      (uncopied _ here) (fun evicts => backed (.inr evicts)) showsBefore
    refine ⟨showsAfter, ?_⟩
    rintro ⟨move, listed, evicts⟩
    refine leads.backs middleConsistent retains (undisturbed _ here) (uncopied _ here) showsBefore
      (backed ?_) showsAfter
    rcases List.mem_append.mp listed with earlier | last
    · exact .inl ⟨move, earlier, evicts⟩
    · cases List.mem_singleton.mp last
      exact .inr evicts

end DemandPaging

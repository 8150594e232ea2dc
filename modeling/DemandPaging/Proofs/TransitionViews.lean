import DemandPaging.Proofs.Transition

/-!
# Views after a transition

The states that transitions lead to are built by a few functions. For each of them the lemmas here
give the pages and mappings, the frame tables, and the contents of the frames, so that a proof about
a transition never has to look into the machine.
-/

namespace DemandPaging

namespace Machine

variable {config : Config} {machine : Machine config} {key : SpaceKey} {number : PageNumber}

/-- A change of a table is seen in that table only. -/
theorem table_updateTable_eq (subsystem other : Subsystem) (update : FrameTable → FrameTable) :
    (machine.updateTable subsystem update).table other =
      if other = subsystem then update (machine.table other) else machine.table other := by
  split
  · next same =>
    subst same
    exact machine.table_updateTable other update
  · next different =>
    exact machine.table_updateTable_of_ne subsystem update (Ne.symm different)

@[simp] theorem frameBytes_updateTable (subsystem : Subsystem)
    (update : FrameTable → FrameTable) :
    (machine.updateTable subsystem update).frameBytes = machine.frameBytes :=
  frameBytes_congr (memory_updateTable ..)

@[simp] theorem frameBytes_updateSpace (change : Space config → Space config) :
    (machine.updateSpace key change).frameBytes = machine.frameBytes := rfl

@[simp] theorem frameBytes_record (event : Event) :
    (machine.record event).frameBytes = machine.frameBytes := rfl

@[simp] theorem page?_updateTable (subsystem : Subsystem) (update : FrameTable → FrameTable) :
    (machine.updateTable subsystem update).page? = machine.page? :=
  page?_congr (spaces_updateTable ..)

@[simp] theorem mapped?_updateTable (subsystem : Subsystem) (update : FrameTable → FrameTable) :
    (machine.updateTable subsystem update).mapped? = machine.mapped? :=
  mapped?_congr (spaces_updateTable ..)

@[simp] theorem page?_record (event : Event) : (machine.record event).page? = machine.page? := rfl

@[simp] theorem mapped?_record (event : Event) : (machine.record event).mapped? = machine.mapped? :=
  rfl

@[simp] theorem page?_setFrameBytes (frame : FrameNumber) (bytes : PageBytes config) :
    (machine.setFrameBytes frame bytes).page? = machine.page? := rfl

@[simp] theorem mapped?_setFrameBytes (frame : FrameNumber) (bytes : PageBytes config) :
    (machine.setFrameBytes frame bytes).mapped? = machine.mapped? := rfl

@[simp] theorem page?_putWindow (frame : FrameNumber) (window : FrameWindow config) :
    (machine.putWindow frame window).page? = machine.page? := rfl

@[simp] theorem mapped?_putWindow (frame : FrameNumber) (window : FrameWindow config) :
    (machine.putWindow frame window).mapped? = machine.mapped? := rfl

/-! ## A frame that is taken or released -/

section Frame

variable {subsystem : Subsystem} {frame : FrameNumber} {rest : List FrameNumber}

@[simp] theorem spaces_take : (machine.take subsystem frame rest).spaces = machine.spaces := by
  simp [take]

@[simp] theorem page?_take : (machine.take subsystem frame rest).page? = machine.page? :=
  page?_congr spaces_take

@[simp] theorem mapped?_take : (machine.take subsystem frame rest).mapped? = machine.mapped? :=
  mapped?_congr spaces_take

/-- A frame that is taken waits at the end of its queue. -/
theorem table_take (other : Subsystem) :
    (machine.take subsystem frame rest).table other =
      if other = subsystem then (machine.table other).push frame else machine.table other := by
  rw [take, table_updateTable_eq]
  rfl

/-- A frame that is taken is blank. -/
theorem frameBytes_take (probe : FrameNumber) :
    (machine.take subsystem frame rest).frameBytes probe =
      if frame = probe then PageBytes.zero else machine.frameBytes probe := by
  rw [take, frameBytes_updateTable, frameBytes_setFrameBytes]
  rfl

@[simp] theorem environment_take :
    (machine.take subsystem frame rest).environment =
      machine.environment.record (.frameRequested subsystem false) := by
  simp [take]

@[simp] theorem spaces_release : (machine.release subsystem frame).spaces = machine.spaces :=
  spaces_updateTable ..

@[simp] theorem page?_release : (machine.release subsystem frame).page? = machine.page? :=
  page?_congr spaces_release

@[simp] theorem mapped?_release : (machine.release subsystem frame).mapped? = machine.mapped? :=
  mapped?_congr spaces_release

/-- A frame that is released leaves its queue. -/
theorem table_release (other : Subsystem) :
    (machine.release subsystem frame).table other =
      if other = subsystem then (machine.table other).remove frame else machine.table other :=
  table_updateTable_eq ..

@[simp] theorem frameBytes_release :
    (machine.release subsystem frame).frameBytes = machine.frameBytes :=
  frameBytes_updateTable ..

@[simp] theorem environment_release :
    (machine.release subsystem frame).environment = machine.environment :=
  environment_updateTable ..

end Frame

/-! ## A page that loses its frame -/

section Vacate

variable {stored : Page config} {environment : Environment config} {frame : FrameNumber}
  {remaining : FrameTable}

theorem isSome_beforeStore (probe : SpaceKey) :
    ((machine.beforeStore key number remaining).spaces.get? probe).isSome =
      (machine.spaces.get? probe).isSome := by
  rw [beforeStore, isSome_updateSpace]
  simp

@[simp] theorem page?_beforeStore :
    (machine.beforeStore key number remaining).page? = machine.page? := by
  simp [beforeStore]

/-- A victim is unmapped before its content is saved. -/
theorem mapped?_beforeStore (found : (machine.spaces.get? key).isSome) :
    (machine.beforeStore key number remaining).mapped? =
      amend machine.mapped? key number none := by
  rw [beforeStore, mapped?_unmapPage (by simpa using found)]
  simp

/-- A victim is out of the queue before its content is saved. -/
theorem table_beforeStore (other : Subsystem) :
    (machine.beforeStore key number remaining).table other =
      if other = key.subsystem then remaining else machine.table other := by
  rw [beforeStore, table_updateSpace, table_record, table_updateTable_eq]
  rfl

@[simp] theorem environment_beforeStore :
    (machine.beforeStore key number remaining).environment =
      (machine.environment.record (.frameRequested key.subsystem true)).record
        (.evicting key number) := by
  simp [beforeStore]

@[simp] theorem frameBytes_beforeStore :
    (machine.beforeStore key number remaining).frameBytes = machine.frameBytes := by
  simp [beforeStore]

/-- A page that lost its frame is registered as it was stored. -/
theorem page?_vacate (found : (machine.spaces.get? key).isSome) :
    (machine.vacate key stored environment frame).page? =
      amend machine.page? key stored.number (some stored) := by
  simp only [vacate, page?_updateTable, page?_setFrameBytes]
  exact page?_setPage found stored

@[simp] theorem mapped?_vacate :
    (machine.vacate key stored environment frame).mapped? = machine.mapped? := by
  simp only [vacate, mapped?_updateTable, mapped?_setFrameBytes, mapped?_setPage]
  rfl

/-- The frame of a victim is counted as evicted, and waits at the end of the queue. -/
theorem table_vacate (other : Subsystem) :
    (machine.vacate key stored environment frame).table other =
      if other = key.subsystem then (machine.table other).countEviction.push frame
      else machine.table other := by
  rw [vacate, table_updateTable_eq, table_setFrameBytes, table_updateTable_eq]
  split <;> rfl

@[simp] theorem environment_vacate :
    (machine.vacate key stored environment frame).environment = environment := by
  simp [vacate]

/-- The frame of a victim is blank. -/
theorem frameBytes_vacate (probe : FrameNumber) :
    (machine.vacate key stored environment frame).frameBytes probe =
      if frame = probe then PageBytes.zero else machine.frameBytes probe := by
  rw [vacate, frameBytes_updateTable, frameBytes_setFrameBytes, frameBytes_updateTable]
  rfl

/-- An eviction replaces one page by what was stored of it. -/
theorem page?_evicted (found : (machine.spaces.get? key).isSome) :
    ((machine.beforeStore key number remaining).vacate key stored environment frame).page? =
      amend machine.page? key stored.number (some stored) := by
  rw [page?_vacate (by rw [isSome_beforeStore]; exact found), page?_beforeStore]

/-- An eviction unmaps one page. -/
theorem mapped?_evicted (found : (machine.spaces.get? key).isSome) :
    ((machine.beforeStore key number remaining).vacate key stored environment frame).mapped? =
      amend machine.mapped? key number none := by
  rw [mapped?_vacate, mapped?_beforeStore found]

/-- An eviction moves one frame to the end of the queue, and is counted. -/
theorem table_evicted (other : Subsystem) :
    ((machine.beforeStore key number remaining).vacate key stored environment frame).table other =
      if other = key.subsystem then remaining.countEviction.push frame
      else machine.table other := by
  rw [table_vacate, table_beforeStore]
  split <;> rfl

/-- An eviction blanks one frame. -/
theorem frameBytes_evicted (probe : FrameNumber) :
    ((machine.beforeStore key number remaining).vacate key stored environment frame).frameBytes
        probe = if frame = probe then PageBytes.zero else machine.frameBytes probe := by
  rw [frameBytes_vacate, frameBytes_beforeStore]

end Vacate

/-! ## A page that gets a frame -/

section Settle

variable {page : Page config} {frame : FrameNumber} {bytes : PageBytes config} {dirty : Bool}

/-- A page that settles in a frame holds it. -/
theorem page?_settle (found : (machine.spaces.get? key).isSome) :
    (machine.settle key page frame).page? =
      amend machine.page? key page.number (some { page with frame := some frame }) := by
  unfold settle
  rw [page?_record, page?_updateTable]
  funext probe other
  rw [← page?_setPage found { page with frame := some frame }, page?_updateSpace found,
    page?_updateSpace found]
  rfl

/-- A page that settles in a frame is mapped to it, as not written to. -/
theorem mapped?_settle (found : (machine.spaces.get? key).isSome) :
    (machine.settle key page frame).mapped? =
      amend machine.mapped? key page.number
        (some ⟨frame, EntryFlags.userPage page.writable⟩) := by
  unfold settle
  rw [mapped?_record, mapped?_updateTable]
  funext probe other
  rw [mapped?_updateSpace found, amend, Space.pageTable_mapPage, OrderedMap.get?_insert_eq]
  by_cases same : probe = key
  · by_cases here : other = page.number
    · simp [same, here]
      rfl
    · simp [same, here, mapped?]
  · simp [same]

/-- A page that settles in a frame owns it. -/
theorem table_settle (other : Subsystem) :
    (machine.settle key page frame).table other =
      if other = key.subsystem then
        (machine.table other).assign frame { space := key.id, page := page.number }
      else machine.table other := by
  rw [settle, table_record, table_updateTable_eq]
  rfl

@[simp] theorem environment_settle :
    (machine.settle key page frame).environment =
      machine.environment.record (.becameResident key page.number frame) := by
  simp [settle]

@[simp] theorem frameBytes_settle :
    (machine.settle key page frame).frameBytes = machine.frameBytes := by
  simp [settle]

theorem isSome_settle (probe : SpaceKey) :
    ((machine.settle key page frame).spaces.get? probe).isSome =
      (machine.spaces.get? probe).isSome := by
  unfold settle
  rw [spaces_record, spaces_updateTable, isSome_updateSpace]

section Loaded

variable {kind : PageKind config} {window : FrameWindow config}

/-- A page that was loaded holds the frame, and is of the kind that the load made of it. -/
theorem page?_settleLoaded (found : (machine.spaces.get? key).isSome) :
    (machine.settleLoaded key page frame kind window).page? =
      amend machine.page? key page.number
        (some { page with kind := kind, frame := some frame }) := by
  have loaded : (((machine.record (.loading key page.number)).putWindow frame window).updateSpace
      key (·.setPage { page with kind := kind })).page? =
        amend machine.page? key page.number (some { page with kind := kind }) :=
    page?_setPage found _
  rw [settleLoaded, page?_settle (by rw [isSome_updateSpace]; exact found), loaded]
  exact amend_amend _

/-- A page that was loaded is mapped to the frame, as not written to. -/
theorem mapped?_settleLoaded (found : (machine.spaces.get? key).isSome) :
    (machine.settleLoaded key page frame kind window).mapped? =
      amend machine.mapped? key page.number
        (some ⟨frame, EntryFlags.userPage page.writable⟩) := by
  rw [settleLoaded, mapped?_settle (by rw [isSome_updateSpace]; exact found), mapped?_setPage]
  rfl

/-- A page that was loaded owns the frame. -/
theorem table_settleLoaded (other : Subsystem) :
    (machine.settleLoaded key page frame kind window).table other =
      if other = key.subsystem then
        (machine.table other).assign frame { space := key.id, page := page.number }
      else machine.table other := by
  rw [settleLoaded, table_settle]
  rfl

@[simp] theorem environment_settleLoaded :
    (machine.settleLoaded key page frame kind window).environment =
      window.environment.record (.becameResident key page.number frame) := by
  rw [settleLoaded, environment_settle]
  rfl

/-- The frame of a page that was loaded has the bytes that the load left in it. -/
theorem frameBytes_settleLoaded (probe : FrameNumber) :
    (machine.settleLoaded key page frame kind window).frameBytes probe =
      if frame = probe then window.bytes else machine.frameBytes probe := by
  rw [settleLoaded, frameBytes_settle]
  exact frameBytes_setFrameBytes ..

end Loaded

/-- A copied page holds the frame. -/
theorem page?_settleCopy (found : (machine.spaces.get? key).isSome) :
    (machine.settleCopy key page frame bytes dirty).page? =
      amend machine.page? key page.number (some { page with frame := some frame }) := by
  have settled : ((machine.setFrameBytes frame bytes).settle key page frame).page? =
      amend machine.page? key page.number (some { page with frame := some frame }) :=
    page?_settle found
  unfold settleCopy
  split <;> simp [settled]

/-- A copied page is mapped to the frame, with the dirty bit that it was settled with. -/
theorem mapped?_settleCopy (found : (machine.spaces.get? key).isSome) :
    (machine.settleCopy key page frame bytes dirty).mapped? =
      amend machine.mapped? key page.number
        (some ⟨frame, { EntryFlags.userPage page.writable with dirty := dirty }⟩) := by
  have settled : ((machine.setFrameBytes frame bytes).settle key page frame).mapped? =
      amend machine.mapped? key page.number
        (some ⟨frame, EntryFlags.userPage page.writable⟩) := mapped?_settle found
  unfold settleCopy
  cases dirty with
  | true =>
    rw [if_pos rfl, mapped?_markDirty (by rw [isSome_settle]; exact found), settled]
    simp
  | false =>
    rw [if_neg nofun, settled]
    rfl

/-- A copied page owns the frame. -/
theorem table_settleCopy (other : Subsystem) :
    (machine.settleCopy key page frame bytes dirty).table other =
      if other = key.subsystem then
        (machine.table other).assign frame { space := key.id, page := page.number }
      else machine.table other := by
  unfold settleCopy
  split <;> simp [table_settle]

@[simp] theorem environment_settleCopy :
    (machine.settleCopy key page frame bytes dirty).environment =
      machine.environment.record (.becameResident key page.number frame) := by
  unfold settleCopy
  split <;> simp

/-- The frame of a copied page has the bytes that were copied. -/
theorem frameBytes_settleCopy (probe : FrameNumber) :
    (machine.settleCopy key page frame bytes dirty).frameBytes probe =
      if frame = probe then bytes else machine.frameBytes probe := by
  unfold settleCopy
  split <;> simp [frameBytes_setFrameBytes]

end Settle

/-! ## A page that ends -/

section End

variable {frame : FrameNumber} {environment : Environment config}

/-- A page without a frame that ends is not registered any more. -/
theorem page?_endAbsent (found : (machine.spaces.get? key).isSome) :
    (machine.endAbsent key number environment).page? = amend machine.page? key number none :=
  page?_dropPage found

@[simp] theorem mapped?_endAbsent :
    (machine.endAbsent key number environment).mapped? = machine.mapped? :=
  mapped?_dropPage

/-- A resident page that ends is not registered any more. -/
theorem page?_endResident (found : (machine.spaces.get? key).isSome) :
    (machine.endResident key number frame environment).page? =
      amend machine.page? key number none := by
  rw [endResident, page?_release]
  exact Eq.trans page?_unmapPage (page?_dropPage found)

/-- A resident page that ends is not mapped any more. -/
theorem mapped?_endResident (found : (machine.spaces.get? key).isSome) :
    (machine.endResident key number frame environment).mapped? =
      amend machine.mapped? key number none := by
  have unmapped : ((machine.updateSpace key (·.dropPage number)).updateSpace key
      (·.unmapPage number)).mapped? = amend machine.mapped? key number none := by
    rw [mapped?_unmapPage ((isSome_updateSpace key).trans found), mapped?_dropPage]
  rw [endResident, mapped?_release]
  exact unmapped

/-- The frame of a page that ends leaves its queue. -/
theorem table_endResident (other : Subsystem) :
    (machine.endResident key number frame environment).table other =
      if other = key.subsystem then (machine.table other).remove frame
      else machine.table other := by
  rw [endResident, table_release]
  rfl

@[simp] theorem environment_endResident :
    (machine.endResident key number frame environment).environment = environment :=
  environment_release

@[simp] theorem frameBytes_endResident :
    (machine.endResident key number frame environment).frameBytes = machine.frameBytes :=
  frameBytes_release

end End

/-! ## Spaces that come and go -/

section Spaces

variable {subsystem : Subsystem} {root : PhysicalAddress}

@[simp] theorem spaces_addSpace :
    (machine.addSpace subsystem root).spaces =
      machine.spaces.insert (machine.nextKey subsystem) (Space.fresh root) := by
  simp [addSpace]

@[simp] theorem pool_addSpace : (machine.addSpace subsystem root).pool = machine.pool := by
  simp [addSpace]

@[simp] theorem environment_addSpace :
    (machine.addSpace subsystem root).environment = machine.environment := by
  simp [addSpace]

@[simp] theorem frameBytes_addSpace :
    (machine.addSpace subsystem root).frameBytes = machine.frameBytes :=
  frameBytes_updateTable ..

/-- Creating a space issues one id, and touches no queue. -/
theorem table_addSpace (other : Subsystem) :
    (machine.addSpace subsystem root).table other =
      if other = subsystem then
        { machine.table other with nextSpace := (machine.table other).nextSpace + 1 }
      else machine.table other :=
  table_updateTable_eq ..

/-- Creating a space touches no queue. -/
theorem queue_addSpace (other : Subsystem) :
    ((machine.addSpace subsystem root).table other).queue = (machine.table other).queue := by
  rw [table_addSpace]
  split <;> rfl

/-- A space that is created has nothing yet. -/
theorem space_addSpace (probe : SpaceKey) :
    (machine.addSpace subsystem root).space probe =
      if probe = machine.nextKey subsystem then Space.fresh root else machine.space probe := by
  rw [Machine.space, spaces_addSpace, OrderedMap.get?_insert_eq]
  split <;> rfl

/-- Creating a space registers no page. -/
theorem page?_addSpace (vacant : ∀ number, machine.page? (machine.nextKey subsystem) number = none) :
    (machine.addSpace subsystem root).page? = machine.page? := by
  funext probe other
  rw [page?, space_addSpace]
  split
  · next same =>
    rw [same, vacant other]
    rfl
  · rfl

/-- Creating a space maps no page. -/
theorem mapped?_addSpace
    (vacant : ∀ number, machine.mapped? (machine.nextKey subsystem) number = none) :
    (machine.addSpace subsystem root).mapped? = machine.mapped? := by
  funext probe other
  rw [mapped?, space_addSpace]
  split
  · next same =>
    rw [same, vacant other]
    rfl
  · rfl

/-- A space that is forgotten reads like one that was never there. -/
theorem space_erase (probe : SpaceKey) :
    ({ machine with spaces := machine.spaces.erase key } : Machine config).space probe =
      if probe = key then { Space.fresh default with registered := false }
      else machine.space probe := by
  rw [Machine.space, OrderedMap.get?_erase_eq]
  split <;> rfl

/-- Forgetting a space without pages forgets no page. -/
theorem page?_erase (vacant : ∀ number, machine.page? key number = none) :
    ({ machine with spaces := machine.spaces.erase key } : Machine config).page? =
      machine.page? := by
  funext probe other
  rw [page?, space_erase]
  split
  · next same =>
    rw [same, vacant other]
    rfl
  · rfl

/-- Forgetting a space without mappings forgets no mapping. -/
theorem mapped?_erase (vacant : ∀ number, machine.mapped? key number = none) :
    ({ machine with spaces := machine.spaces.erase key } : Machine config).mapped? =
      machine.mapped? := by
  funext probe other
  rw [mapped?, space_erase]
  split
  · next same =>
    rw [same, vacant other]
    rfl
  · rfl

end Spaces

end Machine

/-! ## The environment -/

namespace Transition

open Machine

variable {config : Config} {transition : Transition config} {machine next : Machine config}

/-- Whether no page is transferred and nobody outside the kernel interferes. -/
def SparesDevices : Transition config → Prop
  | .evict _ _ _ | .load _ _ _ | .spoil _ _ _ _ | .discard _ _ | .setFile _ _ | .createFile _ _
  | .listInitializer _ | .setSwapFaults => False
  | _ => True

/-- Files, swap device and initializers stay as they are; at most something is recorded. -/
theorem Leads.environment_eq (leads : transition.Leads machine next)
    (spares : transition.SparesDevices) :
    next.environment =
      { machine.environment with
        moment := next.environment.moment, history := next.environment.history } := by
  cases leads with
  | note | register | unregister | store | set | forget | lend | reclaim => rfl
  | take =>
    rw [environment_take]
    rfl
  | release => rw [environment_release]
  | pin => rw [environment_updateTable]
  | copy =>
    rw [environment_settleCopy]
    rfl
  | create => rw [environment_addSpace]
  | evict | load | spoil | discard | discardResident | setFile | createFile | listInitializer
  | setSwapFaults => exact spares.elim

end Transition

end DemandPaging

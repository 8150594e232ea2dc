import DemandPaging.Proofs.TransitionViews
import DemandPaging.Proofs.Transfer

/-!
# Page map and page table fit together

A page is mapped exactly while it holds a frame, to that frame and with the flags that its
permissions ask for, and it is stored under its own number. `Machine.Fits` says so for all pages of
all spaces, and `Transition.Leads.fits` that no transition changes it.
-/

namespace DemandPaging

variable {config : Config}

/-- The flags with which a page is mapped, whether it was written to or not. -/
def EntryFlags.mapped (writable dirty : Bool) : EntryFlags :=
  { EntryFlags.userPage writable with dirty := dirty }

/-- What the page map and the page table of a space may say of one page. -/
inductive Page.Fits (number : PageNumber) :
    Option (Page config) → Option PageTableEntry → Prop where
  | vacant : Fits number none none
  | absent {page : Page config} (numbered : page.number = number) (absent : page.frame = none) :
    Fits number (some page) none
  | resident {page : Page config} {frame : FrameNumber} {dirty : Bool}
      (numbered : page.number = number) (resident : page.frame = some frame)
      (isLoaded : page.kind.IsLoaded) :
    Fits number (some page) (some ⟨frame, EntryFlags.mapped page.writable dirty⟩)

namespace Page.Fits

variable {number : PageNumber} {page : Page config} {entry : Option PageTableEntry}

/-- A registered page knows its own number. -/
theorem number_eq (fits : Page.Fits number (some page) entry) : page.number = number := by
  cases fits with
  | absent numbered => exact numbered
  | resident numbered => exact numbered

/-- A page without a frame is not mapped. -/
theorem entry_of_absent (fits : Page.Fits number (some page) entry) (absent : page.frame = none) :
    entry = none := by
  cases fits with
  | absent => rfl
  | resident _ resident =>
    rw [absent] at resident
    cases resident

/-- What is not registered is not mapped. -/
theorem entry_of_vacant (fits : @Page.Fits config number none entry) :
    entry = none := by
  cases fits
  rfl

/-- A resident page has been loaded, and is mapped to its frame with the flags of its permission. -/
theorem entry_of_resident (fits : Page.Fits number (some page) entry) {frame : FrameNumber}
    (resident : page.frame = some frame) :
    page.kind.IsLoaded ∧ ∃ dirty, entry = some ⟨frame, EntryFlags.mapped page.writable dirty⟩ := by
  cases fits with
  | absent _ absent =>
    rw [absent] at resident
    cases resident
  | resident _ held isLoaded =>
    rw [held] at resident
    cases resident
    exact ⟨isLoaded, _, rfl⟩

end Page.Fits

namespace Machine

/-- Page map and page table fit together at every page of every space. -/
def Fits (machine : Machine config) : Prop :=
  ∀ key number, Page.Fits number (machine.page? key number) (machine.mapped? key number)

/-- The names that spaces will get are not in use. -/
def Unissued (machine : Machine config) : Prop :=
  ∀ subsystem, machine.spaces.get? (machine.nextKey subsystem) = none

variable {machine next : Machine config} {key : SpaceKey} {number : PageNumber}

/-- A space that does not exist yet has no pages. -/
theorem Unissued.vacant (unissued : machine.Unissued) (subsystem : Subsystem)
    (number : PageNumber) : machine.page? (machine.nextKey subsystem) number = none := by
  rw [page?, Machine.space, unissued]
  rfl

/-- A page is registered under its own number. -/
theorem Fits.number_eq (fits : machine.Fits) {page : Page config}
    (found : machine.page? key number = some page) : page.number = number := by
  have here := fits key number
  rw [found] at here
  exact here.number_eq

/-- The hardware does not map a page that holds no frame. -/
theorem Fits.entry_of_absent (fits : machine.Fits) {page : Page config}
    (found : machine.page? key number = some page) (absent : page.frame = none) :
    machine.mapped? key number = none := by
  have here := fits key number
  rw [found] at here
  exact here.entry_of_absent absent

/-- The hardware does not map what is not registered. -/
theorem Fits.entry_of_vacant (fits : machine.Fits) (vacant : machine.page? key number = none) :
    machine.mapped? key number = none := by
  have here := fits key number
  rw [vacant] at here
  exact here.entry_of_vacant

/-- A resident page is one that can hold a frame, and it is mapped to the frame it holds. -/
theorem Fits.entry_of_resident (fits : machine.Fits) {page : Page config} {frame : FrameNumber}
    (found : machine.page? key number = some page) (resident : page.frame = some frame) :
    page.kind.IsLoaded ∧ ∃ dirty,
      machine.mapped? key number = some ⟨frame, EntryFlags.mapped page.writable dirty⟩ := by
  have here := fits key number
  rw [found] at here
  exact here.entry_of_resident resident

/-- A page that holds a frame has been loaded. -/
theorem Fits.isLoaded (fits : machine.Fits) {page : Page config} {frame : FrameNumber}
    (found : machine.page? key number = some page) (resident : page.frame = some frame) :
    page.kind.IsLoaded :=
  (fits.entry_of_resident found resident).1

/-- A page that cannot hold a frame holds none. -/
theorem Fits.absent_of_not_isLoaded (fits : machine.Fits) {page : Page config}
    (found : machine.page? key number = some page) (unloaded : ¬ page.kind.IsLoaded) :
    page.frame = none := by
  cases resident : page.frame with
  | none => rfl
  | some frame => exact absurd (fits.isLoaded found resident) unloaded

/-- What a page became whose frame was taken away. -/
theorem Fits.stored (fits : machine.Fits) {page : Page config} {frame : FrameNumber}
    (found : machine.page? key number = some page) (resident : page.frame = some frame)
    {bytes : PageBytes config} {dirty : Bool} {environment after : Environment config}
    {kind : PageKind config}
    (stored : page.kind.store page.number bytes dirty environment = .done kind after) :
    page.kind.Stored bytes dirty environment kind after :=
  (PageKind.store_ends (fits.isLoaded found resident) ..).of_done stored

/-- A mapping belongs to a resident page. -/
theorem Fits.page_of_entry (fits : machine.Fits) {entry : PageTableEntry}
    (mapped : machine.mapped? key number = some entry) :
    ∃ page, machine.page? key number = some page ∧ page.frame = some entry.frame ∧
      page.kind.IsLoaded ∧ ∃ dirty, entry.flags = EntryFlags.mapped page.writable dirty := by
  have here := fits key number
  rw [mapped] at here
  cases found : machine.page? key number with
  | none =>
    rw [found] at here
    cases here
  | some page =>
    rw [found] at here
    cases here with
    | resident _ resident isLoaded => exact ⟨page, rfl, resident, isLoaded, _, rfl⟩

/-- Whether page maps and page tables fit together is read from the two of them only. -/
theorem Fits.congr (fits : machine.Fits) (pages : next.page? = machine.page?)
    (entries : next.mapped? = machine.mapped?) : next.Fits := by
  intro key number
  rw [pages, entries]
  exact fits key number

/-- Only the page that changes has to be looked at again. -/
theorem Fits.amend (fits : machine.Fits) {page : Option (Page config)}
    {entry : Option PageTableEntry}
    (pages : next.page? = DemandPaging.amend machine.page? key number page)
    (entries : next.mapped? = DemandPaging.amend machine.mapped? key number entry)
    (here : Page.Fits number page entry) : next.Fits := by
  intro probe other
  rw [pages, entries]
  unfold DemandPaging.amend
  split
  · next same =>
    rw [same.2]
    exact here
  · exact fits probe other

end Machine

/-- A page that has content to copy becomes, in the copy, one that can hold a frame. -/
theorem Machine.Provides.isLoaded {machine : Machine config} {key : SpaceKey} {page : Page config}
    {bytes : PageBytes config} {dirty : Bool} (provides : machine.Provides key page bytes dirty) :
    page.forked.kind.IsLoaded := by
  cases provides with
  | frame isLoaded =>
    cases known : page.kind with
    | unloaded target initializer => exact absurd known (isLoaded target initializer)
    | anonymous => simp [Page.forked, PageKind.forked, known, PageKind.IsLoaded]
    | file => simp [Page.forked, PageKind.forked, known, PageKind.IsLoaded]
  | slot kept => simp [Page.forked, PageKind.forked, kept, PageKind.IsLoaded]

namespace Transition

open Machine

variable {transition : Transition config} {machine next : Machine config}

/-- No transition makes page map and page table contradict each other. -/
theorem Leads.fits (leads : transition.Leads machine next) (fits : machine.Fits)
    (unissued : machine.Unissued) : next.Fits := by
  cases leads with
  | note | setFile | createFile | listInitializer | setSwapFaults | lend | reclaim | spoil =>
    exact fits.congr rfl rfl
  | take | release | pin => exact fits.congr (by simp) (by simp)
  | @evict _ key page frame remaining kind environment _ _ found =>
    have space := isSome_of_page? found
    exact fits.amend (page?_evicted space) (mapped?_evicted space) (.absent rfl rfl)
  | @load _ key page frame kind window found absent awaits loaded =>
    have space := isSome_of_page? found
    have isLoaded := ((page.kind.load_ends page.number _).of_done loaded).isLoaded
    exact fits.amend (page?_settleLoaded space) (mapped?_settleLoaded space)
      (.resident rfl rfl isLoaded)
  | @copy _ child parent page frame bytes dirty _ found _ provides =>
    have space := isSome_of_page? found
    exact fits.amend (page?_settleCopy space) (mapped?_settleCopy space)
      (.resident rfl rfl provides.isLoaded)
  | @register _ key page vacant absent _ spaceExists =>
    refine fits.amend (page?_setPage spaceExists page) ?_ (.absent rfl absent)
    rw [mapped?_setPage, amend_eq (fits.entry_of_vacant vacant)]
  | @unregister _ key page target initializer found unloaded =>
    refine fits.amend (page?_dropPage (isSome_of_page? found)) ?_ .vacant
    rw [mapped?_dropPage, amend_eq]
    refine fits.entry_of_absent found (fits.absent_of_not_isLoaded found ?_)
    rw [unloaded]
    exact PageKind.not_isLoaded_unloaded
  | @discard _ key page environment found absent =>
    refine fits.amend (page?_endAbsent (isSome_of_page? found)) ?_ .vacant
    rw [mapped?_endAbsent, amend_eq (fits.entry_of_absent found absent)]
  | discardResident found =>
    have space := isSome_of_page? found
    exact fits.amend (page?_endResident space) (mapped?_endResident space) .vacant
  | @store _ key page frame position piece found resident =>
    have space := isSome_of_page? found
    obtain ⟨isLoaded, dirty, mapped⟩ := fits.entry_of_resident found resident
    refine fits.amend (page?_markDirty.trans (amend_eq found).symm)
      (mapped?_markDirty space) ?_
    rw [mapped?_setFrameBytes, mapped]
    exact .resident rfl resident isLoaded
  | set isSetting =>
    refine fits.congr (page?_updateSpace_of_same fun space => ?_)
      (mapped?_updateSpace_of_same fun space => ?_)
    · rw [isSetting space]
    · rw [isSetting space]
  | @create _ subsystem root =>
    have vacant := unissued.vacant subsystem
    exact fits.congr (page?_addSpace vacant)
      (mapped?_addSpace fun number => fits.entry_of_vacant (vacant number))
  | forget empty =>
    exact fits.congr (page?_erase empty)
      (mapped?_erase fun number => fits.entry_of_vacant (empty number))

end Transition

/-! ## Which spaces exist -/

/-- Picking a victim counts nothing; the eviction is counted once it has happened. -/
theorem FrameTable.counts_pickVictim {table remaining : FrameTable} {victim : FrameEntry}
    (picked : table.pickVictim = some (victim, remaining)) :
    remaining.evictions = table.evictions ∧ remaining.nextSpace = table.nextSpace := by
  unfold FrameTable.pickVictim at picked
  obtain ⟨_, _, same⟩ := Option.map_eq_some_iff.mp picked
  cases same
  exact ⟨rfl, rfl⟩

namespace Machine

variable {machine next : Machine config} {key : SpaceKey} {change : Space config → Space config}

/-- Whether a space is registered, if it exists. -/
def registration (machine : Machine config) (key : SpaceKey) : Option Bool :=
  (machine.spaces.get? key).map Space.registered

/-- All spaces are registered, and their ids have been issued. -/
def SpacesKnown (machine : Machine config) : Prop :=
  ∀ key registered, machine.registration key = some registered →
    registered = true ∧ key.id.index < (machine.table key.subsystem).nextSpace

/-- Ids are issued in order, so those to come are not in use. -/
theorem SpacesKnown.unissued (known : machine.SpacesKnown) : machine.Unissued := by
  intro subsystem
  cases present : machine.spaces.get? (machine.nextKey subsystem) with
  | none => rfl
  | some space =>
    have issued := (known _ space.registered (by rw [registration, present]; rfl)).2
    exact absurd issued (Nat.lt_irrefl _)

/-- Registration is read from the spaces. -/
theorem registration_congr (same : next.spaces = machine.spaces) :
    next.registration = machine.registration := by
  funext key
  rw [registration, registration, same]

/-- A change of a space that does not touch its registration leaves all registrations alone. -/
theorem registration_updateSpace (keeps : ∀ space, (change space).registered = space.registered) :
    (machine.updateSpace key change).registration = machine.registration := by
  funext probe
  unfold registration updateSpace
  rw [OrderedMap.get?_modify_eq]
  split
  · rw [Option.map_map]
    exact congrArg (Option.map · _) (funext keeps)
  · rfl

@[simp] theorem registration_updateTable (subsystem : Subsystem)
    (update : FrameTable → FrameTable) :
    (machine.updateTable subsystem update).registration = machine.registration :=
  registration_congr (spaces_updateTable ..)

theorem registration_evicted {number : PageNumber} {remaining : FrameTable} {stored : Page config}
    {environment : Environment config} {frame : FrameNumber} :
    ((machine.beforeStore key number remaining).vacate key stored environment
      frame).registration = machine.registration := by
  have before : (machine.beforeStore key number remaining).registration =
      machine.registration := by
    refine Eq.trans (registration_updateSpace fun _ => rfl) (registration_congr ?_)
    simp
  rw [← before, vacate, registration_updateTable,
    registration_congr (spaces_setFrameBytes ..), registration_updateTable]
  exact registration_updateSpace fun _ => rfl

theorem registration_settle {page : Page config} {frame : FrameNumber} :
    (machine.settle key page frame).registration = machine.registration := by
  rw [settle, registration_congr (spaces_record ..), registration_updateTable]
  exact registration_updateSpace fun _ => rfl

theorem registration_settleCopy {page : Page config} {frame : FrameNumber}
    {bytes : PageBytes config} {dirty : Bool} :
    (machine.settleCopy key page frame bytes dirty).registration = machine.registration := by
  unfold settleCopy
  split
  · exact Eq.trans (registration_updateSpace fun _ => rfl) registration_settle
  · exact registration_settle

/-- What is known of spaces depends on their registration and on the next ids. -/
theorem SpacesKnown.of_same (known : machine.SpacesKnown)
    (same : next.registration = machine.registration)
    (tables : ∀ subsystem,
      (next.table subsystem).nextSpace = (machine.table subsystem).nextSpace) :
    next.SpacesKnown := by
  intro key registered present
  rw [same] at present
  rw [tables]
  exact known key registered present

/-- A space that is created gets the next id, and is registered. -/
theorem SpacesKnown.addSpace (known : machine.SpacesKnown) (subsystem : Subsystem)
    (root : PhysicalAddress) : (machine.addSpace subsystem root).SpacesKnown := by
  intro key registered present
  rw [registration, spaces_addSpace, OrderedMap.get?_insert_eq] at present
  rw [table_addSpace]
  split at present
  · next same =>
    cases present
    rw [same]
    simp [nextKey, Space.fresh]
  · have before := known key registered present
    split
    · exact ⟨before.1, Nat.lt_succ_of_lt before.2⟩
    · exact before

/-- Forgetting a space leaves the others known. -/
theorem SpacesKnown.erase (known : machine.SpacesKnown) (key : SpaceKey) :
    ({ machine with spaces := machine.spaces.erase key } : Machine config).SpacesKnown := by
  intro probe registered present
  rw [registration, OrderedMap.get?_erase_eq] at present
  split at present
  · cases present
  · exact known probe registered present

end Machine

namespace Transition

open Machine

variable {transition : Transition config} {machine next : Machine config}

/-- Whether a transition leaves alone which spaces there are. -/
def KeepsSpaces : Transition config → Prop
  | .create _ | .forget _ => False
  | _ => True

/-- A transition that creates and drops no space changes no registration. -/
theorem Leads.registration_eq (leads : transition.Leads machine next)
    (keeps : transition.KeepsSpaces) : next.registration = machine.registration := by
  cases leads with
  | note | setFile | createFile | listInitializer | setSwapFaults | lend | reclaim | spoil => rfl
  | take | release | pin => exact registration_congr (by simp)
  | evict => exact registration_evicted
  | load =>
    rw [settleLoaded, registration_settle]
    exact registration_updateSpace fun _ => rfl
  | copy => exact registration_settleCopy
  | register | unregister | discard | store => exact registration_updateSpace fun _ => rfl
  | discardResident =>
    rw [endResident, registration_congr spaces_release]
    exact Eq.trans (registration_updateSpace fun _ => rfl) (registration_updateSpace fun _ => rfl)
  | set isSetting =>
    refine registration_updateSpace fun space => ?_
    rw [isSetting space]
  | create | forget => exact keeps.elim

/-- How many evictions a transition counts for a subsystem. -/
def evictions (subsystem : Subsystem) : Transition config → Nat
  | .evict key _ _ => if key.subsystem = subsystem then 1 else 0
  | _ => 0

/-- How many ids of spaces a transition issues for a subsystem. -/
def issues (subsystem : Subsystem) : Transition config → Nat
  | .create key => if key.subsystem = subsystem then 1 else 0
  | _ => 0

/-- The counters of a subsystem advance by what the transition counts, and by nothing else. -/
theorem Leads.counters (leads : transition.Leads machine next) (subsystem : Subsystem) :
    (next.table subsystem).evictions =
        (machine.table subsystem).evictions + transition.evictions subsystem ∧
      (next.table subsystem).nextSpace =
        (machine.table subsystem).nextSpace + transition.issues subsystem := by
  cases leads with
  | note | setFile | createFile | listInitializer | setSwapFaults | lend | reclaim | spoil
  | register | unregister | discard | store | set | forget => exact ⟨rfl, rfl⟩
  | take | release | pin =>
    simp only [table_take, table_release, table_updateTable_eq]
    split <;> exact ⟨rfl, rfl⟩
  | load =>
    rw [table_settleLoaded]
    split <;> exact ⟨rfl, rfl⟩
  | copy =>
    rw [table_settleCopy]
    split <;> exact ⟨rfl, rfl⟩
  | discardResident =>
    rw [table_endResident]
    split <;> exact ⟨rfl, rfl⟩
  | evict _ picked =>
    rw [table_evicted]
    split
    · next same =>
      subst same
      obtain ⟨counted, issued⟩ := FrameTable.counts_pickVictim picked
      simp [evictions, issues, FrameTable.push, FrameTable.countEviction, counted, issued]
    · next different => simp [evictions, issues, Ne.symm different]
  | create =>
    rw [table_addSpace]
    split
    · next same => simp [evictions, issues, nextKey, same]
    · next different => simp [evictions, issues, nextKey, Ne.symm different]

/-- A transition that creates no space issues no id. -/
theorem Leads.nextSpace_eq (leads : transition.Leads machine next)
    (keeps : transition.KeepsSpaces) (subsystem : Subsystem) :
    (next.table subsystem).nextSpace = (machine.table subsystem).nextSpace := by
  rw [(leads.counters subsystem).2]
  cases transition with
  | create => exact keeps.elim
  | _ => rfl

/-- Whether a transition leaves alone which pages there are and what kind of page each is. A
transition that does not changes one page only. -/
def KeepsPages : Transition config → Prop
  | .evict _ _ _ | .load _ _ _ | .copy _ _ _ _ | .register _ _ | .unregister _ _ | .discard _ _ =>
    False
  | _ => True

/-- A transition that is about no page leaves all pages as they were. -/
theorem Leads.page?_eq (leads : transition.Leads machine next) (unissued : machine.Unissued)
    (keeps : transition.KeepsPages) : next.page? = machine.page? := by
  cases leads with
  | note | spoil | setFile | createFile | listInitializer | setSwapFaults | lend | reclaim => rfl
  | take => exact page?_take
  | release => exact page?_release
  | pin => exact page?_updateTable ..
  | store => exact page?_markDirty
  | set isSetting =>
    refine page?_updateSpace_of_same fun space => ?_
    rw [isSetting space]
  | create => exact page?_addSpace (unissued.vacant _)
  | forget empty => exact page?_erase empty
  | evict | load | copy | register | unregister | discard | discardResident => exact keeps.elim

/-- No transition forgets that a space is registered or issues an id twice. -/
theorem Leads.spacesKnown (leads : transition.Leads machine next)
    (known : machine.SpacesKnown) : next.SpacesKnown := by
  by_cases keeps : transition.KeepsSpaces
  · exact known.of_same (leads.registration_eq keeps) (leads.nextSpace_eq keeps)
  · cases leads with
    | create => exact known.addSpace _ _
    | forget => exact known.erase _
    | _ => exact absurd trivial keeps

end Transition

end DemandPaging

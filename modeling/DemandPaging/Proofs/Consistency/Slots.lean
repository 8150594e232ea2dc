import DemandPaging.Proofs.Consistency.Spaces

/-!
# Every swap slot belongs to one page

The allocated slots are those that pages hold, each held by one page and each with the content of
that page.
-/

namespace DemandPaging

variable {config : Config}

/-- A page that can hold a frame has no slot. -/
theorem PageKind.IsLoaded.slot?_eq {kind : PageKind config} (isLoaded : kind.IsLoaded) :
    kind.slot? = none := by
  match kind with
  | .anonymous slot => exact isLoaded
  | .file _ => rfl

/-- Ending a resident page never touches the swap device. -/
theorem PageKind.swap_of_discard_resident {kind : PageKind config} (isLoaded : kind.IsLoaded)
    {bytes : PageBytes config} {dirty : Bool} {environment later : Environment config}
    {result : Except VmError Unit}
    (ended : (kind.discard (some (bytes, dirty))).attempt environment = .done result later) :
    later.swap = environment.swap := by
  rcases PageKind.sameBut_of_discard_resident isLoaded ended with rfl | ⟨_, _, same⟩
  · rfl
  · exact same.swap

namespace Machine

variable {machine next : Machine config} {key : SpaceKey} {number : PageNumber}

/-- What a swap slot holds: nothing if it is free. -/
def stored? (machine : Machine config) (slot : SwapSlot) : Option (Option (PageBytes config)) :=
  machine.environment.swap.slots.get? slot

/-- The allocated slots are those that pages hold, each once and with content. -/
structure SlotsAgree (machine : Machine config) : Prop where
  recorded : ∀ slot, (machine.stored? slot).isSome →
    ∃ key number, machine.slot? key number = some slot
  written : ∀ {key number slot}, machine.slot? key number = some slot →
    ∃ content, machine.stored? slot = some (some content)
  unique : ∀ {key number slot key' number'}, machine.slot? key number = some slot →
    machine.slot? key' number' = some slot → key = key' ∧ number = number'

/-- Where one page is replaced, one slot may be. -/
theorem slot?_of_page? {page : Option (Page config)}
    (pages : next.page? = amend machine.page? key number page) :
    next.slot? = amend machine.slot? key number (page.bind fun page => page.kind.slot?) := by
  funext probe other
  rw [slot?, pages]
  unfold amend
  split <;> rfl

/-- The slots of pages are read from the pages. -/
theorem slot?_congr (pages : next.page? = machine.page?) : next.slot? = machine.slot? := by
  funext probe other
  rw [slot?, slot?, pages]

/-- The slot of a page is read from its kind. -/
theorem slot?_of_found {page : Page config} (found : machine.page? key number = some page) :
    machine.slot? key number = page.kind.slot? := by
  rw [slot?, found]
  rfl

/-- What can happen to slots and to the pages that hold them. -/
inductive SlotChange (machine next : Machine config) : Prop where
  | same (slots : next.slot? = machine.slot?) (stored : next.stored? = machine.stored?)
  /-- A page gets a free slot. -/
  | filled {key : SpaceKey} {number : PageNumber} {slot : SwapSlot} (content : PageBytes config)
      (free : machine.stored? slot = none) (slotless : machine.slot? key number = none)
      (slots : next.slot? = amend machine.slot? key number (some slot))
      (stored : ∀ probe, next.stored? probe =
        if probe = slot then some (some content) else machine.stored? probe)
  /-- A page gives its slot back. -/
  | freed {key : SpaceKey} {number : PageNumber} {slot : SwapSlot}
      (holds : machine.slot? key number = some slot)
      (slots : next.slot? = amend machine.slot? key number none)
      (stored : ∀ probe, next.stored? probe =
        if probe = slot then none else machine.stored? probe)

/-- Where neither pages nor swap change, no slot does. -/
theorem SlotChange.of_swap (slots : next.slot? = machine.slot?)
    (swap : next.environment.swap = machine.environment.swap) : SlotChange machine next :=
  .same slots (by unfold stored?; rw [swap])

namespace SlotsAgree

/-- Slots and pages agree as long as neither what pages hold nor what slots store changes. -/
theorem congr (agree : machine.SlotsAgree) (slots : next.slot? = machine.slot?)
    (stored : next.stored? = machine.stored?) : next.SlotsAgree where
  recorded := by
    rw [slots, stored]
    exact agree.recorded
  written := by
    rw [slots, stored]
    exact agree.written
  unique := by
    rw [slots]
    exact agree.unique

/-- The slot that a page holds is allocated. -/
theorem allocated (agree : machine.SlotsAgree) {page : Page config}
    (found : machine.page? key number = some page) (slot : SwapSlot)
    (holds : page.kind.slot? = some slot) :
    machine.environment.swap.slots.contains slot = true := by
  obtain ⟨content, present⟩ := agree.written ((slot?_of_found found).trans holds)
  exact OrderedMap.contains_eq_true_iff.mpr ⟨_, present⟩

/-- A page gets a free slot. -/
theorem fill (agree : machine.SlotsAgree) {slot : SwapSlot} (content : PageBytes config)
    (free : machine.stored? slot = none) (slotless : machine.slot? key number = none)
    (slots : next.slot? = amend machine.slot? key number (some slot))
    (stored : ∀ probe, next.stored? probe =
      if probe = slot then some (some content) else machine.stored? probe) : next.SlotsAgree where
  recorded probe allocated := by
    rw [stored] at allocated
    split at allocated
    · next same =>
      subst same
      exact ⟨key, number, by rw [slots, amend_self]⟩
    · obtain ⟨holder, page, holds⟩ := agree.recorded probe allocated
      refine ⟨holder, page, ?_⟩
      rw [slots, amend_of_ne, holds]
      rintro ⟨rfl, rfl⟩
      rw [slotless] at holds
      cases holds
  written {holder page probe} holds := by
    rw [stored]
    split
    · exact ⟨content, rfl⟩
    · next different =>
      rw [slots] at holds
      unfold amend at holds
      split at holds
      · cases holds
        exact absurd rfl different
      · exact agree.written holds
  unique {left page probe right page'} holds holds' := by
    have unheld : ∀ {holder page}, machine.slot? holder page ≠ some slot := by
      intro holder page held
      obtain ⟨content, present⟩ := agree.written held
      rw [free] at present
      cases present
    rw [slots] at holds holds'
    unfold amend at holds holds'
    split at holds <;> split at holds'
    · next first second => exact ⟨first.1.trans second.1.symm, first.2.trans second.2.symm⟩
    · cases holds
      exact absurd holds' unheld
    · cases holds'
      exact absurd holds unheld
    · exact agree.unique holds holds'

/-- A page gives its slot back. -/
theorem free (agree : machine.SlotsAgree) {slot : SwapSlot}
    (holds : machine.slot? key number = some slot)
    (slots : next.slot? = amend machine.slot? key number none)
    (stored : ∀ probe, next.stored? probe =
      if probe = slot then none else machine.stored? probe) : next.SlotsAgree where
  recorded probe allocated := by
    rw [stored] at allocated
    split at allocated
    · cases allocated
    · next different =>
      obtain ⟨holder, page, held⟩ := agree.recorded probe allocated
      refine ⟨holder, page, ?_⟩
      rw [slots, amend_of_ne, held]
      rintro ⟨rfl, rfl⟩
      rw [holds] at held
      cases held
      exact different rfl
  written {holder page probe} held := by
    rw [slots] at held
    unfold amend at held
    split at held
    · cases held
    · next elsewhere =>
      rw [stored, if_neg fun same => elsewhere ?_]
      · exact agree.written held
      · subst same
        exact agree.unique held holds
  unique {left page probe right page'} held held' := by
    rw [slots] at held held'
    unfold amend at held held'
    split at held <;> split at held'
    · cases held
    · cases held
    · cases held'
    · exact agree.unique held held'

/-- Slots and pages agree after a change if they did before. -/
theorem change (agree : machine.SlotsAgree) (change : SlotChange machine next) :
    next.SlotsAgree := by
  cases change with
  | same slots stored => exact agree.congr slots stored
  | filled content free slotless slots stored => exact agree.fill content free slotless slots stored
  | freed holds slots stored => exact agree.free holds slots stored

/-- The slot that a page keeps holds what it held. -/
theorem stored?_eq (agree : machine.SlotsAgree) (change : SlotChange machine next)
    {slot : SwapSlot} (holds : machine.slot? key number = some slot)
    (kept : next.slot? key number = some slot) : next.stored? slot = machine.stored? slot := by
  cases change with
  | same _ stored => rw [stored]
  | filled _ free _ _ stored =>
    obtain ⟨content, present⟩ := agree.written holds
    rw [stored, if_neg]
    rintro rfl
    rw [free] at present
    cases present
  | freed holds' slots stored =>
    rw [stored, if_neg]
    rintro rfl
    obtain ⟨rfl, rfl⟩ := agree.unique holds holds'
    rw [slots, amend_self] at kept
    cases kept

end SlotsAgree

end Machine

namespace Transition

open Machine

variable {transition : Transition config} {machine next : Machine config}

/-- A transition gives a page a slot, or takes one from it, or does nothing with slots. -/
theorem Leads.slotChange (leads : transition.Leads machine next) (agree : machine.SlotsAgree)
    (fits : machine.Fits) (unissued : machine.Unissued) : SlotChange machine next := by
  have pages := leads.page?_eq unissued
  have swap (spares : transition.SparesDevices) : next.environment.swap = machine.environment.swap := by
    rw [leads.environment_eq spares]
  cases leads with
  | setFile | createFile | listInitializer | setSwapFaults => exact .same rfl rfl
  | @spoil _ key page frame error window _ _ _ failed =>
    have same := ((page.kind.load_ends page.number _).of_failed failed).1
    exact .of_swap rfl same.swap
  | @evict _ key page frame remaining kind environment _ _ found resident stored =>
    have slots := slot?_of_page? (@page?_evicted _ machine key page.number
      { page with kind := kind, frame := none } environment frame remaining
        (isSome_of_page? found))
    -- A resident page holds no slot, so all that can happen to it here is that it gets one.
    have isLoaded := fits.isLoaded found resident
    have slotless := (slot?_of_found found).trans isLoaded.slot?_eq
    have how := fits.stored found resident stored
    generalize held : page.kind = before at how
    cases how with
    | blank => exact .of_swap (slots.trans (amend_eq slotless)) (by simp; rfl)
    | clean => exact .of_swap (slots.trans (amend_eq slotless)) (by simp; rfl)
    | toFile =>
      refine .of_swap (slots.trans (amend_eq slotless)) ?_
      rw [environment_vacate]
      split <;> simp [FileBacking.writtenBack] <;> rfl
    | @toSlot slot used fresh =>
      have free : machine.stored? slot = none := by
        have lowest := SwapDevice.get?_of_lowestFree fresh
        rw [environment_beforeStore] at lowest
        exact lowest
      refine .filled (machine.frameBytes frame) free slotless slots fun probe => ?_
      unfold stored?
      rw [environment_vacate, environment_beforeStore]
      show (OrderedMap.insert _ slot _).get? probe = _
      rw [OrderedMap.get?_insert_eq, SwapDevice.allocate, OrderedMap.get?_insert_eq]
      split <;> rfl
  | @load _ key page frame kind window found absent _ loaded =>
    have slots := slot?_of_page? (@page?_settleLoaded _ machine key page frame kind window
      (isSome_of_page? found))
    have how := (page.kind.load_ends page.number _).of_done loaded
    -- Only a page that comes from its slot gives one back; the other kinds had none before either.
    have slotless : page.kind.slot? = none → kind.slot? = none →
        (machine.settleLoaded key page frame kind window).slot? = machine.slot? := by
      intro before after
      refine slots.trans ?_
      show amend machine.slot? key page.number kind.slot? = _
      rw [after]
      exact amend_eq ((slot?_of_found found).trans before)
    generalize held : page.kind = before at how slotless
    cases how with
    | @fromSlot slot content read =>
      refine .freed ((slot?_of_found found).trans (by rw [held]; rfl)) slots fun probe => ?_
      unfold stored?
      rw [environment_settleLoaded]
      exact OrderedMap.get?_erase_eq ..
    | blank => exact .of_swap (slotless rfl rfl) (by rw [environment_settleLoaded]; rfl)
    | fromFile covered same =>
      refine .of_swap (slotless rfl rfl) ?_
      rw [environment_settleLoaded]
      exact same.swap
    | first filled applied same =>
      refine .of_swap (slotless rfl ?_) ?_
      · cases filled <;> rfl
      · rw [environment_settleLoaded]
        exact same.swap
  | @copy _ child parent page frame bytes dirty _ found _ provides =>
    refine .of_swap ?_ (by rw [environment_settleCopy]; rfl)
    have slotless := slot?_of_found found
    rw [slot?_of_page? (page?_settleCopy (isSome_of_page? found))]
    exact amend_eq slotless
  | @register _ key page vacant absent slotless spaceExists =>
    refine .of_swap ?_ rfl
    rw [slot?_of_page? (page?_setPage spaceExists page)]
    exact amend_eq (by rw [slot?, vacant]; exact slotless.symm)
  | @unregister _ key page target initializer found unloaded =>
    refine .of_swap ?_ rfl
    rw [slot?_of_page? (page?_dropPage (isSome_of_page? found))]
    exact amend_eq ((slot?_of_found found).trans (by rw [unloaded]; rfl))
  | @discard _ key page environment found absent ended =>
    have slots := slot?_of_page? (@page?_endAbsent _ machine key page.number environment
      (isSome_of_page? found))
    have later := (page.kind.discard_absent_ends machine.environment
      (agree.allocated found)).of_done ended
    cases holds : page.kind.slot? with
    | none =>
      rw [holds] at later
      subst later
      exact .of_swap (slots.trans (amend_eq ((slot?_of_found found).trans holds))) rfl
    | some slot =>
      rw [holds] at later
      subst later
      refine .freed ((slot?_of_found found).trans holds) slots fun probe => ?_
      exact OrderedMap.get?_erase_eq ..
  | @discardResident _ key page frame result environment found resident ended =>
    have isLoaded := fits.isLoaded found resident
    refine .of_swap ?_ ?_
    · rw [slot?_of_page? (page?_endResident (isSome_of_page? found))]
      exact amend_eq ((slot?_of_found found).trans isLoaded.slot?_eq)
    · rw [environment_endResident]
      exact PageKind.swap_of_discard_resident isLoaded ended
  | _ => exact .of_swap (slot?_congr (pages trivial)) (swap trivial)

/-- Slots and pages agree after every transition if they did before. -/
theorem Leads.slotsAgree (leads : transition.Leads machine next) (agree : machine.SlotsAgree)
    (fits : machine.Fits) (unissued : machine.Unissued) : next.SlotsAgree :=
  agree.change (leads.slotChange agree fits unissued)

end Transition

end DemandPaging

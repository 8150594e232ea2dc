import DemandPaging.Proofs.Consistency

/-!
# Where the content of a page is

The content of a page is in its frame, or in its swap slot, or nowhere while it is all zeros. Frames
and slots are not shared, so no transition changes the content of a page that it leaves where it is,
except that bytes are stored in it.
-/

namespace DemandPaging

variable {config : Config}

namespace Machine

/-- The content of an anonymous page: the bytes of its frame if it is resident, or else what its
swap slot holds, or else zeros. -/
def content (machine : Machine config) (page : Page config) : PageBytes config :=
  match page.frame, page.kind.slot? with
  | some frame, _ => machine.frameBytes frame
  | none, some slot => (machine.stored? slot).join.getD PageBytes.zero
  | none, none => PageBytes.zero

variable {machine next : Machine config} {page : Page config}

/-- The content of a resident page is in its frame. -/
theorem content_of_resident {frame : FrameNumber} (resident : page.frame = some frame) :
    machine.content page = machine.frameBytes frame := by
  rw [content, resident]

/-- The content of an evicted page is in its slot. -/
theorem content_of_slot {slot : SwapSlot} {bytes : PageBytes config} (absent : page.frame = none)
    (kept : page.kind.slot? = some slot) (stored : machine.stored? slot = some (some bytes)) :
    machine.content page = bytes := by
  simp [content, absent, kept, stored]

/-- A page without frame and slot has zeros as its content. -/
theorem content_of_nowhere (absent : page.frame = none) (slotless : page.kind.slot? = none) :
    machine.content page = PageBytes.zero := by
  simp [content, absent, slotless]

/-- The content of a page depends on its frame while it is resident and on its slot otherwise. -/
theorem content_congr (frames : ∀ frame, page.frame = some frame →
      next.frameBytes frame = machine.frameBytes frame)
    (slots : ∀ slot, page.kind.slot? = some slot → next.stored? slot = machine.stored? slot) :
    next.content page = machine.content page := by
  unfold content
  cases resident : page.frame with
  | some frame => exact frames frame resident
  | none =>
    cases kept : page.kind.slot? with
    | none => rfl
    | some slot => simp only [slots slot kept]

end Machine

/-- What a slot that can be read holds. -/
theorem SwapDevice.get?_of_read {device : SwapDevice config} {slot : SwapSlot}
    {switches : SwapSwitches} {content : PageBytes config}
    (read : device.read switches slot = .ok content) :
    device.slots.get? slot = some (some content) := by
  unfold SwapDevice.read at read
  cases failing : switches.read with
  | some code =>
    rw [failing] at read
    cases read
  | none =>
    rw [failing] at read
    cases present : device.content? slot with
    | none =>
      rw [present] at read
      cases read
    | some bytes =>
      rw [present] at read
      cases read
      exact Option.join_eq_some_iff.mp present

/-- A slot that holds a page can be read unless reads are made to fail. -/
theorem SwapDevice.read_fails_of_error {device : SwapDevice config} {switches : SwapSwitches}
    {slot : SwapSlot} {code : ErrorCode} {content : PageBytes config}
    (holds : device.slots.get? slot = some (some content))
    (read : device.read switches slot = .error code) : switches.read = some code := by
  unfold SwapDevice.read at read
  cases failing : switches.read with
  | some failure =>
    rw [failing] at read
    cases read
    rfl
  | none =>
    have written : device.content? slot = some content := congrArg Option.join holds
    simp only [failing, written] at read
    cases read

namespace Transition

open Machine

variable {transition : Transition config} {machine next : Machine config} {key : SpaceKey}
  {number : PageNumber}

/-- A page that keeps its frame keeps the bytes in it, unless bytes are stored in the page. -/
theorem Leads.frameBytes_eq (leads : transition.Leads machine next)
    (consistent : machine.Consistent) {frame : FrameNumber}
    (holds : machine.frame? key number = some frame) (kept : next.frame? key number = some frame)
    (unstored : ∀ position piece, transition ≠ .store key number position piece) :
    next.frameBytes frame = machine.frameBytes frame := by
  have tracked := consistent.tables.tracked holds
  have ofFree : ∀ {free rest}, machine.pool.free = free :: rest → free ≠ frame := by
    intro free rest shape same
    refine @not_mem_table_of_free _ machine consistent.nodup free ?_ key.subsystem (same ▸ tracked)
    rw [shape]
    exact List.mem_cons_self
  have ofWaiting : ∀ {subsystem waiting}, (machine.table subsystem).Awaits waiting →
      waiting ≠ frame := by
    rintro subsystem _ awaits rfl
    exact consistent.tables.not_held consistent.nodup awaits holds
  cases leads with
  | note | register | unregister | discard | set | forget | setFile | createFile | listInitializer
  | setSwapFaults | reclaim => rfl
  | release => rw [frameBytes_release]
  | pin => rw [frameBytes_updateTable]
  | create => rw [addSpace, frameBytes_updateTable]; rfl
  | discardResident => rw [endResident, frameBytes_release]; rfl
  | take free => rw [frameBytes_take, if_neg (ofFree free)]
  | lend free => exact (frameBytes_setFrameBytes ..).trans (if_neg (ofFree free))
  | load _ _ awaits => rw [frameBytes_settleLoaded, if_neg (ofWaiting awaits)]
  | spoil _ _ awaits => exact (frameBytes_setFrameBytes ..).trans (if_neg (ofWaiting awaits))
  | copy _ _ awaits => rw [frameBytes_settleCopy, if_neg (ofWaiting awaits)]
  | evict _ _ found resident =>
    rw [frameBytes_evicted, if_neg]
    rintro rfl
    -- the victim is the only page that holds this frame, and it has lost it
    obtain ⟨rfl, rfl⟩ := consistent.tables.holder_unique consistent.nodup holds
      ((frame?_of_found found).trans resident)
    rw [frame?_of_page? (page?_evicted (isSome_of_page? found)), amend_self] at kept
    cases kept
  | store found resident =>
    refine (frameBytes_setFrameBytes ..).trans (if_neg ?_)
    rintro rfl
    obtain ⟨rfl, rfl⟩ := consistent.tables.holder_unique consistent.nodup holds
      ((frame?_of_found found).trans resident)
    exact unstored _ _ rfl

/-- A page that stays as it is keeps its content, unless bytes are stored in it. -/
theorem Leads.content_eq (leads : transition.Leads machine next) (consistent : machine.Consistent)
    {page : Page config} (found : machine.page? key number = some page)
    (kept : next.page? key number = some page)
    (unstored : ∀ position piece, transition ≠ .store key number position piece) :
    next.content page = machine.content page := by
  refine content_congr (fun frame resident => ?_) fun slot holds => ?_
  · exact leads.frameBytes_eq consistent ((frame?_of_found found).trans resident)
      ((frame?_of_found kept).trans resident) unstored
  · have change := leads.slotChange consistent.slots consistent.fits consistent.known.unissued
    exact consistent.slots.stored?_eq change ((slot?_of_found found).trans holds)
      ((slot?_of_found kept).trans holds)

end Transition

end DemandPaging

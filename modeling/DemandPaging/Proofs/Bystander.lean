import DemandPaging.Proofs.Fork

/-!
# What transitions do to bystanders

A transition is about one space at most, and all that can happen to a page of another space is that
it loses its frame. The records of mappings change only where they are set, and files change only in
their data unless somebody opens, closes or replaces them.
-/

namespace DemandPaging

variable {config : Config}

/-- A page as it was, or as it is after it has lost its frame: what it is to be loaded from next may
differ, but not the file. -/
inductive Page.Recedes : Option (Page config) → Option (Page config) → Prop where
  | same {page : Option (Page config)} : Recedes page page
  | stored {page : Page config} {kind : PageKind config}
      (backing : kind.backing? = page.kind.backing?) :
    Recedes (some page) (some { page with kind := kind, frame := none })

namespace Page.Recedes

variable {first second third : Option (Page config)}

/-- A page that recedes twice has receded. -/
theorem trans (earlier : Page.Recedes first second) (later : Page.Recedes second third) :
    Page.Recedes first third := by
  cases earlier with
  | same => exact later
  | stored backing =>
    cases later with
    | same => exact .stored backing
    | stored backing' => exact .stored (backing'.trans backing)

/-- A page that recedes is still registered. -/
theorem isSome_eq (recedes : Page.Recedes first second) : second.isSome = first.isSome := by
  cases recedes <;> rfl

/-- A page that recedes gets no frame. -/
theorem frame_of_frame (recedes : Page.Recedes first second) {frame : FrameNumber}
    (holds : second.bind Page.frame = some frame) : first.bind Page.frame = some frame := by
  cases recedes with
  | same => exact holds
  | stored => cases holds

/-- A page that recedes stays on its part of its file. -/
theorem backing?_eq (recedes : Page.Recedes first second) :
    second.map (fun page => page.kind.backing?) = first.map fun page => page.kind.backing? := by
  cases recedes with
  | same => rfl
  | stored backing => exact congrArg some backing

end Page.Recedes

/-- Saving a page does not take it off its file. -/
theorem PageKind.Stored.backing?_eq {bytes : PageBytes config} {dirty : Bool}
    {before after : Environment config} {kind later : PageKind config}
    (stored : kind.Stored bytes dirty before later after) : later.backing? = kind.backing? := by
  cases stored <;> rfl

namespace Machine

/-- The records of the mappings of a space. -/
def regions (machine : Machine config) (key : SpaceKey) : OrderedMap PageNumber Region :=
  (machine.space key).regions

variable {machine : Machine config} {key : SpaceKey}

/-- The records of mappings belong to the spaces. -/
theorem regions_congr {later : Machine config} (same : later.spaces = machine.spaces) :
    later.regions = machine.regions := by
  funext probe
  rw [regions, regions, space_congr same]

/-- A change of a space that leaves the records alone leaves all records alone. -/
theorem regions_updateSpace_of_same {change : Space config → Space config}
    (same : ∀ space, (change space).regions = space.regions) :
    (machine.updateSpace key change).regions = machine.regions := by
  funext probe
  unfold regions Machine.space updateSpace
  rw [OrderedMap.get?_modify_eq]
  split
  · cases machine.spaces.get? probe with
    | none => rfl
    | some space => exact same space
  · rfl

/-- Other spaces keep their records, however a space changes. -/
theorem regions_updateSpace_of_ne {change : Space config → Space config} {probe : SpaceKey}
    (elsewhere : probe ≠ key) : (machine.updateSpace key change).regions probe =
      machine.regions probe := by
  unfold regions Machine.space updateSpace
  rw [OrderedMap.get?_modify_eq, if_neg elsewhere]

@[simp] theorem regions_updateTable (subsystem : Subsystem) (update : FrameTable → FrameTable) :
    (machine.updateTable subsystem update).regions = machine.regions :=
  regions_congr (spaces_updateTable ..)

@[simp] theorem regions_record (event : Event) : (machine.record event).regions = machine.regions :=
  rfl

@[simp] theorem regions_setFrameBytes (frame : FrameNumber) (bytes : PageBytes config) :
    (machine.setFrameBytes frame bytes).regions = machine.regions := rfl

@[simp] theorem regions_setPage (page : Page config) :
    (machine.updateSpace key (·.setPage page)).regions = machine.regions :=
  regions_updateSpace_of_same fun _ => rfl

@[simp] theorem regions_dropPage (number : PageNumber) :
    (machine.updateSpace key (·.dropPage number)).regions = machine.regions :=
  regions_updateSpace_of_same fun _ => rfl

@[simp] theorem regions_unmapPage (number : PageNumber) :
    (machine.updateSpace key (·.unmapPage number)).regions = machine.regions :=
  regions_updateSpace_of_same fun _ => rfl

@[simp] theorem regions_markDirty (number : PageNumber) :
    (machine.updateSpace key (·.markDirty number)).regions = machine.regions :=
  regions_updateSpace_of_same fun _ => rfl

@[simp] theorem regions_settle (page : Page config) (frame : FrameNumber) :
    (machine.settle key page frame).regions = machine.regions := by
  unfold settle
  rw [regions_record, regions_updateTable]
  exact regions_updateSpace_of_same fun _ => rfl

@[simp] theorem regions_settleLoaded (page : Page config) (frame : FrameNumber)
    (kind : PageKind config) (window : FrameWindow config) :
    (machine.settleLoaded key page frame kind window).regions = machine.regions := by
  rw [settleLoaded, regions_settle, regions_setPage]
  rfl

@[simp] theorem regions_settleCopy (page : Page config) (frame : FrameNumber)
    (bytes : PageBytes config) (dirty : Bool) :
    (machine.settleCopy key page frame bytes dirty).regions = machine.regions := by
  unfold settleCopy
  split <;> simp

@[simp] theorem regions_evicted (number : PageNumber) (remaining : FrameTable)
    (stored : Page config) (environment : Environment config) (frame : FrameNumber) :
    ((machine.beforeStore key number remaining).vacate key stored environment frame).regions =
      machine.regions := by
  have before : (machine.beforeStore key number remaining).regions = machine.regions := by
    simp [beforeStore]
  rw [vacate, regions_updateTable, regions_setFrameBytes, regions_updateTable, regions_setPage]
  exact before

@[simp] theorem regions_endResident (number : PageNumber) (frame : FrameNumber)
    (environment : Environment config) :
    (machine.endResident key number frame environment).regions = machine.regions := by
  rw [endResident, regions_congr spaces_release]
  exact (regions_unmapPage number).trans (regions_dropPage number)

end Machine

namespace Transition

open Machine

/-- A transition leaves the records of a space alone. -/
def KeepsRecords (key : SpaceKey) : Transition config → Prop
  | .set space | .create space | .forget space => space ≠ key
  | _ => True

/-- A transition that is about the given space, if it is about a space at all. -/
def Concerns (key : SpaceKey) : Transition config → Prop
  | .note _ | .take _ _ | .evict _ _ _ | .spoil _ _ _ _ | .release _ _ | .pin _ _ _ => True
  | .register space _ | .copy space _ _ _ | .discard space _ | .set space | .forget space =>
    space = key
  | _ => False

/-- What happens to the pages of a space opens and closes no file. -/
theorem Concerns.keepsFiles {key : SpaceKey} {transition : Transition config}
    (concerns : transition.Concerns key) : transition.KeepsFiles := by
  cases transition <;> first | exact trivial | exact concerns.elim

/-- What happens to one space does not touch the records of another. -/
theorem Concerns.keepsRecords {key other : SpaceKey} {transition : Transition config}
    (concerns : transition.Concerns key) (elsewhere : other ≠ key) :
    transition.KeepsRecords other := by
  cases transition <;> first | exact trivial | exact concerns.elim | skip
  case set => exact concerns ▸ Ne.symm elsewhere
  case forget => exact concerns ▸ Ne.symm elsewhere

/-- Copying to a space is about that space only. -/
theorem Clones.concerns {child parent : SpaceKey} {transition : Transition config}
    (clones : transition.Clones child parent) : transition.Concerns child := by
  rcases clones with prepares | rfl | ⟨_, rfl⟩ | ⟨_, _, rfl⟩
  · cases transition <;> first | exact trivial | exact prepares.elim
  · exact rfl
  · exact rfl
  · exact rfl

/-- Dropping a space concerns that space only. -/
theorem Drops.concerns {key : SpaceKey} {transition : Transition config}
    (drops : transition.Drops key) : transition.Concerns key := by
  rcases drops with (discards | rfl) | rfl
  · cases transition <;> first | exact trivial | exact discards | exact discards.elim
  · exact rfl
  · exact rfl

variable {transition : Transition config} {machine next : Machine config} {key : SpaceKey}

/-- A transition that leaves a space's records alone leads to a machine with the same records. -/
theorem Leads.regions_eq (leads : transition.Leads machine next)
    (keeps : transition.KeepsRecords key) : next.regions key = machine.regions key := by
  cases leads with
  | note | spoil | setFile | createFile | listInitializer | setSwapFaults | lend | reclaim => rfl
  | take => rw [regions_congr spaces_take]
  | evict => rw [regions_evicted]
  | load => rw [regions_settleLoaded]
  | release => rw [regions_congr spaces_release]
  | pin => rw [regions_updateTable]
  | copy => rw [regions_settleCopy]
  | register => rw [regions_setPage]
  | unregister => rw [regions_dropPage]
  | discard => exact congrFun (regions_dropPage _) key
  | discardResident => rw [regions_endResident]
  | store =>
    rw [regions_markDirty]
    rfl
  | set => exact regions_updateSpace_of_ne (Ne.symm keeps)
  | create =>
    unfold regions
    rw [space_addSpace, if_neg (Ne.symm keeps)]
  | forget =>
    unfold regions
    rw [space_erase, if_neg (Ne.symm keeps)]

/-- All that happens to the pages of other spaces is that some of them lose their frames. -/
theorem Leads.recedes (leads : transition.Leads machine next) (consistent : machine.Consistent)
    (concerns : transition.Concerns key) {other : SpaceKey} (elsewhere : other ≠ key)
    (number : PageNumber) :
    Page.Recedes (machine.page? other number) (next.page? other number) := by
  have kept := leads.page?_eq consistent.known.unissued
  cases leads with
  | @evict _ key' page frame remaining kind environment _ _ found resident stored =>
    have became := consistent.fits.stored found resident stored
    rw [page?_evicted (isSome_of_page? found)]
    by_cases here : other = key' ∧ number = page.number
    · obtain ⟨rfl, rfl⟩ := here
      rw [amend_self, found]
      exact .stored became.backing?_eq
    · rw [amend_of_ne here]
      exact .same
  | copy _ found =>
    cases concerns
    rw [page?_settleCopy (isSome_of_page? found), amend_of_ne fun here => elsewhere here.1]
    exact .same
  | register _ _ _ spaceExists =>
    cases concerns
    rw [page?_setPage spaceExists, amend_of_ne fun here => elsewhere here.1]
    exact .same
  | discard found =>
    cases concerns
    rw [page?_endAbsent (isSome_of_page? found), amend_of_ne fun here => elsewhere here.1]
    exact .same
  | discardResident found =>
    cases concerns
    rw [page?_endResident (isSome_of_page? found), amend_of_ne fun here => elsewhere here.1]
    exact .same
  | load | unregister => exact concerns.elim
  | _ =>
    rw [kept trivial]
    exact .same

end Transition

namespace Machine

/-- All that happened to other spaces is that some of their pages lost their frames, and no file was
opened or closed. -/
structure Spares (key : SpaceKey) (machine later : Machine config) : Prop where
  pages : ∀ other, other ≠ key → ∀ number,
    Page.Recedes (machine.page? other number) (later.page? other number)
  regions : ∀ other, other ≠ key → later.regions other = machine.regions other
  terms : machine.environment.SameTerms later.environment

variable {machine middle later : Machine config} {key : SpaceKey}

theorem Spares.refl : machine.Spares key machine :=
  ⟨fun _ _ _ => .same, fun _ _ => rfl, fun _ => rfl⟩

/-- What spares other spaces twice spares them. -/
theorem Spares.trans (first : machine.Spares key middle) (second : middle.Spares key later) :
    machine.Spares key later where
  pages other elsewhere number :=
    (first.pages other elsewhere number).trans (second.pages other elsewhere number)
  regions other elsewhere := (second.regions other elsewhere).trans (first.regions other elsewhere)
  terms := first.terms.trans second.terms

end Machine

/-- A way that is about one space spares the others. -/
theorem Path.spares {permits : Machine config → Transition config → Prop}
    {machine later : Machine config} {key : SpaceKey} (path : Path permits machine later)
    (consistent : machine.Consistent)
    (concerns : ∀ middle transition, permits middle transition → transition.Concerns key) :
    machine.Spares key later := by
  induction path with
  | refl => exact .refl
  | step prior leads permitted inductionHypothesis =>
    have about := concerns _ _ permitted
    have before := prior.consistent consistent
    refine inductionHypothesis.trans ⟨fun other elsewhere number => ?_, fun other elsewhere => ?_, ?_⟩
    · exact leads.recedes before about elsewhere number
    · exact leads.regions_eq (about.keepsRecords elsewhere)
    · exact (leads.serves before.fits before.slots about.keepsFiles).sameTerms

end DemandPaging

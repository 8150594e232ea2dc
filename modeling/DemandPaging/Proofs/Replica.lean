import DemandPaging.Proofs.Keeping
import DemandPaging.Proofs.Shape
import DemandPaging.Proofs.Transparency

/-!
# Copies of address spaces

A copy of a space that succeeds is exact and shares nothing with its model. What the pages are and
what the anonymous ones contain follows from what each transition does; that no mapping is lost and no
initializer run, from what the whole action leaves alone. A resident page of a file is copied as it is
when the copying reaches it, so that part is about one step of the copying.
-/

namespace DemandPaging

variable {config : Config}

namespace Action

variable {State Element : Type} {step : Element → Action State Unit} {state last : State}

/-- A loop returns exactly if its first round does and the rest returns after it. -/
theorem forEach_cons_eq_done {element : Element} {rest : List Element} :
    forEach step (element :: rest) state = .done () last ↔
      ∃ middle, step element state = .done () middle ∧
        forEach step rest middle = .done () last := by
  refine Iff.trans bind_eq_done_iff ⟨?_, ?_⟩
  · rintro ⟨_, middle, first, others⟩
    exact ⟨middle, first, others⟩
  · rintro ⟨middle, first, others⟩
    exact ⟨(), middle, first, others⟩

/-- A list is worked through as its parts are, one after the other. -/
theorem forEach_append_eq_done {earlier later : List Element} :
    forEach step (earlier ++ later) state = .done () last ↔
      ∃ middle, forEach step earlier state = .done () middle ∧
        forEach step later middle = .done () last := by
  induction earlier generalizing state with
  | nil =>
    constructor
    · exact fun done => ⟨state, rfl, done⟩
    · rintro ⟨_, here, done⟩
      cases here
      exact done
  | cons element rest inductionHypothesis =>
    simp only [List.cons_append, forEach_cons_eq_done, inductionHypothesis]
    constructor
    · rintro ⟨first, done, middle, before, after⟩
      exact ⟨middle, ⟨first, done, before⟩, after⟩
    · rintro ⟨middle, ⟨first, done, before⟩, after⟩
      exact ⟨first, done, middle, before, after⟩

end Action

namespace OrderedMap

variable {Key Value : Type} [Numbered Key]

/-- Entries that are inserted one after the other are found, and hide what the map had under their
keys. -/
theorem get?_foldl_insert (probe : Key) (entries : List (Key × Value))
    (ascending : entries.Pairwise fun earlier later =>
      Numbered.number earlier.1 < Numbered.number later.1) (base : OrderedMap Key Value) :
    (entries.foldl (fun map (key, value) => map.insert key value) base).get? probe =
      (lookup probe entries).or (base.get? probe) := by
  induction entries generalizing base with
  | nil => rfl
  | cons entry rest inductionHypothesis =>
    obtain ⟨above, ascending⟩ := List.pairwise_cons.mp ascending
    rw [List.foldl_cons, inductionHypothesis ascending, get?_insert, lookup]
    split
    · next here =>
      have absent : lookup probe rest = none := by
        rw [lookup_eq_find?, List.find?_eq_none.mpr]
        · rfl
        · intro other member
          have := above other member
          simp
          omega
      rw [absent]
      rfl
    · rfl

/-- A map is rebuilt from its entries. -/
theorem foldl_insert_entries (map : OrderedMap Key Value) :
    map.entries.foldl (fun map (key, value) => map.insert key value) empty = map := by
  refine ext_get? fun probe => ?_
  rw [get?_foldl_insert probe _ map.ascending, get?_empty, Option.or_none]
  rfl

end OrderedMap

namespace Machine

variable (machine : Machine config) (child parent : SpaceKey)

/-- The stack pointer of one space is recorded for another. -/
def takeStackPointer : Machine config :=
  machine.updateSpace child fun space =>
    { space with stackPointer := (machine.space parent).stackPointer }

/-- The mappings of one space are recorded for another. -/
def takeRegions : Machine config :=
  machine.updateSpace child fun space =>
    { space with
      regions := (machine.space parent).regions.entries.foldl
        (fun regions (start, region) => regions.insert start region) space.regions }

end Machine

namespace KernelAction

open Machine

variable {child parent : SpaceKey} {machine later : Machine config}

/-- What a copy of a space that succeeded has done, part by part: the stack pointer, the pages, the
records. -/
theorem copySpace_eq_done (done : copySpace child parent machine = .done () later) :
    child ≠ parent ∧ child.subsystem = parent.subsystem ∧ ∃ finished,
      Action.forEach (copyPage child parent) (machine.space parent).pages.keys
        (machine.takeStackPointer child parent) = .done () finished ∧
      later = finished.takeRegions child parent := by
  obtain ⟨_, _, checked, done⟩ := Action.bind_eq_done_iff.mp done
  obtain ⟨allowed, rfl⟩ := Action.require_eq_done_iff.mp checked
  obtain ⟨model, _, seen, done⟩ := Action.bind_eq_done_iff.mp done
  cases seen
  obtain ⟨_, _, pointed, done⟩ := Action.bind_eq_done_iff.mp done
  cases pointed
  obtain ⟨_, finished, copied, done⟩ := Action.bind_eq_done_iff.mp done
  obtain ⟨_, _, seen, done⟩ := Action.bind_eq_done_iff.mp done
  cases seen
  cases done
  simp only [Bool.and_eq_true, bne_iff_ne, ne_eq, beq_iff_eq] at allowed
  exact ⟨fun same => allowed.1 (congrArg SpaceKey.id same), allowed.2, finished, copied, rfl⟩

/-- Copying a space fails before anything is done, or because of one of the pages. -/
theorem copySpace_eq_failed {error : VmError}
    (failed : copySpace child parent machine = .failed error later) :
    (error = .invalidArgument ∧ later = machine ∧
        ¬ (child.id ≠ parent.id ∧ child.subsystem = parent.subsystem)) ∨
      child ≠ parent ∧ child.subsystem = parent.subsystem ∧
        Action.forEach (copyPage child parent) (machine.space parent).pages.keys
          (machine.takeStackPointer child parent) = .failed error later := by
  rcases Action.bind_eq_failed_iff.mp failed with refused | ⟨_, _, checked, failed⟩
  · obtain ⟨forbidden, rfl, rfl⟩ := Action.require_eq_failed_iff.mp refused
    exact .inl ⟨rfl, rfl, by simpa using forbidden⟩
  · obtain ⟨allowed, rfl⟩ := Action.require_eq_done_iff.mp checked
    simp only [Bool.and_eq_true, bne_iff_ne, ne_eq, beq_iff_eq] at allowed
    refine .inr ⟨fun same => allowed.1 (congrArg SpaceKey.id same), allowed.2, ?_⟩
    rcases Action.bind_eq_failed_iff.mp failed with seen | ⟨_, _, seen, failed⟩
    · cases seen
    · cases seen
      rcases Action.bind_eq_failed_iff.mp failed with pointed | ⟨_, _, pointed, failed⟩
      · cases pointed
      · cases pointed
        rcases Action.bind_eq_failed_iff.mp failed with spoiled | ⟨_, _, _, failed⟩
        · exact spoiled
        · rcases Action.bind_eq_failed_iff.mp failed with seen | ⟨_, _, seen, failed⟩
          · cases seen
          · cases seen
            cases failed

/-- A fork that succeeded has created a space and copied the parent to it. -/
theorem forkSpace_eq_done (done : forkSpace parent machine = .done child later) :
    ∃ created, createSpace parent.subsystem machine = .done child created ∧
      copySpace child parent created = .done () later := by
  obtain ⟨fresh, created, creates, done⟩ := Action.bind_eq_done_iff.mp done
  obtain ⟨result, middle, attempted, done⟩ := Action.bind_eq_done_iff.mp done
  cases result with
  | error error =>
    obtain ⟨_, _, _, failed⟩ := Action.bind_eq_done_iff.mp done
    cases failed
  | ok value =>
    cases done
    refine ⟨created, creates, ?_⟩
    unfold Action.attempt Action.unwinding at attempted
    cases copied : copySpace child parent created <;> rw [copied] at attempted <;> cases attempted
    rfl

end KernelAction

/-! ## Resident pages -/

namespace Machine

/-- Whether a page counts as written to is read from the page table. -/
theorem isDirty_congr {machine later : Machine config} {key : SpaceKey} {number : PageNumber}
    (same : later.mapped? key number = machine.mapped? key number) :
    (later.space key).isDirty number = (machine.space key).isDirty number := by
  rw [isDirty_eq, isDirty_eq, same]

/-- A copied page counts as written to if it was settled so. -/
theorem isDirty_settleCopy {machine : Machine config} {key : SpaceKey} {page : Page config}
    {frame : FrameNumber} {bytes : PageBytes config} {dirty : Bool}
    (found : (machine.spaces.get? key).isSome) :
    ((machine.settleCopy key page frame bytes dirty).space key).isDirty page.number = dirty := by
  rw [isDirty_eq, mapped?_settleCopy found, amend_self]

end Machine

namespace Transition

open Machine

variable {machine next : Machine config} {key : SpaceKey} {number : PageNumber}

/-- A page that is evicted holds no frame afterwards. -/
theorem Leads.frame?_of_evict {frame : FrameNumber}
    (leads : (Transition.evict key number frame).Leads machine next) :
    next.frame? key number = none := by
  cases leads with
  | evict _ _ found =>
    rw [frame?_of_page? (page?_evicted (isSome_of_page? found))]
    exact amend_self

/-- A page that still has its frame after room was made has kept it, and what was in it. -/
theorem Leads.kept_of_prepares {transition : Transition config}
    (leads : transition.Leads machine next) (consistent : machine.Consistent)
    (prepares : transition.Prepares) {frame : FrameNumber}
    (holds : next.frame? key number = some frame) :
    machine.frame? key number = some frame ∧ next.frameBytes frame = machine.frameBytes frame ∧
      next.mapped? key number = machine.mapped? key number := by
  have untouched : ¬ transition.Touches key number := by
    intro touches
    cases transition with
    | evict =>
      obtain ⟨rfl, rfl⟩ := touches
      rw [leads.frame?_of_evict] at holds
      cases holds
    | load | copy | unregister | discard | store | register => exact prepares.elim
    | _ => exact touches.elim
  obtain ⟨samePage, sameEntry⟩ := leads.untouched consistent untouched
  have held : machine.frame? key number = some frame := by
    rw [frame?, ← samePage]
    exact holds
  refine ⟨held, leads.frameBytes_eq consistent held holds ?_, sameEntry⟩
  rintro position piece rfl
  exact prepares.elim

end Transition

/-- While a copy is prepared, a page that still holds its frame keeps the bytes and the mapping. -/
theorem Path.kept_of_prepares {machine later : Machine config} {key : SpaceKey}
    {number : PageNumber} (path : Path (fun _ => Transition.Prepares) machine later)
    (consistent : machine.Consistent) {frame : FrameNumber}
    (holds : later.frame? key number = some frame) :
    machine.frame? key number = some frame ∧ later.frameBytes frame = machine.frameBytes frame ∧
      later.mapped? key number = machine.mapped? key number := by
  induction path with
  | refl => exact ⟨holds, rfl, rfl⟩
  | step prior leads prepares inductionHypothesis =>
    obtain ⟨held, bytes, entry⟩ :=
      leads.kept_of_prepares (prior.consistent consistent) prepares holds
    obtain ⟨first, sameBytes, sameEntry⟩ := inductionHypothesis held
    exact ⟨first, bytes.trans sameBytes, entry.trans sameEntry⟩

namespace Machine

/-- A page of one space is resident and another space has a copy of it in a frame of its own, with
the same bytes and the same dirty bit. -/
structure HasMirror (child parent : SpaceKey) (number : PageNumber) (source : FrameNumber)
    (before after : Machine config) (frame : FrameNumber) : Prop where
  holds : after.frame? child number = some frame
  apart : frame ≠ source
  bytes : after.frameBytes frame = before.frameBytes source
  dirty : (after.space child).isDirty number = (before.space parent).isDirty number

variable {child parent : SpaceKey} {number : PageNumber} {machine later : Machine config}

/-- A resident page of a file is copied as it is. -/
theorem CopiesPage.hasMirror (copies : CopiesPage child parent number machine later)
    (atRest : machine.AtRest) {page : Page config} {backing : FileBacking config}
    {source : FrameNumber} (apart : child ≠ parent)
    (found : machine.page? parent number = some page)
    (isFile : page.kind = .file backing) (resident : page.frame = some source) :
    ∃ frame, HasMirror child parent number source machine later frame := by
  have copied : page.copySource? = some (.frame source) := by
    simp [Page.copySource?, isFile, resident]
  cases copies with
  | vacant vacant => cases found.symm.trans vacant
  | registered found' nothing =>
    cases found.symm.trans found'
    cases copied.symm.trans nothing
  | @copied _ grown ready frame found' registers prepares leads =>
    cases found.symm.trans found'
    have grownFine := registers.consistent atRest.consistent
    have readyFine := prepares.consistent grownFine
    have elsewhere : ¬ (Transition.register child page.forked).Touches parent number :=
      fun touches => apart touches.1
    obtain ⟨samePage, sameEntry⟩ := registers.untouched atRest.consistent elsewhere
    have shape : ready.shape? parent number = some page.forked := by
      rw [prepares.shape?_eq grownFine fun _ _ => Transition.Prepares.keepsShapes,
        shape?_of_found (samePage.trans found)]
    cases leads with
    | @copy _ _ _ model _ bytes dirty found' copy awaits provides =>
      have sameForked : model.forked = page.forked :=
        Option.some.inj ((shape?_of_found found').symm.trans shape)
      have modelFile : model.kind.forked = .file backing := by
        have sameKind := congrArg Page.kind sameForked
        simpa [Page.forked, isFile, PageKind.forked] using sameKind
      cases provides with
      | slot kept => simp [kept, PageKind.forked] at modelFile
      | @frame held _ heldThere =>
        have holdsNow : ready.frame? parent model.number = some held :=
          (frame?_of_found found').trans heldThere
        obtain ⟨holdsBefore, sameBytes, entry⟩ := prepares.kept_of_prepares grownFine holdsNow
        have holds : machine.frame? parent model.number = some held := by
          rw [frame?, ← samePage]
          exact holdsBefore
        have grownBytes := registers.frameBytes_eq atRest.consistent holds holdsBefore
          (by rintro _ _ ⟨⟩)
        rw [frame?_of_found found, resident] at holds
        cases holds
        refine ⟨frame, ?_, ?_, ?_, ?_⟩
        · rw [frame?_of_page? (page?_settleCopy (isSome_of_page? copy))]
          exact amend_self
        · rintro rfl
          exact readyFine.tables.not_held readyFine.nodup awaits holdsNow
        · rw [frameBytes_settleCopy, if_pos rfl, sameBytes, grownBytes]
        · refine (isDirty_settleCopy (isSome_of_page? copy)).trans ?_
          rw [isDirty_congr entry, isDirty_congr sameEntry]

end Machine

/-! ## Exact copies -/

namespace Machine

/-- Copying all pages of a space copies one of them between two of the machines on the way. -/
def IsCopiedBetween (child parent : SpaceKey) (number : PageNumber)
    (start finished before after : Machine config) : Prop :=
  ∃ earlier rest, (start.space parent).pages.keys = earlier ++ number :: rest ∧
    Action.forEach (KernelAction.copyPage child parent) earlier
      (start.takeStackPointer child parent) = .done () before ∧
    KernelAction.copyPage child parent number before = .done () after ∧
    Action.forEach (KernelAction.copyPage child parent) rest after = .done () finished

/-- One space is an exact and separate copy of what another one was. The copying began with the
machine `start` and led to `later`; what is copied is taken from `machine`. -/
structure ExactCopy (child parent : SpaceKey) (machine start later : Machine config) : Prop where
  /-- The copy has the same pages, with the same permissions and of the same kinds. -/
  pages : ∀ number, later.shape? child number = machine.shape? parent number
  contents : ∀ number, later.content? child number = machine.content? parent number
  /-- Each page is copied at some point of the copying, and if it is a resident page of a file then,
  it is copied as it is. -/
  mirrored : ∀ number, (machine.page? parent number).isSome →
    ∃ finished before after, later = finished.takeRegions child parent ∧
      IsCopiedBetween child parent number start finished before after ∧
      ∀ page backing source, before.page? parent number = some page →
        page.kind = .file backing → page.frame = some source →
          ∃ frame, HasMirror child parent number source before after frame
  regions : later.regions child = machine.regions parent
  stackPointer : (later.space child).stackPointer = (machine.space parent).stackPointer
  modelPages : ∀ number, later.shape? parent number = machine.shape? parent number
  modelContents : ∀ number, later.content? parent number = machine.content? parent number
  modelRegions : later.regions parent = machine.regions parent
  modelStackPointer : (later.space parent).stackPointer = (machine.space parent).stackPointer
  frames : ∀ number other frame, later.frame? parent number = some frame →
    later.frame? child other ≠ some frame
  slots : ∀ number other slot, later.slot? parent number = some slot →
    later.slot? child other ≠ some slot
  runs : later.environment.runs = machine.environment.runs
  initializations : later.environment.initializations = machine.environment.initializations

variable {child parent : SpaceKey} {machine start later : Machine config}

/-- What is copied may be taken from any machine in which the model is the same. -/
theorem ExactCopy.of_same (exact : ExactCopy child parent start start later)
    (shapes : start.shape? = machine.shape?) (contents : start.flat.page? = machine.flat.page?)
    (outline : start.outline = machine.outline) : ExactCopy child parent machine start later where
  pages number := by rw [exact.pages, shapes]
  contents number := by rw [exact.contents, content?_eq_of_flat contents]
  mirrored number present := by
    apply exact.mirrored
    rwa [← isSome_shape?, shapes, isSome_shape?]
  regions := exact.regions.trans (congrFun (congrArg Outline.regions outline) parent)
  stackPointer := exact.stackPointer.trans (congrFun (congrArg Outline.stackPointer outline) parent)
  modelPages number := by rw [exact.modelPages, shapes]
  modelContents number := by rw [exact.modelContents, content?_eq_of_flat contents]
  modelRegions := exact.modelRegions.trans (congrFun (congrArg Outline.regions outline) parent)
  modelStackPointer :=
    exact.modelStackPointer.trans (congrFun (congrArg Outline.stackPointer outline) parent)
  frames := exact.frames
  slots := exact.slots
  runs := exact.runs.trans (congrArg Outline.runs outline)
  initializations := exact.initializations.trans (congrArg Outline.initializations outline)

/-- Recording a stack pointer concerns one space and no pages. -/
theorem space_takeStackPointer (spaceExists : (machine.spaces.get? child).isSome)
    (probe : SpaceKey) :
    (machine.takeStackPointer child parent).space probe =
      if probe = child then
        { machine.space child with stackPointer := (machine.space parent).stackPointer }
      else machine.space probe := by
  rw [takeStackPointer, space_updateSpace spaceExists]
  split
  · next same => rw [same]
  · rfl

/-- Recording mappings concerns one space and no pages. -/
theorem space_takeRegions (spaceExists : (machine.spaces.get? child).isSome) (probe : SpaceKey) :
    (machine.takeRegions child parent).space probe =
      if probe = child then
        { machine.space child with
          regions := (machine.space parent).regions.entries.foldl
            (fun regions (start, region) => regions.insert start region)
            (machine.space child).regions }
      else machine.space probe := by
  rw [takeRegions, space_updateSpace spaceExists]
  split
  · next same => rw [same]
  · rfl

end Machine

namespace Machine

variable {child parent : SpaceKey} {machine later : Machine config}

/-- A space that was copied has the pages of its model and those that it had before. -/
theorem CopiesSpace.shape?_eq (copies : CopiesSpace child parent machine (.ok ()) later)
    (atRest : machine.AtRest) :
    later.shape? = fun probe number =>
      if probe = child then (machine.shape? parent number).or (machine.shape? child number)
      else machine.shape? probe number := by
  cases copies with
  | @done started finished _ apart starts copies ends =>
    have startedRest := starts.atRest atRest
    have before := starts.shape?_eq atRest.consistent trivial
    have after := ends.shape?_eq (copies.atRest startedRest).consistent trivial
    rw [after, copies.shape?_eq startedRest apart, before]
    funext probe number
    by_cases listed : number ∈ (machine.space parent).pages.keys
    · simp [listed]
    · have absent : machine.page? parent number = none := OrderedMap.get?_eq_none_iff.mpr listed
      simp only [listed, and_false, if_false, shape?_of_vacant absent, Option.none_or]
      split
      · next own => rw [own]
      · rfl

end Machine

namespace KernelAction

open Machine

variable {child parent : SpaceKey} {machine later : Machine config}

/-- Recording a stack pointer is a part of copying a space. -/
theorem takeStackPointer_passes (atRest : machine.AtRest) (child parent : SpaceKey) :
    Passes (Transition.Clones child parent) machine (machine.takeStackPointer child parent) :=
  .single atRest (.set fun _ => rfl) (.inr (.inl rfl))

/-- The copy's space does not disappear while it is filled. -/
theorem isSome_of_clones (passes : Passes (Transition.Clones child parent) machine later)
    (spaceExists : (machine.spaces.get? child).isSome) : (later.spaces.get? child).isSome :=
  (passes.isSome_eq (fun _ => Transition.Clones.keepsSpaces) child).trans spaceExists

/-- While a space is copied only the copy's records of mappings and its stack pointer change. -/
theorem copySpace_outline (atRest : machine.AtRest)
    (spaceExists : (machine.spaces.get? child).isSome) (unmapped : machine.regions child = .empty)
    (done : copySpace child parent machine = .done () later) :
    later.regions child = machine.regions parent ∧
      later.regions parent = machine.regions parent ∧
      (later.space child).stackPointer = (machine.space parent).stackPointer ∧
      (later.space parent).stackPointer = (machine.space parent).stackPointer ∧
      later.environment.runs = machine.environment.runs ∧
      later.environment.initializations = machine.environment.initializations := by
  obtain ⟨apart, home, finished, copied, rfl⟩ := copySpace_eq_done done
  have points := takeStackPointer_passes atRest child parent
  have pointedExists := isSome_of_clones points spaceExists
  have passes := ((copyPages_ends _ points.atRest home.symm apart pointedExists).of_done copied).1
  have finishedExists := isSome_of_clones passes pointedExists
  have outline := (Action.Keeps.forEach (keeps_copyPage child parent) _).of_done copied
  have regions : ∀ key, (finished.space key).regions = (machine.space key).regions := by
    intro key
    refine (congrFun (congrArg Outline.regions outline) key).trans ?_
    show ((machine.takeStackPointer child parent).space key).regions = _
    rw [space_takeStackPointer spaceExists]
    split
    · next same => rw [same]
    · rfl
  have stackPointer : ∀ key, (finished.space key).stackPointer =
      if key = child then (machine.space parent).stackPointer
      else (machine.space key).stackPointer := by
    intro key
    refine (congrFun (congrArg Outline.stackPointer outline) key).trans ?_
    show ((machine.takeStackPointer child parent).space key).stackPointer = _
    rw [space_takeStackPointer spaceExists]
    split <;> rfl
  have unmapped : (machine.space child).regions = .empty := unmapped
  refine ⟨?_, ?_, ?_, ?_, ?_, ?_⟩
  · show ((finished.takeRegions child parent).space child).regions = _
    rw [space_takeRegions finishedExists, if_pos rfl, regions, regions, unmapped]
    exact OrderedMap.foldl_insert_entries _
  · show ((finished.takeRegions child parent).space parent).regions = _
    rw [space_takeRegions finishedExists, if_neg apart.symm, regions]
    rfl
  · rw [space_takeRegions finishedExists, if_pos rfl]
    exact (stackPointer child).trans (if_pos rfl)
  · rw [space_takeRegions finishedExists, if_neg apart.symm]
    exact (stackPointer parent).trans (if_neg apart.symm)
  · exact congrArg Outline.runs outline
  · exact congrArg Outline.initializations outline

/-- Every page of the model is copied at some point, and as it is if it is a resident page of a file
then. -/
theorem copySpace_mirrored (atRest : machine.AtRest)
    (spaceExists : (machine.spaces.get? child).isSome)
    (done : copySpace child parent machine = .done () later) {number : PageNumber}
    (present : (machine.page? parent number).isSome) :
    ∃ finished before after, later = finished.takeRegions child parent ∧
      IsCopiedBetween child parent number machine finished before after ∧
      ∀ page backing source, before.page? parent number = some page →
        page.kind = .file backing → page.frame = some source →
          ∃ frame, HasMirror child parent number source before after frame := by
  obtain ⟨apart, home, finished, copied, rfl⟩ := copySpace_eq_done done
  have listed : number ∈ (machine.space parent).pages.keys :=
    OrderedMap.mem_keys_iff.mpr (Option.isSome_iff_exists.mp present)
  obtain ⟨earlier, rest, keys⟩ := List.append_of_mem listed
  rw [keys, Action.forEach_append_eq_done] at copied
  obtain ⟨before, first, others⟩ := copied
  obtain ⟨after, here, others⟩ := Action.forEach_cons_eq_done.mp others
  have points := takeStackPointer_passes atRest child parent
  have pointedExists := isSome_of_clones points spaceExists
  have passes := ((copyPages_ends _ points.atRest home.symm apart pointedExists).of_done first).1
  have copies := ((copyPage_ends passes.atRest home.symm apart
    (isSome_of_clones passes pointedExists)).of_done here).2
  refine ⟨finished, before, after, rfl, ⟨earlier, rest, keys, first, here, others⟩, ?_⟩
  intro page backing source found isFile resident
  exact copies.hasMirror passes.atRest apart found isFile resident

/-- Copying a space gives an exact copy of it, if there was nothing in the copy's place. -/
theorem copySpace_exact (atRest : machine.AtRest) (spaceExists : (machine.spaces.get? child).isSome)
    (vacant : ∀ number, machine.page? child number = none)
    (unmapped : machine.regions child = .empty)
    (done : copySpace child parent machine = .done () later) :
    ExactCopy child parent machine machine later := by
  obtain ⟨passes, copies⟩ := (copySpace_ends atRest spaceExists).of_done done
  obtain ⟨-, apart, flat⟩ := copies.flat_eq atRest
  have shapes := copies.shape?_eq atRest
  obtain ⟨regions, modelRegions, stackPointer, modelStackPointer, runs, initializations⟩ :=
    copySpace_outline atRest spaceExists unmapped done
  have consistent := passes.atRest.consistent
  have content : ∀ number bytes, (later.content? child number = some bytes ↔
      machine.content? parent number = some bytes) ∧
      (later.content? parent number = some bytes ↔
        machine.content? parent number = some bytes) := by
    intro number bytes
    simp only [content?_eq_some_iff, flat, if_true, if_neg apart.symm,
      flat_page?_of_vacant (vacant number), Option.or_none, and_self]
  refine
    { pages := ?_, contents := ?_, mirrored := ?_, regions, stackPointer, modelPages := ?_
      modelContents := ?_, modelRegions, modelStackPointer, frames := ?_, slots := ?_, runs
      initializations }
  · intro number
    rw [shapes]
    simp [shape?_of_vacant (vacant number)]
  · exact fun number => Option.ext fun bytes => (content number bytes).1
  · exact fun number => copySpace_mirrored atRest spaceExists done
  · intro number
    rw [shapes]
    exact if_neg apart.symm
  · exact fun number => Option.ext fun bytes => (content number bytes).2
  · intro number other frame holds holds'
    exact apart (consistent.tables.holder_unique consistent.nodup holds' holds).1
  · intro number other slot keeps keeps'
    exact apart (consistent.slots.unique keeps' keeps).1

end KernelAction

namespace KernelAction

open Machine

variable {machine later : Machine config}

/-- An operation on a space that is not turned down finds the space. -/
theorem withSpace_eq_done {key : SpaceKey} {action : KernelAction config Answer} {answer : Answer}
    (done : withSpace key action machine = .done answer later)
    (granted : answer ≠ .refused .noSuchSpace) :
    (machine.spaces.get? key).isSome ∧ action machine = .done answer later := by
  have checked : (if machine.spaces.contains key then action
      else pure (.refused .noSuchSpace)) machine = .done answer later := done
  split at checked
  · next known => exact ⟨known, checked⟩
  · cases checked
    exact absurd rfl granted

/-- A request that failed was made of a space that exists. -/
theorem withSpace_eq_failed {key : SpaceKey} {action : KernelAction config Answer} {error : VmError}
    (failed : withSpace key action machine = .failed error later) :
    (machine.spaces.get? key).isSome ∧ action machine = .failed error later := by
  have checked : (if machine.spaces.contains key then action
      else pure (.refused .noSuchSpace)) machine = .failed error later := failed
  split at checked
  · next known => exact ⟨known, checked⟩
  · cases checked

end KernelAction

namespace Machine

variable {machine : Machine config}

/-- A space that is created has neither regions nor a stack pointer, so the outline stays. -/
theorem outline_addSpace (unissued : machine.Unissued) (subsystem : Subsystem)
    (root : PhysicalAddress) : (machine.addSpace subsystem root).outline = machine.outline := by
  have unknown : machine.space (machine.nextKey subsystem) =
      { Space.fresh default with registered := false } := by
    unfold Machine.space
    rw [unissued subsystem]
    rfl
  have same : ∀ key, ((machine.addSpace subsystem root).space key).regions =
      (machine.space key).regions ∧ ((machine.addSpace subsystem root).space key).stackPointer =
        (machine.space key).stackPointer := by
    intro key
    rw [space_addSpace]
    split
    · next fresh =>
      rw [fresh, unknown]
      exact ⟨rfl, rfl⟩
    · exact ⟨rfl, rfl⟩
  simp only [outline, (same _).1, (same _).2, environment_addSpace]

end Machine

namespace Operation

open Machine KernelAction

variable {machine later : Machine config} {child parent : SpaceKey}

/-- A fork that succeeds leaves an exact copy of its parent. -/
theorem Yields.exactCopy_of_fork {root : PhysicalAddress}
    (yields : (Operation.fork parent).Yields machine (.ok (.space child root)) later)
    (atRest : machine.AtRest) :
    ∃ created, createSpace parent.subsystem machine = .done child created ∧
      ExactCopy child parent machine created later := by
  have unissued := atRest.consistent.known.unissued
  obtain ⟨-, done⟩ := withSpace_eq_done yields nofun
  obtain ⟨fresh, middle, forked, described⟩ := Action.bind_eq_done_iff.mp done
  cases described
  obtain ⟨created, creates, copied⟩ := forkSpace_eq_done forked
  obtain ⟨rfl, root', rfl⟩ := (createSpace_ends machine parent.subsystem).of_done creates
  have creation : (Transition.create (machine.nextKey parent.subsystem)).Leads machine
      (machine.addSpace parent.subsystem root') := .create
  have spaceExists : ((machine.addSpace parent.subsystem root').spaces.get?
      (machine.nextKey parent.subsystem)).isSome := by
    rw [spaces_addSpace, OrderedMap.get?_insert_self]
    rfl
  have exact := copySpace_exact (addSpace_atRest atRest parent.subsystem root') spaceExists
    (fun number => by rw [page?_addSpace (unissued.vacant _), unissued.vacant])
    (by rw [regions, space_addSpace, if_pos rfl]; rfl) copied
  exact ⟨_, creates, exact.of_same (creation.shape?_eq atRest.consistent trivial)
    (creation.idles atRest.consistent trivial).pages (outline_addSpace unissued _ _)⟩

/-- A copy into an empty space that succeeds leaves an exact copy of its model. -/
theorem Yields.exactCopy_of_copy
    (yields : (Operation.copy child parent).Yields machine (.ok .done) later)
    (atRest : machine.AtRest) (vacant : ∀ number, machine.page? child number = none)
    (unmapped : machine.regions child = .empty) : ExactCopy child parent machine machine later := by
  obtain ⟨spaceExists, done⟩ := withSpace_eq_done yields nofun
  obtain ⟨-, done⟩ := withSpace_eq_done done nofun
  obtain ⟨_, _, copied, answered⟩ := Action.bind_eq_done_iff.mp done
  cases answered
  exact copySpace_exact atRest spaceExists vacant unmapped copied

end Operation

/-- A fork that succeeds makes an exact and separate copy of the space, and so does copying a space
into one without pages and mappings. -/
theorem Run.fork_exact {frames slots : Nat} {log : OperationLog config} {machine : Machine config}
    (run : Run (.boot config frames slots) log machine) :
    (∀ (parent child : SpaceKey) root later,
      (Operation.fork parent).Yields machine (.ok (.space child root)) later →
        ∃ created, KernelAction.createSpace parent.subsystem machine = .done child created ∧
          Machine.ExactCopy child parent machine created later) ∧
    ∀ (child parent : SpaceKey) later,
      (Operation.copy child parent).Yields machine (.ok .done) later →
        (∀ number, machine.page? child number = none) → machine.regions child = .empty →
          Machine.ExactCopy child parent machine machine later :=
  ⟨fun _ _ _ _ yields => yields.exactCopy_of_fork run.atRest,
    fun _ _ _ yields => yields.exactCopy_of_copy run.atRest⟩

/-- A space with anonymous pages and a mapped file, written to, beside an empty space. -/
def modelProgram : List (Operation .small) :=
  let space : SpaceKey := ⟨.main, ⟨1⟩⟩
  [.create .main,
    .create .main,
    .request space (.allocate .anonymous ⟨4⟩ true none),
    .request space (.allocate .anonymous ⟨8⟩ true none),
    .request space (.write ⟨6⟩ #[1, 2, 3, 4]),
    .createFile #[10, 11, 12, 13, 14, 15],
    .request space (.map ⟨16⟩ 6 true ⟨0⟩ 0),
    .request space (.write ⟨18⟩ #[5, 6, 7])]

/-- On three frames the space is forked, and copied to the empty one, while pages are evicted. -/
theorem Run.fork_exact_crowded : ∃ log machine child root forked created copied,
    performAll modelProgram (.boot .small 3 8) = some (log, machine) ∧
      (Operation.fork ⟨.main, ⟨1⟩⟩).Yields machine (.ok (.space child root)) forked ∧
      machine.mainTable.evictions < forked.mainTable.evictions ∧
      Machine.ExactCopy child ⟨.main, ⟨1⟩⟩ machine created forked ∧
      (Operation.copy ⟨.main, ⟨2⟩⟩ ⟨.main, ⟨1⟩⟩).Yields machine (.ok .done) copied ∧
      machine.mainTable.evictions < copied.mainTable.evictions ∧
      Machine.ExactCopy ⟨.main, ⟨2⟩⟩ ⟨.main, ⟨1⟩⟩ machine machine copied := by
  have performed : ((performAll modelProgram (.boot .small 3 8)).any fun (_, machine) =>
      (match (Operation.fork ⟨.main, ⟨1⟩⟩).perform machine with
        | .done (.space _ _) later => machine.mainTable.evictions < later.mainTable.evictions
        | _ => false) &&
      (match (Operation.copy ⟨.main, ⟨2⟩⟩ ⟨.main, ⟨1⟩⟩).perform machine with
        | .done .done later => machine.mainTable.evictions < later.mainTable.evictions
        | _ => false) &&
      (machine.space ⟨.main, ⟨2⟩⟩).pages.entries.isEmpty &&
      (machine.regions ⟨.main, ⟨2⟩⟩).entries.isEmpty) = true := by
    decide +kernel
  obtain ⟨⟨log, machine⟩, outcome, holds⟩ := (Option.any_eq_true _ _).mp performed
  simp only [Bool.and_eq_true, List.isEmpty_iff] at holds
  obtain ⟨⟨⟨forks, copies⟩, pages⟩, regions⟩ := holds
  have run : Run (.boot .small 3 8) log machine := Run.nil.append outcome
  have noPages : ∀ number, machine.page? ⟨.main, ⟨2⟩⟩ number = none := by
    intro number
    show OrderedMap.lookup number (machine.space ⟨.main, ⟨2⟩⟩).pages.entries = none
    rw [pages]
    rfl
  have noRegions : machine.regions ⟨.main, ⟨2⟩⟩ = .empty := by
    refine OrderedMap.ext_get? fun start => ?_
    show OrderedMap.lookup start (machine.regions ⟨.main, ⟨2⟩⟩).entries = none
    rw [regions]
    rfl
  split at forks
  · next child root forked yields =>
    split at copies
    · next copied yields' =>
      obtain ⟨created, -, exact⟩ := run.fork_exact.1 _ child root forked yields
      exact ⟨log, machine, child, root, forked, created, copied, outcome, yields,
        of_decide_eq_true forks, exact, yields', of_decide_eq_true copies,
        run.fork_exact.2 _ _ _ yields' noPages noRegions⟩
    · cases copies
  · cases forks

end DemandPaging

import DemandPaging.Proofs.Regions
import DemandPaging.Proofs.UserCopy.RoundTrip

/-!
# Copies of address spaces that fail

Copying a space stops at one page of the model if it fails. The pages before that one were copied with
all that they have, and what was there before is as it was. If the copy has a page of its own in that
place, nothing more has happened. But if the content of the model cannot be read back, the page that was
registered for it stays, and reads as zeros.
-/

namespace DemandPaging

open Machine

variable {config : Config}

/-- The keys of a map before one of them are those with a smaller number. -/
theorem OrderedMap.mem_take_keys_iff {Key Value : Type} [Numbered Key] {map : OrderedMap Key Value}
    {index : Nat} (inside : index < map.keys.length) {key : Key} :
    key ∈ map.keys.take index ↔ key ∈ map.keys ∧
      Numbered.number key < Numbered.number map.keys[index] := by
  have ascending := List.pairwise_iff_getElem.mp map.keys_ascending
  constructor
  · intro taken
    obtain ⟨place, before, rfl⟩ := List.mem_take_iff_getElem.mp taken
    exact ⟨List.getElem_mem _, ascending place index (by omega) inside (by omega)⟩
  · rintro ⟨listed, below⟩
    obtain ⟨place, inside', rfl⟩ := List.getElem_of_mem listed
    refine List.mem_take_iff_getElem.mpr ⟨place, ?_, rfl⟩
    rcases Nat.lt_trichotomy place index with before | rfl | after
    · omega
    · omega
    · have above := ascending index place inside inside' after
      omega

namespace Machine

/-- Why copying a space stops at a page, and what it leaves there. -/
inductive StopsCopying (child parent : SpaceKey) (stopped : PageNumber) (machine later : Machine config) :
    VmError → Prop where
  | known (registered : (machine.page? child stopped).isSome) :
    StopsCopying child parent stopped machine later .alreadyMapped
  | unread {model : Page config} {slot : SwapSlot} {code : ErrorCode}
      (vacant : machine.page? child stopped = none)
      (failing : (machine.environment.swap.faults.inForce later.environment.moment).read = some code)
      (found : later.page? parent stopped = some model) (kind : model.kind = .anonymous (some slot))
      (absent : model.frame = none) (copy : later.page? child stopped = some model.forked) :
    StopsCopying child parent stopped machine later (.io code)

end Machine

namespace KernelAction

variable {child parent : SpaceKey} {number : PageNumber} {machine later : Machine config}

/-- The content of a model that is swapped out is read unless reads are made to fail. -/
theorem fillCopy_slot_fails (consistent : machine.Consistent) {model copy : Page config} {slot : SwapSlot}
    (found : machine.page? parent number = some model) (kind : model.kind = .anonymous (some slot))
    (missing : model.frame = none) (copied : machine.page? child number = some copy)
    (absent : copy.frame = none) :
    (fillCopy child parent number (.slot slot)).Ends machine (fun _ _ => True)
      (fun error later => ∃ code, error = .io code ∧
        (machine.environment.swap.faults.inForce later.environment.moment).read = some code ∧
        later.page? parent number = some model ∧ later.page? child number = some copy) := by
  unfold fillCopy
  simp only [Action.ends_bind]
  refine (acquireFrame_ends consistent child.subsystem [parent, child]).mono ?_ (fun _ _ => False.elim)
  rintro frame ready ⟨acquire, acquires, acquired⟩
  have consistent' := acquired.consistent consistent
  have model' := acquires.isQuiet.page?_eq acquired ((frame?_of_found found).trans missing)
  have copy' := acquires.isQuiet.page?_eq acquired ((frame?_of_found copied).trans absent)
  simp only [Action.ends_bind, Action.ends_attempt, ends_onEnvironment, EnvironmentAction.readSlot,
    Action.ends_current]
  cases read : ready.environment.swap.read ready.environment.swapSwitches slot with
  | ok content => simp only [Action.ends_pure, Action.ends_change]
  | error code =>
    simp only [Action.ends_fail]
    refine Iff.mpr (releaseFrame_ends consistent'.nodup (acquires.awaits acquired).mem_frames) ?_
    have keeps : ready.slot? parent number = some slot := by
      rw [slot?_of_found (model'.trans found), kind]
      rfl
    obtain ⟨content, holds⟩ := consistent'.slots.written keeps
    have failing : (ready.environment.swap.faults.inForce ready.environment.moment).read = some code :=
      SwapDevice.read_fails_of_error holds read
    have same : ready.environment.swap.faults = machine.environment.swap.faults := by
      refine acquired.swapFaults_eq consistent ?_
      rintro rfl
      cases acquires
    refine ⟨code, rfl, ?_, ?_, ?_⟩
    · rw [environment_release]
      exact same ▸ failing
    · rw [page?_release]
      exact model'.trans found
    · rw [page?_release]
      exact copy'.trans copied

/-- Copying a page stops because the copy has it, or because its content cannot be read. -/
theorem copyPage_stops (atRest : machine.AtRest) (home : parent.subsystem = child.subsystem)
    (apart : child ≠ parent) (spaceExists : (machine.spaces.get? child).isSome)
    (present : (machine.page? parent number).isSome) :
    (copyPage child parent number).Ends machine (fun _ _ => True)
      (fun error later => StopsCopying child parent number machine later error) := by
  obtain ⟨page, found⟩ := Option.isSome_iff_exists.mp present
  have numbered := atRest.consistent.fits.number_eq found
  subst numbered
  refine copyPage_registers atRest apart spaceExists found .known ?_
  intro grown registers model copy
  have grownRest := (@passes_register _ child parent _ _ _ atRest registers).atRest
  have absent : grown.frame? child page.number = none := (frame?_of_found copy).trans rfl
  refine ⟨fun _ => trivial, fun source source' => ?_⟩
  cases source with
  | frame held =>
    obtain ⟨-, resident⟩ := page.copySource?_eq_frame source'
    refine (fillCopy_frame_ends grownRest home ((frame?_of_found model).trans resident)
      absent).mono ?_ (fun _ _ => False.elim)
    rintro ⟨frame, dirty⟩ _ ⟨ready, isReady, rfl, -⟩
    exact Iff.mpr (settleCopy_ends rfl isReady.awaits.mem_frames _ dirty) trivial
  | slot slot =>
    obtain ⟨kind, missing⟩ := page.copySource?_eq_slot source'
    refine ((fillCopy_slot_ends grownRest slot ((frame?_of_found model).trans missing) absent).and
      (fillCopy_slot_fails grownRest.consistent model kind missing copy rfl)).mono ?_ ?_
    · rintro ⟨frame, dirty⟩ _ ⟨⟨ready, content, isReady, -, rfl, -⟩, -⟩
      exact Iff.mpr (settleCopy_ends rfl isReady.awaits.mem_frames _ dirty) trivial
    · rintro _ later ⟨-, code, rfl, failing, model', copy'⟩
      have vacant : machine.page? child page.number = none := by
        cases registers with
        | register vacant => exact vacant
      rw [registers.swapFaults_eq atRest.consistent nofun] at failing
      exact .unread vacant failing model' kind missing copy'

end KernelAction

/-! ## What a failed copy leaves -/

namespace Machine

/-- Copying a space has come from one machine to another, and copied a page on the way: as it was, if it was
a resident page of a file then. -/
def WasMirrored (child parent : SpaceKey) (number : PageNumber) (machine later : Machine config) : Prop :=
  ∃ before after, Passes (Transition.Clones child parent) machine before ∧
    KernelAction.copyPage child parent number before = .done () after ∧
    Passes (Transition.Clones child parent) after later ∧
    ∀ page backing source, before.page? parent number = some page → page.kind = .file backing →
      page.frame = some source → ∃ frame, HasMirror child parent number source before after frame

/-- Copying a space failed at a page of the model. -/
structure LeavesPartialCopy (child parent : SpaceKey) (stopped : PageNumber) (error : VmError)
    (machine later : Machine config) : Prop where
  model : (machine.page? parent stopped).isSome
  stops : StopsCopying child parent stopped machine later error
  /-- All pages that there were are what they were. -/
  kept : ∀ key number, (machine.page? key number).isSome →
    later.shape? key number = machine.shape? key number ∧
      later.content? key number = machine.content? key number
  /-- The pages of the model that come first were copied, to where nothing was. -/
  copied : ∀ number, (machine.page? parent number).isSome → number.word.toNat < stopped.word.toNat →
    machine.page? child number = none ∧ later.shape? child number = machine.shape? parent number ∧
      later.content? child number = machine.content? parent number
  mirrored : ∀ number, (machine.page? parent number).isSome →
    number.word.toNat < stopped.word.toNat → WasMirrored child parent number machine later
  /-- No other pages were added, and those that were are of the kind of their models. -/
  added : ∀ key number, machine.page? key number = none → (later.page? key number).isSome →
    key = child ∧ number.word.toNat ≤ stopped.word.toNat ∧
      later.shape? child number = machine.shape? parent number
  regions : later.regions = machine.regions

variable {child parent : SpaceKey} {number stopped : PageNumber} {machine middle later : Machine config}
  {error : VmError}

/-- The pages of the model before one of them were copied. -/
structure CopiedBefore (child parent : SpaceKey) (stopped : PageNumber) (machine later : Machine config) :
    Prop where
  vacant : ∀ number, (machine.page? parent number).isSome →
    number.word.toNat < stopped.word.toNat → machine.page? child number = none
  copied : ∀ number, (machine.page? parent number).isSome → number.word.toNat < stopped.word.toNat →
    later.shape? child number = machine.shape? parent number ∧
      later.flat.page? child number = machine.flat.page? parent number
  others : ∀ key number, (key = child → (machine.page? parent number).isSome →
      stopped.word.toNat ≤ number.word.toNat) →
    later.shape? key number = machine.shape? key number ∧
      later.flat.page? key number = machine.flat.page? key number
  mirrored : ∀ number, (machine.page? parent number).isSome →
    number.word.toNat < stopped.word.toNat → WasMirrored child parent number machine later
  passes : Passes (Transition.Clones child parent) machine later

/-- What was copied earlier counts as copied later. -/
theorem WasMirrored.trans (mirrored : WasMirrored child parent number machine middle)
    (passes : Passes (Transition.Clones child parent) middle later) :
    WasMirrored child parent number machine later := by
  obtain ⟨before, after, earlier, copied, between, same⟩ := mirrored
  exact ⟨before, after, earlier, copied, between.trans passes, same⟩

/-- A page that could not be copied changes no page that was there, and no other page. -/
theorem SpoilsPage.others (spoils : SpoilsPage child parent number machine later)
    (atRest : machine.AtRest) {probe : SpaceKey} {other : PageNumber}
    (present : probe = child → other = number → (machine.page? child number).isSome) :
    later.shape? probe other = machine.shape? probe other ∧
      later.flat.page? probe other = machine.flat.page? probe other := by
  cases spoils with
  | known same =>
    rw [same]
    exact ⟨rfl, rfl⟩
  | @spoiled page grown found registers passes =>
    cases atRest.consistent.fits.number_eq found
    have elsewhere : ¬ (probe = child ∧ other = page.number) := by
      rintro ⟨own, here⟩
      have there := present own here
      cases registers with
      | register vacant =>
        have vacant : machine.page? child page.number = none := vacant
        rw [vacant] at there
        cases there
    have grownRest := (@passes_register _ child parent _ _ _ atRest registers).atRest
    have idles := passes.path.idles grownRest.consistent fun _ _ => (·.keepsContents)
    have shapes := passes.path.shape?_eq grownRest.consistent fun _ _ => (·.prepares.keepsShapes)
    rw [shapes, idles.pages, registers.shape?_of_register, registers.flat_register atRest.consistent]
    exact ⟨amend_of_ne elsewhere, amend_of_ne elsewhere⟩

/-- Copying stops for the same reason if it is told from where it began. -/
theorem StopsCopying.of_copiedBefore (stops : StopsCopying child parent stopped middle later error)
    (before : CopiedBefore child parent stopped machine middle) (consistent : machine.Consistent) :
    StopsCopying child parent stopped machine later error := by
  have same : (middle.page? child stopped).isSome = (machine.page? child stopped).isSome := by
    rw [← isSome_shape?, ← isSome_shape?,
      (before.others child stopped fun _ _ => Nat.le_refl _).1]
  cases stops with
  | known registered => exact .known (same ▸ registered)
  | unread vacant failing found kind absent copy =>
    have sameFaults : middle.environment.swap.faults = machine.environment.swap.faults := by
      refine before.passes.swapFaults_eq consistent ?_
      rintro (prepares | same | ⟨_, same⟩ | ⟨_, _, same⟩)
      · exact prepares
      all_goals cases same
    refine .unread ?_ (sameFaults ▸ failing) found kind absent copy
    rw [← Option.not_isSome_iff_eq_none, ← same, vacant]
    exact nofun

/-- The pages that there were when copying began are what they were when it has stopped. -/
theorem CopiedBefore.kept (before : CopiedBefore child parent stopped machine middle)
    (spoils : SpoilsPage child parent stopped middle later) {key : SpaceKey} {number : PageNumber}
    (there : (machine.page? key number).isSome) :
    later.shape? key number = machine.shape? key number ∧
      later.flat.page? key number = machine.flat.page? key number := by
  have same := before.others key number fun own model => by
    subst own
    by_contra early
    rw [before.vacant number model (Nat.lt_of_not_le early)] at there
    cases there
  have present : key = child → number = stopped → (middle.page? child stopped).isSome := by
    rintro rfl rfl
    rwa [← isSome_shape?, same.1, isSome_shape?]
  have still := spoils.others before.passes.atRest present
  exact ⟨still.1.trans same.1, still.2.trans same.2⟩

/-- The pages that were added until then are copies. -/
theorem CopiedBefore.added (before : CopiedBefore child parent stopped machine middle) {key : SpaceKey}
    {number : PageNumber} (missing : machine.page? key number = none)
    (there : (middle.shape? key number).isSome) :
    key = child ∧ number.word.toNat < stopped.word.toNat ∧
      middle.shape? child number = machine.shape? parent number := by
  by_cases copied : key = child ∧ (machine.page? parent number).isSome ∧
      number.word.toNat < stopped.word.toNat
  · obtain ⟨rfl, model, early⟩ := copied
    exact ⟨rfl, early, (before.copied number model early).1⟩
  · have same := before.others key number fun own model => by
      by_contra early
      exact copied ⟨own, model, Nat.lt_of_not_le early⟩
    rw [same.1, shape?_of_vacant missing] at there
    cases there

/-- What was copied and what was not, when copying has stopped at a page. -/
theorem CopiedBefore.leavesPartialCopy (before : CopiedBefore child parent stopped machine middle)
    (consistent : machine.Consistent) (present : (machine.page? parent stopped).isSome)
    (spoils : SpoilsPage child parent stopped middle later)
    (passes : Passes (Transition.Clones child parent) middle later)
    (stops : StopsCopying child parent stopped middle later error)
    (regions : later.regions = machine.regions) :
    LeavesPartialCopy child parent stopped error machine later := by
  have reason := stops.of_copiedBefore before consistent
  have elsewhere : ∀ key number, (key = child → number ≠ stopped) →
      later.shape? key number = middle.shape? key number ∧
        later.flat.page? key number = middle.flat.page? key number :=
    fun _ _ beside => spoils.others before.passes.atRest fun own here => absurd here (beside own)
  refine
    { model := present, stops := reason, kept := fun key number there => ?_, copied := ?_
      mirrored := fun number model early => (before.mirrored number model early).trans passes
      added := ?_, regions }
  · obtain ⟨shape, flat⟩ := before.kept spoils there
    exact ⟨shape, content?_eq_of_flat_page flat⟩
  · intro number model early
    obtain ⟨shape, flat⟩ := before.copied number model early
    obtain ⟨shape', flat'⟩ := elsewhere child number fun _ here => by
      subst here
      exact Nat.lt_irrefl _ early
    exact ⟨before.vacant number model early, shape'.trans shape,
      content?_eq_of_flat_page (flat'.trans flat)⟩
  · intro key number missing there
    rw [← isSome_shape?] at there
    by_cases here : key = child ∧ number = stopped
    · obtain ⟨rfl, rfl⟩ := here
      refine ⟨rfl, Nat.le_refl _, ?_⟩
      cases reason with
      | known registered =>
        rw [missing] at registered
        cases registered
      | unread _ _ found _ _ copy =>
        rw [shape?_of_found copy, Page.forked_forked, ← (before.kept spoils present).1,
          shape?_of_found found]
    · obtain ⟨shape, -⟩ := elsewhere key number fun own same => here ⟨own, same⟩
      obtain ⟨rfl, early, model⟩ := before.added missing (shape ▸ there)
      exact ⟨rfl, Nat.le_of_lt early, shape.trans model⟩

end Machine

namespace KernelAction

variable {child parent : SpaceKey} {number : PageNumber} {machine later : Machine config}
  {error : VmError}

/-- A page of a list that was copied was copied at some point, and as it was if it was a resident page of
a file then. -/
theorem copyPages_mirrored {numbers : List PageNumber} (atRest : machine.AtRest)
    (home : parent.subsystem = child.subsystem) (apart : child ≠ parent)
    (spaceExists : (machine.spaces.get? child).isSome)
    (copied : Action.forEach (copyPage child parent) numbers machine = .done () later)
    (listed : number ∈ numbers) :
    WasMirrored child parent number machine later := by
  obtain ⟨earlier, rest, rfl⟩ := List.append_of_mem listed
  obtain ⟨before, first, others⟩ := Action.forEach_append_eq_done.mp copied
  obtain ⟨after, here, others⟩ := Action.forEach_cons_eq_done.mp others
  have passes := ((copyPages_ends _ atRest home apart spaceExists).of_done first).1
  have still := isSome_of_clones passes spaceExists
  have course := ((copyPage_course passes.atRest home apart still).of_done here).1
  have step : Passes (Transition.Clones child parent) before after :=
    course.passes.mono fun _ clones => clones.1
  have copies := ((copyPage_ends passes.atRest home apart still).of_done here).2
  refine ⟨before, after, passes, here,
    ((copyPages_ends _ step.atRest home apart (isSome_of_clones step still)).of_done others).1, ?_⟩
  intro page backing source found isFile resident
  exact copies.hasMirror passes.atRest apart found isFile resident

/-- The pages of a model that come before a page were copied. -/
theorem copiedBefore_of_copyPages {stopped : PageNumber} {numbers : List PageNumber} (atRest : machine.AtRest)
    (home : parent.subsystem = child.subsystem) (apart : child ≠ parent)
    (spaceExists : (machine.spaces.get? child).isSome)
    (listed : ∀ number, number ∈ numbers ↔
      (machine.page? parent number).isSome ∧ number.word.toNat < stopped.word.toNat)
    (copied : Action.forEach (copyPage child parent) numbers
      (machine.takeStackPointer child parent) = .done () later) :
    CopiedBefore child parent stopped machine later := by
  -- Recording the stack pointer changes no page.
  have points : (Transition.set child).Leads machine (machine.takeStackPointer child parent) :=
    .set fun _ => rfl
  have pointed := takeStackPointer_passes atRest child parent
  have pointedExists := isSome_of_clones pointed spaceExists
  obtain ⟨passes, copies⟩ := (copyPages_ends _ pointed.atRest home apart pointedExists).of_done copied
  have shapes := copies.shape?_eq pointed.atRest apart
  obtain ⟨vacant, flats⟩ := copies.flat_eq pointed.atRest apart
  rw [points.shape?_eq atRest.consistent trivial] at shapes
  rw [(points.idles atRest.consistent trivial).pages] at vacant flats
  have missing : ∀ number, (machine.page? parent number).isSome →
      number.word.toNat < stopped.word.toNat → machine.page? child number = none := by
    intro number there before
    have absent := vacant number ((listed number).mpr ⟨there, before⟩)
      (by rwa [isSome_flat_page?])
    rwa [← Option.not_isSome_iff_eq_none, isSome_flat_page?, Option.not_isSome_iff_eq_none] at absent
  refine ⟨missing, fun number there before => ?_, fun key number elsewhere => ?_,
    fun number there before => ?_, ?_⟩
  · rw [shapes, flats]
    have taken := (listed number).mpr ⟨there, before⟩
    have absent := missing number there before
    simp [taken, shape?_of_vacant absent, flat_page?_of_vacant absent]
  · rw [shapes, flats]
    have untaken : ¬ (key = child ∧ number ∈ numbers) := by
      rintro ⟨own, taken⟩
      obtain ⟨there, before⟩ := (listed number).mp taken
      have := elsewhere own there
      omega
    simp only [if_neg untaken, and_self]
  · obtain ⟨before, after, passes, rest⟩ := copyPages_mirrored pointed.atRest home apart pointedExists
      copied ((listed number).mpr ⟨there, before⟩)
    exact ⟨before, after, pointed.trans passes, rest⟩
  · exact pointed.trans passes

/-- Copying a space that fails is refused at once, or leaves a part of a copy. -/
theorem copySpace_fails (atRest : machine.AtRest) (spaceExists : (machine.spaces.get? child).isSome)
    (failed : copySpace child parent machine = .failed error later) :
    (error = .invalidArgument ∧ later = machine) ∨
      ∃ stopped, LeavesPartialCopy child parent stopped error machine later := by
  have regions := regions_of_copySpace_failed failed
  obtain ⟨same, unchanged, -⟩ | ⟨apart, home, failed⟩ := copySpace_eq_failed failed
  · exact .inl ⟨same, unchanged⟩
  obtain ⟨index, inside, middle, copied, stops⟩ := Action.exists_of_forEach_failed failed
  have listed : ∀ number, number ∈ (machine.space parent).pages.keys ↔
      (machine.page? parent number).isSome := fun number =>
    OrderedMap.mem_keys_iff.trans Option.isSome_iff_exists.symm
  have present := (listed _).mp (List.getElem_mem inside)
  generalize stoppedIs : (machine.space parent).pages.keys[index] = stopped at stops present
  refine .inr ⟨stopped, ?_⟩
  have before := copiedBefore_of_copyPages atRest home.symm apart spaceExists (fun number => by
    rw [OrderedMap.mem_take_keys_iff inside, stoppedIs, listed]
    rfl) copied
  have still := isSome_of_clones before.passes spaceExists
  have middleRest := before.passes.atRest
  have model : (middle.page? parent stopped).isSome := by
    rw [← isSome_shape?, (before.others parent stopped fun own => absurd own.symm apart).1, isSome_shape?]
    exact present
  obtain ⟨course, spoils⟩ := (copyPage_course middleRest home.symm apart still).of_failed stops
  have reason := (copyPage_stops middleRest home.symm apart still model).of_failed stops
  exact before.leavesPartialCopy atRest.consistent present spoils
    (course.passes.mono fun _ => And.left) reason regions

end KernelAction

/-! ## Reading what was copied -/

theorem PageBytes.byteAt_zero (place : Nat) : (PageBytes.zero : PageBytes config).byteAt place = 0 :=
  PageBytes.getElem_zero _

namespace Machine

/-- The bytes that were read from a partial copy are those of the pages that were copied, and zeros where the
content of the model could not be read. -/
structure ReadsPartialCopy (child parent : SpaceKey) (stopped : PageNumber) (machine : Machine config)
    (base reached : Nat) (filled : Bytes) : Prop where
  own : ∀ index < reached, ∀ (number : PageNumber) content,
    (base + index) / config.pageSize = number.word.toNat → machine.content? child number = some content →
      filled[index]? = some (content.byteAt (base + index))
  copied : ∀ index < reached, ∀ (number : PageNumber) content,
    (base + index) / config.pageSize = number.word.toNat → number.word.toNat < stopped.word.toNat →
      machine.content? parent number = some content →
        filled[index]? = some (content.byteAt (base + index))
  lost : ∀ index < reached, (base + index) / config.pageSize = stopped.word.toNat →
    machine.page? child stopped = none → filled[index]? = some 0

variable {child parent : SpaceKey} {number stopped : PageNumber} {machine later : Machine config}
  {error : VmError}

/-- Only a registered page has content. -/
theorem isSome_of_content? {key : SpaceKey} {content : PageBytes config}
    (has : machine.content? key number = some content) : (machine.page? key number).isSome := by
  rw [content?] at has
  obtain ⟨page, found, -⟩ := Option.bind_eq_some_iff.mp has
  rw [found]
  rfl

/-- The page that was registered for content that cannot be read has zeros. -/
theorem StopsCopying.content?_eq (stops : StopsCopying child parent stopped machine later error)
    (vacant : machine.page? child stopped = none) :
    later.content? child stopped = some PageBytes.zero := by
  cases stops with
  | known registered =>
    rw [vacant] at registered
    cases registered
  | @unread model slot _ _ _ _ kind _ copy =>
    have forked : model.forked.kind = .anonymous none := by
      simp [Page.forked, PageKind.forked, kind]
    rw [content?, copy, Option.bind_some, forked, content_of_nowhere rfl model.slot?_forked]

/-- What a read finds in a partial copy. -/
theorem LeavesPartialCopy.reads (leaves : LeavesPartialCopy child parent stopped error machine later)
    {base : VirtualAddress} {buffer filled : Bytes} {reached : Nat} {last : Machine config}
    (fills : FillsPrefix child base buffer reached later filled last) :
    ReadsPartialCopy child parent stopped machine base.word.toNat reached filled := by
  have shows : ∀ index < reached, ∀ (number : PageNumber) content,
      (base.word.toNat + index) / config.pageSize = number.word.toNat →
      later.content? child number = some content →
        filled[index]? = some (content.byteAt (base.word.toNat + index)) :=
    fun index early number content here has =>
      fills.contents index early number content here (fills.preserved child number content has)
  refine ⟨fun index early number content here has => ?_,
    fun index early number content here before has => ?_, fun index early here vacant => ?_⟩
  · refine shows index early number content here ?_
    rw [(leaves.kept child number (isSome_of_content? has)).2, has]
  · refine shows index early number content here ?_
    rw [(leaves.copied number (isSome_of_content? has) before).2.2, has]
  · rw [shows index early stopped _ here (leaves.stops.content?_eq vacant), PageBytes.byteAt_zero]

end Machine

/-- A copy that fails leaves a part of a copy, which has all that its model has but for the page at which it
stopped. If that page was to be read back from the swap device, the copy has zeros in its place. -/
theorem Run.failed_copy_partial {frames slots : Nat} {log : OperationLog config}
    {machine later : Machine config} (run : Run (.boot config frames slots) log machine)
    {child parent : SpaceKey} {error : VmError} (spaceExists : (machine.spaces.get? child).isSome)
    (failed : KernelAction.copySpace child parent machine = .failed error later) :
    (error = .invalidArgument ∧ later = machine) ∨
      ∃ stopped, LeavesPartialCopy child parent stopped error machine later ∧
        ∀ base buffer, (KernelAction.copyFromUser child base buffer).Ends later
          (fun returned _ => ∃ reached, StopsAt config base buffer.size reached returned.2 ∧
            ReadsPartialCopy child parent stopped machine base.word.toNat reached returned.1)
          (fun _ _ => False) := by
  have atRest := run.atRest
  refine (KernelAction.copySpace_fails atRest spaceExists failed).imp_right ?_
  rintro ⟨stopped, leaves⟩
  have passes := ((KernelAction.copySpace_ends atRest spaceExists).of_failed failed).1
  have still := KernelAction.isSome_of_clones passes spaceExists
  refine ⟨stopped, leaves, fun base buffer => ?_⟩
  refine (KernelAction.copyFromUser_fillsPrefix passes.atRest still base buffer).mono ?_ (fun _ _ => id)
  rintro returned last ⟨reached, stops, fills, -⟩
  exact ⟨reached, stops, leaves.reads fills⟩

/-- Two spaces with a page in common, behind one that only the first has. -/
def overlappingSpaces : List (Operation .small) :=
  let first : SpaceKey := ⟨.main, ⟨1⟩⟩
  let second : SpaceKey := ⟨.main, ⟨2⟩⟩
  [.create .main,
    .request first (.allocate .anonymous ⟨4⟩ true none),
    .request first (.allocate .anonymous ⟨8⟩ true none),
    .request first (.write ⟨6⟩ #[1, 2, 3, 4]),
    .create .main,
    .request second (.allocate .anonymous ⟨8⟩ true none),
    .request second (.write ⟨8⟩ #[5])]

/-- The page of the child stops the copying, when the page before it was copied. On two frames the copy is
evicted later, and yet it is read as the model is. -/
theorem Run.failed_copy_partial_overlapping :
    let parent : SpaceKey := ⟨.main, ⟨1⟩⟩
    let child : SpaceKey := ⟨.main, ⟨2⟩⟩
    ∃ log machine later stopped, performAll overlappingSpaces (.boot .small 2 8) = some (log, machine) ∧
      KernelAction.copySpace child parent machine = .failed .alreadyMapped later ∧
      LeavesPartialCopy child parent stopped .alreadyMapped machine later ∧
      (later.page? child ⟨1⟩).isSome ∧ machine.mainTable.evictions < later.mainTable.evictions := by
  intro parent child
  have performed : ((performAll overlappingSpaces (.boot .small 2 8)).any fun (_, machine) =>
      (machine.spaces.get? child).isSome &&
      let ending := KernelAction.copySpace child parent machine
      ending.error? = some .alreadyMapped && (ending.state.page? child ⟨1⟩).isSome &&
        decide (machine.mainTable.evictions < ending.state.mainTable.evictions)) = true := by
    decide +kernel
  obtain ⟨⟨log, machine⟩, outcome, checked⟩ := (Option.any_eq_true _ _).mp performed
  simp only [Bool.and_eq_true, decide_eq_true_eq] at checked
  obtain ⟨spaceExists, ⟨refuses, present⟩, evicted⟩ := checked
  have run : Run (.boot .small 2 8) log machine := Run.nil.append outcome
  obtain ⟨later, failed⟩ := Outcome.exists_of_error? refuses
  rw [failed] at present evicted
  obtain ⟨refused, -⟩ | ⟨stopped, leaves, -⟩ := run.failed_copy_partial spaceExists failed
  · cases refused
  · exact ⟨log, machine, later, stopped, outcome, failed, leaves, present, evicted⟩

/-- A page that was evicted before, an empty space beside it, and a swap device that cannot be read. -/
def unreadableModel : List (Operation .small) :=
  let space : SpaceKey := ⟨.main, ⟨1⟩⟩
  [.create .main,
    .request space (.allocate .anonymous ⟨4⟩ true none),
    .request space (.write ⟨4⟩ #[7]),
    .request space (.allocate .anonymous ⟨8⟩ true none),
    .request space (.write ⟨8⟩ #[1]),
    .create .main,
    .setSwapFaults (some (some inputOutputError)) none]

/-- A copy that fails leaves a page that is read without an error, but not as the model is. -/
theorem failed_copy_shows_zeros :
    let parent : SpaceKey := ⟨.main, ⟨1⟩⟩
    let child : SpaceKey := ⟨.main, ⟨2⟩⟩
    ∃ log machine later filled last content,
      performAll unreadableModel (.boot .small 1 8) = some (log, machine) ∧
      (∀ number, machine.page? child number = none) ∧
      KernelAction.copySpace child parent machine = .failed (.io inputOutputError) later ∧
      KernelAction.copyFromUser child ⟨4⟩ #[9] later = .done (filled, .ok ()) last ∧
      machine.content? parent ⟨1⟩ = some content ∧ content.byteAt 4 = 7 ∧ filled = #[0] := by
  intro parent child
  have performed : ((performAll unreadableModel (.boot .small 1 8)).any fun (_, machine) =>
      (machine.space child).pages.entries.isEmpty &&
      (machine.content? parent ⟨1⟩).any (·.byteAt 4 == 7) &&
      let ending := KernelAction.copySpace child parent machine
      ending.error? = some (.io inputOutputError) &&
        (KernelAction.copyFromUser child ⟨4⟩ #[9] ending.state).value?.any fun returned =>
          returned.1 == #[0] && returned.2.isOk) = true := by
    decide +kernel
  obtain ⟨⟨log, machine⟩, outcome, checked⟩ := (Option.any_eq_true _ _).mp performed
  simp only [Bool.and_eq_true, decide_eq_true_eq, List.isEmpty_iff] at checked
  obtain ⟨⟨empty, holds⟩, failing, reading⟩ := checked
  have vacant : ∀ number, machine.page? child number = none := by
    intro number
    show OrderedMap.lookup number (machine.space child).pages.entries = none
    rw [empty]
    rfl
  obtain ⟨content, has, byte⟩ := (Option.any_eq_true _ _).mp holds
  obtain ⟨later, failed⟩ := Outcome.exists_of_error? failing
  rw [failed] at reading
  obtain ⟨⟨filled, result⟩, returns, checked⟩ := (Option.any_eq_true _ _).mp reading
  obtain ⟨zeros, fills⟩ := Bool.and_eq_true_iff.mp checked
  obtain ⟨last, read⟩ := Outcome.exists_of_value? returns
  cases result with
  | ok =>
    exact ⟨log, machine, later, filled, last, content, outcome, vacant, failed, read, has,
      eq_of_beq byte, eq_of_beq zeros⟩
  | error => cases fills

end DemandPaging

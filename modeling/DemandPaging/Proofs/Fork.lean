import DemandPaging.Proofs.Removal

/-!
# What copying a space does

A page is copied by registering it with the new space, making room, and giving it the content of
its model. The frame of the model is pinned while room is made, so the model is still there when its
content is copied.
-/

namespace DemandPaging

variable {config : Config}

namespace Transition

open Machine

/-- A transition of the kind that preparing a copy takes. -/
def Prepares : Transition config → Prop
  | .pin _ _ _ => True
  | transition => transition.IsQuiet

/-- A transition of the kind that copying one space to another takes. -/
def Clones (child parent : SpaceKey) (transition : Transition config) : Prop :=
  transition.Prepares ∨ transition = .set child ∨ (∃ page, transition = .register child page) ∨
    ∃ number frame, transition = .copy child parent number frame

/-- Making room is a part of preparing a copy. -/
theorem IsQuiet.prepares {transition : Transition config} (isQuiet : transition.IsQuiet) :
    transition.Prepares := by
  cases transition <;> first | exact trivial | exact isQuiet.elim

/-- Preparing a copy creates and drops no space. -/
theorem Prepares.keepsSpaces {transition : Transition config} (prepares : transition.Prepares) :
    transition.KeepsSpaces := by
  cases transition <;> first | exact trivial | exact prepares.elim

/-- Copying to a space creates and drops none. -/
theorem Clones.keepsSpaces {child parent : SpaceKey} {transition : Transition config}
    (clones : transition.Clones child parent) : transition.KeepsSpaces := by
  rcases clones with prepares | rfl | ⟨_, rfl⟩ | ⟨_, _, rfl⟩
  · exact prepares.keepsSpaces
  · exact trivial
  · exact trivial
  · exact trivial

/-- A transition of the kind that copying one space to another takes; no page is claimed. -/
def ClonesOnly (child parent : SpaceKey) (transition : Transition config) : Prop :=
  transition.Clones child parent ∧ transition.ClaimsOnly child fun _ => False

section ClonesOnly

variable {child parent : SpaceKey} {subsystem : Subsystem} {frame : FrameNumber}

/-- Copying to a space creates and drops none. -/
theorem ClonesOnly.keepsSpaces {transition : Transition config}
    (clones : transition.ClonesOnly child parent) : transition.KeepsSpaces :=
  clones.1.keepsSpaces

/-- A copy may acquire frames. -/
theorem Acquires.clonesOnly {transition : Transition config}
    (acquires : transition.Acquires subsystem frame) : transition.ClonesOnly child parent :=
  ⟨.inl acquires.isQuiet.prepares, fun _ _ claims => absurd claims acquires.not_claims⟩

theorem clonesOnly_pin {pinned : Bool} :
    (Transition.pin subsystem frame pinned : Transition config).ClonesOnly child parent :=
  ⟨.inl trivial, fun _ _ => False.elim⟩

theorem clonesOnly_release :
    (Transition.release subsystem frame : Transition config).ClonesOnly child parent :=
  ⟨.inl trivial, fun _ _ => False.elim⟩

theorem clonesOnly_set : (Transition.set child : Transition config).ClonesOnly child parent :=
  ⟨.inr (.inl rfl), fun _ _ => False.elim⟩

theorem clonesOnly_register {page : Page config} :
    (Transition.register child page).ClonesOnly child parent :=
  ⟨.inr (.inr (.inl ⟨_, rfl⟩)), fun _ _ => False.elim⟩

theorem clonesOnly_copy {number : PageNumber} :
    (Transition.copy child parent number frame : Transition config).ClonesOnly child parent :=
  ⟨.inr (.inr (.inr ⟨_, _, rfl⟩)), fun _ _ => False.elim⟩

end ClonesOnly

/-- A transition of the kind that forking a space takes. -/
inductive Spawns (child parent : SpaceKey) : Transition config → Prop where
  | create : Spawns child parent (.create child)
  | clone {transition : Transition config} (clones : transition.ClonesOnly child parent) :
    Spawns child parent transition
  | drop {transition : Transition config} (drops : transition.Drops child) :
    Spawns child parent transition

/-- Dropping a space requests no frame. -/
theorem Drops.not_acquires {key : SpaceKey} {transition : Transition config}
    (drops : transition.Drops key) (subsystem : Subsystem) (frame : FrameNumber) :
    ¬ transition.Acquires subsystem frame := by
  rcases drops with (discards | rfl) | rfl
  · rintro (_ | _)
    · exact discards.elim
    · exact discards.elim
  · exact nofun
  · exact nofun

/-- Making room leaves a page alone whose frame is pinned. -/
theorem Acquires.page?_of_pinned {machine later : Machine config} {subsystem : Subsystem}
    {frame source : FrameNumber} {transition : Transition config}
    (acquires : transition.Acquires subsystem frame) (leads : transition.Leads machine later)
    {key : SpaceKey} {number : PageNumber} (holds : machine.frame? key number = some source)
    (pinned : ∀ entry ∈ (machine.table key.subsystem).queue,
      entry.frame = source → entry.pinned = true) :
    later.page? key number = machine.page? key number := by
  cases acquires with
  | take =>
    cases leads
    rw [page?_take]
  | evict =>
    cases leads with
    | @evict _ key' page frame remaining _ _ _ picked found resident =>
      rw [page?_evicted (isSome_of_page? found), amend_of_ne]
      rintro ⟨rfl, rfl⟩
      obtain ⟨evictable, before, after, parts, _⟩ := FrameTable.pickVictim_eq_some picked
      rw [frame?_of_found found, resident] at holds
      cases holds
      have isPinned := pinned _ (parts ▸ List.mem_append_right _ List.mem_cons_self) rfl
      cases isPinned

end Transition

namespace KernelAction

open Machine

/-- A space is created under the next name, and creating it does not fail. -/
theorem createSpace_ends (machine : Machine config) (subsystem : Subsystem) :
    (createSpace subsystem).Ends machine
      (fun key later => key = machine.nextKey subsystem ∧
        ∃ root, later = machine.addSpace subsystem root)
      (fun _ _ => False) := by
  unfold createSpace
  simp only [Action.ends_bind, Action.ends_current, Action.ends_change, ends_updateTable,
    Action.ends_pure]
  exact ⟨rfl, _, rfl⟩

/-- A machine in which a frame is ready to take the copy of a page. -/
structure CopyReady (child parent : SpaceKey) (number : PageNumber) (frame : FrameNumber)
    (machine ready : Machine config) : Prop where
  path : Path (fun _ => Transition.Prepares) machine ready
  consistent : ready.Consistent
  pending : ready.Pending [frame] []
  awaits : (ready.table child.subsystem).Awaits frame
  model : ready.page? parent number = machine.page? parent number
  copy : ready.page? child number = machine.page? child number

/-- The transitions by which a frame was made ready for the copy of a page. They are orderly if the page
is copied next: meanwhile no frame is exempt from eviction but that of the model. -/
structure CopyReady.Via (child parent : SpaceKey) (number : PageNumber) (frame : FrameNumber)
    (machine ready : Machine config) : Prop extends
    CopyReady child parent number frame machine ready where
  way : ∃ moves, Trail machine moves ready ∧
    (∀ move : Move config, move.transition = .copy child parent number frame →
      IsOrderly (moves ++ [move])) ∧
    ∀ move ∈ moves, move.transition.ClonesOnly child parent

variable {child parent : SpaceKey} {number : PageNumber} {machine : Machine config}

/-- Copying the page completes the course. -/
theorem CopyReady.Via.course {page : Page config} {frame : FrameNumber} {ready later : Machine config}
    (isReady : CopyReady.Via child parent page.number frame machine ready)
    (leads : (Transition.copy child parent page.number frame).Leads ready later) :
    Course (Transition.ClonesOnly child parent) machine later := by
  obtain ⟨moves, trail, orderly, permitted⟩ := isReady.way
  have pending := leads.pending isReady.consistent isReady.pending
  refine ⟨⟨_, trail.trans (.single leads), orderly _ rfl, fun move listed => ?_⟩,
    leads.consistent isReady.consistent, pending.mono ?_ fun _ => id⟩
  · rcases List.mem_append.mp listed with before | last
    · exact permitted move before
    · exact List.mem_singleton.mp last ▸ Transition.clonesOnly_copy
  · simp [Transition.waitingAfter]

/-- The frame of a resident model is copied to a frame that room was made for. -/
theorem fillCopy_frame_ends (atRest : machine.AtRest)
    (home : parent.subsystem = child.subsystem) {source : FrameNumber}
    (holds : machine.frame? parent number = some source)
    (absent : machine.frame? child number = none) :
    (fillCopy child parent number (.frame source)).Ends machine
      (fun filled later => ∃ ready, CopyReady.Via child parent number filled.1 machine ready ∧
        later = ready.setFrameBytes filled.1 (ready.frameBytes source) ∧
        filled.2 = (ready.space parent).isDirty number)
      (fun _ _ => False) := by
  have tracked : source ∈ (machine.table child.subsystem).frames :=
    home ▸ atRest.consistent.tables.tracked holds
  have pins : (Transition.pin child.subsystem source true).Leads machine _ := .pin tracked
  have pinned := pins.consistent atRest.consistent
  have pending := pins.pending atRest.consistent atRest.idle
  unfold fillCopy
  simp only [Action.ends_bind, ends_updateTable]
  refine (acquireFrame_ends pinned child.subsystem [parent, child]).mono ?_ (fun _ _ => id)
  rintro frame middle ⟨acquire, acquires, acquired⟩
  have consistent := acquired.consistent pinned
  have holdsPinned : (machine.updateTable child.subsystem
      (·.setPinned source true)).frame? parent number = some source := by
    rw [frame?_congr (page?_updateTable ..)]
    exact holds
  -- Room may be made by an eviction, but not by one of the model: its frame is pinned meanwhile.
  have model : middle.page? parent number = machine.page? parent number := by
    rw [acquires.page?_of_pinned acquired holdsPinned, page?_updateTable]
    rw [home, table_updateTable]
    exact fun entry => FrameTable.pinned_setPinned
  have copy : middle.page? child number = machine.page? child number := by
    rw [acquires.isQuiet.page?_eq acquired, page?_updateTable]
    rw [frame?_congr (page?_updateTable ..)]
    exact absent
  have still : middle.frame? parent number = some source := by
    rw [Machine.frame?, model]
    exact holds
  have unpins : (Transition.pin child.subsystem source false).Leads middle _ :=
    .pin (home ▸ consistent.tables.tracked still)
  refine ⟨middle.updateTable child.subsystem (·.setPinned source false), ?_, rfl, rfl⟩
  have later := unpins.pending consistent (acquires.pending acquired pinned pending)
  refine ⟨⟨?_, unpins.consistent consistent, later.mono (fun _ => id) ?_, ?_, ?_, ?_⟩,
    _, ((Trail.single pins).trans (.single acquired)).trans (.single unpins), ?_, ?_⟩
  · exact .step (.step (.single pins trivial) acquired acquires.isQuiet.prepares) unpins trivial
  · simp [Transition.pinnedAfter]
  · rw [table_updateTable]
    exact (acquires.awaits acquired).setPinned_false
  · rw [page?_updateTable, model]
  · rw [page?_updateTable, copy]
  · intro move copies
    refine ⟨Move.isPrompt_of_not_acquires (by rintro _ _ ⟨⟩), ?_,
      Move.isPrompt_of_not_acquires (by rintro _ _ ⟨⟩),
      Move.isPrompt_of_not_acquires (by rw [copies]; rintro _ _ ⟨⟩), trivial⟩
    intro subsystem frame' acquires' entry member
    obtain rfl := acquires.frame_unique acquires'
    obtain ⟨waits, pins⟩ := pending subsystem entry member
    cases owned : entry.owner with
    | none => exact absurd (waits owned) List.not_mem_nil
    | some owner =>
      refine ⟨owner, rfl, fun isPinned => ?_⟩
      -- Only the frame of the model is pinned, and it is the frame of no other page.
      have isSource : entry.frame = source := List.mem_singleton.mp (pins isPinned)
      have held := (pinned.tables subsystem entry.frame owner).mp ⟨entry, member, rfl, owned⟩
      rw [isSource] at held
      obtain ⟨rfl, rfl⟩ := pinned.tables.holder_unique pinned.nodup holdsPinned held
      exact .intro still rfl copies
  · simp only [List.cons_append, List.nil_append, List.forall_mem_cons]
    exact ⟨Transition.clonesOnly_pin, acquires.clonesOnly, Transition.clonesOnly_pin,
      fun _ listed => absurd listed List.not_mem_nil⟩

/-- The content of a model that is swapped out is read into a frame that room was made for; if it
cannot be read, the frame is given back. -/
theorem fillCopy_slot_ends (atRest : machine.AtRest) (slot : SwapSlot)
    (modelAbsent : machine.frame? parent number = none)
    (absent : machine.frame? child number = none) :
    (fillCopy child parent number (.slot slot)).Ends machine
      (fun filled later => ∃ ready content,
        CopyReady.Via child parent number filled.1 machine ready ∧
        ready.environment.swap.read ready.environment.swapSwitches slot = .ok content ∧
        later = ready.setFrameBytes filled.1 content ∧ filled.2 = false)
      (fun _ later => Course (fun transition => transition.IsQuiet ∧
        transition.ClonesOnly child parent) machine later) := by
  unfold fillCopy
  simp only [Action.ends_bind]
  refine (acquireFrame_ends atRest.consistent child.subsystem [parent, child]).mono ?_
    (fun _ _ => False.elim)
  rintro frame ready ⟨acquire, acquires, acquired⟩
  have consistent := acquired.consistent atRest.consistent
  have pending := acquires.pending acquired atRest.consistent atRest.idle
  have awaits := acquires.awaits acquired
  simp only [Action.ends_bind, Action.ends_attempt, ends_onEnvironment, EnvironmentAction.readSlot,
    Action.ends_current]
  cases read : ready.environment.swap.read ready.environment.swapSwitches slot with
  | ok content =>
    simp only [Action.ends_pure, Action.ends_change]
    refine ⟨ready, content, ⟨⟨.single acquired acquires.isQuiet.prepares, consistent, pending,
      awaits, ?_, ?_⟩, _, .single acquired, fun move copies => ?_, ?_⟩, read, rfl, trivial⟩
    · exact acquires.isQuiet.page?_eq acquired modelAbsent
    · exact acquires.isQuiet.page?_eq acquired absent
    · exact ⟨Move.isPrompt_of_atRest atRest,
        Move.isPrompt_of_not_acquires (by rw [copies]; rintro _ _ ⟨⟩), trivial⟩
    · exact List.forall_mem_singleton.mpr acquires.clonesOnly
  | error code =>
    simp only [Action.ends_fail]
    refine Iff.mpr (releaseFrame_ends consistent.nodup awaits.mem_frames) ?_
    have releases : (Transition.release child.subsystem frame).Leads ready _ := .release awaits
    have later := releases.pending consistent pending
    refine ⟨⟨_, (Trail.single acquired).trans (.single releases),
      ⟨Move.isPrompt_of_atRest atRest, Move.isPrompt_of_not_acquires (by rintro _ _ ⟨⟩), trivial⟩, ?_⟩,
      releases.consistent consistent, later.mono ?_ fun _ => id⟩
    · simp only [List.cons_append, List.nil_append, List.forall_mem_cons]
      exact ⟨⟨acquires.isQuiet, acquires.clonesOnly⟩, ⟨trivial, Transition.clonesOnly_release⟩,
        fun _ listed => absurd listed List.not_mem_nil⟩
    · simp [Transition.waitingAfter]

end KernelAction

namespace Page

variable (page : Page config)

/-- A copy of a page starts without a slot. -/
theorem slot?_forked : page.forked.kind.slot? = none := by
  unfold forked PageKind.forked
  cases page.kind <;> rfl

/-- A copy of a page that was never loaded waits for the same initializer. -/
theorem initializer?_forked : page.forked.kind.initializer? = page.kind.initializer? := by
  unfold forked PageKind.forked
  cases page.kind <;> rfl

/-- A copy has the file of its model. -/
theorem backing?_forked : page.forked.kind.backing? = page.kind.backing? := by
  unfold forked PageKind.forked
  cases page.kind <;> rfl

variable {page}

/-- A page whose frame is copied has been loaded. -/
theorem copySource?_eq_frame {frame : FrameNumber} (source : page.copySource? = some (.frame frame)) :
    (∀ target init, page.kind ≠ .unloaded target init) ∧ page.frame = some frame := by
  unfold copySource? at source
  cases kind : page.kind with
  | unloaded => simp [kind] at source
  | anonymous slot =>
    refine ⟨nofun, ?_⟩
    cases resident : page.frame with
    | none => cases slot <;> simp [kind, resident] at source
    | some held => simpa [kind, resident] using source
  | file =>
    refine ⟨nofun, ?_⟩
    cases resident : page.frame with
    | none => simp [kind, resident] at source
    | some held => simpa [kind, resident] using source

/-- A page whose slot is copied is swapped out. -/
theorem copySource?_eq_slot {slot : SwapSlot} (source : page.copySource? = some (.slot slot)) :
    page.kind = .anonymous (some slot) ∧ page.frame = none := by
  unfold copySource? at source
  cases kind : page.kind with
  | unloaded => simp [kind] at source
  | anonymous held =>
    cases resident : page.frame with
    | none => cases held <;> simp_all
    | some frame => simp [kind, resident] at source
  | file => cases resident : page.frame <;> simp [kind, resident] at source

end Page

namespace Machine

/-- What copying one page does when it can be completed. -/
inductive CopiesPage (child parent : SpaceKey) (number : PageNumber)
    (machine later : Machine config) : Prop where
  | vacant (vacant : machine.page? parent number = none) (same : later = machine)
  | registered {page : Page config} (found : machine.page? parent number = some page)
      (nothing : page.copySource? = none)
      (leads : (Transition.register child page.forked).Leads machine later)
  | copied {page : Page config} {grown ready : Machine config} {frame : FrameNumber}
      (found : machine.page? parent number = some page)
      (registers : (Transition.register child page.forked).Leads machine grown)
      (prepares : Path (fun _ => Transition.Prepares) grown ready)
      (leads : (Transition.copy child parent number frame).Leads ready later)

/-- What copying one page does when it cannot be completed. -/
inductive SpoilsPage (child parent : SpaceKey) (number : PageNumber)
    (machine later : Machine config) : Prop where
  | known (same : later = machine)
  | spoiled {page : Page config} {grown : Machine config}
      (found : machine.page? parent number = some page)
      (registers : (Transition.register child page.forked).Leads machine grown)
      (passes : Passes Transition.IsQuiet grown later)

/-- What copying the pages of a list does, page by page; `result` is how it ends. -/
inductive CopiesPages (child parent : SpaceKey) :
    List PageNumber → Machine config → Except VmError Unit → Machine config → Prop where
  | done {machine : Machine config} : CopiesPages child parent [] machine (.ok ()) machine
  | page {number : PageNumber} {rest : List PageNumber} {machine middle later : Machine config}
      {result : Except VmError Unit} (copies : CopiesPage child parent number machine middle)
      (middleRest : middle.AtRest)
      (others : CopiesPages child parent rest middle result later) :
    CopiesPages child parent (number :: rest) machine result later
  | spoiled {number : PageNumber} {rest : List PageNumber} {machine later : Machine config}
      {error : VmError} (spoils : SpoilsPage child parent number machine later) :
    CopiesPages child parent (number :: rest) machine (.error error) later

variable {child parent : SpaceKey} {number : PageNumber} {machine later : Machine config}

/-- The copy of a page can be registered: it waits for no initializer but that of its model. -/
theorem Consistent.registers_forked (consistent : machine.Consistent)
    (spaceExists : (machine.spaces.get? child).isSome) {page : Page config}
    (found : machine.page? parent page.number = some page)
    (vacant : machine.page? child page.number = none) :
    (Transition.register child page.forked).Leads machine
      (machine.updateSpace child (·.setPage page.forked)) :=
  .register vacant rfl page.slot?_forked spaceExists fun initializer waits =>
    consistent.named parent page.number page initializer found (page.initializer?_forked ▸ waits)

/-- The registered copy of a page has no frame. -/
theorem passes_register {page : Page config} (atRest : machine.AtRest)
    (leads : (Transition.register child page).Leads machine later) :
    Passes (Transition.Clones child parent) machine later :=
  .single atRest leads (.inr (.inr (.inl ⟨_, rfl⟩)))

end Machine

namespace KernelAction

open Machine

variable {child parent : SpaceKey} {number : PageNumber} {machine : Machine config}

/-- A copied page gets its frame: what the code does in three steps is one transition. -/
theorem settleCopy_ends {page : Page config} {frame : FrameNumber} (absent : page.frame = none)
    (tracked : frame ∈ (machine.table child.subsystem).frames) (bytes : PageBytes config)
    (dirty : Bool) {whenDone : Unit → Machine config → Prop}
    {whenFailed : VmError → Machine config → Prop} :
    (do settlePage child page frame
        if dirty then updateSpace child (·.markDirty page.number) else pure ()).Ends
      (machine.setFrameBytes frame bytes) whenDone whenFailed ↔
      whenDone () (machine.settleCopy child page frame bytes dirty) := by
  rw [Action.ends_bind, settlePage_ends absent (by exact tracked)]
  cases dirty <;> rfl

/-- A page is copied from where its copy is registered on: there may be nothing more to do, or a frame has
to be filled and settled. -/
theorem copyPage_registers {page : Page config} (atRest : machine.AtRest) (apart : child ≠ parent)
    (spaceExists : (machine.spaces.get? child).isSome)
    (found : machine.page? parent page.number = some page)
    {whenDone : Unit → Machine config → Prop} {whenFailed : VmError → Machine config → Prop}
    (known : (machine.page? child page.number).isSome → whenFailed .alreadyMapped machine)
    (registered : ∀ grown : Machine config, (Transition.register child page.forked).Leads machine grown →
      grown.page? parent page.number = some page →
      grown.page? child page.number = some page.forked →
        (page.copySource? = none → whenDone () grown) ∧
        ∀ source, page.copySource? = some source →
          (fillCopy child parent page.number source).Ends grown
            (fun filled later => (do
              settlePage child page.forked filled.1
              if filled.2 then updateSpace child (·.markDirty page.number) else pure ()).Ends later
                whenDone whenFailed)
            whenFailed) :
    (copyPage child parent page.number).Ends machine whenDone whenFailed := by
  have listed : (machine.space parent).pages.get? page.number = some page := found
  unfold copyPage
  simp only [Action.ends_bind, ends_space, listed]
  refine Iff.mpr (insertPage_ends _) ⟨fun vacant => ?_, known⟩
  have registers := atRest.consistent.registers_forked spaceExists found vacant
  have pages := page?_setPage spaceExists page.forked
  generalize machine.updateSpace child (·.setPage page.forked) = grown at *
  obtain ⟨nothing, something⟩ := registered grown registers
    (by rw [pages, amend_of_ne fun same => apart same.1.symm]; exact found)
    (by rw [pages]; exact amend_self)
  cases source : page.copySource? with
  | none => exact nothing source
  | some source' =>
    simp only [Action.ends_bind]
    refine (something source' source).mono ?_ (fun _ _ => id)
    exact fun _ _ settles => Action.ends_bind.mp settles

/-- A page is copied with its content, or the copying ends. -/
theorem copyPage_course (atRest : machine.AtRest) (home : parent.subsystem = child.subsystem)
    (apart : child ≠ parent) (spaceExists : (machine.spaces.get? child).isSome) :
    (copyPage child parent number).Ends machine
      (fun _ later => Course (Transition.ClonesOnly child parent) machine later ∧
        CopiesPage child parent number machine later)
      (fun _ later => Course (Transition.ClonesOnly child parent) machine later ∧
        SpoilsPage child parent number machine later) := by
  cases found : machine.page? parent number with
  | none =>
    have vacant : (machine.space parent).pages.get? number = none := found
    unfold copyPage
    simp only [Action.ends_bind, ends_space, vacant]
    exact ⟨.refl atRest, .vacant found rfl⟩
  | some page =>
    have numbered := atRest.consistent.fits.number_eq found
    subst numbered
    refine copyPage_registers atRest apart spaceExists found (fun _ => ⟨.refl atRest, .known rfl⟩) ?_
    intro grown registers model copy
    have grows : Course (Transition.ClonesOnly child parent) machine grown :=
      .single atRest registers Transition.clonesOnly_register
    have absent : grown.frame? child page.number = none := (frame?_of_found copy).trans rfl
    have settles : ∀ {ready : Machine config} {frame : FrameNumber} {bytes : PageBytes config}
        {dirty : Bool}, CopyReady.Via child parent page.number frame grown ready →
        ready.Provides parent page bytes dirty →
        (do settlePage child page.forked frame
            if dirty then updateSpace child (·.markDirty page.number) else pure ()).Ends
          (ready.setFrameBytes frame bytes)
          (fun _ later => Course (Transition.ClonesOnly child parent) machine later ∧
            CopiesPage child parent page.number machine later)
          (fun _ later => Course (Transition.ClonesOnly child parent) machine later ∧
            SpoilsPage child parent page.number machine later) := by
      intro ready frame bytes dirty isReady provides
      have leads : (Transition.copy child parent page.number frame).Leads ready _ :=
        .copy (isReady.model.trans model) (isReady.copy.trans copy) isReady.awaits provides
      exact Iff.mpr (settleCopy_ends rfl isReady.awaits.mem_frames bytes dirty)
        ⟨grows.trans (isReady.course leads), .copied found registers isReady.path leads⟩
    refine ⟨fun nothing => ⟨grows, .registered found nothing registers⟩, fun source source' => ?_⟩
    cases source with
    | frame held =>
      obtain ⟨isLoaded, resident⟩ := page.copySource?_eq_frame source'
      refine (fillCopy_frame_ends grows.atRest home ((frame?_of_found model).trans resident)
        absent).mono ?_ (fun _ _ => False.elim)
      rintro ⟨frame, dirty⟩ _ ⟨ready, isReady, rfl, same⟩
      simp only at same isReady ⊢
      subst same
      exact settles isReady (.frame isLoaded resident)
    | slot slot =>
      obtain ⟨kept, missing⟩ := page.copySource?_eq_slot source'
      refine (fillCopy_slot_ends grows.atRest slot ((frame?_of_found model).trans missing)
        absent).mono ?_ ?_
      · rintro ⟨frame, dirty⟩ _ ⟨ready, content, isReady, read, rfl, rfl⟩
        exact settles isReady (.slot kept missing read)
      · exact fun _ _ course => ⟨grows.trans (course.mono fun _ => And.right),
          .spoiled found registers (course.passes.mono fun _ => And.left)⟩

/-- Copying a page completes as `CopiesPage` says, or goes wrong as `SpoilsPage` says. -/
theorem copyPage_ends (atRest : machine.AtRest) (home : parent.subsystem = child.subsystem)
    (apart : child ≠ parent) (spaceExists : (machine.spaces.get? child).isSome) :
    (copyPage child parent number).Ends machine
      (fun _ later => later.AtRest ∧ CopiesPage child parent number machine later)
      (fun _ later => later.AtRest ∧ SpoilsPage child parent number machine later) :=
  (copyPage_course atRest home apart spaceExists).mono
    (fun _ _ ⟨course, copies⟩ => ⟨course.atRest, copies⟩)
    (fun _ _ ⟨course, spoils⟩ => ⟨course.atRest, spoils⟩)

end KernelAction

namespace KernelAction

open Machine

variable {child parent : SpaceKey}

/-- Copying pages is orderly and claims none, by induction on the list. -/
theorem copyPages_course (numbers : List PageNumber) {machine : Machine config}
    (atRest : machine.AtRest) (home : parent.subsystem = child.subsystem)
    (apart : child ≠ parent) (spaceExists : (machine.spaces.get? child).isSome) :
    (Action.forEach (copyPage child parent) numbers).Ends machine
      (fun _ later => Course (Transition.ClonesOnly child parent) machine later ∧
        CopiesPages child parent numbers machine (.ok ()) later)
      (fun error later => Course (Transition.ClonesOnly child parent) machine later ∧
        CopiesPages child parent numbers machine (.error error) later) := by
  induction numbers generalizing machine with
  | nil => exact ⟨.refl atRest, .done⟩
  | cons number rest inductionHypothesis =>
    rw [Action.ends_forEach_cons]
    refine (copyPage_course atRest home apart spaceExists).mono ?_ ?_
    · rintro _ middle ⟨course, copies⟩
      have still := (course.passes.isSome_eq (fun _ => Transition.ClonesOnly.keepsSpaces)
        child).trans spaceExists
      refine (inductionHypothesis course.atRest still).mono ?_ ?_
      · exact fun _ _ ⟨others, copied⟩ =>
          ⟨course.trans others, .page copies course.atRest copied⟩
      · exact fun _ _ ⟨others, copied⟩ =>
          ⟨course.trans others, .page copies course.atRest copied⟩
    · exact fun _ _ ⟨course, spoils⟩ => ⟨course, .spoiled spoils⟩

/-- Copying pages one after the other does what `CopiesPages` says. -/
theorem copyPages_ends (numbers : List PageNumber) {machine : Machine config}
    (atRest : machine.AtRest) (home : parent.subsystem = child.subsystem)
    (apart : child ≠ parent) (spaceExists : (machine.spaces.get? child).isSome) :
    (Action.forEach (copyPage child parent) numbers).Ends machine
      (fun _ later => Passes (Transition.Clones child parent) machine later ∧
        CopiesPages child parent numbers machine (.ok ()) later)
      (fun error later => Passes (Transition.Clones child parent) machine later ∧
        CopiesPages child parent numbers machine (.error error) later) :=
  (copyPages_course numbers atRest home apart spaceExists).mono
    (fun _ _ ⟨course, copies⟩ => ⟨course.passes.mono fun _ => And.left, copies⟩)
    (fun _ _ ⟨course, copies⟩ => ⟨course.passes.mono fun _ => And.left, copies⟩)

end KernelAction

namespace Machine

/-- What copying a space does: the pages of the model are copied one by one, and the records of its
mappings at the end if nothing went wrong. -/
inductive CopiesSpace (child parent : SpaceKey) (machine : Machine config) :
    Except VmError Unit → Machine config → Prop where
  | refused {error : VmError} : CopiesSpace child parent machine (.error error) machine
  | done {started finished later : Machine config} (apart : child ≠ parent)
      (starts : (Transition.set child).Leads machine started)
      (copies : CopiesPages child parent (machine.space parent).pages.keys started (.ok ()) finished)
      (ends : (Transition.set child).Leads finished later) :
    CopiesSpace child parent machine (.ok ()) later
  | spoiled {started later : Machine config} {error : VmError} (apart : child ≠ parent)
      (starts : (Transition.set child).Leads machine started)
      (copies : CopiesPages child parent (machine.space parent).pages.keys started (.error error)
        later) : CopiesSpace child parent machine (.error error) later

end Machine

namespace KernelAction

open Machine

variable {child parent : SpaceKey} {machine : Machine config}

/-- Copying a space is orderly and claims no page. -/
theorem copySpace_course (atRest : machine.AtRest)
    (spaceExists : (machine.spaces.get? child).isSome) :
    (copySpace child parent).Ends machine
      (fun _ later => Course (Transition.ClonesOnly child parent) machine later ∧
        CopiesSpace child parent machine (.ok ()) later)
      (fun error later => Course (Transition.ClonesOnly child parent) machine later ∧
        CopiesSpace child parent machine (.error error) later) := by
  unfold copySpace
  simp only [Action.ends_bind, Action.ends_require, ends_space, ends_updateSpace]
  refine ⟨fun allowed => ?_, fun _ => ⟨.refl atRest, .refused⟩⟩
  simp only [Bool.and_eq_true, bne_iff_ne, ne_eq, beq_iff_eq] at allowed
  have apart : child ≠ parent := fun same => allowed.1 (congrArg SpaceKey.id same)
  have starts : (Transition.set child).Leads machine (machine.updateSpace child fun space =>
      { space with stackPointer := (machine.space parent).stackPointer }) := .set fun _ => rfl
  have started : Course (Transition.ClonesOnly child parent) machine _ :=
    .single atRest starts Transition.clonesOnly_set
  have still := (started.passes.isSome_eq (fun _ => Transition.ClonesOnly.keepsSpaces)
    child).trans spaceExists
  refine (copyPages_course _ started.atRest allowed.2.symm apart still).mono ?_ ?_
  · rintro _ finished ⟨course, copies⟩
    have ends : (Transition.set child).Leads finished (finished.updateSpace child fun space =>
        { space with
          regions := (finished.space parent).regions.entries.foldl
            (fun regions entry => regions.insert entry.1 entry.2) space.regions }) :=
      .set fun _ => rfl
    exact ⟨(started.trans course).trans (.single course.atRest ends Transition.clonesOnly_set),
      .done apart starts copies ends⟩
  · exact fun _ _ ⟨course, copies⟩ => ⟨started.trans course, .spoiled apart starts copies⟩

/-- Copying a space does what `CopiesSpace` says. -/
theorem copySpace_ends (atRest : machine.AtRest)
    (spaceExists : (machine.spaces.get? child).isSome) :
    (copySpace child parent).Ends machine
      (fun _ later => Passes (Transition.Clones child parent) machine later ∧
        CopiesSpace child parent machine (.ok ()) later)
      (fun error later => Passes (Transition.Clones child parent) machine later ∧
        CopiesSpace child parent machine (.error error) later) :=
  (copySpace_course atRest spaceExists).mono
    (fun _ _ ⟨course, copies⟩ => ⟨course.passes.mono fun _ => And.left, copies⟩)
    (fun _ _ ⟨course, copies⟩ => ⟨course.passes.mono fun _ => And.left, copies⟩)

end KernelAction

namespace Machine

/-- What forking a space does: a new space is created and the model copied to it; if that goes wrong
the new space is dropped again. -/
inductive Forks (parent : SpaceKey) (machine : Machine config) :
    Except VmError SpaceKey → Machine config → Prop where
  | done {created later : Machine config} {root : PhysicalAddress}
      (creates : created = machine.addSpace parent.subsystem root)
      (copies : CopiesSpace (machine.nextKey parent.subsystem) parent created (.ok ()) later)
      (passes : Passes (Transition.Clones (machine.nextKey parent.subsystem) parent) created later) :
    Forks parent machine (.ok (machine.nextKey parent.subsystem)) later
  | undone {created spoiled later : Machine config} {root : PhysicalAddress} {error : VmError}
      (creates : created = machine.addSpace parent.subsystem root)
      (copies : CopiesSpace (machine.nextKey parent.subsystem) parent created (.error error) spoiled)
      (passes : Passes (Transition.Clones (machine.nextKey parent.subsystem) parent) created spoiled)
      (drops : Passes (Transition.Drops (machine.nextKey parent.subsystem)) spoiled later)
      (pages : later.page? = fun probe other =>
        if probe = machine.nextKey parent.subsystem then none else spoiled.page? probe other)
      (known : later.registration = fun probe =>
        if probe = machine.nextKey parent.subsystem then none else spoiled.registration probe) :
    Forks parent machine (.error error) later

/-- A space is added to a machine at rest. -/
theorem addSpace_atRest {machine : Machine config} (atRest : machine.AtRest)
    (subsystem : Subsystem) (root : PhysicalAddress) :
    (machine.addSpace subsystem root).AtRest := by
  have creates : (Transition.create (machine.nextKey subsystem)).Leads machine
      (machine.addSpace subsystem root) := .create
  exact ⟨creates.consistent atRest.consistent, creates.pending atRest.consistent atRest.idle⟩

end Machine

namespace KernelAction

open Machine

/-- A fork ends with a copy of the space, or with no copy at all. -/
theorem forkSpace_course {parent : SpaceKey} {machine : Machine config} (atRest : machine.AtRest) :
    (forkSpace parent).Ends machine
      (fun child later => Course (Transition.Spawns (machine.nextKey parent.subsystem) parent)
        machine later ∧ Forks parent machine (.ok child) later)
      (fun error later => Course (Transition.Spawns (machine.nextKey parent.subsystem) parent)
        machine later ∧ Forks parent machine (.error error) later) := by
  unfold forkSpace
  simp only [Action.ends_bind]
  refine (createSpace_ends machine parent.subsystem).mono ?_ (fun _ _ => False.elim)
  rintro _ _ ⟨rfl, root, rfl⟩
  have creates : Course (Transition.Spawns (machine.nextKey parent.subsystem) parent) machine
      (machine.addSpace parent.subsystem root) := .single atRest .create .create
  have spaceExists : ((machine.addSpace parent.subsystem root).spaces.get?
      (machine.nextKey parent.subsystem)).isSome := by
    rw [spaces_addSpace, OrderedMap.get?_insert_self]
    rfl
  simp only [Action.ends_attempt, Action.ends_unwinding]
  refine (copySpace_course creates.atRest spaceExists).mono ?_ ?_
  · exact fun _ _ ⟨course, copies⟩ => ⟨creates.trans (course.mono fun _ => .clone),
      .done rfl copies (course.passes.mono fun _ => And.left)⟩
  · rintro error spoiled ⟨course, copies⟩
    simp only [Action.ends_bind]
    refine (dropSpace_ends course.atRest).mono ?_ (fun _ _ => False.elim)
    rintro _ later ⟨drops, pages, known⟩
    have dropped := drops.course fun _ => Transition.Drops.not_acquires
    exact ⟨(creates.trans (course.mono fun _ => .clone)).trans (dropped.mono fun _ => .drop),
      .undone rfl copies (course.passes.mono fun _ => And.left) drops pages known⟩

/-- Forking a space does what `Forks` says, and leaves the machine at rest. -/
theorem forkSpace_ends {parent : SpaceKey} {machine : Machine config} (atRest : machine.AtRest) :
    (forkSpace parent).Ends machine
      (fun child later => later.AtRest ∧ Forks parent machine (.ok child) later)
      (fun error later => later.AtRest ∧ Forks parent machine (.error error) later) :=
  (forkSpace_course atRest).mono (fun _ _ ⟨course, forks⟩ => ⟨course.atRest, forks⟩)
    (fun _ _ ⟨course, forks⟩ => ⟨course.atRest, forks⟩)

end KernelAction

end DemandPaging

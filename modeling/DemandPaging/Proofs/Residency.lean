import DemandPaging.Proofs.Consistency

/-!
# What the residency operations do

Each operation of the kernel on frames and pages is a path of transitions. The `_ends` theorems say
which transitions these are, what is in hand at the end, and that the operation stops the kernel
only when room cannot be made.
-/

namespace DemandPaging

variable {config : Config}

namespace KernelAction

variable {Value : Type} {machine : Machine config} {whenFailed : VmError → Machine config → Prop}

theorem ends_record {event : Event} {whenDone : Unit → Machine config → Prop} :
    (record event).Ends machine whenDone whenFailed ↔ whenDone () (machine.record event) :=
  Iff.rfl

theorem ends_space {key : SpaceKey} {whenDone : Space config → Machine config → Prop} :
    (space key).Ends machine whenDone whenFailed ↔ whenDone (machine.space key) machine :=
  Iff.rfl

theorem ends_updateSpace {key : SpaceKey} {update : Space config → Space config}
    {whenDone : Unit → Machine config → Prop} :
    (updateSpace key update).Ends machine whenDone whenFailed ↔
      whenDone () (machine.updateSpace key update) :=
  Iff.rfl

theorem ends_updateTable {subsystem : Subsystem} {update : FrameTable → FrameTable}
    {whenDone : Unit → Machine config → Prop} :
    (updateTable subsystem update).Ends machine whenDone whenFailed ↔
      whenDone () (machine.updateTable subsystem update) :=
  Iff.rfl

/-- An action of the devices ends on the machine as it does on the environment. -/
theorem ends_onEnvironment {action : EnvironmentAction config Value}
    {whenDone : Value → Machine config → Prop} :
    (onEnvironment action).Ends machine whenDone whenFailed ↔
      action.Ends machine.environment
        (fun value environment => whenDone value { machine with environment := environment })
        (fun error environment => whenFailed error { machine with environment := environment }) :=
  Action.ends_zoom

/-- An action on a frame ends on the machine as it does on the frame and the environment. -/
theorem ends_onFrame {frame : FrameNumber} {action : FrameAction config Value}
    {whenDone : Value → Machine config → Prop} :
    (onFrame frame action).Ends machine whenDone whenFailed ↔
      action.Ends (machine.window frame)
        (fun value window => whenDone value (machine.putWindow frame window))
        (fun error window => whenFailed error (machine.putWindow frame window)) :=
  Action.ends_zoom

/-- Saving a victim returns when its content could be stored, and then the page is unmapped and has
no frame. -/
theorem evictPage_ends {key : SpaceKey} {page : Page config} {frame : FrameNumber}
    (found : machine.page? key page.number = some page) (resident : page.frame = some frame)
    (isLoaded : page.kind.IsLoaded) :
    (evictPage key page.number frame).Ends machine
      (fun _ later => ∃ kind environment,
        page.kind.store page.number (machine.frameBytes frame)
          ((machine.space key).isDirty page.number) machine.environment =
            .done kind environment ∧
        later = ({ machine.updateSpace key (·.unmapPage page.number) with
          environment := environment } : Machine config).updateSpace key
            (·.setPage { page with kind := kind, frame := none }))
      (fun _ _ => False) := by
  unfold evictPage
  have still : ((machine.updateSpace key (·.unmapPage page.number)).space key).pages.get?
      page.number = some page := by
    have same := congrFun (congrFun (@Machine.page?_unmapPage _ machine key page.number) key)
      page.number
    exact same.trans found
  simp only [Action.ends_bind, ends_space, ends_updateSpace, still, Action.ends_view,
    ends_onEnvironment]
  rw [Action.ends_assert (by simp [resident])]
  refine (PageKind.store_ends isLoaded page.number _ _ _).outcome.mono ?_ (fun _ _ => And.right)
  rintro kind environment ⟨stored, _⟩
  exact ⟨kind, environment, stored, rfl⟩

/-- A frame that is not in the queue may be put at its end. -/
theorem enqueue_ends {subsystem : Subsystem} {frame : FrameNumber}
    (fresh : frame ∉ (machine.table subsystem).frames) {whenDone : Unit → Machine config → Prop} :
    (enqueue subsystem frame).Ends machine whenDone whenFailed ↔
      whenDone () (machine.updateTable subsystem (·.push frame)) := by
  have untracked : (!(machine.table subsystem).tracks frame) = true := by
    rw [Bool.not_eq_true', ← Bool.not_eq_true, FrameTable.tracks_iff]
    exact fresh
  unfold enqueue
  simp only [Action.ends_bind, Action.ends_current]
  rw [Action.ends_assert untracked]
  exact Iff.rfl

end KernelAction

/-- A transition that puts a waiting frame at the end of the queue of a subsystem. -/
inductive Transition.Acquires (subsystem : Subsystem) (frame : FrameNumber) :
    Transition config → Prop where
  | take : Acquires subsystem frame (.take subsystem frame)
  | evict {key : SpaceKey} {number : PageNumber} (home : key.subsystem = subsystem) :
    Acquires subsystem frame (.evict key number frame)

namespace KernelAction

open Machine

variable {machine : Machine config}

/-- A frame is found, in the pool or by evicting a page. -/
theorem acquireFrame_ends (consistent : machine.Consistent) (subsystem : Subsystem)
    (held : List SpaceKey) :
    (acquireFrame subsystem held).Ends machine
      (fun frame later => ∃ transition : Transition config,
        transition.Acquires subsystem frame ∧ transition.Leads machine later)
      (fun _ _ => False) := by
  unfold acquireFrame takeFree
  simp only [Action.ends_bind, ends_record, Action.ends_current]
  cases free : machine.pool.free with
  | cons frame rest =>
    have taken : (machine.record (.frameRequested subsystem false)).pool.take =
        some (frame, { machine.pool with free := rest }) := by
      simp [FramePool.take, free]
    simp only [List.isEmpty_cons, taken, Action.ends_bind, Action.ends_change, Action.ends_pure]
    rw [enqueue_ends]
    · exact ⟨_, .take, .take free⟩
    · refine not_mem_table_of_free consistent.nodup ?_ subsystem
      rw [free]
      exact List.mem_cons_self
  | nil =>
    have none : (machine.record (.frameRequested subsystem true)).pool.take = none := by
      simp [FramePool.take, free]
    simp only [List.isEmpty_nil, none, Action.ends_pure, Action.ends_bind, Action.ends_current,
      table_record]
    cases picked : (machine.table subsystem).pickVictim with
    | none => exact .outOfFrames
    | some choice =>
      obtain ⟨⟨frame, owner, pinned⟩, remaining⟩ := choice
      -- Only a tracked frame is picked, and a consistent machine tracks no frame without its page.
      obtain ⟨space, page, held, found, resident⟩ := consistent.holder_of_picked picked
      cases held
      have isLoaded := consistent.fits.isLoaded found resident
      simp only [Action.ends_bind, ends_updateTable, evict, ends_record, ends_space]
      let ready := ((machine.record (.frameRequested subsystem true)).updateTable subsystem
        fun _ => remaining).record (.evicting ⟨subsystem, space⟩ page.number)
      have spaces : ready.spaces = machine.spaces := by simp [ready]
      have registered : (ready.space ⟨subsystem, space⟩).registered = true := by
        rw [space_congr spaces]
        exact consistent.registered (isSome_of_page? found)
      rw [if_pos (by simp [ready] at registered; simp [registered])]
      have foundNow : ready.page? ⟨subsystem, space⟩ page.number = some page := by
        rw [page?_congr spaces]
        exact found
      refine (evictPage_ends foundNow resident isLoaded).mono ?_ (fun _ _ => id)
      rintro _ _ ⟨kind, environment, stored, rfl⟩
      simp only [Action.ends_change]
      have bytes : ready.frameBytes = machine.frameBytes := by simp [ready]
      rw [bytes, space_congr spaces] at stored
      rw [enqueue_ends]
      · have leads := Transition.Leads.evict free picked found resident stored
        exact ⟨_, .evict rfl, leads⟩
      · have entered := FrameTable.frames_pickVictim picked
        have once := entered.nodup_iff.mpr (nodup_table consistent.nodup subsystem)
        rw [table_setFrameBytes, table_updateTable, FrameTable.frames_countEviction]
        show frame ∉ (((machine.record (.frameRequested subsystem true)).updateTable subsystem
          fun _ => remaining).table subsystem).frames
        rw [table_updateTable]
        exact (List.nodup_cons.mp once).1

end KernelAction

namespace Transition

open Machine

variable {machine later : Machine config} {subsystem : Subsystem} {frame : FrameNumber}
  {transition : Transition config}

/-- A frame that was acquired waits for its page. -/
theorem Acquires.awaits (acquires : transition.Acquires subsystem frame)
    (leads : transition.Leads machine later) : (later.table subsystem).Awaits frame := by
  cases acquires with
  | take =>
    cases leads
    rw [table_take, if_pos rfl]
    exact List.mem_append_right _ (List.mem_singleton.mpr rfl)
  | evict home =>
    cases leads
    subst home
    rw [table_evicted, if_pos rfl]
    exact List.mem_append_right _ (List.mem_singleton.mpr rfl)

/-- A frame that was acquired waits for its page. -/
theorem Acquires.pending (acquires : transition.Acquires subsystem frame)
    (leads : transition.Leads machine later) (consistent : machine.Consistent)
    {waiting pinned : List FrameNumber} (pending : machine.Pending waiting pinned) :
    later.Pending (frame :: waiting) pinned := by
  have after := leads.pending consistent pending
  cases acquires <;> exact after

end Transition

namespace KernelAction

open Machine

variable {machine : Machine config} {whenFailed : VmError → Machine config → Prop}

/-- A frame in the queue can be given back to the pool. -/
theorem releaseFrame_ends (nodup : machine.frames.Nodup) {subsystem : Subsystem}
    {frame : FrameNumber} (tracked : frame ∈ (machine.table subsystem).frames)
    {whenDone : Unit → Machine config → Prop} :
    (releaseFrame subsystem frame).Ends machine whenDone whenFailed ↔
      whenDone () (machine.release subsystem frame) := by
  unfold releaseFrame giveBack
  have notFree : (!(machine.updateTable subsystem (·.remove frame)).pool.isFree frame) = true := by
    rw [pool_updateTable, Bool.not_eq_true', ← Bool.not_eq_true, FramePool.isFree,
      List.contains_iff_mem]
    exact not_free_of_table nodup tracked
  simp only [Action.ends_bind, Action.ends_current, FrameTable.tracks_iff.mpr tracked, if_true,
    ends_updateTable]
  rw [Action.ends_assert notFree]
  exact Iff.rfl

end KernelAction

namespace Transition

open Machine

/-- A transition that no page can tell from none: it reports something, makes room, or gives back
a frame that could not be used. -/
def IsQuiet : Transition config → Prop
  | .note _ | .take _ _ | .evict _ _ _ | .release _ _ | .spoil _ _ _ _ => True
  | _ => False

/-- A transition of the kind that loading a page takes. -/
def Loads (key : SpaceKey) (number : PageNumber) (transition : Transition config) : Prop :=
  transition.IsQuiet ∨ ∃ frame, transition = .load key number frame

/-- Only a page that is resident can change by a quiet transition. -/
theorem IsQuiet.page?_eq {transition : Transition config} (isQuiet : transition.IsQuiet)
    {machine next : Machine config} (leads : transition.Leads machine next) {key : SpaceKey}
    {number : PageNumber} (absent : machine.frame? key number = none) :
    next.page? key number = machine.page? key number := by
  cases leads with
  | note | spoil => rfl
  | take => rw [page?_take]
  | release => rw [page?_release]
  | @evict _ _ page _ _ _ _ _ _ found resident =>
    rw [page?_evicted (isSome_of_page? found), amend_of_ne]
    rintro ⟨rfl, rfl⟩
    rw [frame?_of_found found, resident] at absent
    cases absent
  | _ => exact isQuiet.elim

/-- No page can tell that a frame was acquired, but for the one that was evicted for it. -/
theorem Acquires.isQuiet {subsystem : Subsystem} {frame : FrameNumber}
    {transition : Transition config} (acquires : transition.Acquires subsystem frame) :
    transition.IsQuiet := by
  cases acquires <;> exact trivial

end Transition

/-- While room is made, a page without a frame stays as it is. -/
theorem Path.page?_eq {machine later : Machine config}
    (path : Path (fun _ => Transition.IsQuiet) machine later) {key : SpaceKey}
    {number : PageNumber} (absent : machine.frame? key number = none) :
    later.page? key number = machine.page? key number := by
  induction path with
  | refl => rfl
  | @step middle next transition _ leads isQuiet inductionHypothesis =>
    have still : middle.frame? key number = none := by
      rw [Machine.frame?, inductionHypothesis]
      exact absent
    exact (isQuiet.page?_eq leads still).trans inductionHypothesis

/-- A way from one machine to another by permitted transitions, with no frame in hand at its end. -/
structure Passes (permits : Transition config → Prop) (machine later : Machine config) :
    Prop where
  path : Path (fun _ => permits) machine later
  atRest : later.AtRest

theorem Passes.refl {permits : Transition config → Prop} {machine : Machine config}
    (atRest : machine.AtRest) : Passes permits machine machine :=
  ⟨.refl, atRest⟩

/-- Two ways, one after the other, are a way. -/
theorem Passes.trans {permits : Transition config → Prop} {machine middle later : Machine config}
    (first : Passes permits machine middle) (second : Passes permits middle later) :
    Passes permits machine later :=
  ⟨first.path.trans second.path, second.atRest⟩

/-- A way of one kind is a way of every weaker kind. -/
theorem Passes.mono {permits permits' : Transition config → Prop} {machine later : Machine config}
    (passes : Passes permits machine later)
    (weaker : ∀ transition, permits transition → permits' transition) :
    Passes permits' machine later :=
  ⟨passes.path.mono fun _ => weaker, passes.atRest⟩

/-- A machine stays at rest when a transition takes no frame in hand. -/
theorem Transition.Leads.atRest {machine later : Machine config} {transition : Transition config}
    (leads : transition.Leads machine later) (atRest : machine.AtRest)
    (neutral : transition.waitingAfter [] = [] := by rfl)
    (neutral' : transition.pinnedAfter [] = [] := by rfl) : later.AtRest := by
  have pending := leads.pending atRest.consistent atRest.idle
  rw [neutral, neutral'] at pending
  exact ⟨leads.consistent atRest.consistent, pending⟩

/-- A transition after which the same frames are in hand is a way on its own. -/
theorem Passes.single {permits : Transition config → Prop} {machine later : Machine config}
    {transition : Transition config} (atRest : machine.AtRest)
    (leads : transition.Leads machine later) (permitted : permits transition)
    (neutral : transition.waitingAfter [] = [] := by rfl)
    (neutral' : transition.pinnedAfter [] = [] := by rfl) : Passes permits machine later :=
  ⟨.single leads permitted, leads.atRest atRest neutral neutral'⟩

namespace KernelAction

open Machine

variable {machine : Machine config}

/-- A page gets a frame that is in the queue. -/
theorem settlePage_ends {key : SpaceKey} {page : Page config} {frame : FrameNumber}
    (absent : page.frame = none) (tracked : frame ∈ (machine.table key.subsystem).frames)
    {whenDone : Unit → Machine config → Prop} {whenFailed : VmError → Machine config → Prop} :
    (settlePage key page frame).Ends machine whenDone whenFailed ↔
      whenDone () (machine.settle key page frame) := by
  unfold settlePage assignFrame
  simp only [Action.ends_bind]
  rw [Action.ends_assert (by simp [absent])]
  simp only [ends_updateSpace, Action.ends_current, table_updateSpace,
    FrameTable.tracks_iff.mpr tracked, if_true, Action.ends_bind, ends_updateTable, ends_record]
  exact Iff.rfl

/-- A page that is removed is gone, and what it held is given back, also when its content could not
be saved. The removal answers as the end of the page did. -/
theorem removePage_answers (consistent : machine.Consistent) {key : SpaceKey} {page : Page config}
    (found : machine.page? key page.number = some page) :
    (removePage key page.number).Ends machine
      (fun _ later => (Transition.discard key page.number).Leads machine later ∧
        ∀ frame, page.frame = some frame → ∃ environment,
          page.kind.discard (some (machine.frameBytes frame,
            (machine.space key).isDirty page.number)) machine.environment = .done () environment)
      (fun error later => (Transition.discard key page.number).Leads machine later ∧
        ∃ frame environment, page.frame = some frame ∧
          page.kind.discard (some (machine.frameBytes frame,
            (machine.space key).isDirty page.number)) machine.environment =
              .failed error environment) := by
  have foundThere : (machine.space key).pages.get? page.number = some page := found
  unfold removePage takePage discardPage
  simp only [Action.ends_bind, ends_space, foundThere, Action.orFail, Action.ends_value,
    ends_updateSpace, Action.ends_pure]
  cases resident : page.frame with
  | none =>
    simp only [ends_onEnvironment]
    refine (page.kind.discard_absent_ends machine.environment
      (consistent.slots.allocated found)).outcome.mono ?_ (fun _ _ failed => failed.2.elim)
    rintro _ environment ⟨ended, _⟩
    exact ⟨.discard found resident ended, by rintro _ ⟨⟩⟩
  | some frame =>
    have holds := (frame?_of_found found).trans resident
    have isLoaded := consistent.fits.isLoaded found resident
    have dirty : ((machine.updateSpace key (·.dropPage page.number)).space key).isDirty
        page.number = (machine.space key).isDirty page.number := by
      rw [isDirty_eq, mapped?_dropPage]
      rfl
    -- Whether the page could be saved or not, its frame is released before the answer is given.
    have released : ∀ {environment : Environment config} {result : Except VmError Unit}
        {whenDone : Unit → Machine config → Prop} {whenFailed : VmError → Machine config → Prop},
        (∀ value, result = .ok value →
          whenDone value (machine.endResident key page.number frame environment)) →
        (∀ error, result = .error error →
          whenFailed error (machine.endResident key page.number frame environment)) →
        (releaseFrame key.subsystem frame >>= fun _ => Action.ofExcept result).Ends
          ({ (machine.updateSpace key (·.dropPage page.number)).updateSpace key
            (·.unmapPage page.number) with environment := environment } : Machine config)
          whenDone whenFailed := by
      intro environment result whenDone whenFailed done failed
      rw [Action.ends_bind]
      refine Iff.mpr (releaseFrame_ends ?_ ?_) ?_
      · exact consistent.nodup
      · exact consistent.tables.tracked holds
      · exact Action.ends_ofExcept.mpr ⟨done, failed⟩
    simp only [Action.ends_bind, ends_space, ends_updateSpace, Action.ends_view,
      Action.ends_attempt, ends_onEnvironment, dirty]
    refine (PageKind.discard_resident_ends isLoaded (machine.frameBytes frame)
      ((machine.space key).isDirty page.number) machine.environment).outcome.mono ?_ ?_
    · rintro value environment ⟨done, _⟩
      have ended : (page.kind.discard (some (machine.frameBytes frame,
          (machine.space key).isDirty page.number))).attempt machine.environment =
            .done (.ok value) environment := by rw [Action.attempt, done]
      have leads : (Transition.discard key page.number).Leads machine _ :=
        .discardResident found resident ended
      refine Action.ends_bind.mp (released ?_ (by rintro _ ⟨⟩))
      rintro _ ⟨⟩
      refine ⟨leads, ?_⟩
      rintro _ ⟨⟩
      exact ⟨environment, done⟩
    · rintro error environment ⟨failed, _⟩
      have ended : (page.kind.discard (some (machine.frameBytes frame,
          (machine.space key).isDirty page.number))).attempt machine.environment =
            .done (.error error) environment := by rw [Action.attempt, failed]
      have leads : (Transition.discard key page.number).Leads machine _ :=
        .discardResident found resident ended
      refine Action.ends_bind.mp (released (by rintro _ ⟨⟩) ?_)
      rintro _ ⟨⟩
      exact ⟨leads, frame, environment, rfl, failed⟩

/-- Removing a page is one transition, whether its content was lost or not. -/
theorem removePage_ends (consistent : machine.Consistent) {key : SpaceKey} {page : Page config}
    (found : machine.page? key page.number = some page) :
    (removePage key page.number).Ends machine
      (fun _ later => (Transition.discard key page.number).Leads machine later)
      (fun _ later => (Transition.discard key page.number).Leads machine later) :=
  (removePage_answers consistent found).mono (fun _ _ => And.left) (fun _ _ => And.left)

/-- There is nothing to remove where no page is registered. -/
theorem removePage_of_vacant {key : SpaceKey} {number : PageNumber}
    (vacant : machine.page? key number = none) :
    removePage key number machine = .failed .notMapped machine := by
  have absent : (machine.space key).pages.get? number = none := vacant
  simp [removePage, takePage, space, Action.bind_apply, Action.orFail, absent]

end KernelAction

end DemandPaging

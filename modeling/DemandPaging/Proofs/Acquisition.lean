import DemandPaging.Proofs.Residency

/-!
# How a request for a frame ends

A request is met from the pool while a frame is free. After that one page is asked to go, the victim: its
frame is had if its content can be stored. If it cannot be, or if there is no victim, the kernel stops;
`Machine.FindsNoFrame` gives the states in which this happens and what is left.
-/

namespace DemandPaging

open Machine

variable {config : Config}

/-- How a request for a frame stops the kernel: no page can be evicted, or the content of the victim cannot
be stored. The victim is unmapped by then. -/
inductive Machine.FindsNoFrame (subsystem : Subsystem) (machine : Machine config) :
    Panic → Machine config → Prop where
  | exhausted (empty : machine.pool.free = [])
      (none : (machine.table subsystem).pickVictim = none) :
    FindsNoFrame subsystem machine .outOfFrames (machine.record (.frameRequested subsystem true))
  | unstored {key : SpaceKey} {page : Page config} {frame : FrameNumber} {remaining : FrameTable}
      {panic : Panic} {environment : Environment config} (empty : machine.pool.free = [])
      (home : key.subsystem = subsystem)
      (picked : (machine.table subsystem).pickVictim =
        some ({ frame := frame, owner := some ⟨key.id, page.number⟩ }, remaining))
      (found : machine.page? key page.number = some page) (resident : page.frame = some frame)
      (stopped : page.kind.store page.number (machine.frameBytes frame)
        ((machine.space key).isDirty page.number)
        (machine.beforeStore key page.number remaining).environment = .panicked panic environment) :
    FindsNoFrame subsystem machine panic
      { machine.beforeStore key page.number remaining with environment := environment }

namespace KernelAction

variable {machine last : Machine config} {key : SpaceKey} {subsystem : Subsystem}
  {held : List SpaceKey} {frame : FrameNumber} {rest : List FrameNumber} {panic : Panic}

/-! ## The pool -/

/-- The first free frame is taken, and is blank. -/
theorem takeFree_of_free (free : machine.pool.free = frame :: rest) :
    takeFree machine = .done (some frame)
      ({ machine with pool := { machine.pool with free := rest } }.setFrameBytes frame
        PageBytes.zero) := by
  simp only [takeFree, Action.bind_apply, Action.current_apply, FramePool.take, free,
    Action.change_apply, Action.pure_apply]

/-- A frame that is not in the queue may be put at its end. -/
theorem enqueue_of_fresh {subsystem : Subsystem} (fresh : frame ∉ (machine.table subsystem).frames) :
    enqueue subsystem frame machine = .done () (machine.updateTable subsystem (·.push frame)) := by
  have untracked : (machine.table subsystem).tracks frame = false := by
    rw [← Bool.not_eq_true, FrameTable.tracks_iff]
    exact fresh
  simp only [enqueue, Action.bind_apply, Action.current_apply, Action.assert, untracked, Bool.not_false,
    if_true, Action.value_apply]
  rfl

/-- While a frame is free, the first one is taken. -/
theorem acquireFrame_eq_take {subsystem : Subsystem} (held : List SpaceKey)
    (free : machine.pool.free = frame :: rest)
    (fresh : frame ∉ (machine.table subsystem).frames) :
    acquireFrame subsystem held machine = .done frame (machine.take subsystem frame rest) := by
  have requested : (machine.record (.frameRequested subsystem false)).pool.free = frame :: rest := free
  simp only [acquireFrame, Action.bind_apply, record, Action.current_apply, Action.change_apply, free,
    List.isEmpty_cons, takeFree_of_free requested]
  rw [enqueue_of_fresh]
  · rfl
  · rw [table_setFrameBytes]
    exact fresh

/-! ## Eviction -/

/-- An action of the devices stops the machine exactly where it stops on the environment. -/
theorem onEnvironment_eq_panicked_iff {Value : Type} {action : EnvironmentAction config Value} :
    onEnvironment action machine = .panicked panic last ↔
      ∃ environment, action machine.environment = .panicked panic environment ∧
        last = { machine with environment := environment } := by
  unfold onEnvironment Action.zoom
  cases action machine.environment with
  | done | failed => simp [Outcome.mapState]
  | panicked cause environment =>
    constructor
    · intro same
      cases same
      exact ⟨environment, rfl, rfl⟩
    · rintro ⟨_, same, rfl⟩
      cases same
      rfl

/-- The page that holds the frame is unmapped, and its content stored. -/
theorem evictPage_eq {page : Page config}
    (found : machine.page? key page.number = some page) (resident : page.frame = some frame) :
    evictPage key page.number frame machine =
      (onEnvironment (page.kind.store page.number (machine.frameBytes frame)
          ((machine.space key).isDirty page.number)) >>= fun kind =>
        updateSpace key (·.setPage { page with kind := kind, frame := none }))
        (machine.updateSpace key (·.unmapPage page.number)) := by
  have pages := congrFun (congrFun (@page?_unmapPage _ machine key page.number) key) page.number
  have still : ((machine.updateSpace key (·.unmapPage page.number)).space key).pages.get?
      page.number = some page := pages.trans found
  have asserted : (page.frame == some frame) = true := by simp [resident]
  simp only [evictPage, space, updateSpace, Action.bind_apply, Action.view_apply,
    Action.change_apply, still, asserted, Action.assert, if_true, Action.value_apply,
    frameBytes_updateSpace]

/-- An eviction stops the kernel exactly where the content of the page cannot be stored. -/
theorem evictPage_eq_panicked_iff {page : Page config}
    (found : machine.page? key page.number = some page) (resident : page.frame = some frame) :
    evictPage key page.number frame machine = .panicked panic last ↔
      ∃ environment, page.kind.store page.number (machine.frameBytes frame)
          ((machine.space key).isDirty page.number) machine.environment =
            .panicked panic environment ∧
        last = { machine.updateSpace key (·.unmapPage page.number) with environment := environment } := by
  rw [evictPage_eq found resident, Action.bind_eq_panicked_iff, onEnvironment_eq_panicked_iff]
  refine ⟨fun stops => stops.elim id ?_, .inl⟩
  rintro ⟨_, _, _, late⟩
  cases late

/-! ## Requests -/

/-- Putting a frame into the queue needs no other frame. -/
theorem makesNoRoom_enqueue (subsystem : Subsystem) (frame : FrameNumber) :
    (enqueue subsystem frame : KernelAction config Unit).MakesNoRoom :=
  .bind .current fun _ => .bind (.assert nofun) fun _ => .change _

/-- Without a victim no frame can be had. -/
theorem acquireFrame_of_none (empty : machine.pool.free = [])
    (none : (machine.table subsystem).pickVictim = none) :
    acquireFrame subsystem held machine =
      .panicked .outOfFrames (machine.record (.frameRequested subsystem true)) := by
  have noFree : (machine.record (.frameRequested subsystem true)).pool.take = Option.none := by
    simp [FramePool.take, empty]
  simp only [acquireFrame, takeFree, record, Action.bind_apply, Action.current_apply,
    Action.change_apply, empty, List.isEmpty_nil, noFree, Action.pure_apply, table_record, none,
    Action.halt_apply]

/-- A frame that a page has to lose is emptied first. -/
theorem acquireFrame_of_picked (key : SpaceKey) {number : PageNumber} {entry : FrameEntry}
    {remaining : FrameTable} (empty : machine.pool.free = [])
    (picked : (machine.table key.subsystem).pickVictim = some (entry, remaining))
    (owned : entry.owner = some ⟨key.id, number⟩) (registered : (machine.space key).registered = true) :
    acquireFrame key.subsystem held machine =
      (evictPage key number entry.frame >>= fun _ =>
        updateTable key.subsystem (·.countEviction) >>= fun _ =>
          Action.change (·.setFrameBytes entry.frame PageBytes.zero) >>= fun _ =>
            enqueue key.subsystem entry.frame >>= fun _ => pure entry.frame)
        (((machine.record (.frameRequested key.subsystem true)).updateTable key.subsystem
          fun _ => remaining).record (.evicting key number)) := by
  have none : (machine.record (.frameRequested key.subsystem true)).pool.take = none := by
    simp [FramePool.take, empty]
  have known : ((((machine.record (.frameRequested key.subsystem true)).updateTable key.subsystem
      fun _ => remaining).record (.evicting key number)).space key).registered = true := by
    have spaces : (((machine.record (.frameRequested key.subsystem true)).updateTable key.subsystem
        fun _ => remaining).record (.evicting key number)).spaces = machine.spaces := by simp
    rw [space_congr spaces]
    exact registered
  simp only [acquireFrame, takeFree, evict, updateTable, record, KernelAction.space,
    Action.bind_apply, Action.current_apply, Action.change_apply, Action.view_apply, empty,
    List.isEmpty_nil, none, Action.pure_apply, table_record, picked, owned]
  rw [if_pos]
  · rfl
  · exact Bool.or_eq_true_iff.mpr (.inr known)

/-- If the content of the victim cannot be stored, the kernel stops, and only then. -/
theorem acquireFrame_eq_panicked_of_picked {page : Page config} {remaining : FrameTable}
    (consistent : machine.Consistent) (empty : machine.pool.free = [])
    (picked : (machine.table key.subsystem).pickVictim =
      some ({ frame := frame, owner := some ⟨key.id, page.number⟩ }, remaining))
    (found : machine.page? key page.number = some page) (resident : page.frame = some frame) :
    acquireFrame key.subsystem held machine = .panicked panic last ↔
      ∃ environment, page.kind.store page.number (machine.frameBytes frame)
          ((machine.space key).isDirty page.number)
          (machine.beforeStore key page.number remaining).environment = .panicked panic environment ∧
        last = { machine.beforeStore key page.number remaining with environment := environment } := by
  have registered := consistent.registered (isSome_of_page? found)
  have exhausts (stopped : acquireFrame key.subsystem held machine = .panicked panic last) :
      panic.IsExhaustion :=
    (Action.ends_iff.mp (acquireFrame_ends consistent key.subsystem held)).2.2 _ _ stopped
  rw [acquireFrame_of_picked key empty picked rfl registered] at exhausts ⊢
  generalize prepared : ((machine.record (.frameRequested key.subsystem true)).updateTable key.subsystem
    fun _ => remaining).record (.evicting key page.number) = ready at exhausts ⊢
  have spaces : ready.spaces = machine.spaces := by simp [← prepared]
  have memory : ready.memory = machine.memory := by simp [← prepared]
  have foundNow := (congrFun₂ (page?_congr spaces) _ _).trans found
  have stops : evictPage key page.number frame ready = .panicked panic last ↔
      ∃ environment, page.kind.store page.number (machine.frameBytes frame)
          ((machine.space key).isDirty page.number)
          (machine.beforeStore key page.number remaining).environment = .panicked panic environment ∧
        last = { machine.beforeStore key page.number remaining with environment := environment } := by
    rw [evictPage_eq_panicked_iff foundNow resident, frameBytes_congr memory, space_congr spaces,
      ← prepared]
    rfl
  have makesNoRoom : (updateTable key.subsystem (·.countEviction) >>= fun _ =>
      Action.change (·.setFrameBytes frame PageBytes.zero) >>= fun _ =>
        enqueue key.subsystem frame >>= fun _ => pure frame :
          KernelAction config FrameNumber).MakesNoRoom :=
    .bind (.change _) fun _ => .bind (.change _) fun _ =>
      .bind (makesNoRoom_enqueue _ _) fun _ => .pure _
  constructor
  · intro stopped
    rcases Action.bind_eq_panicked_iff.mp stopped with early | ⟨_, _, _, late⟩
    · exact stops.mp early
    · exact absurd (exhausts stopped) (makesNoRoom _ _ _ late)
  · exact fun unstored => Action.bind_eq_panicked_iff.mpr (.inl (stops.mpr unstored))

/-- A request for a frame stops the kernel exactly where no frame can be found. -/
theorem acquireFrame_eq_panicked_iff (consistent : machine.Consistent) :
    acquireFrame subsystem held machine = .panicked panic last ↔
      machine.FindsNoFrame subsystem panic last := by
  constructor
  · intro stopped
    cases free : machine.pool.free with
    | cons frame rest =>
      rw [acquireFrame_eq_take held free (not_mem_table_of_free consistent.nodup
        (free ▸ List.mem_cons_self) subsystem)] at stopped
      cases stopped
    | nil =>
      cases picked : (machine.table subsystem).pickVictim with
      | none =>
        rw [acquireFrame_of_none free picked] at stopped
        cases stopped
        exact .exhausted free picked
      | some choice =>
        obtain ⟨⟨frame, owner, pinned⟩, remaining⟩ := choice
        obtain ⟨space, page, held, found, resident⟩ := consistent.holder_of_picked picked
        cases held
        have victim : (machine.table (SpaceKey.mk subsystem space).subsystem).pickVictim =
            some (⟨frame, some ⟨space, page.number⟩, false⟩, remaining) := picked
        obtain ⟨environment, unstored, rfl⟩ :=
          (acquireFrame_eq_panicked_of_picked consistent free victim found resident).mp stopped
        exact .unstored free rfl picked found resident unstored
  · rintro (⟨empty, none⟩ | ⟨empty, rfl, picked, found, resident, unstored⟩)
    · exact acquireFrame_of_none empty none
    · exact (acquireFrame_eq_panicked_of_picked consistent empty picked found resident).mpr
        ⟨_, unstored, rfl⟩

end KernelAction

end DemandPaging

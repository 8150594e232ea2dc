import DemandPaging.Proofs.Loading
import DemandPaging.Proofs.WriteBack.Attempts

/-!
# What a frame held before does not show

A frame may hold anything when a page is loaded into it. A load that is done has overwritten every byte
before an initializer looks at the frame, so neither the loaded bytes nor what the page becomes depend on
them; a load that fails does so whatever the frame held, and for the same reason.
-/

namespace DemandPaging

/-! ## Outcomes that agree -/

/-- Outcomes that are both done, with the same value in the same state, or that both stopped for the same
reason, in states that are related. -/
inductive Outcome.Agree {State Value : Type} (related : State → State → Prop) :
    Outcome State Value → Outcome State Value → Prop where
  | done (value : Value) (state : State) : Agree related (.done value state) (.done value state)
  | failed (error : VmError) {left right : State} (same : related left right) :
    Agree related (.failed error left) (.failed error right)
  | panicked (panic : Panic) {left right : State} (same : related left right) :
    Agree related (.panicked panic left) (.panicked panic right)

namespace Outcome.Agree

variable {State Value Next : Type} {related : State → State → Prop}

/-- Outcomes agree with themselves. -/
theorem refl (reflexive : ∀ state, related state state) (outcome : Outcome State Value) :
    Agree related outcome outcome := by
  cases outcome with
  | done value state => exact .done value state
  | failed error state => exact .failed error (reflexive state)
  | panicked panic state => exact .panicked panic (reflexive state)

/-- Once a first part has made the states equal, nothing tells them apart any more. -/
theorem bind (reflexive : ∀ state, related state state) {first : Action State Value}
    {next : Value → Action State Next} {left right : State}
    (agree : Agree related (first left) (first right)) :
    Agree related ((first >>= next) left) ((first >>= next) right) := by
  rw [Action.bind_apply, Action.bind_apply]
  generalize first left = one, first right = other at agree ⊢
  cases agree with
  | done value state => exact refl reflexive (next value state)
  | failed error same => exact .failed error same
  | panicked panic same => exact .panicked panic same

/-- Where outcomes agree and one is done, so is the other, in the same state. -/
theorem done_of_done {left right : Outcome State Value} {value : Value} {last : State}
    (agree : Agree related left right) (done : left = .done value last) :
    right = .done value last := by
  subst done
  cases agree
  rfl

/-- Where outcomes agree and one failed, so did the other, for the same reason. -/
theorem failed_of_failed {left right : Outcome State Value} {error : VmError} {last : State}
    (agree : Agree related left right) (failed : left = .failed error last) :
    ∃ other, right = .failed error other ∧ related last other := by
  subst failed
  cases agree with
  | failed _ same => exact ⟨_, rfl, same⟩

end Outcome.Agree

variable {config : Config}

/-! ## Every byte is overwritten -/

namespace PageBytes

/-- A page that is cleared from its start is a page of zeros. -/
theorem clearFrom_zero (page : PageBytes config) : page.clearFrom 0 = zero := by
  refine Vector.ext fun index inside => ?_
  rw [getElem_clearFrom _ _ inside, getElem_zero, if_neg (Nat.not_lt_zero index)]

/-- Where the bytes laid over a page reach the part that is clear, nothing of the page is left. -/
theorem overwrite_clearFrom_eq (before stale : PageBytes config) {data : Bytes} {position : Nat}
    (reaches : data.size = position) :
    (before.clearFrom position).overwrite 0 data = (stale.clearFrom position).overwrite 0 data := by
  refine Vector.ext fun index inside => ?_
  rw [getElem_overwrite _ _ _ inside, getElem_overwrite _ _ _ inside, getElem_clearFrom _ _ inside,
    getElem_clearFrom _ _ inside, Bytes.overlay, Bytes.overlay, if_pos (Nat.zero_le index),
    if_pos (Nat.zero_le index)]
  by_cases covered : index < data.size
  · simp [covered]
  · rw [if_neg (reaches ▸ covered), if_neg (reaches ▸ covered)]

end PageBytes

/-- Windows that differ at most in what is in the frame. -/
def FrameWindow.SameEnvironment (left right : FrameWindow config) : Prop :=
  left.environment = right.environment

namespace FrameWindow.SameEnvironment

theorem refl (window : FrameWindow config) : window.SameEnvironment window := rfl

end FrameWindow.SameEnvironment

section Load

variable (environment : Environment config) (before stale : PageBytes config)

/-- What a frame held before makes no difference to loading a file page. -/
theorem FileBacking.load_agree (backing : FileBacking config) :
    Outcome.Agree FrameWindow.SameEnvironment (backing.load ⟨environment, before⟩)
      (backing.load ⟨environment, stale⟩) := by
  unfold FileBacking.load
  by_cases empty : backing.readBytes = 0
  · -- Nothing is read, so the whole frame is cleared.
    rw [if_pos empty, empty, Action.bind_apply, Action.bind_apply]
    simp only [FrameAction.changeBytes, Action.change_apply, Action.pure_apply,
      PageBytes.clearFrom_zero]
    exact .done _ _
  · simp only [if_neg empty, FrameAction.changeBytes, FrameAction.onEnvironment, Action.zoom,
      Action.bind_apply, Action.change_apply]
    -- The file does not see the frame: the read ends alike for both.
    cases EnvironmentAction.readFile backing.handle backing.offset backing.readBytes
        environment with
    | failed error later => exact .failed error rfl
    | panicked panic later => exact .panicked panic rfl
    | done data later =>
      simp only [Outcome.mapState]
      by_cases complete : data.size = backing.readBytes
      · simp only [if_pos complete, PageBytes.overwrite_clearFrom_eq before stale complete]
        exact .done _ _
      · simp only [if_neg complete]
        exact .failed _ rfl

/-- What a frame held before makes no difference to loading a target. -/
theorem PageTarget.load_agree (target : PageTarget config) :
    Outcome.Agree FrameWindow.SameEnvironment (target.load ⟨environment, before⟩)
      (target.load ⟨environment, stale⟩) := by
  cases target with
  | anonymous => exact .done _ _
  | file backing => exact (backing.load_agree environment before stale).bind .refl

/-- All ways to load a page agree on what they make of a frame, whatever it held. -/
theorem PageKind.load_agree (number : PageNumber) (kind : PageKind config) :
    Outcome.Agree FrameWindow.SameEnvironment (kind.load number ⟨environment, before⟩)
      (kind.load number ⟨environment, stale⟩) := by
  match kind with
  | .unloaded target initializer =>
    -- The initializer comes after the target has filled the frame.
    exact (target.load_agree environment before stale).bind .refl
  | .anonymous none => exact .done _ _
  | .anonymous (some slot) =>
    simp only [PageKind.load, FrameAction.onEnvironment, Action.zoom, Action.bind_apply]
    cases EnvironmentAction.readSlot slot environment with
    | failed error later => exact .failed error rfl
    | panicked panic later => exact .panicked panic rfl
    | done content later => exact .refl .refl _
  | .file backing => exact (backing.load_agree environment before stale).bind .refl

end Load

/-! ## Where the loaded bytes come from -/

/-- Two environments hold the same for a page: in its slot, in the part of its file that it is loaded
from, and for its initializer. -/
structure PageKind.SuppliedAlike (number : PageNumber) (kind : PageKind config)
    (left right : Environment config) : Prop where
  slot : ∀ slot, kind.slot? = some slot → left.swap.content? slot = right.swap.content? slot
  file : ∀ backing, kind.backing? = some backing → ∀ index < backing.readBytes,
    (left.file backing.handle.file).data.getD (backing.offset.toNat + index) 0 =
      (right.file backing.handle.file).data.getD (backing.offset.toNat + index) 0
  initializer : ∀ initializer, kind.initializer? = some initializer → ∀ content,
    initializer.run (left.runsOf initializer.id + 1) number content =
      initializer.run (right.runsOf initializer.id + 1) number content

/-- The image of a file is that of the part that is read. -/
theorem FileBacking.image_congr {backing : FileBacking config} {data other : Bytes}
    (same : ∀ index < backing.readBytes,
      data.getD (backing.offset.toNat + index) 0 = other.getD (backing.offset.toNat + index) 0) :
    backing.image data = backing.image other := by
  refine Vector.ext fun index inside => ?_
  rw [getElem_image _ _ inside, getElem_image _ _ inside]
  by_cases read : index < backing.readBytes
  · rw [if_pos read, if_pos read, same index read]
  · rw [if_neg read, if_neg read]

namespace PageKind

variable {number : PageNumber} {kind : PageKind config} {left right : Environment config}

/-- A page is loaded from its slot, its part of the file and its initializer only. -/
theorem SuppliedAlike.source_eq (alike : kind.SuppliedAlike number left right) :
    kind.source left = kind.source right := by
  match kind with
  | .anonymous (some slot) =>
    rw [source, source, alike.slot slot rfl]
  | .anonymous none | .unloaded .anonymous _ => rfl
  | .file backing | .unloaded (.file backing) _ =>
    exact FileBacking.image_congr (alike.file backing rfl)

/-- The same content becomes the same bytes. -/
theorem SuppliedAlike.bytes_eq (alike : kind.SuppliedAlike number left right)
    {content bytes other : PageBytes config} (made : kind.MadeFrom left number content bytes)
    (made' : kind.MadeFrom right number content other) : bytes = other := by
  rw [MadeFrom] at made made'
  cases waits : kind.initializer? with
  | none =>
    simp only [waits] at made made'
    rw [made, made']
  | some initializer =>
    simp only [waits] at made made'
    rw [alike.initializer initializer waits, made'] at made
    exact (congrArg Prod.fst made).symm

/-- What a page becomes when it is loaded. -/
def loaded : PageKind config → PageKind config
  | .unloaded .anonymous _ | .anonymous _ => .anonymous none
  | .unloaded (.file backing) _ | .file backing => .file backing

/-- What a page becomes when it is loaded does not depend on the environment. -/
theorem Loaded.kind_eq {later : PageKind config} {before after : FrameWindow config}
    (load : kind.Loaded number before later after) : later = kind.loaded := by
  cases load with
  | fromSlot | blank | fromFile => rfl
  | first filled applied => cases filled <;> rfl

/-- Nothing of what a frame held before shows through a page that was loaded into it. -/
structure ShowsNothingStale (number : PageNumber) (kind : PageKind config) : Prop where
  /-- A load that is done would have been done with any other frame, and have come to the same. -/
  done : ∀ environment before stale later after,
    kind.load number ⟨environment, before⟩ = .done later after →
      kind.load number ⟨environment, stale⟩ = .done later after
  /-- A load that fails would have failed with any other frame. -/
  failed : ∀ environment before stale error after,
    kind.load number ⟨environment, before⟩ = .failed error after →
      ∃ left, kind.load number ⟨environment, stale⟩ = .failed error ⟨after.environment, left⟩
  becomes : ∀ before later after, kind.load number before = .done later after →
    later = kind.loaded
  /-- The bytes come from the slot, the part of the file and the initializer of the page only. -/
  supplied : ∀ before other later after later' other',
    kind.SuppliedAlike number before.environment other.environment →
    kind.load number before = .done later after → kind.load number other = .done later' other' →
      after.bytes = other'.bytes

/-- A page of any kind hides all that its frame held before. -/
theorem showsNothingStale (number : PageNumber) (kind : PageKind config) :
    kind.ShowsNothingStale number where
  done environment before stale later after done :=
    (kind.load_agree environment before stale number).done_of_done done
  failed environment before stale error after failed := by
    obtain ⟨⟨environment', left⟩, failed', rfl⟩ :=
      (kind.load_agree environment before stale number).failed_of_failed failed
    exact ⟨left, failed'⟩
  becomes before later after done := ((kind.load_ends number before).of_done done).kind_eq
  supplied before other later after later' other' alike done done' := by
    have made := ((kind.load_ends number before).of_done done).madeFrom
    have made' := ((kind.load_ends number other).of_done done').madeFrom
    rw [← alike.source_eq] at made'
    exact alike.bytes_eq made made'

end PageKind

/-! ## Frames that the pool handed out -/

namespace Machine

/-- Only the last content that was put into a frame is in it. -/
theorem setFrameBytes_setFrameBytes (machine : Machine config) (frame : FrameNumber)
    (before bytes : PageBytes config) :
    (machine.setFrameBytes frame before).setFrameBytes frame bytes =
      machine.setFrameBytes frame bytes := by
  have same : (machine.memory.insert frame before).insert frame bytes =
      machine.memory.insert frame bytes := by
    refine OrderedMap.ext_get? fun probe => ?_
    simp only [OrderedMap.get?_insert]
    split <;> rfl
  rw [setFrameBytes, setFrameBytes, setFrameBytes, same]

end Machine

namespace KernelAction

/-- What loading a page comes to once there is a frame for it. -/
def fillFrame (key : SpaceKey) (number : PageNumber) (frame : FrameNumber) :
    KernelAction config Unit := do
  match (← space key).pages.get? number with
  | none =>
    releaseFrame key.subsystem frame
    .fail .notMapped
  | some page =>
    record (.loading key number)
    match ← (onFrame frame (page.kind.load page.number)).attempt with
    | .error error =>
      record (.loadFailed page.number error)
      releaseFrame key.subsystem frame
      .fail error
    | .ok kind =>
      let loaded := { page with kind := kind }
      updateSpace key (·.setPage loaded)
      settlePage key loaded frame

/-- A page is loaded into the frame that is acquired for it. -/
theorem claimPage_eq (key : SpaceKey) (number : PageNumber) :
    (claimPage key number : KernelAction config Unit) =
      acquireFrame key.subsystem [key] >>= fillFrame key number := rfl

variable {Value : Type} {frame : FrameNumber} {machine later : Machine config}

/-- What is done in a frame regardless of its content is done in any content of it. -/
theorem onFrame_of_done {action : FrameAction config Value} {value : Value}
    (agree : ∀ environment before stale, Outcome.Agree FrameWindow.SameEnvironment
      (action ⟨environment, before⟩) (action ⟨environment, stale⟩))
    (stale : PageBytes config) (done : onFrame frame action machine = .done value later) :
    onFrame frame action (machine.setFrameBytes frame stale) = .done value later := by
  have alike := agree machine.environment (machine.frameBytes frame) stale
  have shown : (machine.setFrameBytes frame stale).frameBytes frame = stale := by
    rw [Machine.frameBytes_setFrameBytes, if_pos rfl]
  simp only [onFrame, Action.zoom, shown] at done ⊢
  cases outcome : action ⟨machine.environment, machine.frameBytes frame⟩ with
  | failed | panicked => simp [outcome, Outcome.mapState] at done
  | done value' window =>
    have loaded : action ⟨(machine.setFrameBytes frame stale).environment, stale⟩ =
        .done value' window := alike.done_of_done outcome
    rw [outcome] at done
    simp only [loaded, Outcome.mapState, Machine.setFrameBytes_setFrameBytes]
    exact done

/-- A page that is loaded into a frame is loaded alike if the frame holds something else. -/
theorem fillFrame_of_done {key : SpaceKey} {number : PageNumber} (stale : PageBytes config)
    (done : fillFrame key number frame machine = .done () later) :
    fillFrame key number frame (machine.setFrameBytes frame stale) = .done () later := by
  unfold fillFrame at done ⊢
  obtain ⟨held, middle, looked, done⟩ := Action.bind_eq_done_iff.mp done
  cases looked
  rw [Action.bind_of_done (show space key (machine.setFrameBytes frame stale) =
    .done (machine.space key) _ from rfl)]
  cases found : (machine.space key).pages.get? number with
  | none =>
    simp only [found] at done
    obtain ⟨_, _, -, done⟩ := Action.bind_eq_done_iff.mp done
    cases done
  | some page =>
    simp only [found] at done ⊢
    obtain ⟨_, recorded, record, done⟩ := Action.bind_eq_done_iff.mp done
    cases record
    rw [Action.bind_of_done (show KernelAction.record (.loading key number)
      (machine.setFrameBytes frame stale) =
        .done () ((machine.record (.loading key number)).setFrameBytes frame stale) from rfl)]
    obtain ⟨result, loaded, attempted, done⟩ := Action.bind_eq_done_iff.mp done
    rcases Action.attempt_eq_done_iff.mp attempted with ⟨kind, rfl, filled⟩ | ⟨error, rfl, -⟩
    · have filled' := onFrame_of_done (fun environment before stale =>
        page.kind.load_agree environment before stale page.number) stale filled
      rw [Action.bind_of_done (Action.attempt_eq_done_iff.mpr (.inl ⟨kind, rfl, filled'⟩))]
      exact done
    · -- Nothing is done behind a load that failed.
      obtain ⟨_, _, -, done⟩ := Action.bind_eq_done_iff.mp done
      obtain ⟨_, _, -, done⟩ := Action.bind_eq_done_iff.mp done
      cases done

/-- However a page is loaded, what its frame held before does not show, neither in the page nor in
anything else that the machine holds afterwards. -/
theorem loads_show_nothing_stale (config : Config) :
    (∀ (number : PageNumber) (kind : PageKind config), kind.ShowsNothingStale number) ∧
    ∀ key number, (claimPage key number : KernelAction config Unit) =
        acquireFrame key.subsystem [key] >>= fillFrame key number ∧
      ∀ frame (machine : Machine config) before stale later,
        fillFrame key number frame (machine.setFrameBytes frame before) = .done () later →
          fillFrame key number frame (machine.setFrameBytes frame stale) = .done () later := by
  refine ⟨PageKind.showsNothingStale, fun key number => ⟨claimPage_eq key number, ?_⟩⟩
  intro frame machine before stale later done
  rw [← machine.setFrameBytes_setFrameBytes frame before stale]
  exact fillFrame_of_done stale done

/-- The last byte of the page is behind the part of the file, and the initializer sees all of it. -/
theorem loads_show_nothing_stale_incremented :
    let backing : FileBacking .small := ⟨⟨⟨0⟩, 0⟩, 1, 3, 1, rfl⟩
    let increment : InitializerPlan := { filling := .increment 1 }
    let kind : PageKind .small :=
      .unloaded (.file backing) (some (increment.initializer .small ⟨0⟩))
    let environment : Environment .small :=
      { swap := { capacity := 0 }
        files := OrderedMap.empty.insert ⟨0⟩ { data := #[10, 20, 30, 40, 50] } }
    ∃ after, kind.load ⟨5⟩ ⟨environment, PageBytes.zero⟩ = .done (.file backing) after ∧
      kind.load ⟨5⟩ ⟨environment, #v[1, 2, 3, 4]⟩ = .done (.file backing) after ∧
      after.bytes.toArray = #[21, 31, 41, 1] := by
  intro backing increment kind environment
  have loads : ((kind.load ⟨5⟩ ⟨environment, PageBytes.zero⟩).done?.any fun after =>
      after.bytes.toArray = #[21, 31, 41, 1]) = true := by
    decide +kernel
  obtain ⟨after, returned, bytes⟩ := (Option.any_eq_true _ _).mp loads
  obtain ⟨later, done⟩ := Outcome.exists_of_done? returned
  have shows := (loads_show_nothing_stale .small).1 ⟨5⟩ kind
  obtain rfl := shows.becomes _ _ _ done
  exact ⟨after, done, shows.done _ _ #v[1, 2, 3, 4] _ _ done, of_decide_eq_true bytes⟩

end KernelAction

end DemandPaging

import DemandPaging.Proofs.Residency
import DemandPaging.Proofs.Trail

/-!
# Ways on which frames are requested one at a time

A frame is requested only after the frame that was requested before it has found its page or has been
given back, and only while one page is copied is a frame exempt from eviction. A `Course` is a way on
which this is so; a trail on which it is so is called orderly.
-/

namespace DemandPaging

variable {config : Config}

namespace Transition

/-- A page is claimed: it is loaded, or it turns out that it cannot be loaded. -/
def Claims (key : SpaceKey) (number : PageNumber) : Transition config → Prop
  | .load space other _ | .spoil space other _ _ => space = key ∧ other = number
  | _ => False

/-- To acquire a frame is not yet to claim a page. -/
theorem Acquires.not_claims {subsystem : Subsystem} {frame : FrameNumber}
    {transition : Transition config} (acquires : transition.Acquires subsystem frame)
    {key : SpaceKey} {number : PageNumber} : ¬ transition.Claims key number := by
  cases acquires <;> exact id

/-- A page that is not resident is as it was when a frame has been acquired. -/
theorem Acquires.page?_eq {subsystem : Subsystem} {frame : FrameNumber}
    {transition : Transition config} (acquires : transition.Acquires subsystem frame)
    {machine ready : Machine config} (acquired : transition.Leads machine ready) {key : SpaceKey}
    {page : Page config} (found : machine.page? key page.number = some page)
    (absent : page.frame = none) : ready.page? key page.number = some page :=
  (acquires.isQuiet.page?_eq acquired ((Machine.frame?_of_found found).trans absent)).trans found

/-- A transition acquires one frame at most. -/
theorem Acquires.frame_unique {subsystem subsystem' : Subsystem} {frame frame' : FrameNumber}
    {transition : Transition config} (acquires : transition.Acquires subsystem frame)
    (acquires' : transition.Acquires subsystem' frame') : frame' = frame := by
  cases acquires <;> cases acquires' <;> rfl

end Transition

/-- The transitions that come next copy a resident page to a frame: the frame of the page is no longer
exempt from eviction, and its content goes to the page that was registered for it. -/
inductive IsCopiedNext (parent : SpaceKey) (number : PageNumber) (frame : FrameNumber) :
    List (Move config) → Prop where
  | intro {unpin copy : Move config} {rest : List (Move config)} {child : SpaceKey}
      {source : FrameNumber} (holds : unpin.before.frame? parent number = some source)
      (unpins : unpin.transition = .pin child.subsystem source false)
      (copies : copy.transition = .copy child parent number frame) :
    IsCopiedNext parent number frame (unpin :: copy :: rest)

/-- What happens after the copy of a page does not matter to what comes next. -/
theorem IsCopiedNext.append {parent : SpaceKey} {number : PageNumber} {frame : FrameNumber}
    {moves : List (Move config)} (next : IsCopiedNext parent number frame moves)
    (more : List (Move config)) : IsCopiedNext parent number frame (moves ++ more) := by
  cases next with
  | intro holds unpins copies => exact .intro holds unpins copies

/-- If the transition requests a frame, every frame in the queue has an owner at that time, and none
is exempt from eviction but that of a page that is being copied to the frame. -/
def Move.IsPrompt (move : Move config) (later : List (Move config)) : Prop :=
  ∀ subsystem frame, move.transition.Acquires subsystem frame →
    ∀ entry ∈ (move.before.table subsystem).queue, ∃ owner, entry.owner = some owner ∧
      (entry.pinned = true → IsCopiedNext ⟨subsystem, owner.space⟩ owner.page frame later)

/-- Frames are requested one at a time. -/
def IsOrderly : List (Move config) → Prop
  | [] => True
  | move :: later => move.IsPrompt later ∧ IsOrderly later

variable {move : Move config} {moves earlier later : List (Move config)}

/-- A frame that was used promptly stays so, whatever follows. -/
theorem Move.IsPrompt.append (prompt : move.IsPrompt later) (more : List (Move config)) :
    move.IsPrompt (later ++ more) := by
  intro subsystem frame acquires entry member
  obtain ⟨owner, owned, copied⟩ := prompt subsystem frame acquires entry member
  exact ⟨owner, owned, fun isPinned => (copied isPinned).append more⟩

/-- Only the acquisition of a frame has to be followed by its use. -/
theorem Move.isPrompt_of_not_acquires
    (other : ∀ subsystem frame, ¬ move.transition.Acquires subsystem frame) :
    move.IsPrompt later :=
  fun subsystem frame acquires => absurd acquires (other subsystem frame)

/-- Between operations all frames have owners, and none is exempt from eviction. -/
theorem Move.isPrompt_of_atRest (atRest : move.before.AtRest) : move.IsPrompt later := by
  intro subsystem frame _ entry member
  obtain ⟨waits, pins⟩ := atRest.idle subsystem entry member
  cases owned : entry.owner with
  | none => exact absurd (waits owned) List.not_mem_nil
  | some owner => exact ⟨owner, rfl, fun isPinned => absurd (pins isPinned) List.not_mem_nil⟩

/-- Orderly parts make an orderly whole. -/
theorem IsOrderly.append (first : IsOrderly earlier) (second : IsOrderly later) :
    IsOrderly (earlier ++ later) := by
  induction earlier with
  | nil => exact second
  | cons move rest inductionHypothesis =>
    exact ⟨first.1.append later, inductionHypothesis first.2⟩

/-- In an orderly sequence each frame is used before the next one is requested. -/
theorem IsOrderly.isPrompt (orderly : IsOrderly (earlier ++ move :: later)) :
    move.IsPrompt later := by
  induction earlier with
  | nil => exact orderly.1
  | cons _ _ inductionHypothesis => exact inductionHypothesis orderly.2

/-- Where no frame is requested nothing has to be orderly. -/
theorem isOrderly_of_not_acquires
    (others : ∀ move ∈ moves, ∀ subsystem frame, ¬ move.transition.Acquires subsystem frame) :
    IsOrderly moves := by
  induction moves with
  | nil => exact trivial
  | cons move rest inductionHypothesis =>
    exact ⟨Move.isPrompt_of_not_acquires (others move List.mem_cons_self),
      inductionHypothesis fun other listed => others other (List.mem_cons_of_mem _ listed)⟩

/-! ## Courses -/

/-- A way from one machine to another by permitted transitions, on which frames are requested one at a
time, with no frame in hand at its end. -/
structure Course (permits : Transition config → Prop) (machine later : Machine config) : Prop where
  way : ∃ moves, Trail machine moves later ∧ IsOrderly moves ∧
    ∀ move ∈ moves, permits move.transition
  atRest : later.AtRest

namespace Course

variable {permits permits' : Transition config → Prop} {machine middle last : Machine config}

theorem refl (atRest : machine.AtRest) : Course permits machine machine :=
  ⟨⟨[], .refl, trivial, fun _ listed => absurd listed List.not_mem_nil⟩, atRest⟩

/-- A course may be taken in two parts. -/
theorem trans (first : Course permits machine middle) (second : Course permits middle last) :
    Course permits machine last := by
  obtain ⟨moves, trail, orderly, permitted⟩ := first.way
  obtain ⟨more, trail', orderly', permitted'⟩ := second.way
  refine ⟨⟨moves ++ more, trail.trans trail', orderly.append orderly', fun move listed => ?_⟩,
    second.atRest⟩
  rcases List.mem_append.mp listed with listed | listed
  · exact permitted move listed
  · exact permitted' move listed

/-- A transition after which the same frames are in hand is a course on its own. -/
theorem single {transition : Transition config} (atRest : machine.AtRest)
    (leads : transition.Leads machine last) (permitted : permits transition)
    (neutral : transition.waitingAfter [] = [] := by rfl)
    (neutral' : transition.pinnedAfter [] = [] := by rfl) : Course permits machine last := by
  refine ⟨⟨_, .single leads, ⟨Move.isPrompt_of_atRest atRest, trivial⟩, ?_⟩,
    leads.atRest atRest neutral neutral'⟩
  exact List.forall_mem_singleton.mpr permitted

/-- A course of one kind is a course of every weaker kind. -/
theorem mono (course : Course permits machine last)
    (weaker : ∀ transition, permits transition → permits' transition) :
    Course permits' machine last := by
  obtain ⟨moves, trail, orderly, permitted⟩ := course.way
  exact ⟨⟨moves, trail, orderly, fun move listed => weaker _ (permitted move listed)⟩,
    course.atRest⟩

end Course

/-- A course is a way. -/
theorem Course.passes {permits : Transition config → Prop} {machine last : Machine config}
    (course : Course permits machine last) : Passes permits machine last := by
  obtain ⟨moves, trail, -, permitted⟩ := course.way
  exact ⟨trail.path permitted, course.atRest⟩

/-- A way on which no frame is requested is a course. -/
theorem Passes.course {permits : Transition config → Prop} {machine last : Machine config}
    (passes : Passes permits machine last)
    (others : ∀ transition, permits transition → ∀ subsystem frame,
      ¬ transition.Acquires subsystem frame) : Course permits machine last := by
  obtain ⟨moves, trail, permitted⟩ := passes.path.trail
  exact ⟨⟨moves, trail, isOrderly_of_not_acquires fun move listed => others _ (permitted move listed),
    permitted⟩, passes.atRest⟩

/-! ## Claims -/

namespace Transition

/-- A transition claims none but the given pages of a space. -/
def ClaimsOnly (key : SpaceKey) (pages : PageNumber → Prop) (transition : Transition config) : Prop :=
  ∀ probe number, transition.Claims probe number → probe = key ∧ pages number

/-- A transition that a claim of a page takes: it makes room, it loads the page, or it gives up. -/
def Fetches (key : SpaceKey) (number : PageNumber) (transition : Transition config) : Prop :=
  transition.Loads key number ∧ transition.ClaimsOnly key (· = number)

variable {subsystem : Subsystem} {frame : FrameNumber} {key : SpaceKey} {number : PageNumber}

theorem Acquires.fetches {transition : Transition config}
    (acquires : transition.Acquires subsystem frame) : transition.Fetches key number :=
  ⟨.inl acquires.isQuiet, fun _ _ claims => absurd claims acquires.not_claims⟩

theorem fetches_load :
    (Transition.load key number frame : Transition config).Fetches key number :=
  ⟨.inr ⟨frame, rfl⟩, fun _ _ claims => ⟨claims.1.symm, claims.2.symm⟩⟩

theorem fetches_spoil {error : VmError} :
    (Transition.spoil key number frame error : Transition config).Fetches key number :=
  ⟨.inl trivial, fun _ _ claims => ⟨claims.1.symm, claims.2.symm⟩⟩

theorem fetches_release :
    (Transition.release subsystem frame : Transition config).Fetches key number :=
  ⟨.inl trivial, fun _ _ => False.elim⟩

end Transition

namespace Machine

/-- A page is loaded into a frame that was acquired for it. -/
inductive LoadsPage (key : SpaceKey) (page : Page config) (machine : Machine config) :
    Machine config → Prop where
  | intro {acquire : Transition config} {frame : FrameNumber} {ready : Machine config}
      {kind : PageKind config} {window : FrameWindow config}
      (requested : KernelAction.acquireFrame key.subsystem [key] machine = .done frame ready)
      (acquires : acquire.Acquires key.subsystem frame) (acquired : acquire.Leads machine ready)
      (loaded : page.kind.load page.number ((ready.record (.loading key page.number)).window frame) =
        .done kind window) :
    LoadsPage key page machine (ready.settleLoaded key page frame kind window)

/-- The machine in which a page could not be loaded: `window` is what the load left of the frame and the
environment, and the frame is back in the pool. -/
def giveUp (machine : Machine config) (key : SpaceKey) (number : PageNumber) (frame : FrameNumber)
    (error : VmError) (window : FrameWindow config) : Machine config :=
  (((machine.record (.loading key number)).putWindow frame window).record
    (.loadFailed number error)).release key.subsystem frame

/-- A page cannot be loaded into the frame that was acquired for it. -/
inductive FailsToLoad (key : SpaceKey) (page : Page config) (error : VmError)
    (machine : Machine config) : Machine config → Prop where
  | intro {acquire : Transition config} {frame : FrameNumber} {ready : Machine config}
      {window : FrameWindow config}
      (requested : KernelAction.acquireFrame key.subsystem [key] machine = .done frame ready)
      (acquires : acquire.Acquires key.subsystem frame) (acquired : acquire.Leads machine ready)
      (failed : page.kind.load page.number ((ready.record (.loading key page.number)).window frame) =
        .failed error window) :
    FailsToLoad key page error machine (ready.giveUp key page.number frame error window)

end Machine

namespace KernelAction

open Machine

variable {machine : Machine config}

/-- A claim requests one frame, and either loads its page into it or, if that cannot be done, gives the
frame back. -/
theorem claimPage_decides (atRest : machine.AtRest) {key : SpaceKey} {page : Page config}
    (found : machine.page? key page.number = some page) (absent : page.frame = none) :
    (claimPage key page.number).Ends machine
      (fun _ later => LoadsPage key page machine later)
      (fun error later => FailsToLoad key page error machine later) := by
  unfold claimPage
  simp only [Action.ends_bind]
  refine (acquireFrame_ends atRest.consistent key.subsystem [key]).outcome.mono ?_
    (fun _ _ none => none.2.elim)
  rintro frame ready ⟨requested, acquire, acquires, acquired⟩
  have consistent := acquired.consistent atRest.consistent
  have awaits := acquires.awaits acquired
  have foundNow := acquires.page?_eq acquired found absent
  have foundThere : (ready.space key).pages.get? page.number = some page := foundNow
  simp only [ends_space, foundThere, Action.ends_bind, ends_record, Action.ends_attempt,
    ends_onFrame]
  refine (PageKind.load_ends page.number page.kind _).outcome.mono ?_ ?_
  · rintro kind window ⟨loaded, _⟩
    simp only [ends_updateSpace]
    refine Iff.mpr (settlePage_ends (by exact absent) (by exact awaits.mem_frames)) ?_
    exact .intro requested acquires acquired loaded
  · rintro error window ⟨failed, _⟩
    have spoils : (Transition.spoil key page.number frame error).Leads ready
        (((ready.record (.loading key page.number)).putWindow frame window).record
          (.loadFailed page.number error)) := .spoil foundNow absent awaits failed
    refine Iff.mpr (releaseFrame_ends (spoils.consistent consistent).nodup awaits.mem_frames) ?_
    exact .intro requested acquires acquired failed

end KernelAction

namespace Machine

variable {machine later : Machine config} {key : SpaceKey} {page : Page config} {error : VmError}

/-- A page that is loaded holds a frame of its own afterwards. -/
theorem LoadsPage.resident (loads : LoadsPage key page machine later)
    (found : machine.page? key page.number = some page) (absent : page.frame = none) :
    ∃ kind frame, later.page? key page.number = some { page with kind := kind, frame := some frame } := by
  obtain @⟨_, frame, _, kind, _, -, acquires, acquired, loaded⟩ := loads
  have foundNow := acquires.page?_eq acquired found absent
  refine ⟨kind, frame, ?_⟩
  rw [page?_settleLoaded (isSome_of_page? foundNow), amend_self]

/-- The way on which a page is loaded: a frame is acquired, and the page claims it. -/
theorem LoadsPage.course (loads : LoadsPage key page machine later) (atRest : machine.AtRest)
    (found : machine.page? key page.number = some page) (absent : page.frame = none) :
    Course (Transition.Fetches key page.number) machine later := by
  obtain ⟨-, acquires, acquired, loaded⟩ := loads
  have consistent := acquired.consistent atRest.consistent
  have pending := acquires.pending acquired atRest.consistent atRest.idle
  have foundNow := acquires.page?_eq acquired found absent
  have leads := Transition.Leads.load foundNow absent (acquires.awaits acquired) loaded
  have waiting := leads.pending consistent pending
  refine ⟨⟨_, (Trail.single acquired).trans (.single leads),
    ⟨Move.isPrompt_of_atRest atRest, Move.isPrompt_of_not_acquires fun _ _ => nofun, trivial⟩, ?_⟩,
    leads.consistent consistent, waiting.mono ?_ fun _ => id⟩
  · simp only [List.cons_append, List.nil_append, List.forall_mem_cons]
    exact ⟨acquires.fetches, Transition.fetches_load, fun _ listed => absurd listed List.not_mem_nil⟩
  · simp [Transition.waitingAfter]

/-- The way on which a load fails: a frame is acquired, and is given back. -/
theorem FailsToLoad.course (fails : FailsToLoad key page error machine later)
    (atRest : machine.AtRest) (found : machine.page? key page.number = some page)
    (absent : page.frame = none) :
    Course (fun transition => transition.IsQuiet ∧ transition.Fetches key page.number) machine
      later := by
  obtain @⟨_, frame, ready, window, -, acquires, acquired, failed⟩ := fails
  have consistent := acquired.consistent atRest.consistent
  have pending := acquires.pending acquired atRest.consistent atRest.idle
  have awaits := acquires.awaits acquired
  have foundNow := acquires.page?_eq acquired found absent
  have spoils := Transition.Leads.spoil foundNow absent awaits failed
  have spoiled := spoils.consistent consistent
  have releases : (Transition.release key.subsystem frame).Leads
      (((ready.record (.loading key page.number)).putWindow frame window).record
        (.loadFailed page.number error)) (ready.giveUp key page.number frame error window) :=
    .release awaits
  have waiting := releases.pending spoiled (spoils.pending consistent pending)
  refine ⟨⟨_, ((Trail.single acquired).trans (.single spoils)).trans (.single releases),
    ⟨Move.isPrompt_of_atRest atRest, Move.isPrompt_of_not_acquires fun _ _ => nofun,
      Move.isPrompt_of_not_acquires fun _ _ => nofun, trivial⟩, ?_⟩,
    releases.consistent spoiled, waiting.mono ?_ fun _ => id⟩
  · simp only [List.cons_append, List.nil_append, List.forall_mem_cons]
    exact ⟨⟨acquires.isQuiet, acquires.fetches⟩, ⟨trivial, Transition.fetches_spoil⟩,
      ⟨trivial, Transition.fetches_release⟩, fun _ listed => absurd listed List.not_mem_nil⟩
  · simp [Transition.waitingAfter]

end Machine

namespace KernelAction

open Machine

variable {machine : Machine config}

/-- A claim requests one frame at most at a time, and if the page cannot be loaded no page has
changed. -/
theorem claimPage_course (atRest : machine.AtRest) {key : SpaceKey} {page : Page config}
    (found : machine.page? key page.number = some page) (absent : page.frame = none) :
    (claimPage key page.number).Ends machine
      (fun _ later => Course (Transition.Fetches key page.number) machine later ∧
        ∃ kind frame, later.page? key page.number =
          some { page with kind := kind, frame := some frame })
      (fun _ later => Course (fun transition => transition.IsQuiet ∧
        transition.Fetches key page.number) machine later) :=
  (claimPage_decides atRest found absent).mono
    (fun _ _ loads => ⟨loads.course atRest found absent, loads.resident found absent⟩)
    (fun _ _ fails => fails.course atRest found absent)

/-- A page that is claimed is loaded into a frame of its own; if that cannot be done no page has
changed. -/
theorem claimPage_ends (atRest : machine.AtRest) {key : SpaceKey} {page : Page config}
    (found : machine.page? key page.number = some page) (absent : page.frame = none) :
    (claimPage key page.number).Ends machine
      (fun _ later => Passes (Transition.Loads key page.number) machine later ∧
        ∃ kind frame, later.page? key page.number =
          some { page with kind := kind, frame := some frame })
      (fun _ later => Passes Transition.IsQuiet machine later) :=
  (claimPage_course atRest found absent).mono
    (fun _ _ ⟨course, resident⟩ => ⟨course.passes.mono fun _ => And.left, resident⟩)
    (fun _ _ course => course.passes.mono fun _ => And.left)

end KernelAction

end DemandPaging

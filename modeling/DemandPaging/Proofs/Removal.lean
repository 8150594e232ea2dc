import DemandPaging.Proofs.UserCopy
import DemandPaging.Lifecycle

/-!
# What removing pages and spaces does

A page that is removed is gone from its space, whether or not its content could be saved, and so are
all pages of a space that is torn down or dropped. Pages of other spaces are as they were.
-/

namespace DemandPaging

variable {config : Config}

namespace Transition

open Machine

/-- A transition of the kind that removing pages of a space takes. -/
def Discards (key : SpaceKey) : Transition config → Prop
  | .note _ => True
  | .discard space _ => space = key
  | _ => False

/-- A transition of the kind that emptying a space takes. -/
def Empties (key : SpaceKey) (transition : Transition config) : Prop :=
  transition.Discards key ∨ transition = .set key

/-- A transition of the kind that dropping a space takes. -/
def Drops (key : SpaceKey) (transition : Transition config) : Prop :=
  transition.Empties key ∨ transition = .forget key

/-- Removing pages creates and drops no space. -/
theorem Discards.keepsSpaces {key : SpaceKey} {transition : Transition config}
    (discards : transition.Discards key) : transition.KeepsSpaces := by
  cases transition <;> first | exact trivial | exact discards.elim

/-- Emptying a space does not drop it. -/
theorem Empties.keepsSpaces {key : SpaceKey} {transition : Transition config}
    (empties : transition.Empties key) : transition.KeepsSpaces := by
  rcases empties with discards | rfl
  · exact discards.keepsSpaces
  · exact trivial

variable {machine later : Machine config} {key : SpaceKey} {number : PageNumber}

/-- A page that is discarded is not registered any more, and the others are as they were. -/
theorem Leads.page?_of_discard (leads : (Transition.discard key number).Leads machine later) :
    later.page? = amend machine.page? key number none := by
  cases leads with
  | discard found => exact page?_endAbsent (isSome_of_page? found)
  | discardResident found => exact page?_endResident (isSome_of_page? found)

/-- Settings of a space do not concern its pages. -/
theorem Leads.page?_of_set (leads : (Transition.set key).Leads machine later) :
    later.page? = machine.page? := by
  cases leads with
  | set isSetting =>
    refine page?_updateSpace_of_same fun space => ?_
    rw [isSetting space]

end Transition

namespace KernelAction

open Machine

variable {key : SpaceKey}

/-- All pages of a list are removed; reports are all that is left of them. -/
theorem tearDownPages_ends (numbers : List PageNumber) {machine : Machine config}
    (atRest : machine.AtRest) :
    (tearDownPages key numbers).Ends machine
      (fun _ later => Passes (Transition.Discards key) machine later ∧
        later.page? = fun probe other =>
          if probe = key ∧ other ∈ numbers then none else machine.page? probe other)
      (fun _ _ => False) := by
  induction numbers generalizing machine with
  | nil => exact ⟨.refl atRest, by simp⟩
  | cons number rest inductionHypothesis =>
    have continues : ∀ {middle : Machine config},
        Passes (Transition.Discards key) machine middle →
        middle.page? = amend machine.page? key number none →
        (tearDownPages key rest).Ends middle
          (fun _ later => Passes (Transition.Discards key) machine later ∧
            later.page? = fun probe other =>
              if probe = key ∧ other ∈ number :: rest then none else machine.page? probe other)
          (fun _ _ => False) := by
      intro middle passes pages
      refine (inductionHypothesis passes.atRest).mono ?_ (fun _ _ => id)
      rintro _ later ⟨passes', pages'⟩
      refine ⟨passes.trans passes', ?_⟩
      rw [pages', pages]
      funext probe other
      unfold amend
      by_cases same : probe = key <;> by_cases here : other = number <;> simp [same, here]
    unfold tearDownPages at continues ⊢
    rw [Action.ends_forEach_cons]
    simp only [Action.ends_bind, ends_space]
    cases known : (machine.space key).pages.get? number with
    | none => exact continues (.refl atRest) (amend_eq known).symm
    | some page =>
      have found : machine.page? key number = some page := known
      simp only [Action.ends_bind, Action.ends_attempt]
      cases atRest.consistent.fits.number_eq found
      refine (removePage_ends atRest.consistent found).mono ?_ ?_
      · intro _ middle leads
        exact continues (.single atRest leads rfl) leads.page?_of_discard
      · intro error middle leads
        have removed : Passes (Transition.Discards key) machine middle := .single atRest leads rfl
        have noted : Passes (Transition.Discards key) middle
            (middle.record (.teardownFailed page.number error)) :=
          .single removed.atRest (.note rfl) trivial
        exact continues (removed.trans noted) leads.page?_of_discard

/-- A space that is torn down has no pages left; other spaces keep theirs. -/
theorem tearDown_ends {machine : Machine config} (atRest : machine.AtRest) :
    (tearDown key).Ends machine
      (fun _ later => Passes (Transition.Empties key) machine later ∧
        later.page? = fun probe other =>
          if probe = key then none else machine.page? probe other)
      (fun _ _ => False) := by
  unfold tearDown
  simp only [Action.ends_bind, ends_space]
  refine (tearDownPages_ends _ atRest).mono ?_ (fun _ _ => id)
  rintro _ middle ⟨passes, pages⟩
  have sets : (Transition.set key).Leads middle
      (middle.updateSpace key fun space => { space with regions := .empty }) :=
    .set fun _ => rfl
  refine ⟨(passes.mono fun _ => .inl).trans (.single passes.atRest sets (.inr rfl)), ?_⟩
  refine sets.page?_of_set.trans (pages.trans ?_)
  funext probe other
  by_cases same : probe = key
  · subst same
    by_cases listed : other ∈ (machine.space probe).pages.keys
    · simp [listed]
    · have vacant : machine.page? probe other = none := OrderedMap.get?_eq_none_iff.mpr listed
      simp [vacant]
  · simp [same]

/-- A space that is dropped is gone; other spaces are as they were. -/
theorem dropSpace_ends {machine : Machine config} (atRest : machine.AtRest) :
    (dropSpace key).Ends machine
      (fun _ later => Passes (Transition.Drops key) machine later ∧
        (later.page? = fun probe other =>
          if probe = key then none else machine.page? probe other) ∧
        later.registration = fun probe =>
          if probe = key then none else machine.registration probe)
      (fun _ _ => False) := by
  unfold dropSpace
  simp only [Action.ends_bind]
  refine (tearDown_ends atRest).mono ?_ (fun _ _ => id)
  rintro _ middle ⟨passes, pages⟩
  have empty : ∀ number, middle.page? key number = none := fun number => by
    rw [pages]
    exact if_pos rfl
  have forgets : (Transition.forget key).Leads middle
      { middle with spaces := middle.spaces.erase key } := .forget empty
  refine ⟨(passes.mono fun _ => .inl).trans (.single passes.atRest forgets (.inr rfl)),
    (page?_erase empty).trans pages, ?_⟩
  have before := passes.registration_eq fun _ => Transition.Empties.keepsSpaces
  funext probe
  rw [← before, registration, OrderedMap.get?_erase_eq]
  split <;> rfl

/-! ## Removing makes no room -/

/-- Writing back needs no frame. -/
theorem makesNoRoom_writeBack (backing : FileBacking config) (bytes : PageBytes config) :
    (backing.writeBack bytes).MakesNoRoom := by
  unfold FileBacking.writeBack EnvironmentAction.writeFile EnvironmentAction.checkHandle
  split
  · exact .pure _
  · refine .bind (.bind (.change _) fun _ => .bind (.bind .current fun environment => ?_)
      fun _ => .bind .current fun environment => ?_) fun count => ?_
    · split
      · exact .fail _
      · exact .pure _
    · split
      · exact .fail _
      · exact .bind (.change _) fun _ => .pure _
    · split
      · exact .pure _
      · exact .bind (.change _) fun _ => .fail _

/-- Discarding a content needs no frame. -/
theorem makesNoRoom_discard (kind : PageKind config)
    (resident : Option (PageBytes config × Bool)) : (kind.discard resident).MakesNoRoom := by
  match kind with
  | .unloaded _ _ => exact .pure _
  | .anonymous none => exact .pure _
  | .anonymous (some slot) =>
    exact .bind .current fun environment => .bind (.assert nofun) fun _ => .change _
  | .file backing =>
    match resident with
    | some (bytes, true) => exact makesNoRoom_writeBack backing bytes
    | some (bytes, false) => exact .pure _
    | none => exact .pure _

theorem makesNoRoom_releaseFrame (subsystem : Subsystem) (frame : FrameNumber) :
    (releaseFrame subsystem frame : KernelAction config Unit).MakesNoRoom := by
  unfold releaseFrame giveBack
  refine .bind .current fun machine => ?_
  have gives : ∀ _ : Unit, (giveBack frame : KernelAction config Unit).MakesNoRoom :=
    fun _ => .bind .current fun _ => .bind (.assert nofun) fun _ => .change _
  split
  · exact .bind (.change _) gives
  · exact .bind (.change _) gives

/-- Removing a page needs no frame. -/
theorem makesNoRoom_removePage (key : SpaceKey) (number : PageNumber) :
    (removePage key number : KernelAction config Unit).MakesNoRoom := by
  unfold removePage takePage discardPage
  refine .bind (.bind (.view _) fun space => .bind (.orFail _ _) fun page =>
    .bind (.change _) fun _ => .pure _) fun page => ?_
  split
  · exact .zoom (makesNoRoom_discard _ _)
  · refine .bind (.view _) fun space => .bind (.change _) fun _ => .bind (.view _) fun bytes =>
      .bind (.attempt (.zoom (makesNoRoom_discard _ _))) fun result => ?_
    exact .bind (makesNoRoom_releaseFrame _ _) fun _ => .ofExcept _

/-- Tearing a space down needs no frame. -/
theorem makesNoRoom_tearDown (key : SpaceKey) :
    (tearDown key : KernelAction config Unit).MakesNoRoom := by
  unfold tearDown tearDownPages
  refine .bind (.view _) fun space => .bind (.forEach (fun number => ?_) _) fun _ => .change _
  refine .bind (.view _) fun space => ?_
  split
  · exact .pure _
  · refine .bind (.attempt (makesNoRoom_removePage key number)) fun result => ?_
    split
    · exact .pure _
    · exact .change _

/-- Dropping a space needs no frame. -/
theorem makesNoRoom_dropSpace (key : SpaceKey) :
    (dropSpace key : KernelAction config Unit).MakesNoRoom :=
  .bind (makesNoRoom_tearDown key) fun _ => .change _

end KernelAction

end DemandPaging

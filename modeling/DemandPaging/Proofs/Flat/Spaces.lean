import DemandPaging.Proofs.Bystander
import DemandPaging.Proofs.Flat.Access
import DemandPaging.Proofs.Mapping

/-!
# Pages that come and go in a memory without paging

What is done to the pages of one space leaves the content of all others as it is. A space that is copied
has the pages of its model, with their content; pages that are removed are gone.
-/

namespace DemandPaging

variable {config : Config}

namespace Transition

open Machine

variable {transition : Transition config} {machine next : Machine config} {key : SpaceKey}

/-- Preparing a copy changes no content. -/
theorem Prepares.keepsContents (prepares : transition.Prepares) : transition.KeepsContents := by
  cases transition <;> first | exact trivial | exact prepares.elim

/-- Removing pages changes contents only by discarding pages. -/
theorem Discards.cases (discards : transition.Discards key) :
    transition.KeepsContents ∨ ∃ number, transition = .discard key number := by
  cases transition <;> first | exact .inl trivial | exact discards.elim | skip
  case discard =>
    cases discards
    exact .inr ⟨_, rfl⟩

/-- The content of other spaces is not concerned. -/
theorem Leads.flat_of_concerns (leads : transition.Leads machine next)
    (consistent : machine.Consistent) (concerns : transition.Concerns key) {probe : SpaceKey}
    (elsewhere : probe ≠ key) (number : PageNumber) :
    next.flat.page? probe number = machine.flat.page? probe number := by
  by_cases keeps : transition.KeepsContents
  · rw [(leads.idles consistent keeps).pages]
  · match transition with
    | .register space page =>
      cases concerns
      rw [leads.flat_register consistent, amend_of_ne fun here => elsewhere here.1]
    | .copy child _ number _ =>
      cases concerns
      rw [leads.flat_copy consistent, amend_of_ne fun here => elsewhere here.1]
    | .discard space number =>
      cases concerns
      rw [leads.flat_discard consistent, amend_of_ne fun here => elsewhere here.1]
    | .note _ | .take _ _ | .evict _ _ _ | .spoil _ _ _ _ | .release _ _ | .pin _ _ _ | .set _
    | .forget _ => exact absurd trivial keeps
    | .load _ _ _ | .unregister _ _ | .store _ _ _ _ | .create _ | .setFile _ _ | .createFile _ _
    | .listInitializer _ | .setSwapFaults | .lend _ | .reclaim _ => exact concerns.elim

end Transition

namespace Path

variable {permits : Machine config → Transition config → Prop} {machine later : Machine config}
  {key : SpaceKey}

/-- What happens to one space leaves the memory of the others as it was. -/
theorem flat_of_concerns (path : Path permits machine later) (consistent : machine.Consistent)
    (concerns : ∀ middle transition, permits middle transition → transition.Concerns key)
    {probe : SpaceKey} (elsewhere : probe ≠ key) (number : PageNumber) :
    later.flat.page? probe number = machine.flat.page? probe number := by
  induction path with
  | refl => rfl
  | step prior leads permitted inductionHypothesis =>
    have before := prior.consistent consistent
    exact (leads.flat_of_concerns before (concerns _ _ permitted) elsewhere number).trans
      inductionHypothesis

/-- No initializer is ever run less often. -/
theorem runs_le (path : Path permits machine later) (consistent : machine.Consistent)
    (id : InitializerId) : machine.flat.runs id ≤ later.flat.runs id := by
  induction path with
  | refl => exact Nat.le_refl _
  | step prior leads _ inductionHypothesis =>
    have before := prior.consistent consistent
    exact Nat.le_trans inductionHypothesis
      (leads.runsOf_le before.fits before.slots before.names id)

/-- Where pages are removed, those that are left have their content. -/
theorem flat_of_discards (path : Path (fun _ => Transition.Discards key) machine later)
    (consistent : machine.Consistent) (probe : SpaceKey) (number : PageNumber) :
    later.flat.page? probe number = machine.flat.page? probe number ∨
      later.flat.page? probe number = none := by
  induction path with
  | refl => exact .inl rfl
  | @step middle next transition prior leads discards inductionHypothesis =>
    have before := prior.consistent consistent
    rcases discards.cases with keeps | ⟨other, rfl⟩
    · rw [(leads.idles before keeps).pages]
      exact inductionHypothesis
    · rw [leads.flat_discard before]
      unfold amend
      split
      · exact .inr rfl
      · exact inductionHypothesis

end Path

/-- A registered copy that nothing is copied to looks like its model. -/
theorem Machine.flatPage_forked {machine next : Machine config} {page : Page config}
    (nothing : page.copySource? = none) : next.flatPage page.forked = machine.flatPage page := by
  unfold Page.copySource? at nothing
  match kindIs : page.kind with
  | .unloaded .anonymous initializer =>
    rw [flatPage_of_pending kindIs]
    refine flatPage_of_pending ?_
    simp [Page.forked, PageKind.forked, kindIs]
  | .unloaded (.file backing) initializer =>
    rw [flatPage_of_pendingFile kindIs]
    refine @flatPage_of_pendingFile _ _ _ backing initializer ?_
    simp [Page.forked, PageKind.forked, kindIs]
  | .file backing =>
    rw [flatPage_of_file kindIs]
    refine @flatPage_of_file _ _ _ backing ?_
    simp [Page.forked, PageKind.forked, kindIs]
  | .anonymous slot =>
    have forked : page.forked.kind = .anonymous none := by
      simp [Page.forked, PageKind.forked, kindIs]
    rw [kindIs] at nothing
    cases resident : page.frame with
    | some frame => simp [resident] at nothing
    | none =>
      have slotless : page.kind.slot? = none := by
        rw [kindIs]
        cases slot <;> simp [resident] at nothing
        rfl
      rw [flatPage_of_anonymous kindIs, flatPage_of_anonymous forked,
        content_of_nowhere resident slotless, content_of_nowhere rfl page.slot?_forked]

namespace Machine

variable {child parent : SpaceKey} {number : PageNumber} {machine later : Machine config}

/-- A page that was copied is there with the content of its model. -/
theorem CopiesPage.flat_eq (copies : CopiesPage child parent number machine later)
    (atRest : machine.AtRest) (apart : child ≠ parent) :
    ((machine.flat.page? parent number).isSome → machine.flat.page? child number = none) ∧
      later.flat.page? = amend machine.flat.page? child number
        ((machine.flat.page? parent number).or (machine.flat.page? child number)) := by
  cases copies with
  | vacant vacant same =>
    rw [same, flat_page?_of_vacant vacant]
    exact ⟨nofun, (amend_eq rfl).symm⟩
  | @registered page found nothing leads =>
    cases atRest.consistent.fits.number_eq found
    refine ⟨fun _ => ?_, ?_⟩
    · cases leads with
      | register vacant => exact flat_page?_of_vacant vacant
    · rw [leads.flat_register atRest.consistent, flat_page?_of_found found]
      exact congrArg (amend _ _ _ <| some ·) (flatPage_forked nothing)
  | @copied page grown ready frame found registers prepares leads =>
    cases atRest.consistent.fits.number_eq found
    have grownRest := (@passes_register _ child parent _ _ _ atRest registers).atRest
    have idles := prepares.idles grownRest.consistent fun _ _ => (·.keepsContents)
    have before := prepares.consistent grownRest.consistent
    refine ⟨fun _ => ?_, ?_⟩
    · cases registers with
      | register vacant => exact flat_page?_of_vacant vacant
    · have numbered : page.forked.number = page.number := rfl
      rw [leads.flat_copy before, idles.pages, registers.flat_register atRest.consistent, numbered,
        amend_amend, amend_of_ne fun here => apart here.1.symm, flat_page?_of_found found]
      rfl

/-- A page that could not be copied is there with some content or not at all; no other page has
changed. -/
theorem SpoilsPage.flat_eq (spoils : SpoilsPage child parent number machine later)
    (atRest : machine.AtRest) (probe : SpaceKey) (other : PageNumber) :
    later.flat.page? probe other = machine.flat.page? probe other ∨
      probe = child ∧ machine.flat.page? child other = none := by
  cases spoils with
  | known same => exact .inl (by rw [same])
  | spoiled _ registers passes =>
    have grownRest := (@passes_register _ child parent _ _ _ atRest registers).atRest
    have idles := passes.path.idles grownRest.consistent fun _ _ => (·.keepsContents)
    rw [idles.pages, registers.flat_register atRest.consistent]
    unfold amend
    split
    · next here =>
      refine .inr ⟨here.1, ?_⟩
      rw [here.2]
      cases registers with
      | register vacant => exact flat_page?_of_vacant vacant
    · exact .inl rfl

/-- Pages that were all copied leave no frame in hand. -/
theorem CopiesPages.atRest {numbers : List PageNumber}
    (copies : CopiesPages child parent numbers machine (.ok ()) later) (atRest : machine.AtRest) :
    later.AtRest := by
  induction numbers generalizing machine with
  | nil =>
    cases copies
    exact atRest
  | cons number rest inductionHypothesis =>
    cases copies with
    | page _ middleRest others => exact inductionHypothesis others middleRest

/-- The pages of a list that were copied are there with the content of their models. -/
theorem CopiesPages.flat_eq {numbers : List PageNumber}
    (copies : CopiesPages child parent numbers machine (.ok ()) later) (atRest : machine.AtRest)
    (apart : child ≠ parent) :
    (∀ number ∈ numbers, (machine.flat.page? parent number).isSome →
      machine.flat.page? child number = none) ∧
      later.flat.page? = fun probe other =>
        if probe = child ∧ other ∈ numbers then
          (machine.flat.page? parent other).or (machine.flat.page? child other)
        else machine.flat.page? probe other := by
  induction numbers generalizing machine with
  | nil =>
    cases copies
    exact ⟨nofun, by simp⟩
  | cons number rest inductionHypothesis =>
    cases copies with
    | @page _ _ _ middle _ _ first middleRest others =>
      obtain ⟨vacant, pages⟩ := first.flat_eq atRest apart
      obtain ⟨vacant', pages'⟩ := inductionHypothesis others middleRest
      have model : ∀ other, middle.flat.page? parent other = machine.flat.page? parent other := by
        intro other
        rw [pages, amend_of_ne fun same => apart same.1.symm]
      have before : ∀ other, other ≠ number →
          middle.flat.page? child other = machine.flat.page? child other := by
        intro other elsewhere
        rw [pages, amend_of_ne fun same => elsewhere same.2]
      refine ⟨fun other listed there => ?_, pages'.trans ?_⟩
      · by_cases here : other = number
        · subst here
          exact vacant there
        · have later := (List.mem_cons.mp listed).resolve_left here
          rw [← before other here]
          exact vacant' other later (by rwa [model])
      · funext probe other
        by_cases own : probe = child
        · subst own
          by_cases here : other = number
          · -- a page that is listed twice is copied once
            subst here
            rw [model, pages, amend_self]
            cases machine.flat.page? parent other <;> simp
          · rw [before other here, model]
            simp [here]
        · rw [pages, amend_of_ne fun same => own same.1]
          simp [own]

/-- Copying that ends early has added pages, and changed none. -/
theorem CopiesPages.flat_of_error {numbers : List PageNumber} {error : VmError}
    (copies : CopiesPages child parent numbers machine (.error error) later)
    (atRest : machine.AtRest) (apart : child ≠ parent) (probe : SpaceKey) (other : PageNumber) :
    later.flat.page? probe other = machine.flat.page? probe other ∨
      probe = child ∧ machine.flat.page? child other = none := by
  induction numbers generalizing machine with
  | nil => cases copies
  | cons number rest inductionHypothesis =>
    cases copies with
    | spoiled spoils => exact spoils.flat_eq atRest probe other
    | page first middleRest others =>
      obtain ⟨vacant, pages⟩ := first.flat_eq atRest apart
      have step := inductionHypothesis others middleRest
      rw [pages] at step
      by_cases here : probe = child ∧ other = number
      · obtain ⟨rfl, rfl⟩ := here
        simp only [amend_self] at step
        cases known : machine.flat.page? probe other with
        | none => exact .inr ⟨rfl, rfl⟩
        | some page =>
          cases model : machine.flat.page? parent other with
          | none => simpa [known, model] using step
          | some page' =>
            have missing := vacant (by rw [model]; rfl)
            rw [known] at missing
            cases missing
      · by_cases own : probe = child
        · subst own
          rw [amend_of_ne here] at step
          exact step
        · rw [amend_of_ne here] at step
          exact .inl (step.resolve_right fun same => own same.1)

/-- A space that was copied has the pages of its model and those that it had before, and no page of
its model was among them. -/
theorem CopiesSpace.flat_eq (copies : CopiesSpace child parent machine (.ok ()) later)
    (atRest : machine.AtRest) :
    (∀ number, (machine.flat.page? parent number).isSome →
      machine.flat.page? child number = none) ∧
      child ≠ parent ∧ later.flat.page? = fun probe number =>
        if probe = child then
          (machine.flat.page? parent number).or (machine.flat.page? child number)
        else machine.flat.page? probe number := by
  cases copies with
  | @done started finished _ apart starts copies ends =>
    have startedRest := starts.atRest atRest
    have before := (starts.idles atRest.consistent trivial).pages
    obtain ⟨vacant, pages⟩ := copies.flat_eq startedRest apart
    have listed : ∀ number, (machine.flat.page? parent number).isSome →
        number ∈ (machine.space parent).pages.keys := by
      intro number there
      rw [isSome_flat_page?] at there
      exact OrderedMap.mem_keys_iff.mpr (Option.isSome_iff_exists.mp there)
    rw [before] at vacant pages
    refine ⟨fun number there => vacant number (listed number there) there, apart, ?_⟩
    rw [(ends.idles (copies.atRest startedRest).consistent trivial).pages, pages]
    funext probe number
    by_cases own : probe = child
    · by_cases there : (machine.flat.page? parent number).isSome
      · simp [own, listed number there]
      · rw [Option.not_isSome_iff_eq_none] at there
        simp [own, there]
    · simp [own]

/-- A copy that failed has changed nothing but pages of the copy that were not there before. -/
theorem CopiesSpace.flat_of_error {error : VmError}
    (copies : CopiesSpace child parent machine (.error error) later) (atRest : machine.AtRest)
    (probe : SpaceKey) (number : PageNumber) :
    later.flat.page? probe number = machine.flat.page? probe number ∨
      probe = child ∧ machine.flat.page? child number = none := by
  cases copies with
  | refused => exact .inl rfl
  | @spoiled started _ _ apart starts copies =>
    have startedRest := starts.atRest atRest
    have same := copies.flat_of_error startedRest apart probe number
    rwa [(starts.idles atRest.consistent trivial).pages] at same

/-- A fork that succeeds makes a new space with the pages of its model. -/
theorem Forks.flat_eq (forks : Forks parent machine (.ok child) later) (atRest : machine.AtRest) :
    (∀ number, machine.flat.page? child number = none) ∧
      (later.flat.page? = fun probe number =>
        if probe = child then machine.flat.page? parent number
        else machine.flat.page? probe number) ∧
      ∀ id, machine.flat.runs id ≤ later.flat.runs id := by
  cases forks with
  | @done created _ root creates copies passes =>
    have creation : (Transition.create (machine.nextKey parent.subsystem)).Leads machine created :=
      creates ▸ .create
    have idles := creation.idles atRest.consistent trivial
    have createdRest : created.AtRest := creates ▸ addSpace_atRest atRest parent.subsystem root
    have fresh : ∀ number,
        machine.flat.page? (machine.nextKey parent.subsystem) number = none :=
      fun number => flat_page?_of_vacant (atRest.consistent.known.unissued.vacant _ number)
    obtain ⟨_, _, pages⟩ := copies.flat_eq createdRest
    refine ⟨fresh, ?_, fun id => ?_⟩
    · rw [pages, idles.pages]
      funext probe number
      rw [fresh, Option.or_none]
    · exact Nat.le_trans (idles.runs id) (passes.path.runs_le createdRest.consistent id)

/-- A fork that fails changes nothing. -/
theorem Forks.idles_of_error {error : VmError} (forks : Forks parent machine (.error error) later)
    (atRest : machine.AtRest) : machine.flat.Idles later.flat := by
  cases forks with
  | @undone created spoiled _ root _ creates _ passes drops pages _ =>
    have creation : (Transition.create (machine.nextKey parent.subsystem)).Leads machine created :=
      creates ▸ .create
    have idles := creation.idles atRest.consistent trivial
    have createdRest : created.AtRest := creates ▸ addSpace_atRest atRest parent.subsystem root
    refine ⟨?_, fun id => ?_⟩
    · funext probe number
      by_cases own : probe = machine.nextKey parent.subsystem
      · have fresh := atRest.consistent.known.unissued.vacant parent.subsystem number
        rw [own, flat_page?_of_vacant fresh]
        exact flat_page?_of_vacant (by rw [pages]; exact if_pos rfl)
      · rw [drops.path.flat_of_concerns passes.atRest.consistent (fun _ _ => (·.concerns)) own,
          passes.path.flat_of_concerns createdRest.consistent (fun _ _ => (·.concerns)) own,
          idles.pages]
    · have counts := passes.path.runs_le createdRest.consistent id
      have counts' := drops.path.runs_le passes.atRest.consistent id
      exact Nat.le_trans (idles.runs id) (Nat.le_trans counts counts')

/-- A space whose pages are all removed has none; other spaces are as they were. -/
theorem flat_of_emptied {permits : Transition config → Prop} {key : SpaceKey}
    (passes : Passes permits machine later)
    (concerns : ∀ transition, permits transition → transition.Concerns key)
    (pages : later.page? = fun probe other => if probe = key then none else machine.page? probe other)
    (atRest : machine.AtRest) :
    later.flat.page? = fun probe number =>
      if probe = key then none else machine.flat.page? probe number := by
  funext probe number
  by_cases own : probe = key
  · rw [if_pos own]
    exact flat_page?_of_vacant (by rw [pages]; exact if_pos own)
  · rw [if_neg own]
    exact passes.path.flat_of_concerns atRest.consistent (fun _ => concerns) own number

/-! ## Pages of files -/

variable {key : SpaceKey} {plan : MappingPlan} {range : PageRange} {region : Region}

/-- No page on a file counts as memory. -/
theorem flatPage_of_backing {page : Page config} {backing : FileBacking config}
    (uses : page.kind.backing? = some backing) : machine.flatPage page = .foreign := by
  match kindIs : page.kind with
  | .unloaded .anonymous _ | .anonymous _ =>
    rw [kindIs] at uses
    cases uses
  | .unloaded (.file _) _ => exact flatPage_of_pendingFile kindIs
  | .file _ => exact flatPage_of_file kindIs

/-- The pages that belong to a mapping are pages of a file. -/
theorem flatPage_of_owns {page : Page config} (owns : region.owns page = true) :
    machine.flatPage page = .foreign := by
  rw [Region.owns, Bool.and_eq_true, Page.uses] at owns
  cases uses : page.kind.backing? with
  | none => simp [uses] at owns
  | some backing => exact flatPage_of_backing uses

/-- The pages that a mapping registers are pages of a file, and all that changes. -/
theorem flat_withPages (atRest : machine.AtRest) (spaceExists : (machine.spaces.get? key).isSome)
    {count : Nat} (fits : plan.Fits config count)
    (vacant : ∀ index < count, machine.page? key (plan.start.advance index) = none) :
    (∀ index < count,
      (machine.withPages key plan count).flat.page? key (plan.start.advance index) =
        some .foreign) ∧
      ∀ probe number, (probe = key → ∀ index < count, number ≠ plan.start.advance index) →
        (machine.withPages key plan count).flat.page? probe number =
          machine.flat.page? probe number := by
  induction count with
  | zero =>
    rw [withPages_zero]
    exact ⟨nofun, fun _ _ _ => rfl⟩
  | succ count inductionHypothesis =>
    have smaller := fits.mono (Nat.le_succ count)
    have earlier : ∀ index < count, machine.page? key (plan.start.advance index) = none :=
      fun index inside => vacant index (by omega)
    have before := passes_withPages atRest spaceExists smaller earlier
    have leads := withPages_leads spaceExists fits (vacant count (Nat.lt_succ_self count))
    obtain ⟨placed, others⟩ := inductionHypothesis smaller earlier
    have pages := leads.flat_register before.atRest.consistent
    have new : (machine.withPages key plan (count + 1)).flatPage (plan.pageAt config count) =
      .foreign := flatPage_of_backing rfl
    have numbered : (plan.pageAt config count).number = plan.start.advance count := rfl
    rw [new, numbered] at pages
    refine ⟨fun index inside => ?_, fun probe number elsewhere => ?_⟩
    · rw [pages]
      unfold amend
      split
      · rfl
      · next different =>
        refine placed index (Nat.lt_of_le_of_ne (Nat.le_of_lt_succ inside) ?_)
        rintro rfl
        exact different ⟨rfl, rfl⟩
    · rw [pages, amend_of_ne]
      · exact others probe number fun own index inside => elsewhere own index (by omega)
      · exact fun here => elsewhere here.1 count (Nat.lt_succ_self count) here.2

/-- Establishing a mapping adds pages of a file where there was nothing. -/
theorem MapsFile.flat_eq (maps : MapsFile key plan range machine later) (atRest : machine.AtRest)
    (spaceExists : (machine.spaces.get? key).isSome) :
    (∀ index < range.length.toNat,
      later.flat.page? key (plan.start.advance index) = some .foreign) ∧
      ∀ probe number,
        (probe = key → ∀ index < range.length.toNat, number ≠ plan.start.advance index) →
          later.flat.page? probe number = machine.flat.page? probe number := by
  have reopens : (Transition.setFile plan.handle.file _).Leads machine
    (machine.reopened plan.handle) := .setFile
  have reopenedRest := reopens.atRest atRest
  have idles := reopens.idles atRest.consistent trivial
  have registers := passes_withPages reopenedRest spaceExists maps.fits maps.vacant
  obtain ⟨placed, others⟩ := flat_withPages reopenedRest spaceExists maps.fits maps.vacant
  have records : (Transition.set key).Leads
      ((machine.reopened plan.handle).withPages key plan range.length.toNat) later := by
    rw [maps.maps]
    exact .set fun _ => rfl
  rw [(records.idles registers.atRest.consistent trivial).pages]
  refine ⟨placed, fun probe number elsewhere => ?_⟩
  rw [others probe number elsewhere, idles.pages]

/-- Removing a mapping takes away pages of its file and nothing else. -/
theorem UnmapsFile.flat_eq {start : PageNumber}
    (unmaps : UnmapsFile key start region machine later) (atRest : machine.AtRest)
    (probe : SpaceKey) (number : PageNumber) :
    later.flat.page? probe number = machine.flat.page? probe number ∨
      probe = key ∧ machine.flat.page? key number = some .foreign ∧
        later.flat.page? key number = none := by
  have erases := machine.unrecorded_leads key start
  have before := erases.consistent atRest.consistent
  have kept := unmaps.passes.path.flat_of_discards before probe number
  rw [(erases.idles atRest.consistent trivial).pages] at kept
  rcases kept with same | gone
  · exact .inl same
  · by_cases owned : probe = key ∧ (machine.page? key number).any region.owns = true
    · obtain ⟨rfl, owned⟩ := owned
      obtain ⟨page, found, owns⟩ := (Option.any_eq_true _ _).mp owned
      exact .inr ⟨rfl, by rw [flat_page?_of_found found, flatPage_of_owns owns], gone⟩
    · have same : later.page? probe number = machine.page? probe number := by
        rw [unmaps.page?_eq]
        exact if_neg owned
      have missing : later.page? probe number = none := Option.map_eq_none_iff.mp gone
      exact .inl (gone.trans (flat_page?_of_vacant (same.symm.trans missing)).symm)

end Machine

end DemandPaging

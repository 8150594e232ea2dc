import DemandPaging.Proofs.Flat.View
import DemandPaging.Proofs.Consistency.Names

/-!
# Using and changing pages of a memory without paging

Loading a page is its use, and so is a fault that is resolved. A store changes a page that is there.
-/

namespace DemandPaging

variable {config : Config}

/-- Loading fills a page with what it held before, or with what it is to hold at first. -/
theorem Machine.uses_of_loaded {machine next : Machine config} {page : Page config}
    {frame : FrameNumber} {kind : PageKind config} {window : FrameWindow config} {event : Event}
    (absent : page.frame = none) (named : ∀ initializer,
      page.kind.initializer? = some initializer →
        (machine.environment.runs.get? initializer.id).isSome)
    (loaded : page.kind.Loaded page.number ((machine.record event).window frame) kind window)
    (bytes : next.frameBytes frame = window.bytes)
    (runs : next.environment.runs = window.environment.runs) :
    FlatPage.Uses page.number machine.flat.runs next.flat.runs (some (machine.flatPage page))
      (next.flatPage { page with kind := kind, frame := some frame }) := by
  generalize kindIs : page.kind = earlier at loaded named
  cases loaded with
  | @fromSlot slot content read =>
    have slotIs : page.kind.slot? = some slot := by rw [kindIs]; rfl
    have shows : machine.content page = content :=
      content_of_slot absent slotIs (SwapDevice.get?_of_read read)
    rw [flatPage_of_anonymous kindIs, shows, flatPage_of_resident rfl rfl, bytes]
    exact .present
  | blank =>
    have slotless : page.kind.slot? = none := by rw [kindIs]; rfl
    rw [flatPage_of_anonymous kindIs, content_of_nowhere absent slotless,
      flatPage_of_resident rfl rfl, bytes]
    exact .present
  | fromFile =>
    rw [flatPage_of_file kindIs, flatPage_of_file rfl]
    exact .foreign
  | first filled applied same counted =>
    cases filled with
    | file =>
      rw [flatPage_of_pendingFile kindIs, flatPage_of_file rfl]
      exact .foreign
    | anonymous =>
      rw [flatPage_of_pending kindIs, flatPage_of_resident rfl rfl, bytes]
      cases applied with
      | none => exact .blank
      | @some initializer later ran =>
        refine .filled (Nat.lt_succ_self _) (Nat.le_of_eq ?_) ran
        exact (Environment.runsOf_after (runs.trans counted) (named _ rfl)).symm

namespace Transition

open Machine

variable {transition : Transition config} {machine next : Machine config} {key : SpaceKey}
  {number : PageNumber} {frame : FrameNumber}

/-- Loading a page is its use. -/
theorem Leads.looks (leads : (Transition.load key number frame).Leads machine next)
    (consistent : machine.Consistent) : machine.flat.Looks key (· = number) next.flat := by
  have counts := leads.runsOf_le consistent.fits consistent.slots consistent.names
  have amended := @Leads.flat_amend _ _ _ _ key number leads consistent
  cases leads with
  | @load _ _ page _ kind window found absent _ loaded =>
    have became := (PageKind.load_ends _ _ _).of_done loaded
    have pages := amended (page?_settleLoaded (isSome_of_page? found))
      (fun _ _ _ _ same => nomatch same)
    refine ⟨fun other here => ?_, fun probe other elsewhere => ?_, counts⟩
    · subst here
      have uses := @uses_of_loaded _ machine (machine.settleLoaded key page frame kind window)
        page frame kind window _ absent
        (fun initializer => consistent.named key page.number page initializer found) became
        (by rw [frameBytes_settleLoaded, if_pos rfl])
        (by rw [environment_settleLoaded]; rfl)
      refine ⟨_, (flat_page?_of_found found).symm ▸ uses, ?_⟩
      rw [pages, amend_self, FlatPage.map_id]
      rfl
    · rw [pages, amend_of_ne]
      exact fun here => elsewhere here.1 here.2

/-- Registering a page adds it to the memory without paging. -/
theorem Leads.flat_register {page : Page config}
    (leads : (Transition.register key page).Leads machine next) (consistent : machine.Consistent) :
    next.flat.page? = amend machine.flat.page? key page.number (some (next.flatPage page)) := by
  have amended := @Leads.flat_amend _ _ _ _ key page.number leads consistent
  cases leads with
  | register _ _ _ spaceExists =>
    exact amended (page?_setPage spaceExists page) (fun _ _ _ _ same => nomatch same)

/-- A page that is taken back is gone from the memory without paging. -/
theorem Leads.flat_unregister (leads : (Transition.unregister key number).Leads machine next)
    (consistent : machine.Consistent) :
    next.flat.page? = amend machine.flat.page? key number none := by
  have amended := @Leads.flat_amend _ _ _ _ key number leads consistent
  cases leads with
  | unregister found =>
    exact amended (page?_dropPage (isSome_of_page? found)) (fun _ _ _ _ same => nomatch same)

/-- A page that is discarded is gone from the memory without paging. -/
theorem Leads.flat_discard (leads : (Transition.discard key number).Leads machine next)
    (consistent : machine.Consistent) :
    next.flat.page? = amend machine.flat.page? key number none :=
  leads.flat_amend consistent leads.page?_of_discard (fun _ _ _ _ same => nomatch same)

/-- Bytes that are stored in a page are in its content. -/
theorem Leads.flat_store {position : Nat} {piece : Bytes}
    (leads : (Transition.store key number position piece).Leads machine next)
    (consistent : machine.Consistent) :
    ∃ page, machine.flat.page? key number = some page ∧
      next.flat.page? = amend machine.flat.page? key number
        (some (page.map (·.overwrite position piece))) := by
  have amended := @Leads.flat_amend _ _ _ _ key number leads consistent
  cases leads with
  | @store _ _ page frame _ _ found resident writable =>
    have isLoaded := consistent.fits.isLoaded found resident
    have pages := amended (page?_markDirty.trans (amend_eq found).symm) (by
      rintro _ _ _ _ same
      cases same
      exact ⟨rfl, rfl⟩)
    refine ⟨_, flat_page?_of_found found, pages.trans ?_⟩
    congr 1
    refine congrArg some ?_
    have bytes : ((machine.setFrameBytes frame ((machine.frameBytes frame).overwrite position
        piece)).updateSpace key (·.markDirty page.number)).frameBytes frame =
          (machine.frameBytes frame).overwrite position piece :=
      (frameBytes_setFrameBytes ..).trans (if_pos rfl)
    match kindIs : page.kind with
    | .unloaded _ _ =>
      rw [kindIs] at isLoaded
      exact isLoaded.elim
    | .anonymous slot =>
      rw [flatPage_of_resident kindIs resident, flatPage_of_resident kindIs resident, bytes]
      rfl
    | .file backing =>
      rw [flatPage_of_file kindIs, flatPage_of_file kindIs]
      rfl

/-- A copied page has the content of its model. -/
theorem Leads.flat_copy {child parent : SpaceKey}
    (leads : (Transition.copy child parent number frame).Leads machine next)
    (consistent : machine.Consistent) :
    next.flat.page? = amend machine.flat.page? child number (machine.flat.page? parent number) := by
  have amended := @Leads.flat_amend _ _ _ _ child number leads consistent
  cases leads with
  | @copy _ _ _ page _ bytes dirty model found _ provides =>
    refine (amended (page?_settleCopy (isSome_of_page? found))
      (fun _ _ _ _ same => nomatch same)).trans ?_
    congr 1
    rw [flat_page?_of_found model]
    refine congrArg some ?_
    have filled : (machine.settleCopy child page.forked frame bytes dirty).frameBytes frame =
        bytes := by
      rw [frameBytes_settleCopy, if_pos rfl]
    match kindIs : page.kind with
    | .unloaded target initializer =>
      cases provides with
      | frame isLoaded => exact absurd kindIs (isLoaded target initializer)
      | slot kept => cases kindIs.symm.trans kept
    | .anonymous slot =>
      have forked : page.forked.kind = .anonymous none := by
        simp [Page.forked, PageKind.forked, kindIs]
      have shows : machine.content page = bytes := by
        cases provides with
        | frame _ resident => exact content_of_resident resident
        | slot kept absent read =>
          refine content_of_slot absent ?_ (SwapDevice.get?_of_read read)
          rw [kept]
          rfl
      have copied := @flatPage_of_resident _ (machine.settleCopy child page.forked frame bytes dirty)
        { page.forked with frame := some frame } _ _ forked rfl
      rw [flatPage_of_anonymous kindIs, shows, copied, filled]
    | .file backing =>
      have forked : page.forked.kind = .file backing := by
        simp [Page.forked, PageKind.forked, kindIs]
      rw [flatPage_of_file kindIs]
      exact @flatPage_of_file _ _ { page.forked with frame := some frame } _ forked

/-- Making room changes no content. -/
theorem IsQuiet.keepsContents (isQuiet : transition.IsQuiet) : transition.KeepsContents := by
  cases transition <;> first | exact trivial | exact isQuiet.elim

end Transition

/-- A way on which no content changes. -/
theorem Path.idles {permits : Machine config → Transition config → Prop}
    {machine later : Machine config} (path : Path permits machine later)
    (consistent : machine.Consistent)
    (keeps : ∀ middle transition, permits middle transition → transition.KeepsContents) :
    machine.flat.Idles later.flat := by
  induction path with
  | refl => exact .refl
  | step prior leads permitted inductionHypothesis =>
    exact inductionHypothesis.trans
      (leads.idles (prior.consistent consistent) (keeps _ _ permitted))

namespace FlatPage.Uses

variable {number : PageNumber} {early late later : InitializerId → Nat}
  {before : Option (FlatPage config)} {page page' : FlatPage config}

/-- A page that was used has content, or is a page of a file. -/
theorem isUsed (uses : Uses number early late before page) :
    ∀ initializer, page ≠ .pending initializer := by
  cases uses <;> exact nofun

/-- A page that has been used does not change when it is used again. -/
theorem eq_of_isUsed (uses : Uses number early late (some page) page')
    (isUsed : ∀ initializer, page ≠ .pending initializer) : page' = page := by
  cases uses with
  | present | foreign => rfl
  | blank => exact absurd rfl (isUsed _)
  | filled => exact absurd rfl (isUsed _)

/-- A page that waits for nothing is used as it is. -/
theorem of_isUsed (isUsed : ∀ initializer, page ≠ .pending initializer) :
    Uses number early late (some page) page := by
  cases page with
  | pending initializer => exact absurd rfl (isUsed initializer)
  | present bytes => exact .present
  | foreign => exact .foreign

end FlatPage.Uses

namespace FlatMemory

variable {before middle after : FlatMemory config} {key : SpaceKey} {number : PageNumber}

/-- Pages that are used twice are used. -/
theorem Looks.again {touched : PageNumber → Prop} (first : before.Looks key touched middle)
    (second : middle.Looks key touched after) : before.Looks key touched after where
  visited number here := by
    obtain ⟨page, uses, became⟩ := first.visited number here
    obtain ⟨page', uses', became'⟩ := second.visited number here
    rw [FlatPage.map_id] at became became'
    rw [became] at uses'
    cases uses'.eq_of_isUsed uses.isUsed
    refine ⟨page, uses.mono (fun _ => Nat.le_refl _) second.runs, ?_⟩
    rw [FlatPage.map_id]
    exact became'
  others probe number elsewhere :=
    (second.others probe number elsewhere).trans (first.others probe number elsewhere)
  runs id := Nat.le_trans (first.runs id) (second.runs id)

/-- A page that has content is used by idling. -/
theorem Idles.looks (idles : before.Idles after) {page : FlatPage config}
    (there : after.page? key number = some page)
    (isUsed : ∀ initializer, page ≠ .pending initializer) :
    before.Looks key (· = number) after where
  visited other here := by
    subst here
    rw [idles.pages] at there
    refine ⟨page, there ▸ .of_isUsed isUsed, ?_⟩
    rw [idles.pages, FlatPage.map_id]
    exact there
  others _ _ _ := by rw [idles.pages]
  runs := idles.runs

end FlatMemory

namespace Machine

variable {machine later : Machine config} {key : SpaceKey} {number : PageNumber}

/-- A resident page has been used. -/
theorem flatPage_isUsed (fits : machine.Fits) {page : Page config} {frame : FrameNumber}
    (found : machine.page? key number = some page) (resident : page.frame = some frame) :
    ∀ initializer, machine.flatPage page ≠ .pending initializer := by
  intro initializer
  have isLoaded := fits.isLoaded found resident
  match kindIs : page.kind with
  | .unloaded _ _ =>
    rw [kindIs] at isLoaded
    exact isLoaded.elim
  | .anonymous _ =>
    rw [flatPage_of_anonymous kindIs]
    exact nofun
  | .file _ =>
    rw [flatPage_of_file kindIs]
    exact nofun

/-- A page that has been loaded and is resident at the end of a way has been used on it. -/
theorem looks_of_loads (path : Path (fun _ => Transition.Loads key number) machine later)
    (consistent : machine.Consistent) {page : Page config} {frame : FrameNumber}
    (found : later.page? key number = some page) (resident : page.frame = some frame) :
    machine.flat.Looks key (· = number) later.flat := by
  have either : machine.flat.Idles later.flat ∨
      machine.flat.Looks key (· = number) later.flat := by
    clear found resident
    induction path with
    | refl => exact .inl .refl
    | step prior leads permitted inductionHypothesis =>
      have before := prior.consistent consistent
      rcases permitted with quiet | ⟨frame, rfl⟩
      · have idles := leads.idles before quiet.keepsContents
        exact inductionHypothesis.imp (·.trans idles) (·.idles idles)
      · have looks := leads.looks before
        exact .inr (inductionHypothesis.elim (·.before_visits looks) (·.again looks))
  refine either.elim (fun idles => ?_) id
  exact idles.looks (flat_page?_of_found found)
    (flatPage_isUsed (path.consistent consistent).fits found resident)

/-- A page that is registered for the stack to grow is pending. -/
theorem Grows.flat_eq (grows : Grows key number machine later) (consistent : machine.Consistent) :
    (∀ id, machine.flat.runs id ≤ later.flat.runs id) ∧
      later.flat.page? = amend machine.flat.page? key number (some (.pending none)) := by
  have notes : (Transition.note (.growingStack number)).Leads machine
    (machine.record (.growingStack number)) := .note rfl
  have idles := notes.idles consistent trivial
  have noted := notes.consistent consistent
  have counts := grows.leads.runsOf_le noted.fits noted.slots noted.names
  refine ⟨fun id => Nat.le_trans (idles.runs id) (counts id), ?_⟩
  rw [grows.leads.flat_register noted, idles.pages]
  rfl

/-- An access that succeeds uses its page. -/
theorem Accessed.looks (accessed : Accessed key number machine later) (atRest : machine.AtRest) :
    machine.flat.Looks key (· = number) later.flat := by
  cases accessed with
  | present _ passes resident => exact looks_of_loads passes.path atRest.consistent resident rfl
  | @grown middle kind frame grows passes resident =>
    have middleRest := (grows.passes atRest).atRest
    have looks := looks_of_loads passes.path middleRest.consistent resident rfl
    obtain ⟨counts, pages⟩ := grows.flat_eq atRest.consistent
    refine ⟨fun other here => ?_, fun probe other elsewhere => ?_, fun id => ?_⟩
    · subst here
      obtain ⟨page, uses, became⟩ := looks.visited other rfl
      refine ⟨page, ?_, became⟩
      rw [pages, amend_self] at uses
      rw [flat_page?_of_vacant grows.vacant]
      cases uses
      exact .grown
    · rw [looks.others probe other elsewhere, pages, amend_of_ne]
      exact fun here => elsewhere here.1 here.2
    · exact Nat.le_trans (counts id) (looks.runs id)

/-- An access that fails changes no page. -/
theorem Denied.idles (denied : Denied key number machine later) (atRest : machine.AtRest) :
    machine.flat.Idles later.flat := by
  cases denied with
  | refused passes => exact passes.path.idles atRest.consistent fun _ _ => (·.keepsContents)
  | @shrunk grown spoiled grows passes leads =>
    have grownRest := (grows.passes atRest).atRest
    obtain ⟨counts, pages⟩ := grows.flat_eq atRest.consistent
    have idles := passes.path.idles grownRest.consistent fun _ _ => (·.keepsContents)
    have before := passes.atRest.consistent
    have counts' := leads.runsOf_le before.fits before.slots before.names
    refine ⟨?_, fun id => Nat.le_trans (counts id) (Nat.le_trans (idles.runs id) (counts' id))⟩
    rw [leads.flat_unregister before, idles.pages, pages, amend_amend]
    exact amend_eq (flat_page?_of_vacant grows.vacant)

end Machine

end DemandPaging

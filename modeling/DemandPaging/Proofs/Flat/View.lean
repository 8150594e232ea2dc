import DemandPaging.Proofs.Content
import DemandPaging.Proofs.Flat.Memory

/-!
# The memory that a machine implements

`Machine.flat` forgets where the content of each page is. Transitions that make room do nothing to
it: an eviction puts content somewhere else, and nothing more. Loading a page is its use, and a copied
page has the content of its model.
-/

namespace DemandPaging

variable {config : Config}

namespace Machine

/-- A page with its content, wherever that is. -/
def flatPage (machine : Machine config) (page : Page config) : FlatPage config :=
  match page.kind with
  | .unloaded .anonymous initializer => .pending initializer
  | .anonymous _ => .present (machine.content page)
  | _ => .foreign

/-- The memory without paging that a machine implements. -/
def flat (machine : Machine config) : FlatMemory config where
  page? key number := (machine.page? key number).map machine.flatPage
  runs := machine.environment.runsOf

variable {machine next : Machine config} {key : SpaceKey} {number : PageNumber}
  {page : Page config}

/-- A registered page appears with its content in the memory without paging. -/
theorem flat_page?_of_found (found : machine.page? key number = some page) :
    machine.flat.page? key number = some (machine.flatPage page) :=
  congrArg (Option.map machine.flatPage) found

/-- What is not registered does not appear. -/
theorem flat_page?_of_vacant (vacant : machine.page? key number = none) :
    machine.flat.page? key number = none :=
  congrArg (Option.map machine.flatPage) vacant

/-- The memory without paging has the same pages as the machine. -/
theorem isSome_flat_page? (machine : Machine config) (key : SpaceKey) (number : PageNumber) :
    (machine.flat.page? key number).isSome = (machine.page? key number).isSome :=
  Option.isSome_map

/-- How a page appears depends on its kind and its content only. -/
theorem flatPage_congr (same : next.content page = machine.content page) :
    next.flatPage page = machine.flatPage page := by
  unfold flatPage
  rw [same]

/-- An anonymous page that was loaded appears with its content, wherever that is. -/
theorem flatPage_of_anonymous {slot : Option SwapSlot} (kind : page.kind = .anonymous slot) :
    machine.flatPage page = .present (machine.content page) := by
  rw [flatPage, kind]

/-- The content of a file page does not count as memory. -/
theorem flatPage_of_file {backing : FileBacking config} (kind : page.kind = .file backing) :
    machine.flatPage page = .foreign := by
  rw [flatPage, kind]

/-- A page that was never loaded appears with the initializer that it waits for. -/
theorem flatPage_of_pending {initializer : Option (Initializer config)}
    (kind : page.kind = .unloaded .anonymous initializer) :
    machine.flatPage page = .pending initializer := by
  rw [flatPage, kind]

/-- A file page that was never loaded does not count as memory either. -/
theorem flatPage_of_pendingFile {backing : FileBacking config}
    {initializer : Option (Initializer config)}
    (kind : page.kind = .unloaded (.file backing) initializer) :
    machine.flatPage page = .foreign := by
  rw [flatPage, kind]

/-- An anonymous page that holds a frame has its content there. -/
theorem flatPage_of_resident {slot : Option SwapSlot} {frame : FrameNumber}
    (kind : page.kind = .anonymous slot) (resident : page.frame = some frame) :
    machine.flatPage page = .present (machine.frameBytes frame) := by
  rw [flatPage_of_anonymous kind, content_of_resident resident]

end Machine

theorem FlatPage.map_id (page : FlatPage config) : page.map (fun bytes => bytes) = page := by
  cases page <;> rfl

namespace FlatMemory

variable {before middle after : FlatMemory config} {key : SpaceKey}

theorem Idles.refl : before.Idles before := ⟨rfl, fun _ => Nat.le_refl _⟩

theorem Idles.trans (first : before.Idles middle) (second : middle.Idles after) :
    before.Idles after :=
  ⟨second.pages.trans first.pages, fun id => Nat.le_trans (first.runs id) (second.runs id)⟩

variable {touched touched' : PageNumber → Prop}
  {store : PageNumber → PageBytes config → PageBytes config}

/-- To leave all pages alone is to visit none. -/
theorem Idles.visits (idles : before.Idles after) (untouched : ∀ number, ¬ touched number) :
    before.Visits key touched store after where
  visited number here := absurd here (untouched number)
  others _ _ _ := by rw [idles.pages]
  runs := idles.runs

/-- Only which pages are visited matters, not how they are described. -/
theorem Visits.congr (visits : before.Visits key touched store after)
    (same : ∀ number, touched' number ↔ touched number) :
    before.Visits key touched' store after where
  visited number here := visits.visited number ((same number).mp here)
  others probe number elsewhere :=
    visits.others probe number fun own here => elsewhere own ((same number).mpr here)
  runs := visits.runs

/-- Uses of different pages add up. -/
theorem Visits.append (first : before.Visits key touched store middle)
    (second : middle.Visits key touched' store after)
    (apart : ∀ number, touched number → ¬ touched' number) :
    before.Visits key (fun number => touched number ∨ touched' number) store after where
  visited number := by
    rintro (here | here)
    · obtain ⟨page, uses, became⟩ := first.visited number here
      refine ⟨page, uses.mono (fun _ => Nat.le_refl _) second.runs, ?_⟩
      rw [second.others key number fun _ => apart number here]
      exact became
    · obtain ⟨page, uses, became⟩ := second.visited number here
      refine ⟨page, ?_, became⟩
      rw [first.others key number fun _ earlier => apart number earlier here] at uses
      exact uses.mono first.runs fun _ => Nat.le_refl _
  others probe number elsewhere := by
    rw [second.others probe number fun own here => elsewhere own (.inr here)]
    exact first.others probe number fun own here => elsewhere own (.inl here)
  runs id := Nat.le_trans (first.runs id) (second.runs id)

/-- What is not touched may be idled over before and after. -/
theorem Idles.before_visits (idles : before.Idles middle)
    (visits : middle.Visits key touched store after) : before.Visits key touched store after where
  visited number here := by
    obtain ⟨page, uses, became⟩ := visits.visited number here
    rw [idles.pages] at uses
    exact ⟨page, uses.mono idles.runs fun _ => Nat.le_refl _, became⟩
  others probe number elsewhere := by
    rw [visits.others probe number elsewhere, idles.pages]
  runs id := Nat.le_trans (idles.runs id) (visits.runs id)

/-- Runs of initializers in vain may follow a visit. -/
theorem Visits.idles (visits : before.Visits key touched store middle)
    (idles : middle.Idles after) : before.Visits key touched store after where
  visited number here := by
    obtain ⟨page, uses, became⟩ := visits.visited number here
    rw [idles.pages]
    exact ⟨page, uses.mono (fun _ => Nat.le_refl _) idles.runs, became⟩
  others probe number elsewhere := by
    rw [idles.pages]
    exact visits.others probe number elsewhere
  runs id := Nat.le_trans (visits.runs id) (idles.runs id)

end FlatMemory

namespace Transition

open Machine

/-- A transition that may move the content of pages about but does not change it. -/
def KeepsContents : Transition config → Prop
  | .load _ _ _ | .copy _ _ _ _ | .register _ _ | .unregister _ _ | .discard _ _ | .store _ _ _ _ =>
    False
  | _ => True

variable {transition : Transition config} {machine next : Machine config} {key : SpaceKey}
  {number : PageNumber}

/-- A page that stays as it is looks the same, unless bytes are stored in it. -/
theorem Leads.flat_page?_eq (leads : transition.Leads machine next)
    (consistent : machine.Consistent) (same : next.page? key number = machine.page? key number)
    (unstored : ∀ position piece, transition ≠ .store key number position piece) :
    next.flat.page? key number = machine.flat.page? key number := by
  cases found : machine.page? key number with
  | none => rw [flat_page?_of_vacant found, flat_page?_of_vacant (same.trans found)]
  | some page =>
    have kept := same.trans found
    rw [flat_page?_of_found found, flat_page?_of_found kept,
      flatPage_congr (leads.content_eq consistent found kept unstored)]

/-- What a transition does to one page it does to that page of the memory, and to no other. -/
theorem Leads.flat_amend (leads : transition.Leads machine next) (consistent : machine.Consistent)
    {changed : Option (Page config)} (pages : next.page? = amend machine.page? key number changed)
    (unstored : ∀ probe other position piece, transition = .store probe other position piece →
      probe = key ∧ other = number) :
    next.flat.page? = amend machine.flat.page? key number (changed.map next.flatPage) := by
  funext probe other
  by_cases here : probe = key ∧ other = number
  · obtain ⟨rfl, rfl⟩ := here
    rw [amend_self]
    show (next.page? probe other).map _ = _
    rw [pages, amend_self]
  · rw [amend_of_ne here]
    refine leads.flat_page?_eq consistent ?_ fun position piece same => ?_
    · rw [pages, amend_of_ne here]
    · exact here (unstored probe other position piece same)

end Transition

/-- A page that loses its frame keeps its content. -/
theorem Machine.flatPage_of_stored {machine next : Machine config} {page : Page config}
    {frame : FrameNumber} {dirty : Bool} {before after : Environment config}
    {kind : PageKind config} (resident : page.frame = some frame)
    (stored : page.kind.Stored (machine.frameBytes frame) dirty before kind after)
    (environment : next.environment = after) :
    next.flatPage { page with kind := kind, frame := none } = machine.flatPage page := by
  generalize kindIs : page.kind = earlier at stored
  cases stored with
  | blank isBlank =>
    rw [flatPage_of_resident kindIs resident, flatPage_of_anonymous rfl,
      content_of_nowhere rfl rfl, isBlank]
  | toSlot =>
    rw [flatPage_of_resident kindIs resident, flatPage_of_anonymous rfl,
      content_of_slot rfl rfl]
    unfold stored?
    rw [environment]
    exact OrderedMap.get?_insert_self ..
  | clean | toFile => rw [flatPage_of_file kindIs, flatPage_of_file rfl]

namespace Transition

open Machine

variable {transition : Transition config} {machine next : Machine config} {key : SpaceKey}
  {number : PageNumber}

/-- Making room changes nothing, for a memory without paging. -/
theorem Leads.idles (leads : transition.Leads machine next) (consistent : machine.Consistent)
    (keeps : transition.KeepsContents) : machine.flat.Idles next.flat := by
  refine ⟨?_, leads.runsOf_le consistent.fits consistent.slots consistent.names⟩
  have unstored : ∀ probe other position piece,
      transition ≠ .store probe other position piece := by
    rintro _ _ _ _ rfl
    exact keeps
  have unchanged : next.page? = machine.page? → next.flat.page? = machine.flat.page? := by
    intro same
    funext probe other
    exact leads.flat_page?_eq consistent (by rw [same]) (unstored probe other)
  have kept := leads.page?_eq consistent.known.unissued
  cases leads with
  | @evict _ key page frame remaining kind environment exhausted picked found resident stored =>
    have became := consistent.fits.stored found resident stored
    have leads := Leads.evict exhausted picked found resident stored
    rw [leads.flat_amend consistent (page?_evicted (isSome_of_page? found))
      (fun _ _ _ _ same => nomatch same)]
    refine amend_eq ?_
    rw [flat_page?_of_found found]
    exact congrArg some (flatPage_of_stored resident became environment_vacate).symm
  | load | copy | register | unregister | discard | discardResident | store => exact keeps.elim
  | _ => exact unchanged (kept trivial)

end Transition

end DemandPaging

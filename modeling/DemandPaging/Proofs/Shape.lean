import DemandPaging.Proofs.Fork
import DemandPaging.Proofs.Locality

/-!
# What a page is, apart from where its content is

`Machine.shape?` forgets where the content of a page is: its frame and its swap slot. Making room
changes no shape, since an eviction only moves content, and a copied page has the shape of its model.
-/

namespace DemandPaging

variable {config : Config}

/-- Saving a page does not change what a fork makes of its kind. -/
theorem PageKind.Stored.forked_eq {bytes : PageBytes config} {dirty : Bool}
    {before after : Environment config} {kind later : PageKind config}
    (stored : kind.Stored bytes dirty before later after) : later.forked = kind.forked := by
  cases stored <;> rfl

/-- A copy of a copy is like the copy. -/
@[simp] theorem Page.forked_forked (page : Page config) : page.forked.forked = page.forked := by
  unfold forked PageKind.forked
  cases page.kind <;> rfl

namespace Machine

/-- What is known about a page, apart from where its content is. -/
def shape? (machine : Machine config) (key : SpaceKey) (number : PageNumber) :
    Option (Page config) :=
  (machine.page? key number).map Page.forked

variable {machine later : Machine config} {key : SpaceKey} {number : PageNumber}

/-- The shapes are read from the pages. -/
theorem shape?_congr (same : later.page? = machine.page?) : later.shape? = machine.shape? := by
  unfold shape?
  rw [same]

/-- A page has a shape exactly if it is registered. -/
theorem isSome_shape? : (machine.shape? key number).isSome = (machine.page? key number).isSome :=
  Option.isSome_map

/-- The shape of a registered page is what a fork would register. -/
theorem shape?_of_found {page : Page config} (found : machine.page? key number = some page) :
    machine.shape? key number = some page.forked :=
  congrArg (Option.map Page.forked) found

/-- What is not registered has no shape. -/
theorem shape?_of_vacant (vacant : machine.page? key number = none) :
    machine.shape? key number = none :=
  congrArg (Option.map Page.forked) vacant

/-- Where one page is replaced, one shape is. -/
theorem shape?_of_amend {page : Option (Page config)}
    (pages : later.page? = amend machine.page? key number page) :
    later.shape? = amend machine.shape? key number (page.map Page.forked) := by
  funext probe other
  unfold shape?
  rw [pages]
  unfold amend
  split <;> rfl

/-- A page that becomes another one of the same shape changes no shape. -/
theorem shape?_of_same {page : Option (Page config)}
    (pages : later.page? = amend machine.page? key number page)
    (same : machine.shape? key number = page.map Page.forked) : later.shape? = machine.shape? := by
  rw [shape?_of_amend pages]
  exact amend_eq same

end Machine

namespace Transition

open Machine

/-- No page is registered, loaded for the first time, or ended. -/
def KeepsShapes : Transition config → Prop
  | .load _ _ _ | .register _ _ | .unregister _ _ | .discard _ _ => False
  | _ => True

variable {transition : Transition config} {machine next : Machine config} {key : SpaceKey}

/-- Making room, loading again and storing leave all shapes as they were. -/
theorem Leads.shape?_eq (leads : transition.Leads machine next) (consistent : machine.Consistent)
    (keeps : transition.KeepsShapes) : next.shape? = machine.shape? := by
  have kept := leads.page?_eq consistent.known.unissued
  cases leads with
  | @evict _ _ page _ _ _ _ _ _ found resident stored =>
    have became := consistent.fits.stored found resident stored
    refine shape?_of_same (page?_evicted (isSome_of_page? found)) ?_
    rw [shape?_of_found found]
    simp only [Option.map_some, Page.forked, became.forked_eq]
  | copy _ found =>
    have same := shape?_of_found found
    exact shape?_of_same (page?_settleCopy (isSome_of_page? found)) same
  | load | register | unregister | discard | discardResident => exact keeps.elim
  | _ => exact shape?_congr (kept trivial)

/-- Registering a page adds its shape. -/
theorem Leads.shape?_of_register {page : Page config}
    (leads : (Transition.register key page).Leads machine next) :
    next.shape? = amend machine.shape? key page.number (some page.forked) := by
  cases leads with
  | register _ _ _ spaceExists => exact shape?_of_amend (page?_setPage spaceExists page)

/-- Preparing a copy leaves all shapes as they were. -/
theorem Prepares.keepsShapes {transition : Transition config} (prepares : transition.Prepares) :
    transition.KeepsShapes := by
  cases transition <;> first | exact trivial | exact prepares.elim

end Transition

namespace Path

open Machine

variable {permits : Machine config → Transition config → Prop} {start last : Machine config}

/-- A way of transitions that keep shapes leaves all of them as they were. -/
theorem shape?_eq (path : Path permits start last) (consistent : start.Consistent)
    (keeps : ∀ machine transition, permits machine transition → transition.KeepsShapes) :
    last.shape? = start.shape? := by
  induction path with
  | refl => rfl
  | step prior leads permitted inductionHypothesis =>
    rw [leads.shape?_eq (prior.consistent consistent) (keeps _ _ permitted), inductionHypothesis]

end Path

namespace Machine

variable {child parent : SpaceKey} {number : PageNumber} {machine later : Machine config}

/-- A copied page has the shape of its model, and no other shape changes. -/
theorem CopiesPage.shape?_eq (copies : CopiesPage child parent number machine later)
    (atRest : machine.AtRest) :
    later.shape? = amend machine.shape? child number
      ((machine.shape? parent number).or (machine.shape? child number)) := by
  cases copies with
  | vacant vacant same =>
    rw [same, shape?_of_vacant vacant]
    exact (amend_eq rfl).symm
  | registered found _ leads =>
    cases atRest.consistent.fits.number_eq found
    rw [leads.shape?_of_register, shape?_of_found found, Page.forked_forked]
    rfl
  | copied found registers prepares leads =>
    cases atRest.consistent.fits.number_eq found
    have grown := registers.consistent atRest.consistent
    rw [leads.shape?_eq (prepares.consistent grown) trivial,
      prepares.shape?_eq grown fun _ _ => Transition.Prepares.keepsShapes,
      registers.shape?_of_register, shape?_of_found found, Page.forked_forked]
    rfl

/-- The copies of the pages of a list have the shapes of their models. -/
theorem CopiesPages.shape?_eq {numbers : List PageNumber}
    (copies : CopiesPages child parent numbers machine (.ok ()) later) (atRest : machine.AtRest)
    (apart : child ≠ parent) :
    later.shape? = fun probe other =>
      if probe = child ∧ other ∈ numbers then
        (machine.shape? parent other).or (machine.shape? child other)
      else machine.shape? probe other := by
  induction numbers generalizing machine with
  | nil =>
    cases copies
    simp
  | cons number rest inductionHypothesis =>
    cases copies with
    | page first middleRest others =>
      rw [inductionHypothesis others middleRest, first.shape?_eq atRest]
      funext probe other
      have model : amend machine.shape? child number
          ((machine.shape? parent number).or (machine.shape? child number)) parent other =
            machine.shape? parent other := amend_of_ne fun here => apart here.1.symm
      rw [model]
      unfold amend
      by_cases own : probe = child <;> by_cases same : other = number <;>
        by_cases later : other ∈ rest <;> simp [own, same, later]
      all_goals cases machine.shape? parent number <;> simp

end Machine

end DemandPaging

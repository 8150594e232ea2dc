import DemandPaging.Proofs.Replica
import DemandPaging.Proofs.Trail

/-!
# How long a page stays resident, and when it counts as written to

A page becomes resident when it is loaded or when it is registered as the copy of a resident page, and
its residency ends when it is evicted or discarded, and at no other time. It counts as written to if it
was stored to since it became resident, or became resident as the copy of a page that counted as
written to.
-/

namespace DemandPaging

variable {config : Config}

/-- A mapped page that is marked counts as written to. -/
theorem Machine.isDirty_markDirty {machine : Machine config} {key : SpaceKey} {number : PageNumber}
    {entry : PageTableEntry} (found : (machine.spaces.get? key).isSome)
    (mapped : machine.mapped? key number = some entry) :
    ((machine.updateSpace key (·.markDirty number)).space key).isDirty number = true := by
  rw [isDirty_eq, mapped?_markDirty found, amend_self, mapped]
  rfl

namespace Transition

/-- A transition that makes a page resident. -/
def MakesResident (key : SpaceKey) (number : PageNumber) (transition : Transition config) : Prop :=
  (∃ frame, transition = .load key number frame) ∨
    ∃ parent frame, transition = .copy key parent number frame

/-- A transition that ends the residency of a page. -/
def EndsResidency (key : SpaceKey) (number : PageNumber) (transition : Transition config) : Prop :=
  (∃ frame, transition = .evict key number frame) ∨ transition = .discard key number

/-- A transition that stores bytes in a page. -/
def StoresTo (key : SpaceKey) (number : PageNumber) (transition : Transition config) : Prop :=
  ∃ position piece, transition = .store key number position piece

open Machine

variable {transition : Transition config} {machine next : Machine config} {key : SpaceKey}
  {number : PageNumber}

/-- What ends the residency of a page is about that page. -/
theorem EndsResidency.touches (ends : transition.EndsResidency key number) :
    transition.Touches key number := by
  rcases ends with ⟨_, rfl⟩ | rfl <;> exact ⟨rfl, rfl⟩

/-- A page that a transition does not touch keeps its place, its frame and what is in it. -/
theorem Leads.bystands (leads : transition.Leads machine next) (consistent : machine.Consistent)
    (untouched : ¬ transition.Touches key number) :
    next.page? key number = machine.page? key number ∧
      (next.space key).isDirty number = (machine.space key).isDirty number ∧
      ∀ frame, machine.frame? key number = some frame →
        next.frameBytes frame = machine.frameBytes frame := by
  obtain ⟨pages, entries⟩ := leads.untouched consistent untouched
  refine ⟨pages, by rw [isDirty_eq, isDirty_eq, entries], fun frame held => ?_⟩
  apply leads.frameBytes_eq consistent held
  · rw [frame?, pages]
    exact held
  · rintro position piece rfl
    exact untouched ⟨rfl, rfl⟩

/-- A page whose residency has ended holds no frame. -/
theorem Leads.frame?_of_ends (leads : transition.Leads machine next)
    (ends : transition.EndsResidency key number) : next.frame? key number = none := by
  unfold frame?
  rcases ends with ⟨frame, rfl⟩ | rfl
  · cases leads with
    | evict _ _ found => rw [page?_evicted (isSome_of_page? found), amend_self, Option.bind_some]
  · rw [leads.page?_of_discard, amend_self, Option.bind_none]

/-- A page whose residency does not end keeps its frame. -/
theorem Leads.frame?_of_endless (leads : transition.Leads machine next)
    (consistent : machine.Consistent) {frame : FrameNumber}
    (holds : machine.frame? key number = some frame)
    (endless : ¬ transition.EndsResidency key number) : next.frame? key number = some frame := by
  by_cases touches : transition.Touches key number
  · obtain ⟨page, found, resident⟩ := Option.bind_eq_some_iff.mp holds
    cases leads with
    | evict => exact absurd (.inl ⟨_, by rw [touches.1, touches.2]⟩) endless
    | discard | discardResident => exact absurd (.inr (by rw [touches.1, touches.2])) endless
    | load known absent =>
      obtain ⟨rfl, rfl⟩ := touches
      cases known.symm.trans found
      cases absent.symm.trans resident
    | copy _ known =>
      obtain ⟨rfl, rfl⟩ := touches
      cases known.symm.trans found
      cases resident
    | register vacant =>
      obtain ⟨rfl, rfl⟩ := touches
      cases vacant.symm.trans found
    | unregister known unloaded =>
      obtain ⟨rfl, rfl⟩ := touches
      cases known.symm.trans found
      have isLoaded := consistent.fits.isLoaded found resident
      rw [unloaded] at isLoaded
      exact isLoaded.elim
    | store =>
      rw [frame?, page?_markDirty]
      exact holds
    | _ => exact touches.elim
  · rw [frame?, (leads.untouched consistent touches).1]
    exact holds

/-- The residency of a page ends by its eviction or its end, and only so. -/
theorem Leads.frame?_ne_iff (leads : transition.Leads machine next) (consistent : machine.Consistent)
    {frame : FrameNumber} (holds : machine.frame? key number = some frame) :
    next.frame? key number ≠ some frame ↔ transition.EndsResidency key number := by
  constructor
  · intro gone
    by_contra endless
    exact gone (leads.frame?_of_endless consistent holds endless)
  · intro ends kept
    cases (leads.frame?_of_ends ends).symm.trans kept

/-- A page that stays resident keeps its frame and counts as written to as before, unless it is stored
to. -/
theorem Leads.stays (leads : transition.Leads machine next) (consistent : machine.Consistent)
    (resident : (next.frame? key number).isSome) (becomes : ¬ transition.MakesResident key number) :
    next.frame? key number = machine.frame? key number ∧
      ((next.space key).isDirty number = true ↔
        (machine.space key).isDirty number = true ∨ transition.StoresTo key number) := by
  have endless : ¬ transition.EndsResidency key number := by
    intro ends
    rw [leads.frame?_of_ends ends] at resident
    cases resident
  by_cases touches : transition.Touches key number
  · cases leads with
    | evict => exact absurd (.inl ⟨_, by rw [touches.1, touches.2]⟩) endless
    | discard | discardResident => exact absurd (.inr (by rw [touches.1, touches.2])) endless
    | load => exact absurd (.inl ⟨_, by rw [touches.1, touches.2]⟩) becomes
    | copy => exact absurd (.inr ⟨_, _, by rw [touches.1, touches.2]⟩) becomes
    | register _ absent _ spaceExists =>
      obtain ⟨rfl, rfl⟩ := touches
      rw [frame?, page?_setPage spaceExists, amend_self, Option.bind_some, absent] at resident
      cases resident
    | unregister found =>
      obtain ⟨rfl, rfl⟩ := touches
      rw [frame?, page?_dropPage (isSome_of_page? found), amend_self] at resident
      cases resident
    | store found held =>
      obtain ⟨rfl, rfl⟩ := touches
      obtain ⟨_, _, mapped⟩ := consistent.fits.entry_of_resident found held
      refine ⟨by rw [frame?, page?_markDirty]; rfl, iff_of_true ?_ (.inr ⟨_, _, rfl⟩)⟩
      exact isDirty_markDirty (isSome_of_page? found) mapped
    | _ => exact touches.elim
  · obtain ⟨pages, entries⟩ := leads.untouched consistent touches
    have unstored : ¬ transition.StoresTo key number := by
      rintro ⟨_, _, rfl⟩
      exact touches ⟨rfl, rfl⟩
    rw [frame?, frame?, pages, isDirty_congr entries, or_iff_left unstored]
    exact ⟨rfl, .rfl⟩

end Transition

/-! ## When a page counts as written to -/

/-- A transition that makes a page count as written to. -/
def Move.Writes (move : Move config) (key : SpaceKey) (number : PageNumber) : Prop :=
  move.transition.StoresTo key number ∨
    ∃ parent frame, move.transition = .copy key parent number frame ∧
      (move.before.space parent).isDirty number = true

/-- A page was written to on a way, and has not become resident anew since. -/
def WrittenSinceResident (moves : List (Move config)) (key : SpaceKey) (number : PageNumber) : Prop :=
  ∃ earlier move later, moves = earlier ++ move :: later ∧ move.Writes key number ∧
    ∀ other ∈ later, ¬ other.transition.MakesResident key number

variable {key : SpaceKey} {number : PageNumber}

/-- What one more transition means for whether a page was written to since it became resident. -/
theorem writtenSinceResident_append_singleton {moves : List (Move config)} {last : Move config} :
    WrittenSinceResident (moves ++ [last]) key number ↔
      last.Writes key number ∨
        WrittenSinceResident moves key number ∧ ¬ last.transition.MakesResident key number := by
  constructor
  · rintro ⟨earlier, move, later, same, writes, since⟩
    rcases List.eq_nil_or_concat later with rfl | ⟨front, final, rfl⟩
    · obtain ⟨_, lasts⟩ := List.append_inj' same rfl
      exact .inl (List.singleton_inj.mp lasts ▸ writes)
    · have parts : moves ++ [last] = (earlier ++ move :: front) ++ [final] := by
        rw [same, List.concat_eq_append, List.append_assoc, List.cons_append]
      obtain ⟨rest, lasts⟩ := List.append_inj' parts rfl
      rw [List.concat_eq_append] at since
      refine .inr ⟨⟨earlier, move, front, rest, writes, fun other listed => ?_⟩, ?_⟩
      · exact since other (List.mem_append_left _ listed)
      · rw [List.singleton_inj.mp lasts]
        exact since final (List.mem_append_right _ List.mem_cons_self)
  · intro either
    cases either with
    | inl writes => exact ⟨moves, last, [], rfl, writes, fun _ listed => absurd listed List.not_mem_nil⟩
    | inr both =>
      obtain ⟨earlier, move, later, same, writes, since⟩ := both.1
      refine ⟨earlier, move, later ++ [last], ?_, writes, fun other listed => ?_⟩
      · rw [same, List.append_assoc, List.cons_append]
      · rcases List.mem_append.mp listed with listed | listed
        · exact since other listed
        · exact List.mem_singleton.mp listed ▸ both.2

/-- A copy counts as written to exactly if its model does. -/
theorem Machine.Provides.isDirty_eq {machine : Machine config} {key : SpaceKey} {page : Page config}
    {bytes : PageBytes config} {dirty : Bool} (provides : machine.Provides key page bytes dirty)
    (fits : machine.Fits) (found : machine.page? key page.number = some page) :
    (machine.space key).isDirty page.number = dirty := by
  cases provides with
  | frame => rfl
  | slot _ absent =>
    rw [Machine.isDirty_eq, fits.entry_of_absent found absent]

/-- A resident page counts as written to exactly if it was written to since it became resident. -/
theorem Trail.isDirty_iff {start machine : Machine config} {moves : List (Move config)}
    (trail : Trail start moves machine) (consistent : start.Consistent)
    (fresh : ∀ key number, start.frame? key number = none)
    (resident : (machine.frame? key number).isSome) :
    (machine.space key).isDirty number = true ↔ WrittenSinceResident moves key number := by
  induction trail generalizing key number with
  | refl =>
    rw [fresh] at resident
    cases resident
  | @step moves middle last transition prior leads inductionHypothesis =>
    have before := (prior.consistent consistent).1
    rw [writtenSinceResident_append_singleton]
    by_cases becomes : transition.MakesResident key number
    · rw [or_iff_left fun stays => stays.2 becomes]
      rcases becomes with ⟨frame, rfl⟩ | ⟨parent, frame, rfl⟩
      · cases leads with
        | load found =>
          rw [Machine.isDirty_eq, Machine.mapped?_settleLoaded (Machine.isSome_of_page? found),
            amend_self]
          refine iff_of_false nofun ?_
          rintro (⟨_, _, other⟩ | ⟨_, _, other, _⟩) <;> cases other
      · cases leads with
        | @copy _ _ _ page _ bytes dirty model found _ provides =>
          have copied : ((middle.settleCopy key page.forked frame bytes dirty).space key).isDirty
              page.number = dirty := Machine.isDirty_settleCopy (Machine.isSome_of_page? found)
          rw [copied, ← provides.isDirty_eq before.fits model]
          constructor
          · exact fun dirty => .inr ⟨parent, frame, rfl, dirty⟩
          · rintro (⟨_, _, other⟩ | ⟨_, _, same, dirty⟩)
            · cases other
            · cases same
              exact dirty
    · obtain ⟨same, dirty⟩ := leads.stays before resident becomes
      have uncopied : ¬ ∃ parent frame, transition = .copy key parent number frame ∧
          (middle.space parent).isDirty number = true := by
        rintro ⟨parent, frame, copies, _⟩
        exact becomes (.inr ⟨parent, frame, copies⟩)
      rw [dirty, inductionHypothesis (same ▸ resident), and_iff_left becomes, Move.Writes,
        or_iff_left uncopied, or_comm]

end DemandPaging

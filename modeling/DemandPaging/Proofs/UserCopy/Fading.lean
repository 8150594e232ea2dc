import DemandPaging.Proofs.Conduct
import DemandPaging.Proofs.Locality
import DemandPaging.Proofs.UserCopy.Cut

/-!
# Pages that a copy has left behind

A copy goes from page to page and does not come back, so all that can happen to a page behind it is
that the page is evicted. As long as the hardware still maps such a page, the entry is the one with
which the copy has left it, and so are the bytes in the frame.
-/

namespace DemandPaging

variable {config : Config}

namespace Machine

/-- The byte that the hardware finds at a place of an address space, if it maps the page there. -/
def mappedByte? (machine : Machine config) (key : SpaceKey) (place : Nat) : Option UInt8 :=
  (machine.mapped? key ⟨UInt64.ofNat (place / config.pageSize)⟩).map fun entry =>
    (machine.frameBytes entry.frame).byteAt place

/-- Where a page is still mapped, it is mapped as it was, to a frame with the same bytes. -/
def Fades (key : SpaceKey) (number : PageNumber) (machine later : Machine config) : Prop :=
  ∀ entry, later.mapped? key number = some entry → machine.mapped? key number = some entry ∧
    later.frameBytes entry.frame = machine.frameBytes entry.frame

variable {key probe : SpaceKey} {number other : PageNumber} {machine middle later : Machine config}

/-- The hardware finds a byte where the page of the place is mapped to a frame that has it. -/
theorem mappedByte?_eq_some_iff {place : Nat} {byte : UInt8}
    (here : place / config.pageSize = number.word.toNat) :
    machine.mappedByte? key place = some byte ↔ ∃ entry, machine.mapped? key number = some entry ∧
      (machine.frameBytes entry.frame).byteAt place = byte := by
  have same : (⟨UInt64.ofNat (place / config.pageSize)⟩ : PageNumber) = number := by
    rw [here]
    exact congrArg PageNumber.mk (UInt64.ofNat_toNat ..)
  rw [mappedByte?, same, Option.map_eq_some_iff]

theorem Fades.refl : Fades key number machine machine := fun _ mapped => ⟨mapped, rfl⟩

/-- What fades in two stretches fades in both together. -/
theorem Fades.trans (first : Fades key number machine middle) (second : Fades key number middle later) :
    Fades key number machine later := by
  intro entry mapped
  obtain ⟨before, sameBytes⟩ := second entry mapped
  obtain ⟨original, sameBefore⟩ := first entry before
  exact ⟨original, sameBytes.trans sameBefore⟩

/-- A page that is not mapped any more has faded. -/
theorem Fades.of_unmapped (unmapped : later.mapped? key number = none) :
    Fades key number machine later := by
  intro entry mapped
  cases unmapped.symm.trans mapped

/-- The bytes that are still mapped are those that were. -/
theorem Fades.mappedByte?_eq {place : Nat} {byte : UInt8} (fades : Fades key number machine later)
    (here : place / config.pageSize = number.word.toNat)
    (shows : later.mappedByte? key place = some byte) : machine.mappedByte? key place = some byte := by
  obtain ⟨entry, mapped, rfl⟩ := (mappedByte?_eq_some_iff here).mp shows
  obtain ⟨original, sameBytes⟩ := fades entry mapped
  exact (mappedByte?_eq_some_iff here).mpr ⟨entry, original, by rw [sameBytes]⟩

end Machine

namespace Transition

open Machine

variable {transition : Transition config} {key probe : SpaceKey} {number other : PageNumber}
  {machine next : Machine config}

/-- Of all that can happen to a page a transition does nothing to it but evict it. -/
def Spares (key : SpaceKey) (number : PageNumber) (transition : Transition config) : Prop :=
  transition.Touches key number → ∃ frame, transition = .evict key number frame

/-- A page that is at most evicted fades. -/
theorem Leads.fades (leads : transition.Leads machine next) (consistent : machine.Consistent)
    (spares : transition.Spares key number) : Fades key number machine next := by
  by_cases touches : transition.Touches key number
  · obtain ⟨frame, rfl⟩ := spares touches
    apply Fades.of_unmapped
    generalize number = place at leads
    cases leads with
    | evict _ _ found =>
      rw [mapped?_evicted (isSome_of_page? found), amend_self]
  · intro entry mapped
    obtain ⟨pages, entries⟩ := leads.untouched consistent touches
    have before : machine.mapped? key number = some entry := entries.symm.trans mapped
    obtain ⟨page, found, resident, -⟩ := consistent.fits.page_of_entry before
    refine ⟨before, leads.frameBytes_eq consistent ((frame?_of_found found).trans resident)
      ((frame?_of_found (pages.trans found)).trans resident) ?_⟩
    rintro position piece rfl
    exact touches ⟨rfl, rfl⟩

/-- Making room does nothing to a page but evict it. -/
theorem IsQuiet.spares (isQuiet : transition.IsQuiet) : transition.Spares key number := by
  intro touches
  cases transition with
  | evict space page frame =>
    obtain ⟨rfl, rfl⟩ := touches
    exact ⟨frame, rfl⟩
  | note | take | release | spoil => exact touches.elim
  | _ => exact isQuiet.elim

/-- An access to one page spares the others. -/
theorem Accesses.spares (accesses : transition.Accesses key number)
    (elsewhere : ¬ (probe = key ∧ other = number)) : transition.Spares probe other := by
  rcases accesses with (quiet | ⟨frame, rfl⟩) | rfl | rfl
  · exact quiet.spares
  all_goals
    intro touches
    exact absurd ⟨touches.1.symm, touches.2.symm⟩ elsewhere

end Transition

open Machine

/-- Where nothing is done to a page but to evict it, it is mapped as it was or not at all, by
induction on the way. -/
theorem Passes.fades {permits : Transition config → Prop} {machine later : Machine config}
    (passes : Passes permits machine later) (consistent : machine.Consistent) {key : SpaceKey}
    {number : PageNumber} (spares : ∀ transition, permits transition → transition.Spares key number) :
    Fades key number machine later := by
  have path := passes.path
  clear passes
  induction path with
  | refl => exact .refl
  | step prior leads permitted inductionHypothesis =>
    exact inductionHypothesis.trans
      (leads.fades (prior.consistent consistent) (spares _ permitted))

namespace Machine

variable {key probe : SpaceKey} {number other : PageNumber} {machine later : Machine config}

/-- An access to one page does nothing to another but evict it. -/
theorem Accessed.fades (accessed : Accessed key number machine later) (atRest : machine.AtRest)
    (elsewhere : ¬ (probe = key ∧ other = number)) : Fades probe other machine later :=
  (accessed.passes atRest).fades atRest.consistent fun _ accesses => accesses.spares elsewhere

/-- An access that is denied maps nothing. -/
theorem Denied.fades (denied : Denied key number machine later) (atRest : machine.AtRest)
    (probe : SpaceKey) (other : PageNumber) : Fades probe other machine later := by
  by_cases here : probe = key ∧ other = number
  · obtain ⟨rfl, rfl⟩ := here
    cases denied with
    | refused passes => exact passes.fades atRest.consistent fun _ quiet => quiet.spares
    | shrunk grows passes leads =>
      have after := (Denied.passes (.shrunk grows passes leads) atRest).atRest
      refine .of_unmapped (after.consistent.fits.entry_of_vacant ?_)
      generalize other = place at leads
      cases leads with
      | unregister found =>
        rw [page?_dropPage (isSome_of_page? found), amend_self]
  · exact (denied.passes atRest).fades atRest.consistent fun _ accesses => accesses.spares here

end Machine

end DemandPaging

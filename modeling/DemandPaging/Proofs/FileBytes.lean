import DemandPaging.Proofs.WriteBack.Contents

/-!
# Who changes a byte of a file

A byte of a file is on every page whose part of the file has it. Apart from outsiders, only a page that
has the byte and counts as written to can change it in the file, and only when its residency ends.
-/

namespace DemandPaging

variable {config : Config}

/-- The byte at a position of a file is on a page, or will be once the page is loaded. -/
def Machine.Bears (machine : Machine config) (key : SpaceKey) (number : PageNumber) (id : FileId)
    (position : Nat) : Prop :=
  ∃ page backing, machine.page? key number = some page ∧ page.kind.backing? = some backing ∧
    backing.handle.file = id ∧ backing.Covers position

/-- The byte at a position of a file. -/
def Environment.fileByte (environment : Environment config) (id : FileId) (position : Nat) : UInt8 :=
  (environment.file id).data.getD position 0

namespace Move

/-- The byte of a page that was written to goes back to the file, because the page stops being
resident. -/
structure SavesByte (move : Move config) (key : SpaceKey) (number : PageNumber) (id : FileId)
    (position : Nat) : Prop where
  ends : move.transition.EndsResidency key number
  bears : move.before.Bears key number id position
  dirty : (move.before.space key).isDirty number = true

/-- An outsider puts another byte in the place of one of a file. -/
def ReplacesByte (move : Move config) (id : FileId) (position : Nat) : Prop :=
  (∃ contents, move.transition = .setFile id contents ∧
    contents.data.getD position 0 ≠ move.before.environment.fileByte id position) ∨
  ∃ data, move.transition = .createFile id data

end Move

namespace Machine

variable {machine next : Machine config} {key : SpaceKey} {number : PageNumber} {id : FileId}
  {position : Nat}

/-- A page that owes something to a file counts as written to. -/
theorem isDirty_of_owed (owes : machine.owed key number ≠ []) :
    (machine.space key).isDirty number = true := by
  cases found : machine.page? key number with
  | none => exact absurd (by simp only [owed, found]) owes
  | some page =>
    cases resident : page.frame with
    | none => exact absurd (owed_of_absent found resident) owes
    | some frame =>
      rw [owed_of_resident found resident] at owes
      by_contra clean
      rw [Bool.not_eq_true] at clean
      apply owes
      rw [clean]
      cases page.kind <;> simp [PageKind.owed]

/-- What is written back to a file is the bytes of a page that bears them. -/
theorem WritesBack.bears (writes : machine.WritesBack next key number id)
    (changed : next.environment.fileByte id position ≠ machine.environment.fileByte id position) :
    machine.Bears key number id position ∧ (machine.space key).isDirty number = true := by
  cases writes with
  | @intro page _ backing found _ isFile owes patches =>
    have covers := ((patches.shown position).resolve_left changed).1
    exact ⟨⟨page, backing, found, by rw [isFile]; rfl, rfl, covers⟩, isDirty_of_owed owes⟩

end Machine

namespace Transition

open Machine

variable {transition : Transition config} {machine next : Machine config} {key : SpaceKey}
  {number : PageNumber} {id : FileId} {position : Nat}

/-- A byte of a file is changed by the end of the residency of a page that has it, or by an
outsider. -/
theorem Leads.saves_or_replaces (leads : transition.Leads machine next)
    (consistent : machine.Consistent)
    (changed : next.environment.fileByte id position ≠ machine.environment.fileByte id position) :
    (∃ key number, Move.SavesByte ⟨machine, transition⟩ key number id position) ∨
      Move.ReplacesByte ⟨machine, transition⟩ id position := by
  by_cases set : ∃ contents, transition = .setFile id contents
  · obtain ⟨contents, rfl⟩ := set
    refine .inr (.inl ⟨contents, rfl, fun same => changed ?_⟩)
    cases leads
    show ((machine.environment.setFile id contents).file id).data.getD position 0 = _
    rw [Environment.file_setFile]
    split
    · exact same
    · rfl
  by_cases created : ∃ data, transition = .createFile id data
  · exact .inr (.inr created)
  rcases leads.data_eq_or_writesBack consistent (fun contents isSet => set ⟨contents, isSet⟩)
    (fun data isCreated => created ⟨data, isCreated⟩) with same | ⟨key, number, ends, writes⟩
  · exact absurd (congrArg (·.getD position 0) same) changed
  · obtain ⟨bears, dirty⟩ := writes.bears changed
    exact .inl ⟨key, number, ends, bears, dirty⟩

/-- A page that stays resident has the bytes of its file that it had. -/
theorem Leads.bears_of_stays (leads : transition.Leads machine next) (consistent : machine.Consistent)
    (resident : (next.frame? key number).isSome) (becomes : ¬ transition.MakesResident key number)
    (bears : next.Bears key number id position) : machine.Bears key number id position := by
  obtain ⟨page, backing, found, uses, ours, covers⟩ := bears
  have stays := (leads.stays consistent resident becomes).1
  have altered := leads.alters consistent key number
  rw [found] at altered
  generalize known : machine.page? key number = before at altered
  cases altered with
  | same => exact ⟨page, backing, known, uses, ours, covers⟩
  | changed same => exact ⟨_, backing, known, same ▸ uses, ours, covers⟩
  | registered =>
    rw [stays, frame?, known] at resident
    cases resident

end Transition

end DemandPaging

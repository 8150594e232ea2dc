import DemandPaging.Proofs.Causes
import DemandPaging.Proofs.FileBytes

/-!
# Spaces that leave a file alone

After a fork both spaces keep frames of their own over the same files, and each writes its pages back on
its own. A space changes a byte of a file only through a page that counts as written to. So if nothing is
unsaved when the fork begins and the new space is not written to, nothing that becomes of the new space
changes a byte of the file. A page that is copied unsaved counts as written to in both spaces, and the
copy that nobody wrote to is written back over what the other space has saved meanwhile.
-/

namespace DemandPaging

variable {config : Config}

/-- No page of a space that has the byte of a file counts as written to. -/
def Machine.KeepsClean (machine : Machine config) (key : SpaceKey) (id : FileId) (position : Nat) :
    Prop :=
  ∀ number, machine.Bears key number id position → (machine.space key).isDirty number = false

/-- A space whose page table has no dirty entry is clean. -/
theorem Machine.keepsClean_of_entries {machine : Machine config} {key : SpaceKey} {id : FileId}
    {position : Nat}
    (clean : ∀ entry ∈ (machine.space key).pageTable.values, entry.flags.dirty = false) :
    machine.KeepsClean key id position := by
  intro number _
  rw [isDirty_eq]
  split
  · next entry mapped => exact clean entry (OrderedMap.mem_values_iff.mpr ⟨number, mapped⟩)
  · rfl

/-- A page of a space that has the byte of a file is made to count as written to. -/
def Move.Soils (move : Move config) (key : SpaceKey) (id : FileId) (position : Nat) : Prop :=
  ∃ number, move.before.Bears key number id position ∧ move.Writes key number

namespace Transition

open Machine

variable {transition : Transition config} {machine next : Machine config} {key : SpaceKey}
  {id : FileId} {position : Nat}

/-- The copy of a page has the bytes of a file that its model has. -/
theorem Leads.bears_of_copy {child parent : SpaceKey} {number : PageNumber} {frame : FrameNumber}
    (leads : (Transition.copy child parent number frame).Leads machine next)
    (bears : machine.Bears child number id position) : machine.Bears parent number id position := by
  obtain ⟨page, backing, found, uses, ours, covers⟩ := bears
  cases leads with
  | @copy _ _ _ original _ _ _ model copy =>
    cases copy.symm.trans found
    exact ⟨original, backing, model, original.backing?_forked.symm.trans uses, ours, covers⟩

/-- Pages that have the byte stay clean as long as none of them is made to count as written to. -/
theorem Leads.keepsClean (leads : transition.Leads machine next) (consistent : machine.Consistent)
    (clean : machine.KeepsClean key id position)
    (unsoiled : ¬ Move.Soils ⟨machine, transition⟩ key id position) :
    next.KeepsClean key id position := by
  intro number bears
  by_contra dirty
  rw [Bool.not_eq_false] at dirty
  by_cases becomes : transition.MakesResident key number
  · rcases becomes with ⟨frame, rfl⟩ | ⟨parent, frame, rfl⟩
    · cases leads with
      | load found =>
        rw [isDirty_eq, mapped?_settleLoaded (isSome_of_page? found), amend_self] at dirty
        cases dirty
    · apply unsoiled
      cases leads with
      | @copy _ _ _ page _ bytes isDirty model found _ provides =>
        have copied : ((machine.settleCopy key page.forked frame bytes isDirty).space key).isDirty
            page.number = isDirty := isDirty_settleCopy (isSome_of_page? found)
        obtain ⟨later, backing, known, uses, ours, covers⟩ := bears
        have settled : (machine.settleCopy key page.forked frame bytes isDirty).page? key
            page.forked.number = some { page.forked with frame := some frame } := by
          rw [page?_settleCopy (isSome_of_page? found), amend_self]
        cases settled.symm.trans known
        refine ⟨page.number, ⟨page.forked, backing, found, uses, ours, covers⟩, .inr ⟨parent, frame,
          rfl, ?_⟩⟩
        exact (provides.isDirty_eq consistent.fits model).trans (copied.symm.trans dirty)
  · have resident : (next.frame? key number).isSome := by
      obtain ⟨page, _, found, _⟩ := bears
      rw [Option.isSome_iff_ne_none, frame?_of_found found]
      intro absent
      rw [isDirty_eq, (leads.consistent consistent).fits.entry_of_absent found absent] at dirty
      cases dirty
    have before := leads.bears_of_stays consistent resident becomes bears
    rcases (leads.stays consistent resident becomes).2.mp dirty with wasDirty | stores
    · exact Bool.noConfusion (wasDirty.symm.trans (clean number before))
    · exact unsoiled ⟨number, before, .inl stores⟩

end Transition

/-! ## Along a way -/

/-- What becomes of a space on a way does nothing to the byte of a file. -/
structure Trail.SparesByte (space : SpaceKey) (id : FileId) (position : Nat) (start : Machine config)
    (moves : List (Move config)) (machine : Machine config) : Prop where
  /-- The byte is never written back from a page of the space. -/
  unsaved : ∀ move ∈ moves, ∀ number, ¬ move.SavesByte space number id position
  /-- As long as no other space writes the byte back and no outsider replaces it, it stays. -/
  kept : ∀ {earlier during later : List (Move config)}, moves = earlier ++ (during ++ later) →
    (∀ move ∈ during, ¬ move.ReplacesByte id position ∧
      ∀ key number, key ≠ space → ¬ move.SavesByte key number id position) →
    ∃ first last, Trail start earlier first ∧ Trail first during last ∧ Trail last later machine ∧
      last.environment.fileByte id position = first.environment.fileByte id position

namespace Trail

variable {start machine : Machine config} {moves : List (Move config)} {key : SpaceKey} {id : FileId}
  {position : Nat}

/-- On a way that does not soil the byte of a file in a space, none of its pages with the byte comes
to count as written to. -/
theorem keepsClean (trail : Trail start moves machine) (consistent : start.Consistent)
    (clean : start.KeepsClean key id position)
    (unsoiled : ∀ move ∈ moves, ¬ move.Soils key id position) :
    machine.KeepsClean key id position ∧ ∀ move ∈ moves, move.before.KeepsClean key id position :=
  trail.preserves_of_consistent consistent clean fun move _ listed before stillClean leads =>
    leads.keepsClean before stillClean (unsoiled move listed)

/-- A byte that nobody writes back and no outsider replaces stays what it is. -/
theorem fileByte_eq (trail : Trail start moves machine) (consistent : start.Consistent)
    (unreplaced : ∀ move ∈ moves, ¬ move.ReplacesByte id position)
    (unsaved : ∀ move ∈ moves, ∀ key number, ¬ move.SavesByte key number id position) :
    machine.environment.fileByte id position = start.environment.fileByte id position := by
  induction trail with
  | refl => rfl
  | step prior leads inductionHypothesis =>
    have earlier := inductionHypothesis
      (fun move listed => unreplaced move (List.mem_append_left _ listed))
      (fun move listed => unsaved move (List.mem_append_left _ listed))
    by_contra changed
    rw [← earlier] at changed
    have last : ∀ {all : List (Move config)} {move : Move config}, move ∈ all ++ [move] :=
      List.mem_append_right _ List.mem_cons_self
    rcases leads.saves_or_replaces (prior.consistent consistent).1 changed with ⟨_, _, saves⟩ | replaces
    · exact unsaved _ last _ _ saves
    · exact unreplaced _ last replaces

/-- A space whose pages with the byte are clean and stay so does nothing to the byte. -/
theorem sparesByte (trail : Trail start moves machine) (consistent : start.Consistent)
    (clean : start.KeepsClean key id position)
    (unsoiled : ∀ move ∈ moves, ¬ move.Soils key id position) :
    Trail.SparesByte key id position start moves machine := by
  have unsaved : ∀ move ∈ moves, ∀ number, ¬ move.SavesByte key number id position := by
    intro move listed number saves
    have stillClean := (trail.keepsClean consistent clean unsoiled).2 move listed number saves.bears
    exact Bool.noConfusion (saves.dirty.symm.trans stillClean)
  refine ⟨unsaved, ?_⟩
  rintro earlier during later rfl others
  obtain ⟨first, toFirst, rest⟩ := trail.cut
  obtain ⟨last, toLast, toEnd⟩ := rest.cut
  refine ⟨first, last, toFirst, toLast, toEnd, ?_⟩
  apply toLast.fileByte_eq (toFirst.consistent consistent).1 fun move listed => (others move listed).1
  intro move listed other number saves
  by_cases own : other = key
  · subst own
    exact unsaved move (List.mem_append_right _ (List.mem_append_left _ listed)) number saves
  · exact (others move listed).2 other number own saves

end Trail

/-! ## Forks -/

/-- An operation that may make pages of a space count as written to. -/
def Operation.MayWriteTo (key : SpaceKey) : Operation config → Prop
  | .request space (.write _ _) => space = key
  | .fork _ | .copy _ _ => True
  | _ => False

/-- A page comes to count as written to only by an operation that may write to its space. -/
theorem Transition.IsDueTo.mayWriteTo {operation : Operation config} {move : Move config}
    {key : SpaceKey} {number : PageNumber} (due : move.transition.IsDueTo operation move.before)
    (writes : move.Writes key number) : operation.MayWriteTo key := by
  rcases writes with ⟨_, _, stores⟩ | ⟨_, _, copies, _⟩
  · rw [stores] at due
    obtain ⟨_, _, rfl⟩ := due
    exact rfl
  · rw [copies] at due
    rcases due with rfl | rfl
    · exact trivial
    · exact trivial

/-- Where no operation may write to a space, no page of the space is made to count as written to. -/
theorem Chronicle.unsoiled {start machine : Machine config} {episodes : List (Episode config)}
    (chronicle : Chronicle start episodes machine) {key : SpaceKey}
    (idle : ∀ episode ∈ episodes, ¬ episode.operation.MayWriteTo key) {id : FileId}
    {position : Nat} : ∀ move ∈ Episode.allMoves episodes, ¬ move.Soils key id position := by
  rintro move listed ⟨_, _, writes⟩
  obtain ⟨episode, known, member⟩ := List.mem_flatMap.mp listed
  exact idle episode known ((chronicle.isDueTo episode known move member).mayWriteTo writes)

/-- A fork of a space whose pages with the byte are clean makes no page with the byte count as written
to. -/
theorem Episode.Leads.unsoiled_of_fork {forking : Episode config} {next : Machine config}
    (leads : forking.Leads next) (consistent : forking.start.Consistent) {parent key : SpaceKey}
    (forks : forking.operation = .fork parent) {id : FileId} {position : Nat}
    (clean : forking.start.KeepsClean parent id position) :
    ∀ move ∈ forking.moves, ¬ move.Soils key id position := by
  have due : ∀ move ∈ forking.moves, move.transition.IsDueTo (.fork parent) move.before :=
    fun move listed => forks ▸ (leads.takes move listed).isDueTo
  -- What is written to is a copy of a page of the parent, and those are clean all the time.
  have fromParent : ∀ {key} {move : Move config} {next : Machine config}, move ∈ forking.moves →
      move.transition.Leads move.before next → move.Soils key id position →
        ¬ move.before.KeepsClean parent id position := by
    rintro key ⟨before, transition⟩ next listed moves ⟨number, bears, writes⟩ clean
    have isDue := due _ listed
    rcases writes with ⟨_, _, rfl⟩ | ⟨other, frame, rfl, dirty⟩
    · obtain ⟨_, _, same⟩ := isDue
      cases same
    · obtain rfl : other = parent := by
        rcases isDue with same | same <;> cases same
        rfl
      exact Bool.noConfusion (dirty.symm.trans (clean number (moves.bears_of_copy bears)))
  have stillClean : next.KeepsClean parent id position ∧
      ∀ move ∈ forking.moves, move.before.KeepsClean parent id position := by
    apply leads.trail.preserves_of_consistent consistent clean
    exact fun move _ listed before stillClean moves =>
      moves.keepsClean before stillClean fun soils => fromParent listed moves soils stillClean
  intro move listed soils
  obtain ⟨earlier, later, parts⟩ := List.append_of_mem listed
  have trail := leads.trail
  rw [parts] at trail
  obtain ⟨_, _, moves, _⟩ := trail.split
  exact fromParent listed moves soils (stillClean.2 move listed)

open Machine in
/-- The space that a fork creates did not exist before. -/
theorem Operation.Yields.fresh_of_fork {machine later : Machine config} {parent child : SpaceKey}
    {root : PhysicalAddress}
    (yields : (Operation.fork parent).Yields machine (.ok (.space child root)) later)
    (atRest : machine.AtRest) (permitted : (Operation.fork parent).IsPermitted machine)
    (number : PageNumber) : machine.page? child number = none := by
  generalize answer : (Except.ok (Answer.space child root) : Except VmError Answer) = result at yields
  cases yields.performs atRest permitted with
  | forked forks =>
    cases answer
    cases forks with
    | done => exact atRest.consistent.known.unissued.vacant _ number
  | refused | unforked => cases answer
  | noFrame => cases answer

/-- If no page of the parent with a byte of a file is unsaved when a fork begins, and none of the child
is written to after that, nothing that becomes of the child changes the byte in the file. -/
theorem Run.fork_spares_files {frames slots : Nat} {log : OperationLog config}
    {machine : Machine config} (run : Run (.boot config frames slots) log machine) :
    (∃ episodes, Chronicle (.boot config frames slots) episodes machine ∧
      episodes.map Episode.entry = log) ∧
    ∀ (earlier : List (Episode config)) (forking : Episode config) (later : List (Episode config))
      (parent child : SpaceKey) (root : PhysicalAddress),
      Chronicle (.boot config frames slots) (earlier ++ forking :: later) machine →
      forking.operation = .fork parent → forking.result = .ok (.space child root) →
      ∀ id position, forking.start.KeepsClean parent id position →
        (∀ move ∈ Episode.allMoves later, ¬ move.Soils child id position) →
        Trail.SparesByte child id position forking.start
          (forking.moves ++ Episode.allMoves later) machine := by
  have bootRest := boot_atRest config frames slots
  refine ⟨run.chronicle bootRest, ?_⟩
  intro earlier forking later parent child root chronicle forks answers id position clean unsoiled
  obtain ⟨before, next, leads, after⟩ := chronicle.split
  have atRest := before.run.atRest_of_start bootRest
  have yields := leads.yields
  have permitted := leads.permitted
  rw [forks] at permitted yields
  rw [answers] at yields
  apply (leads.trail.trans after.trail).sparesByte atRest.consistent
  · rintro number ⟨page, _, found, _⟩
    cases (yields.fresh_of_fork atRest permitted number).symm.trans found
  · intro move listed
    rcases List.mem_append.mp listed with during | behind
    · exact leads.unsoiled_of_fork atRest.consistent forks clean move during
    · exact unsoiled move behind

/-- A program that maps a file in a space and uses the mapping in the given way. -/
def mappingProgram (use : SpaceRequest .small) : List (Operation .small) :=
  let space : SpaceKey := ⟨.main, ⟨1⟩⟩
  [.create .main,
    .createFile #[10, 11, 12, 13],
    .request space (.map ⟨16⟩ 4 true ⟨0⟩ 0),
    .request space use]

/-- How the program goes on after it has forked: it writes to the mapping and removes it. -/
def partingProgram : List (Operation .small) :=
  let space : SpaceKey := ⟨.main, ⟨1⟩⟩
  [.request space (.write ⟨16⟩ #[20]), .request space (.unmap ⟨16⟩)]

instance (key : SpaceKey) (operation : Operation config) :
    Decidable (operation.MayWriteTo key) :=
  match operation with
  | .request space (.write _ _) => inferInstanceAs (Decidable (space = key))
  | .fork _ | .copy _ _ => isTrue trivial
  | .request _ (.allocate _ _ _ _) | .request _ (.claim _) | .request _ (.remove _)
  | .request _ (.fault _) | .request _ (.userFault _) | .request _ (.recordStackPointer _)
  | .request _ (.read _ _) | .request _ (.map _ _ _ _ _) | .request _ (.unmap _)
  | .request _ .tearDown | .create _ | .drop _ | .shutdown _ | .takeFrame | .returnFrame
  | .createFile _ | .closeFile _ | .writeFile _ _ _ | .setFileFaults _ _ | .setSwapFaults _ _ _ =>
    isFalse id

/-- The program reads from the mapping before it forks. What it writes after that is in the file, also
once the new space is dropped. -/
theorem Run.fork_spares_files_read : ∃ log middle root forked more machine earlier forking later,
    performAll (mappingProgram (.read ⟨16⟩ #[0])) (.boot .small 3 8) = some (log, middle) ∧
    (Operation.fork ⟨.main, ⟨1⟩⟩).Yields middle (.ok (.space ⟨.main, ⟨2⟩⟩ root)) forked ∧
    performAll (partingProgram ++ [.drop ⟨.main, ⟨2⟩⟩]) forked = some (more, machine) ∧
    machine.environment.fileByte ⟨0⟩ 0 = 20 ∧
    Chronicle (.boot .small 3 8) (earlier ++ forking :: later) machine ∧
    Trail.SparesByte ⟨.main, ⟨2⟩⟩ ⟨0⟩ 0 middle (forking.moves ++ Episode.allMoves later) machine := by
  let parent : SpaceKey := ⟨.main, ⟨1⟩⟩
  let child : SpaceKey := ⟨.main, ⟨2⟩⟩
  have performed : ((performAll (mappingProgram (.read ⟨16⟩ #[0])) (.boot .small 3 8)).any
      fun reached => (reached.2.space parent).pageTable.values.all (!·.flags.dirty) &&
        (Operation.fork parent).yieldsWith reached.2 fun result forked =>
          result = .ok (.space child ⟨0x2000⟩) &&
          (performAll (partingProgram ++ [.drop child]) forked).any fun last =>
            last.2.environment.fileByte ⟨0⟩ 0 = 20 ∧
              ∀ entry ∈ last.1, ¬ entry.1.MayWriteTo child) = true := by
    decide +kernel
  obtain ⟨⟨log, middle⟩, outcome, facts⟩ := (Option.any_eq_true _ _).mp performed
  obtain ⟨clean, forks⟩ := Bool.and_eq_true_iff.mp facts
  obtain ⟨result, forked, yields, facts⟩ := Operation.exists_of_yieldsWith forks
  obtain ⟨same, parted⟩ := Bool.and_eq_true_iff.mp facts
  obtain rfl : result = .ok (.space child ⟨0x2000⟩) := of_decide_eq_true same
  obtain ⟨⟨more, machine⟩, parts, facts⟩ := (Option.any_eq_true _ _).mp parted
  obtain ⟨kept, idle⟩ := of_decide_eq_true facts
  have run : Run (.boot .small 3 8) log middle := Run.nil.append outcome
  have permitted : (Operation.fork parent).IsPermitted middle := trivial
  have forkedRest := ((yields.performs run.atRest permitted).passes run.atRest).atRest
  obtain ⟨earlier, before, _⟩ := run.chronicle (boot_atRest ..)
  obtain ⟨moves, trail, takes⟩ := ((yields.performs run.atRest permitted).path run.atRest).trail
  obtain ⟨later, after, entries⟩ := (Run.nil.append parts).chronicle forkedRest
  have chronicle := (before.step permitted yields trail takes).append after
  rw [List.append_assoc] at chronicle
  refine ⟨log, middle, _, forked, more, machine, earlier, _, later, outcome, yields, parts, kept,
    chronicle, ?_⟩
  apply (Run.fork_spares_files chronicle.run).2 earlier _ later parent child _ chronicle rfl rfl
  · exact Machine.keepsClean_of_entries fun entry listed => by
      simpa using List.all_eq_true.mp clean entry listed
  · refine after.unsoiled fun episode listed => ?_
    have performed : episode.entry ∈ [] ++ more := entries ▸ List.mem_map_of_mem listed
    exact idle episode.entry performed

/-- The program writes to the mapping before it forks. The new space is not written to. Still its copy
of the page goes back to the file when the space is dropped, and what was written to the mapping after
the fork and saved by its removal is lost. -/
theorem fork_reverts_file : ∃ log middle root forked more machine later,
    performAll (mappingProgram (.write ⟨16⟩ #[19])) (.boot .small 3 8) = some (log, middle) ∧
    (Operation.fork ⟨.main, ⟨1⟩⟩).Yields middle (.ok (.space ⟨.main, ⟨2⟩⟩ root)) forked ∧
    performAll partingProgram forked = some (more, machine) ∧
    machine.environment.fileByte ⟨0⟩ 0 = 20 ∧
    (Operation.drop ⟨.main, ⟨2⟩⟩).Yields machine (.ok .done) later ∧
    later.environment.fileByte ⟨0⟩ 0 = 19 := by
  have performed : ((performAll (mappingProgram (.write ⟨16⟩ #[19])) (.boot .small 3 8)).any
      fun reached => (Operation.fork ⟨.main, ⟨1⟩⟩).yieldsWith reached.2 fun result forked =>
        result = .ok (.space ⟨.main, ⟨2⟩⟩ ⟨0x2000⟩) &&
        (performAll partingProgram forked).any fun last =>
          last.2.environment.fileByte ⟨0⟩ 0 = 20 &&
          (Operation.drop ⟨.main, ⟨2⟩⟩).yieldsWith last.2 fun answer later =>
            answer = .ok .done && later.environment.fileByte ⟨0⟩ 0 = 19) = true := by
    decide +kernel
  obtain ⟨⟨log, middle⟩, outcome, facts⟩ := (Option.any_eq_true _ _).mp performed
  obtain ⟨result, forked, forks, facts⟩ := Operation.exists_of_yieldsWith facts
  obtain ⟨same, parted⟩ := Bool.and_eq_true_iff.mp facts
  obtain rfl : result = .ok (.space ⟨.main, ⟨2⟩⟩ ⟨0x2000⟩) := of_decide_eq_true same
  obtain ⟨⟨more, machine⟩, parts, facts⟩ := (Option.any_eq_true _ _).mp parted
  obtain ⟨saved, dropped⟩ := Bool.and_eq_true_iff.mp facts
  obtain ⟨answer, later, drops, facts⟩ := Operation.exists_of_yieldsWith dropped
  obtain ⟨same, reverted⟩ := Bool.and_eq_true_iff.mp facts
  obtain rfl : answer = .ok .done := of_decide_eq_true same
  exact ⟨log, middle, _, forked, more, machine, later, outcome, forks, parts,
    of_decide_eq_true saved, drops, of_decide_eq_true reverted⟩

end DemandPaging

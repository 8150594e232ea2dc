import DemandPaging.Proofs.Coverage
import DemandPaging.Proofs.WriteBack.Delivery
import DemandPaging.Proofs.WriteBack.Reports

/-!
# What exactly removing a mapping takes away

A mapping that is removed takes with it its record and the pages that still belong to it, with their
mappings and their frames, and nothing else. What those pages owe to their files is written in ascending
order of the pages. A write that fails ends nothing: the other pages are removed as well, and the last
error is reported.
-/

namespace DemandPaging

variable {config : Config}

/-! ## Frames that leave a queue -/

namespace FrameTable

/-- A table that has lost some frames. -/
def dropFrames (table : FrameTable) (frames : List FrameNumber) : FrameTable :=
  { table with queue := table.queue.filter fun entry => decide (entry.frame ∉ frames) }

variable {table : FrameTable} {frames further : List FrameNumber} {frame : FrameNumber}

@[simp] theorem dropFrames_nil : table.dropFrames [] = table := by
  simp [dropFrames]

/-- Frames may be dropped from a queue in parts. -/
theorem dropFrames_dropFrames :
    (table.dropFrames frames).dropFrames further = table.dropFrames (frames ++ further) := by
  simp only [dropFrames, List.filter_filter, List.mem_append, not_or, Bool.decide_and]
  congr 1
  exact congrArg (fun keep => table.queue.filter keep) (funext fun _ => Bool.and_comm _ _)

/-- A frame occurs in the queue once at most, so removing it once removes it. -/
theorem remove_eq (nodup : table.frames.Nodup) : table.remove frame = table.dropFrames [frame] := by
  have queues : ∀ queue : List FrameEntry, (queue.map FrameEntry.frame).Nodup →
      queue.eraseP (fun entry => entry.frame == frame) =
        queue.filter fun entry => decide (entry.frame ∉ [frame]) := by
    intro queue nodup
    induction queue with
    | nil => rfl
    | cons entry rest inductionHypothesis =>
      obtain ⟨fresh, nodup⟩ := List.nodup_cons.mp nodup
      by_cases here : entry.frame = frame
      · rw [List.eraseP_cons_of_pos (by simpa using here), List.filter_cons_of_neg (by simpa using here),
          eq_comm, List.filter_eq_self]
        intro other listed
        have apart : other.frame ≠ frame := fun same =>
          fresh (here.trans same.symm ▸ List.mem_map_of_mem listed)
        simpa using apart
      · rw [List.eraseP_cons_of_neg (by simpa using here), List.filter_cons_of_pos (by simpa using here),
          inductionHypothesis nodup]
  rw [remove, dropFrames, queues _ nodup]

end FrameTable

/-! ## Pages that are destroyed -/

namespace Machine

variable {machine middle later : Machine config} {key : SpaceKey} {gone further : List PageNumber}
  {number : PageNumber}

/-- The frames of those pages of a list that are resident. -/
def framesOf (machine : Machine config) (key : SpaceKey) (numbers : List PageNumber) :
    List FrameNumber :=
  numbers.filterMap (machine.frame? key)

/-- A space has lost some of its pages, with their mappings, and their frames are free. Nothing else
about spaces and frames has changed. -/
structure Destroys (key : SpaceKey) (gone : List PageNumber) (machine later : Machine config) :
    Prop where
  page?_eq : later.page? = fun probe other =>
    if probe = key ∧ other ∈ gone then none else machine.page? probe other
  mapped?_eq : later.mapped? = fun probe other =>
    if probe = key ∧ other ∈ gone then none else machine.mapped? probe other
  outline : later.space key =
    { machine.space key with
        pages := (later.space key).pages, pageTable := (later.space key).pageTable }
  known : (later.spaces.get? key).isSome = (machine.spaces.get? key).isSome
  others : ∀ probe, probe ≠ key → later.spaces.get? probe = machine.spaces.get? probe
  memory : later.memory = machine.memory
  pool : later.pool =
    { machine.pool with free := machine.pool.free ++ machine.framesOf key gone }
  table : ∀ subsystem, later.table subsystem =
    if subsystem = key.subsystem then
      (machine.table subsystem).dropFrames (machine.framesOf key gone)
    else machine.table subsystem
  pageTables : later.pageTables = machine.pageTables

namespace Destroys

/-- Destroying no page changes nothing. -/
theorem nil (machine : Machine config) (key : SpaceKey) : Destroys key [] machine machine where
  page?_eq := by simp
  mapped?_eq := by simp
  outline := rfl
  known := rfl
  others _ _ := rfl
  memory := rfl
  pool := by simp [framesOf]
  table subsystem := by simp [framesOf]
  pageTables := rfl

/-- Reports do not count as changes of spaces and frames. -/
theorem record (destroys : Destroys key gone machine later) (event : Event) :
    Destroys key gone machine (later.record event) :=
  { destroys with }

/-- Pages that are still there hold what they held. -/
theorem framesOf_eq (destroys : Destroys key gone machine later)
    (kept : ∀ number ∈ further, number ∉ gone) :
    later.framesOf key further = machine.framesOf key further := by
  refine List.filterMap_congr fun number listed => ?_
  rw [frame?, frame?, destroys.page?_eq]
  simp only [kept number listed, and_false, if_false]

/-- Pages may be destroyed in parts, if no page is named twice. -/
theorem trans (first : Destroys key gone machine middle) (second : Destroys key further middle later)
    (apart : ∀ number ∈ further, number ∉ gone) : Destroys key (gone ++ further) machine later where
  page?_eq := by
    rw [second.page?_eq, first.page?_eq]
    funext probe other
    by_cases here : probe = key <;> by_cases before : other ∈ gone <;>
      by_cases after : other ∈ further <;> simp [here, before, after]
  mapped?_eq := by
    rw [second.mapped?_eq, first.mapped?_eq]
    funext probe other
    by_cases here : probe = key <;> by_cases before : other ∈ gone <;>
      by_cases after : other ∈ further <;> simp [here, before, after]
  outline := by rw [second.outline, first.outline]
  known := second.known.trans first.known
  others probe elsewhere := (second.others probe elsewhere).trans (first.others probe elsewhere)
  memory := second.memory.trans first.memory
  pool := by
    rw [second.pool, first.framesOf_eq apart, first.pool]
    simp [framesOf]
  table subsystem := by
    rw [second.table, first.table, first.framesOf_eq apart]
    split
    · rw [FrameTable.dropFrames_dropFrames, framesOf, framesOf, framesOf, List.filterMap_append]
    · rfl
  pageTables := second.pageTables.trans first.pageTables

/-- A page that is still there owes what it owed. -/
theorem owed_eq (destroys : Destroys key gone machine later) (kept : number ∉ gone) :
    later.owed key number = machine.owed key number := by
  have mappings : later.mapped? key number = machine.mapped? key number := by
    rw [destroys.mapped?_eq]
    simp [kept]
  rw [owed, owed, destroys.page?_eq, frameBytes_congr destroys.memory, isDirty_congr mappings]
  simp [kept]

end Destroys

end Machine

namespace Transition

open Machine

variable {machine later : Machine config} {key : SpaceKey} {number : PageNumber}

/-- A page that ends is destroyed. -/
theorem Leads.destroys (leads : (Transition.discard key number).Leads machine later)
    (consistent : machine.Consistent) : Destroys key [number] machine later := by
  have pages := leads.page?_of_discard
  have page?_eq : later.page? = fun probe other =>
      if probe = key ∧ other ∈ [number] then none else machine.page? probe other := by
    rw [pages]
    funext probe other
    rw [amend]
    simp only [List.mem_singleton]
  cases leads with
  | @discard _ _ page environment found absent ended =>
    have spaceExists := isSome_of_page? found
    have holds : machine.framesOf key [page.number] = [] := by
      simp [framesOf, frame?_of_found found, absent]
    refine ⟨page?_eq, ?_, ?_, isSome_updateSpace key, ?_, rfl, ?_, ?_, rfl⟩
    · rw [mapped?_endAbsent]
      funext probe other
      by_cases here : probe = key ∧ other ∈ [page.number]
      · rw [if_pos here, here.1, List.mem_singleton.mp here.2]
        exact consistent.fits.entry_of_absent found absent
      · rw [if_neg here]
    · have shrunk : (machine.endAbsent key page.number environment).space key =
          (machine.space key).dropPage page.number :=
        (space_updateSpace spaceExists key).trans (if_pos rfl)
      rw [shrunk]
      rfl
    · intro probe elsewhere
      exact (OrderedMap.get?_modify_eq ..).trans (if_neg elsewhere)
    · rw [holds, List.append_nil]
      rfl
    · intro subsystem
      rw [holds, FrameTable.dropFrames_nil, ite_self]
      rfl
  | @discardResident _ _ page frame result environment found resident ended =>
    have spaceExists := isSome_of_page? found
    have holds : machine.framesOf key [page.number] = [frame] := by
      simp [framesOf, frame?_of_found found, resident]
    have spaces : (machine.endResident key page.number frame environment).spaces =
        ((machine.updateSpace key (·.dropPage page.number)).updateSpace key
          (·.unmapPage page.number)).spaces := by
      rw [endResident, spaces_release]
    refine ⟨page?_eq, ?_, ?_, ?_, ?_, ?_, ?_, ?_, ?_⟩
    · rw [mapped?_endResident spaceExists]
      funext probe other
      rw [amend]
      simp only [List.mem_singleton]
    · rw [space_congr spaces, space_updateSpace ((isSome_updateSpace key).trans spaceExists), if_pos rfl,
        space_updateSpace spaceExists, if_pos rfl]
      rfl
    · rw [spaces]
      exact (isSome_updateSpace key).trans (isSome_updateSpace key)
    · intro probe elsewhere
      rw [spaces]
      exact ((OrderedMap.get?_modify_eq ..).trans (if_neg elsewhere)).trans
        ((OrderedMap.get?_modify_eq ..).trans (if_neg elsewhere))
    · exact memory_updateTable ..
    · rw [holds]
      show ((Machine.updateTable _ _ _).pool.giveBack frame) = _
      rw [pool_updateTable]
      rfl
    · intro subsystem
      rw [holds, table_endResident, FrameTable.remove_eq (nodup_table consistent.nodup subsystem)]
    · show (Machine.updateTable _ _ _).pageTables = _
      unfold Machine.updateTable
      cases key.subsystem <;> rfl

/-- A page that ends leaves to the environment what it owes, and its slot. -/
theorem Leads.settles (leads : (Transition.discard key number).Leads machine later)
    (consistent : machine.Consistent) :
    Environment.Delivers (machine.owed key number)
      (machine.environment.freed (machine.slot? key number).toList) later.environment := by
  cases leads with
  | discard found absent ended =>
    rw [owed_of_absent found absent, slot?_of_found found, ← PageKind.discard_absent ended]
    exact .nil _
  | discardResident found resident ended =>
    have isLoaded := consistent.fits.isLoaded found resident
    rw [environment_endResident, owed_of_resident found resident, slot?_of_found found,
      isLoaded.slot?_eq]
    rcases Action.attempt_eq_done_iff.mp ended with ⟨_, _, done⟩ | ⟨_, _, failed⟩
    · exact ((PageKind.discard_resident_delivers isLoaded _ _ _).of_done done).1
    · exact ((PageKind.discard_resident_delivers isLoaded _ _ _).of_failed failed).1

end Transition

namespace Machine

/-- Pages of a space have come to their ends: they are gone, what they owed was attempted, and the slots
that they held are free. -/
structure Finishes (key : SpaceKey) (gone : List PageNumber) (machine later : Machine config) :
    Prop where
  destroys : Destroys key gone machine later
  delivers : Environment.Delivers (gone.flatMap (machine.owed key))
    (machine.environment.freed (gone.filterMap (machine.slot? key))) later.environment
  terms : machine.environment.SameTerms later.environment

namespace Finishes

variable {machine middle later : Machine config} {key : SpaceKey} {number : PageNumber}
  {gone further : List PageNumber}

/-- Where no page ends nothing has happened. -/
theorem nil (machine : Machine config) (key : SpaceKey) : Finishes key [] machine machine where
  destroys := .nil machine key
  delivers := .nil machine.environment
  terms _ := rfl

/-- A page ends when it is discarded, whether its content was lost or not. -/
theorem of_discard (leads : (Transition.discard key number).Leads machine later)
    (consistent : machine.Consistent) : Finishes key [number] machine later where
  destroys := leads.destroys consistent
  delivers := by
    have settles := leads.settles consistent
    cases slot : machine.slot? key number <;> simpa [slot] using settles
  terms := (leads.serves consistent.fits consistent.slots trivial).sameTerms

/-- A loss that is reported afterwards changes nothing else. -/
theorem record (finishes : Finishes key gone machine later) {event : Event}
    (unasked : event.isRequest = false) : Finishes key gone machine (later.record event) where
  destroys := finishes.destroys.record event
  delivers := finishes.delivers.record unasked
  terms := finishes.terms

/-- Pages that are still there hold the slots that they held. -/
theorem slot?_eq (finishes : Finishes key gone machine later) (kept : number ∉ gone) :
    later.slot? key number = machine.slot? key number := by
  rw [slot?, slot?, finishes.destroys.page?_eq]
  simp only [kept, and_false, if_false]

/-- Pages may end in parts, if no page is named twice. -/
theorem trans (first : Finishes key gone machine middle) (second : Finishes key further middle later)
    (apart : ∀ number ∈ further, number ∉ gone) : Finishes key (gone ++ further) machine later where
  destroys := first.destroys.trans second.destroys apart
  delivers := by
    have owes : further.flatMap (middle.owed key) = further.flatMap (machine.owed key) :=
      List.flatMap_congr fun number listed => first.destroys.owed_eq (apart number listed)
    have slots : further.filterMap (middle.slot? key) = further.filterMap (machine.slot? key) :=
      List.filterMap_congr fun number listed => first.slot?_eq (apart number listed)
    rw [List.flatMap_append, List.filterMap_append, ← Environment.freed_freed]
    exact (first.delivers.freed _).trans (owes ▸ slots ▸ second.delivers)
  terms := first.terms.trans second.terms

/-- The turns of pages go on as they would have gone on before. -/
theorem turns_eq (finishes : Finishes key gone machine later)
    (kept : ∀ number ∈ further, number ∉ gone) :
    machine.turns key (gone ++ further) = machine.turns key gone ++ later.turns key further := by
  have moment : later.environment.moment =
      machine.environment.moment + (gone.flatMap (machine.owed key)).length :=
    finishes.delivers.moment
  have next : later.environment.moment + 1 =
      machine.environment.moment + 1 + (gone.flatMap (machine.owed key)).length := by omega
  rw [turns, turns, turns, turnsFrom_append, next,
    turnsFrom_congr fun number listed => finishes.destroys.owed_eq (kept number listed)]

/-- Pages that are still there are lost as they would have been before. -/
theorem loss?_eq (finishes : Finishes key gone machine later) {turn : Turn}
    (kept : turn.page ∉ gone) : later.loss? key turn = machine.loss? key turn := by
  rw [loss?, loss?, finishes.destroys.owed_eq kept, finishes.terms.loss?_eq]

end Finishes

end Machine

/-! ## The pages of a mapping, one after the other -/

namespace Machine

/-- Those pages of a list that belong to a mapping. -/
def ownedAmong (machine : Machine config) (key : SpaceKey) (region : Region)
    (numbers : List PageNumber) : List PageNumber :=
  numbers.filter fun number => (machine.page? key number).any region.owns

/-- What is reported once pages have ended in these turns: the last loss. -/
def report (machine : Machine config) (key : SpaceKey) (turns : List Turn)
    (before : Except VmError Unit) : Except VmError Unit :=
  turns.foldl (fun result turn => ((machine.loss? key turn).map .error).getD result) before

variable {machine middle later : Machine config} {key : SpaceKey} {region : Region}
  {number : PageNumber} {rest : List PageNumber} {before : Except VmError Unit}

/-- A page that belongs to a mapping has no slot. -/
theorem slot?_of_owned (owned : (machine.page? key number).any region.owns = true) :
    machine.slot? key number = none := by
  obtain ⟨page, found, owns⟩ := (Option.any_eq_true _ _).mp owned
  rw [Region.owns, Bool.and_eq_true, Page.uses] at owns
  rw [slot?_of_found found]
  cases kind : page.kind with
  | unloaded | file => rfl
  | anonymous => simp [kind, PageKind.backing?] at owns

/-- A page of someone else is passed over. -/
theorem ownedAmong_of_foreign (foreign : (machine.page? key number).any region.owns = false) :
    machine.ownedAmong key region (number :: rest) = machine.ownedAmong key region rest :=
  List.filter_cons_of_neg (by simp [foreign])

/-- A page of the mapping comes in its place in the list. -/
theorem ownedAmong_of_owned (owned : (machine.page? key number).any region.owns = true) :
    machine.ownedAmong key region (number :: rest) =
      number :: machine.ownedAmong key region rest :=
  List.filter_cons_of_pos owned

/-- Pages that are still there belong to the mapping if they did. -/
theorem Destroys.ownedAmong_eq {gone : List PageNumber} (destroys : Destroys key gone machine later)
    (kept : ∀ number ∈ rest, number ∉ gone) :
    later.ownedAmong key region rest = machine.ownedAmong key region rest := by
  refine List.filter_congr fun number listed => ?_
  rw [destroys.page?_eq]
  simp only [kept number listed, and_false, if_false]

/-- Nothing is reported unless a page was lost. -/
theorem report_eq_ok_iff {turns : List Turn} :
    machine.report key turns before = .ok () ↔
      before = .ok () ∧ ∀ turn ∈ turns, machine.loss? key turn = none := by
  induction turns generalizing before with
  | nil => simp [report]
  | cons turn rest inductionHypothesis =>
    rw [report, List.foldl_cons]
    refine inductionHypothesis.trans ?_
    rw [List.forall_mem_cons, ← and_assoc]
    refine and_congr_left fun _ => ?_
    cases machine.loss? key turn <;> simp

/-- An error that is reported is that of the last page that was lost. -/
theorem report_eq_error_iff {turns : List Turn} {error : VmError} :
    machine.report key turns before = .error error ↔
      (before = .error error ∧ ∀ turn ∈ turns, machine.loss? key turn = none) ∨
        ∃ lower turn higher, turns = lower ++ turn :: higher ∧
          machine.loss? key turn = some error ∧ ∀ other ∈ higher, machine.loss? key other = none := by
  induction turns generalizing before with
  | nil => simp [report]
  | cons first rest inductionHypothesis =>
    rw [report, List.foldl_cons]
    refine inductionHypothesis.trans ?_
    cases lost : machine.loss? key first with
    | none =>
      refine or_congr ?_ ⟨?_, ?_⟩
      · simp [lost]
      · rintro ⟨lower, number, higher, rfl, failed, saved⟩
        exact ⟨first :: lower, number, higher, rfl, failed, saved⟩
      · rintro ⟨_ | ⟨_, lower⟩, number, higher, parts, failed, saved⟩
        · cases parts
          cases lost.symm.trans failed
        · cases parts
          exact ⟨lower, number, higher, rfl, failed, saved⟩
    | some cause =>
      constructor
      · rintro (⟨same, saved⟩ | ⟨lower, number, higher, rfl, failed, saved⟩)
        · cases same
          exact .inr ⟨[], first, rest, rfl, lost, saved⟩
        · exact .inr ⟨first :: lower, number, higher, rfl, failed, saved⟩
      · rintro (⟨-, saved⟩ | ⟨_ | ⟨_, lower⟩, number, higher, parts, failed, saved⟩)
        · cases lost.symm.trans (saved first List.mem_cons_self)
        · cases parts
          cases lost.symm.trans failed
          exact .inl ⟨rfl, saved⟩
        · cases parts
          exact .inr ⟨lower, number, higher, rfl, failed, saved⟩

/-- What has become of a machine in which those pages of a list that belong to a mapping were removed,
and of the report. -/
structure RemovesOwned (key : SpaceKey) (region : Region) (numbers : List PageNumber)
    (before : Except VmError Unit) (machine : Machine config) (answer : Except VmError Unit)
    (later : Machine config) : Prop where
  destroys : Destroys key (machine.ownedAmong key region numbers) machine later
  delivers : Environment.Delivers
    ((machine.ownedAmong key region numbers).flatMap (machine.owed key)) machine.environment
      later.environment
  answers : answer =
    machine.report key (machine.turns key (machine.ownedAmong key region numbers)) before

/-- A page that belongs to the mapping is removed before the rest of the list. -/
theorem RemovesOwned.cons {key : SpaceKey} {region : Region} {number : PageNumber}
    {rest : List PageNumber} {before answer : Except VmError Unit}
    {machine middle later : Machine config}
    (owned : (machine.page? key number).any region.owns = true) (unlisted : number ∉ rest)
    (finishes : Finishes key [number] machine middle)
    (removes : RemovesOwned key region rest (machine.report key (machine.turns key [number]) before)
      middle answer later) :
    RemovesOwned key region (number :: rest) before machine answer later := by
  have apart : ∀ other ∈ rest, other ∉ [number] := by
    intro other listed same
    exact unlisted (List.mem_singleton.mp same ▸ listed)
  have pages : middle.ownedAmong key region rest = machine.ownedAmong key region rest :=
    finishes.destroys.ownedAmong_eq apart
  have apartOwned : ∀ other ∈ machine.ownedAmong key region rest, other ∉ [number] :=
    fun other listed => apart other (List.mem_of_mem_filter listed)
  constructor
  · have rest := removes.destroys
    rw [pages] at rest
    rw [ownedAmong_of_owned owned]
    exact finishes.destroys.trans rest apartOwned
  · rw [ownedAmong_of_owned owned, List.flatMap_cons]
    have owes : (middle.ownedAmong key region rest).flatMap (middle.owed key) =
        (machine.ownedAmong key region rest).flatMap (machine.owed key) := by
      rw [pages]
      exact List.flatMap_congr fun other listed =>
        finishes.destroys.owed_eq (apartOwned other listed)
    have delivers := finishes.delivers
    rw [List.filterMap_cons_none (slot?_of_owned owned), List.filterMap_nil, Environment.freed_nil,
      List.flatMap_singleton] at delivers
    exact delivers.trans (owes ▸ removes.delivers)
  · rw [ownedAmong_of_owned owned, ← List.singleton_append, finishes.turns_eq apartOwned,
      removes.answers, pages, report, report, report, List.foldl_append]
    refine List.foldl_ext _ _ _ fun result turn listed => ?_
    rw [finishes.loss?_eq (apartOwned turn.page (mem_of_turn listed))]

end Machine

namespace KernelAction

open Machine

variable {key : SpaceKey}

/-- The pages of a list that belong to a mapping are removed one after the other, whatever becomes of
their contents. -/
theorem removeOwned_removes {region : Region} (numbers : List PageNumber) (nodup : numbers.Nodup)
    (before : Except VmError Unit) {machine : Machine config} (atRest : machine.AtRest) :
    (removeOwned key region numbers before).Ends machine
      (fun answer later => RemovesOwned key region numbers before machine answer later)
      (fun _ _ => False) := by
  induction numbers generalizing before machine with
  | nil => exact ⟨.nil machine key, .nil _, rfl⟩
  | cons number rest inductionHypothesis =>
    obtain ⟨unlisted, nodupRest⟩ := List.nodup_cons.mp nodup
    -- A page that is missing or does not belong to the mapping is passed over.
    have skips (foreign : (machine.page? key number).any region.owns = false) :
        (removeOwned key region rest before).Ends machine
          (fun answer later => RemovesOwned key region (number :: rest) before machine answer later)
          (fun _ _ => False) := by
      refine (inductionHypothesis nodupRest before atRest).mono ?_ (fun _ _ => id)
      rintro answer later ⟨destroys, delivers, answers⟩
      rw [← ownedAmong_of_foreign foreign] at destroys delivers answers
      exact ⟨destroys, delivers, answers⟩
    unfold removeOwned
    simp only [Action.ends_bind, ends_space]
    cases known : (machine.space key).pages.get? number with
    | none => exact skips (congrArg (Option.any region.owns) known)
    | some page =>
      have found : machine.page? key number = some page := known
      by_cases owned : region.owns page = true
      · have belongs := (congrArg (Option.any region.owns) found).trans owned
        simp only [if_pos owned, Action.ends_bind, Action.ends_attempt]
        cases atRest.consistent.fits.number_eq found
        have answered : machine.report key (machine.turns key [page.number]) before =
            ((machine.loss? key ⟨page.number, machine.environment.moment + 1⟩).map .error).getD
              before := rfl
        refine (removePage_settles atRest.consistent found).mono ?_ ?_
        · rintro _ middle ⟨leads, saved⟩
          refine (inductionHypothesis nodupRest before (leads.atRest atRest)).mono ?_ (fun _ _ => id)
          intro answer later removes
          refine .cons belongs unlisted (.of_discard leads atRest.consistent) ?_
          rwa [answered, saved]
        · rintro error middle ⟨leads, lost⟩
          have reported : (middle.record (.unmapFailed page.number error)).AtRest :=
            (Transition.Leads.note rfl).atRest (leads.atRest atRest)
          have finishes : Finishes key [page.number] machine
              (middle.record (.unmapFailed page.number error)) :=
            (Finishes.of_discard leads atRest.consistent).record rfl
          refine Action.ends_bind.mpr (ends_record.mpr ?_)
          refine (inductionHypothesis nodupRest (.error error) reported).mono ?_ (fun _ _ => id)
          intro answer later removes
          refine .cons belongs unlisted finishes ?_
          rwa [answered, lost]
      · simp only [if_neg owned]
        exact skips ((congrArg (Option.any region.owns) found).trans (Bool.eq_false_iff.mpr owned))

end KernelAction

/-! ## Removing a recorded mapping -/

/-- The pages of a range are listed in ascending order. -/
theorem PageRange.pages_ascending (range : PageRange) :
    range.pages.Pairwise fun lower higher => lower.word.toNat < higher.word.toNat := by
  have bounded : range.stop.word.toNat < Word.modulus := Word.toNat_lt_modulus _
  have ordered := UInt64.le_iff_toNat_le.mp range.ordered
  simp only [pages, firstPages, Nat.min_self, List.pairwise_map, toNat_length]
  refine List.pairwise_lt_range.imp_of_mem fun before after less => ?_
  have inside := List.mem_range.mp after
  rw [PageNumber.toNat_advance (by omega), PageNumber.toNat_advance (by omega)]
  omega

/-- A range names each of its pages once. -/
theorem PageRange.nodup_pages (range : PageRange) : range.pages.Nodup :=
  range.pages_ascending.imp fun less same => absurd (same ▸ less) (Nat.lt_irrefl _)

namespace Machine

/-- The pages that belong to a mapping, in ascending order. -/
def ownedBy (machine : Machine config) (key : SpaceKey) (region : Region) : List PageNumber :=
  machine.ownedAmong key region region.range.pages

variable {machine later : Machine config} {key : SpaceKey} {region : Region} {number : PageNumber}

/-- A page is listed among those of a mapping exactly if it is registered, lies in the range and
uses the handle. -/
theorem mem_ownedBy_iff (fits : machine.Fits) :
    number ∈ machine.ownedBy key region ↔ (machine.page? key number).any region.owns = true :=
  List.mem_filter.trans (and_iff_right_of_imp (mem_pages_of_owns fits))

/-- The pages of a mapping are listed from the lowest to the highest. -/
theorem ownedBy_ascending : (machine.ownedBy key region).Pairwise
    fun lower higher => lower.word.toNat < higher.word.toNat :=
  region.range.pages_ascending.filter _

/-- What is left of a machine in which a mapping was removed, and what was reported. -/
structure UnmapsExactly (key : SpaceKey) (region : Region) (machine : Machine config)
    (result : Except VmError Unit) (later : Machine config) : Prop where
  /-- Exactly the pages of the range that use the handle of the mapping are gone. -/
  page?_eq : later.page? = fun probe other =>
    if probe = key ∧ (machine.page? key other).any region.owns then none
    else machine.page? probe other
  mapped?_eq : later.mapped? = fun probe other =>
    if probe = key ∧ (machine.page? key other).any region.owns then none
    else machine.mapped? probe other
  /-- Of the rest of the space, the record is gone. -/
  outline : later.space key =
    { machine.space key with
        pages := (later.space key).pages, pageTable := (later.space key).pageTable,
        regions := (machine.regions key).erase region.range.start }
  others : ∀ probe, probe ≠ key → later.spaces.get? probe = machine.spaces.get? probe
  memory : later.memory = machine.memory
  /-- The frames of the pages are returned in ascending order of the pages. -/
  pool : later.pool =
    { machine.pool with
        free := machine.pool.free ++ machine.framesOf key (machine.ownedBy key region) }
  table : ∀ subsystem, later.table subsystem =
    if subsystem = key.subsystem then
      (machine.table subsystem).dropFrames (machine.framesOf key (machine.ownedBy key region))
    else machine.table subsystem
  /-- Files receive what the pages owe, in ascending order of the pages. -/
  delivers : Environment.Delivers ((machine.ownedBy key region).flatMap (machine.owed key))
    machine.environment later.environment
  reads_eq : ∀ id, (later.environment.file id).reads = (machine.environment.file id).reads
  saved : result = .ok () ↔
    ∀ turn ∈ machine.turns key (machine.ownedBy key region), machine.loss? key turn = none
  /-- The error of the highest page that was lost is reported. -/
  lost : ∀ error, result = .error error ↔
    ∃ turn ∈ machine.turns key (machine.ownedBy key region), machine.loss? key turn = some error ∧
      ∀ other ∈ machine.turns key (machine.ownedBy key region),
        turn.page.word.toNat < other.page.word.toNat → machine.loss? key other = none

/-- In a list of pages in ascending order, the pages behind one of them are those above it. -/
theorem report_eq_error_iff_highest {numbers : List PageNumber} {error : VmError}
    (ascending : numbers.Pairwise fun lower higher => lower.word.toNat < higher.word.toNat) :
    machine.report key (machine.turns key numbers) (.ok ()) = .error error ↔
      ∃ turn ∈ machine.turns key numbers, machine.loss? key turn = some error ∧
        ∀ other ∈ machine.turns key numbers,
          turn.page.word.toNat < other.page.word.toNat → machine.loss? key other = none := by
  have ascends : (machine.turns key numbers).Pairwise fun lower higher =>
      lower.page.word.toNat < higher.page.word.toNat := by
    have pages : (machine.turns key numbers).map Turn.page = numbers := map_page_turnsFrom
    rw [← pages] at ascending
    exact ascending.of_map Turn.page fun _ _ => id
  generalize machine.turns key numbers = turns at ascends ⊢
  rw [report_eq_error_iff, or_iff_right (by rintro ⟨⟨⟩, -⟩)]
  constructor
  · rintro ⟨lower, turn, higher, rfl, failed, saved⟩
    refine ⟨turn, by simp, failed, fun other listed above => ?_⟩
    obtain ⟨-, -, crosses⟩ := List.pairwise_append.mp ascends
    rcases List.mem_append.mp listed with below | here
    · have less := crosses other below turn List.mem_cons_self
      omega
    · rcases List.mem_cons.mp here with rfl | behind
      · omega
      · exact saved other behind
  · rintro ⟨turn, listed, failed, saved⟩
    obtain ⟨lower, higher, rfl⟩ := List.append_of_mem listed
    refine ⟨lower, turn, higher, rfl, failed, fun other behind => ?_⟩
    obtain ⟨-, upper, -⟩ := List.pairwise_append.mp ascends
    exact saved other (by simp [behind]) (List.rel_of_pairwise_cons upper behind)

section Unrecorded

/-! Erasing a record changes nothing that the removal of the pages depends on. -/

/-- Forgetting a record takes no page away. -/
theorem page?_unrecorded (start : PageNumber) :
    (machine.unrecorded key start).page? = machine.page? :=
  (machine.unrecorded_leads key start).page?_of_set

/-- Forgetting a record changes nothing about what pages owe. -/
theorem owed_unrecorded (consistent : machine.Consistent) (start : PageNumber) :
    (machine.unrecorded key start).owed key = machine.owed key :=
  funext fun _ => (machine.unrecorded_leads key start).owed_eq consistent id

/-- Forgetting a record changes nothing about which pages belong to the mapping. -/
theorem ownedAmong_unrecorded (start : PageNumber) (numbers : List PageNumber) :
    (machine.unrecorded key start).ownedAmong key region numbers =
      machine.ownedAmong key region numbers := by
  rw [ownedAmong, page?_unrecorded, ownedAmong]

/-- Forgetting a record changes nothing about the frames of pages. -/
theorem framesOf_unrecorded (start : PageNumber) :
    (machine.unrecorded key start).framesOf key = machine.framesOf key := by
  funext numbers
  rw [framesOf, framesOf, frame?_congr (page?_unrecorded start)]

/-- Forgetting a record first changes nothing about what will be reported. -/
theorem report_unrecorded (consistent : machine.Consistent) (start : PageNumber)
    (numbers : List PageNumber) (before : Except VmError Unit) :
    (machine.unrecorded key start).report key ((machine.unrecorded key start).turns key numbers)
      before = machine.report key (machine.turns key numbers) before := by
  have owes : (machine.unrecorded key start).owed key = machine.owed key :=
    owed_unrecorded consistent start
  have turns : (machine.unrecorded key start).turns key numbers = machine.turns key numbers :=
    turnsFrom_congr fun number _ => congrFun owes number
  have losses : (machine.unrecorded key start).loss? key = machine.loss? key := by
    funext turn
    rw [loss?, loss?, owes]
    rfl
  rw [turns, report, losses, report]

end Unrecorded

/-- What is reported once the pages of a mapping are gone whose record was erased before. -/
theorem RemovesOwned.answer_eq {start : PageNumber} {result : Except VmError Unit}
    (removes : RemovesOwned key region region.range.pages (.ok ()) (machine.unrecorded key start)
      result later) (consistent : machine.Consistent) :
    result = machine.report key (machine.turns key (machine.ownedBy key region)) (.ok ()) := by
  rw [removes.answers, ownedAmong_unrecorded, report_unrecorded consistent, ownedBy]

/-- Removing the pages of a mapping whose record is gone removes the mapping. -/
theorem RemovesOwned.unmapsExactly {start : PageNumber} {result : Except VmError Unit}
    (consistent : machine.Consistent) (known : (machine.spaces.get? key).isSome)
    (starts : region.range.start = start)
    (removes : RemovesOwned key region region.range.pages (.ok ()) (machine.unrecorded key start)
      result later) : UnmapsExactly key region machine result later := by
  subst starts
  have answers := removes.answer_eq consistent
  obtain ⟨destroys, delivers, -⟩ := removes
  have member {probe : SpaceKey} {other : PageNumber} :
      (probe = key ∧ other ∈ machine.ownedBy key region) ↔
        probe = key ∧ (machine.page? key other).any region.owns = true :=
    and_congr_right fun _ => mem_ownedBy_iff consistent.fits
  have mappings : (machine.unrecorded key region.range.start).mapped? = machine.mapped? :=
    mapped?_updateSpace_of_same fun _ => rfl
  have space : (machine.unrecorded key region.range.start).space key =
      { machine.space key with regions := (machine.regions key).erase region.range.start } :=
    (space_updateSpace known key).trans (if_pos rfl)
  rw [ownedAmong_unrecorded, ← ownedBy] at destroys delivers
  rw [owed_unrecorded consistent] at delivers
  constructor
  · rw [destroys.page?_eq, page?_unrecorded]
    simp only [member]
  · rw [destroys.mapped?_eq, mappings]
    simp only [member]
  · rw [destroys.outline, space]
  · intro probe elsewhere
    exact (destroys.others probe elsewhere).trans
      ((OrderedMap.get?_modify_eq ..).trans (if_neg elsewhere))
  · exact destroys.memory
  · rw [destroys.pool, framesOf_unrecorded]
    rfl
  · intro subsystem
    rw [destroys.table, framesOf_unrecorded]
    rfl
  · exact delivers
  · exact delivers.reads_eq
  · rw [answers, report_eq_ok_iff, and_iff_right rfl]
  · intro error
    rw [answers]
    exact report_eq_error_iff_highest ownedBy_ascending

end Machine

namespace KernelAction

open Machine

/-- The record of a mapping is erased first, and then the pages go that belong to it. -/
theorem unmapFile_removesOwned {machine : Machine config} {key : SpaceKey} {address : VirtualAddress}
    {region : Region} (atRest : machine.AtRest) (aligned : address.isPageAligned config = true)
    (recorded : (machine.regions key).get? (address.page config) = some region) :
    ∃ result later, unmapFile key address machine = Action.ofExcept result later ∧
      RemovesOwned key region region.range.pages (.ok ())
        (machine.unrecorded key (address.page config)) result later := by
  have erasedRest := (machine.unrecorded_leads key (address.page config)).atRest atRest
  have removed := (removeOwned_removes region.range.pages region.range.nodup_pages (.ok ())
    erasedRest).completes (makesNoRoom_removeOwned key region _ _)
  obtain ⟨result, later, done, removes⟩ := removed
  refine ⟨result, later, ?_, removes⟩
  have found : (machine.space key).regions.get? (address.page config) = some region := recorded
  unfold unmapFile
  simp only [aligned, Action.require, if_true, Action.bind_apply, Action.value_apply, space,
    Action.view_apply, found, Action.orFail, updateSpace, Action.change_apply]
  have same : machine.updateSpace key (fun space =>
      { space with regions := space.regions.erase (address.page config) }) =
        machine.unrecorded key (address.page config) := rfl
  rw [same, done]

/-- A recorded mapping is removed, whatever becomes of the contents of its pages. -/
theorem unmapFile_removes {machine : Machine config} {key : SpaceKey} {address : VirtualAddress}
    {region : Region} (atRest : machine.AtRest) (aligned : address.isPageAligned config = true)
    (recorded : (machine.regions key).get? (address.page config) = some region)
    (starts : region.range.start = address.page config) :
    ∃ result later, unmapFile key address machine = Action.ofExcept result later ∧
      UnmapsExactly key region machine result later := by
  have known : (machine.spaces.get? key).isSome := by
    by_contra unknown
    have empty : machine.regions key = .empty :=
      regions_of_unknown (by simpa [registration] using unknown)
    rw [empty] at recorded
    cases recorded
  obtain ⟨result, later, done, removes⟩ := unmapFile_removesOwned atRest aligned recorded
  exact ⟨result, later, done, removes.unmapsExactly atRest.consistent known starts⟩

end KernelAction

/-- In every reachable machine, the removal of a mapping is refused and changes nothing where none is
recorded; otherwise it takes away its record and the pages that belong to it, and nothing else. -/
theorem Run.unmaps_exactly {frames slots : Nat} {log : OperationLog config}
    {machine : Machine config} (run : Run (.boot config frames slots) log machine) (key : SpaceKey)
    (address : VirtualAddress) :
    (¬ (address.isPageAligned config = true ∧
        ((machine.regions key).get? (address.page config)).isSome) →
      KernelAction.unmapFile key address machine = .failed .notMapped machine) ∧
    ∀ region, address.isPageAligned config = true →
      (machine.regions key).get? (address.page config) = some region →
        region.range.start = address.page config ∧
        ∃ result later, KernelAction.unmapFile key address machine = Action.ofExcept result later ∧
          machine.UnmapsExactly key region result later := by
  constructor
  · intro nothing
    refine KernelAction.unmapFile_of_unrecorded fun aligned => ?_
    exact Option.not_isSome_iff_eq_none.mp fun recorded => nothing ⟨aligned, recorded⟩
  · intro region aligned recorded
    have starts := (run.regionsPlaced key _ region recorded).1
    exact ⟨starts, KernelAction.unmapFile_removes run.atRest aligned recorded starts⟩

/-- A file is mapped, both pages of the mapping are written to, and from then on the file takes nothing
beyond its first page. -/
def refusingProgram : List (Operation .small) :=
  let space : SpaceKey := ⟨.main, ⟨1⟩⟩
  [.create .main,
    .createFile #[10, 11, 12, 13, 14, 15, 16, 17],
    .request space (.map ⟨16⟩ 8 true ⟨0⟩ 0),
    .request space (.write ⟨18⟩ #[5, 6, 7]),
    .setFileFaults ⟨0⟩ fun faults => { faults with write := some (-28), failFrom := 4 }]

/-- The second page of a mapping cannot be saved: its error is reported, the first page is in the file,
and both are gone. -/
theorem Run.unmaps_exactly_refusing : ∃ log machine region later,
    performAll refusingProgram (.boot .small 3 8) = some (log, machine) ∧
    KernelAction.unmapFile ⟨.main, ⟨1⟩⟩ ⟨16⟩ machine = .failed (.io (-28)) later ∧
    machine.UnmapsExactly ⟨.main, ⟨1⟩⟩ region (.error (.io (-28))) later ∧
    (machine.page? ⟨.main, ⟨1⟩⟩ ⟨4⟩).isSome ∧ (machine.page? ⟨.main, ⟨1⟩⟩ ⟨5⟩).isSome ∧
    later.page? ⟨.main, ⟨1⟩⟩ ⟨4⟩ = none ∧ later.page? ⟨.main, ⟨1⟩⟩ ⟨5⟩ = none ∧
    (later.environment.file ⟨0⟩).data = #[10, 11, 5, 6, 14, 15, 16, 17] := by
  let key : SpaceKey := ⟨.main, ⟨1⟩⟩
  have performed : ((performAll refusingProgram (.boot .small 3 8)).any fun (_, machine) =>
      ((machine.regions key).get? (VirtualAddress.page ⟨16⟩ .small)).isSome &&
        (machine.page? key ⟨4⟩).isSome && (machine.page? key ⟨5⟩).isSome &&
        match KernelAction.unmapFile key ⟨16⟩ machine with
        | .failed error later => error = .io (-28) && (later.page? key ⟨4⟩).isNone &&
            (later.page? key ⟨5⟩).isNone &&
            (later.environment.file ⟨0⟩).data == #[10, 11, 5, 6, 14, 15, 16, 17]
        | _ => false) = true := by
    decide +kernel
  obtain ⟨⟨log, machine⟩, outcome, facts⟩ := (Option.any_eq_true _ _).mp performed
  simp only [Bool.and_eq_true] at facts
  obtain ⟨⟨⟨recorded, first⟩, second⟩, removed⟩ := facts
  obtain ⟨region, recorded⟩ := Option.isSome_iff_exists.mp recorded
  obtain ⟨-, result, later, unmapped, exactly⟩ :=
    (Run.unmaps_exactly (Run.nil.append outcome) key ⟨16⟩).2 region rfl recorded
  rw [unmapped] at removed
  cases result with
  | ok value => exact absurd removed Bool.false_ne_true
  | error error =>
    have answers : (decide (error = .io (-28)) && (later.page? key ⟨4⟩).isNone &&
        (later.page? key ⟨5⟩).isNone &&
        (later.environment.file ⟨0⟩).data == #[10, 11, 5, 6, 14, 15, 16, 17]) = true := removed
    simp only [Bool.and_eq_true, decide_eq_true_eq, Option.isNone_iff_eq_none, beq_iff_eq] at answers
    obtain ⟨⟨⟨rfl, firstGone⟩, secondGone⟩, data⟩ := answers
    exact ⟨log, machine, region, later, outcome, unmapped, exactly, first, second, firstGone,
      secondGone, data⟩

end DemandPaging

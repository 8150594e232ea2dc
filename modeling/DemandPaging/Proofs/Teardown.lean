import DemandPaging.Proofs.Ownership
import DemandPaging.Proofs.Unmapping

/-!
# What exactly tearing down a space takes away

A space that is torn down loses all its pages, with their mappings, frames and swap slots, and the
records of its mappings; its name, its root and its stack pointer stay. What the pages owe to their files
is written in ascending order of the pages. A write that fails is reported and ends nothing. What is left
is a space like one that has just been created.
-/

namespace DemandPaging

variable {config : Config}

/-! ## Page after page -/

namespace Machine

/-- What has become of a machine in which the pages of a list were removed from a space. -/
structure Clears (key : SpaceKey) (numbers : List PageNumber) (machine later : Machine config) :
    Prop extends Finishes key numbers machine later where
  losses : later.losses =
    machine.losses ++ (machine.turns key numbers).filterMap (machine.lossReport? key)

namespace Clears

variable {machine middle later : Machine config} {key : SpaceKey} {number : PageNumber}
  {gone further : List PageNumber}

/-- Removing no page clears nothing. -/
theorem nil (machine : Machine config) (key : SpaceKey) : Clears key [] machine machine where
  toFinishes := .nil machine key
  losses := (List.append_nil _).symm

/-- Where there is no page nothing has to be removed. -/
theorem of_vacant (consistent : machine.Consistent) (vacant : machine.page? key number = none) :
    Clears key [number] machine machine := by
  have unmapped := consistent.fits.entry_of_vacant vacant
  have owes : machine.owed key number = [] := by simp only [owed, vacant]
  have slotless : machine.slot? key number = none := by simp only [slot?, vacant, Option.bind_none]
  have frameless : machine.framesOf key [number] = [] := by simp [framesOf, frame?, vacant]
  refine ⟨⟨⟨?_, ?_, rfl, rfl, fun _ _ => rfl, rfl, ?_, ?_, rfl⟩, ?_, fun _ => rfl⟩, ?_⟩
  · funext probe other
    split
    · next here => rw [here.1, List.mem_singleton.mp here.2, vacant]
    · rfl
  · funext probe other
    split
    · next here => rw [here.1, List.mem_singleton.mp here.2, unmapped]
    · rfl
  · rw [frameless, List.append_nil]
  · intro subsystem
    rw [frameless, FrameTable.dropFrames_nil, ite_self]
  · simpa [owes, slotless] using Environment.Delivers.nil machine.environment
  · simp [turns, turnsFrom, lossReport?, loss?_of_vacant vacant]

/-- The round in which a page goes whose content is saved, or needs no saving. -/
theorem of_saved (leads : (Transition.discard key number).Leads machine later)
    (consistent : machine.Consistent)
    (saved : machine.loss? key ⟨number, machine.environment.moment + 1⟩ = none) :
    Clears key [number] machine later where
  toFinishes := .of_discard leads consistent
  losses := by simp [turns, turnsFrom, lossReport?, saved, leads.losses_eq]

/-- The round in which a page goes whose content is lost, which is reported. -/
theorem of_lost (leads : (Transition.discard key number).Leads machine later)
    (consistent : machine.Consistent) {error : VmError}
    (lost : machine.loss? key ⟨number, machine.environment.moment + 1⟩ = some error) :
    Clears key [number] machine (later.record (.teardownFailed number error)) where
  toFinishes := (Finishes.of_discard leads consistent).record rfl
  losses := by
    have same : later.environment.losses = machine.losses := leads.losses_eq
    refine Environment.losses_record_teardownFailed.trans ?_
    simp [same, turns, turnsFrom, lossReport?, lost]

/-- The turn of a page that is still to go is not changed by those that went before. -/
theorem lossReport?_eq (clears : Clears key gone machine later) {turn : Turn}
    (kept : turn.page ∉ gone) : later.lossReport? key turn = machine.lossReport? key turn := by
  rw [lossReport?, lossReport?, clears.loss?_eq kept]

/-- Rounds of the loop add up, if no page is named twice. -/
theorem trans (first : Clears key gone machine middle) (second : Clears key further middle later)
    (apart : ∀ number ∈ further, number ∉ gone) : Clears key (gone ++ further) machine later where
  toFinishes := first.toFinishes.trans second.toFinishes apart
  losses := by
    have reports : (middle.turns key further).filterMap (middle.lossReport? key) =
        (middle.turns key further).filterMap (machine.lossReport? key) :=
      List.filterMap_congr fun turn listed => first.lossReport?_eq (apart _ (mem_of_turn listed))
    rw [second.losses, first.losses, reports, first.turns_eq apart, List.filterMap_append,
      List.append_assoc]

end Clears

end Machine

namespace KernelAction

open Machine

variable {machine : Machine config} {key : SpaceKey}

/-- The pages of a list are removed one after the other, whatever becomes of their contents. -/
theorem tearDownPages_clears (numbers : List PageNumber) (nodup : numbers.Nodup)
    {machine : Machine config} (atRest : machine.AtRest) :
    (tearDownPages key numbers).Ends machine (fun _ later => Clears key numbers machine later)
      (fun _ _ => False) := by
  induction numbers generalizing machine with
  | nil => exact .nil machine key
  | cons number rest inductionHypothesis =>
    obtain ⟨unlisted, nodupRest⟩ := List.nodup_cons.mp nodup
    have apart : ∀ other ∈ rest, other ∉ [number] := by
      intro other listed same
      exact unlisted (List.mem_singleton.mp same ▸ listed)
    have continues {middle : Machine config} (middleRest : middle.AtRest)
        (clears : Clears key [number] machine middle) :
        (tearDownPages key rest).Ends middle
          (fun _ later => Clears key (number :: rest) machine later) (fun _ _ => False) :=
      (inductionHypothesis nodupRest middleRest).mono
        (fun _ _ clears' => clears.trans clears' apart) (fun _ _ => id)
    unfold tearDownPages at continues ⊢
    rw [Action.ends_forEach_cons]
    simp only [Action.ends_bind, ends_space]
    cases known : (machine.space key).pages.get? number with
    | none => exact continues atRest (.of_vacant atRest.consistent known)
    | some page =>
      have found : machine.page? key number = some page := known
      simp only [Action.ends_bind, Action.ends_attempt]
      cases atRest.consistent.fits.number_eq found
      refine (removePage_settles atRest.consistent found).mono ?_ ?_
      · rintro _ middle ⟨leads, saved⟩
        exact continues (leads.atRest atRest) (.of_saved leads atRest.consistent saved)
      · rintro error middle ⟨leads, lost⟩
        have reported : (middle.record (.teardownFailed page.number error)).AtRest :=
          (Transition.Leads.note rfl).atRest (leads.atRest atRest)
        exact continues reported (.of_lost leads atRest.consistent lost)

end KernelAction

/-! ## What is left -/

namespace Machine

/-- The machine with a space under the given name. -/
def withSpace (machine : Machine config) (key : SpaceKey) (space : Space config) : Machine config :=
  { machine with spaces := machine.spaces.insert key space }

/-- What is left of a machine in which a space was torn down. -/
structure TearsDown (key : SpaceKey) (space : Space config) (machine later : Machine config) :
    Prop where
  /-- The space has no pages, no mappings and no records left. -/
  emptied : later.spaces.get? key =
    some { Space.fresh space.root with stackPointer := space.stackPointer }
  others : ∀ probe, probe ≠ key → later.spaces.get? probe = machine.spaces.get? probe
  memory : later.memory = machine.memory
  /-- The frames of the pages are returned in ascending order of the pages. -/
  pool : later.pool =
    { machine.pool with free := machine.pool.free ++ machine.framesOf key space.pages.keys }
  table : ∀ subsystem, later.table subsystem =
    if subsystem = key.subsystem then
      (machine.table subsystem).dropFrames (machine.framesOf key space.pages.keys)
    else machine.table subsystem
  /-- The queue has lost the entries of the space, and those only. -/
  assigns : ∀ frame owner, (later.table key.subsystem).Assigns frame owner ↔
    owner.space ≠ key.id ∧ (machine.table key.subsystem).Assigns frame owner
  pageTables : later.pageTables = machine.pageTables
  freed : ∀ number slot, machine.slot? key number = some slot → later.stored? slot = none
  kept : ∀ slot, (∀ number, machine.slot? key number ≠ some slot) →
    later.stored? slot = machine.stored? slot
  contents : ∀ probe, probe ≠ key → ∀ number page, machine.page? probe number = some page →
    later.content page = machine.content page
  ascending : space.pages.keys.Pairwise fun lower higher => lower.word.toNat < higher.word.toNat
  /-- Files receive what the pages owe, in ascending order of the pages, whatever fails. -/
  delivers : Environment.Delivers (space.pages.keys.flatMap (machine.owed key))
    (machine.environment.freed (space.pages.keys.filterMap (machine.slot? key))) later.environment
  reads_eq : ∀ id, (later.environment.file id).reads = (machine.environment.file id).reads
  /-- Exactly the pages that could not be saved are reported, with the errors of their files. -/
  losses : later.losses =
    machine.losses ++ (machine.turns key space.pages.keys).filterMap (machine.lossReport? key)

variable {machine middle : Machine config} {key : SpaceKey} {space : Space config}

/-- A page that the space does not list is not registered. -/
theorem page?_of_unlisted (known : machine.spaces.get? key = some space) {number : PageNumber}
    (unlisted : number ∉ space.pages.keys) : machine.page? key number = none := by
  rw [page?_of_get? known]
  exact OrderedMap.get?_eq_none_iff.mpr unlisted

/-- The slots of a space are those of its pages. -/
theorem mem_slots_iff (known : machine.spaces.get? key = some space) {slot : SwapSlot} :
    slot ∈ space.pages.keys.filterMap (machine.slot? key) ↔
      ∃ number, machine.slot? key number = some slot := by
  rw [List.mem_filterMap]
  refine ⟨fun ⟨number, _, holds⟩ => ⟨number, holds⟩, fun ⟨number, holds⟩ => ?_⟩
  refine ⟨number, ?_, holds⟩
  by_contra unlisted
  rw [slot?, page?_of_unlisted known unlisted] at holds
  cases holds

namespace Clears

/-- A space that has lost the pages that it had has no page. -/
theorem page?_eq_none (clears : Clears key space.pages.keys machine middle)
    (known : machine.spaces.get? key = some space) (number : PageNumber) :
    middle.page? key number = none := by
  rw [clears.destroys.page?_eq]
  by_cases listed : number ∈ space.pages.keys
  · exact if_pos ⟨rfl, listed⟩
  · exact (if_neg fun both => listed both.2).trans (page?_of_unlisted known listed)

/-- Without its pages a space has no mappings either. -/
theorem get?_eq (clears : Clears key space.pages.keys machine middle)
    (consistent : middle.Consistent) (known : machine.spaces.get? key = some space) :
    middle.spaces.get? key = some { space with pages := .empty, pageTable := .empty } := by
  have vacant := clears.page?_eq_none known
  have pages : (middle.space key).pages = .empty := OrderedMap.ext_get? vacant
  have pageTable : (middle.space key).pageTable = .empty :=
    OrderedMap.ext_get? fun number => consistent.fits.entry_of_vacant (vacant number)
  have remains := clears.destroys.known
  rw [known] at remains
  obtain ⟨held, present⟩ := Option.isSome_iff_exists.mp remains
  rw [present, ← space_eq_of_get? present, clears.destroys.outline, pages, pageTable,
    space_eq_of_get? known]

/-- The slots of the space are free, and those only. -/
theorem stored?_eq (clears : Clears key space.pages.keys machine middle) (slot : SwapSlot) :
    middle.stored? slot = if slot ∈ space.pages.keys.filterMap (machine.slot? key) then none
      else machine.stored? slot := by
  rw [stored?, clears.delivers.swap]
  exact SwapDevice.get?_releaseAll ..

/-- The slots of other pages keep what they hold. -/
theorem stored?_of_foreign (clears : Clears key space.pages.keys machine middle)
    (known : machine.spaces.get? key = some space) {slot : SwapSlot}
    (foreign : ∀ number, machine.slot? key number ≠ some slot) :
    middle.stored? slot = machine.stored? slot := by
  rw [clears.stored?_eq, if_neg fun listed => ?_]
  obtain ⟨number, holds⟩ := (mem_slots_iff known).mp listed
  exact foreign number holds

/-- The queue has lost the entries of the space, and those only. -/
theorem assigns_iff (clears : Clears key space.pages.keys machine middle)
    (consistent : machine.Consistent) (consistent' : middle.Consistent)
    (known : machine.spaces.get? key = some space) (frame : FrameNumber) (owner : FrameOwner) :
    (middle.table key.subsystem).Assigns frame owner ↔
      owner.space ≠ key.id ∧ (machine.table key.subsystem).Assigns frame owner := by
  rw [consistent'.tables key.subsystem frame owner, consistent.tables key.subsystem frame owner]
  by_cases here : owner.space = key.id
  · have unheld : middle.frame? key owner.page = none := by
      rw [frame?, clears.page?_eq_none known, Option.bind_none]
    rw [here, unheld]
    exact iff_of_false (Option.some_ne_none frame).symm fun both => both.1 rfl
  · have apart : (⟨key.subsystem, owner.space⟩ : SpaceKey) ≠ key :=
      fun same => here (congrArg SpaceKey.id same)
    have untouched : middle.page? ⟨key.subsystem, owner.space⟩ owner.page =
        machine.page? ⟨key.subsystem, owner.space⟩ owner.page := by
      rw [clears.destroys.page?_eq]
      exact if_neg fun both => apart both.1
    rw [and_iff_right here, frame?, frame?, untouched]

/-- Pages of other spaces keep their contents, in their frames and in their slots. -/
theorem content_eq (clears : Clears key space.pages.keys machine middle)
    (consistent : machine.Consistent) (known : machine.spaces.get? key = some space)
    {probe : SpaceKey} (elsewhere : probe ≠ key) {number : PageNumber} {page : Page config}
    (found : machine.page? probe number = some page) :
    middle.content page = machine.content page := by
  apply content_congr
  · intro frame _
    exact congrFun (frameBytes_congr clears.destroys.memory) frame
  · intro slot holds
    refine clears.stored?_of_foreign known fun other same => elsewhere ?_
    exact (consistent.slots.unique ((slot?_of_found found).trans holds) same).1

/-- Once its pages are gone, only the records are left to be removed. -/
theorem tearsDown (clears : Clears key space.pages.keys machine middle)
    (consistent : machine.Consistent) (consistent' : middle.Consistent)
    (known : machine.spaces.get? key = some space) :
    TearsDown key space machine
      (middle.updateSpace key fun space => { space with regions := .empty }) where
  emptied := by
    have registered := consistent.registered (Option.isSome_iff_exists.mpr ⟨space, known⟩)
    rw [space_eq_of_get? known] at registered
    show (middle.spaces.modify key _).get? key = _
    rw [OrderedMap.get?_modify_eq, if_pos rfl, clears.get?_eq consistent' known, Option.map_some,
      Space.fresh, ← registered]
  others probe elsewhere := ((OrderedMap.get?_modify_eq ..).trans (if_neg elsewhere)).trans
    (clears.destroys.others probe elsewhere)
  memory := clears.destroys.memory
  pool := clears.destroys.pool
  table := clears.destroys.table
  assigns := clears.assigns_iff consistent consistent' known
  pageTables := clears.destroys.pageTables
  freed number slot holds :=
    (clears.stored?_eq slot).trans (if_pos ((mem_slots_iff known).mpr ⟨number, holds⟩))
  kept _ := clears.stored?_of_foreign known
  contents _ elsewhere _ _ := clears.content_eq consistent known elsewhere
  ascending := space.pages.keys_ascending
  delivers := clears.delivers
  reads_eq := clears.delivers.reads_eq
  losses := clears.losses

end Clears

end Machine

namespace KernelAction

open Machine

variable {machine later : Machine config} {key : SpaceKey} {space : Space config}

/-- A space is torn down, whatever becomes of the contents of its pages. -/
theorem tearDown_tearsDown (atRest : machine.AtRest)
    (known : machine.spaces.get? key = some space) :
    ∃ later, tearDown key machine = .done () later ∧ TearsDown key space machine later := by
  have ends : (tearDown key).Ends machine (fun _ later => TearsDown key space machine later)
      (fun _ _ => False) := by
    unfold tearDown
    simp only [Action.ends_bind, ends_space, space_eq_of_get? known]
    refine ((tearDownPages_clears _ space.pages.nodup_keys atRest).and
      (tearDownPages_ends _ atRest)).mono ?_ (fun _ _ => And.left)
    rintro _ middle ⟨clears, passes, -⟩
    exact clears.tearsDown atRest.consistent passes.atRest.consistent known
  obtain ⟨_, later, done, tearsDown⟩ := ends.completes (makesNoRoom_tearDown key)
  exact ⟨later, done, tearsDown⟩

/-- A space that is created is fresh. -/
theorem space_of_createSpace {subsystem : Subsystem}
    (creates : createSpace subsystem machine = .done key later) :
    ∃ root, later.space key = Space.fresh root := by
  obtain ⟨rfl, root, rfl⟩ := (createSpace_ends machine subsystem).of_done creates
  exact ⟨root, (space_addSpace ..).trans (if_pos rfl)⟩

/-- Dropping a space is tearing it down and forgetting it. -/
theorem dropSpace_of_tearDown (tornDown : tearDown key machine = .done () later) :
    dropSpace key machine = .done () { later with spaces := later.spaces.erase key } :=
  Action.bind_of_done tornDown

end KernelAction

/-- A space that was torn down is a fresh one in a machine without it. -/
theorem Machine.TearsDown.eq_withSpace {machine later : Machine config} {key : SpaceKey}
    {space : Space config} (tearsDown : machine.TearsDown key space later) :
    later = { later with spaces := later.spaces.erase key }.withSpace key
      { Space.fresh space.root with stackPointer := space.stackPointer } := by
  have spaces : later.spaces = (later.spaces.erase key).insert key
      { Space.fresh space.root with stackPointer := space.stackPointer } := by
    refine OrderedMap.ext_get? fun probe => ?_
    rw [OrderedMap.get?_insert_eq, OrderedMap.get?_erase_eq]
    by_cases here : probe = key
    · rw [here, if_pos rfl, tearsDown.emptied]
    · rw [if_neg here, if_neg here]
  rw [withSpace, ← spaces]

/-- In every reachable machine the teardown of a space ends, and takes away all that the space holds and
nothing else. From then on the machine shows what it would show if the space had just been created, in the
same place and with the same stack pointer. -/
theorem Run.tears_down_exactly {frames slots : Nat} {log : OperationLog config}
    {machine : Machine config} (run : Run (.boot config frames slots) log machine) {key : SpaceKey}
    {space : Space config} (known : machine.spaces.get? key = some space) :
    ∃ later dropped, KernelAction.tearDown key machine = .done () later ∧
      machine.TearsDown key space later ∧
      KernelAction.dropSpace key machine = .done () dropped ∧
      ∀ (blank created : Machine config),
        KernelAction.createSpace key.subsystem blank = .done key created →
          let renewed := dropped.withSpace key
            { created.space key with root := space.root, stackPointer := space.stackPointer }
          later = renewed ∧ ∀ named steps,
            Session.runSteps ⟨later, named⟩ steps = Session.runSteps ⟨renewed, named⟩ steps := by
  obtain ⟨later, done, tearsDown⟩ := KernelAction.tearDown_tearsDown run.atRest known
  refine ⟨later, _, done, tearsDown, KernelAction.dropSpace_of_tearDown done, ?_⟩
  intro blank created creates renewed
  obtain ⟨root, fresh⟩ := KernelAction.space_of_createSpace creates
  have same : later = renewed := by
    refine tearsDown.eq_withSpace.trans ?_
    simp only [renewed, fresh]
    rfl
  exact ⟨same, fun named steps => by rw [← same]⟩

/-- A space holds a page that was never loaded, a page in swap, a resident page and the three pages of a
mapped file, which were written to. Of the attempts to come the first fails and the second is cut to three
bytes. -/
def abandonedProgram : List (Operation .small) :=
  let space : SpaceKey := ⟨.main, ⟨1⟩⟩
  [.create .main,
    .request space (.allocate .anonymous ⟨4⟩ true none),
    .request space (.allocate .anonymous ⟨8⟩ true none),
    .request space (.allocate .anonymous ⟨40⟩ true none),
    .request space (.write ⟨4⟩ #[1, 2, 3, 4, 5]),
    .createFile #[10, 11, 12, 13, 14, 15, 16, 17, 18, 19, 20, 21],
    .request space (.map ⟨16⟩ 12 true ⟨0⟩ 0),
    .request space (.write ⟨18⟩ #[2, 3, 4, 5, 6, 7, 8]),
    .request space (.recordStackPointer ⟨60⟩),
    .setFileFaults ⟨0⟩ fun faults =>
      { faults with lapses := [(9, { write := some (-28) }), (10, { writeLimit := some 3 })] }]

/-- The first page of the file is lost and the second in part, and both are reported; the third one is
saved. The slot of the page in swap is returned. -/
theorem Run.tears_down_exactly_refusing :
    let key : SpaceKey := ⟨.main, ⟨1⟩⟩
    ∃ log machine space later dropped created,
      performAll abandonedProgram (.boot .small 4 8) = some (log, machine) ∧
      machine.spaces.get? key = some space ∧ (machine.slot? key ⟨1⟩).isSome ∧
      KernelAction.tearDown key machine = .done () later ∧
      machine.TearsDown key space later ∧
      later.losses = [.teardownFailed ⟨4⟩ (.io (-28)), .teardownFailed ⟨5⟩ (.io inputOutputError)] ∧
      (later.environment.file ⟨0⟩).data = #[10, 11, 12, 13, 4, 5, 6, 17, 8, 19, 20, 21] ∧
      KernelAction.dropSpace key machine = .done () dropped ∧
      KernelAction.createSpace .main (.boot .small 4 8) = .done key created ∧
      later = dropped.withSpace key
        { created.space key with root := space.root, stackPointer := some ⟨60⟩ } := by
  intro key
  have performed : ((performAll abandonedProgram (.boot .small 4 8)).any fun outcome =>
      (outcome.2.slot? key ⟨1⟩).isSome &&
        decide ((outcome.2.spaces.get? key).map Space.stackPointer = some (some ⟨60⟩)) &&
        (KernelAction.tearDown key outcome.2).done?.any fun later =>
          decide (later.losses =
            [.teardownFailed ⟨4⟩ (.io (-28)), .teardownFailed ⟨5⟩ (.io inputOutputError)]) &&
          (later.environment.file ⟨0⟩).data == #[10, 11, 12, 13, 4, 5, 6, 17, 8, 19, 20, 21]) = true := by
    decide +kernel
  obtain ⟨⟨log, machine⟩, outcome, facts⟩ := (Option.any_eq_true _ _).mp performed
  simp only [Bool.and_eq_true, decide_eq_true_eq] at facts
  obtain ⟨⟨swapped, pointer⟩, ends⟩ := facts
  obtain ⟨space, known, pointer⟩ := Option.map_eq_some_iff.mp pointer
  obtain ⟨later, dropped, done, tearsDown, drops, renews⟩ :=
    Run.tears_down_exactly (Run.nil.append outcome) known
  simp only [done, Outcome.done?, Option.any_some, Bool.and_eq_true, decide_eq_true_eq,
    beq_iff_eq] at ends
  have renewed := (renews (.boot .small 4 8) _ rfl).1
  rw [pointer] at renewed
  exact ⟨log, machine, space, later, dropped, _, outcome, known, swapped, done, tearsDown, ends.1,
    ends.2, drops, rfl, renewed⟩

end DemandPaging

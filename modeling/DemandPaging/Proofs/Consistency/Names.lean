import DemandPaging.Proofs.TransitionViews
import DemandPaging.Proofs.Consistency.Spaces
import DemandPaging.Proofs.Consistency.Slots

/-!
# Files and initializers keep their names

Files and initializers are named in the order in which they come, nothing that has a name loses it,
and an initializer that a page waits for has one. Initializers are only ever run more often.
-/

namespace DemandPaging

variable {config : Config}

namespace Environment

/-- The same files and initializers have names, and no initializer has been run less often. -/
structure Advances (before after : Environment config) : Prop where
  files : ∀ id, (after.files.get? id).isSome = (before.files.get? id).isSome
  runs : ∀ id, (after.runs.get? id).isSome = (before.runs.get? id).isSome
  counts : ∀ id, before.runsOf id ≤ after.runsOf id

/-- Names are given out in order. -/
structure NamesInOrder (environment : Environment config) : Prop where
  files : ∀ id, (environment.files.get? id).isSome → id.index < environment.files.size
  runs : ∀ id, (environment.runs.get? id).isSome → id.index < environment.runs.size

variable {before after : Environment config}

/-- A file that is changed keeps its name, and so do the others. -/
theorem advances_setFile (environment : Environment config) (id : FileId) (contents : File) :
    environment.Advances (environment.setFile id contents) where
  files probe := by
    unfold setFile
    rw [OrderedMap.get?_modify_eq]
    split
    · exact Option.isSome_map
    · rfl
  runs _ := rfl
  counts _ := Nat.le_refl _

/-- Where the stores are the same, the same files exist. -/
theorem SameStores.isSome_files (same : before.SameStores after) (id : FileId) :
    (after.files.get? id).isSome = (before.files.get? id).isSome := by
  simpa using congrArg Option.isSome (same.files id)

/-- Running an initializer counts its runs up. -/
theorem advances_of_runsAfter {initializer : Option (Initializer config)}
    (same : before.SameStores after) (runs : after.runs = before.runsAfter initializer) :
    before.Advances after where
  files := same.isSome_files
  runs id := by
    rw [runs]
    cases initializer with
    | none => rfl
    | some initializer =>
      rw [runsAfter, OrderedMap.get?_modify_eq]
      split
      · exact Option.isSome_map
      · rfl
  counts id := by
    unfold runsOf
    rw [runs]
    cases initializer with
    | none => exact Nat.le_refl _
    | some initializer =>
      rw [runsAfter, OrderedMap.get?_modify_eq]
      split
      · next here =>
        subst here
        unfold runsOf
        cases before.runs.get? initializer.id with
        | none => exact Nat.le_refl _
        | some count => exact Nat.le_succ _
      · exact Nat.le_refl _

/-- A change of a file's data neither removes a file nor a name. -/
theorem SameBut.advances {id : FileId} (same : before.SameBut id after) :
    before.Advances after where
  files probe := by simpa using congrArg Option.isSome (same.terms probe)
  runs probe := by rw [same.runs]
  counts probe := Nat.le_of_eq (by rw [runsOf, runsOf, same.runs])

/-- A run that an initializer has made is counted, if the initializer has a name. -/
theorem runsOf_after {initializer : Initializer config}
    (runs : after.runs = before.runsAfter (some initializer))
    (named : (before.runs.get? initializer.id).isSome) :
    after.runsOf initializer.id = before.runsOf initializer.id + 1 := by
  obtain ⟨count, present⟩ := Option.isSome_iff_exists.mp named
  rw [Environment.runsOf, runs, runsAfter, OrderedMap.get?_modify_eq, if_pos rfl, present]
  rfl

/-- Names stay in order as long as no new ones are given out. -/
theorem Advances.namesInOrder (advances : before.Advances after) (names : before.NamesInOrder) :
    after.NamesInOrder where
  files id present := by
    rw [OrderedMap.size_congr advances.files]
    exact names.files id (by rwa [← advances.files id])
  runs id present := by
    rw [OrderedMap.size_congr advances.runs]
    exact names.runs id (by rwa [← advances.runs id])

/-- The next file has no name yet. -/
theorem NamesInOrder.fresh_file (names : before.NamesInOrder) :
    before.files.get? ⟨before.files.size⟩ = none := by
  refine Option.not_isSome_iff_eq_none.mp fun present => ?_
  exact Nat.lt_irrefl _ (names.files _ present)

/-- The name that the next initializer gets is not in use. -/
theorem NamesInOrder.fresh_initializer (names : before.NamesInOrder) :
    before.runs.get? ⟨before.runs.size⟩ = none := by
  refine Option.not_isSome_iff_eq_none.mp fun present => ?_
  exact Nat.lt_irrefl _ (names.runs _ present)

end Environment

/-- What the transfers between frames and devices can do to files and initializers. -/
inductive Environment.Serves (before after : Environment config) : Prop where
  | aside (files : after.files = before.files) (runs : after.runs = before.runs)
  /-- A page was loaded, or could not be loaded. -/
  | reading {initializer : Option (Initializer config)} (same : before.SameStores after)
      (runs : after.runs = before.runsAfter initializer)
  /-- A page was written back, or could not be written back. -/
  | writing {id : FileId} (same : before.SameBut id after)

namespace Environment.Serves

variable {before after : Environment config}

/-- What transfers can do to files concerns their data only. -/
theorem sameTerms (serves : before.Serves after) : before.SameTerms after := by
  cases serves with
  | aside files => exact fun id => by rw [files]
  | reading same => exact same.sameTerms
  | writing same => exact same.terms

/-- Transfers give out no names and forget none. -/
theorem advances (serves : before.Serves after) : before.Advances after := by
  cases serves with
  | aside files runs =>
    refine ⟨fun id => by rw [files], fun id => by rw [runs], fun id => Nat.le_of_eq ?_⟩
    rw [runsOf, runsOf, runs]
  | reading same runs => exact advances_of_runsAfter same runs
  | writing same => exact same.advances

/-- What is noted before and after a transfer makes no difference. -/
theorem of_record {event event' : Event} (serves : (before.record event).Serves after) :
    before.Serves (after.record event') := by
  cases serves with
  | aside files runs => exact .aside files runs
  | reading same runs =>
    exact .reading (((sameStores_record ..).trans same).trans (sameStores_record ..)) runs
  | writing same => exact .writing (((sameBut_record ..).trans same).trans (sameBut_record ..))

end Environment.Serves

/-- A load is one of the transfers. -/
theorem PageKind.Loaded.serves {number : PageNumber} {before after : FrameWindow config}
    {kind later : PageKind config} (loaded : kind.Loaded number before later after) :
    before.environment.Serves after.environment := by
  cases loaded with
  | fromSlot | blank => exact .aside rfl rfl
  | fromFile _ same runs => exact @Environment.Serves.reading _ _ _ none same runs
  | first _ _ same runs => exact .reading same runs

/-- What a page that loses its frame leaves in the environment, whatever was noted before. -/
theorem PageKind.Stored.serves {bytes : PageBytes config} {dirty : Bool}
    {start before after : Environment config} {kind later : PageKind config}
    (noted : ∀ id, start.SameBut id before) (stored : kind.Stored bytes dirty before later after)
    (files : before.files = start.files) : start.Serves after := by
  have runs := (noted ⟨0⟩).runs
  cases stored with
  | blank | clean => exact .aside files runs
  | toSlot => exact .aside files runs
  | @toFile backing =>
    split
    · exact .aside files runs
    · exact .writing ((noted _).trans (backing.sameBut_writtenBack bytes before))

/-- A page that has been loaded waits for no initializer. -/
theorem PageKind.IsLoaded.initializer?_eq {kind : PageKind config} (isLoaded : kind.IsLoaded) :
    kind.initializer? = none := by
  match kind with
  | .anonymous _ => rfl
  | .file _ => rfl

/-- A page that was saved waits for no initializer. -/
theorem PageKind.Stored.initializer?_eq {bytes : PageBytes config} {dirty : Bool}
    {before after : Environment config} {kind later : PageKind config}
    (stored : kind.Stored bytes dirty before later after) : later.initializer? = none := by
  cases stored <;> rfl

namespace Machine

/-- Every initializer that a page waits for has a name. -/
def InitializersNamed (machine : Machine config) : Prop :=
  ∀ key number page initializer, machine.page? key number = some page →
    page.kind.initializer? = some initializer →
      (machine.environment.runs.get? initializer.id).isSome

end Machine

namespace Transition

open Machine

/-- A transition leaves it to the pages to change files. -/
def KeepsFiles : Transition config → Prop
  | .setFile _ _ | .createFile _ _ | .listInitializer _ => False
  | _ => True

variable {transition : Transition config} {machine next : Machine config}

/-- Loads, evictions and discards do to files and initializers what transfers do. -/
theorem Leads.serves (leads : transition.Leads machine next) (fits : machine.Fits)
    (slots : machine.SlotsAgree) (keeps : transition.KeepsFiles) :
    machine.environment.Serves next.environment := by
  have kept := leads.environment_eq
  cases leads with
  | setFile | createFile | listInitializer => exact keeps.elim
  | setSwapFaults => exact .aside rfl rfl
  | evict _ _ found resident stored =>
    have became := fits.stored found resident stored
    rw [environment_vacate]
    rw [environment_beforeStore] at became
    refine became.serves (fun id => ?_) rfl
    exact (Environment.sameBut_record _ id _).trans (Environment.sameBut_record _ id _)
  | load _ _ _ loaded =>
    have became := ((PageKind.load_ends _ _ _).of_done loaded).serves
    rw [environment_settleLoaded]
    exact became.of_record
  | spoil _ _ _ failed =>
    obtain ⟨same, initializer, runs⟩ := (PageKind.load_ends _ _ _).of_failed failed
    exact (Environment.Serves.reading same runs).of_record
  | @discard _ key page environment found _ ended =>
    have later := (PageKind.discard_absent_ends _ _ (slots.allocated found)).of_done ended
    show machine.environment.Serves environment
    rw [later]
    cases page.kind.slot? <;> exact .aside rfl rfl
  | discardResident found resident ended =>
    have isLoaded := fits.isLoaded found resident
    rw [environment_endResident]
    rcases PageKind.sameBut_of_discard_resident isLoaded ended with rfl | ⟨_, _, same⟩
    · exact .aside rfl rfl
    · exact .writing same
  | _ =>
    rw [kept trivial]
    exact .aside rfl rfl

/-- A transition gives out no names to files and initializers. -/
def KeepsNames : Transition config → Prop
  | .createFile _ _ | .listInitializer _ => False
  | _ => True

/-- Nothing loses its name, and no initializer is ever run less often. -/
theorem Leads.advances (leads : transition.Leads machine next) (fits : machine.Fits)
    (slots : machine.SlotsAgree) (keeps : transition.KeepsNames) :
    machine.environment.Advances next.environment := by
  by_cases files : transition.KeepsFiles
  · exact (leads.serves fits slots files).advances
  · cases leads with
    | setFile => exact machine.environment.advances_setFile _ _
    | createFile | listInitializer => exact keeps.elim
    | _ => exact (files trivial).elim

/-- Every transition keeps the names in order. -/
theorem Leads.namesInOrder (leads : transition.Leads machine next) (fits : machine.Fits)
    (slots : machine.SlotsAgree) (names : machine.environment.NamesInOrder) :
    next.environment.NamesInOrder := by
  by_cases keeps : transition.KeepsNames
  · exact (leads.advances fits slots keeps).namesInOrder names
  · cases leads with
    | createFile =>
      refine ⟨fun id present => ?_, names.runs⟩
      rw [OrderedMap.size_insert names.fresh_file]
      rw [OrderedMap.get?_insert_eq] at present
      split at present
      · next here =>
        rw [here]
        exact Nat.lt_succ_self _
      · exact Nat.lt_succ_of_lt (names.files id present)
    | listInitializer =>
      refine ⟨names.files, fun id present => ?_⟩
      rw [OrderedMap.size_insert names.fresh_initializer]
      rw [OrderedMap.get?_insert_eq] at present
      split at present
      · next here =>
        rw [here]
        exact Nat.lt_succ_self _
      · exact Nat.lt_succ_of_lt (names.runs id present)
    | _ => exact (keeps trivial).elim

/-- No initializer is ever run less often. -/
theorem Leads.runsOf_le (leads : transition.Leads machine next) (fits : machine.Fits)
    (slots : machine.SlotsAgree) (names : machine.environment.NamesInOrder) (id : InitializerId) :
    machine.environment.runsOf id ≤ next.environment.runsOf id := by
  by_cases keeps : transition.KeepsNames
  · exact (leads.advances fits slots keeps).counts id
  · cases leads with
    | createFile => exact Nat.le_refl _
    | listInitializer =>
      show _ ≤ ((OrderedMap.insert _ _ _).get? id).getD 0
      rw [OrderedMap.get?_insert_eq]
      split
      · next here =>
        rw [here, Environment.runsOf, names.fresh_initializer]
        exact Nat.le_refl _
      · exact Nat.le_refl _
    | _ => exact (keeps trivial).elim

/-- Initializers that have a name keep it. -/
theorem Leads.isSome_runs (leads : transition.Leads machine next) (fits : machine.Fits)
    (slots : machine.SlotsAgree) {id : InitializerId}
    (named : (machine.environment.runs.get? id).isSome) :
    (next.environment.runs.get? id).isSome := by
  by_cases keeps : transition.KeepsNames
  · rwa [(leads.advances fits slots keeps).runs id]
  · cases leads with
    | createFile => exact named
    | listInitializer =>
      show ((OrderedMap.insert _ _ _).get? id).isSome
      rw [OrderedMap.get?_insert_eq]
      split
      · rfl
      · exact named
    | _ => exact (keeps trivial).elim

/-- A page that waits for an initializer has waited for it before, or is registered with one that
has a name. -/
theorem Leads.initializersNamed (leads : transition.Leads machine next) (fits : machine.Fits)
    (slots : machine.SlotsAgree) (unissued : machine.Unissued) (named : machine.InitializersNamed) :
    next.InitializersNamed := by
  intro key number page initializer there waits
  refine leads.isSome_runs fits slots ?_
  have amended : ∀ {key' : SpaceKey} {number' : PageNumber} {changed : Option (Page config)},
      next.page? = amend machine.page? key' number' changed →
      (∀ page, changed = some page → page.kind.initializer? = some initializer →
        (machine.environment.runs.get? initializer.id).isSome) →
      (machine.environment.runs.get? initializer.id).isSome := by
    intro key' number' changed pages new
    rw [pages] at there
    unfold amend at there
    split at there
    · exact new page there waits
    · exact named key number page initializer there waits
  have unchanged : next.page? = machine.page? →
      (machine.environment.runs.get? initializer.id).isSome := by
    intro pages
    rw [pages] at there
    exact named key number page initializer there waits
  have kept := leads.page?_eq unissued
  cases leads with
  | evict _ _ found resident stored =>
    have became := fits.stored found resident stored
    refine amended (page?_evicted (isSome_of_page? found)) ?_
    intro _ same waiting
    cases same
    rw [became.initializer?_eq] at waiting
    cases waiting
  | load found _ _ loaded =>
    have isLoaded := ((PageKind.load_ends _ _ _).of_done loaded).isLoaded
    refine amended (page?_settleLoaded (isSome_of_page? found)) ?_
    intro _ same waiting
    cases same
    rw [isLoaded.initializer?_eq] at waiting
    cases waiting
  | copy _ found =>
    refine amended (page?_settleCopy (isSome_of_page? found)) ?_
    intro _ same waiting
    cases same
    exact named _ _ _ initializer found waiting
  | register _ _ _ spaceExists listed =>
    refine amended (page?_setPage spaceExists _) ?_
    intro _ same waiting
    cases same
    exact listed initializer waiting
  | unregister found => exact amended (page?_dropPage (isSome_of_page? found)) nofun
  | discard found => exact amended (page?_endAbsent (isSome_of_page? found)) nofun
  | discardResident found => exact amended (page?_endResident (isSome_of_page? found)) nofun
  | _ => exact unchanged (kept trivial)

end Transition

end DemandPaging

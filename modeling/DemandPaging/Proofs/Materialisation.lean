import DemandPaging.Proofs.Course
import DemandPaging.Proofs.Locality
import DemandPaging.Proofs.Materialisation.Initializers

/-!
# A page materialises once and keeps its identity

A page is registered with its number, its permission and its target. These never change until the page
is withdrawn. A page that waits to be loaded becomes what it was announced to be by the first claim
that succeeds, and never waits again after that. Its initializer is run only by claims that find it
waiting, once by each at most.
-/

namespace DemandPaging

variable {config : Config}

namespace PageKind

/-- A page of this kind has never been loaded. -/
def IsPending : PageKind config → Prop
  | .unloaded _ _ => True
  | _ => False

/-- What a page of this kind is, or will be once it is loaded. -/
def target : PageKind config → PageTarget config
  | .unloaded target _ => target
  | .anonymous _ => .anonymous
  | .file backing => .file backing

variable {kind later : PageKind config}

/-- A page that was never loaded holds no frame. -/
theorem IsPending.not_isLoaded (pending : kind.IsPending) : ¬ kind.IsLoaded := by
  cases kind <;> first | exact id | exact pending.elim

/-- A page that waits for an initializer was never loaded. -/
theorem IsPending.of_initializer? {initializer : Initializer config}
    (waits : kind.initializer? = some initializer) : kind.IsPending := by
  cases kind with
  | unloaded => exact trivial
  | anonymous | file => cases waits

/-- A page that was never loaded has no slot. -/
theorem IsPending.slot?_eq (pending : kind.IsPending) : kind.slot? = none := by
  cases kind <;> first | rfl | exact pending.elim

/-- A page that is saved has been loaded before, and stays what it is. -/
theorem Stored.target_eq {bytes : PageBytes config} {dirty : Bool}
    {before after : Environment config} (stored : kind.Stored bytes dirty before later after) :
    later.target = kind.target ∧ ¬ later.IsPending ∧ ¬ kind.IsPending := by
  cases stored <;> exact ⟨rfl, id, id⟩

/-- A page that is loaded becomes what it was announced to be. -/
theorem Loaded.target_eq {number : PageNumber} {before after : FrameWindow config}
    (loaded : kind.Loaded number before later after) :
    later.target = kind.target ∧ ¬ later.IsPending := by
  cases loaded with
  | fromSlot | blank | fromFile => exact ⟨rfl, id⟩
  | first filled => cases filled <;> exact ⟨rfl, id⟩

end PageKind

/-- A page is still the page that it was: nothing has changed but whether and where it has content. -/
structure Page.Continues (page later : Page config) : Prop where
  number : later.number = page.number
  writable : later.writable = page.writable
  target : later.kind.target = page.kind.target
  /-- Until it is loaded it waits for the same initializer. -/
  pending : later.kind.IsPending → later.kind = page.kind

theorem Page.Continues.refl (page : Page config) : page.Continues page := ⟨rfl, rfl, rfl, fun _ => rfl⟩

/-- A page that is still the same after two stretches is the same after both. -/
theorem Page.Continues.trans {page middle later : Page config} (first : page.Continues middle)
    (second : middle.Continues later) : page.Continues later where
  number := second.number.trans first.number
  writable := second.writable.trans first.writable
  target := second.target.trans first.target
  pending pending := by
    have same := second.pending pending
    rw [same] at pending ⊢
    exact first.pending pending

/-- The page has never been loaded. -/
def Machine.IsPending (machine : Machine config) (key : SpaceKey) (number : PageNumber) : Prop :=
  ∃ page, machine.page? key number = some page ∧ page.kind.IsPending

/-- A page that waits takes up nothing. -/
theorem Machine.IsPending.unused {machine : Machine config} {key : SpaceKey} {number : PageNumber}
    (waits : machine.IsPending key number) (consistent : machine.Consistent) :
    machine.frame? key number = none ∧ machine.mapped? key number = none ∧
      machine.slot? key number = none := by
  obtain ⟨page, found, pending⟩ := waits
  have absent := consistent.fits.absent_of_not_isLoaded found pending.not_isLoaded
  refine ⟨(Machine.frame?_of_found found).trans absent,
    consistent.fits.entry_of_absent found absent, ?_⟩
  rw [Machine.slot?, found]
  exact pending.slot?_eq

/-- The first load of a page. -/
def Move.Materialises (move : Move config) (key : SpaceKey) (number : PageNumber) : Prop :=
  (∃ frame, move.transition = .load key number frame) ∧ move.before.IsPending key number

namespace Transition

/-- A page is taken out of its space. -/
def Withdraws (key : SpaceKey) (number : PageNumber) (transition : Transition config) : Prop :=
  transition = .unregister key number ∨ transition = .discard key number

open Machine

variable {transition : Transition config} {machine next : Machine config} {key : SpaceKey}
  {number : PageNumber}

/-- A page that is not withdrawn is still the same page after a transition; it waits as long as it is
not loaded. -/
theorem Leads.continues (leads : transition.Leads machine next) (consistent : machine.Consistent)
    {page : Page config} (found : machine.page? key number = some page)
    (stays : ¬ transition.Withdraws key number) :
    ∃ later, next.page? key number = some later ∧ page.Continues later ∧
      (later.kind.IsPending ↔
        page.kind.IsPending ∧ ¬ Move.Materialises ⟨machine, transition⟩ key number) := by
  have unchanged : next.page? key number = machine.page? key number →
      (∀ frame, transition ≠ .load key number frame) →
      ∃ later, next.page? key number = some later ∧ page.Continues later ∧
        (later.kind.IsPending ↔
          page.kind.IsPending ∧ ¬ Move.Materialises ⟨machine, transition⟩ key number) := by
    intro same unloaded
    refine ⟨page, same.trans found, .refl page, (and_iff_left ?_).symm⟩
    rintro ⟨⟨frame, loads⟩, _⟩
    exact unloaded frame loads
  by_cases touches : transition.Touches key number
  · cases leads with
    | evict _ _ known resident stored =>
      obtain ⟨rfl, rfl⟩ := touches
      cases known.symm.trans found
      obtain ⟨target, notLater, notBefore⟩ :=
        (consistent.fits.stored known resident stored).target_eq
      refine ⟨_, eq_of_amend (page?_evicted (isSome_of_page? known)),
        ⟨rfl, rfl, target, fun pending => absurd pending notLater⟩, ?_⟩
      exact iff_of_false notLater fun both => notBefore both.1
    | load known absent awaits loaded =>
      obtain ⟨rfl, rfl⟩ := touches
      cases known.symm.trans found
      obtain ⟨target, notLater⟩ := ((PageKind.load_ends _ _ _).of_done loaded).target_eq
      refine ⟨_, eq_of_amend (page?_settleLoaded (isSome_of_page? known)),
        ⟨rfl, rfl, target, fun pending => absurd pending notLater⟩, ?_⟩
      exact iff_of_false notLater fun both => both.2 ⟨⟨_, rfl⟩, page, known, both.1⟩
    | copy model known awaits provides =>
      obtain ⟨rfl, rfl⟩ := touches
      cases known.symm.trans found
      refine ⟨_, eq_of_amend (page?_settleCopy (isSome_of_page? known)),
        ⟨rfl, rfl, rfl, fun _ => rfl⟩, (and_iff_left ?_).symm⟩
      rintro ⟨⟨frame, loads⟩, _⟩
      cases loads
    | register vacant =>
      obtain ⟨rfl, rfl⟩ := touches
      cases vacant.symm.trans found
    | unregister => exact absurd (.inl (by rw [← touches.1, ← touches.2])) stays
    | discard | discardResident => exact absurd (.inr (by rw [← touches.1, ← touches.2])) stays
    | store => exact unchanged (congrFun (congrFun page?_markDirty key) number) nofun
    | _ => exact touches.elim
  · refine unchanged (leads.untouched consistent touches).1 ?_
    rintro frame rfl
    exact touches ⟨rfl, rfl⟩

/-- A transition claims one page at most. -/
theorem Claims.unique {key' : SpaceKey} {number' : PageNumber}
    (claims : transition.Claims key number) (claims' : transition.Claims key' number') :
    key' = key ∧ number' = number := by
  cases transition <;>
    first
    | exact claims.elim
    | exact ⟨claims'.1.symm.trans claims.1, claims'.2.symm.trans claims.2⟩

/-- The page that was registered is there. -/
theorem Leads.page?_of_registers {page : Page config}
    (leads : (Transition.register key page).Leads machine next) :
    next.page? key page.number = some page := by
  cases leads with
  | register _ _ _ spaceExists =>
    rw [page?_setPage spaceExists]
    exact amend_self

/-- A page that was withdrawn is not there. -/
theorem Leads.page?_of_withdraws (leads : transition.Leads machine next)
    (withdraws : transition.Withdraws key number) : next.page? key number = none := by
  rcases withdraws with rfl | rfl
  · cases leads with
    | unregister found => rw [page?_dropPage (isSome_of_page? found), amend_self]
  · rw [leads.page?_of_discard, amend_self]

/-- A page that is there after a transition was registered by it, or was there before and has not been
withdrawn. -/
theorem Leads.registered (leads : transition.Leads machine next) (consistent : machine.Consistent)
    (found : (next.page? key number).isSome) :
    (∃ page, transition = .register key page ∧ page.number = number) ∨
      (machine.page? key number).isSome ∧ ¬ transition.Withdraws key number := by
  have stays : ¬ transition.Withdraws key number := by
    intro withdraws
    rw [leads.page?_of_withdraws withdraws] at found
    cases found
  have alters := leads.alters consistent key number
  generalize before : machine.page? key number = old at alters ⊢
  generalize after : next.page? key number = new at alters found
  cases alters with
  | same => exact .inr ⟨found, stays⟩
  | changed => exact .inr ⟨rfl, stays⟩
  | registered isRegistered =>
    exact .inl ⟨_, isRegistered, (leads.consistent consistent).fits.number_eq after⟩
  | removed => cases found

end Transition

/-! ## From the registration of a page to its end -/

namespace Trail

open Machine

variable {start machine : Machine config} {moves : List (Move config)} {key : SpaceKey}
  {number : PageNumber} {page : Page config}

/-- A page that is not withdrawn on a way is still the same page at its end; it waits as long as it
has not materialised. -/
theorem continues (trail : Trail start moves machine) (consistent : start.Consistent)
    (found : start.page? key number = some page)
    (stays : ∀ move ∈ moves, ¬ move.transition.Withdraws key number) :
    ∃ later, machine.page? key number = some later ∧ page.Continues later ∧
      (later.kind.IsPending ↔
        page.kind.IsPending ∧ ∀ move ∈ moves, ¬ move.Materialises key number) := by
  induction trail with
  | refl =>
    exact ⟨page, found, .refl page, (and_iff_left fun _ listed => absurd listed List.not_mem_nil).symm⟩
  | step prior leads inductionHypothesis =>
    obtain ⟨middle, there, continues, waits⟩ :=
      inductionHypothesis fun move listed => stays move (List.mem_append_left _ listed)
    obtain ⟨later, known, goesOn, stillWaits⟩ := leads.continues (prior.consistent consistent).1 there
      (stays _ (List.mem_append_right _ List.mem_cons_self))
    refine ⟨later, known, continues.trans goesOn, stillWaits.trans ?_⟩
    rw [waits, List.forall_mem_append, List.forall_mem_singleton, and_assoc]

/-- A page that has materialised does not wait any more. -/
theorem not_isPending (trail : Trail start moves machine) (consistent : start.Consistent)
    (found : start.page? key number = some page)
    (stays : ∀ move ∈ moves, ¬ move.transition.Withdraws key number) {move : Move config}
    (listed : move ∈ moves) (materialises : move.Materialises key number) :
    ¬ machine.IsPending key number := by
  rintro ⟨current, there, pending⟩
  obtain ⟨later, known, _, waits⟩ := trail.continues consistent found stays
  cases there.symm.trans known
  exact (waits.mp pending).2 move listed materialises

/-- After its first load a page is never found waiting. -/
theorem pairwise_materialises (trail : Trail start moves machine) (consistent : start.Consistent)
    (found : start.page? key number = some page)
    (stays : ∀ move ∈ moves, ¬ move.transition.Withdraws key number) :
    moves.Pairwise fun first second =>
      first.Materialises key number → ¬ second.before.IsPending key number := by
  induction trail with
  | refl => exact .nil
  | step prior _ inductionHypothesis =>
    have before := fun move listed => stays move (List.mem_append_left _ listed)
    refine List.pairwise_append.mpr ⟨inductionHypothesis before, List.pairwise_singleton _ _, ?_⟩
    intro first listed second isLast materialises
    cases List.mem_singleton.mp isLast
    exact prior.not_isPending consistent found before listed materialises

/-- A page that is there at the end of a way, and was not there at its start, was registered on the way
and has not been withdrawn since. -/
theorem exists_registration (trail : Trail start moves machine) (consistent : start.Consistent)
    (vacant : start.page? key number = none) (found : (machine.page? key number).isSome) :
    ∃ earlier registration during page, moves = earlier ++ registration :: during ∧
      registration.transition = .register key page ∧ page.number = number ∧
      ∀ move ∈ during, ¬ move.transition.Withdraws key number := by
  induction trail with
  | refl =>
    rw [vacant] at found
    cases found
  | @step moves middle next transition prior leads inductionHypothesis =>
    rcases leads.registered (prior.consistent consistent).1 found with ⟨page, rfl, numbered⟩ | old
    · exact ⟨moves, _, [], page, rfl, rfl, numbered, fun _ listed => absurd listed List.not_mem_nil⟩
    · obtain ⟨earlier, registration, during, page, rfl, registers, numbered, stays⟩ :=
        inductionHypothesis old.1
      refine ⟨earlier, registration, during ++ [⟨middle, transition⟩], page, by simp, registers,
        numbered, ?_⟩
      exact List.forall_mem_append.mpr ⟨stays, List.forall_mem_singleton.mpr old.2⟩

end Trail

/-- What holds of a page that was registered as `page`, after the transitions `during` that followed
its registration. -/
structure Page.Tenure (key : SpaceKey) (page : Page config) (during : List (Move config))
    (machine : Machine config) : Prop where
  /-- It is still the same page, and has the kind that was announced once it has materialised. -/
  current : ∃ later, machine.page? key page.number = some later ∧ page.Continues later ∧
    (later.kind.IsPending ↔
      page.kind.IsPending ∧ ∀ move ∈ during, ¬ move.Materialises key page.number)
  /-- As long as it waits it takes up nothing. -/
  unused : machine.IsPending key page.number → machine.frame? key page.number = none ∧
    machine.mapped? key page.number = none ∧ machine.slot? key page.number = none
  /-- It materialises once at most, and runs no initializer after that. -/
  once : during.Pairwise fun first second => first.Materialises key page.number →
    ¬ second.Materialises key page.number ∧
      (second.transition.Claims key page.number → second.initializations = [])
  /-- A claim that runs an initializer finds the page waiting, and runs the one of the page, once. -/
  runs : ∀ move ∈ during, move.transition.Claims key page.number → move.initializations = [] ∨
    move.before.IsPending key page.number ∧ ∃ initializer,
      page.kind.initializer? = some initializer ∧
        move.initializations = [.initializing initializer.id page.number]
  /-- The page materialises only after its initializer has been run, if it has one. -/
  initialized : ∀ move ∈ during, move.Materialises key page.number →
    page.kind.IsPending ∧ move.initializations =
      page.kind.initializer?.toList.map (.initializing ·.id page.number)

namespace Trail

open Machine

variable {start machine : Machine config} {during : List (Move config)} {key : SpaceKey}
  {page : Page config}

/-- A page that is registered holds what it was registered with until it is withdrawn. -/
theorem tenure (trail : Trail start during machine) (consistent : start.Consistent)
    (found : start.page? key page.number = some page)
    (stays : ∀ move ∈ during, ¬ move.transition.Withdraws key page.number) :
    page.Tenure key during machine := by
  -- Whoever finds the page waiting finds it as it was registered.
  have waiting : ∀ move ∈ during, ∃ next, move.transition.Leads move.before next ∧
      ∀ current, move.before.page? key page.number = some current → current.kind.IsPending →
        current.kind = page.kind := by
    intro move listed
    obtain ⟨earlier, later, rfl⟩ := List.append_of_mem listed
    obtain ⟨first, next, leads, _⟩ := trail.split
    obtain ⟨_, known, continues, _⟩ := first.continues consistent found
      fun other before => stays other (List.mem_append_left _ before)
    refine ⟨next, leads, fun current there pending => ?_⟩
    cases there.symm.trans known
    exact continues.pending pending
  have runs : ∀ move ∈ during, move.transition.Claims key page.number →
      move.initializations = [] ∨ move.before.IsPending key page.number ∧ ∃ initializer,
        page.kind.initializer? = some initializer ∧
          move.initializations = [.initializing initializer.id page.number] := by
    intro move listed claims
    obtain ⟨next, leads, same⟩ := waiting move listed
    by_cases nothing : move.initializations = []
    · exact .inl nothing
    · obtain ⟨key', current, initializer, isClaim, there, waits, once⟩ :=
        leads.claims_of_initializations nothing
      obtain ⟨rfl, numbered⟩ := claims.unique isClaim
      have pending := PageKind.IsPending.of_initializer? waits
      rw [numbered] at there once
      exact .inr ⟨⟨current, there, pending⟩, initializer, same current there pending ▸ waits, once⟩
  refine ⟨trail.continues consistent found stays, ?_, ?_, runs, ?_⟩
  · exact fun pending => pending.unused (trail.consistent consistent).1
  · refine (trail.pairwise_materialises consistent found stays).imp_of_mem ?_
    intro first second _ listed spent materialises
    have notPending := spent materialises
    exact ⟨fun again => notPending again.2, fun claims =>
      (runs second listed claims).resolve_right fun ran => notPending ran.1⟩
  · rintro ⟨before, transition⟩ listed ⟨⟨frame, rfl⟩, current, there, pending⟩
    obtain ⟨next, leads, same⟩ := waiting _ listed
    have kind := same current there pending
    refine ⟨kind ▸ pending, ?_⟩
    generalize page.number = number at *
    cases leads with
    | load known _ _ loaded =>
      cases there.symm.trans known
      simp only [Move.initializations, known]
      rw [PageKind.initializes_of_loaded loaded, kind]

end Trail

/-- What the transitions of a way mean for the pages that were registered on it. -/
structure Trail.Materialises (start : Machine config) (moves : List (Move config))
    (machine : Machine config) : Prop where
  /-- What is recorded and counted as runs of initializers are the runs of the transitions. -/
  history : machine.environment.initializations =
    start.environment.initializations ++ moves.flatMap Move.initializations
  counts : ∀ id, machine.environment.runsOf id = start.environment.runsOf id +
    (moves.flatMap Move.initializations).countP (·.isRunOf id)
  /-- An initializer is run only by a claim of a page that waits for it. -/
  claims : ∀ move ∈ moves, move.initializations ≠ [] → ∃ key number,
    move.transition.Claims key number ∧ move.before.IsPending key number
  /-- Every page that is there was registered, and has not been withdrawn since. -/
  registered : ∀ {key : SpaceKey} {number : PageNumber}, (machine.page? key number).isSome →
    ∃ earlier registration during page, moves = earlier ++ registration :: during ∧
      registration.transition = .register key page ∧ page.number = number ∧
      ∀ move ∈ during, ¬ move.transition.Withdraws key number
  /-- As long as a page is not withdrawn it materialises once at most and keeps its identity. -/
  tenure : ∀ {earlier : List (Move config)} {registration : Move config}
    {during later : List (Move config)} {key : SpaceKey} {page : Page config},
    moves = earlier ++ registration :: (during ++ later) →
    registration.transition = .register key page →
    (∀ move ∈ during, ¬ move.transition.Withdraws key page.number) →
      ∃ middle, Trail start (earlier ++ registration :: during) middle ∧
        Trail middle later machine ∧ page.Tenure key during middle

namespace Trail

open Machine

variable {start machine : Machine config} {moves : List (Move config)}

/-- On a way that begins without pages, each of them is loaded for the first time once at most, and
its initializer runs for that alone. -/
theorem materialises (trail : Trail start moves machine) (consistent : start.Consistent)
    (vacant : ∀ key number, start.page? key number = none) :
    Trail.Materialises start moves machine where
  history := trail.initializations_eq
  counts := trail.runsOf_eq consistent
  claims := by
    intro move listed runs
    obtain ⟨earlier, later, rfl⟩ := List.append_of_mem listed
    obtain ⟨_, _, leads, _⟩ := trail.split
    obtain ⟨key, page, _, claims, found, waits, _⟩ := leads.claims_of_initializations runs
    exact ⟨key, page.number, claims, page, found, PageKind.IsPending.of_initializer? waits⟩
  registered := fun {key number} => trail.exists_registration consistent (vacant key number)
  tenure := by
    rintro earlier ⟨before, _⟩ during later key page rfl rfl stays
    obtain ⟨first, next, registers, rest⟩ := trail.split
    obtain ⟨middle, second, last⟩ := rest.cut
    have nextConsistent := registers.consistent (first.consistent consistent).1
    have whole := (first.trans (.single registers)).trans second
    rw [List.append_assoc] at whole
    exact ⟨middle, whole, last, second.tenure nextConsistent registers.page?_of_registers stays⟩

end Trail

/-- In every run pages materialise once and keep their identity, and only pages that an operation
reaches for are claimed. -/
theorem Run.materialises_once {frames slots : Nat} {log : OperationLog config}
    {machine : Machine config} (run : Run (.boot config frames slots) log machine) :
    (∃ episodes, Chronicle (.boot config frames slots) episodes machine ∧
      episodes.map Episode.entry = log ∧ ∀ episode ∈ episodes, episode.Abides) ∧
    ∀ episodes, Chronicle (.boot config frames slots) episodes machine →
      Trail.Materialises (.boot config frames slots) (Episode.allMoves episodes) machine := by
  obtain ⟨episodes, chronicle, entries, _, abide⟩ := run.orderly_chronicle
    (boot_atRest config frames slots)
  refine ⟨⟨episodes, chronicle, entries, abide⟩, fun others chronicle' => ?_⟩
  exact chronicle'.trail.materialises (Machine.boot_consistent config frames slots) fun _ _ => rfl

/-- A program with a page whose initializer refuses to work once. It forks while the page waits, and
reads the page until it is there, and again after that. -/
def hesitantProgram : List (Operation .small) :=
  let space : SpaceKey := ⟨.main, ⟨1⟩⟩
  let hesitant : InitializerBody .small := fun run _ bytes =>
    (bytes.overwrite 0 #[7], if run = 1 then some .invalidArgument else none)
  [.create .main,
    .request space (.allocate .anonymous ⟨4⟩ true (some hesitant)),
    .fork space,
    .request space (.read ⟨4⟩ #[0]),
    .request space (.read ⟨4⟩ #[0]),
    .request space (.read ⟨4⟩ #[0])]

/-- The initializer of the program is run twice and not again, and the copy of its page still waits. -/
theorem Run.materialises_once_hesitant : ∃ log machine episodes,
    performAll hesitantProgram (.boot .small 3 8) = some (log, machine) ∧
    machine.environment.runsOf ⟨0⟩ = 2 ∧
    (machine.page? ⟨.main, ⟨2⟩⟩ ⟨1⟩).any (·.kind.initializer?.isSome) = true ∧
    Chronicle (.boot .small 3 8) episodes machine ∧ (∀ episode ∈ episodes, episode.Abides) ∧
    Trail.Materialises (.boot .small 3 8) (Episode.allMoves episodes) machine := by
  have performed : ((performAll hesitantProgram (.boot .small 3 8)).any fun (_, machine) =>
      machine.environment.runsOf ⟨0⟩ = 2 ∧
        (machine.page? ⟨.main, ⟨2⟩⟩ ⟨1⟩).any (·.kind.initializer?.isSome) = true) = true := by
    decide +kernel
  obtain ⟨⟨log, machine⟩, outcome, facts⟩ := (Option.any_eq_true _ _).mp performed
  obtain ⟨twice, waits⟩ := of_decide_eq_true facts
  obtain ⟨⟨episodes, chronicle, _, abide⟩, materialises⟩ :=
    Run.materialises_once (Run.nil.append outcome)
  exact ⟨log, machine, episodes, outcome, twice, waits, chronicle, abide,
    materialises episodes chronicle⟩

end DemandPaging

import DemandPaging.Proofs.Durability.Reading
import DemandPaging.Proofs.Durability.Shown
import DemandPaging.Proofs.Separation
import DemandPaging.Proofs.WriteBack

/-!
# What an initializer leaves in a page

The first load of a page leaves in it what its initializer made of zeros or of the bytes of its file. From
then on the page shows each of these bytes, and copies from user memory return it, however often the page
is evicted and loaded again, until somebody writes to the byte or takes the page away. For an anonymous
page that is all there is to say. A page of a file does not count as written to when its initializer has
run, so if nobody writes to the page meanwhile its first eviction drops each byte that differs from that of
the file. Every later eviction saves what there is.
-/

namespace DemandPaging

variable {config : Config}

open Machine

/-! ## First loads -/

/-- The first load of a page, which was registered as `page`, leaves bytes in it. -/
inductive Move.Leaves (key : SpaceKey) (page : Page config) (bytes : PageBytes config)
    (move : Move config) : Prop where
  | intro {current : Page config} {frame : FrameNumber} {kind : PageKind config}
      {window : FrameWindow config} (loads : move.transition = .load key page.number frame)
      (found : move.before.page? key page.number = some current) (continues : page.Continues current)
      (pending : current.kind.IsPending)
      (loaded : current.kind.load page.number
        ((move.before.record (.loading key page.number)).window frame) = .done kind window)
      (left : window.bytes = bytes)

/-- The first load of a page leaves a byte in it to which nothing is done afterwards, and which is saved
when the page is evicted for the first time. -/
structure Move.LeavesByte (key : SpaceKey) (page : Page config) (bytes : PageBytes config) (index : Nat)
    (load : Move config) (since : List (Move config)) : Prop where
  leaves : load.Leaves key page bytes
  retains : page.Retains index
  undisturbed : ∀ move ∈ since, ¬ move.Disturbs key page index
  saved : IsSavedFirst key page index (bytes.byteAt index) since

namespace Move

variable {load : Move config} {key : SpaceKey} {page : Page config} {bytes : PageBytes config}
  {index : Nat} {next : Machine config}

/-- What the first load leaves is what the initializer, if there is one, made of zeros or of the bytes of
the file. -/
theorem Leaves.applied (leaves : load.Leaves key page bytes) :
    ∃ kind filled, page.kind.target.Filled load.before.environment kind filled ∧
      Initializer.Applied load.before.environment page.number filled page.kind.initializer? bytes := by
  obtain @⟨_, _, later, _, _, _, continues, pending, loaded, rfl⟩ := leaves
  rw [← continues.pending pending]
  have became := (PageKind.load_ends _ _ _).of_done loaded
  generalize Page.kind _ = kind at pending became ⊢
  cases became with
  | @first _ _ _ bytes _ _ filled applied =>
    refine ⟨later, bytes, ?_, ?_⟩
    · cases filled with
      | anonymous => exact .anonymous
      | file covered => exact .file covered
    · cases applied with
      | none => exact .none
      | some ran => exact .some ran
  | fromSlot | blank | fromFile => exact pending.elim

/-- After its first load a page shows what was left in it. -/
theorem Leaves.shows (leaves : load.Leaves key page bytes)
    (leads : load.transition.Leads load.before next) (index : Nat) :
    next.Shows key page index (bytes.byteAt index) := by
  obtain ⟨loads, found, continues, _, loaded, rfl⟩ := leaves
  rw [loads] at leads
  unfold Machine.Shows
  generalize page.number = number at *
  cases leads with
  | load known _ _ loads' =>
    cases known.symm.trans found
    cases loaded.symm.trans loads'
    obtain ⟨target, notPending⟩ := ((PageKind.load_ends _ _ _).of_done loads').target_eq
    refine ⟨_, eq_of_amend (page?_settleLoaded (isSome_of_page? found)),
      continues.trans ⟨rfl, rfl, target, fun pending => absurd pending notPending⟩, notPending, ?_⟩
    rw [shown_of_resident rfl, frameBytes_settleLoaded, if_pos rfl]

/-- What a load leaves is left on every first part of the way after it. -/
theorem LeavesByte.of_append {since later : List (Move config)}
    (leaves : load.LeavesByte key page bytes index (since ++ later)) :
    load.LeavesByte key page bytes index since where
  leaves := leaves.leaves
  retains := leaves.retains
  undisturbed move listed := leaves.undisturbed move (List.mem_append_left _ listed)
  saved := by
    rintro earlier move rest rfl
    exact leaves.saved earlier move (rest ++ later) (by simp)

/-- A byte can last only in a page that stays. -/
theorem LeavesByte.stays {since : List (Move config)}
    (leaves : load.LeavesByte key page bytes index since) :
    ∀ move ∈ since, ¬ move.transition.Withdraws key page.number :=
  fun move listed withdraws => leaves.undisturbed move listed (.withdrawn withdraws)

end Move

/-- A page is there and has been loaded. -/
def Machine.HasMaterialised (machine : Machine config) (key : SpaceKey) (number : PageNumber) : Prop :=
  ∃ page, machine.page? key number = some page ∧ ¬ page.kind.IsPending

/-- A resident page has been loaded. -/
theorem Machine.hasMaterialised_of_resident {machine : Machine config} (consistent : machine.Consistent)
    {key : SpaceKey} {number : PageNumber} {frame : FrameNumber}
    (resident : machine.frame? key number = some frame) : machine.HasMaterialised key number := by
  obtain ⟨page, found, held⟩ := Option.bind_eq_some_iff.mp resident
  exact ⟨page, found, fun pending =>
    pending.not_isLoaded (consistent.fits.isLoaded found held)⟩

/-- A page that has been loaded is there until it is discarded. -/
theorem Transition.Leads.hasMaterialised {transition : Transition config} {machine next : Machine config}
    (leads : transition.Leads machine next) (consistent : machine.Consistent) {key : SpaceKey}
    {number : PageNumber} (kept : transition ≠ .discard key number)
    (before : machine.HasMaterialised key number) : next.HasMaterialised key number := by
  obtain ⟨page, found, loaded⟩ := before
  have stays : ¬ transition.Withdraws key number := by
    rintro (rfl | discards)
    · -- only a page that waits is forgotten
      cases leads with
      | unregister there unloaded =>
        cases found.symm.trans there
        rw [unloaded] at loaded
        exact loaded trivial
    · exact kept discards
  obtain ⟨later, known, _, waits⟩ := leads.continues consistent found stays
  exact ⟨later, known, fun pending => loaded (waits.mp pending).1⟩

namespace Trail

variable {start machine : Machine config} {earlier since : List (Move config)} {load : Move config}
  {key : SpaceKey} {page : Page config} {bytes : PageBytes config} {index : Nat}

/-- A byte that the first load of a page has left in it is shown as long as nothing is done to it. -/
theorem shows_of_leavesByte (trail : Trail start (earlier ++ load :: since) machine)
    (consistent : start.Consistent) (reach : ∀ move ∈ since, move.before.FilesReach)
    (leaves : load.LeavesByte key page bytes index since)
    (uncopied : ∀ move ∈ since, ∀ parent frame,
      move.transition ≠ .copy key parent page.number frame) :
    machine.Shows key page index (bytes.byteAt index) := by
  obtain ⟨first, next, leads, rest⟩ := trail.split
  have nextConsistent := leads.consistent (first.consistent consistent).1
  exact (rest.shows nextConsistent reach leaves.retains leaves.undisturbed uncopied leaves.saved
    (leaves.leaves.shows leads index)).1

/-- A page that was resident before is not loaded for the first time, unless it is discarded. -/
theorem not_leaves_of_resident {moves : List (Move config)} (trail : Trail start moves machine)
    (consistent : start.Consistent) {frame : FrameNumber}
    (resident : start.frame? key page.number = some frame)
    (kept : ∀ move ∈ moves, move.transition ≠ .discard key page.number) :
    ∀ move ∈ moves, ¬ move.Leaves key page bytes := by
  have stays : machine.HasMaterialised key page.number ∧
      ∀ move ∈ moves, move.before.HasMaterialised key page.number := by
    apply trail.preserves_of_consistent consistent (hasMaterialised_of_resident consistent resident)
    exact fun move _ listed before earlier leads =>
      leads.hasMaterialised before (kept move listed) earlier
  rintro move listed ⟨_, found, _, pending, _, _⟩
  obtain ⟨current, there, loaded⟩ := stays.2 move listed
  cases found.symm.trans there
  exact loaded pending

/-- A page that is there at the end of a way, and was not there at its start, is still the page that was
registered on the way. -/
theorem exists_continued {moves : List (Move config)} {number : PageNumber} {final : Page config}
    (trail : Trail start moves machine) (consistent : start.Consistent)
    (vacant : start.page? key number = none) (found : machine.page? key number = some final) :
    ∃ earlier registration during page next, moves = earlier ++ registration :: during ∧
      registration.transition = .register key page ∧ page.number = number ∧
      (∀ move ∈ during, ¬ move.transition.Withdraws key page.number) ∧ page.Continues final ∧
      Trail next during machine ∧ next.Consistent ∧ next.page? key page.number = some page := by
  obtain ⟨earlier, ⟨_, _⟩, during, page, rfl, rfl, rfl, stays⟩ :=
    trail.exists_registration consistent vacant (Option.isSome_of_eq_some found)
  obtain ⟨toRegistration, next, registers, rest⟩ := trail.split
  have nextConsistent := registers.consistent (toRegistration.consistent consistent).1
  have there := registers.page?_of_registers
  obtain ⟨_, known, continues, _⟩ := rest.continues nextConsistent there stays
  cases found.symm.trans known
  exact ⟨earlier, _, during, page, next, rfl, rfl, rfl, stays, continues, rest, nextConsistent, there⟩

/-- A page that was registered and does not wait any more was loaded for the first time. -/
theorem exists_leaves {moves : List (Move config)} (trail : Trail start moves machine)
    (consistent : start.Consistent) (found : start.page? key page.number = some page)
    (pending : page.kind.IsPending)
    (stays : ∀ move ∈ moves, ¬ move.transition.Withdraws key page.number)
    (materialised : ¬ machine.IsPending key page.number) :
    ∃ earlier load since bytes, moves = earlier ++ load :: since ∧ load.Leaves key page bytes := by
  obtain ⟨later, known, _, waits⟩ := trail.continues consistent found stays
  have isLoaded : ∃ move ∈ moves, move.Materialises key page.number := by
    by_contra unloaded
    exact materialised ⟨later, known, waits.mpr ⟨pending, fun move listed materialises =>
      unloaded ⟨move, listed, materialises⟩⟩⟩
  obtain ⟨⟨before, _⟩, listed, ⟨frame, rfl⟩, current, there, stillPending⟩ := isLoaded
  obtain ⟨earlier, since, rfl⟩ := List.append_of_mem listed
  obtain ⟨first, next, leads, _⟩ := trail.split
  obtain ⟨_, there', continues, _⟩ := first.continues consistent found fun move listed =>
    stays move (List.mem_append_left _ listed)
  cases there.symm.trans there'
  have loaded : ∃ kind window, current.kind.load page.number
      ((before.record (.loading key page.number)).window frame) = .done kind window := by
    generalize page.number = number at *
    cases leads with
    | load known _ _ loaded =>
      cases there.symm.trans known
      exact ⟨_, _, loaded⟩
  obtain ⟨kind, window, loaded⟩ := loaded
  exact ⟨earlier, _, since, window.bytes, rfl, rfl, there, continues, stillPending, loaded, rfl⟩

end Trail

/-! ## Registrations -/

/-- Pages that are registered wait to be loaded, but for copies of pages. -/
theorem Operation.Takes.isPending_of_register {operation : Operation config}
    {start current : Machine config} {key : SpaceKey} {page : Page config}
    (takes : operation.Takes start current (.register key page))
    (forksNone : ∀ parent, operation ≠ .fork parent)
    (copiesNone : ∀ child parent, operation ≠ .copy child parent) : page.kind.IsPending := by
  have accessed : ∀ {space : SpaceKey} {number : PageNumber},
      (Transition.register key page).Accesses space number → page.kind.IsPending := by
    rintro space number ((isQuiet | ⟨_, same⟩) | same | same)
    · exact isQuiet.elim
    · cases same
    · cases same
      exact trivial
    · cases same
  have dropped : ∀ {space : SpaceKey}, ¬ (Transition.register key page).Drops space := by
    rintro space ((discards | same) | same)
    · exact discards
    · cases same
    · cases same
  cases operation with
  | create | setSwapFaults | closeFile | writeFile | setFileFaults =>
    have same : Transition.register key page = _ := takes
    cases same
  | drop => exact absurd takes dropped
  | fork => exact absurd rfl (forksNone _)
  | copy => exact absurd rfl (copiesNone _ _)
  | shutdown => exact takes.elim
  | takeFrame | returnFrame | createFile =>
    obtain ⟨_, same⟩ := takes
    cases same
  | request _ asked =>
    cases asked with
    | allocate =>
      rcases takes with ⟨_, same⟩ | ⟨_, _, _, same⟩
      · cases same
      · cases same
        exact trivial
    | claim | fault | userFault => exact accessed takes
    | remove | recordStackPointer =>
      have same : Transition.register key page = _ := takes
      cases same
    | read =>
      obtain ⟨_, accesses⟩ := takes
      exact accessed accesses
    | write =>
      rcases takes with ⟨_, accesses⟩ | ⟨_, _, _, same⟩
      · exact accessed accesses
      · cases same
    | map =>
      rcases takes with ⟨_, same⟩ | same | same | ⟨_, _, _, same⟩
      · cases same
      · cases same
      · cases same
      · cases same
        exact trivial
    | unmap | tearDown => exact absurd (.inl takes) dropped

/-- A registration that succeeds adds the page that was asked for. -/
theorem Operation.Performs.registers_of_allocate {key : SpaceKey} {request : TargetRequest}
    {address : VirtualAddress} {writable : Bool} {body : Option (InitializerBody config)}
    {machine later : Machine config} {result : Except VmError Answer}
    (performs : (Operation.request key (.allocate request address writable body)).Performs machine result
      later) (succeeds : result = .ok .done) :
    ∃ target, request.Grants target ∧
      (Transition.register key (Page.awaiting (address.page config) writable target
        (machine.namedInitializer body))).Leads (machine.listed body) later := by
  cases performs with
  | refused | noFrame => cases succeeds
  | requested _ performs =>
    cases performs with
    | refused => cases succeeds
    | listed shown =>
      obtain ⟨_, refused⟩ := shown _ succeeds
      cases refused
    | allocated grants registers => exact ⟨_, grants, registers⟩

/-- A page that a program has asked for waits, with the target and the initializer that were asked for. -/
theorem Episode.Leads.registers {allocating : Episode config} {next : Machine config}
    (leads : allocating.Leads next) (atRest : allocating.start.AtRest) {key : SpaceKey}
    {request : TargetRequest} {address : VirtualAddress} {writable : Bool}
    {body : Option (InitializerBody config)}
    (asks : allocating.operation = .request key (.allocate request address writable body))
    (succeeds : allocating.result = .ok .done) :
    ∃ first registration last target initializer, allocating.moves = first ++ registration :: last ∧
      registration.transition =
        .register key (Page.awaiting (address.page config) writable target initializer) ∧
      request.Grants target ∧ initializer.map Initializer.run = body := by
  have performs := leads.yields.performs atRest leads.permitted
  rw [asks] at performs
  obtain ⟨target, grants, registers⟩ := performs.registers_of_allocate succeeds
  have listed : (allocating.start.listed body).page? = allocating.start.page? := by
    unfold Machine.listed
    split <;> rfl
  have vacant : allocating.start.page? key (address.page config) = none := by
    rw [← listed]
    cases registers with
    | register vacant => exact vacant
  obtain ⟨first, registration, last, page, _, parts, isRegistered, numbered, _, continues, _⟩ :=
    leads.trail.exists_continued atRest.consistent vacant registers.page?_of_registers
  -- the page that is there in the end waits, so it is as it was registered
  have same : page = Page.awaiting (address.page config) writable target
      (allocating.start.namedInitializer body) := by
    have takes := leads.takes registration (parts ▸ List.mem_append_right _ List.mem_cons_self)
    rw [asks, isRegistered] at takes
    rcases takes with ⟨_, lists⟩ | ⟨_, _, _, same⟩
    · cases lists
    · cases same
      cases continues.pending trivial
      rfl
  exact ⟨first, registration, last, target, _, parts, same ▸ isRegistered, grants,
    allocating.start.run_namedInitializer body⟩

/-! ## Runs -/

namespace Chronicle

variable {start machine : Machine config} {episodes : List (Episode config)}
  {earlier since later : List (Move config)} {load : Move config} {key : SpaceKey}
  {page : Page config} {bytes : PageBytes config} {index : Nat}

/-- A byte that the first load of a page has left in it is shown as long as nothing is done to it. -/
theorem shows_of_leavesByte (chronicle : Chronicle start episodes machine)
    (consistent : start.Consistent) (reach : start.FilesReach)
    (faithful : ∀ episode ∈ episodes, episode.IsFaithful)
    (parts : Episode.allMoves episodes = earlier ++ load :: (since ++ later))
    (leaves : load.LeavesByte key page bytes index since) {middle : Machine config}
    (trail : Trail start (earlier ++ load :: since) middle) :
    middle.Shows key page index (bytes.byteAt index) := by
  have reached := (chronicle.filesReach consistent reach).2
  apply trail.shows_of_leavesByte consistent (fun move listed => reached move (by simp [parts, listed]))
    leaves
  obtain ⟨loads, _⟩ := leaves.leaves
  exact chronicle.uncopied consistent faithful parts loads leaves.stays

/-- A read that finds a byte of a page after the first load of the page finds what was left in it. -/
theorem byte_of_fetches {before after : List (Episode config)} {reading : Episode config}
    (chronicle : Chronicle start (before ++ reading :: after) machine) (consistent : start.Consistent)
    (reach : start.FilesReach) (faithful : ∀ episode ∈ before ++ reading :: after, episode.IsFaithful)
    (spares : ∀ move ∈ reading.moves, move.transition ≠ .discard key page.number)
    (parts : Episode.allMoves before ++ reading.moves = earlier ++ load :: since) {place : Nat}
    (leaves : load.LeavesByte key page bytes (place % config.pageSize) since) {byte : UInt8}
    (fetches : Trail.Fetches reading.start reading.moves key place byte)
    (here : place / config.pageSize = page.number.word.toNat) : byte = bytes.byteAt place := by
  obtain ⟨prior, next, leads, _⟩ := chronicle.split
  obtain @⟨first, rest, middle, last, number, frame, split, trail, onward, here', resident, rfl⟩ := fetches
  obtain rfl : number = page.number := by
    apply Numbered.number_injective
    show number.word.toNat = page.number.word.toNat
    rw [← here', here]
  have toMiddle := prior.trail.trans trail
  -- the page was resident when the byte was found, so its first load was before that
  have notAfterwards : load ∉ rest := fun listed =>
    onward.not_leaves_of_resident (toMiddle.consistent consistent).1 resident
      (fun move within => spares move (split ▸ List.mem_append_right _ within)) load listed leaves.leaves
  rw [split, ← List.append_assoc] at parts
  rcases List.append_eq_append_iff.mp parts with ⟨part, _, same⟩ | ⟨part, same, sinceLoad⟩
  · exact absurd (same ▸ List.mem_append_right _ List.mem_cons_self) notAfterwards
  · cases part with
    | nil =>
      rw [List.nil_append] at sinceLoad
      exact absurd (sinceLoad ▸ List.mem_cons_self) notAfterwards
    | cons head part =>
      obtain ⟨rfl, rfl⟩ := List.cons.inj sinceLoad
      rw [same] at toMiddle
      have whole : Chronicle start (before ++ [reading]) next :=
        .step prior leads.permitted leads.yields leads.trail leads.takes
      have isFaithful : ∀ episode ∈ before ++ [reading], episode.IsFaithful := by
        intro episode listed
        rw [List.append_cons] at faithful
        exact faithful episode (List.mem_append_left _ listed)
      have allParts : Episode.allMoves (before ++ [reading]) = earlier ++ load :: (part ++ rest) := by
        rw [Episode.allMoves, List.flatMap_append, List.flatMap_singleton, split, ← List.append_assoc]
        exact (congrArg (· ++ rest) same).trans (List.append_assoc ..)
      obtain ⟨current, found, _, _, shown⟩ :=
        whole.shows_of_leavesByte consistent reach isFaithful allParts leaves.of_append toMiddle
      rw [frame?_of_found found] at resident
      rw [shown_of_resident resident, PageBytes.byteAt_mod, PageBytes.byteAt_mod] at shown
      exact shown

end Chronicle

/-- A read discards no page. -/
theorem Operation.Takes.not_discard_of_read {start current : Machine config} {key space : SpaceKey}
    {address : VirtualAddress} {buffer : Bytes} {number : PageNumber} :
    ¬ (Operation.request space (.read address buffer)).Takes start current (.discard key number) := by
  rintro ⟨_, (isQuiet | ⟨_, same⟩) | same | same⟩
  · exact isQuiet
  · cases same
  · cases same
  · cases same

/-- What the first load of a page leaves in it lasts on a run. -/
structure Chronicle.IsDurable (start : Machine config) (episodes : List (Episode config))
    (machine : Machine config) : Prop where
  /-- A registration that succeeds registers a page that waits, with what was asked for. -/
  registered : ∀ {before after : List (Episode config)} {allocating : Episode config} {key : SpaceKey}
    {request : TargetRequest} {address : VirtualAddress} {writable : Bool}
    {body : Option (InitializerBody config)}, episodes = before ++ allocating :: after →
    allocating.operation = .request key (.allocate request address writable body) →
    allocating.result = .ok .done →
      ∃ first registration last target initializer,
        allocating.moves = first ++ registration :: last ∧
        registration.transition =
          .register key (Page.awaiting (address.page config) writable target initializer) ∧
        request.Grants target ∧ initializer.map Initializer.run = body
  /-- The page waits until it is loaded for the first time. -/
  materialised : ∀ {earlier : List (Move config)} {registration : Move config}
    {during later : List (Move config)} {key : SpaceKey} {page : Page config},
    Episode.allMoves episodes = earlier ++ registration :: (during ++ later) →
    registration.transition = .register key page → page.kind.IsPending →
    (∀ move ∈ during, ¬ move.transition.Withdraws key page.number) →
      ∃ middle, Trail start (earlier ++ registration :: during) middle ∧ Trail middle later machine ∧
        (middle.IsPending key page.number ∨ ∃ before load since bytes,
          during = before ++ load :: since ∧ load.Leaves key page bytes)
  /-- This leaves what the initializer, if there is one, made of zeros or of the bytes of the file. -/
  initialized : ∀ {load : Move config} {key : SpaceKey} {page : Page config}
    {bytes : PageBytes config}, load ∈ Episode.allMoves episodes → load.Leaves key page bytes →
      ∃ kind filled, page.kind.target.Filled load.before.environment kind filled ∧
        Initializer.Applied load.before.environment page.number filled page.kind.initializer? bytes
  /-- The page shows a byte of that as long as nothing is done to the byte. -/
  shown : ∀ {earlier : List (Move config)} {load : Move config} {since later : List (Move config)}
    {key : SpaceKey} {page : Page config} {bytes : PageBytes config} {index : Nat},
    Episode.allMoves episodes = earlier ++ load :: (since ++ later) →
    load.LeavesByte key page bytes index since →
      ∃ middle, Trail start (earlier ++ load :: since) middle ∧ Trail middle later machine ∧
        middle.Shows key page index (bytes.byteAt index)
  /-- A copy from user memory returns the byte as far as it gets. -/
  returned : ∀ {before after : List (Episode config)} {reading : Episode config} {key : SpaceKey}
    {address : VirtualAddress} {buffer filled : Bytes} {result : Except VmError Unit},
    episodes = before ++ reading :: after →
    reading.operation = .request key (.read address buffer) →
    reading.result = .ok (.filled filled result) →
      ∃ reached ≤ buffer.size, StopsAt config address buffer.size reached result ∧
        ∀ place < reached, ∀ {earlier since : List (Move config)} {load : Move config}
          {page : Page config} {bytes : PageBytes config},
          Episode.allMoves before ++ reading.moves = earlier ++ load :: since →
          (address.word.toNat + place) / config.pageSize = page.number.word.toNat →
          load.LeavesByte key page bytes ((address.word.toNat + place) % config.pageSize) since →
            filled[place]? = some (bytes.byteAt (address.word.toNat + place))
  /-- An eviction that does not save a byte loses it. -/
  lost : ∀ {earlier later : List (Move config)} {move : Move config} {key : SpaceKey}
    {page : Page config} {index : Nat} {byte : UInt8},
    Episode.allMoves episodes = earlier ++ move :: later →
    move.transition.Evicts key page.number → page.Retains index → ¬ move.Disturbs key page index →
    ¬ move.before.Backs key page index byte →
      ∃ next, Trail start (earlier ++ [move]) next ∧ Trail next later machine ∧
        ¬ next.Shows key page index byte

/-- What loads leave lasts on every chronicle whose operations are faithful. -/
theorem Chronicle.isDurable {start machine : Machine config} {episodes : List (Episode config)}
    (chronicle : Chronicle start episodes machine) (atRest : start.AtRest) (reach : start.FilesReach)
    (faithful : ∀ episode ∈ episodes, episode.IsFaithful) :
    Chronicle.IsDurable start episodes machine where
  registered := by
    rintro before after allocating key request address writable body rfl asks answers
    obtain ⟨prior, _, leads, _⟩ := chronicle.split
    exact leads.registers (prior.run.atRest_of_start atRest) asks answers
  materialised := by
    rintro earlier ⟨before, _⟩ during later key page parts rfl pending stays
    have trail := chronicle.trail
    rw [parts] at trail
    obtain ⟨first, next, registers, rest⟩ := trail.split
    obtain ⟨middle, second, last⟩ := rest.cut
    have nextConsistent := registers.consistent (first.consistent atRest.consistent).1
    have found := registers.page?_of_registers
    have whole := (first.trans (.single registers)).trans second
    rw [List.append_assoc] at whole
    refine ⟨middle, whole, last, ?_⟩
    by_cases waits : middle.IsPending key page.number
    · exact .inl waits
    · exact .inr (second.exists_leaves nextConsistent found pending stays waits)
  initialized _ leaves := leaves.applied
  shown := by
    intro earlier load since later key page bytes index parts leaves
    have trail := chronicle.trail
    rw [parts, ← List.cons_append, ← List.append_assoc] at trail
    obtain ⟨middle, first, rest⟩ := trail.cut
    exact ⟨middle, first, rest,
      chronicle.shows_of_leavesByte atRest.consistent reach faithful parts leaves first⟩
  returned := by
    rintro before after reading key address buffer filled result rfl reads answers
    obtain ⟨_, _, leads, _⟩ := chronicle.split
    have isFaithful := faithful reading (List.mem_append_right _ List.mem_cons_self)
    obtain ⟨reached, within, stops, found⟩ := isFaithful.reads reads answers
    refine ⟨reached, within, stops, fun place before' earlier since load page bytes parts here leaves =>
      ?_⟩
    obtain ⟨byte, isFilled, fetches⟩ := found place before'
    rw [isFilled]
    have spares : ∀ move ∈ reading.moves, move.transition ≠ .discard key page.number := by
      intro move listed discards
      have takes := leads.takes move listed
      rw [reads, discards] at takes
      exact Operation.Takes.not_discard_of_read takes
    exact congrArg some
      (chronicle.byte_of_fetches atRest.consistent reach faithful spares parts leaves fetches here)
  lost := by
    intro earlier later move key page index byte parts evicts retains undisturbed unsaved
    have trail := chronicle.trail
    rw [parts] at trail
    obtain ⟨first, next, leads, rest⟩ := trail.split
    exact ⟨next, first.step leads, rest,
      leads.not_shows_of_evict (first.consistent atRest.consistent).1 retains undisturbed evicts unsaved⟩

/-- In every run what an initializer leaves in a page lasts, up to what the first eviction of a page of a
file does not save. -/
theorem Run.initialized_durable {frames slots : Nat} {log : OperationLog config}
    {machine : Machine config} (run : Run (.boot config frames slots) log machine) :
    ∃ episodes, Chronicle (.boot config frames slots) episodes machine ∧
      episodes.map Episode.entry = log ∧
      Chronicle.IsDurable (.boot config frames slots) episodes machine := by
  have bootRest := boot_atRest config frames slots
  obtain ⟨episodes, chronicle, entries, faithful⟩ := run.faithful_chronicle bootRest
  have reach := filesReach_of_fresh fun key number =>
    (rfl : (Machine.boot config frames slots).frame? key number = none)
  exact ⟨episodes, chronicle, entries, chronicle.isDurable bootRest reach faithful⟩

/-- Where no operation may write to a space, what was left in an anonymous page of the space is never
disturbed. -/
theorem Chronicle.exists_leavesByte {start machine : Machine config} {episodes : List (Episode config)}
    (chronicle : Chronicle start episodes machine) (consistent : start.Consistent) {key : SpaceKey}
    {number : PageNumber} (vacant : start.page? key number = none)
    (idle : ∀ episode ∈ episodes, ¬ episode.operation.MayWriteTo key) {final : Page config}
    (found : machine.page? key number = some final) (isAnonymous : final.kind.type = .anonymous) :
    ∃ earlier load since page bytes, Episode.allMoves episodes = earlier ++ load :: since ∧
      page.number = number ∧
      ∀ index < config.pageSize, load.LeavesByte key page bytes index since := by
  -- The page starts out pending and does not end so: in between lies the load that fills it.
  obtain ⟨notPending, noFile⟩ : ¬ final.kind.IsPending ∧ final.kind.backing? = none := by
    generalize final.kind = kind at isAnonymous
    cases kind with
    | anonymous => exact ⟨id, rfl⟩
    | unloaded target => cases target <;> cases isAnonymous
    | file => cases isAnonymous
  obtain ⟨before, ⟨_, _⟩, during, page, next, parts, rfl, rfl, stays, continues, rest, consistent',
    there⟩ := chronicle.trail.exists_continued consistent vacant found
  have pending : page.kind.IsPending := by
    obtain ⟨episode, known, member⟩ := List.mem_flatMap.mp
      (parts ▸ List.mem_append_right _ List.mem_cons_self)
    obtain ⟨_, _, rfl⟩ := List.append_of_mem known
    obtain ⟨_, _, leads, _⟩ := chronicle.split
    refine (leads.takes _ member).isPending_of_register ?_ ?_
    · exact fun parent forks => idle episode known (forks ▸ trivial)
    · exact fun child parent copies => idle episode known (copies ▸ trivial)
  obtain ⟨earlier, load, since, bytes, rfl, leaves⟩ := rest.exists_leaves consistent' there pending
    stays fun ⟨_, there', waits⟩ => by
      cases found.symm.trans there'
      exact notPending waits
  have anonymous : page.kind.backing? = none := continues.backing?_eq.symm.trans noFile
  refine ⟨_, load, since, page, bytes, parts.trans (by rw [← List.cons_append, ← List.append_assoc]),
    rfl, fun index inside => ⟨leaves, ⟨inside, ?_⟩, ?_, isSavedFirst_of_anonymous anonymous since⟩⟩
  · intro backing uses
    cases anonymous.symm.trans uses
  · intro move listed disturbs
    have within : move ∈ Episode.allMoves episodes := by simp [parts, listed]
    cases disturbs with
    | withdrawn withdraws => exact stays move (by simp [listed]) withdraws
    | overwritten stores =>
      obtain ⟨episode, known, member⟩ := List.mem_flatMap.mp within
      have writes : move.Writes key page.number := .inl ⟨_, _, stores⟩
      exact idle episode known ((chronicle.isDueTo episode known move member).mayWriteTo writes)
    | replaced uses => cases anonymous.symm.trans uses
    | saved uses => cases anonymous.symm.trans uses

/-- A program with a page whose initializer stores one byte. It reads the page, and then needs its frame
for another page. -/
def initializedProgram (target : TargetRequest) : List (Operation .small) :=
  let space : SpaceKey := ⟨.main, ⟨1⟩⟩
  [.create .main,
    .createFile #[10, 11, 12, 13],
    .request space (.allocate target ⟨4⟩ true (some fun _ _ bytes => (bytes.overwrite 0 #[7], none))),
    .request space (.read ⟨4⟩ #[0]),
    .request space (.allocate .anonymous ⟨8⟩ true none),
    .request space (.claim ⟨8⟩)]

/-- The byte that the initializer of an anonymous page left is read again after the page was evicted. -/
theorem Run.initialized_durable_evicted : ∃ log middle machine episodes earlier load since page bytes,
    performAll (initializedProgram .anonymous) (.boot .small 1 8) = some (log, middle) ∧
    middle.frame? ⟨.main, ⟨1⟩⟩ ⟨1⟩ = none ∧
    (Operation.request ⟨.main, ⟨1⟩⟩ (.read ⟨4⟩ #[0])).Yields middle (.ok (.filled #[7] (.ok ()))) machine ∧
    Chronicle (.boot .small 1 8) episodes machine ∧
    Chronicle.IsDurable (.boot .small 1 8) episodes machine ∧
    Episode.allMoves episodes = earlier ++ load :: since ∧
    load.LeavesByte ⟨.main, ⟨1⟩⟩ page bytes 0 since ∧ bytes.byteAt 0 = 7 := by
  let space : SpaceKey := ⟨.main, ⟨1⟩⟩
  have performed : ((performAll (initializedProgram .anonymous) (.boot .small 1 8)).any
      fun reached => decide (∀ entry ∈ reached.1, ¬ entry.1.MayWriteTo space) &&
        decide (reached.2.frame? space ⟨1⟩ = none) &&
        (Operation.request space (.read ⟨4⟩ #[0])).yieldsWith reached.2 fun result machine =>
          result = .ok (.filled #[7] (.ok ())) &&
          (machine.page? space ⟨1⟩).any (·.kind.type = .anonymous)) = true := by
    decide +kernel
  obtain ⟨⟨log, middle⟩, outcome, facts⟩ := (Option.any_eq_true _ _).mp performed
  obtain ⟨before, reads⟩ := Bool.and_eq_true_iff.mp facts
  obtain ⟨idle, evicted⟩ := Bool.and_eq_true_iff.mp before
  obtain ⟨result, machine, yields, facts⟩ := Operation.exists_of_yieldsWith reads
  obtain ⟨same, there⟩ := Bool.and_eq_true_iff.mp facts
  obtain rfl : result = .ok (.filled #[7] (.ok ())) := of_decide_eq_true same
  obtain ⟨final, found, isAnonymous⟩ := (Option.any_eq_true _ _).mp there
  have permitted : (Operation.request space (.read ⟨4⟩ #[0])).IsPermitted middle := trivial
  obtain ⟨episodes, chronicle, entries, durable⟩ :=
    Run.initialized_durable ((Run.nil.append outcome).step permitted yields)
  have unwritten : ∀ episode ∈ episodes, ¬ episode.operation.MayWriteTo space := by
    intro episode listed
    have performed : episode.entry ∈ _ := entries ▸ List.mem_map_of_mem listed
    rcases List.mem_append.mp performed with earlier | last
    · exact of_decide_eq_true idle _ (by simpa using earlier)
    · rw [show episode.operation = _ from congrArg Prod.fst (List.mem_singleton.mp last)]
      exact id
  obtain ⟨earlier, load, since, page, bytes, parts, numbered, leaves⟩ :=
    chronicle.exists_leavesByte (boot_consistent .small 1 8) rfl unwritten found
      (of_decide_eq_true isAnonymous)
  obtain ⟨others, last, rfl, _, lastIs⟩ := List.map_eq_append_iff.mp entries
  obtain ⟨reading, rfl, isRead⟩ := List.map_eq_singleton_iff.mp lastIs
  obtain ⟨reached, _, stops, returned⟩ :=
    durable.returned rfl (congrArg Prod.fst isRead) (congrArg Prod.snd isRead)
  have byte := returned 0 (stops ▸ by decide) (by simpa [Episode.allMoves] using parts)
    (by rw [numbered]; decide) (leaves _ (by decide))
  refine ⟨log, middle, machine, _, earlier, load, since, page, bytes, outcome,
    of_decide_eq_true evicted, yields, chronicle, durable, parts, leaves 0 (by decide), ?_⟩
  rw [← PageBytes.byteAt_mod] at byte
  exact (Option.some.inj byte).symm

/-- The byte that the initializer of a page of a file left is read until the page is evicted, and no
more after that, though nobody has written to the page or to the file. -/
theorem initialized_byte_lost : ∃ log operation middle machine,
    performAll (initializedProgram (.file ⟨0⟩ 0 4 0)) (.boot .small 1 8) = some (log, middle) ∧
    log[3]? = some (operation, .ok (.filled #[7] (.ok ()))) ∧
    (∀ entry ∈ log, ¬ entry.1.MayWriteTo ⟨.main, ⟨1⟩⟩) ∧
    middle.environment.fileByte ⟨0⟩ 0 = 10 ∧
    (Operation.request ⟨.main, ⟨1⟩⟩ (.read ⟨4⟩ #[0])).Yields middle (.ok (.filled #[10] (.ok ())))
      machine := by
  have performed : ((performAll (initializedProgram (.file ⟨0⟩ 0 4 0)) (.boot .small 1 8)).any
      fun reached => reached.1[3]?.any (fun entry => entry.2 = .ok (.filled #[7] (.ok ()))) &&
        decide (∀ entry ∈ reached.1, ¬ entry.1.MayWriteTo ⟨.main, ⟨1⟩⟩) &&
        decide (reached.2.environment.fileByte ⟨0⟩ 0 = 10) &&
        (Operation.request ⟨.main, ⟨1⟩⟩ (.read ⟨4⟩ #[0])).yieldsWith reached.2 fun result _ =>
          result = .ok (.filled #[10] (.ok ()))) = true := by
    decide +kernel
  obtain ⟨⟨log, middle⟩, outcome, facts⟩ := (Option.any_eq_true _ _).mp performed
  obtain ⟨before, reads⟩ := Bool.and_eq_true_iff.mp facts
  obtain ⟨before, unchanged⟩ := Bool.and_eq_true_iff.mp before
  obtain ⟨shown, idle⟩ := Bool.and_eq_true_iff.mp before
  obtain ⟨⟨operation, first⟩, isLogged, same⟩ := (Option.any_eq_true _ _).mp shown
  obtain rfl : first = .ok (.filled #[7] (.ok ())) := of_decide_eq_true same
  obtain ⟨second, machine, yields, same⟩ := Operation.exists_of_yieldsWith reads
  obtain rfl : second = .ok (.filled #[10] (.ok ())) := of_decide_eq_true same
  exact ⟨log, operation, middle, machine, outcome, isLogged, of_decide_eq_true idle,
    of_decide_eq_true unchanged, yields⟩

end DemandPaging

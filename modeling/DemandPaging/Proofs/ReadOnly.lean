import DemandPaging.Proofs.Permission
import DemandPaging.Proofs.Placement
import DemandPaging.Proofs.UserCopy.Stored

/-!
# Read-only pages

Two checks keep a read-only page from being written to: that of the mapping while the page is resident
and that of the page map while it is not. They agree, because every mapping is made with the permission
of its page. So a write is refused wherever the page is, and the machine stays exactly as it was; a copy
that comes to the page from the pages before it stops there; and no file is changed on account of the
page.
-/

namespace DemandPaging

variable {config : Config}

/-! ## Writes that are refused -/

namespace Machine

variable {key : SpaceKey} {base : VirtualAddress} {bytes : Bytes} {machine later : Machine config}

/-- An address is in a read-only page. -/
structure Denies (machine : Machine config) (key : SpaceKey) (address : VirtualAddress) : Prop where
  nameable : address.isNameable config = true
  readOnly : machine.permission? key (address.page config) = some false

/-- A copy to user memory takes no page away, unless it is denied the one it has just registered. -/
theorem WritesChunks.retains {chunks : List Chunk} {result : Except VmError Unit}
    (writes : WritesChunks key base bytes chunks machine result later) (atRest : machine.AtRest)
    (number : PageNumber) : machine.Retains key number later := by
  induction writes with
  | done => exact .of_page? rfl
  | chunk _ _ accessed leads _ inductionHypothesis =>
    have middleRest := (accessed.passes atRest).atRest
    have goesOn := inductionHypothesis (leads.atRest middleRest)
    exact (accessed.retains atRest).trans
      ((leads.retains middleRest.consistent trivial).trans goesOn)
  | denied denied => exact denied.retains atRest

/-- A page that is retained keeps its permission. -/
theorem Retains.permission?_eq {number : PageNumber} (retains : machine.Retains key number later)
    {writable : Bool} (known : machine.permission? key number = some writable) :
    later.permission? key number = some writable := by
  obtain ⟨page, found, rfl⟩ := exists_of_permission? known
  obtain ⟨page', found', same, _⟩ := retains page found
  rw [permission?_of_found found', same]

/-- A mapping permits writing if and only if its page does. -/
theorem Fits.writable_eq (fits : machine.Fits) {number : PageNumber} {entry : PageTableEntry}
    (mapped : machine.mapped? key number = some entry) :
    machine.permission? key number = some entry.flags.writable := by
  obtain ⟨page, found, _, _, dirty, flags⟩ := fits.page_of_entry mapped
  rw [permission?_of_found found, flags]
  rfl

end Machine

namespace KernelAction

open Machine Chunk

variable {key : SpaceKey} {base address : VirtualAddress} {bytes : Bytes}
  {machine middle : Machine config}

/-- A fault for writing to a read-only page is refused, wherever the page is. -/
theorem handleFault_denied {fault : PageFault} (denies : machine.Denies key fault.address)
    (write : fault.cause.write = true) :
    handleFault key fault machine = .failed .accessViolation machine := by
  obtain ⟨page, found, locked⟩ := exists_of_permission? denies.readOnly
  have known : (machine.space key).pages.get? (fault.address.page config) = some page := found
  unfold handleFault
  rw [Action.bind_of_done (Action.require_eq_done_iff.mpr ⟨denies.nameable, rfl⟩)]
  cases fault.cause.notPresent with
  | false => exact Action.bind_of_failed rfl
  | true =>
    rw [Action.bind_of_done (Action.require_eq_done_iff.mpr ⟨rfl, rfl⟩)]
    rw [Action.bind_of_done space_eq_done]
    simp only [known, write, locked]
    exact Action.bind_of_failed rfl

/-- The kernel finds no frame to write to for a read-only page: a mapped one is not mapped for writing,
and one that is not mapped is not loaded for writing. -/
theorem accessFrame_denied (denies : machine.Denies key address) (fits : machine.Fits) :
    accessFrame key address true machine = .failed .accessViolation machine := by
  unfold accessFrame
  rw [Action.bind_of_done (Action.require_eq_done_iff.mpr ⟨denies.nameable, rfl⟩)]
  unfold frameWithin
  rw [Action.bind_of_done space_eq_done]
  cases mapped : machine.mapped? key (address.page config) with
  | none =>
    have absent : (machine.space key).pageTable.get? (address.page config) = none := mapped
    simp only [absent]
    exact Action.bind_of_failed (handleFault_denied denies rfl)
  | some entry =>
    have present : (machine.space key).pageTable.get? (address.page config) = some entry := mapped
    have locked := (fits.writable_eq mapped).symm.trans denies.readOnly
    simp only [present, Option.some.inj locked]
    exact Action.bind_of_failed rfl

/-- A chunk for a read-only page is refused, resident or not, before anything has changed. -/
theorem writeChunk_denied {chunk : Chunk} (denies : machine.Denies key address)
    (fits : machine.Fits) (within : base.checkedAdd (UInt64.ofNat chunk.start) = some address) :
    writeChunk key base bytes chunk machine = .failed .accessViolation machine := by
  unfold writeChunk
  rw [Action.bind_of_done (orFail_eq_done within)]
  exact Action.bind_of_failed (accessFrame_denied denies fits)

/-- A copy that has come to a read-only page ends there. -/
theorem copyToUser_denied {stop : Nat} (denies : middle.Denies key address) (fits : middle.Fits)
    (inside : stop < pageCount config base.word.toNat bytes.size)
    (place : address.word.toNat = base.word.toNat + entry config base.word.toNat bytes.size stop)
    (done : copyToUser key base
      (bytes.extract 0 (entry config base.word.toNat bytes.size stop)) machine = .done () middle) :
    copyToUser key base bytes machine = .failed .accessViolation middle := by
  obtain ⟨more, _, same⟩ := copyToUser_of_extract inside done
  rw [same]
  exact Action.bind_of_failed
    (writeChunk_denied denies fits (VirtualAddress.checkedAdd_of_toNat_eq place))

/-- A copy that begins in a read-only page ends there. -/
theorem copyToUser_denied_first (denies : machine.Denies key address) (fits : machine.Fits)
    (nonempty : 0 < bytes.size) :
    copyToUser key address bytes machine = .failed .accessViolation machine := by
  refine copyToUser_denied denies fits (pageCount_pos nonempty) ?_ copyToUser_extract_zero
  rw [entry_zero, Nat.add_zero]

/-- A copy that comes to a read-only page from the page before it ends there. -/
theorem copyToUser_denied_later {done : Nat} (atRest : machine.AtRest)
    (placed : machine.PagesPlaced) (positive : 0 < done) (inside : done < bytes.size)
    (place : address.word.toNat = base.word.toNat + done)
    (aligned : address.isPageAligned config = true)
    (readOnly : machine.permission? key (address.page config) = some false)
    (copied : copyToUser key base (bytes.extract 0 done) machine = .done () middle) :
    copyToUser key base bytes machine = .failed .accessViolation middle := by
  obtain ⟨page, found, -⟩ := exists_of_permission? readOnly
  have whole : address.word.toNat = (address.page config).word.toNat * config.pageSize := by
    rw [VirtualAddress.toNat_page]
    exact (Nat.div_mul_cancel
      (Nat.dvd_of_mod_eq_zero ((address.isPageAligned_iff config).mp aligned))).symm
  -- the page begins at the address, and registered pages begin in user memory
  have nameable : address.isNameable config = true := by
    rw [VirtualAddress.isNameable_iff]
    refine ⟨by omega, ?_⟩
    rw [whole]
    exact placed key _ (found ▸ rfl)
  have writes := (copyToUser_ends atRest (isSome_of_page? found) _).of_done copied
  have denies : middle.Denies key address :=
    ⟨nameable, (writes.retains atRest _).permission?_eq readOnly⟩
  obtain ⟨stop, _, early, rfl⟩ := exists_entry (place.symm.trans whole) positive inside
  exact copyToUser_denied denies (writes.passes atRest).atRest.consistent.fits early place copied

end KernelAction

/-! ## Protection -/

namespace Machine

open KernelAction

variable {machine : Machine config}

/-- Writes to read-only pages are refused and leave no trace, and writes to resident pages that may be
written to are carried out. -/
structure Protects (machine : Machine config) : Prop where
  /-- The check of a mapping agrees with that of the page. -/
  mapped : ∀ {key number entry}, machine.mapped? key number = some entry →
    machine.permission? key number = some entry.flags.writable
  faulted : ∀ {key} {fault : PageFault}, machine.Denies key fault.address →
    fault.cause.write = true → handleFault key fault machine = .failed .accessViolation machine
  begun : ∀ {key address} {bytes : Bytes}, machine.Denies key address → 0 < bytes.size →
    copyToUser key address bytes machine = .failed .accessViolation machine
  /-- A copy that has filled the page before a read-only page stops there. -/
  reached : ∀ {key} {base address : VirtualAddress} {bytes : Bytes} {done middle},
    machine.permission? key (address.page config) = some false →
    address.isPageAligned config = true → address.word.toNat = base.word.toNat + done →
    0 < done → done < bytes.size →
    copyToUser key base (bytes.extract 0 done) machine = .done () middle →
      copyToUser key base bytes machine = .failed .accessViolation middle
  clean : machine.ReadOnlyClean
  stored : ∀ {key address page frame} {bytes : Bytes},
    machine.Grants key address page frame → 0 < bytes.size →
      ∃ stored, StoresFirst key address bytes page frame machine stored

/-- A page is registered with the permission that was asked for, or that its model has. -/
structure GivesPermissions (machine : Machine config) : Prop where
  allocated : ∀ {key request address writable body later},
    (Operation.request key (.allocate request address writable body)).Yields machine (.ok .done)
        later →
      later.permission? key (address.page config) = some writable
  mapped : ∀ {key address length writable file offset start later},
    (Operation.request key (.map address length writable file offset)).Yields machine
        (.ok (.mappedAt start)) later →
      ∀ index < config.pagesFor length,
        later.permission? key ((address.page config).advance index) = some writable
  forked : ∀ {parent child root later},
    (Operation.fork parent).Yields machine (.ok (.space child root)) later →
      ∀ number, later.permission? child number = machine.permission? parent number
  copied : ∀ {child parent later}, (Operation.copy child parent).Yields machine (.ok .done) later →
    ∀ number, later.permission? child number =
      (machine.permission? parent number).or (machine.permission? child number)
  /-- However copying a space ends, no page of the copy has a permission of its own. -/
  ended : ∀ {child parent result later},
    (Operation.copy child parent).Yields machine result later → ∀ number,
      later.permission? child number = machine.permission? child number ∨
        later.permission? child number = machine.permission? parent number

/-- Between operations, pages are protected against writes that they do not permit. -/
theorem AtRest.protects (atRest : machine.AtRest) (placed : machine.PagesPlaced)
    (clean : machine.ReadOnlyClean) : machine.Protects where
  mapped := atRest.consistent.fits.writable_eq
  faulted := handleFault_denied
  begun denies := copyToUser_denied_first denies atRest.consistent.fits
  reached readOnly aligned place positive inside :=
    copyToUser_denied_later atRest placed positive inside place aligned readOnly
  clean := clean
  stored grants := copyToUser_granted grants atRest

/-- Between operations, whatever registers a page next gives it the permission that it should have.
-/
theorem AtRest.givesPermissions (atRest : machine.AtRest) : machine.GivesPermissions where
  allocated yields := yields.permission?_of_allocate atRest
  mapped yields _ inside := yields.permission?_of_map atRest inside
  forked yields := yields.permission?_of_fork atRest
  copied yields := yields.permission?_of_copied atRest
  ended yields := yields.permission?_of_copy atRest

/-- A machine that has just started has no pages. -/
theorem boot_readOnlyClean (config : Config) (frames slots : Nat) :
    (boot config frames slots).ReadOnlyClean := nofun

end Machine

/-! ## Read-only pages on the way -/

/-- What the transitions of a way say about the permissions of pages. -/
structure Trail.KeepsPermissions (start : Machine config) (moves : List (Move config))
    (machine : Machine config) : Prop where
  /-- As long as a page is not withdrawn, it has the permission that it was registered with. -/
  tenure : ∀ {earlier : List (Move config)} {registration : Move config}
    {during later : List (Move config)} {key : SpaceKey} {page : Page config},
    moves = earlier ++ registration :: (during ++ later) →
    registration.transition = .register key page →
    (∀ move ∈ during, ¬ move.transition.Withdraws key page.number) →
      ∃ middle, Trail start (earlier ++ registration :: during) middle ∧
        Trail middle later machine ∧ middle.permission? key page.number = some page.writable
  /-- Wherever a transition happened, no read-only page counted as written to. -/
  clean : ∀ move ∈ moves, move.before.ReadOnlyClean
  /-- An attempt to write to a file is owed by a page that may be written to. -/
  attempts : ∀ attempt ∈ machine.writeAttempts, ∃ move ∈ moves, ∃ key number,
    move.transition.EndsResidency key number ∧ attempt ∈ move.before.owed key number ∧
      move.before.permission? key number = some true
  /-- A byte of a file is changed by a page that may be written to, or by an outsider. -/
  files : ∀ {earlier : List (Move config)} {move : Move config} {later : List (Move config)},
    moves = earlier ++ move :: later → ∃ next, move.transition.Leads move.before next ∧
      Trail next later machine ∧ ∀ id position,
        next.environment.fileByte id position ≠ move.before.environment.fileByte id position →
          (∃ key number, move.SavesByte key number id position ∧
            move.before.permission? key number = some true) ∨ move.ReplacesByte id position

namespace Trail

open Machine

variable {start machine : Machine config} {moves : List (Move config)}

/-- On a way that begins without writes, no read-only page is ever written to, nor written back. -/
theorem keepsPermissions (trail : Trail start moves machine) (consistent : start.Consistent)
    (clean : start.ReadOnlyClean) (unwritten : start.writeAttempts = []) :
    Trail.KeepsPermissions start moves machine where
  clean := (trail.readOnlyClean consistent clean).2
  tenure := by
    intro earlier registration during later key page parts registers stays
    subst parts
    rw [← List.cons_append, ← List.append_assoc] at trail
    obtain ⟨middle, first, last⟩ := trail.cut
    exact ⟨middle, first, last, first.permission?_of_registered consistent registers stays⟩
  attempts := by
    intro attempt listed
    rw [trail.writeAttempts_eq, unwritten, List.nil_append] at listed
    obtain ⟨move, member, owed⟩ := List.mem_flatMap.mp listed
    have cleanBefore := (trail.readOnlyClean consistent clean).2 move member
    obtain ⟨key, number, ends, owes⟩ := Move.exists_of_mem_owed owed
    exact ⟨move, member, key, number, ends, owes, cleanBefore.permission?_of_owed owes⟩
  files := by
    intro earlier move later parts
    have member : move ∈ moves := parts ▸ List.mem_append_right _ List.mem_cons_self
    have cleanBefore := (trail.readOnlyClean consistent clean).2 move member
    rw [parts] at trail
    obtain ⟨before, next, leads, after⟩ := trail.split
    refine ⟨next, leads, after, fun id position changed => ?_⟩
    have who := leads.saves_or_replaces (before.consistent consistent).1 changed
    refine who.imp_left fun ⟨key, number, saves⟩ => ⟨key, number, saves, ?_⟩
    obtain ⟨page, _, found, _⟩ := saves.bears
    exact cleanBefore.permission?_of_isDirty (found ▸ rfl) saves.dirty

end Trail

/-- In every run read-only pages are protected, wherever they are and whoever copies them. -/
theorem Run.read_only_protected {frames slots : Nat} {log : OperationLog config}
    {machine : Machine config} (run : Run (.boot config frames slots) log machine) :
    machine.Protects ∧ machine.GivesPermissions ∧
    (∃ episodes, Chronicle (.boot config frames slots) episodes machine ∧
      episodes.map Episode.entry = log) ∧
    ∀ episodes, Chronicle (.boot config frames slots) episodes machine →
      Trail.KeepsPermissions (.boot config frames slots) (Episode.allMoves episodes) machine := by
  have bootConsistent := Machine.boot_consistent config frames slots
  have bootClean := Machine.boot_readOnlyClean config frames slots
  obtain ⟨episodes, chronicle, entries⟩ := run.chronicle (boot_atRest config frames slots)
  have clean := (chronicle.trail.readOnlyClean bootConsistent bootClean).1
  refine ⟨run.atRest.protects run.pagesPlaced clean, run.atRest.givesPermissions,
    ⟨episodes, chronicle, entries⟩, fun others chronicle' => ?_⟩
  exact chronicle'.trail.keepsPermissions bootConsistent bootClean rfl

/-- A program with a page that may be written to in front of a read-only one. It writes across both,
reads the read-only page, and forks. -/
def lockedProgram : List (Operation .small) :=
  let space : SpaceKey := ⟨.main, ⟨1⟩⟩
  [.create .main,
    .request space (.allocate .anonymous ⟨4⟩ true none),
    .request space (.allocate .anonymous ⟨8⟩ false none),
    .request space (.write ⟨6⟩ #[1, 2, 3, 4]),
    .request space (.read ⟨8⟩ #[0]),
    .fork space]

/-- After the program a write across both pages stores what there is room for in the first one and
stops at the second one, and a write to the copy of the second one changes nothing. -/
theorem Run.read_only_protected_locked : ∃ log machine episodes stored,
    performAll lockedProgram (.boot .small 5 8) = some (log, machine) ∧
    KernelAction.copyToUser ⟨.main, ⟨1⟩⟩ ⟨6⟩ #[1, 2, 3, 4] machine =
      .failed .accessViolation stored ∧
    KernelAction.copyToUser ⟨.main, ⟨1⟩⟩ ⟨6⟩ #[1, 2] machine = .done () stored ∧
    KernelAction.copyToUser ⟨.main, ⟨2⟩⟩ ⟨9⟩ #[1] machine = .failed .accessViolation machine ∧
    machine.Protects ∧ machine.GivesPermissions ∧
    Chronicle (.boot .small 5 8) episodes machine ∧
    Trail.KeepsPermissions (.boot .small 5 8) (Episode.allMoves episodes) machine := by
  have performed : ((performAll lockedProgram (.boot .small 5 8)).any fun (_, machine) =>
      machine.permission? ⟨.main, ⟨1⟩⟩ ⟨2⟩ = some false ∧
        machine.permission? ⟨.main, ⟨2⟩⟩ ⟨2⟩ = some false ∧
        (machine.page? ⟨.main, ⟨1⟩⟩ ⟨1⟩).any
          (fun page => page.writable = true ∧ page.frame.isSome = true) = true) = true := by
    decide +kernel
  obtain ⟨⟨log, machine⟩, outcome, facts⟩ := (Option.any_eq_true _ _).mp performed
  obtain ⟨readOnly, copied, first⟩ := of_decide_eq_true facts
  obtain ⟨page, found, granted⟩ := (Option.any_eq_true _ _).mp first
  obtain ⟨writable, resident⟩ := of_decide_eq_true granted
  obtain ⟨frame, resident⟩ := Option.isSome_iff_exists.mp resident
  obtain ⟨protects, gives, ⟨episodes, chronicle, _⟩, keeps⟩ :=
    Run.read_only_protected (Run.nil.append outcome)
  have grants : machine.Grants ⟨.main, ⟨1⟩⟩ ⟨6⟩ page frame := ⟨by decide, found, writable, resident⟩
  have denies : machine.Denies ⟨.main, ⟨2⟩⟩ ⟨9⟩ := ⟨by decide, copied⟩
  have nonempty : 0 < (#[1, 2, 3, 4] : Bytes).size := by decide
  obtain ⟨stored, stores⟩ := protects.stored grants nonempty
  have behind : machine.permission? ⟨.main, ⟨1⟩⟩ ((⟨8⟩ : VirtualAddress).page .small) = some false :=
    readOnly
  refine ⟨log, machine, episodes, stored, outcome, ?_, stores.copied,
    protects.begun denies (by decide), protects, gives, chronicle, keeps episodes chronicle⟩
  exact protects.reached behind (by decide) (by decide) (by decide) (by decide) stores.copied

end DemandPaging

import DemandPaging.Proofs.Conduct
import DemandPaging.Proofs.Loading

/-!
# How faults are decided

A fault is judged by a sequence of checks, and `Machine.Resolves` has one case for each place at which
the judgement can end. The cases exclude each other, so what becomes of a fault can be read off the
address, the cause, the stack pointers and the page. Only the growth of the stack registers a page, and
nothing that the resolver does ends the registration of one.
-/

namespace DemandPaging

variable {config : Config}

/-! ## Conditions on a fault -/

/-- An address in the part of user memory that the stack may fill. -/
def VirtualAddress.InStackArea (config : Config) (address : VirtualAddress) : Prop :=
  config.stackTop.toNat - config.stackCeiling.toNat ≤ address.word.toNat ∧
    address.word.toNat < config.stackTop.toNat

namespace PageFault

variable (config : Config) (fault : PageFault)

/-- The fault is on an address that a program may use. -/
def IsNamed : Prop :=
  0 < fault.address.word.toNat ∧ fault.address.word.toNat < config.userEnd.toNat

/-- The access looks like a push on the stack: it lies in the area of the stack, and not more than one
word below the stack pointer, which is that of the fault if it is an address of user memory and the one
that was recorded otherwise. -/
def PushesStack (recorded : Option VirtualAddress) : Prop :=
  ∃ pointer, fault.userStackPointer config recorded = some pointer ∧
    pointer.word.toNat - 8 ≤ fault.address.word.toNat ∧ fault.address.InStackArea config

/-- The access is not permitted on the page whatever its residency. -/
def IsForbidden (page : Page config) : Prop := fault.cause.write = true ∧ page.writable = false

variable {config fault}

/-- The test for stack growth recognises the accesses that look like a push, and no others. -/
theorem pushesStack_iff {recorded : Option VirtualAddress} :
    isStackGrowth config fault.address (fault.userStackPointer config recorded) = true ↔
      fault.PushesStack config recorded := by
  unfold isStackGrowth PushesStack VirtualAddress.InStackArea
  cases fault.userStackPointer config recorded with
  | none => simp
  | some pointer =>
    have word : wordSize.toNat = 8 := rfl
    simp only [Bool.and_eq_true, decide_eq_true_eq, UInt64.le_iff_toNat_le, UInt64.lt_iff_toNat_lt,
      Word.toNat_saturatingSub, word, Option.some.injEq, exists_eq_left', and_assoc]

end PageFault

namespace Machine

/-- A page was not registered, and is now a resident page of zeros that can be written to. No other page
was registered, and none is gone. -/
structure AddsStackPage (key : SpaceKey) (number : PageNumber) (machine later : Machine config) :
    Prop where
  vacant : machine.page? key number = none
  added : ∃ frame,
    later.page? key number =
      some { number := number, writable := true, kind := .anonymous none, frame := some frame } ∧
    later.frameBytes frame = PageBytes.zero ∧
    later.mapped? key number = some ⟨frame, EntryFlags.userPage true⟩
  others : ∀ probe other, ¬ (probe = key ∧ other = number) →
    (later.page? probe other).isSome = (machine.page? probe other).isSome

/-- How a fault ends that does not stop the kernel, and what it leaves. -/
inductive Resolves (key : SpaceKey) (fault : PageFault) (machine : Machine config) :
    Except VmError Unit → Machine config → Prop where
  | unnamed (unnamed : ¬ fault.IsNamed config) :
    Resolves key fault machine (.error .invalidAddress) machine
  | present (named : fault.IsNamed config) (present : fault.cause.notPresent = false) :
    Resolves key fault machine (.error .accessViolation) machine
  | grown {later : Machine config} (named : fault.IsNamed config)
      (missing : fault.cause.notPresent = true)
      (pushes : fault.PushesStack config (machine.space key).stackPointer)
      (adds : AddsStackPage key (fault.address.page config) machine later) :
    Resolves key fault machine (.ok ()) later
  | unmapped (named : fault.IsNamed config) (missing : fault.cause.notPresent = true)
      (vacant : machine.page? key (fault.address.page config) = none)
      (still : ¬ fault.PushesStack config (machine.space key).stackPointer) :
    Resolves key fault machine (.error .accessViolation) (machine.record
      (.unmappedAccess fault.address (fault.userStackPointer config (machine.space key).stackPointer)))
  | forbidden {page : Page config} (named : fault.IsNamed config)
      (missing : fault.cause.notPresent = true)
      (found : machine.page? key (fault.address.page config) = some page)
      (forbidden : fault.IsForbidden config page) :
    Resolves key fault machine (.error .accessViolation) machine
  | resident {page : Page config} {frame : FrameNumber} (named : fault.IsNamed config)
      (missing : fault.cause.notPresent = true)
      (found : machine.page? key (fault.address.page config) = some page)
      (permitted : ¬ fault.IsForbidden config page) (holds : page.frame = some frame) :
    Resolves key fault machine (.ok ()) machine
  | loaded {page : Page config} {later : Machine config} (named : fault.IsNamed config)
      (missing : fault.cause.notPresent = true)
      (found : machine.page? key (fault.address.page config) = some page)
      (permitted : ¬ fault.IsForbidden config page) (absent : page.frame = none)
      (loads : LoadsPage key page machine later) : Resolves key fault machine (.ok ()) later
  | unloadable {page : Page config} {error : VmError} {later : Machine config}
      (named : fault.IsNamed config) (missing : fault.cause.notPresent = true)
      (found : machine.page? key (fault.address.page config) = some page)
      (permitted : ¬ fault.IsForbidden config page) (absent : page.frame = none)
      (fails : FailsToLoad key page error machine later) : Resolves key fault machine (.error error) later

end Machine

namespace KernelAction

open Machine

variable {machine : Machine config} {key : SpaceKey}

/-- Nothing can go wrong with the content of a new page of the stack, so the stack grows. -/
theorem growStack_adds (atRest : machine.AtRest) (spaceExists : (machine.spaces.get? key).isSome)
    {number : PageNumber} (vacant : machine.page? key number = none) :
    (growStack key number).Ends machine
      (fun _ later => AddsStackPage key number machine later) (fun _ _ => False) := by
  unfold growStack
  simp only [Action.ends_bind, ends_record]
  refine Iff.mpr (insertPage_ends _) ⟨fun _ => ?_, fun known => ?_⟩
  · let page : Page config := Page.ofStack number
    let grown := (machine.record (.growingStack number)).updateSpace key (·.setPage page)
    have grows : Grows key number machine grown :=
      ⟨vacant, .register vacant rfl rfl spaceExists nofun⟩
    have grownRest := (grows.passes atRest).atRest
    have found : grown.page? key page.number = some page := by
      rw [grows.page?_eq]
      exact amend_self
    simp only [Action.ends_bind, Action.ends_attempt]
    refine (claimPage_decides grownRest found rfl).mono ?_ ?_
    · intro _ later loads
      have same := loads.samePages grownRest.consistent found rfl
      refine ⟨vacant, ?_, fun probe other elsewhere => ?_⟩
      · obtain @⟨_, frame, ready, kind, window, -, acquires, acquired, loaded⟩ := loads
        have spaceExists := isSome_of_page? (acquires.page?_eq acquired found rfl)
        cases loaded
        refine ⟨frame, ?_, ?_, ?_⟩
        · rw [page?_settleLoaded spaceExists]
          exact amend_self
        · rw [frameBytes_settleLoaded, if_pos rfl]
        · rw [mapped?_settleLoaded spaceExists]
          exact amend_self
      · rw [same, grows.page?_eq, amend_of_ne elsewhere]
    · rintro error later ⟨_, _, _, failed⟩
      cases failed
  · simp [Page.awaiting, vacant] at known

/-- A fault ends as `Machine.Resolves` says, or the kernel stops because no frame can be had. -/
theorem handleFault_resolves (atRest : machine.AtRest)
    (spaceExists : (machine.spaces.get? key).isSome) (fault : PageFault) :
    (handleFault key fault).Ends machine
      (fun _ later => Resolves key fault machine (.ok ()) later)
      (fun error later => Resolves key fault machine (.error error) later) := by
  have isNamed : fault.address.isNameable config = true ↔ fault.IsNamed config :=
    VirtualAddress.isNameable_iff
  unfold handleFault
  simp only [Action.ends_bind, Action.ends_require, ends_space]
  refine ⟨fun named => ⟨fun missing => ?_, fun present => .present (isNamed.mp named) present⟩,
    fun unnamed => .unnamed fun named => ?_⟩
  · have named := isNamed.mp named
    cases known : (machine.space key).pages.get? (fault.address.page config) with
    | none =>
      simp only []
      split
      · next grows =>
        refine (growStack_adds atRest spaceExists known).mono ?_ (fun _ _ => False.elim)
        exact fun _ _ adds => .grown named missing (PageFault.pushesStack_iff.mp grows) adds
      · next still =>
        simp only [Action.ends_bind, ends_record, Action.ends_fail]
        exact .unmapped named missing known fun pushes => still (PageFault.pushesStack_iff.mpr pushes)
    | some page =>
      have found : machine.page? key (fault.address.page config) = some page := known
      have numbered := atRest.consistent.fits.number_eq found
      simp only [Action.ends_bind, Action.ends_require]
      refine ⟨fun allowed => ?_, fun refused => ?_⟩
      · have permitted : ¬ fault.IsForbidden config page := by
          rintro ⟨write, readOnly⟩
          simp [write, readOnly] at allowed
        cases holds : page.frame with
        | some frame =>
          rw [if_pos (by simp [Page.isResident, holds])]
          exact .resident named missing found permitted holds
        | none =>
          rw [if_neg (by simp [Page.isResident, holds]), ← numbered]
          refine (claimPage_decides atRest (numbered ▸ found) holds).mono ?_ ?_
          · exact fun _ _ loads => .loaded named missing found permitted holds loads
          · exact fun _ _ fails => .unloadable named missing found permitted holds fails
      · refine .forbidden named missing found ?_
        simpa [PageFault.IsForbidden] using refused
  · exact Bool.false_ne_true (unnamed.symm.trans (isNamed.mpr named))

end KernelAction

/-! ## Decisions -/

namespace Machine

/-- What becomes of a fault that does not stop the kernel. The conditions come in the order in which
they are checked. -/
structure DecidesFault (key : SpaceKey) (fault : PageFault) (machine : Machine config)
    (result : Except VmError Unit) (later : Machine config) : Prop where
  unnamed : ¬ fault.IsNamed config → result = .error .invalidAddress ∧ later = machine
  /-- Where the address is not at fault, only an initializer can call it invalid. -/
  invalid : result = .error .invalidAddress → ¬ fault.IsNamed config ∨
    ∃ page initializer, machine.page? key (fault.address.page config) = some page ∧
      page.kind.initializer? = some initializer ∧ FailsToLoad key page .invalidAddress machine later
  present : fault.IsNamed config → fault.cause.notPresent = false →
    result = .error .accessViolation ∧ later = machine
  vacant : fault.IsNamed config → fault.cause.notPresent = true →
    machine.page? key (fault.address.page config) = none →
      (result = .ok () ↔ fault.PushesStack config (machine.space key).stackPointer) ∧
      (result = .ok () → AddsStackPage key (fault.address.page config) machine later) ∧
      (result ≠ .ok () → result = .error .accessViolation)
  registered : fault.IsNamed config → fault.cause.notPresent = true →
    ∀ page, machine.page? key (fault.address.page config) = some page →
      (fault.IsForbidden config page → result = .error .accessViolation ∧ later = machine) ∧
      (¬ fault.IsForbidden config page → page.frame ≠ none → result = .ok () ∧ later = machine) ∧
      (¬ fault.IsForbidden config page → page.frame = none →
        (result = .ok () ∧ LoadsPage key page machine later ∧
          ∃ kind frame, later.page? key (fault.address.page config) =
            some { page with kind := kind, frame := some frame }) ∨
        ∃ error, result = .error error ∧ FailsToLoad key page error machine later)
  /-- But for a page that the stack grows by, no page of any space is registered or forgotten. -/
  samePages : SamePages machine later ∨
    result = .ok () ∧ fault.PushesStack config (machine.space key).stackPointer ∧
      AddsStackPage key (fault.address.page config) machine later

variable {machine later : Machine config} {key : SpaceKey} {fault : PageFault}
  {result : Except VmError Unit}

/-- The places at which the judgement can end exclude each other. -/
theorem Resolves.decides (resolves : Resolves key fault machine result later)
    (consistent : machine.Consistent) : DecidesFault key fault machine result later := by
  have vacantOf {page : Page config}
      (found : machine.page? key (fault.address.page config) = some page) :
      machine.page? key (fault.address.page config) ≠ none := by simp [found]
  cases resolves with
  | unnamed unnamed =>
    exact ⟨fun _ => ⟨rfl, rfl⟩, fun _ => .inl unnamed, fun named => absurd named unnamed,
      fun named => absurd named unnamed, fun named => absurd named unnamed, .inl (.refl machine)⟩
  | present named present =>
    refine ⟨fun unnamed => absurd named unnamed, nofun, fun _ _ => ⟨rfl, rfl⟩, fun _ missing => ?_,
      fun _ missing => ?_, .inl (.refl machine)⟩
    · cases present.symm.trans missing
    · cases present.symm.trans missing
  | grown named missing pushes adds =>
    refine ⟨fun unnamed => absurd named unnamed, nofun, fun _ present => ?_, fun _ _ _ => ?_,
      fun _ _ page found => absurd adds.vacant (vacantOf found), .inr ⟨rfl, pushes, adds⟩⟩
    · cases present.symm.trans missing
    · exact ⟨iff_of_true rfl pushes, fun _ => adds, fun failed => absurd rfl failed⟩
  | unmapped named missing vacant still =>
    refine ⟨fun unnamed => absurd named unnamed, nofun, fun _ present => ?_, fun _ _ _ => ?_,
      fun _ _ page found => absurd vacant (vacantOf found), .inl (.refl _)⟩
    · cases present.symm.trans missing
    · exact ⟨iff_of_false nofun still, nofun, fun _ => rfl⟩
  | forbidden named missing found forbidden =>
    refine ⟨fun unnamed => absurd named unnamed, nofun, fun _ present => ?_,
      fun _ _ vacant => absurd vacant (vacantOf found), fun _ _ page known => ?_,
      .inl (.refl machine)⟩
    · cases present.symm.trans missing
    · cases found.symm.trans known
      exact ⟨fun _ => ⟨rfl, rfl⟩, fun permitted => absurd forbidden permitted,
        fun permitted => absurd forbidden permitted⟩
  | resident named missing found permitted holds =>
    refine ⟨fun unnamed => absurd named unnamed, nofun, fun _ present => ?_,
      fun _ _ vacant => absurd vacant (vacantOf found), fun _ _ page known => ?_,
      .inl (.refl machine)⟩
    · cases present.symm.trans missing
    · cases found.symm.trans known
      exact ⟨fun forbidden => absurd forbidden permitted, fun _ _ => ⟨rfl, rfl⟩,
        fun _ absent => by cases holds.symm.trans absent⟩
  | @loaded page _ named missing found permitted absent loads =>
    have numbered := consistent.fits.number_eq found
    have there : machine.page? key page.number = some page := numbered ▸ found
    refine ⟨fun unnamed => absurd named unnamed, nofun, fun _ present => ?_,
      fun _ _ vacant => absurd vacant (vacantOf found), fun _ _ other known => ?_,
      .inl (loads.samePages consistent there absent)⟩
    · cases present.symm.trans missing
    · cases found.symm.trans known
      refine ⟨fun forbidden => absurd forbidden permitted, fun _ holds => absurd absent holds,
        fun _ _ => .inl ⟨rfl, loads, ?_⟩⟩
      rw [← numbered]
      exact loads.resident there absent
  | @unloadable page error _ named missing found permitted absent fails =>
    refine ⟨fun unnamed => absurd named unnamed, fun same => ?_, fun _ present => ?_,
      fun _ _ vacant => absurd vacant (vacantOf found), fun _ _ other known => ?_,
      .inl (.of_shape? (fails.shape?_eq consistent))⟩
    · cases same
      obtain ⟨environment, reason⟩ := fails.cannotLoad
      obtain ⟨initializer, waits⟩ := reason.waits_of_invalidAddress
      exact .inr ⟨page, initializer, found, waits, fails⟩
    · cases present.symm.trans missing
    · cases found.symm.trans known
      exact ⟨fun forbidden => absurd forbidden permitted, fun _ holds => absurd absent holds,
        fun _ _ => .inr ⟨error, rfl, fails⟩⟩

end Machine

end DemandPaging

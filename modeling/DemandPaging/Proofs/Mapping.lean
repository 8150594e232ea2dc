import DemandPaging.Proofs.Layout
import DemandPaging.Proofs.Removal
import DemandPaging.Mapping

/-!
# What mapping and unmapping a file do

A mapping that is established registers its pages one after the other, and a mapping that meets a
registered page leaves no trace in its space. A mapping that is removed takes away the pages that
still belong to it, and no others.
-/

namespace DemandPaging

variable {config : Config}

/-! ## The pages of a mapping -/

namespace MappingPlan

variable (plan : MappingPlan)

/-- The page at an index of a mapping whose offsets are words. -/
def pageAt (config : Config) (index : Nat) : Page config :=
  Page.awaiting (plan.start.advance index) plan.writable
    (.file (FileBacking.ofFileLength config plan.handle
      (plan.offset + UInt64.ofNat index * config.pageSizeWord) plan.fileLength)) none

/-- The page numbers and file positions of a number of pages are words. -/
structure Fits (config : Config) (count : Nat) : Prop where
  pages : plan.start.word.toNat + count < Word.modulus
  offsets : ∀ index < count, plan.offset.toNat + index * config.pageSize < Word.modulus

variable {plan}

/-- A part of a mapping fits where the whole does. -/
theorem Fits.mono {total count : Nat} (fits : plan.Fits config total) (fewer : count ≤ total) :
    plan.Fits config count where
  pages := Nat.lt_of_le_of_lt (Nat.add_le_add_left fewer _) fits.pages
  offsets index inside := fits.offsets index (Nat.lt_of_lt_of_le inside fewer)

/-- The file position of a page that fits is computed without overflow. -/
theorem Fits.toNat_offset {count index : Nat} (fits : plan.Fits config count)
    (inside : index < count) :
    (plan.offset + UInt64.ofNat index * config.pageSizeWord).toNat =
      plan.offset.toNat + index * config.pageSize := by
  have small := fits.offsets index inside
  have few : index < Word.modulus := by
    have wide := fits.pages
    omega
  have narrow : index * config.pageSize % 2 ^ 64 = index * config.pageSize :=
    Nat.mod_eq_of_lt (Nat.lt_of_le_of_lt (Nat.le_add_left _ _) small)
  rw [UInt64.toNat_add, UInt64.toNat_mul, Word.toNat_ofNat_of_lt few, Config.toNat_pageSizeWord,
    narrow]
  exact Nat.mod_eq_of_lt small

/-- Describing a page that fits does not panic. -/
theorem Fits.page_eq {count index : Nat} (fits : plan.Fits config count) (inside : index < count) :
    plan.page config index = .ok (plan.pageAt config index) := by
  have small := fits.offsets index inside
  have few : index < Word.modulus := by
    have wide := fits.pages
    omega
  have product : Word.times (UInt64.ofNat index) config.pageSizeWord =
      .ok (UInt64.ofNat index * config.pageSizeWord) := by
    rw [Word.times, Word.toNat_ofNat_of_lt few, Config.toNat_pageSizeWord, if_pos]
    omega
  have sum : Word.plus plan.offset (UInt64.ofNat index * config.pageSizeWord) =
      .ok (plan.offset + UInt64.ofNat index * config.pageSizeWord) := by
    rw [Word.plus, if_pos]
    have exact := Word.toNat_of_times_eq_ok product
    rw [exact, Word.toNat_ofNat_of_lt few, Config.toNat_pageSizeWord]
    exact small
  unfold page
  rw [product]
  show (Word.plus plan.offset (UInt64.ofNat index * config.pageSizeWord) >>= _) = _
  rw [sum]
  rfl

/-- A space with the first pages of a mapping registered. -/
def registerIn (plan : MappingPlan) (space : Space config) : Nat → Space config
  | 0 => space
  | count + 1 => (plan.registerIn space count).setPage (plan.pageAt config count)

/-- A page of the mapping is registered at its place. -/
theorem get?_registerIn_self (space : Space config) {count index : Nat}
    (fits : plan.Fits config count) (inside : index < count) :
    (plan.registerIn space count).pages.get? (plan.start.advance index) =
      some (plan.pageAt config index) := by
  have wide := fits.pages
  induction count with
  | zero => omega
  | succ count inductionHypothesis =>
    rw [registerIn, Space.pages_setPage, OrderedMap.get?_insert_eq]
    by_cases last : index = count
    · subst last
      exact if_pos rfl
    · rw [if_neg]
      · exact inductionHypothesis (fits.mono (Nat.le_succ count)) (by omega) (by omega)
      · exact fun same => last (PageNumber.advance_injective (by omega) (by omega) same)

/-- Other pages are as they were. -/
theorem get?_registerIn_of_ne (space : Space config) {count : Nat} {number : PageNumber}
    (elsewhere : ∀ index < count, number ≠ plan.start.advance index) :
    (plan.registerIn space count).pages.get? number = space.pages.get? number := by
  induction count with
  | zero => rfl
  | succ count inductionHypothesis =>
    rw [registerIn, Space.pages_setPage, OrderedMap.get?_insert_eq, if_neg]
    · exact inductionHypothesis fun index inside => elsewhere index (by omega)
    · exact elsewhere count (by omega)

/-- Registering changes nothing of a space but its page map. -/
theorem registerIn_eq (space : Space config) (count : Nat) :
    plan.registerIn space count =
      { space with pages := (plan.registerIn space count).pages } := by
  induction count with
  | zero => rfl
  | succ count inductionHypothesis =>
    rw [registerIn, inductionHypothesis]
    rfl

end MappingPlan

namespace Space

/-- Forgetting pages changes nothing of a space but its page map. -/
theorem dropPages_eq (space : Space config) (start : PageNumber) (count : Nat) :
    space.dropPages start count = { space with pages := (space.dropPages start count).pages } := by
  induction count with
  | zero => rfl
  | succ count inductionHypothesis =>
    rw [dropPages, inductionHypothesis]
    rfl

/-- Dropping consecutive pages forgets these and no others. -/
theorem get?_dropPages (space : Space config) (start : PageNumber) (count : Nat)
    (number : PageNumber) :
    (space.dropPages start count).pages.get? number =
      if ∃ index < count, number = start.advance index then none
      else space.pages.get? number := by
  induction count with
  | zero => simp [dropPages]
  | succ count inductionHypothesis =>
    rw [dropPages, pages_dropPage, OrderedMap.get?_erase_eq, inductionHypothesis]
    by_cases last : number = start.advance count
    · rw [if_pos last, if_pos ⟨count, Nat.lt_succ_self count, last⟩]
    · rw [if_neg last]
      refine if_congr ⟨?_, ?_⟩ rfl rfl
      · exact fun ⟨index, inside, same⟩ => ⟨index, Nat.lt_succ_of_lt inside, same⟩
      · rintro ⟨index, inside, same⟩
        refine ⟨index, Nat.lt_of_le_of_ne (Nat.le_of_lt_succ inside) ?_, same⟩
        rintro rfl
        exact last same

end Space

/-- Forgetting the pages that a mapping registered restores the space. -/
theorem MappingPlan.dropPages_registerIn {plan : MappingPlan} {space : Space config} {count : Nat}
    (vacant : ∀ index < count, space.pages.get? (plan.start.advance index) = none) :
    (plan.registerIn space count).dropPages plan.start count = space := by
  have pages : ((plan.registerIn space count).dropPages plan.start count).pages = space.pages := by
    refine OrderedMap.ext_get? fun number => ?_
    rw [Space.get?_dropPages]
    split
    · next inside =>
      obtain ⟨index, inside, rfl⟩ := inside
      exact (vacant index inside).symm
    · next outside =>
      exact get?_registerIn_of_ne space fun index inside same => outside ⟨index, inside, same⟩
  rw [Space.dropPages_eq, pages, registerIn_eq]

namespace OrderedMap

variable {Key Value : Type} [Numbered Key]

/-- Two modifications under one key are one. -/
theorem modify_modify (map : OrderedMap Key Value) (key : Key) (first second : Value → Value) :
    (map.modify key first).modify key second = map.modify key fun value => second (first value) := by
  refine ext_get? fun probe => ?_
  simp only [get?_modify]
  split
  · rw [Option.map_map]
    rfl
  · rfl

/-- A change that changes nothing that is stored changes nothing. -/
theorem modify_of_fixed {map : OrderedMap Key Value} {key : Key} {change : Value → Value}
    (fixed : ∀ value, map.get? key = some value → change value = value) :
    map.modify key change = map := by
  refine ext_get? fun probe => ?_
  rw [get?_modify]
  split
  · next same =>
    cases Numbered.number_injective same
    cases found : map.get? key with
    | none => rfl
    | some value => rw [Option.map_some, fixed value found]
  · rfl

end OrderedMap

namespace Machine

variable {machine : Machine config} {key : SpaceKey}

/-- Two changes of one space are one. -/
theorem updateSpace_updateSpace (first second : Space config → Space config) :
    (machine.updateSpace key first).updateSpace key second =
      machine.updateSpace key fun space => second (first space) := by
  unfold updateSpace
  rw [OrderedMap.modify_modify]

/-- A change that leaves a space as it is leaves the machine as it is. -/
theorem updateSpace_of_fixed {change : Space config → Space config}
    (fixed : change (machine.space key) = machine.space key) :
    machine.updateSpace key change = machine := by
  unfold updateSpace
  rw [OrderedMap.modify_of_fixed fun space present => ?_]
  rwa [space_eq_of_get? present] at fixed

/-- The machine with the first pages of a mapping registered. -/
def withPages (machine : Machine config) (key : SpaceKey) (plan : MappingPlan) (count : Nat) :
    Machine config :=
  machine.updateSpace key fun space => plan.registerIn space count

variable {plan : MappingPlan}

/-- Before its first page, a mapping has changed nothing. -/
theorem withPages_zero : machine.withPages key plan 0 = machine :=
  @updateSpace_of_fixed _ machine key (fun space => plan.registerIn space 0) rfl

/-- The pages of a mapping are registered one after the other. -/
theorem withPages_succ (count : Nat) :
    machine.withPages key plan (count + 1) =
      (machine.withPages key plan count).updateSpace key
        (·.setPage (plan.pageAt config count)) := by
  unfold withPages
  rw [updateSpace_updateSpace]
  rfl

/-- The pages of the mapped space are those of the space with the first pages of the mapping. -/
theorem page?_withPages (spaceExists : (machine.spaces.get? key).isSome) (count : Nat)
    (other : PageNumber) :
    (machine.withPages key plan count).page? key other =
      (plan.registerIn (machine.space key) count).pages.get? other := by
  unfold withPages
  rw [page?_updateSpace spaceExists, if_pos rfl]

/-- Forgetting the pages that a mapping registered undoes it. -/
theorem dropPages_withPages {count : Nat}
    (vacant : ∀ index < count, machine.page? key (plan.start.advance index) = none) :
    (machine.withPages key plan count).updateSpace key (·.dropPages plan.start count) =
      machine := by
  unfold withPages
  rw [updateSpace_updateSpace]
  exact updateSpace_of_fixed (MappingPlan.dropPages_registerIn vacant)

end Machine

namespace Transition

/-- A transition of the kind that opening another handle of a file takes. -/
def Reopens (file : FileId) : Transition config → Prop
  | .note _ => True
  | .setFile other _ => other = file
  | _ => False

/-- A transition of the kind that mapping a file takes. -/
def Maps (key : SpaceKey) (file : FileId) (transition : Transition config) : Prop :=
  transition.Reopens file ∨ transition = .set key ∨
    ∃ (plan : MappingPlan) (index : Nat), plan.handle.file = file ∧
      transition = .register key (plan.pageAt config index)

/-- A transition that registers a page of a mapping. -/
def Registers (key : SpaceKey) (plan : MappingPlan) (transition : Transition config) : Prop :=
  ∃ index : Nat, transition = .register key (plan.pageAt config index)

/-- Registering a page is a part of mapping a file. -/
theorem Registers.maps {key : SpaceKey} {plan : MappingPlan} {transition : Transition config}
    (registers : transition.Registers key plan) : transition.Maps key plan.handle.file := by
  obtain ⟨index, rfl⟩ := registers
  exact .inr (.inr ⟨plan, index, rfl, rfl⟩)

end Transition

namespace Machine

variable {machine : Machine config} {key : SpaceKey} {plan : MappingPlan}

/-- A page that is about to be registered is not among those registered before it. -/
theorem page?_withPages_next {count : Nat} (fits : plan.Fits config (count + 1))
    (spaceExists : (machine.spaces.get? key).isSome) :
    (machine.withPages key plan count).page? key (plan.start.advance count) =
      machine.page? key (plan.start.advance count) := by
  have wide := fits.pages
  rw [page?_withPages spaceExists, MappingPlan.get?_registerIn_of_ne]
  · rfl
  · intro index inside same
    have equal := PageNumber.advance_injective (by omega) (by omega) same
    omega

/-- A mapping registers its next page. -/
theorem withPages_leads (spaceExists : (machine.spaces.get? key).isSome) {count : Nat}
    (fits : plan.Fits config (count + 1))
    (vacant : machine.page? key (plan.start.advance count) = none) :
    (Transition.register key (plan.pageAt config count)).Leads (machine.withPages key plan count)
      (machine.withPages key plan (count + 1)) := by
  have absent := (page?_withPages_next fits spaceExists).trans vacant
  rw [withPages_succ]
  refine .register absent rfl rfl ?_ nofun
  unfold withPages
  rw [OrderedMap.contains, isSome_updateSpace]
  exact spaceExists

/-- Registering the pages of a mapping is a way of registrations. -/
theorem registers_withPages (atRest : machine.AtRest)
    (spaceExists : (machine.spaces.get? key).isSome) {count : Nat} (fits : plan.Fits config count)
    (vacant : ∀ index < count, machine.page? key (plan.start.advance index) = none) :
    Passes (Transition.Registers key plan) machine (machine.withPages key plan count) := by
  induction count with
  | zero =>
    rw [withPages_zero]
    exact .refl atRest
  | succ count inductionHypothesis =>
    have before := inductionHypothesis (fits.mono (Nat.le_succ count)) fun index inside =>
      vacant index (by omega)
    have leads := withPages_leads spaceExists fits (vacant count (Nat.lt_succ_self count))
    exact before.trans (.single before.atRest leads ⟨count, rfl⟩)

/-- Registering pages where none are passes through transitions that mapping a file may take. -/
theorem passes_withPages (atRest : machine.AtRest) (spaceExists : (machine.spaces.get? key).isSome)
    {count : Nat} (fits : plan.Fits config count)
    (vacant : ∀ index < count, machine.page? key (plan.start.advance index) = none) :
    Passes (Transition.Maps key plan.handle.file) machine (machine.withPages key plan count) :=
  (registers_withPages atRest spaceExists fits vacant).mono fun _ => Transition.Registers.maps

end Machine

namespace KernelAction

open Machine

variable {machine : Machine config} {key : SpaceKey} {plan : MappingPlan}

/-- All pages of a mapping are registered, or the space is as it was. -/
theorem registerPages_ends (address : VirtualAddress) {total : Nat}
    (fits : plan.Fits config total) (spaceExists : (machine.spaces.get? key).isSome) :
    ∀ (remaining index : Nat), index + remaining = total →
      (∀ before < index, machine.page? key (plan.start.advance before) = none) →
      (registerPages key address plan index remaining).Ends (machine.withPages key plan index)
        (fun _ later => later = machine.withPages key plan total ∧
          ∀ index < total, machine.page? key (plan.start.advance index) = none)
        (fun error later => error = .alreadyMapped ∧ ∃ index < total,
          (∀ before < index, machine.page? key (plan.start.advance before) = none) ∧
            (machine.page? key (plan.start.advance index)).isSome ∧
              later = machine.record (.mapFailed address (plan.start.advance index) error))
  | 0, index, whole, vacant => by
    rw [Nat.add_zero] at whole
    subst whole
    exact ⟨rfl, vacant⟩
  | remaining + 1, index, whole, vacant => by
    unfold registerPages
    rw [fits.page_eq (by omega)]
    simp only [Action.ends_bind, Action.ends_exactly, Action.ends_attempt]
    have smaller : plan.Fits config (index + 1) := fits.mono (by omega)
    have known : (machine.withPages key plan index).page? key (plan.pageAt config index).number =
        machine.page? key (plan.start.advance index) := page?_withPages_next smaller spaceExists
    refine Iff.mpr (insertPage_ends _) ⟨fun absent => ?_, fun taken => ?_⟩
    · have free := known.symm.trans absent
      rw [← withPages_succ]
      refine registerPages_ends address fits spaceExists remaining (index + 1) (by omega) ?_
      intro before inside
      rcases Nat.lt_or_eq_of_le (Nat.le_of_lt_succ inside) with earlier | rfl
      · exact vacant before earlier
      · exact free
    · simp only [ends_record, ends_updateSpace, Action.ends_fail]
      have undone : ((machine.record (.mapFailed address
          (plan.pageAt config index).number .alreadyMapped)).withPages key plan index).updateSpace key
            (·.dropPages plan.start index) = machine.record _ := dropPages_withPages vacant
      exact ⟨trivial, index, by omega, vacant, known ▸ taken, undone⟩

end KernelAction

namespace Machine

/-- The machine after another handle of a file was opened. -/
def reopened (machine : Machine config) (handle : FileHandle) : Machine config :=
  { machine with
    environment := machine.environment.setFile handle.file
      { machine.environment.file handle.file with reopens := handle.serial } }

/-- What is left of a mapping that could not be established: at most a handle was opened, which nobody
uses. -/
inductive LeavesUnmapped (file : FileId) (machine : Machine config) : Machine config → Prop where
  | refused : LeavesUnmapped file machine machine
  | opened {handle : FileHandle} (opens : handle.file = file)
      (fresh : handle.serial = (machine.environment.file file).reopens + 1) :
    LeavesUnmapped file machine (machine.reopened handle)
  | undone {handle : FileHandle} {address : VirtualAddress} {number : PageNumber} {error : VmError}
      (opens : handle.file = file)
      (fresh : handle.serial = (machine.environment.file file).reopens + 1) :
    LeavesUnmapped file machine
      ((machine.reopened handle).record (.mapFailed address number error))

/-- Opening a handle is visible in the count of openings only. -/
theorem sameButOpenings_reopened (machine : Machine config) (handle : FileHandle) :
    machine.environment.SameButOpenings (machine.reopened handle).environment :=
  ⟨rfl, rfl, machine.environment.map_setFile rfl⟩

/-- A mapping that could not be established changes nothing but the environment. -/
theorem LeavesUnmapped.onlyEnvironment {file : FileId} {machine later : Machine config}
    (leaves : machine.LeavesUnmapped file later) :
    ∃ environment, later = { machine with environment := environment } ∧
      machine.environment.SameButOpenings environment := by
  cases leaves with
  | refused => exact ⟨_, rfl, rfl, rfl, fun _ => rfl⟩
  | @opened handle =>
    exact ⟨(machine.reopened handle).environment, rfl, sameButOpenings_reopened machine handle⟩
  | @undone handle address number error =>
    let after := (machine.reopened handle).record (.mapFailed address number error)
    have same := sameButOpenings_reopened machine handle
    exact ⟨after.environment, rfl, same.swap, same.runs, same.files⟩

/-- A mapping that failed has opened a handle at most, as far as transitions can tell. -/
theorem LeavesUnmapped.passes {file : FileId} {machine later : Machine config}
    (leaves : machine.LeavesUnmapped file later) (atRest : machine.AtRest) :
    Passes (Transition.Reopens file) machine later := by
  cases leaves with
  | refused => exact .refl atRest
  | opened opens => exact .single atRest .setFile opens
  | undone opens =>
    have reopens : Passes (Transition.Reopens file) machine (machine.reopened _) :=
      .single atRest .setFile opens
    exact reopens.trans (.single reopens.atRest (.note rfl) trivial)

/-- What establishing a mapping does: a handle is opened, the pages are registered, and the mapping
is recorded. -/
structure MapsFile (key : SpaceKey) (plan : MappingPlan) (range : PageRange)
    (machine later : Machine config) : Prop where
  fits : plan.Fits config range.length.toNat
  starts : range.start = plan.start
  vacant : ∀ index < range.length.toNat, machine.page? key (plan.start.advance index) = none
  reads : plan.fileLength = (machine.environment.file plan.handle.file).data.size
  fresh : plan.handle.serial = (machine.environment.file plan.handle.file).reopens + 1
  maps : later = ((machine.reopened plan.handle).withPages key plan
    range.length.toNat).updateSpace key fun space =>
      { space with
        regions := space.regions.insert plan.start
          { range := range, handle := plan.handle, offset := plan.offset } }

variable {machine later : Machine config} {key : SpaceKey} {plan : MappingPlan} {range : PageRange}

/-- The spaces after a mapping was established. -/
theorem MapsFile.space_eq (maps : MapsFile key plan range machine later)
    (spaceExists : (machine.spaces.get? key).isSome) (probe : SpaceKey) :
    later.space probe =
      if probe = key then
        { plan.registerIn (machine.space key) range.length.toNat with
          regions := (machine.space key).regions.insert plan.start
            { range := range, handle := plan.handle, offset := plan.offset } }
      else machine.space probe := by
  have reopened : (machine.reopened plan.handle).space = machine.space := space_congr rfl
  have known : ((machine.reopened plan.handle).spaces.get? key).isSome := spaceExists
  have registered : (((machine.reopened plan.handle).withPages key plan
      range.length.toNat).spaces.get? key).isSome := by
    unfold withPages
    rw [isSome_updateSpace]
    exact spaceExists
  have kept : ∀ (space : Space config) count, (plan.registerIn space count).regions =
      space.regions := by
    intro space count
    rw [MappingPlan.registerIn_eq]
  rw [maps.maps, space_updateSpace registered, withPages, space_updateSpace known, reopened]
  split
  · next same => simp only [same, kept]
  · rfl

/-- The range of a mapping contains its pages. -/
theorem MapsFile.contains (maps : MapsFile key plan range machine later) {index : Nat}
    (inside : index < range.length.toNat) :
    range.contains (plan.start.advance index) = true := by
  rw [← PageRange.mem_pages_iff, PageRange.pages, PageRange.firstPages, maps.starts]
  exact List.mem_map_of_mem (by simpa using inside)

/-- The pages of a mapping are there once it is established. -/
theorem MapsFile.page?_planned (maps : MapsFile key plan range machine later)
    (spaceExists : (machine.spaces.get? key).isSome) {index : Nat}
    (inside : index < range.length.toNat) :
    later.page? key (plan.start.advance index) = some (plan.pageAt config index) := by
  unfold page?
  rw [maps.space_eq spaceExists, if_pos rfl]
  exact MappingPlan.get?_registerIn_self _ maps.fits inside

/-- All other pages are as they were. -/
theorem MapsFile.page?_other (maps : MapsFile key plan range machine later)
    (spaceExists : (machine.spaces.get? key).isSome) {probe : SpaceKey} {number : PageNumber}
    (elsewhere : probe = key → ∀ index < range.length.toNat, number ≠ plan.start.advance index) :
    later.page? probe number = machine.page? probe number := by
  unfold page?
  rw [maps.space_eq spaceExists]
  split
  · next same =>
    rw [same]
    exact MappingPlan.get?_registerIn_of_ne _ (elsewhere same)
  · rfl

/-- A mapping that succeeded has passed through transitions of its kind. -/
theorem MapsFile.passes (maps : MapsFile key plan range machine later) (atRest : machine.AtRest)
    (spaceExists : (machine.spaces.get? key).isSome) :
    Passes (Transition.Maps key plan.handle.file) machine later := by
  have reopens : Passes (Transition.Maps key plan.handle.file) machine
      (machine.reopened plan.handle) := .single atRest .setFile (.inl rfl)
  have registers := passes_withPages reopens.atRest spaceExists maps.fits maps.vacant
  rw [maps.maps]
  refine (reopens.trans registers).trans (.single registers.atRest (.set ?_) (.inr (.inl rfl)))
  exact fun _ => rfl

end Machine

/-- A range whose end is a word can be made, and has the length that was asked for. -/
theorem PageRange.ofCount_eq_ok {start : PageNumber} {pages : Word}
    (fits : start.word.toNat + pages.toNat < Word.modulus) :
    ∃ range, PageRange.ofCount start pages = .ok range ∧ range.start = start ∧
      range.length = pages := by
  unfold PageRange.ofCount
  split
  · next stop exact =>
    refine ⟨_, rfl, rfl, UInt64.toNat_inj.mp ?_⟩
    have sum := Word.toNat_of_plus_eq_ok exact
    rw [PageRange.length, UInt64.toNat_sub_of_le, sum]
    · exact Nat.add_sub_cancel_left ..
    · rw [UInt64.le_iff_toNat_le, sum]
      exact Nat.le_add_right ..
  · next overflow exact =>
    rw [Word.plus, if_pos fits] at exact
    cases exact

/-- The handle that is opened next for a file. -/
def Environment.nextHandle (environment : Environment config) (file : FileId) : FileHandle where
  file := file
  serial := (environment.file file).reopens + 1

namespace EnvironmentAction

/-- A handle is opened under the next serial number, unless openings are to fail. -/
theorem reopen_ends (handle : FileHandle) (environment : Environment config) :
    (reopen handle).Ends environment
      (fun opened later => (environment.fileSwitches handle.file).reopen = none ∧
        opened = environment.nextHandle handle.file ∧
        later = environment.setFile handle.file
          { environment.file handle.file with reopens := opened.serial })
      (fun error later => later = environment ∧ ∃ code,
        (environment.fileSwitches handle.file).reopen = some code ∧ error = .badFile code) := by
  unfold reopen
  simp only [Action.ends_bind, Action.ends_current]
  cases (environment.fileSwitches handle.file).reopen with
  | some code => exact ⟨rfl, code, rfl, rfl⟩
  | none =>
    simp only [Action.ends_bind, Action.ends_change, Action.ends_pure]
    exact ⟨trivial, rfl, trivial⟩

/-- Asking for the length of a file changes nothing, and fails with the code that was set. -/
theorem fileLength_ends (handle : FileHandle) (environment : Environment config) :
    (fileLength handle).Ends environment
      (fun length later => later = environment ∧
        (environment.fileSwitches handle.file).inode = none ∧
        length = (environment.file handle.file).data.size)
      (fun error later => later = environment ∧ ∃ code,
        (environment.fileSwitches handle.file).inode = some code ∧ error = .badFile code) := by
  unfold fileLength checkHandle
  simp only [Action.ends_bind, Action.ends_current]
  cases (environment.fileSwitches handle.file).inode with
  | some code => exact ⟨rfl, code, rfl, rfl⟩
  | none => exact ⟨rfl, rfl, rfl⟩

end EnvironmentAction

/-! ## The arithmetic of a mapping -/

/-- The numbers of pages that a mapping of a length needs, and that none of them overflows. -/
theorem MappingPlan.fits_of_checks {address : VirtualAddress} {length offset : Word}
    (aligned : address.word.toNat % config.pageSize = 0) (positive : length ≠ 0)
    (within : address.word.toNat + length.toNat < Word.modulus)
    (span : offset.toNat + ((Word.ceilingDiv length config.pageSizeWord).toNat - 1) *
      config.pageSize < Word.modulus) (writable : Bool) (handle : FileHandle) (fileLength : Nat) :
    (MappingPlan.mk (address.page config) writable handle offset fileLength).Fits config
      (Word.ceilingDiv length config.pageSizeWord).toNat where
  pages := by
    have needed := Word.ceilingDiv_bounds length config.pageSizeWord
      (by rw [Config.toNat_pageSizeWord]; exact config.pageSize_pos)
    rw [Config.toNat_pageSizeWord] at needed
    have whole := Nat.div_add_mod address.word.toNat config.pageSize
    rw [aligned, Nat.add_zero, Nat.mul_comm] at whole
    have used : 0 < length.toNat := Nat.pos_of_ne_zero fun zero => positive (UInt64.toNat_inj.mp zero)
    rw [VirtualAddress.toNat_page]
    generalize (Word.ceilingDiv length config.pageSizeWord).toNat = count at needed
    generalize address.word.toNat / config.pageSize = first at whole
    have some : 0 < count := by
      refine Nat.pos_of_ne_zero fun zero => ?_
      rw [zero, Nat.zero_mul] at needed
      omega
    have ordered : first + count - 1 ≤ (first + count - 1) * config.pageSize :=
      Nat.le_mul_of_pos_right _ config.pageSize_pos
    have total : (first + count - 1) * config.pageSize + config.pageSize =
        address.word.toNat + count * config.pageSize := by
      rw [← Nat.succ_mul, Nat.succ_eq_add_one, Nat.sub_add_cancel (by omega), Nat.add_mul, whole]
    omega
  offsets index inside := by
    refine Nat.lt_of_le_of_lt (Nat.add_le_add_left (Nat.mul_le_mul_right _ ?_) _) span
    omega

/-- The last page of a mapping begins at a word. -/
theorem MappingPlan.span_eq_ok (config : Config) {length : Word} (positive : length ≠ 0) :
    ∃ span, Word.times (Word.ceilingDiv length config.pageSizeWord - 1) config.pageSizeWord =
        .ok span ∧
      span.toNat = ((Word.ceilingDiv length config.pageSizeWord).toNat - 1) * config.pageSize := by
  have needed := Word.ceilingDiv_bounds length config.pageSizeWord
    (by rw [Config.toNat_pageSizeWord]; exact config.pageSize_pos)
  rw [Config.toNat_pageSizeWord] at needed
  have used : 0 < length.toNat := Nat.pos_of_ne_zero fun zero => positive (UInt64.toNat_inj.mp zero)
  have some : 0 < (Word.ceilingDiv length config.pageSizeWord).toNat := by
    refine Nat.pos_of_ne_zero fun zero => ?_
    rw [zero, Nat.zero_mul] at needed
    omega
  have fewer : (Word.ceilingDiv length config.pageSizeWord - 1).toNat =
      (Word.ceilingDiv length config.pageSizeWord).toNat - 1 := by
    rw [UInt64.toNat_sub_of_le]
    · rfl
    · rw [UInt64.le_iff_toNat_le]
      exact some
  have small : ((Word.ceilingDiv length config.pageSizeWord).toNat - 1) * config.pageSize <
      Word.modulus := by
    have wide := Word.toNat_lt_modulus length
    rw [Nat.sub_mul, Nat.one_mul]
    omega
  have exact : Word.times (Word.ceilingDiv length config.pageSizeWord - 1) config.pageSizeWord =
      .ok ((Word.ceilingDiv length config.pageSizeWord - 1) * config.pageSizeWord) := by
    rw [Word.times, fewer, Config.toNat_pageSizeWord, if_pos small]
  have product := Word.toNat_of_times_eq_ok exact
  rw [fewer, Config.toNat_pageSizeWord] at product
  exact ⟨_, exact, product⟩

/-! ## When a mapping is established -/

/-- A checked sum is missing only where the numbers exceed the words. -/
theorem Word.modulus_le_of_checkedAdd {left right : Word} (unfit : checkedAdd left right = none) :
    modulus ≤ left.toNat + right.toNat := by
  unfold checkedAdd at unfit
  split at unfit
  · cases unfit
  · omega

/-- The first check of a mapping. -/
theorem VirtualAddress.isPlaced_iff {address : VirtualAddress} :
    (!address.isNull && address.isPageAligned config) = true ↔
      address.word.toNat ≠ 0 ∧ address.word.toNat % config.pageSize = 0 := by
  rw [Bool.and_eq_true, isPageAligned_iff, Bool.not_eq_true', isNull, beq_eq_false_iff_ne, ne_eq,
    ← UInt64.toNat_inj]
  rfl

namespace Config

/-- The number of pages that a number of bytes takes up. -/
def pagesFor (config : Config) (length : Word) : Nat :=
  (length.toNat + config.pageSize - 1) / config.pageSize

variable (config : Config)

/-- The second check of a mapping. -/
theorem isShaped_iff {length offset : Word} :
    (length != 0 && config.offsetInPage offset == 0) = true ↔
      length.toNat ≠ 0 ∧ offset.toNat % config.pageSize = 0 := by
  rw [Bool.and_eq_true, bne_iff_ne, beq_iff_eq, ne_eq, ← UInt64.toNat_inj, ← UInt64.toNat_inj,
    toNat_offsetInPage]
  rfl

/-- The count of pages is rounded up as it is for numbers. -/
theorem toNat_ceilingDiv (length : Word) :
    (Word.ceilingDiv length config.pageSizeWord).toNat = config.pagesFor length := by
  have size := config.pageSize_pos
  have bounds := Word.ceilingDiv_bounds length config.pageSizeWord
    (by rw [Config.toNat_pageSizeWord]; exact size)
  rw [Config.toNat_pageSizeWord] at bounds
  symm
  apply Nat.div_eq_of_lt_le
  · omega
  · rw [Nat.succ_mul]
    omega

end Config

namespace Machine

/-- The mapping that a request asks for: it opens a handle of its own and measures the file. -/
def mappingPlan (machine : Machine config) (address : VirtualAddress) (writable : Bool)
    (file : FileId) (offset : Word) : MappingPlan where
  start := address.page config
  writable := writable
  handle := machine.environment.nextHandle file
  offset := offset
  fileLength := (machine.environment.file file).data.size

/-- What the arguments of a mapping have to meet. Sums and products are those of numbers, so none of
them wraps around. -/
structure IsSound (config : Config) (address : VirtualAddress) (length offset : Word) : Prop where
  placed : address.word.toNat ≠ 0
  aligned : address.word.toNat % config.pageSize = 0
  sized : length.toNat ≠ 0
  offsetAligned : offset.toNat % config.pageSize = 0
  bounded : address.word.toNat + length.toNat ≤ config.userEnd.toNat
  inFile : offset.toNat + (config.pagesFor length - 1) * config.pageSize < Word.modulus

/-- What a request for a mapping has to meet. -/
structure Mappable (machine : Machine config) (key : SpaceKey) (address : VirtualAddress)
    (length : Word) (file : FileId) (offset : Word) : Prop
    extends IsSound config address length offset where
  reopens : (machine.environment.fileSwitches file).reopen = none
  reached : (machine.environment.fileSwitches file).inode = none
  vacant : ∀ index < config.pagesFor length,
    machine.page? key ((address.page config).advance index) = none

/-- Why a mapping is not established, with the error that is reported and the machine that is left:
the first check that fails decides. -/
inductive MappingFails (machine : Machine config) (key : SpaceKey) (address : VirtualAddress)
    (length : Word) (file : FileId) (offset : Word) : VmError → Machine config → Prop where
  | misplaced
      (wrong : ¬ (address.word.toNat ≠ 0 ∧ address.word.toNat % config.pageSize = 0)) :
    MappingFails machine key address length file offset .invalidAddress machine
  | misshapen (placed : address.word.toNat ≠ 0 ∧ address.word.toNat % config.pageSize = 0)
      (wrong : ¬ (length.toNat ≠ 0 ∧ offset.toNat % config.pageSize = 0)) :
    MappingFails machine key address length file offset .invalidArgument machine
  | outside (placed : address.word.toNat ≠ 0 ∧ address.word.toNat % config.pageSize = 0)
      (shaped : length.toNat ≠ 0 ∧ offset.toNat % config.pageSize = 0)
      (wrong : config.userEnd.toNat < address.word.toNat + length.toNat) :
    MappingFails machine key address length file offset .invalidAddress machine
  | beyondFiles (placed : address.word.toNat ≠ 0 ∧ address.word.toNat % config.pageSize = 0)
      (shaped : length.toNat ≠ 0 ∧ offset.toNat % config.pageSize = 0)
      (bounded : address.word.toNat + length.toNat ≤ config.userEnd.toNat)
      (wrong : Word.modulus ≤ offset.toNat + (config.pagesFor length - 1) * config.pageSize) :
    MappingFails machine key address length file offset .invalidArgument machine
  | notReopened (sound : IsSound config address length offset) {code : ErrorCode}
      (wrong : (machine.environment.fileSwitches file).reopen = some code) :
    MappingFails machine key address length file offset (.badFile code) machine
  | notReached (sound : IsSound config address length offset)
      (reopens : (machine.environment.fileSwitches file).reopen = none) {code : ErrorCode}
      (wrong : (machine.environment.fileSwitches file).inode = some code) :
    MappingFails machine key address length file offset (.badFile code)
      (machine.reopened (machine.environment.nextHandle file))
  | occupied (sound : IsSound config address length offset)
      (reopens : (machine.environment.fileSwitches file).reopen = none)
      (reached : (machine.environment.fileSwitches file).inode = none) {index : Nat}
      (inside : index < config.pagesFor length)
      (vacant : ∀ before < index,
        machine.page? key ((address.page config).advance before) = none)
      (wrong : (machine.page? key ((address.page config).advance index)).isSome) :
    MappingFails machine key address length file offset .alreadyMapped
      ((machine.reopened (machine.environment.nextHandle file)).record
        (.mapFailed address ((address.page config).advance index) .alreadyMapped))

variable {machine later : Machine config} {key : SpaceKey} {address : VirtualAddress}
  {length offset : Word} {file : FileId} {error : VmError}

/-- The pages of a mapping with sound arguments have numbers and file positions. -/
theorem IsSound.fits (sound : IsSound config address length offset) (machine : Machine config)
    (writable : Bool) (file : FileId) :
    (machine.mappingPlan address writable file offset).Fits config (config.pagesFor length) := by
  have positive : length ≠ 0 := fun zero => sound.sized (congrArg UInt64.toNat zero)
  have inSpace : address.word.toNat + length.toNat < Word.modulus :=
    Nat.lt_of_le_of_lt sound.bounded config.userEnd.toNat_lt
  have inFile := sound.inFile
  rw [← config.toNat_ceilingDiv] at inFile ⊢
  exact MappingPlan.fits_of_checks sound.aligned positive inSpace inFile ..

/-- A mapping that fails was not one that can be established. -/
theorem MappingFails.not_mappable
    (fails : machine.MappingFails key address length file offset error later) :
    ¬ machine.Mappable key address length file offset := by
  intro mappable
  cases fails with
  | misplaced wrong => exact wrong ⟨mappable.placed, mappable.aligned⟩
  | misshapen placed wrong => exact wrong ⟨mappable.sized, mappable.offsetAligned⟩
  | outside placed shaped wrong => exact Nat.not_lt_of_le mappable.bounded wrong
  | beyondFiles placed shaped bounded wrong => exact Nat.not_lt_of_le wrong mappable.inFile
  | notReopened sound wrong => simp [mappable.reopens] at wrong
  | notReached sound reopens wrong => simp [mappable.reached] at wrong
  | occupied sound reopens reached inside vacant wrong => simp [mappable.vacant _ inside] at wrong

/-- For whatever reason a mapping fails, it leaves a handle opened at most. -/
theorem MappingFails.leavesUnmapped
    (fails : machine.MappingFails key address length file offset error later) :
    machine.LeavesUnmapped file later := by
  cases fails with
  | misplaced | misshapen | outside | beyondFiles | notReopened => exact .refused
  | notReached => exact .opened rfl rfl
  | occupied => exact .undone rfl rfl

end Machine

namespace KernelAction

open Machine

/-- What a mapping does once its arguments have been checked. -/
def establishMapping (key : SpaceKey) (address : VirtualAddress) (length : Word) (writable : Bool)
    (file : FileHandle) (offset : Word) : KernelAction config VirtualAddress := do
  let count := Word.ceilingDiv length config.pageSizeWord
  let handle ← onEnvironment (EnvironmentAction.reopen file)
  let fileLength ← onEnvironment (EnvironmentAction.fileLength handle)
  let start := address.page config
  let range ← Action.exactly (PageRange.ofCount start count)
  registerPages key address { start, writable, handle, offset, fileLength } 0 count.toNat
  updateSpace key fun space =>
    { space with
      regions := space.regions.insert start { range := range, handle := handle, offset := offset } }
  return address

section Deciding

variable {machine : Machine config} {key : SpaceKey} {address : VirtualAddress}
  {length offset : Word} {writable : Bool} {file : FileHandle}

/-- A mapping checks its arguments first, one after the other. -/
theorem mapFile_of_checks {whenDone : VirtualAddress → Machine config → Prop}
    (established : IsSound config address length offset →
      (establishMapping key address length writable file offset).Ends machine whenDone
        (machine.MappingFails key address length file.file offset)) :
    (mapFile key address length writable file offset).Ends machine whenDone
      (machine.MappingFails key address length file.file offset) := by
  unfold mapFile
  simp only [Action.ends_bind, Action.ends_require, Action.ends_orFail]
  refine ⟨fun placed => ⟨fun shaped => ⟨fun stop within => ⟨fun bounded => ?_,
    fun unbounded => ?unbounded⟩, fun unreached => ?unreached⟩, fun misshapen => ?misshapen⟩,
    fun misplaced => ?misplaced⟩
  case misplaced =>
    exact .misplaced (mt VirtualAddress.isPlaced_iff.mpr (Bool.eq_false_iff.mp misplaced))
  all_goals rw [VirtualAddress.isPlaced_iff] at placed
  case misshapen =>
    exact .misshapen placed (mt config.isShaped_iff.mpr (Bool.eq_false_iff.mp misshapen))
  all_goals rw [config.isShaped_iff] at shaped
  case unreached =>
    have wraps := Word.modulus_le_of_checkedAdd (Option.map_eq_none_iff.mp unreached)
    exact .outside placed shaped (Nat.lt_of_lt_of_le config.userEnd.toNat_lt wraps)
  case unbounded =>
    rw [decide_eq_false_iff_not, UInt64.le_iff_toNat_le,
      VirtualAddress.toNat_of_checkedAdd within] at unbounded
    exact .outside placed shaped (Nat.lt_of_not_le unbounded)
  rw [decide_eq_true_eq, UInt64.le_iff_toNat_le, VirtualAddress.toNat_of_checkedAdd within]
    at bounded
  have positive : length ≠ 0 := fun zero => shaped.1 (congrArg UInt64.toNat zero)
  obtain ⟨span, exactSpan, spanned⟩ := MappingPlan.span_eq_ok config positive
  rw [config.toNat_ceilingDiv] at spanned
  rw [exactSpan]
  simp only [Action.ends_exactly]
  refine ⟨fun last reaches => ?_, fun unreached => ?beyondFiles⟩
  case beyondFiles =>
    have wraps := Word.modulus_le_of_checkedAdd unreached
    rw [spanned] at wraps
    exact .beyondFiles placed shaped bounded wraps
  have inFile : offset.toNat + (config.pagesFor length - 1) * config.pageSize < Word.modulus := by
    rw [← spanned, ← Word.toNat_of_checkedAdd_eq_some reaches]
    exact Word.toNat_lt_modulus last
  have ends := established ⟨placed.1, placed.2, shaped.1, shaped.2, bounded, inFile⟩
  simpa only [establishMapping, Action.ends_bind] using ends

/-- A mapping whose arguments are sound is established if its file and its pages permit it. -/
theorem establishMapping_ends (spaceExists : (machine.spaces.get? key).isSome)
    (sound : IsSound config address length offset) :
    (establishMapping key address length writable file offset).Ends machine
      (fun result later => result = address ∧
        machine.Mappable key address length file.file offset ∧
        ∃ range, MapsFile key (machine.mappingPlan address writable file.file offset) range machine
          later ∧ range.length = Word.ceilingDiv length config.pageSizeWord)
      (machine.MappingFails key address length file.file offset) := by
  let plan := machine.mappingPlan address writable file.file offset
  have fits : plan.Fits config (Word.ceilingDiv length config.pageSizeWord).toNat :=
    config.toNat_ceilingDiv length ▸ sound.fits machine writable file.file
  have same := (sameButOpenings_reopened machine plan.handle).file file.file
  have sameFaults : (machine.reopened plan.handle).environment.fileSwitches plan.handle.file =
      machine.environment.fileSwitches file.file :=
    (congrArg (·.faults.inForce machine.environment.moment) same :)
  unfold establishMapping
  simp only [Action.ends_bind, ends_onEnvironment]
  refine (EnvironmentAction.reopen_ends file machine.environment).mono ?_ ?notReopened
  case notReopened =>
    rintro error _ ⟨rfl, code, fault, rfl⟩
    exact .notReopened sound fault
  rintro _ _ ⟨reopens, rfl, rfl⟩
  refine (EnvironmentAction.fileLength_ends plan.handle
    (machine.reopened plan.handle).environment).mono ?_ ?notReached
  case notReached =>
    rintro error _ ⟨rfl, code, fault, rfl⟩
    exact .notReached sound reopens (sameFaults ▸ fault)
  rintro fileLength _ ⟨rfl, reached, rfl⟩
  rw [sameFaults] at reached
  have measured : ((machine.reopened plan.handle).environment.file plan.handle.file).data.size =
      plan.fileLength := congrArg (·.data.size) same
  obtain ⟨range, exactRange, starts, counted⟩ := PageRange.ofCount_eq_ok fits.pages
  rw [measured, show PageRange.ofCount (address.page config) _ = .ok range from exactRange]
  simp only [Action.ends_exactly]
  have registers := @registerPages_ends _ (machine.reopened plan.handle) key plan address _ fits
    spaceExists _ 0 (Nat.zero_add _) nofun
  rw [withPages_zero] at registers
  refine registers.mono ?_ ?occupied
  case occupied =>
    rintro _ _ ⟨rfl, index, inside, vacant, taken, rfl⟩
    rw [config.toNat_ceilingDiv] at inside
    exact .occupied sound reopens reached inside vacant taken
  rintro _ _ ⟨rfl, vacant⟩
  simp only [ends_updateSpace, Action.ends_pure]
  refine ⟨trivial, ?_, range, ⟨counted ▸ fits, starts, counted ▸ vacant, rfl, rfl, ?_⟩, counted⟩
  · rw [config.toNat_ceilingDiv] at vacant
    exact { sound with reopens, reached, vacant }
  · rw [counted]
    rfl

/-- A request for a mapping that can be established is granted, and any other fails for the first of
the reasons against it. -/
theorem mapFile_decides (spaceExists : (machine.spaces.get? key).isSome) (address : VirtualAddress)
    (length : Word) (writable : Bool) (file : FileHandle) (offset : Word) :
    (mapFile key address length writable file offset).Ends machine
      (fun result later => result = address ∧
        machine.Mappable key address length file.file offset ∧
        ∃ range, MapsFile key (machine.mappingPlan address writable file.file offset) range machine
          later ∧ range.length = Word.ceilingDiv length config.pageSizeWord)
      (machine.MappingFails key address length file.file offset) :=
  mapFile_of_checks fun sound => establishMapping_ends spaceExists sound

end Deciding

/-- A mapping is established, or the spaces are as they were. -/
theorem mapFile_ends {machine : Machine config} {key : SpaceKey}
    (spaceExists : (machine.spaces.get? key).isSome) (address : VirtualAddress) (length : Word)
    (writable : Bool) (file : FileHandle) (offset : Word) :
    (mapFile key address length writable file offset).Ends machine
      (fun result later => result = address ∧ ∃ plan range, MapsFile key plan range machine later ∧
        plan.start = address.page config ∧ plan.writable = writable ∧
        plan.handle.file = file.file ∧ plan.offset = offset ∧
        address.word.toNat % config.pageSize = 0 ∧
        range.length = Word.ceilingDiv length config.pageSizeWord)
      (fun _ later => machine.LeavesUnmapped file.file later) := by
  refine (mapFile_decides spaceExists address length writable file offset).mono ?_ ?_
  · rintro _ later ⟨rfl, mappable, range, maps, counted⟩
    exact ⟨rfl, _, range, maps, rfl, rfl, rfl, rfl, mappable.aligned, counted⟩
  · exact fun _ _ => MappingFails.leavesUnmapped

end KernelAction

namespace Machine

/-- The pages of a machine without those of a list that belong to a mapping. -/
def pagesWithout (machine : Machine config) (key : SpaceKey) (region : Region)
    (numbers : List PageNumber) : SpaceKey → PageNumber → Option (Page config) :=
  fun probe other =>
    if probe = key ∧ other ∈ numbers ∧ (machine.page? key other).any region.owns then none
    else machine.page? probe other

variable {machine middle : Machine config} {key : SpaceKey} {region : Region} {number : PageNumber}
  {rest : List PageNumber}

/-- A page that does not belong to the mapping stays. -/
theorem pagesWithout_of_foreign (foreign : (machine.page? key number).any region.owns = false) :
    machine.pagesWithout key region (number :: rest) = machine.pagesWithout key region rest := by
  funext probe other
  unfold pagesWithout
  by_cases here : other = number
  · subst here
    simp [foreign]
  · simp [here]

/-- Once a page that belongs to the mapping is gone, those of the rest of the list are left. -/
theorem pagesWithout_of_owned (owned : (machine.page? key number).any region.owns = true)
    (pages : middle.page? = amend machine.page? key number none) :
    middle.pagesWithout key region rest = machine.pagesWithout key region (number :: rest) := by
  unfold pagesWithout
  rw [pages]
  funext probe other
  unfold amend
  by_cases same : probe = key <;> by_cases here : other = number
  · subst same here
    simp [owned]
  · simp [here]
  · simp [same]
  · simp [same]

end Machine

namespace KernelAction

open Machine

/-- The pages of a list that belong to a mapping are removed, and no others. -/
theorem removeOwned_ends {key : SpaceKey} {region : Region} (numbers : List PageNumber)
    (result : Except VmError Unit) {machine : Machine config} (atRest : machine.AtRest) :
    (removeOwned key region numbers result).Ends machine
      (fun _ later => Passes (Transition.Discards key) machine later ∧
        later.page? = machine.pagesWithout key region numbers)
      (fun _ _ => False) := by
  induction numbers generalizing result machine with
  | nil => exact ⟨.refl atRest, funext fun _ => funext fun _ => by simp [pagesWithout]⟩
  | cons number rest inductionHypothesis =>
    have skips (foreign : (machine.page? key number).any region.owns = false) :
        (removeOwned key region rest result).Ends machine
          (fun _ later => Passes (Transition.Discards key) machine later ∧
            later.page? = machine.pagesWithout key region (number :: rest))
          (fun _ _ => False) := by
      rw [pagesWithout_of_foreign foreign]
      exact inductionHypothesis result atRest
    have continues (result : Except VmError Unit) {middle : Machine config}
        (owned : (machine.page? key number).any region.owns = true)
        (removed : Passes (Transition.Discards key) machine middle)
        (pages : middle.page? = amend machine.page? key number none) :
        (removeOwned key region rest result).Ends middle
          (fun _ later => Passes (Transition.Discards key) machine later ∧
            later.page? = machine.pagesWithout key region (number :: rest))
          (fun _ _ => False) := by
      rw [← pagesWithout_of_owned owned pages]
      refine (inductionHypothesis result removed.atRest).mono ?_ (fun _ _ => id)
      exact fun _ later => And.imp_left removed.trans
    unfold removeOwned
    simp only [Action.ends_bind, ends_space]
    cases known : (machine.space key).pages.get? number with
    | none => exact skips (congrArg (Option.any region.owns) known)
    | some page =>
      have found : machine.page? key number = some page := known
      by_cases owned : region.owns page = true
      · have belongs := (congrArg (Option.any region.owns) found).trans owned
        simp only [if_pos owned, Action.ends_bind, Action.ends_attempt]
        cases atRest.consistent.fits.number_eq found
        refine (removePage_ends atRest.consistent found).mono ?_ ?_
        · intro _ middle leads
          exact continues result belongs (.single atRest leads rfl) leads.page?_of_discard
        · intro error middle leads
          have removed : Passes (Transition.Discards key) machine middle := .single atRest leads rfl
          have noted : Passes (Transition.Discards key) middle
              (middle.record (.unmapFailed page.number error)) :=
            .single removed.atRest (.note rfl) trivial
          exact continues (.error error) belongs (removed.trans noted) leads.page?_of_discard
      · simp only [if_neg owned]
        exact skips ((congrArg (Option.any region.owns) found).trans (Bool.eq_false_iff.mpr owned))

end KernelAction

namespace Machine

/-- The machine in which a space has forgotten the record of a mapping. -/
def unrecorded (machine : Machine config) (key : SpaceKey) (start : PageNumber) : Machine config :=
  machine.updateSpace key fun space => { space with regions := space.regions.erase start }

/-- What removing a mapping does: its record and the pages that belong to it are gone. -/
structure UnmapsFile (key : SpaceKey) (start : PageNumber) (region : Region)
    (machine later : Machine config) : Prop where
  recorded : (machine.space key).regions.get? start = some region
  passes : Passes (Transition.Discards key) (machine.unrecorded key start) later
  page?_eq : later.page? = fun probe other =>
    if probe = key ∧ (machine.page? key other).any region.owns then none
    else machine.page? probe other

/-- Forgetting a record is a change of the settings of a space. -/
theorem unrecorded_leads (machine : Machine config) (key : SpaceKey) (start : PageNumber) :
    (Transition.set key).Leads machine (machine.unrecorded key start) :=
  .set fun _ => rfl

/-- Only pages of its range belong to a mapping. -/
theorem mem_pages_of_owns {machine : Machine config} (fits : machine.Fits) {key : SpaceKey}
    {region : Region} {number : PageNumber}
    (owned : (machine.page? key number).any region.owns = true) :
    number ∈ region.range.pages := by
  obtain ⟨page, found, owns⟩ := (Option.any_eq_true _ _).mp owned
  rw [Region.owns, Bool.and_eq_true, fits.number_eq found] at owns
  exact (PageRange.mem_pages_iff _).mpr owns.1

end Machine

namespace KernelAction

open Machine

/-- A recorded mapping is removed with all pages that belong to it, also if the content of one of them
cannot be saved. -/
theorem unmapFile_recorded_ends {key : SpaceKey} {machine : Machine config} (atRest : machine.AtRest)
    {address : VirtualAddress} {region : Region} (aligned : address.isPageAligned config = true)
    (recorded : (machine.space key).regions.get? (address.page config) = some region) :
    (unmapFile key address).Ends machine
      (fun _ later => UnmapsFile key (address.page config) region machine later)
      (fun _ later => UnmapsFile key (address.page config) region machine later) := by
  unfold unmapFile
  simp only [Action.ends_bind, Action.ends_require, ends_space, recorded, Action.ends_orFail]
  refine ⟨fun _ => ⟨?_, nofun⟩, fun misaligned => absurd aligned (by simp [misaligned])⟩
  rintro _ ⟨rfl⟩
  have erased := machine.unrecorded_leads key (address.page config)
  have erasedRest := erased.atRest atRest
  simp only [ends_updateSpace]
  refine (removeOwned_ends region.range.pages (.ok ()) erasedRest).mono ?_ (fun _ _ => False.elim)
  rintro result later ⟨passes, pages⟩
  have unmaps : UnmapsFile key (address.page config) region machine later := by
    refine ⟨recorded, passes, pages.trans ?_⟩
    unfold pagesWithout
    rw [erased.page?_of_set]
    funext probe other
    refine if_congr (and_congr_right fun _ => and_iff_right_of_imp ?_) rfl rfl
    exact mem_pages_of_owns atRest.consistent.fits
  rw [Action.ends_ofExcept]
  exact ⟨fun _ _ => unmaps, fun _ _ => unmaps⟩

/-- Where no mapping is recorded there is nothing to remove. -/
theorem unmapFile_of_unrecorded {key : SpaceKey} {machine : Machine config}
    {address : VirtualAddress}
    (unrecorded : address.isPageAligned config = true →
      (machine.space key).regions.get? (address.page config) = none) :
    unmapFile key address machine = .failed .notMapped machine := by
  unfold unmapFile
  cases aligned : address.isPageAligned config with
  | false => rfl
  | true =>
    have absent := unrecorded aligned
    refine Action.bind_eq_failed_iff.mpr (.inr ⟨(), machine, rfl, ?_⟩)
    refine Action.bind_eq_failed_iff.mpr (.inr ⟨machine.space key, machine, rfl, ?_⟩)
    refine Action.bind_eq_failed_iff.mpr (.inl ?_)
    rw [absent]
    rfl

/-- A mapping is removed, or there is none. -/
theorem unmapFile_ends {key : SpaceKey} {machine : Machine config} (atRest : machine.AtRest)
    (address : VirtualAddress) :
    (unmapFile key address).Ends machine
      (fun _ later => ∃ region, UnmapsFile key (address.page config) region machine later)
      (fun _ later => later = machine ∨
        ∃ region, UnmapsFile key (address.page config) region machine later) := by
  by_cases known : address.isPageAligned config = true ∧
      ∃ region, (machine.space key).regions.get? (address.page config) = some region
  · obtain ⟨aligned, region, recorded⟩ := known
    exact (unmapFile_recorded_ends atRest aligned recorded).mono (fun _ _ unmaps => ⟨region, unmaps⟩)
      fun _ _ unmaps => .inr ⟨region, unmaps⟩
  · have nothing := unmapFile_of_unrecorded fun aligned =>
      Option.eq_none_iff_forall_not_mem.mpr fun region recorded => known ⟨aligned, region, recorded⟩
    unfold Action.Ends
    rw [nothing]
    exact .inl rfl

end KernelAction

end DemandPaging

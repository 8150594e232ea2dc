import DemandPaging.Inspection
import DemandPaging.Operation

/-!
# Sessions

A session drives a fresh machine through a list of steps and reports on each. It numbers address
spaces in the order in which they were created, and a step names a space by that number; a number
whose space was dropped or forgotten names nothing any more. The session ends after its last step,
when all spaces it can still name are dropped, or at the first panic.
-/

namespace DemandPaging

/-- What can be asked about an address space. -/
inductive Question where
  | pageType (address : VirtualAddress)
  | pageCount
  | translate (address : VirtualAddress)
  | entryFlags (address : VirtualAddress)
  | isDirty (address : VirtualAddress)
  | checkAddress (address : VirtualAddress)
  | describePage (address : VirtualAddress)
  | pageMap
  | report
  | stackPointer
  | regions
  | describeRegions
deriving DecidableEq

/-- One step of a session. Spaces are named by the order of their creation. -/
inductive Step (config : Config) where
  | create (subsystem : Subsystem)
  | drop (space : Nat)
  /-- Makes a space unreachable without dropping it. -/
  | forget (space : Nat)
  | fork (space : Nat)
  | copy (space parent : Nat)
  | request (space : Nat) (asked : SpaceRequest config)
  | ask (space : Nat) (question : Question)
  /-- An operation that concerns no single space. -/
  | operate (operation : Operation config)
  | fileReport (file : FileId)
  | counts (subsystem : Subsystem)

/-- What a step shows. -/
inductive Reply where
  | answer (answer : Answer)
  /-- A space was created and got this number. -/
  | created (space : Nat) (key : SpaceKey) (root : PhysicalAddress)
  | failed (error : VmError)
  | panicked (panic : Panic)
  | pageType (type : Option PageType)
  | count (number : Nat)
  | physical (address : Option PhysicalAddress)
  | flags (flags : Option EntryFlags)
  | truth (isTrue : Bool)
  | text (text : Option String)
  | texts (texts : List String)
  /-- The registered pages and those of them that are resident. -/
  | pageMap (registered resident : List PageNumber)
  | space (report : SpaceReport)
  | address (address : Option VirtualAddress)
  | regions (reports : List RegionReport)
  | file (report : FileReport)
  | counts (resident evictions : Nat)

/-- What is shown of a step: the reply, the counts after it unless the machine panicked, and the
events on the way. -/
structure StepReport where
  reply : Reply
  totals : Option Totals
  events : List Event

/-- What is left when all spaces are dropped at the end. -/
structure Aftermath where
  panic : Option Panic
  totals : Totals
  files : List FileReport
  events : List Event

/-- The state at the end of a session. -/
structure FinalReport where
  spaces : List (Option SpaceReport)
  files : List FileReport
  /-- How often each initializer was run. -/
  runs : List Nat
  aftermath : Aftermath

/-- All that a session shows. There is no final report if it ended with a panic. -/
structure Transcript where
  steps : List StepReport
  final : Option FinalReport

/-- A machine and the spaces that can still be named, by the order of their creation. -/
structure Session (config : Config) where
  machine : Machine config
  spaces : Array (Option SpaceKey) := #[]

namespace Question

variable {config : Config}

/-- The answer to a question about a space. -/
def reply (machine : Machine config) (key : SpaceKey) (question : Question) : Reply :=
  let space := machine.space key
  match question with
  | .pageType address => .pageType ((space.pageAt? address).map fun page => page.kind.type)
  | .pageCount => .count space.pages.size
  | .translate address => .physical (space.translate address)
  | .entryFlags address => .flags (space.entryFlags? address)
  | .isDirty address => .truth (space.isDirty (address.page config))
  | .checkAddress address =>
    match space.checkAddress address with
    | .ok () => .answer .done
    | .error error => .failed error
  | .describePage address => .text ((space.pageAt? address).map Page.text)
  | .pageMap => .pageMap space.pages.keys (space.residentPages.map Page.number)
  | .report => .space (machine.spaceReport key)
  | .stackPointer => .address space.stackPointer
  | .regions => .regions (space.mappings.map (Region.report config))
  | .describeRegions => .texts (space.mappings.map Region.text)

end Question

namespace Session

variable {config : Config}

/-- A session on a machine with a number of frames and swap slots. -/
def start (config : Config) (frames slots : Nat) : Session config where
  machine := .boot config frames slots

/-- The space that a number names. -/
def key? (session : Session config) (space : Nat) : Option SpaceKey :=
  (session.spaces[space]?).join

/-- Makes a number name nothing. -/
def unname (session : Session config) (space : Nat) : Session config :=
  { session with spaces := session.spaces.modify space fun _ => none }

/-- The reply to a step that names no space. -/
def noSuchSpace : Reply := .answer (.refused .noSuchSpace)

/-- Performs an operation. A space that it creates gets the next number. -/
def operate (session : Session config) (operation : Operation config) : Reply × Session config :=
  match operation.perform session.machine with
  | .done (.space key root) machine =>
    (.created session.spaces.size key root,
      { machine := machine, spaces := session.spaces.push (some key) })
  | .done answer machine => (.answer answer, { session with machine := machine })
  | .failed error machine => (.failed error, { session with machine := machine })
  | .panicked panic machine => (.panicked panic, { session with machine := machine })

/-- Continues with the space that a number names. -/
def withSpace (session : Session config) (space : Nat)
    (next : SpaceKey → Reply × Session config) : Reply × Session config :=
  match session.key? space with
  | some key => next key
  | none => (noSuchSpace, session)

/-- Carries out a step. -/
def perform (session : Session config) : Step config → Reply × Session config
  | .create subsystem => session.operate (.create subsystem)
  | .drop space => session.withSpace space fun key => (session.unname space).operate (.drop key)
  | .forget space => session.withSpace space fun _ => (.answer .done, session.unname space)
  | .fork space => session.withSpace space fun key => session.operate (.fork key)
  | .copy space parent => session.withSpace space fun key =>
    session.withSpace parent fun parentKey => session.operate (.copy key parentKey)
  | .request space asked => session.withSpace space fun key =>
    session.operate (.request key asked)
  | .ask space question => session.withSpace space fun key =>
    (question.reply session.machine key, session)
  | .operate operation => session.operate operation
  | .fileReport file =>
    if session.machine.environment.files.contains file then
      (.file (session.machine.fileReport file), session)
    else (.answer (.refused .noSuchFile), session)
  | .counts subsystem =>
    let table := session.machine.table subsystem
    (.counts table.resident table.evictions, session)

/-- The events that happened since the history of `earlier`. -/
def eventsSince (earlier later : Machine config) : List Event :=
  (later.environment.history.extract earlier.environment.history.size
    later.environment.history.size).toList

/-- Drops all spaces that can still be named, in the order of their creation. -/
def dropAll : List SpaceKey → KernelAction config Unit :=
  Action.forEach KernelAction.dropSpace

/-- What is left when all spaces that can still be named are dropped. -/
def aftermath (session : Session config) : Aftermath :=
  let outcome := dropAll (session.spaces.toList.filterMap id) session.machine
  let machine := outcome.state
  { panic := match outcome with
      | .panicked panic _ => some panic
      | _ => none
    totals := machine.totals
    files := machine.fileReports
    events := eventsSince session.machine machine }

/-- The state at the end. -/
def finalReport (session : Session config) : FinalReport where
  spaces := session.spaces.toList.map fun key => key.map session.machine.spaceReport
  files := session.machine.fileReports
  runs := session.machine.environment.runs.values
  aftermath := session.aftermath

/-- Carries out steps, some of which may have been refused already, up to the first panic. -/
def runSteps (session : Session config) : List (Except Refusal (Step config)) → Transcript
  | [] => { steps := [], final := some session.finalReport }
  | step :: rest =>
    let (reply, next) := match step with
      | .ok step => session.perform step
      | .error refusal => (.answer (.refused refusal), session)
    let events := eventsSince session.machine next.machine
    match reply with
    | .panicked _ => { steps := [{ reply, totals := none, events }], final := none }
    | _ =>
      let transcript := next.runSteps rest
      { transcript with
        steps := { reply, totals := some next.machine.totals, events } :: transcript.steps }

/-- Runs a whole session on a fresh machine. -/
def run (config : Config) (frames slots : Nat) (steps : List (Except Refusal (Step config))) :
    Transcript :=
  (start config frames slots).runSteps steps

end Session

end DemandPaging

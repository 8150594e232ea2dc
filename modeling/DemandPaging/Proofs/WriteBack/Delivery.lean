import DemandPaging.Proofs.WriteBack.Contents

/-!
# What becomes of an attempt to write to a file

The failures that a file is subject to decide beforehand how an attempt to write to it ends that is made at
a moment: which bytes it takes, and with which error the attempt fails if it does. Every attempt has a
moment of its own, so each may end differently, and the files are what the attempts make of them one after
the other.
-/

namespace DemandPaging

variable {config : Config}

/-- The error of an attempt to write a number of bytes at an offset of a file while these failures are in
force, if the attempt fails. -/
def FileSwitches.refusal? (switches : FileSwitches) (offset length : Nat) : Option VmError :=
  match switches.inode, switches.write.filter fun _ => decide (switches.failFrom ≤ offset) with
  | some code, _ => some (.badFile code)
  | none, some code => some (.io code)
  | none, none =>
    if File.atMost switches.writeLimit length = length then none else some (.io inputOutputError)

/-- Failures that do no harm make no attempt fail. -/
theorem FileSwitches.AreHarmless.refusal?_eq {switches : FileSwitches} (harmless : switches.AreHarmless)
    (offset length : Nat) : switches.refusal? offset length = none := by
  obtain ⟨_, write, inode, _, limit⟩ := harmless
  simp [refusal?, write, inode, limit, File.atMost]

/-- Every pattern of failures is that of some file: at each moment anything can be in force, whatever is in
force at the others. -/
theorem FileFaults.exists_inForce (pattern : Nat → FileSwitches) (bound : Nat) :
    ∃ faults : FileFaults, ∀ moment < bound, faults.inForce moment = pattern moment := by
  induction bound with
  | zero => exact ⟨{}, fun _ below => absurd below (Nat.not_lt_zero _)⟩
  | succ bound inductionHypothesis =>
    obtain ⟨faults, agrees⟩ := inductionHypothesis
    refine ⟨{ faults with lapses := (bound, pattern bound) :: faults.lapses }, fun moment below => ?_⟩
    by_cases last : moment = bound
    · subst last
      simp [inForce, DemandPaging.inForce]
    · have unlike : (moment == bound) = false := beq_false_of_ne last
      have earlier := agrees moment (by omega)
      simpa [inForce, DemandPaging.inForce, List.lookup_cons, unlike] using earlier

/-- The file after an attempt to write to it while these failures are in force: unless it refuses them
all, it holds as many of the bytes as it takes at once. -/
def File.receive (file : File) (switches : FileSwitches) (offset : Nat) (bytes : Bytes) : File :=
  match switches.inode, switches.write.filter fun _ => decide (switches.failFrom ≤ offset) with
  | none, none => file.store offset (bytes.slice 0 (File.atMost switches.writeLimit bytes.size))
  | _, _ => file

/-- The files after something that happened at a moment; only attempts to write change them. -/
def Event.deliver (event : Event) (moment : Nat) (files : OrderedMap FileId File) :
    OrderedMap FileId File :=
  match event with
  | .writingBack handle offset bytes =>
    files.modify handle.file fun file =>
      file.receive (file.faults.inForce moment) offset.toNat bytes
  | _ => files

/-- Whether an event is an attempt to read a file. -/
def Event.isFileRead : Event → Bool
  | .readingFile .. => true
  | _ => false

namespace File

variable (file : File) (switches : FileSwitches) (offset : Nat) (bytes : Bytes)

/-- To receive bytes is not to be read. -/
@[simp] theorem reads_receive : (file.receive switches offset bytes).reads = file.reads := by
  unfold receive
  split <;> rfl

variable {file switches offset}

/-- A file whose inode cannot be had receives nothing. -/
theorem receive_of_unreachable {code : ErrorCode} (unreachable : switches.inode = some code) :
    file.receive switches offset bytes = file := by
  simp [receive, unreachable]

/-- A write that fails leaves the file as it was. -/
theorem receive_of_error {code : ErrorCode} (failed : file.write switches offset bytes = .error code) :
    file.receive switches offset bytes = file ∧
      (switches.write.filter fun _ => decide (switches.failFrom ≤ offset)) = some code := by
  unfold write at failed
  unfold receive
  cases faulty : switches.write with
  | none =>
    rw [faulty] at failed
    cases failed
  | some cause =>
    by_cases reached : switches.failFrom ≤ offset
    · simp only [faulty, if_pos reached] at failed
      cases failed
      have found : ((some code).filter fun _ => decide (switches.failFrom ≤ offset)) =
          some code := by simp [reached]
      rw [found]
      exact ⟨by split <;> first | rfl | contradiction, rfl⟩
    · simp only [faulty, if_neg reached] at failed
      cases failed

/-- A write that succeeds leaves what the file receives. -/
theorem receive_of_ok {count : Nat} {later : File} (reachable : switches.inode = none)
    (written : file.write switches offset bytes = .ok (count, later)) :
    file.receive switches offset bytes = later ∧
      (switches.write.filter fun _ => decide (switches.failFrom ≤ offset)) = none := by
  have healthy : (switches.write.filter fun _ => decide (switches.failFrom ≤ offset)) = none := by
    cases faulty : switches.write with
    | none => rfl
    | some cause =>
      have before : ¬ switches.failFrom ≤ offset := by
        intro reached
        have failing : ∃ code, file.write switches offset bytes = .error code :=
          write_eq_error_iff.mpr ⟨by simp [faulty], reached⟩
        obtain ⟨code, failed⟩ := failing
        cases failed.symm.trans written
      simp [before]
  obtain ⟨counted, rfl⟩ := write_eq_ok_prefix written
  refine ⟨?_, healthy⟩
  simp only [receive, reachable, healthy, counted]

end File

/-- An attempt to write is no read. -/
theorem Event.reads_deliver (event : Event) (moment : Nat) (files : OrderedMap FileId File)
    (id : FileId) :
    ((event.deliver moment files).get? id).map File.reads = (files.get? id).map File.reads := by
  cases event with
  | writingBack handle offset bytes =>
    show ((files.modify handle.file _).get? id).map _ = _
    rw [OrderedMap.get?_modify_eq]
    split
    · rw [Option.map_map]
      exact congrFun (congrArg Option.map (funext fun file => File.reads_receive ..)) _
    · rfl
  | _ => rfl

namespace Environment

/-- The attempts to read files, in the order in which they were made. -/
def fileReads (environment : Environment config) : List Event :=
  environment.history.toList.filter Event.isFileRead

/-- Other events leave the list of reads as it is. -/
theorem fileReads_record {environment : Environment config} {event : Event}
    (other : event.isFileRead = false) : (environment.record event).fileReads = environment.fileReads := by
  simp [fileReads, record, other]

/-- The error with which an attempt to write to a file fails that is made at a moment, if it does. -/
def refusal? (environment : Environment config) (event : Event) (moment : Nat) : Option VmError :=
  match event with
  | .writingBack handle offset bytes =>
    ((environment.file handle.file).faults.inForce moment).refusal? offset.toNat bytes.size
  | _ => none

/-- What a number of attempts to write to files leave of the environment: the files have received the
attempts, each at a moment of its own, nothing was read, and swap and initializers are as they were. -/
structure Delivers (attempts : List Event) (before after : Environment config) : Prop where
  files : after.files = (attempts.zipIdx (before.moment + 1)).foldl
    (fun files (attempt, moment) => attempt.deliver moment files) before.files
  moment : after.moment = before.moment + attempts.length
  writeAttempts : after.writeAttempts = before.writeAttempts ++ attempts
  fileReads : after.fileReads = before.fileReads
  swap : after.swap = before.swap
  runs : after.runs = before.runs

variable {attempts further : List Event} {before middle after : Environment config}

/-- No attempts leave the environment as it was. -/
theorem Delivers.nil (environment : Environment config) : Delivers [] environment environment :=
  ⟨rfl, rfl, (List.append_nil _).symm, rfl, rfl, rfl⟩

/-- Attempts may be delivered in parts, one part after the other. -/
theorem Delivers.trans (first : Delivers attempts before middle)
    (second : Delivers further middle after) : Delivers (attempts ++ further) before after where
  files := by
    rw [second.files, first.files, first.moment, List.zipIdx_append, List.foldl_append,
      Nat.add_right_comm]
  moment := by rw [second.moment, first.moment, List.length_append, Nat.add_assoc]
  writeAttempts := by rw [second.writeAttempts, first.writeAttempts, List.append_assoc]
  fileReads := second.fileReads.trans first.fileReads
  swap := second.swap.trans first.swap
  runs := second.runs.trans first.runs

/-- A report of a failure changes nothing else. -/
theorem Delivers.record (delivers : Delivers attempts before after) {event : Event}
    (unasked : event.isRequest = false) : Delivers attempts before (after.record event) where
  files := delivers.files
  moment := (moment_record unasked after).trans delivers.moment
  writeAttempts :=
    (writeAttempts_record (by cases event <;> first | rfl | cases unasked)).trans delivers.writeAttempts
  fileReads :=
    (fileReads_record (by cases event <;> first | rfl | cases unasked)).trans delivers.fileReads
  swap := delivers.swap
  runs := delivers.runs

/-- How often a file was read is not changed by attempts to write to it. -/
theorem Delivers.reads_eq (delivers : Delivers attempts before after) (id : FileId) :
    (after.file id).reads = (before.file id).reads := by
  have kept : ∀ (attempts : List (Event × Nat)) (files : OrderedMap FileId File),
      ((attempts.foldl (fun files (attempt, moment) => attempt.deliver moment files) files).get?
        id).map File.reads = (files.get? id).map File.reads := by
    intro attempts
    induction attempts with
    | nil => exact fun _ => rfl
    | cons timed rest inductionHypothesis =>
      intro files
      rw [List.foldl_cons, inductionHypothesis]
      exact timed.1.reads_deliver timed.2 files id
  have same := kept (attempts.zipIdx (before.moment + 1)) before.files
  rw [← delivers.files] at same
  unfold file
  cases known : before.files.get? id <;> cases present : after.files.get? id <;> simp_all

/-- A file that is replaced by what it receives at a moment. -/
theorem files_setFile {environment : Environment config} {id : FileId} {moment offset : Nat}
    {bytes : Bytes} {contents : File}
    (received : (environment.file id).receive ((environment.file id).faults.inForce moment) offset
      bytes = contents) :
    (environment.setFile id contents).files = environment.files.modify id fun file =>
      file.receive (file.faults.inForce moment) offset bytes := by
  show environment.files.modify id (fun _ => contents) = _
  refine OrderedMap.modify_congr fun file present => ?_
  rw [← received, Environment.file, present]
  rfl

/-- A file that receives nothing. -/
theorem files_of_refused {environment : Environment config} {id : FileId} {moment offset : Nat}
    {bytes : Bytes}
    (refused : (environment.file id).receive ((environment.file id).faults.inForce moment) offset
      bytes = environment.file id) :
    environment.files = environment.files.modify id fun file =>
      file.receive (file.faults.inForce moment) offset bytes := by
  refine (OrderedMap.modify_of_fixed fun file present => ?_).symm
  rwa [Environment.file, present] at refused

/-- How an attempt ends is decided by the failures of its file, which attempts do not change. -/
theorem SameTerms.refusal?_eq {before after : Environment config} (same : before.SameTerms after)
    (event : Event) : after.refusal? event = before.refusal? event := by
  funext moment
  cases event with
  | writingBack handle offset bytes =>
    have terms := congrArg File.faults (same.file handle.file)
    have faults : (after.file handle.file).faults = (before.file handle.file).faults := terms
    rw [refusal?, refusal?, faults]
  | _ => rfl

/-- The error with which what a page owes is refused at a moment, if it is. A page owes one attempt at
most. -/
def loss? (environment : Environment config) (owed : List Event) (moment : Nat) : Option VmError :=
  owed.findSome? (environment.refusal? · moment)

@[simp] theorem loss?_nil {environment : Environment config} {moment : Nat} :
    environment.loss? [] moment = none := rfl

/-- Which attempts fail depends on the terms of the files, not on their data. -/
theorem SameTerms.loss?_eq {before after : Environment config} (same : before.SameTerms after)
    (owed : List Event) : after.loss? owed = before.loss? owed := by
  funext moment
  rw [loss?, loss?, funext same.refusal?_eq]

end Environment

/-- What a page of a file owes is refused if its file refuses it. -/
theorem PageKind.loss?_owed_file {backing : FileBacking config} {bytes : PageBytes config}
    {environment : Environment config} {moment : Nat} (used : backing.readBytes ≠ 0) :
    environment.loss? ((PageKind.file backing).owed bytes true) moment =
      ((environment.file backing.handle.file).faults.inForce moment).refusal? backing.offset.toNat
        backing.readBytes := by
  rw [owed, if_pos ⟨rfl, used⟩, Environment.loss?, List.findSome?_singleton, Environment.refusal?,
    FileBacking.size_portion]

/-- A file whose failures do no harm takes all that a page on it owes. -/
theorem PageKind.loss?_of_harmless {kind : PageKind config} {backing : FileBacking config}
    {environment : Environment config} {bytes : PageBytes config} {dirty : Bool}
    (uses : kind.backing? = some backing)
    (harmless : (environment.file backing.handle.file).faults.AreHarmless) (moment : Nat) :
    environment.loss? (kind.owed bytes dirty) moment = none := by
  cases kind with
  | file source =>
    cases uses
    by_cases owes : dirty = true ∧ backing.readBytes ≠ 0
    · rw [owes.1, loss?_owed_file owes.2]
      exact (harmless.inForce moment).refusal?_eq _ _
    · rw [PageKind.owed, if_neg owes]
      rfl
  | unloaded | anonymous => rfl

/-- An attempt to write is delivered. If it returns, the bytes are refused only for being too many to be
taken at once; if it fails, then with the error of the refusal. -/
theorem EnvironmentAction.writeFile_delivers (handle : FileHandle) (offset : Word) (bytes : Bytes)
    (environment : Environment config) :
    (writeFile handle offset bytes).Ends environment
      (fun count after =>
        Environment.Delivers [.writingBack handle offset bytes] environment after ∧
          (environment.nextSwitches handle.file).refusal? offset.toNat bytes.size =
            if count = bytes.size then none else some (.io inputOutputError))
      (fun error after =>
        Environment.Delivers [.writingBack handle offset bytes] environment after ∧
          (environment.nextSwitches handle.file).refusal? offset.toNat bytes.size = some error) := by
  simp only [writeFile, Action.ends_bind, EnvironmentAction.record, checkHandle, Action.ends_change,
    Action.ends_current, Environment.nextSwitches]
  generalize event : Event.writingBack handle offset bytes = attempt
  -- Once the files are known, the rest of the environment is that after the record of the attempt.
  have delivers : ∀ {files : OrderedMap FileId File},
      files = environment.files.modify handle.file (fun file =>
        file.receive (file.faults.inForce (environment.moment + 1)) offset.toNat bytes) →
      Environment.Delivers [attempt] environment { environment.record attempt with files := files } := by
    intro files received
    subst event
    exact ⟨received, rfl, Environment.writeAttempts_record_writingBack,
      Environment.fileReads_record rfl, rfl, rfl⟩
  have same : (environment.record attempt).file handle.file = environment.file handle.file := rfl
  have inForce : (environment.record attempt).fileSwitches handle.file =
      (environment.file handle.file).faults.inForce (environment.moment + 1) := by
    subst event
    rfl
  rw [inForce]
  generalize now : (environment.file handle.file).faults.inForce (environment.moment + 1) =
    switches at inForce ⊢
  cases inode : switches.inode with
  | some code =>
    refine ⟨delivers (Environment.files_of_refused (now ▸ File.receive_of_unreachable _ inode)), ?_⟩
    simp [FileSwitches.refusal?, inode]
  | none =>
    simp only [Action.ends_pure, same, inForce]
    cases written : (environment.file handle.file).write switches offset.toNat bytes with
    | error code =>
      obtain ⟨kept, failing⟩ := File.receive_of_error _ written
      refine ⟨delivers (Environment.files_of_refused (now ▸ kept)), ?_⟩
      simp only [FileSwitches.refusal?, inode, failing]
    | ok transfer =>
      obtain ⟨count, later⟩ := transfer
      obtain ⟨received, healthy⟩ := File.receive_of_ok _ inode written
      have counted := (File.write_eq_ok_prefix written).1
      refine ⟨delivers (Environment.files_setFile (now ▸ received)), ?_⟩
      simp only [FileSwitches.refusal?, inode, healthy, ← counted]

namespace FileBacking

open Environment

/-- Writing back makes the attempt that is owed, and fails exactly if the file refuses it, with the
error of the refusal. -/
theorem writeBack_delivers (backing : FileBacking config) (bytes : PageBytes config)
    (environment : Environment config) :
    (backing.writeBack bytes).Ends environment
      (fun _ after => Delivers ((PageKind.file backing).owed bytes true) environment after ∧
        environment.loss? ((PageKind.file backing).owed bytes true) (environment.moment + 1) = none)
      (fun error after => Delivers ((PageKind.file backing).owed bytes true) environment after ∧
        environment.loss? ((PageKind.file backing).owed bytes true) (environment.moment + 1) =
          some error) := by
  unfold writeBack
  by_cases empty : backing.readBytes = 0
  · rw [if_pos empty, Action.ends_pure, PageKind.owed, if_neg fun owes => owes.2 empty]
    exact ⟨.nil environment, rfl⟩
  rw [if_neg empty, PageKind.loss?_owed_file empty, PageKind.owed, if_pos ⟨rfl, empty⟩,
    Action.ends_bind]
  have attempted := EnvironmentAction.writeFile_delivers backing.handle backing.offset
    (backing.portion bytes) environment
  rw [size_portion] at attempted
  refine attempted.mono ?_ fun _ _ => id
  rintro count after ⟨delivers, refusal⟩
  by_cases whole : count = backing.readBytes
  · rw [if_pos whole] at refusal ⊢
    exact Action.ends_pure.mpr ⟨delivers, refusal⟩
  · rw [if_neg whole] at refusal ⊢
    exact Action.ends_bind.mpr (Action.ends_change.mpr
      (Action.ends_fail.mpr ⟨delivers.record rfl, refusal⟩))

end FileBacking

/-! ## Slots that are returned -/

/-- The device without a number of its slots. -/
def SwapDevice.releaseAll (device : SwapDevice config) (slots : List SwapSlot) : SwapDevice config :=
  slots.foldl release device

/-- Slots that are returned are free, and the others are as they were. -/
theorem SwapDevice.get?_releaseAll (device : SwapDevice config) (slots : List SwapSlot)
    (probe : SwapSlot) : (device.releaseAll slots).slots.get? probe =
      if probe ∈ slots then none else device.slots.get? probe := by
  induction slots generalizing device with
  | nil => simp [releaseAll]
  | cons slot rest inductionHypothesis =>
    refine (inductionHypothesis (device.release slot)).trans ?_
    rw [release, OrderedMap.get?_erase_eq]
    by_cases here : probe = slot <;> simp [here]

namespace Environment

/-- The environment in which a number of swap slots have been returned. -/
def freed (environment : Environment config) (slots : List SwapSlot) : Environment config :=
  { environment with swap := environment.swap.releaseAll slots }

variable {environment before after : Environment config} {slots further : List SwapSlot}
  {attempts : List Event}

@[simp] theorem freed_nil : environment.freed [] = environment := rfl

/-- Slots may be returned in parts. -/
theorem freed_freed : (environment.freed slots).freed further = environment.freed (slots ++ further) := by
  simp only [freed, SwapDevice.releaseAll, List.foldl_append]

/-- Files take what they are given whatever slots are in use. -/
theorem Delivers.freed (delivers : Delivers attempts before after) (slots : List SwapSlot) :
    Delivers attempts (before.freed slots) (after.freed slots) where
  files := delivers.files
  moment := delivers.moment
  writeAttempts := delivers.writeAttempts
  fileReads := delivers.fileReads
  swap := congrArg (fun swap : SwapDevice config => swap.releaseAll slots) delivers.swap
  runs := delivers.runs

end Environment

/-! ## The end of a page -/

namespace PageKind

open Environment

variable {kind : PageKind config}

/-- The end of a page that is not resident returns its slot. -/
theorem discard_absent {before after : Environment config}
    (ended : kind.discard none before = .done () after) : after = before.freed kind.slot?.toList := by
  match kind with
  | .unloaded _ _ | .anonymous none | .file _ =>
    cases ended
    rfl
  | .anonymous (some slot) =>
    obtain ⟨_, _, looked, ended⟩ := Action.bind_eq_done_iff.mp ended
    cases looked
    obtain ⟨_, middle, asserted, ended⟩ := Action.bind_eq_done_iff.mp ended
    cases ended
    unfold Action.assert at asserted
    split at asserted <;> cases asserted
    rfl

/-- The end of a resident page makes the attempt that the page owes, and fails exactly if the file
refuses it. -/
theorem discard_resident_delivers (isLoaded : kind.IsLoaded) (bytes : PageBytes config) (dirty : Bool)
    (environment : Environment config) :
    (kind.discard (some (bytes, dirty))).Ends environment
      (fun _ after => Delivers (kind.owed bytes dirty) environment after ∧
        environment.loss? (kind.owed bytes dirty) (environment.moment + 1) = none)
      (fun error after => Delivers (kind.owed bytes dirty) environment after ∧
        environment.loss? (kind.owed bytes dirty) (environment.moment + 1) = some error) := by
  match kind with
  | .anonymous none => exact ⟨.nil environment, rfl⟩
  | .file backing =>
    match dirty with
    | false => exact ⟨.nil environment, rfl⟩
    | true => exact backing.writeBack_delivers bytes environment

end PageKind

end DemandPaging

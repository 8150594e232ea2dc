import DemandPaging.Proofs.Bystander
import DemandPaging.Proofs.Conduct

/-!
# Which operations answer for a transition

Stores, copies of pages, new files and new states of a file come from few operations, and each of them
names the space or the file that it concerns. Pages of files are registered by requests that name the
file, and by copies of spaces that have such pages.
-/

namespace DemandPaging

variable {config : Config}

namespace Transition

/-- A transition that neither changes files or the bytes of pages nor copies pages. -/
def SparesContents : Transition config → Prop
  | .setFile _ _ | .createFile _ _ | .store _ _ _ _ | .copy _ _ _ _ => False
  | _ => True

/-- Pages are stored to by writes to user memory, and copied by forks and copies. Files are created on
request, and only outsiders replace the data of a file. -/
def IsDueTo (operation : Operation config) (current : Machine config) : Transition config → Prop
  | .store key _ _ _ => ∃ address bytes, operation = .request key (.write address bytes)
  | .copy child parent _ _ => operation = .fork parent ∨ operation = .copy child parent
  | .createFile _ data => operation = .createFile data
  | .setFile file contents =>
    contents.data = (current.environment.file file).data ∨
      ∃ offset bytes, operation = .writeFile file offset bytes ∧
        contents = (current.environment.file file).store offset bytes
  | _ => True

variable {transition : Transition config} {operation : Operation config} {current : Machine config}
  {key : SpaceKey}

/-- A transition that neither stores nor copies needs no cause. -/
theorem SparesContents.isDueTo (spares : transition.SparesContents) :
    transition.IsDueTo operation current := by
  cases transition <;> first | exact trivial | exact spares.elim

/-- Making room neither stores in pages nor copies them. -/
theorem IsQuiet.sparesContents (isQuiet : transition.IsQuiet) : transition.SparesContents := by
  cases transition <;> first | exact trivial | exact isQuiet.elim

/-- An access only makes a page resident; what is stored in it afterwards is another transition. -/
theorem Accesses.sparesContents {number : PageNumber} (accesses : transition.Accesses key number) :
    transition.SparesContents := by
  rcases accesses with (isQuiet | ⟨_, rfl⟩) | rfl | rfl
  · exact isQuiet.sparesContents
  · exact trivial
  · exact trivial
  · exact trivial

/-- Emptying a space stores and copies nothing. -/
theorem Empties.sparesContents (empties : transition.Empties key) : transition.SparesContents := by
  rcases empties with discards | rfl
  · cases transition <;> first | exact trivial | exact discards.elim
  · exact trivial

/-- Dropping a space stores and copies nothing. -/
theorem Drops.sparesContents (drops : transition.Drops key) : transition.SparesContents := by
  rcases drops with empties | rfl
  · exact empties.sparesContents
  · exact trivial

/-- Pages are copied because a space is forked or copied. -/
theorem Clones.isDueTo {child parent : SpaceKey} (clones : transition.Clones child parent)
    (copies : operation = .fork parent ∨ operation = .copy child parent) :
    transition.IsDueTo operation current := by
  rcases clones with prepares | rfl | ⟨_, rfl⟩ | ⟨_, _, rfl⟩
  · cases transition <;> first | exact trivial | exact prepares.elim
  · exact trivial
  · exact trivial
  · exact copies

end Transition

/-- Each transition that a request of a space takes has a cause in the request, by cases over the
requests. -/
theorem SpaceRequest.Takes.isDueTo {key : SpaceKey} {asked : SpaceRequest config}
    {current : Machine config} {transition : Transition config}
    (takes : asked.Takes key current transition) :
    transition.IsDueTo (.request key asked) current := by
  cases asked with
  | allocate => rcases takes with ⟨_, rfl⟩ | ⟨_, _, _, rfl⟩ <;> exact trivial
  | claim | fault | userFault => exact (Transition.Accesses.sparesContents takes).isDueTo
  | remove | recordStackPointer => exact takes ▸ trivial
  | read =>
    obtain ⟨_, accesses⟩ := takes
    exact accesses.sparesContents.isDueTo
  | write =>
    rcases takes with ⟨_, accesses⟩ | ⟨_, _, _, rfl⟩
    · exact accesses.sparesContents.isDueTo
    · exact ⟨_, _, rfl⟩
  | map =>
    rcases takes with ⟨_, rfl⟩ | rfl | rfl | ⟨_, _, _, rfl⟩
    · exact trivial
    · exact .inl rfl
    · exact trivial
    · exact trivial
  | unmap | tearDown => exact (Transition.Empties.sparesContents takes).isDueTo

/-- Each transition that an operation takes has a cause in the operation, by cases over the
operations. -/
theorem Operation.Takes.isDueTo {start current : Machine config} {transition : Transition config}
    {operation : Operation config} (takes : operation.Takes start current transition) :
    transition.IsDueTo operation current := by
  cases operation with
  | create | setSwapFaults => exact takes ▸ trivial
  | drop => exact (Transition.Drops.sparesContents takes).isDueTo
  | fork =>
    rcases takes with rfl | clones | drops
    · exact trivial
    · exact clones.isDueTo (.inl rfl)
    · exact drops.sparesContents.isDueTo
  | copy => exact Transition.Clones.isDueTo takes (.inr rfl)
  | request => exact SpaceRequest.Takes.isDueTo takes
  | shutdown => exact takes.elim
  | takeFrame | returnFrame =>
    obtain ⟨_, rfl⟩ := takes
    exact trivial
  | createFile =>
    obtain ⟨_, rfl⟩ := takes
    exact rfl
  | closeFile | setFileFaults =>
    rw [show transition = _ from takes]
    exact .inl rfl
  | writeFile =>
    rw [show transition = _ from takes]
    exact .inr ⟨_, _, rfl, rfl⟩

/-- The operations of a chronicle answer for its transitions. -/
theorem Chronicle.isDueTo {start machine : Machine config} {episodes : List (Episode config)}
    (chronicle : Chronicle start episodes machine) :
    ∀ episode ∈ episodes, ∀ move ∈ episode.moves,
      move.transition.IsDueTo episode.operation move.before := by
  induction chronicle with
  | nil => exact fun _ listed => absurd listed List.not_mem_nil
  | step _ _ _ _ takes inductionHypothesis =>
    intro episode listed move member
    rcases List.mem_append.mp listed with earlier | last
    · exact inductionHypothesis episode earlier move member
    · cases List.mem_singleton.mp last
      exact (takes move member).isDueTo

namespace Operation

/-- What operations make of a file on their own: mapping it opens a handle, and outsiders close
theirs, write to the file or set its failures. -/
inductive Revises (id : FileId) (before : File) : Operation config → File → Prop where
  | opened {key : SpaceKey} {address : VirtualAddress} {length offset : Word} {writable : Bool} :
    Revises id before (.request key (.map address length writable id offset))
      { before with reopens := before.reopens + 1 }
  | closed : Revises id before (.closeFile id) { before with creatorHolds := false }
  | written {offset : Nat} {bytes : Bytes} :
    Revises id before (.writeFile id offset bytes) (before.store offset bytes)
  | faulted {change : FileFaults → FileFaults} :
    Revises id before (.setFileFaults id change) { before with faults := change before.faults }

variable {operation : Operation config} {start machine : Machine config} {id : FileId}
  {contents : File}

/-- Files are replaced on request only. -/
theorem Takes.revises (takes : operation.Takes start machine (.setFile id contents)) :
    operation.Revises id (machine.environment.file id) contents := by
  have accessed : ∀ {key : SpaceKey} {number : PageNumber},
      ¬ (Transition.setFile id contents : Transition config).Accesses key number := by
    rintro key number ((isQuiet | ⟨_, same⟩) | same | same)
    · exact isQuiet
    all_goals cases same
  cases operation with
  | closeFile | writeFile | setFileFaults =>
    have same : Transition.setFile id contents = _ := takes
    cases same
    constructor
  | create | setSwapFaults =>
    have same : Transition.setFile id contents = _ := takes
    cases same
  | drop => exact (Transition.Drops.concerns takes).keepsFiles.elim
  | fork =>
    rcases takes with same | clones | drops
    · cases same
    · exact clones.concerns.keepsFiles.elim
    · exact drops.concerns.keepsFiles.elim
  | copy => exact (Transition.Clones.concerns takes).keepsFiles.elim
  | shutdown => exact takes.elim
  | takeFrame | returnFrame | createFile =>
    obtain ⟨_, same⟩ := takes
    cases same
  | request key asked =>
    cases asked with
    | map =>
      rcases takes with ⟨_, same⟩ | revised | same | ⟨_, _, _, same⟩
      · cases same
      · cases revised
        constructor
      · cases same
      · cases same
    | allocate =>
      rcases takes with ⟨_, same⟩ | ⟨_, _, _, same⟩
      · cases same
      · cases same
    | claim | fault | userFault => exact absurd takes accessed
    | remove | recordStackPointer =>
      have same : Transition.setFile id contents = _ := takes
      cases same
    | read =>
      obtain ⟨_, accesses⟩ := takes
      exact absurd accesses accessed
    | write =>
      rcases takes with ⟨_, accesses⟩ | ⟨_, _, _, same⟩
      · exact absurd accesses accessed
      · cases same
    | unmap | tearDown =>
      exact (Transition.Drops.concerns (.inl takes)).keepsFiles.elim

end Operation

/-! ## Pages of files -/

namespace Operation

/-- An operation asks for pages of a file. -/
def AsksFor (id : FileId) : Operation config → Prop
  | .request _ (.allocate (.file source _ _ _) _ _ _) => source = id
  | .request _ (.map _ _ _ file _) => file = id
  | _ => False

/-- An operation copies the pages of a space. -/
def CopiesFrom (parent : SpaceKey) : Operation config → Prop
  | .fork model | .copy _ model => model = parent
  | _ => False

end Operation

/-- A registration whose target is on a file asks for pages of that file. -/
theorem TargetRequest.Grants.asksFor {request : TargetRequest} {target : PageTarget config}
    (grants : request.Grants target) {backing : FileBacking config}
    (uses : target.backing? = some backing) {key : SpaceKey} {address : VirtualAddress}
    {writable : Bool} {body : Option (InitializerBody config)} :
    (Operation.request key (.allocate request address writable body)).AsksFor
      backing.handle.file := by
  cases request with
  | anonymous =>
    subst grants
    cases uses
  | malformed => exact grants.elim
  | file source offset readBytes zeroBytes =>
    obtain ⟨granted, split, rfl⟩ := grants
    cases uses
    unfold FileBacking.ofSplit at split
    split at split
    · cases split
      exact rfl
    · cases split

namespace Transition

/-- A page that is registered while a space is copied copies one of its model. -/
def FollowsModel (parent : SpaceKey) (current : Machine config) : Transition config → Prop
  | .register _ page => ∃ number model,
    current.page? parent number = some model ∧ page = model.forked
  | _ => True

/-- A page on a file that is registered is asked for, or copies one of a space that is copied. -/
def HasOrigin (operation : Operation config) (current : Machine config) :
    Transition config → Prop
  | .register _ page => ∀ backing, page.kind.backing? = some backing →
    operation.AsksFor backing.handle.file ∨ ∃ parent number model,
      operation.CopiesFrom parent ∧ current.page? parent number = some model ∧
        model.kind.backing? = some backing
  | _ => True

variable {transition : Transition config} {operation : Operation config} {current : Machine config}
  {key parent : SpaceKey}

/-- Making room registers no page. -/
theorem IsQuiet.hasOrigin (isQuiet : transition.IsQuiet) :
    transition.HasOrigin operation current := by
  cases transition <;> first | exact trivial | exact isQuiet.elim

/-- Preparing a copy registers no page. -/
theorem Prepares.followsModel (prepares : transition.Prepares) :
    transition.FollowsModel parent current := by
  cases transition <;> first | exact trivial | exact prepares.elim

/-- The page of the stack that an access may register is on no file. -/
theorem Accesses.hasOrigin {number : PageNumber} (accesses : transition.Accesses key number) :
    transition.HasOrigin operation current := by
  rcases accesses with (isQuiet | ⟨_, rfl⟩) | rfl | rfl
  · exact isQuiet.hasOrigin
  · exact trivial
  · exact nofun
  · exact trivial

/-- Dropping a space registers no page. -/
theorem Drops.hasOrigin (drops : transition.Drops key) :
    transition.HasOrigin operation current := by
  rcases drops with (discards | rfl) | rfl
  · cases transition <;> first | exact trivial | exact discards.elim
  · exact trivial
  · exact trivial

/-- A page that a fork or a copy registers has its model for its origin. -/
theorem FollowsModel.hasOrigin (follows : transition.FollowsModel parent current)
    (copies : operation.CopiesFrom parent) : transition.HasOrigin operation current := by
  cases transition with
  | register child page =>
    obtain ⟨number, model, found, rfl⟩ := follows
    intro backing uses
    rw [Page.backing?_forked] at uses
    exact .inr ⟨parent, number, model, copies, found, uses⟩
  | _ => exact trivial

end Transition

/-- A request registers pages on a file only if it asks for them. -/
theorem SpaceRequest.Takes.hasOrigin {key : SpaceKey} {asked : SpaceRequest config}
    {current : Machine config} {transition : Transition config}
    (takes : asked.Takes key current transition) :
    transition.HasOrigin (.request key asked) current := by
  cases asked with
  | allocate =>
    rcases takes with ⟨_, rfl⟩ | ⟨_, _, grants, rfl⟩
    · exact trivial
    · exact fun backing uses => .inl (grants.asksFor uses)
  | claim | fault | userFault => exact Transition.Accesses.hasOrigin takes
  | remove | recordStackPointer => exact takes ▸ trivial
  | read =>
    obtain ⟨_, accesses⟩ := takes
    exact accesses.hasOrigin
  | write =>
    rcases takes with ⟨_, accesses⟩ | ⟨_, _, _, rfl⟩
    · exact accesses.hasOrigin
    · exact trivial
  | map =>
    rcases takes with ⟨_, rfl⟩ | rfl | rfl | ⟨plan, rfl, index, rfl⟩
    · exact trivial
    · exact trivial
    · exact trivial
    · intro backing uses
      cases uses
      exact .inl rfl
  | unmap | tearDown => exact Transition.Drops.hasOrigin (.inl takes)

namespace Machine

variable {child parent : SpaceKey} {number : PageNumber} {machine later : Machine config}

/-- Copying a page registers no page but a copy of its model. -/
theorem CopiesPage.followsModel (copies : CopiesPage child parent number machine later) :
    Path (fun current transition => transition.Clones child parent ∧
      transition.FollowsModel parent current) machine later := by
  cases copies with
  | vacant _ same => exact same ▸ .refl
  | registered found _ leads =>
    exact .single leads ⟨.inr (.inr (.inl ⟨_, rfl⟩)), _, _, found, rfl⟩
  | copied found registers prepares leads =>
    have registered : Path (fun current transition => transition.Clones child parent ∧
        transition.FollowsModel parent current) machine _ :=
      .single registers ⟨.inr (.inr (.inl ⟨_, rfl⟩)), _, _, found, rfl⟩
    have prepared := registered.trans
      (prepares.mono fun _ _ prepares => ⟨.inl prepares, prepares.followsModel⟩)
    exact .step prepared leads ⟨.inr (.inr (.inr ⟨_, _, rfl⟩)), trivial⟩

/-- A copy of a page that goes wrong registers no page but a copy of its model. -/
theorem SpoilsPage.followsModel (spoils : SpoilsPage child parent number machine later) :
    Path (fun current transition => transition.Clones child parent ∧
      transition.FollowsModel parent current) machine later := by
  cases spoils with
  | known same => exact same ▸ .refl
  | spoiled found registers passes =>
    refine .trans (.single registers ⟨.inr (.inr (.inl ⟨_, rfl⟩)), _, _, found, rfl⟩) ?_
    exact passes.path.mono fun _ _ isQuiet => ⟨.inl isQuiet.prepares, isQuiet.prepares.followsModel⟩

/-- Copying pages registers copies of their models only, by induction on the list. -/
theorem CopiesPages.followsModel {numbers : List PageNumber} {result : Except VmError Unit}
    (copies : CopiesPages child parent numbers machine result later) :
    Path (fun current transition => transition.Clones child parent ∧
      transition.FollowsModel parent current) machine later := by
  induction copies with
  | done => exact .refl
  | page first _ _ inductionHypothesis => exact first.followsModel.trans inductionHypothesis
  | spoiled spoils => exact spoils.followsModel

/-- Copying a space registers copies of its pages only. -/
theorem CopiesSpace.followsModel {result : Except VmError Unit}
    (copies : CopiesSpace child parent machine result later) :
    Path (fun current transition => transition.Clones child parent ∧
      transition.FollowsModel parent current) machine later := by
  cases copies with
  | refused => exact .refl
  | done _ starts copies ends =>
    exact .step (.trans (.single starts ⟨.inr (.inl rfl), trivial⟩) copies.followsModel) ends
      ⟨.inr (.inl rfl), trivial⟩
  | spoiled _ starts copies =>
    exact .trans (.single starts ⟨.inr (.inl rfl), trivial⟩) copies.followsModel

end Machine

/-- Every operation is a path of the transitions that it may take, and the pages on files that it
registers have an origin. -/
theorem Operation.Performs.origins {operation : Operation config} {machine later : Machine config}
    {result : Except VmError Answer} (performs : operation.Performs machine result later)
    (atRest : machine.AtRest) :
    Path (fun current transition => operation.Takes machine current transition ∧
      transition.HasOrigin operation current) machine later := by
  cases performs with
  | refused | idle | noFrame => exact .refl
  | created => exact .single .create ⟨rfl, trivial⟩
  | dropped passes => exact passes.path.mono fun _ _ drops => ⟨drops, drops.hasOrigin⟩
  | forked forks =>
    cases forks with
    | done creates copies =>
      subst creates
      exact Path.trans (.single .create ⟨.inl rfl, trivial⟩)
        (copies.followsModel.mono fun _ _ ⟨clones, follows⟩ =>
          ⟨.inr (.inl clones), follows.hasOrigin rfl⟩)
  | unforked forks =>
    cases forks with
    | undone creates copies _ drops =>
      subst creates
      exact (Path.trans (.single .create ⟨.inl rfl, trivial⟩)
        (copies.followsModel.mono fun _ _ ⟨clones, follows⟩ =>
          ⟨.inr (.inl clones), follows.hasOrigin rfl⟩)).trans
            (drops.path.mono fun _ _ drops => ⟨.inr (.inr drops), drops.hasOrigin⟩)
  | copied copies =>
    exact copies.followsModel.mono fun _ _ ⟨clones, follows⟩ => ⟨clones, follows.hasOrigin rfl⟩
  | requested spaceExists performs =>
    exact (performs.path atRest spaceExists).mono fun _ _ takes => ⟨takes, takes.hasOrigin⟩
  | tookFrame leads => exact .single leads ⟨⟨_, rfl⟩, trivial⟩
  | returnedFrame leads => exact .single leads ⟨⟨_, rfl⟩, trivial⟩
  | createdFile leads => exact .single leads ⟨⟨_, rfl⟩, trivial⟩
  | closedFile | wroteFile | setFileFaults => exact .single .setFile ⟨rfl, trivial⟩
  | setSwapFaults leads => exact .single leads ⟨rfl, trivial⟩

end DemandPaging

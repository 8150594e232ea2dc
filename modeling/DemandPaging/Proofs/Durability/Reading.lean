import DemandPaging.Proofs.Flat.Copy
import DemandPaging.Proofs.Materialisation
import DemandPaging.Proofs.Window.Conduct

/-!
# Where a run finds what it reads

A copy from user memory takes each of its bytes from the frame of a page, at some time on its way, and a
copy of a space fills no page but those that it has registered itself. An episode of which this is known
is faithful, and every run has a chronicle of faithful episodes.
-/

namespace DemandPaging

variable {config : Config}

open Machine

/-! ## Bytes that are found on a way -/

/-- At some time on a way a byte is in the frame of the page of an address. -/
inductive Trail.Fetches (start : Machine config) (moves : List (Move config)) (key : SpaceKey)
    (place : Nat) (byte : UInt8) : Prop where
  | intro {earlier later : List (Move config)} {middle last : Machine config} {number : PageNumber}
      {frame : FrameNumber} (parts : moves = earlier ++ later) (trail : Trail start earlier middle)
      (onward : Trail middle later last) (here : place / config.pageSize = number.word.toNat)
      (resident : middle.frame? key number = some frame)
      (holds : (middle.frameBytes frame).byteAt place = byte)

/-- What is found on the last part of a way is found on the way. -/
theorem Trail.Fetches.after {start middle : Machine config} {before moves : List (Move config)}
    {key : SpaceKey} {place : Nat} {byte : UInt8} (first : Trail start before middle)
    (fetches : Trail.Fetches middle moves key place byte) :
    Trail.Fetches start (before ++ moves) key place byte := by
  obtain ⟨rfl, trail, onward, here, resident, holds⟩ := fetches
  exact ⟨(List.append_assoc ..).symm, first.trans trail, onward, here, resident, holds⟩

/-- What a copy from user memory returns up to where it stops was found on the way. -/
def Trail.Fills (start : Machine config) (moves : List (Move config)) (key : SpaceKey)
    (address : VirtualAddress) (size : Nat) (filled : Bytes) (result : Except VmError Unit) : Prop :=
  ∃ reached ≤ size, StopsAt config address size reached result ∧
    ∀ place < reached, ∃ byte, filled[place]? = some byte ∧
      Trail.Fetches start moves key (address.word.toNat + place) byte

namespace Machine

open Chunk

variable {key : SpaceKey} {base : VirtualAddress} {machine later : Machine config}

/-- A copy from user memory that has come to a chunk returns what it has filled before, followed by
what it finds on its way up to where it stops. -/
theorem ReadsChunks.fetches_from {size index count : Nat} {buffer : Bytes}
    {result : Bytes × Except VmError Unit}
    (reads : ReadsChunks key base (ofCopyFrom config base.word.toNat size index count) buffer machine
      result later)
    (whole : index + count = pageCount config base.word.toNat size)
    (starts : Starts config base size index) (sized : buffer.size = size)
    (atRest : machine.AtRest) :
    ∃ moves, Trail machine moves later ∧ (∀ move ∈ moves, move.transition.Consults key) ∧
      ∃ reached ≤ size, StopsAt config base size reached result.2 ∧
        (∀ place < entry config base.word.toNat size index, result.1[place]? = buffer[place]?) ∧
        ∀ place, entry config base.word.toNat size index ≤ place → place < reached →
          ∃ byte, result.1[place]? = some byte ∧
            Trail.Fetches machine moves key (base.word.toNat + place) byte := by
  induction count generalizing index buffer machine with
  | zero =>
    rw [Nat.add_zero] at whole
    subst whole
    cases reads
    rw [entry_last]
    refine ⟨[], .refl, fun _ listed => absurd listed List.not_mem_nil, size, Nat.le_refl _, rfl,
      fun _ _ => rfl, fun place after before => ?_⟩
    omega
  | succ count inductionHypothesis =>
    have inside : index < pageCount config base.word.toNat size := by omega
    rw [ofCopyFrom_succ] at reads
    cases reads with
    | denied denied =>
      obtain ⟨moves, trail, accesses⟩ := (denied.passes atRest).path.trail
      refine ⟨moves, trail, fun move listed => ⟨_, accesses move listed⟩, _,
        Nat.le_of_lt (entry_eq inside).2, .denied inside, fun _ _ => rfl, fun place after before => ?_⟩
      omega
    | @chunk _ _ _ _ middle _ _ address page frame within nameable accessed found resident reads =>
      have passes := accessed.passes atRest
      obtain ⟨grows, _⟩ := entry_bounds inside
      obtain ⟨first, toMiddle, accesses⟩ := passes.path.trail
      obtain ⟨rest, toLater, consults, reached, upTo, stops, kept, found'⟩ :=
        inductionHypothesis reads (by omega) (starts.next inside within nameable)
          (by rw [Bytes.size_overwrite, sized]) passes.atRest
      refine ⟨first ++ rest, toMiddle.trans toLater, ?_, reached, upTo, stops, ?_, ?_⟩
      · exact List.forall_mem_append.mpr ⟨fun move listed => ⟨_, accesses move listed⟩, consults⟩
      · intro place early
        rw [kept place (by omega)]
        exact starts.getElem?_unfilled inside within _ (.inl early)
      · intro place after before
        by_cases ofThis : place < entry config base.word.toNat size (index + 1)
        · refine ⟨(middle.frameBytes frame).byteAt (base.word.toNat + place), ?_, ?_⟩
          · rw [kept place ofThis]
            exact starts.getElem?_filled inside within _ sized after ofThis
          · have here := (div_of_mem inside after ofThis).trans (starts.toNat_page inside within).symm
            exact ⟨rfl, toMiddle, toLater, here, (frame?_of_found found).trans resident, rfl⟩
        · obtain ⟨byte, filled, fetches⟩ := found' place (by omega) before
          exact ⟨byte, filled, fetches.after toMiddle⟩

/-- Every byte that a copy returns was in a frame at some time while it was made. -/
theorem ReadsChunks.fetches {buffer : Bytes} {result : Bytes × Except VmError Unit}
    (reads : ReadsChunks key base
      (Chunk.ofCopy config (base.pageOffset config).toNat buffer.size) buffer machine result later)
    (atRest : machine.AtRest) :
    ∃ moves, Trail machine moves later ∧ (∀ move ∈ moves, move.transition.Consults key) ∧
      Trail.Fills machine moves key base buffer.size result.1 result.2 := by
  rw [VirtualAddress.toNat_pageOffset, ofCopy_eq] at reads
  obtain ⟨moves, trail, consults, reached, upTo, stops, _, found⟩ :=
    reads.fetches_from (Nat.zero_add _) (.zero base _) rfl atRest
  rw [entry_zero] at found
  exact ⟨moves, trail, consults, reached, upTo, stops, fun place => found place (Nat.zero_le _)⟩

end Machine

/-! ## Copies of pages -/

/-- A page that is copied onto was not there when the operation began. -/
def Transition.CopiesAfresh (start : Machine config) : Transition config → Prop
  | .copy child _ number _ => start.page? child number = none
  | _ => True

namespace Transition

variable {transition : Transition config} {start current : Machine config}
  {operation : Operation config}

/-- Preparing a copy copies onto no page. -/
theorem Prepares.copiesAfresh (prepares : transition.Prepares) : transition.CopiesAfresh start := by
  cases transition <;> first | exact trivial | exact prepares.elim

/-- Dropping a space copies onto no page. -/
theorem Drops.copiesAfresh {key : SpaceKey} (drops : transition.Drops key) :
    transition.CopiesAfresh start := by
  have spares := drops.sparesContents
  cases transition <;> first | exact trivial | exact spares.elim

/-- Pages are copied by forks and copies only. -/
theorem IsDueTo.copiesAfresh (due : transition.IsDueTo operation current)
    (forksNone : ∀ parent, operation ≠ .fork parent)
    (copiesNone : ∀ child parent, operation ≠ .copy child parent) :
    transition.CopiesAfresh start := by
  cases transition with
  | copy =>
    rcases due with forks | copies
    · exact absurd forks (forksNone _)
    · exact absurd copies (copiesNone _ _)
  | _ => exact trivial

end Transition

/-- A transition of the kind that copying one space to another takes, which copies onto no page but those
that were registered meanwhile. -/
def Transition.ClonesAfresh (start : Machine config) (child parent : SpaceKey)
    (transition : Transition config) : Prop :=
  transition.Clones child parent ∧ transition.CopiesAfresh start

/-- Cloning takes no page away. -/
theorem Path.vacant_of_clones
    {permits : Machine config → Transition config → Prop} {machine later : Machine config}
    {child parent : SpaceKey} (path : Path permits machine later) (consistent : machine.Consistent)
    (clones : ∀ current transition, permits current transition → transition.Clones child parent)
    {key : SpaceKey} (vacant : later.page? key number = none) : machine.page? key number = none := by
  cases found : machine.page? key number with
  | none => rfl
  | some page =>
    obtain ⟨_, there, _⟩ := path.retains consistent
      (fun current transition permitted => (clones current transition permitted).keepsPage) page found
    cases vacant.symm.trans there

namespace Machine

variable {start machine later : Machine config} {child parent : SpaceKey} {number : PageNumber}

/-- Copying a page fills the page that it registers. -/
theorem CopiesPage.copiesAfresh (copies : CopiesPage child parent number machine later)
    (consistent : machine.Consistent)
    (vacant : ∀ number, machine.page? child number = none → start.page? child number = none) :
    Path (fun _ => Transition.ClonesAfresh start child parent) machine later := by
  cases copies with
  | vacant _ same => exact same ▸ .refl
  | registered _ _ leads => exact .single leads ⟨.inr (.inr (.inl ⟨_, rfl⟩)), trivial⟩
  | @copied page grown ready frame found registers prepares leads =>
    have fresh : start.page? child number = none := by
      rw [← consistent.fits.number_eq found]
      cases registers with
      | register notThere => exact vacant _ notThere
    have registered : Path (fun _ => Transition.ClonesAfresh start child parent) machine grown :=
      .single registers ⟨.inr (.inr (.inl ⟨_, rfl⟩)), trivial⟩
    have prepared := registered.trans
      (prepares.mono fun _ _ prepares => ⟨.inl prepares, prepares.copiesAfresh⟩)
    exact .step prepared leads ⟨.inr (.inr (.inr ⟨_, _, rfl⟩)), fresh⟩

/-- A copy that goes wrong copies onto no page. -/
theorem SpoilsPage.copiesAfresh (spoils : SpoilsPage child parent number machine later) :
    Path (fun _ => Transition.ClonesAfresh start child parent) machine later := by
  cases spoils with
  | known same => exact same ▸ .refl
  | spoiled _ registers passes =>
    refine .trans (.single registers ⟨.inr (.inr (.inl ⟨_, rfl⟩)), trivial⟩) ?_
    exact passes.path.mono fun _ _ isQuiet => ⟨.inl isQuiet.prepares, isQuiet.prepares.copiesAfresh⟩

/-- Copies go to pages that were registered meanwhile, by induction on the list. -/
theorem CopiesPages.copiesAfresh {numbers : List PageNumber} {result : Except VmError Unit}
    (copies : CopiesPages child parent numbers machine result later) (consistent : machine.Consistent)
    (vacant : ∀ number, machine.page? child number = none → start.page? child number = none) :
    Path (fun _ => Transition.ClonesAfresh start child parent) machine later := by
  induction copies with
  | done => exact .refl
  | page first middleRest _ inductionHypothesis =>
    have path := first.copiesAfresh consistent vacant
    refine path.trans (inductionHypothesis middleRest.consistent fun number notThere => ?_)
    exact vacant number (path.vacant_of_clones consistent (fun _ _ => And.left) notThere)
  | spoiled spoils => exact spoils.copiesAfresh

/-- Copying a space copies onto no page that was there when it began. -/
theorem CopiesSpace.copiesAfresh {result : Except VmError Unit}
    (copies : CopiesSpace child parent machine result later) (consistent : machine.Consistent)
    (vacant : ∀ number, machine.page? child number = none → start.page? child number = none) :
    Path (fun _ => Transition.ClonesAfresh start child parent) machine later := by
  have begun : ∀ {started : Machine config}, (Transition.set child).Leads machine started →
      Path (fun _ => Transition.ClonesAfresh start child parent) machine started ∧
      started.Consistent ∧
      ∀ number, started.page? child number = none → start.page? child number = none := by
    intro started starts
    have path : Path (fun _ => Transition.ClonesAfresh start child parent) machine started :=
      .single starts ⟨.inr (.inl rfl), trivial⟩
    refine ⟨path, starts.consistent consistent, fun number notThere => vacant number ?_⟩
    exact path.vacant_of_clones consistent (fun _ _ => And.left) notThere
  cases copies with
  | refused => exact .refl
  | done _ starts copies ends =>
    obtain ⟨path, started, stillVacant⟩ := begun starts
    exact .step (path.trans (copies.copiesAfresh started stillVacant)) ends ⟨.inr (.inl rfl), trivial⟩
  | spoiled _ starts copies =>
    obtain ⟨path, started, stillVacant⟩ := begun starts
    exact path.trans (copies.copiesAfresh started stillVacant)

end Machine

/-- Every operation is a path of the transitions that it may take, and copies onto no page that was there
when it began. -/
theorem Operation.Performs.copiesAfresh {operation : Operation config} {machine later : Machine config}
    {result : Except VmError Answer} (performs : operation.Performs machine result later)
    (atRest : machine.AtRest) :
    Path (fun current transition => operation.Takes machine current transition ∧
      transition.CopiesAfresh machine) machine later := by
  have others : (∀ parent, operation ≠ .fork parent) → (∀ child parent, operation ≠ .copy child parent) →
      Path (fun current transition => operation.Takes machine current transition ∧
        transition.CopiesAfresh machine) machine later :=
    fun forksNone copiesNone => (performs.path atRest).mono fun _ _ takes =>
      ⟨takes, takes.isDueTo.copiesAfresh forksNone copiesNone⟩
  cases operation with
  | fork parent =>
    -- the new space has no page when the fork begins
    have creates : ∀ root, (Transition.create (machine.nextKey parent.subsystem)).Leads machine
        (machine.addSpace parent.subsystem root) := fun _ => .create
    have vacant := atRest.consistent.known.unissued.vacant parent.subsystem
    have clones : ∀ {result : Except VmError Unit} {root : PhysicalAddress} {cloned : Machine config},
        CopiesSpace (machine.nextKey parent.subsystem) parent
          (machine.addSpace parent.subsystem root) result cloned →
        Path (fun current transition => (Operation.fork parent).Takes machine current transition ∧
          transition.CopiesAfresh machine) machine cloned := by
      intro result root cloned copies
      have created := (creates root).consistent atRest.consistent
      have path : Path (fun _ => Transition.ClonesAfresh machine (machine.nextKey parent.subsystem)
          parent) (machine.addSpace parent.subsystem root) cloned :=
        copies.copiesAfresh created fun number _ => vacant number
      refine .trans (.single (creates root) ⟨.inl rfl, trivial⟩) (path.mono ?_)
      exact fun _ _ ⟨clones, afresh⟩ => ⟨.inr (.inl clones), afresh⟩
    cases performs with
    | refused | noFrame => exact .refl
    | forked forks =>
      cases forks with
      | done creates copies => exact clones (creates ▸ copies)
    | unforked forks =>
      cases forks with
      | undone creates copies _ drops =>
        refine (clones (creates ▸ copies)).trans (drops.path.mono fun _ _ drops => ?_)
        exact ⟨.inr (.inr drops), drops.copiesAfresh⟩
  | copy child parent =>
    cases performs with
    | refused | noFrame => exact .refl
    | copied copies => exact copies.copiesAfresh atRest.consistent fun _ => id
  | _ => exact others nofun nofun

/-! ## Faithful episodes -/

/-- What is known of the way of an operation: it copies onto no page that was there when it began, and
what it has read was found on the way. -/
structure Episode.IsFaithful (episode : Episode config) : Prop where
  copies : ∀ move ∈ episode.moves, move.transition.CopiesAfresh episode.start
  reads : ∀ {key : SpaceKey} {address : VirtualAddress} {buffer filled : Bytes}
    {result : Except VmError Unit}, episode.operation = .request key (.read address buffer) →
    episode.result = .ok (.filled filled result) →
      Trail.Fills episode.start episode.moves key address buffer.size filled result

/-- For every operation there is a way that copies onto fresh pages only and explains what was read.
-/
theorem Operation.Performs.isFaithful {operation : Operation config} {machine later : Machine config}
    {result : Except VmError Answer} (performs : operation.Performs machine result later)
    (atRest : machine.AtRest) :
    ∃ moves, Trail machine moves later ∧
      (∀ move ∈ moves, operation.Takes machine move.before move.transition) ∧
      Episode.IsFaithful ⟨operation, result, machine, moves⟩ := by
  by_cases isRead : ∃ key address buffer filled ended,
      operation = .request key (.read address buffer) ∧ result = .ok (.filled filled ended)
  · obtain ⟨key, address, buffer, filled, ended, rfl, rfl⟩ := isRead
    cases performs with
    | requested _ performs =>
      cases performs with
      | read reads =>
        obtain ⟨moves, trail, consults, fills⟩ := reads.fetches atRest
        have takes : ∀ move ∈ moves, Operation.Takes machine move.before move.transition
            (.request key (.read address buffer)) := consults
        refine ⟨moves, trail, takes, fun move listed => ?_, ?_⟩
        · exact (takes move listed).isDueTo.copiesAfresh nofun nofun
        · rintro _ _ _ _ _ ⟨⟩ ⟨⟩
          exact fills
  · obtain ⟨moves, trail, permitted⟩ := (performs.copiesAfresh atRest).trail
    refine ⟨moves, trail, fun move listed => (permitted move listed).1, fun move listed =>
      (permitted move listed).2, fun {key address buffer filled ended} reads answers => ?_⟩
    exact absurd ⟨key, address, buffer, filled, ended, reads, answers⟩ isRead

/-- Every run has a chronicle of faithful episodes. -/
theorem Run.faithful_chronicle {start machine : Machine config} {log : OperationLog config}
    (run : Run start log machine) (atRest : start.AtRest) :
    ∃ episodes, Chronicle start episodes machine ∧ episodes.map Episode.entry = log ∧
      ∀ episode ∈ episodes, episode.IsFaithful := by
  induction run with
  | nil => exact ⟨[], .nil, rfl, fun _ listed => absurd listed List.not_mem_nil⟩
  | step prior permitted yields inductionHypothesis =>
    obtain ⟨episodes, chronicle, entries, faithful⟩ := inductionHypothesis
    have before := prior.atRest_of_start atRest
    obtain ⟨moves, trail, takes, isFaithful⟩ := (yields.performs before permitted).isFaithful before
    refine ⟨_, .step chronicle permitted yields trail takes, ?_, ?_⟩
    · rw [List.map_append, entries]
      rfl
    · exact List.forall_mem_append.mpr ⟨faithful, List.forall_mem_singleton.mpr isFaithful⟩

/-! ## The episodes of a chronicle -/

/-- A transition of a sequence of episodes is one of an episode of it. -/
theorem Episode.exists_of_allMoves {episodes : List (Episode config)}
    {earlier later : List (Move config)} {move : Move config}
    (parts : Episode.allMoves episodes = earlier ++ move :: later) :
    ∃ before episode after first rest, episodes = before ++ episode :: after ∧
      episode.moves = first ++ move :: rest ∧ earlier = Episode.allMoves before ++ first := by
  induction episodes generalizing earlier with
  | nil => cases earlier <;> cases parts
  | cons head tail inductionHypothesis =>
    have ofTail : ∀ {between : List (Move config)},
        Episode.allMoves tail = between ++ move :: later → earlier = head.moves ++ between →
        ∃ before episode after first rest, head :: tail = before ++ episode :: after ∧
          episode.moves = first ++ move :: rest ∧ earlier = Episode.allMoves before ++ first := by
      rintro between inTail rfl
      obtain ⟨before, episode, after, first, rest, rfl, inEpisode, rfl⟩ := inductionHypothesis inTail
      exact ⟨head :: before, episode, after, first, rest, rfl, inEpisode, by simp [Episode.allMoves]⟩
    rw [show Episode.allMoves (head :: tail) = head.moves ++ Episode.allMoves tail from rfl] at parts
    rcases List.append_eq_append_iff.mp parts with ⟨between, same, inTail⟩ | ⟨between, inHead, same⟩
    · exact ofTail inTail same
    · cases between with
      | nil =>
        have inTail : Episode.allMoves tail = [] ++ move :: later := same.symm
        exact ofTail inTail (by simpa using inHead.symm)
      | cons first rest =>
        cases same
        exact ⟨[], head, tail, earlier, rest, rfl, inHead, rfl⟩

namespace Transition

variable {operation : Operation config} {start current current' : Machine config}
  {key child parent : SpaceKey} {number number' : PageNumber} {frame frame' : FrameNumber}

/-- An operation that copies pages loads none. -/
theorem not_takes_load_of_copies (copies : operation.Takes start current (.copy child parent number frame))
    (loads : operation.Takes start current' (.load key number' frame')) : False := by
  rcases Operation.Takes.isDueTo copies with rfl | rfl
  · rcases loads with same | (prepares | same | ⟨_, same⟩ | ⟨_, _, same⟩) | ((discards | same) | same)
    · cases same
    · exact prepares
    · cases same
    · cases same
    · cases same
    · exact discards
    · cases same
    · cases same
  · rcases loads with prepares | same | ⟨_, same⟩ | ⟨_, _, same⟩
    · exact prepares
    · cases same
    · cases same
    · cases same

end Transition

/-- No page is copied onto after it was loaded. -/
theorem Chronicle.uncopied {start machine : Machine config} {episodes : List (Episode config)}
    (chronicle : Chronicle start episodes machine) (consistent : start.Consistent)
    (faithful : ∀ episode ∈ episodes, episode.IsFaithful) {earlier since later : List (Move config)}
    {load : Move config} (parts : Episode.allMoves episodes = earlier ++ load :: (since ++ later))
    {key : SpaceKey} {number : PageNumber} {frame : FrameNumber}
    (loads : load.transition = .load key number frame)
    (stays : ∀ move ∈ since, ¬ move.transition.Withdraws key number) :
    ∀ move ∈ since, ∀ parent frame, move.transition ≠ .copy key parent number frame := by
  intro move listed parent frame' copies
  obtain ⟨between, rest, rfl⟩ := List.append_of_mem listed
  have toCopy : Episode.allMoves episodes = (earlier ++ load :: between) ++ move :: (rest ++ later) := by
    simpa using parts
  obtain ⟨before, episode, after, first, last, rfl, inEpisode, same⟩ :=
    Episode.exists_of_allMoves toCopy
  obtain ⟨prior, _, leads, _⟩ := chronicle.split
  have copied : move ∈ episode.moves := inEpisode ▸ List.mem_append_right _ List.mem_cons_self
  have takes := leads.takes move copied
  rw [copies] at takes
  have fresh := (faithful episode (List.mem_append_right _ List.mem_cons_self)).copies move copied
  rw [copies] at fresh
  have not_loaded_within : load ∉ first := by
    intro within
    have loaded := leads.takes load (inEpisode ▸ List.mem_append_left _ within)
    rw [loads] at loaded
    exact Transition.not_takes_load_of_copies takes loaded
  rcases List.append_eq_append_iff.mp same with ⟨part, whole, loadLast⟩ | ⟨part, _, rfl⟩
  · cases part with
    | nil =>
      rw [List.nil_append] at loadLast
      exact not_loaded_within (loadLast ▸ List.mem_cons_self)
    | cons head part =>
      -- the page was loaded before the operation began, so it was there
      obtain ⟨rfl, rfl⟩ := List.cons.inj loadLast
      have trail := prior.trail
      rw [whole] at trail
      obtain ⟨toLoad, next, leadsOn, onward⟩ := trail.split
      rw [loads] at leadsOn
      have there : (next.page? key number).isSome := by
        cases leadsOn with
        | load found =>
          rw [page?_settleLoaded (isSome_of_page? found), amend_self]
          rfl
      obtain ⟨page, found⟩ := Option.isSome_iff_exists.mp there
      have nextConsistent := leadsOn.consistent (toLoad.consistent consistent).1
      obtain ⟨_, known, _⟩ := onward.continues nextConsistent found fun other listed =>
        stays other (by simp [listed])
      cases fresh.symm.trans known
  · exact not_loaded_within (List.mem_append_right _ List.mem_cons_self)

end DemandPaging

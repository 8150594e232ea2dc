import DemandPaging.Proofs.Keeping
import DemandPaging.Proofs.Trail

/-!
# What the history tells of a way

Apart from what the transfer of contents reports, each transition adds the same events to the history
wherever it happens. So the history names the transitions of a way that request frames, evict pages
and make pages resident, in the order in which they happened.
-/

namespace DemandPaging

variable {config : Config}

/-- Whether an event is reported by the transfer of the content of a page. -/
def Event.isTransfer : Event → Bool
  | .shortRead .. | .shortWrite .. | .initializing .. | .readingFile .. | .writingBack .. => true
  | _ => false

/-- A mere report is no transfer of a content. -/
theorem Event.isTransfer_of_isNote {event : Event} (isNote : event.isNote = true) :
    event.isTransfer = false := by
  cases event <;> first | rfl | cases isNote

namespace Environment

/-- What happened so far, apart from the transfer of contents. -/
def proceedings (environment : Environment config) : List Event :=
  environment.history.toList.filter (!·.isTransfer)

variable {environment : Environment config} {event : Event}

/-- Other events than transfers enter into the proceedings. -/
theorem proceedings_record (other : event.isTransfer = false) :
    (environment.record event).proceedings = environment.proceedings ++ [event] := by
  simp [proceedings, record, other]

/-- Transfers of contents do not enter into the proceedings. -/
theorem proceedings_record_transfer (isTransfer : event.isTransfer = true) :
    (environment.record event).proceedings = environment.proceedings := by
  simp [proceedings, record, isTransfer]

theorem ignoresSaving_proceedings : IgnoresSaving (@proceedings config) where
  swap _ _ := rfl
  files _ _ := rfl
  writing _ _ _ _ := proceedings_record_transfer rfl
  shortWrite _ _ _ _ := proceedings_record_transfer rfl

theorem ignoresLoading_proceedings : IgnoresLoading (@proceedings config) where
  swap _ _ := rfl
  files _ _ := rfl
  runs _ _ := rfl
  initializing _ _ _ := proceedings_record_transfer rfl
  reading _ _ _ _ := proceedings_record_transfer rfl
  shortRead _ _ _ _ := proceedings_record_transfer rfl

end Environment

namespace Transition

/-- The events that a transition adds to the history, apart from the transfer of contents. -/
def events : Transition config → List Event
  | .note event => [event]
  | .take subsystem _ => [.frameRequested subsystem false]
  | .evict key number _ => [.frameRequested key.subsystem true, .evicting key number]
  | .load key number frame => [.loading key number, .becameResident key number frame]
  | .spoil key number _ error => [.loading key number, .loadFailed number error]
  | .copy child _ number frame => [.becameResident child number frame]
  | _ => []

open Machine

/-- A transition adds its events to the history. -/
theorem Leads.proceedings_eq {transition : Transition config} {machine next : Machine config}
    (leads : transition.Leads machine next) :
    next.environment.proceedings = machine.environment.proceedings ++ transition.events := by
  have kept : next.environment.proceedings = machine.environment.proceedings →
      next.environment.proceedings = machine.environment.proceedings ++ [] :=
    fun same => same.trans (List.append_nil _).symm
  have begins : ∀ key number frame,
      ((machine.record (.loading key number)).window frame).environment.proceedings =
        machine.environment.proceedings ++ [.loading key number] :=
    fun _ _ _ => Environment.proceedings_record rfl
  cases leads with
  | note isNote => exact Environment.proceedings_record (Event.isTransfer_of_isNote isNote)
  | take =>
    rw [environment_take]
    exact Environment.proceedings_record rfl
  | register | unregister | store | set | forget | setFile | createFile | listInitializer
  | setSwapFaults | lend | reclaim => exact kept rfl
  | release => exact kept (congrArg _ environment_release)
  | pin => exact kept (congrArg _ (environment_updateTable ..))
  | create => exact kept (congrArg _ environment_addSpace)
  | copy =>
    rw [environment_settleCopy]
    exact Environment.proceedings_record rfl
  | evict _ _ _ _ stored =>
    have same := (PageKind.keeps_store Environment.ignoresSaving_proceedings _ _ _ _).of_done stored
    rw [environment_beforeStore, Environment.proceedings_record rfl,
      Environment.proceedings_record rfl, List.append_assoc] at same
    rw [environment_vacate]
    exact same
  | load _ _ _ loaded =>
    have same := (PageKind.keeps_load Environment.ignoresLoading_proceedings _ _).of_done loaded
    rw [environment_settleLoaded, Environment.proceedings_record rfl, same.trans (begins ..),
      List.append_assoc]
    rfl
  | spoil _ _ _ failed =>
    have same := (PageKind.keeps_load Environment.ignoresLoading_proceedings _ _).of_failed failed
    refine (Environment.proceedings_record rfl).trans ?_
    refine (congrArg (· ++ _) (same.trans (begins ..))).trans ?_
    rw [List.append_assoc]
    rfl
  | discard _ _ ended =>
    exact kept ((PageKind.keeps_discard Environment.ignoresSaving_proceedings _ _).of_done ended)
  | discardResident _ _ ended =>
    apply kept
    rw [environment_endResident]
    exact (PageKind.keeps_discard Environment.ignoresSaving_proceedings _ _).attempt.of_done ended

end Transition

/-- The history of a way is made of the events of its transitions. -/
theorem Trail.proceedings_eq {start last : Machine config} {moves : List (Move config)}
    (trail : Trail start moves last) :
    last.environment.proceedings =
      start.environment.proceedings ++ moves.flatMap (·.transition.events) := by
  induction trail with
  | refl => simp
  | step _ leads inductionHypothesis =>
    rw [leads.proceedings_eq, inductionHypothesis, List.flatMap_append, List.append_assoc]
    simp

end DemandPaging

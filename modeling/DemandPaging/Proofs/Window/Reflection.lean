import DemandPaging.Proofs.Content
import DemandPaging.Proofs.Window.Basic
import DemandPaging.Proofs.WriteBack.Contents

/-!
# What a window shows

`FileWindow.Reflects` ties a machine to the bytes that a window shows at the positions of its file: a
resident page of the window holds its part of them, and the file holds all but those that lie on a page
that was written to. No transition changes what is shown but one that stores bytes in a page of the
window, whether the pages are evicted, loaded, discarded or forgotten, as long as no other page, no copy
of the space and no outsider gets at the file.
-/

namespace DemandPaging

variable {config : Config}

open Machine

namespace FileWindow

variable (window : FileWindow config)

/-- A page of the window that is registered, with the part of the file on it. -/
structure Has (machine : Machine config) (number : PageNumber) (page : Page config)
    (backing : FileBacking config) : Prop where
  found : machine.page? window.space number = some page
  holds : window.Holds number backing
  uses : page.kind.backing? = some backing

/-- The frame of a page of the window has the last word on a position of the file, because the page
was written to. -/
def Overlays (machine : Machine config) (number : PageNumber) (position : Nat) : Prop :=
  ∃ page backing, window.Has machine number page backing ∧ page.frame.isSome ∧
    backing.Covers position ∧ (machine.space window.space).isDirty number = true

/-- The machine shows the given bytes at the positions of the file, and the file belongs to the window
alone. -/
structure Reflects (content : Nat → UInt8) (machine : Machine config) : Prop where
  placed : ∀ {key number page backing}, machine.page? key number = some page →
    page.kind.backing? = some backing → backing.handle.file = window.file →
      key = window.space ∧ window.Holds number backing ∧ page.kind.initializer? = none
  known : (machine.environment.files.get? window.file).isSome
  harmless : (machine.environment.file window.file).faults.AreHarmless
  size : (machine.environment.file window.file).data.size = window.plan.fileLength
  resident : ∀ {number page backing frame position}, window.Has machine number page backing →
    page.frame = some frame → backing.Covers position →
      (machine.frameBytes frame).byteAt position = content position
  stored : ∀ position, (∀ number, ¬ window.Overlays machine number position) →
    (machine.environment.file window.file).data.getD position 0 = content position

/-- The transitions that leave a window alone: no page of its file is registered, no page of its space
is copied, nothing is stored in its pages, and its file is not replaced. -/
def Tolerates (machine : Machine config) : Transition config → Prop
  | .register _ page =>
    ∀ backing, page.kind.backing? = some backing → backing.handle.file ≠ window.file
  | .copy _ parent _ _ => parent ≠ window.space
  | .store key number _ _ => ∀ page backing, ¬ (key = window.space ∧
      window.Has machine number page backing)
  | .setFile id contents => id = window.file →
    contents.data = (machine.environment.file id).data ∧ contents.faults.AreHarmless
  | _ => True

end FileWindow

namespace FileWindow

variable {window : FileWindow config} {machine next : Machine config} {content : Nat → UInt8}
  {transition : Transition config} {number : PageNumber} {page : Page config}
  {backing : FileBacking config} {position : Nat}

/-- A page of the window holds one part of the file. -/
theorem Has.unique (has : window.Has machine number page backing) {page' : Page config}
    {backing' : FileBacking config} (has' : window.Has machine number page' backing') :
    page' = page ∧ backing' = backing := by
  have same := has'.found
  rw [has.found] at same
  exact ⟨(Option.some.inj same).symm, has.holds.unique has'.holds⟩

/-- Whether a page of the window is there is read from the page map. -/
theorem Has.congr (same : next.page? window.space number = machine.page? window.space number) :
    window.Has next number page backing ↔ window.Has machine number page backing := by
  constructor
  · exact fun ⟨found, holds, uses⟩ => ⟨same ▸ found, holds, uses⟩
  · exact fun ⟨found, holds, uses⟩ => ⟨same.trans found, holds, uses⟩

/-- Whether a frame has the last word is read from its page and its mapping. -/
theorem Overlays.congr (same : next.page? window.space number = machine.page? window.space number)
    (dirty : (next.space window.space).isDirty number =
      (machine.space window.space).isDirty number) :
    window.Overlays next number position ↔ window.Overlays machine number position := by
  unfold Overlays
  simp only [Has.congr same, dirty]

/-- A page of the window that overlays a position has the part of the file with that position. -/
theorem Overlays.covers (overlays : window.Overlays machine number position)
    (has : window.Has machine number page backing) :
    page.frame.isSome ∧ backing.Covers position ∧
      (machine.space window.space).isDirty number = true := by
  obtain ⟨_, _, has', resident, covers, dirty⟩ := overlays
  obtain ⟨rfl, rfl⟩ := has.unique has'
  exact ⟨resident, covers, dirty⟩

namespace Reflects

/-- No page outside the window is on its file. -/
theorem has (reflects : window.Reflects content machine) {key : SpaceKey}
    (found : machine.page? key number = some page) (uses : page.kind.backing? = some backing)
    (ours : backing.handle.file = window.file) :
    key = window.space ∧ window.Has machine number page backing := by
  obtain ⟨rfl, holds, _⟩ := reflects.placed found uses ours
  exact ⟨rfl, found, holds, uses⟩

/-- The file reaches to the end of every part that the window shows. -/
theorem isCovered (reflects : window.Reflects content machine)
    (has : window.Has machine number page backing) :
    backing.IsCovered (machine.environment.file backing.handle.file).data := by
  apply has.holds.isCovered
  rw [has.holds.handle_eq]
  exact reflects.size

/-- Pages of the file stay where they are and get no initializer. -/
theorem placed_next (reflects : window.Reflects content machine)
    (leads : transition.Leads machine next) (consistent : machine.Consistent)
    (unregistered : ∀ key page backing, transition = .register key page →
      page.kind.backing? = some backing → backing.handle.file ≠ window.file)
    {key : SpaceKey} (found : next.page? key number = some page)
    (uses : page.kind.backing? = some backing) (ours : backing.handle.file = window.file) :
    key = window.space ∧ window.Holds number backing ∧ page.kind.initializer? = none := by
  have alters := leads.alters consistent key number
  rw [found] at alters
  generalize was : machine.page? key number = before at alters
  cases alters with
  | same => exact reflects.placed was uses ours
  | changed same waits =>
    obtain ⟨here, holds, plain⟩ := reflects.placed was (same ▸ uses) ours
    refine ⟨here, holds, ?_⟩
    rcases waits with none | kept
    · exact none
    · exact kept.trans plain
  | registered isRegistered => exact absurd ours (unregistered _ _ _ isRegistered uses)

/-- The pages that a transition does not touch show what they have shown. What remains to be said is
what a touched page shows, and what the file holds. -/
theorem of_touched {content' : Nat → UInt8} (reflects : window.Reflects content machine)
    (unchanged : ∀ {number page backing position}, ¬ transition.Touches window.space number →
      window.Has machine number page backing → backing.Covers position →
        content' position = content position)
    (leads : transition.Leads machine next) (consistent : machine.Consistent)
    (placed : ∀ {key number page backing}, next.page? key number = some page →
      page.kind.backing? = some backing → backing.handle.file = window.file →
        key = window.space ∧ window.Holds number backing ∧ page.kind.initializer? = none)
    (known : (next.environment.files.get? window.file).isSome)
    (harmless : (next.environment.file window.file).faults.AreHarmless)
    (size : (next.environment.file window.file).data.size =
      (machine.environment.file window.file).data.size)
    (resident : ∀ {number page backing frame position}, transition.Touches window.space number →
      window.Has next number page backing → page.frame = some frame → backing.Covers position →
        (next.frameBytes frame).byteAt position = content' position)
    (stored : ∀ position,
      (∀ number, transition.Touches window.space number →
        ¬ window.Overlays next number position) →
      (∀ number, ¬ transition.Touches window.space number →
        ¬ window.Overlays machine number position) →
      (next.environment.file window.file).data.getD position 0 = content' position) :
    window.Reflects content' next := by
  refine ⟨placed, known, harmless, size.trans reflects.size, ?_, ?_⟩
  · intro number page backing frame position has held covers
    by_cases touched : transition.Touches window.space number
    · exact resident touched has held covers
    · obtain ⟨pages, _, bytes⟩ := leads.bystands consistent touched
      have before := (Has.congr pages).mp has
      rw [bytes frame (by rw [frame?_of_found before.found, held]), unchanged touched before covers]
      exact reflects.resident before held covers
  · intro position clear
    apply stored position fun number _ => clear number
    intro number untouched overlays
    obtain ⟨pages, dirty, _⟩ := leads.bystands consistent untouched
    exact clear number ((Overlays.congr pages dirty).mpr overlays)

/-- The file stays in order. -/
theorem keeps_file (reflects : window.Reflects content machine)
    (leads : transition.Leads machine next) (consistent : machine.Consistent)
    (tolerates : window.Tolerates machine transition) :
    (next.environment.files.get? window.file).isSome ∧
      (next.environment.file window.file).faults.AreHarmless := by
  have known := reflects.known
  have harmless := reflects.harmless
  by_cases keeps : transition.KeepsFiles
  · have terms := (leads.serves consistent.fits consistent.slots keeps).sameTerms
    constructor
    · have same := congrArg Option.isSome (terms window.file)
      simp only [Option.isSome_map] at same
      exact same.trans known
    · have same := congrArg File.faults (terms.file window.file)
      have faults : (next.environment.file window.file).faults =
        (machine.environment.file window.file).faults := same
      rw [faults]
      exact harmless
  · cases leads with
    | @setFile _ id contents =>
      constructor
      · exact ((machine.environment.advances_setFile id contents).files window.file).trans known
      · show ((machine.environment.setFile id contents).file window.file).faults.AreHarmless
        rw [Environment.file_setFile]
        split
        · next here => exact (tolerates here.1.symm).2
        · exact harmless
    | @createFile _ data =>
      have other : window.file ≠ ⟨machine.environment.files.size⟩ := by
        intro same
        rw [same, consistent.names.fresh_file] at known
        cases known
      have same : (machine.environment.files.insert ⟨machine.environment.files.size⟩
          ({ data := data } : File)).get? window.file =
            machine.environment.files.get? window.file := by
        rw [OrderedMap.get?_insert_eq, if_neg other]
      constructor
      · exact (congrArg Option.isSome same).trans known
      · have faults := congrArg (fun file : Option File => (file.getD {}).faults) same
        exact (congrArg FileFaults.AreHarmless faults).mpr harmless
    | listInitializer => exact ⟨known, harmless⟩
    | _ => exact (keeps trivial).elim

/-- A transition that touches no page of the window leaves alone what is shown. -/
theorem of_untouched (reflects : window.Reflects content machine)
    (leads : transition.Leads machine next) (consistent : machine.Consistent)
    (tolerates : window.Tolerates machine transition)
    (untouched : ∀ number page backing, transition.Touches window.space number →
      ¬ window.Has machine number page backing) : window.Reflects content next := by
  have unregistered : ∀ key page backing, transition = .register key page →
      page.kind.backing? = some backing → backing.handle.file ≠ window.file := by
    rintro key page backing rfl
    exact tolerates backing
  have data : (next.environment.file window.file).data =
      (machine.environment.file window.file).data := by
    by_cases replaced : ∃ contents, transition = .setFile window.file contents
    · obtain ⟨contents, rfl⟩ := replaced
      cases leads
      show ((machine.environment.setFile window.file contents).file window.file).data = _
      rw [Environment.file_setFile, if_pos ⟨rfl, reflects.known⟩]
      exact (tolerates rfl).1
    · have same : (next.environment.file window.file).uncounted =
          (machine.environment.file window.file).uncounted := by
        apply leads.uncounted_eq consistent reflects.known
        · exact fun contents same => replaced ⟨contents, same⟩
        intro key number page backing touches found uses ours
        obtain ⟨rfl, has⟩ := reflects.has found uses ours
        exact untouched number page backing touches has
      have data := congrArg File.data same
      exact data
  obtain ⟨known, harmless⟩ := reflects.keeps_file leads consistent tolerates
  apply reflects.of_touched (fun _ _ _ => rfl) leads consistent
    (reflects.placed_next leads consistent unregistered) known harmless (congrArg Array.size data)
  · intro number page backing frame position touches has
    have alters := leads.alters consistent window.space number
    have uses := has.uses
    rw [has.found] at alters
    generalize was : machine.page? window.space number = before at alters
    cases alters with
    | same => exact absurd ⟨was, has.holds, uses⟩ (untouched _ _ _ touches)
    | changed same => exact absurd ⟨was, has.holds, same ▸ uses⟩ (untouched _ _ _ touches)
    | registered isRegistered =>
      exact absurd (congrArg FileHandle.file has.holds.handle_eq)
        (unregistered _ _ _ isRegistered uses)
  · intro position _ clear
    rw [data]
    apply reflects.stored
    intro number
    by_cases touches : transition.Touches window.space number
    · rintro ⟨page, backing, has, _⟩
      exact untouched number page backing touches has
    · exact clear number touches

/-- A page of the window that loses its frame goes to the file, if it was written to. -/
theorem of_vacated (reflects : window.Reflects content machine)
    (leads : transition.Leads machine next) (consistent : machine.Consistent)
    (unregistered : ∀ key page, transition ≠ .register key page)
    (has : window.Has machine number page backing)
    (touches : transition.Touches window.space number)
    (gone : next.frame? window.space number = none) {bytes : PageBytes config} {dirty : Bool}
    (saves : backing.Saves bytes dirty machine.environment next.environment)
    (saved : dirty = true → ∃ frame, page.frame = some frame ∧ bytes = machine.frameBytes frame)
    (owed : page.frame.isSome → (machine.space window.space).isDirty number = true → dirty = true) :
    window.Reflects content next := by
  have ours : backing.handle.file = window.file := congrArg FileHandle.file has.holds.handle_eq
  obtain ⟨known, faults, size, shown⟩ := saves
  rw [ours] at known faults size shown
  apply reflects.of_touched (fun _ _ _ => rfl) leads consistent
    (reflects.placed_next leads consistent fun key page _ same => absurd same (unregistered key page))
    (known.trans reflects.known) (faults ▸ reflects.harmless) size
  · intro other page' _ frame _ touches' has' held
    obtain ⟨-, rfl⟩ := touches.unique touches'
    rw [frame?_of_found has'.found, held] at gone
    cases gone
  · intro position _ clear
    rw [shown]
    split
    · next wanted =>
      obtain ⟨frame, held, rfl⟩ := saved wanted.1
      exact reflects.resident has held wanted.2
    · next unwanted =>
      apply reflects.stored
      intro other overlays
      by_cases touches' : transition.Touches window.space other
      · obtain ⟨-, rfl⟩ := touches.unique touches'
        obtain ⟨resident, covers, isDirty⟩ := overlays.covers has
        exact unwanted ⟨owed resident isDirty, covers⟩
      · exact clear other touches' overlays

/-- Nothing is lost with a page that is not resident. -/
theorem of_forgotten (reflects : window.Reflects content machine)
    (leads : transition.Leads machine next) (consistent : machine.Consistent)
    (unregistered : ∀ key page, transition ≠ .register key page)
    (has : window.Has machine number page backing)
    (touches : transition.Touches window.space number) (absent : page.frame = none)
    (gone : next.frame? window.space number = none)
    (files : next.environment.files = machine.environment.files) :
    window.Reflects content next := by
  have saves : backing.Saves PageBytes.zero false machine.environment next.environment :=
    .of_clean rfl files
  apply reflects.of_vacated leads consistent unregistered has touches gone saves nofun
  rw [absent]
  exact nofun

/-- A page of the window that is loaded shows what the file holds, since no other page has the last
word on its part. -/
theorem of_loaded (reflects : window.Reflects content machine)
    (leads : transition.Leads machine next) (consistent : machine.Consistent)
    (tolerates : window.Tolerates machine transition)
    (unregistered : ∀ key page, transition ≠ .register key page)
    (has : window.Has machine number page backing) (absent : page.frame = none)
    (touches : transition.Touches window.space number)
    (data : (next.environment.file window.file).data =
      (machine.environment.file window.file).data)
    (filled : ∀ frame, next.frame? window.space number = some frame → next.frameBytes frame =
      backing.image (machine.environment.file window.file).data) :
    window.Reflects content next := by
  obtain ⟨known, harmless⟩ := reflects.keeps_file leads consistent tolerates
  have ownPage : ¬ ∃ position, window.Overlays machine number position := by
    rintro ⟨position, overlays⟩
    have resident := (overlays.covers has).1
    rw [absent] at resident
    cases resident
  apply reflects.of_touched (fun _ _ _ => rfl) leads consistent (reflects.placed_next leads consistent
    fun key page _ same => absurd same (unregistered key page)) known harmless
    (congrArg Array.size data)
  · intro other page' backing' frame position touches' has' held covers
    obtain ⟨-, rfl⟩ := touches.unique touches'
    obtain rfl := has.holds.unique has'.holds
    rw [filled frame (by rw [frame?_of_found has'.found, held]),
      FileBacking.byteAt_image has.holds.isAligned _ covers]
    apply reflects.stored
    rintro owner ⟨_, part, owns, resident, covers', dirty⟩
    obtain rfl := has.holds.apart covers owns.holds covers'
    exact ownPage ⟨position, _, part, owns, resident, covers', dirty⟩
  · intro position _ clear
    rw [data]
    apply reflects.stored
    intro other overlays
    by_cases touches' : transition.Touches window.space other
    · obtain ⟨-, rfl⟩ := touches.unique touches'
      exact ownPage ⟨position, overlays⟩
    · exact clear other touches' overlays

/-- What a window shows is not changed by a transition that leaves the window alone. -/
theorem of_leads (reflects : window.Reflects content machine)
    (leads : transition.Leads machine next) (consistent : machine.Consistent)
    (tolerates : window.Tolerates machine transition) : window.Reflects content next := by
  by_cases touched : ∃ number page backing, transition.Touches window.space number ∧
      window.Has machine number page backing
  swap
  · apply reflects.of_untouched leads consistent tolerates
    exact fun number page backing touches has => touched ⟨number, page, backing, touches, has⟩
  obtain ⟨number, page, backing, touches, has⟩ := touched
  have ours : backing.handle.file = window.file := congrArg FileHandle.file has.holds.handle_eq
  have known : (machine.environment.files.get? backing.handle.file).isSome := ours ▸ reflects.known
  have covered := reflects.isCovered has
  -- What is left are the transitions that touch a page of the window: its residency begins or ends.
  cases leads with
  | note | take | spoil | release | pin | set | create | forget | setFile | createFile
  | listInitializer | setSwapFaults | lend | reclaim => exact touches.elim
  | register vacant =>
    obtain ⟨rfl, rfl⟩ := touches
    cases vacant.symm.trans has.found
  | store =>
    obtain ⟨rfl, rfl⟩ := touches
    exact absurd ⟨rfl, has⟩ (tolerates page backing)
  | copy model found =>
    obtain ⟨rfl, rfl⟩ := touches
    have uses := has.uses
    cases found.symm.trans has.found
    rw [Page.backing?_forked] at uses
    exact absurd (reflects.has model uses ours).1 tolerates
  | evict exhausted picked found resident stored =>
    obtain ⟨rfl, rfl⟩ := touches
    cases found.symm.trans has.found
    have leads := Transition.Leads.evict exhausted picked found resident stored
    have isLoaded := consistent.fits.isLoaded found resident
    have saves := PageKind.saves_of_stored isLoaded has.uses has.holds.isAligned
      (by rw [environment_beforeStore]; exact known)
      (by rw [environment_beforeStore]; exact covered) stored
    apply reflects.of_vacated leads consistent (by rintro _ _ ⟨⟩) has ⟨rfl, rfl⟩
      (leads.frame?_of_ends (.inl ⟨_, rfl⟩))
    · rw [environment_vacate]
      exact saves.congr (by rw [environment_beforeStore]; rfl) rfl
    · exact fun _ => ⟨_, resident, rfl⟩
    · exact fun _ dirty => dirty
  | load found absent awaits loaded =>
    obtain ⟨rfl, rfl⟩ := touches
    cases found.symm.trans has.found
    have leads := Transition.Leads.load found absent awaits loaded
    have became := (PageKind.load_ends _ _ _).of_done loaded
    have plain := (reflects.placed found has.uses ours).2.2
    apply reflects.of_loaded leads consistent trivial (by rintro _ _ ⟨⟩) has absent ⟨rfl, rfl⟩
    · rw [environment_settleLoaded]
      have same := congrArg File.data (Transition.Loaded.uncounted_eq became window.file)
      exact same
    · intro frame held
      rw [frame?, page?_settleLoaded (isSome_of_page? found), amend_self] at held
      cases held
      rw [frameBytes_settleLoaded, if_pos rfl, became.bytes_eq has.uses plain, ours]
      rfl
  | unregister found unloaded =>
    obtain ⟨rfl, rfl⟩ := touches
    cases found.symm.trans has.found
    have leads := Transition.Leads.unregister found unloaded
    have absent : page.frame = none := by
      apply consistent.fits.absent_of_not_isLoaded found
      rw [unloaded]
      exact PageKind.not_isLoaded_unloaded
    apply reflects.of_forgotten leads consistent (by rintro _ _ ⟨⟩) has ⟨rfl, rfl⟩ absent _ rfl
    rw [frame?, page?_dropPage (isSome_of_page? found), amend_self]
    rfl
  | discard found absent ended =>
    obtain ⟨rfl, rfl⟩ := touches
    cases found.symm.trans has.found
    have leads := Transition.Leads.discard found absent ended
    have same := (PageKind.discard_absent_ends _ _ (consistent.slots.allocated found)).of_done ended
    have slotless : page.kind.slot? = none := by
      have uses := has.uses
      cases kindIs : page.kind with
      | unloaded | file => rfl
      | anonymous =>
        rw [kindIs] at uses
        cases uses
    rw [slotless] at same
    exact reflects.of_forgotten leads consistent (by rintro _ _ ⟨⟩) has ⟨rfl, rfl⟩ absent
      (leads.frame?_of_ends (.inr rfl)) (congrArg Environment.files same)
  | discardResident found resident ended =>
    obtain ⟨rfl, rfl⟩ := touches
    cases found.symm.trans has.found
    have leads := Transition.Leads.discardResident found resident ended
    have isLoaded := consistent.fits.isLoaded found resident
    have saves := (PageKind.saves_of_discarded isLoaded has.uses has.holds.isAligned known covered
      (ours ▸ reflects.harmless) ended).1
    apply reflects.of_vacated leads consistent (by rintro _ _ ⟨⟩) has ⟨rfl, rfl⟩
      (leads.frame?_of_ends (.inr rfl))
    · rw [environment_endResident]
      exact saves
    · exact fun _ => ⟨_, resident, rfl⟩
    · exact fun _ dirty => dirty

/-- Bytes that are stored in a page of the window are shown, whatever the file holds. -/
theorem of_store (reflects : window.Reflects content machine) {position : Nat} {piece : Bytes}
    (leads : (Transition.store window.space number position piece).Leads machine next)
    (consistent : machine.Consistent) (has : window.Has machine number page backing)
    {content' : Nat → UInt8}
    (shown : ∀ (bytes : PageBytes config) (place : Nat), backing.Covers place →
      bytes.byteAt place = content place →
        (bytes.overwrite position piece).byteAt place = content' place)
    (others : ∀ place, ¬ backing.Covers place → content' place = content place) :
    window.Reflects content' next := by
  cases leads with
  | @store _ _ written frame _ _ found resident writable =>
    have leads : (Transition.store window.space written.number position piece).Leads machine _ :=
      .store found resident writable
    cases found.symm.trans has.found
    obtain ⟨-, _, mapped⟩ := consistent.fits.entry_of_resident found resident
    apply reflects.of_touched _ leads consistent (reflects.placed_next leads consistent nofun)
      reflects.known reflects.harmless rfl
    · intro other page' backing' bytes place touches' has' held covers
      obtain ⟨-, rfl⟩ := touches'
      obtain ⟨rfl, rfl⟩ := has.unique ((Has.congr (by rw [page?_markDirty]; rfl)).mp has')
      cases held.symm.trans resident
      rw [frameBytes_updateSpace, frameBytes_setFrameBytes, if_pos rfl]
      exact shown _ _ covers (reflects.resident has resident covers)
    · intro place clear before
      have uncovered : ¬ backing.Covers place := by
        intro covers
        apply clear page.number ⟨rfl, rfl⟩
        refine ⟨page, backing, (Has.congr (by rw [page?_markDirty]; rfl)).mpr has, ?_, covers, ?_⟩
        · rw [resident]
          rfl
        · apply isDirty_markDirty
          · exact isSome_of_page? found
          · exact mapped
      rw [others place uncovered]
      apply reflects.stored
      intro other overlays
      by_cases here : other = page.number
      · subst here
        exact uncovered (overlays.covers has).2.1
      · exact before other (fun touches => here touches.2.symm) overlays
    · intro other page' backing' place untouched has' covers
      apply others
      intro covers'
      obtain rfl := has.holds.apart covers' has'.holds covers
      exact untouched ⟨rfl, rfl⟩

end Reflects

end FileWindow

end DemandPaging

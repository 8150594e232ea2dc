import DemandPaging.Proofs.Mapping
import DemandPaging.Proofs.Window.Files

/-!
# Windows on files

A mapping is a window on its file. Each of its pages shows a part of the file, the parts follow each
other without overlap, and together they are the positions from the offset of the mapping up to its end
or to the end of the file.
-/

namespace DemandPaging

variable {config : Config}

/-- The pages of a space through which a part of a file is seen and can be changed. They are pages of
user memory. -/
structure FileWindow (config : Config) where
  space : SpaceKey
  plan : MappingPlan
  count : Nat
  occupied : 0 < count
  fits : plan.Fits config count
  writable : plan.writable = true
  aligned : plan.offset.toNat % config.pageSize = 0
  positive : 0 < plan.start.word.toNat
  user : ∀ index < count,
    (plan.start.word.toNat + index) * config.pageSize < config.userEnd.toNat

namespace FileWindow

variable (window : FileWindow config)

/-- The file that is seen. -/
def file : FileId := window.plan.handle.file

/-- The part of the file on the page at an index. -/
def part (index : Nat) : FileBacking config :=
  FileBacking.ofFileLength config window.plan.handle
    (window.plan.offset + UInt64.ofNat index * config.pageSizeWord) window.plan.fileLength

/-- The pages of the window. -/
def IsPage (number : PageNumber) : Prop :=
  ∃ index < window.count, number = window.plan.start.advance index

/-- A page of the window, and the part of the file on it. -/
def Holds (number : PageNumber) (backing : FileBacking config) : Prop :=
  ∃ index < window.count, number = window.plan.start.advance index ∧ backing = window.part index

/-- The positions of the file that are seen. -/
def Shows (position : Nat) : Prop :=
  window.plan.offset.toNat ≤ position ∧
    position < min window.plan.fileLength
      (window.plan.offset.toNat + window.count * config.pageSize)

instance (position : Nat) : Decidable (window.Shows position) :=
  inferInstanceAs (Decidable (_ ∧ _))

/-- The address at which a position of the file is seen. -/
def place (position : Nat) : Nat :=
  window.plan.start.word.toNat * config.pageSize + (position - window.plan.offset.toNat)

variable {window} {number other : PageNumber} {backing : FileBacking config} {index position : Nat}

/-- The parts of a window follow each other in the file, a page apart. -/
theorem toNat_offset_part (inside : index < window.count) :
    (window.part index).offset.toNat = window.plan.offset.toNat + index * config.pageSize :=
  window.fits.toNat_offset inside

/-- A part of a window has as many bytes of the file as are left, up to a page. -/
theorem readBytes_part (inside : index < window.count) :
    (window.part index).readBytes = min config.pageSize
      (window.plan.fileLength - (window.plan.offset.toNat + index * config.pageSize)) := by
  rw [← toNat_offset_part inside]
  rfl

/-- The pages of a window follow each other in the space. -/
theorem toNat_number (inside : index < window.count) :
    (window.plan.start.advance index).word.toNat = window.plan.start.word.toNat + index := by
  have room := window.fits.pages
  exact PageNumber.toNat_advance (by omega)

namespace Holds

/-- A page that holds a part of the file is a page of the window. -/
theorem isPage (holds : window.Holds number backing) : window.IsPage number := by
  obtain ⟨index, inside, same, _⟩ := holds
  exact ⟨index, inside, same⟩

/-- All parts are read under the handle that the window's mapping opened. -/
theorem handle_eq (holds : window.Holds number backing) : backing.handle = window.plan.handle := by
  obtain ⟨index, _, _, rfl⟩ := holds
  rfl

/-- Every part begins where a page of the file begins. -/
theorem isAligned (holds : window.Holds number backing) : backing.IsAligned := by
  obtain ⟨index, inside, _, rfl⟩ := holds
  rw [FileBacking.IsAligned, toNat_offset_part inside, Nat.add_mul_mod_self_right]
  exact window.aligned

/-- The file reaches to the end of each part. -/
theorem isCovered (holds : window.Holds number backing) {data : Bytes}
    (size : data.size = window.plan.fileLength) : backing.IsCovered data := by
  obtain ⟨index, inside, _, rfl⟩ := holds
  rw [FileBacking.IsCovered, toNat_offset_part inside, readBytes_part inside, size]
  omega

/-- A page shows one part. -/
theorem unique (holds : window.Holds number backing) {backing' : FileBacking config}
    (holds' : window.Holds number backing') : backing' = backing := by
  obtain ⟨index, inside, rfl, rfl⟩ := holds
  obtain ⟨index', inside', same, rfl⟩ := holds'
  have room := window.fits.pages
  rw [PageNumber.advance_injective (by omega) (by omega) same]

/-- A position that is seen is on the page at its distance from the start of the mapping. -/
theorem exists_index (holds : window.Holds number backing) (covers : backing.Covers position) :
    ∃ index < window.count, number = window.plan.start.advance index ∧
      window.plan.offset.toNat + index * config.pageSize ≤ position ∧
        position < window.plan.offset.toNat + index * config.pageSize + config.pageSize ∧
          position < window.plan.fileLength := by
  obtain ⟨index, inside, rfl, rfl⟩ := holds
  obtain ⟨after, before⟩ := covers
  rw [toNat_offset_part inside] at after before
  rw [readBytes_part inside] at before
  exact ⟨index, inside, rfl, after, by omega, by omega⟩

/-- The parts on different pages do not overlap. -/
theorem apart (holds : window.Holds number backing) (covers : backing.Covers position)
    {backing' : FileBacking config} (holds' : window.Holds other backing')
    (covers' : backing'.Covers position) : other = number := by
  obtain ⟨index, _, rfl, low, high, _⟩ := holds.exists_index covers
  obtain ⟨index', _, rfl, low', high', _⟩ := holds'.exists_index covers'
  have atPage : ∀ {index : Nat}, window.plan.offset.toNat + index * config.pageSize ≤ position →
      position < window.plan.offset.toNat + index * config.pageSize + config.pageSize →
        (position - window.plan.offset.toNat) / config.pageSize = index := by
    intro index low high
    apply Nat.div_eq_of_lt_le (by omega)
    rw [Nat.succ_mul]
    omega
  rw [← atPage low high, ← atPage low' high']

/-- A position of the file lies on its page at the distance that it has from a page of the file. -/
theorem place_eq (holds : window.Holds number backing) (covers : backing.Covers position) :
    window.place position = number.word.toNat * config.pageSize + position % config.pageSize := by
  rw [holds.isAligned.mod_eq covers]
  obtain ⟨index, inside, rfl, rfl⟩ := holds
  have after := covers.1
  rw [toNat_offset_part inside] at after ⊢
  rw [place, toNat_number inside, Nat.add_mul]
  omega

end Holds

/-- The positions that are seen are those on the pages. -/
theorem shows_iff :
    window.Shows position ↔
      ∃ number backing, window.Holds number backing ∧ backing.Covers position := by
  constructor
  · rintro ⟨after, before⟩
    let index := (position - window.plan.offset.toNat) / config.pageSize
    have low : index * config.pageSize ≤ position - window.plan.offset.toNat :=
      Nat.div_mul_le_self ..
    have high : position - window.plan.offset.toNat < index * config.pageSize + config.pageSize :=
      Nat.lt_div_mul_add config.pageSize_pos
    have inside : index < window.count := by
      apply (Nat.div_lt_iff_lt_mul config.pageSize_pos).mpr
      omega
    refine ⟨_, _, ⟨index, inside, rfl, rfl⟩, ?_⟩
    rw [FileBacking.Covers, toNat_offset_part inside, readBytes_part inside]
    omega
  · rintro ⟨number, backing, holds, covers⟩
    obtain ⟨index, inside, _, low, high, short⟩ := holds.exists_index covers
    have whole := Nat.mul_le_mul_right config.pageSize (Nat.succ_le_of_lt inside)
    rw [Nat.succ_mul] at whole
    exact ⟨by omega, by omega⟩

end FileWindow

end DemandPaging

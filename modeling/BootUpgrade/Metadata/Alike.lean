import Mathlib.Data.List.Basic
import BootUpgrade.Metadata.Journal

/-!
# Journals that differ in the end of the application

No part of the scan looks at the end of the application or at the CRC of a
valid record. Two journals whose records agree in everything else have the same
summary, but for the end of the application.
-/

namespace BootUpgrade

/-- A record without the end of the application and its own CRC. -/
def BootMetadataRecord.bare (r : BootMetadataRecord) : BootMetadataRecord :=
  { r with appEnd := 0, recordCrc32 := 0 }

/-- A summary without the end of the application. -/
def BootMetadataSummary.bare (s : BootMetadataSummary) : BootMetadataSummary := { s with appEnd := 0 }

namespace BootMetadata

variable (valid : List BootMetadataRecord) (image : BootMetadataRecord)

theorem newest_bare : Selection.newest seqKey (valid.map (·.bare)) =
    (Selection.newest seqKey valid).map (·.bare) :=
  Selection.newest_map seqKey (·.bare) valid

theorem currentImage_bare : currentImage (valid.map (·.bare)) = (currentImage valid).map (·.bare) := by
  rw [currentImage, List.filter_map, newest_bare]
  rfl

theorem hasDuplicate_bare : hasDuplicate (valid.map (·.bare)) = hasDuplicate valid := by
  rw [hasDuplicate, List.map_map]
  rfl

theorem boundRecords_bare : boundRecords image.bare (valid.map (·.bare)) =
    (boundRecords image valid).map (·.bare) := by
  rw [boundRecords, List.filter_map]
  rfl

theorem attempts_bare : attempts image.bare (valid.map (·.bare)) = attempts image valid := by
  rw [attempts, boundRecords_bare, List.countP_map]
  rfl

theorem confirmations_bare : confirmations image.bare (valid.map (·.bare)) =
    (confirmations image valid).map (·.bare) := by
  rw [confirmations, boundRecords_bare, List.filter_map]
  rfl

theorem sequenceOf_bare (best : Option BootMetadataRecord) :
    sequenceOf (best.map (·.bare)) = sequenceOf best := by
  cases best <;> rfl

theorem bound_bare (summary : BootMetadataSummary) :
    bound image.bare summary (valid.map (·.bare)) = bound image summary valid := by
  rw [bound, bound, attempts_bare, confirmations_bare, newest_bare, sequenceOf_bare,
    List.isEmpty_map]

theorem summarize_bare (counts : BootMetadataSummary) :
    (summarize counts (valid.map (·.bare))).bare = (summarize counts valid).bare := by
  have latest : copyLatestToSummary counts (Selection.newest seqKey (valid.map (·.bare))) =
      copyLatestToSummary counts (Selection.newest seqKey valid) := by
    rw [newest_bare]
    cases Selection.newest seqKey valid <;> rfl
  simp only [summarize, latest, hasDuplicate_bare, currentImage_bare]
  split
  · rfl
  · cases currentImage valid with
    | none => rfl
    | some image =>
      simp only [Option.map_some, bound_bare]
      rfl

/-- Both slots are erased, or they hold the same record up to the end of the application. -/
def SameSlot (w w' : RecordWords) : Prop :=
  isErasedRecord w = isErasedRecord w' ∧
    (validateRecord w).map (·.bare) = (validateRecord w').map (·.bare)

section
variable {load load' : Nat → RecordWords} (h : ∀ i < 16, SameSlot (load i) (load' i))
include h

theorem validRecords_bare :
    (validRecords load 16).map (·.bare) = (validRecords load' 16).map (·.bare) := by
  simp only [validRecords, List.map_filterMap]
  apply List.filterMap_congr
  intro i hi
  exact (h i (List.mem_range.1 hi)).2

theorem erasedSlots_same : erasedSlots load 16 = erasedSlots load' 16 := by
  apply List.filter_congr
  intro i hi
  exact (h i (List.mem_range.1 hi)).1

theorem invalidSlots_same : invalidSlots load 16 = invalidSlots load' 16 := by
  apply List.filter_congr
  intro i hi
  obtain ⟨erased, valid⟩ := h i (List.mem_range.1 hi)
  have none := congrArg Option.isNone valid
  simp only [Option.isNone_map] at none
  rw [erased, none]

/-- The summaries of the two journals. -/
theorem scan_same : (scanLoadedRecords load 16).bare = (scanLoadedRecords load' 16).bare := by
  have valid := validRecords_bare h
  have length := congrArg List.length valid
  simp only [List.length_map] at length
  have counts : slotCounts load 16 = slotCounts load' 16 := by
    simp only [slotCounts, length, erasedSlots_same h, invalidSlots_same h]
  rw [scanLoadedRecords_eq load (Nat.le_refl 16), scanLoadedRecords_eq load' (Nat.le_refl 16),
    ← summarize_bare, valid, counts, summarize_bare]

end

end BootMetadata

end BootUpgrade

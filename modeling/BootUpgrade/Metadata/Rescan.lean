import Mathlib.Data.List.Basic
import BootUpgrade.Metadata.Specification

/-!
# The scan after an append

One more valid record in the first erased slot of any journal, also between
records that are there already: what the scan reports then, from what it
reported before.
-/

namespace BootUpgrade.BootMetadata

/-! ## The expected summaries -/

/-- One more valid record of the given type, the newest. -/
def recordAppended (s : BootMetadataSummary) (recordType next : UInt16) : BootMetadataSummary :=
  { s with
    validRecordCount := s.validRecordCount + 1
    erasedRecordCount := s.erasedRecordCount - 1
    freeRecordCount := s.freeRecordCount - 1
    nextRecordIndex := next
    latestSequence := s.latestSequence + 1
    latestRecordType := recordType }

/-- A new image: its identity, no attempts, unconfirmed. -/
def imageAppended (s : BootMetadataSummary) (image : BootMetadataRecord) (next : UInt16) :
    BootMetadataSummary :=
  { copyImageToSummary (recordAppended s recordImageValid next) image with
    state := .valid
    metadataValid := 1
    bootAttemptCount := 0
    appConfirmed := 0
    appConfirmedSequence := 0 }

theorem imageAppended_withRecordCrc (s : BootMetadataSummary) (image : BootMetadataRecord)
    (crc : UInt32) (next : UInt16) :
    imageAppended s (withRecordCrc image crc) next = imageAppended s image next := rfl

/-- The same image with one attempt more. -/
def attemptAppended (s : BootMetadataSummary) (next : UInt16) : BootMetadataSummary :=
  { recordAppended s recordBootAttempt next with bootAttemptCount := s.bootAttemptCount + 1 }

/-- The same image and attempts, confirmed. -/
def confirmAppended (s : BootMetadataSummary) (next : UInt16) : BootMetadataSummary :=
  { recordAppended s recordAppConfirmed next with
    appConfirmed := 1
    appConfirmedSequence := s.latestSequence + 1 }

/-! ## The slots -/

section
variable {α β : Type} {slot : α} {slots : List α}

/-- A slot that has come to hold something adds it to what the slots hold. -/
theorem filterMap_filled {f f' : α → Option β} {b : β} (distinct : slots.Nodup) (mem : slot ∈ slots)
    (before : f slot = none) (after : f' slot = some b) (others : ∀ i, i ≠ slot → f' i = f i) :
    (slots.filterMap f').Perm (slots.filterMap f ++ [b]) := by
  obtain ⟨front, back, rfl⟩ := List.append_of_mem mem
  rw [List.nodup_append, List.nodup_cons] at distinct
  obtain ⟨-, ⟨notBack, -⟩, apart⟩ := distinct
  have front_eq : front.filterMap f' = front.filterMap f :=
    List.filterMap_congr fun i hi => others i (apart i hi slot List.mem_cons_self)
  have back_eq : back.filterMap f' = back.filterMap f :=
    List.filterMap_congr fun i hi => others i fun same => notBack (same ▸ hi)
  rw [List.filterMap_append, List.filterMap_append, List.filterMap_cons_some after,
    List.filterMap_cons_none before, front_eq, back_eq, List.append_assoc]
  exact List.Perm.append_left _ (List.perm_append_singleton b _).symm

/-- The first slot that passed the test passes it no more. -/
theorem filter_filled {p p' : α → Bool} {front back : List α}
    (distinct : (front ++ slot :: back).Nodup) (first : ∀ i ∈ front, p i = false)
    (before : p slot = true) (after : p' slot = false) (others : ∀ i, i ≠ slot → p' i = p i) :
    (front ++ slot :: back).filter p = slot :: (front ++ slot :: back).filter p' := by
  rw [List.nodup_append, List.nodup_cons] at distinct
  obtain ⟨-, ⟨notBack, -⟩, apart⟩ := distinct
  have front_eq : front.filter p' = front.filter p :=
    List.filter_congr fun i hi => others i (apart i hi slot List.mem_cons_self)
  have back_eq : back.filter p' = back.filter p :=
    List.filter_congr fun i hi => others i fun same => notBack (same ▸ hi)
  have none : front.filter p = [] := by
    rw [List.filter_eq_nil_iff]
    intro i hi passes
    rw [first i hi] at passes
    cases passes
  rw [List.filter_append, List.filter_append, List.filter_cons_of_pos before,
    List.filter_cons_of_neg (by rw [after]; decide), front_eq, back_eq, none]
  rfl

end

section
variable {load : Nat → RecordWords} {slot n : Nat} {w : RecordWords} {r : BootMetadataRecord}
  (hs : slot < n) (erased : isErasedRecord (load slot) = true)
  (hv : validateRecord w = some r)
include hs erased hv

theorem validRecords_filled :
    (validRecords (writeSlot load slot w) n).Perm (validRecords load n ++ [r]) := by
  apply filterMap_filled List.nodup_range (List.mem_range.2 hs)
  · exact validateRecord_erased erased
  · rw [writeSlot_self]
    exact hv
  · intro i other
    rw [writeSlot_ne other]

theorem erasedSlots_filled (first : ∀ i < slot, isErasedRecord (load i) = false) :
    erasedSlots load n = slot :: erasedSlots (writeSlot load slot w) n := by
  have live := (validateRecord_some hv).2.1
  have split : List.range n = List.range slot ++ slot :: List.range' (slot + 1) (n - slot - 1) := by
    have cut : List.range' 0 slot ++ List.range' (0 + slot) (n - slot) =
        List.range' 0 (slot + (n - slot)) := List.range'_append_1
    rw [Nat.zero_add, Nat.add_sub_cancel' (Nat.le_of_lt hs)] at cut
    rw [← List.range'_succ, show n - slot - 1 + 1 = n - slot by omega, List.range_eq_range',
      List.range_eq_range', cut]
  have distinct : (List.range slot ++ slot :: List.range' (slot + 1) (n - slot - 1)).Nodup := by
    rw [← split]
    exact List.nodup_range
  unfold erasedSlots
  rw [split]
  apply filter_filled distinct
  · exact fun i hi => first i (List.mem_range.1 hi)
  · exact erased
  · rw [writeSlot_self]
    exact live
  · intro i other
    rw [writeSlot_ne other]

omit hs in
theorem invalidSlots_filled :
    invalidSlots (writeSlot load slot w) n = invalidSlots load n := by
  apply List.filter_congr
  intro i _
  by_cases same : i = slot
  · rw [same, writeSlot_self, erased, hv]
    simp
  · rw [writeSlot_ne same]

theorem slotCounts_filled (first : ∀ i < slot, isErasedRecord (load i) = false) :
    slotCounts (writeSlot load slot w) n =
      { slotCounts load n with
        validRecordCount := (slotCounts load n).validRecordCount + 1
        erasedRecordCount := (slotCounts load n).erasedRecordCount - 1
        freeRecordCount := (slotCounts load n).freeRecordCount - 1
        nextRecordIndex := nextIndex (erasedSlots load n).tail } := by
  have valid := (validRecords_filled hs erased hv).length_eq
  have free := erasedSlots_filled hs erased hv first
  have length := congrArg List.length free
  have one : UInt16.ofNat (erasedSlots load n).length - 1 =
      UInt16.ofNat (erasedSlots (writeSlot load slot w) n).length := by
    rw [length, List.length_cons, UInt16.ofNat_add]
    simp
  rw [List.length_append, List.length_singleton] at valid
  simp only [slotCounts, valid, invalidSlots_filled erased hv, one, UInt16.ofNat_add]
  rw [free, List.tail_cons]
  rfl

end

/-! ## The summary -/

/-- With distinct sequences the order of the records does not matter at all. -/
theorem summarize_perm_single {valid valid' : List BootMetadataRecord} (h : valid.Perm valid')
    (single : hasDuplicate valid = false) (counts : BootMetadataSummary) :
    summarize counts valid' = summarize counts valid := by
  have newest := newest_sublist_perm single h fun r hr => hr
  have selected := currentImage_perm h single
  have duplicate := hasDuplicate_perm h
  rw [single] at duplicate
  simp only [summarize, ← newest, ← selected, ← duplicate, single, Bool.false_eq_true, if_false]
  cases currentImage valid with
  | none => rfl
  | some image => simp only [bound_perm h single]

section
variable {counts : BootMetadataSummary} {valid : List BootMetadataRecord}
  {image r : BootMetadataRecord}

/-- The counters with one slot more in use. -/
def slotUsed (counts : BootMetadataSummary) (next : UInt16) : BootMetadataSummary :=
  { counts with
    validRecordCount := counts.validRecordCount + 1
    erasedRecordCount := counts.erasedRecordCount - 1
    freeRecordCount := counts.freeRecordCount - 1
    nextRecordIndex := next }

/-- An image replaces all that the summary said of the one before. -/
theorem imageAppended_summarize (single : hasDuplicate valid = false) (next : UInt16) :
    imageAppended (summarize counts valid) r next =
      imageAppended (copyLatestToSummary counts (Selection.newest seqKey valid)) r next := by
  simp only [summarize, single, Bool.false_eq_true, if_false]
  cases currentImage valid <;> rfl

variable (newer : Newer r valid) (blank : counts.latestSequence = 0)
  (sequence : r.sequence = (summarize counts valid).latestSequence + 1) (next : UInt16)
include newer blank sequence

theorem copyLatest_append :
    copyLatestToSummary (slotUsed counts next) (Selection.newest seqKey (valid ++ [r])) =
      recordAppended (copyLatestToSummary counts (Selection.newest seqKey valid)) r.recordType
        next := by
  rw [summarize_latestSequence counts blank] at sequence
  rw [newest_append newer]
  cases latest : Selection.newest seqKey valid with
  | none =>
    rw [latest] at sequence
    simp only [copyLatestToSummary, slotUsed, recordAppended, sequence, blank, sequenceOf]
  | some last =>
    rw [latest] at sequence
    simp only [copyLatestToSummary, slotUsed, recordAppended, sequence, sequenceOf]

variable (single : hasDuplicate valid = false)
include single

theorem summarize_image (kind : r.recordType = recordImageValid) :
    summarize (slotUsed counts next) (valid ++ [r]) =
      imageAppended (summarize counts valid) r next := by
  have unbound := boundRecords_append_image newer
  have latest := copyLatest_append newer blank sequence next
  rw [summarize_selected (hasDuplicate_append_newer single newer)
    (currentImage_append_image kind newer), imageAppended_summarize single, selectedSummary, latest,
    kind]
  simp only [bound, attempts, confirmations, unbound]
  rfl

theorem summarize_followUp (other : r.recordType ≠ recordImageValid)
    (selected : currentImage valid = some image) :
    summarize (slotUsed counts next) (valid ++ [r]) =
      { (bound image (copyImageToSummary (recordAppended
          (copyLatestToSummary counts (Selection.newest seqKey valid)) r.recordType next) image)
          (valid ++ [r])).1 with
        metadataValid := 1, state := .valid } := by
  have kept := (@currentImage_append_other valid) other
  rw [selected] at kept
  rw [summarize_selected (hasDuplicate_append_newer single newer) kept, selectedSummary,
    copyLatest_append newer blank sequence next]

/-- A bound attempt is counted. -/
theorem summarize_attempt (kind : r.recordType = recordBootAttempt)
    (selected : currentImage valid = some image) (binds : isBound image r = true) :
    summarize (slotUsed counts next) (valid ++ [r]) =
      attemptAppended (summarize counts valid) next := by
  have other : r.recordType ≠ recordImageValid := by
    rw [kind]
    decide
  rw [summarize_followUp newer blank sequence next single other selected,
    bound_append_attempt image _ valid r binds kind, kind, summarize_selected single selected]
  rfl

/-- A bound confirmation confirms. -/
theorem summarize_confirmed (kind : r.recordType = recordAppConfirmed)
    (selected : currentImage valid = some image) (binds : isBound image r = true) :
    summarize (slotUsed counts next) (valid ++ [r]) =
      confirmAppended (summarize counts valid) next := by
  have other : r.recordType ≠ recordImageValid := by
    rw [kind]
    decide
  have unattempted : recordAppConfirmed ≠ recordBootAttempt := by decide
  have count : attempts image (valid ++ [r]) = attempts image valid := by
    rw [attempts_append, if_neg (fun h => unattempted (kind ▸ h.2)), Nat.add_zero]
  have confirms : confirmations image (valid ++ [r]) = confirmations image valid ++ [r] := by
    rw [confirmations_append, if_pos ⟨binds, kind⟩]
  have last : Selection.newest seqKey (confirmations image valid ++ [r]) = some r := by
    apply newest_append
    exact fun v hv => newer v (List.mem_filter.1 (List.mem_filter.1 hv).1).1
  have again := summarize_followUp newer blank sequence next single other selected
  rw [summarize_latestSequence counts blank] at sequence
  rw [again, kind, confirmAppended, summarize_latestSequence counts blank, ← sequence,
    summarize_selected single selected]
  have live : (confirmations image valid ++ [r]).isEmpty = false := by simp
  simp only [bound, count, confirms, last, live, selectedSummary, sequenceOf, recordAppended,
    copyImageToSummary, Bool.false_eq_true, if_false]

end

/-! ## The scan -/

section
variable {load : Nat → RecordWords} {slot : Nat} {w : RecordWords} {r : BootMetadataRecord}

/-- The summary of the records with one more in the first erased slot. -/
theorem scan_filled (hs : slot < 16) (erased : isErasedRecord (load slot) = true)
    (first : ∀ i < slot, isErasedRecord (load i) = false) (hv : validateRecord w = some r)
    (single : hasDuplicate (validRecords load 16) = false) (newer : Newer r (validRecords load 16)) :
    scanLoadedRecords (writeSlot load slot w) 16 =
      summarize (slotUsed (slotCounts load 16) (nextIndex (erasedSlots load 16).tail))
        (validRecords load 16 ++ [r]) := by
  rw [scanLoadedRecords_eq _ (Nat.le_refl 16), slotCounts_filled hs erased hv first]
  apply summarize_perm_single (validRecords_filled hs erased hv).symm
  exact hasDuplicate_append_newer single newer

/-- Short of the greatest sequence the next one is newer than all. -/
theorem next_newer (bounded : (scanLoadedRecords load 16).latestSequence ≠ 0xFFFFFFFF) :
    ∀ v ∈ validRecords load 16, v.sequence < (scanLoadedRecords load 16).latestSequence + 1 := by
  intro v hv
  rw [scan_latestSequence] at bounded ⊢
  cases latest : Selection.newest seqKey (validRecords load 16) with
  | none =>
    rw [(Selection.newest_eq_none seqKey).1 latest] at hv
    cases hv
  | some last =>
    rw [latest] at bounded
    have le : v.sequence.toNat ≤ last.sequence.toNat := (Selection.newest_spec seqKey latest).2 v hv
    have small := last.sequence.toNat_lt
    have top : last.sequence.toNat ≠ 0xFFFFFFFF := fun same =>
      bounded (UInt32.toNat_inj.1 same)
    have succ : (last.sequence + 1).toNat = last.sequence.toNat + 1 :=
      Words.toNat_add_of_lt (by simp only [UInt32.reduceToNat]; omega)
    apply UInt32.lt_iff_toNat_lt.2
    rw [sequenceOf, succ]
    omega

end

end BootUpgrade.BootMetadata

import Mathlib.Data.List.Basic
import BootUpgrade.Metadata.Alike
import BootUpgrade.Metadata.Specification
import BootUpgrade.Simulator.Core

/-!
# The simulator's journal as the device would scan it

On a journal whose used slots all hold valid records, the summary of the
simulator is the payload of the device's scan.
-/

namespace BootUpgrade

open BootMetadata HostWorkflow

namespace SimulatorCore

/-! ## The loop -/

/-- The words of the used slots. -/
def usedRecords (load : Nat → RecordWords) (n : Nat) : List RecordWords :=
  (List.range n).filterMap fun i => if isErasedRecord (load i) then none else some (load i)

def wordsKey (record : RecordWords) : Nat := seqKey (parseRecord record)

def isImageWords (record : RecordWords) : Bool := isImage (parseRecord record)

theorem metadataErased_eq (record : RecordWords) : metadataErased record = isErasedRecord record :=
  rfl

theorem replaceLatest_eq (latest : Option RecordWords) (record : RecordWords) :
    replaceLatest latest record = Selection.newer wordsKey latest record := by
  cases latest with
  | none => rfl
  | some l =>
    have key : recordSequence record > recordSequence l ↔ wordsKey l < wordsKey record :=
      UInt32.lt_iff_toNat_lt
    simp only [replaceLatest, Selection.newer, key]

theorem validateRecord_usable {record : RecordWords} {r : BootMetadataRecord}
    (h : validateRecord record = some r) : usableRecord record = true := by
  obtain ⟨parsed, -, -, -, -, crc⟩ := validateRecord_some h
  unfold validateRecord at h
  split at h
  · cases h
  split at h
  · cases h
  rename_i fixed
  simp only [not_or, ne_eq, Decidable.not_not] at fixed
  obtain ⟨magic, magic', version, words, kind, -⟩ := fixed
  have kind : isRecordTypeValid record[4] = true := by simpa using kind
  rw [recordCrc, ← crc32Words_eq] at crc
  simp (disch := decide) only [usableRecord, getElem!_pos, magic, magic', version, words, crc,
    bne_self_eq_false, Bool.false_or, Bool.or_false, Bool.not_not]
  exact kind

/-- The locals of the loop after `n` slots, all of them erased or valid. -/
def scannedWords (load : Nat → RecordWords) (n : Nat) : SummaryLocals where
  erased := (erasedSlots load n).length
  invalid := 0
  firstFree := (erasedSlots load n).head?.getD 0xFFFF
  latest := Selection.newest wordsKey (usedRecords load n)
  latestImage := Selection.newest wordsKey ((usedRecords load n).filter isImageWords)
  validRecords := usedRecords load n

/-- Every used slot holds a valid record. -/
def AllValid (load : Nat → RecordWords) : Prop :=
  ∀ i < 16, isErasedRecord (load i) = false → ∃ r, validateRecord (load i) = some r

/-- The `first_free` update of the loop body. -/
theorem firstFree_append {load : Nat → RecordWords} {n : Nat} (hn : n < 16) :
    (if (erasedSlots load n).head?.getD 0xFFFF = 0xFFFF then n
      else (erasedSlots load n).head?.getD 0xFFFF) = (erasedSlots load n ++ [n]).head?.getD 0xFFFF := by
  cases he : erasedSlots load n with
  | nil => rfl
  | cons i is =>
    have hi : i ∈ erasedSlots load n := by rw [he]; exact List.mem_cons_self
    have small := (mem_erasedSlots.1 hi).1
    have other : i ≠ 0xFFFF := by omega
    simp [other]

variable (core : SimulatorCore)

theorem foldl_summarySlot (valid : AllValid core.metadataRecord) {n : Nat} (hn : n ≤ 16) :
    (List.range n).foldl core.summarySlot .init = scannedWords core.metadataRecord n := by
  induction n with
  | zero => rfl
  | succ n ih =>
    rw [List.range_succ, List.foldl_append, ih (by omega), List.foldl_cons, List.foldl_nil]
    unfold summarySlot
    dsimp only
    by_cases erased : isErasedRecord (core.metadataRecord n) = true
    · have slots : erasedSlots core.metadataRecord (n + 1) = erasedSlots core.metadataRecord n ++ [n] := by
        simp [erasedSlots, List.range_succ, erased]
      have used : usedRecords core.metadataRecord (n + 1) = usedRecords core.metadataRecord n := by
        simp [usedRecords, List.range_succ, erased]
      rw [metadataErased_eq, if_pos erased]
      simp only [scannedWords, slots, used, List.length_append, List.length_singleton]
      rw [← firstFree_append (by omega)]
      rfl
    · have live : isErasedRecord (core.metadataRecord n) = false := by simpa using erased
      obtain ⟨r, hr⟩ := valid n (by omega) live
      have slots : erasedSlots core.metadataRecord (n + 1) = erasedSlots core.metadataRecord n := by
        simp [erasedSlots, List.range_succ, live]
      have used : usedRecords core.metadataRecord (n + 1) =
          usedRecords core.metadataRecord n ++ [core.metadataRecord n] := by
        simp [usedRecords, List.range_succ, live]
      have usable := validateRecord_usable hr
      rw [metadataErased_eq, if_neg erased, if_neg (by simp [usable])]
      simp only [scannedWords, slots, used, replaceLatest_eq, Selection.newest_append_singleton]
      by_cases image : (core.metadataRecord n)[4]! = recordImageValid
      · have kind : isImageWords (core.metadataRecord n) = true := by
          simpa [isImageWords, isImage, parseRecord] using image
        rw [if_pos image, List.filter_append, List.filter_cons_of_pos kind, List.filter_nil,
          Selection.newest_append_singleton]
      · have kind : ¬ isImageWords (core.metadataRecord n) = true := by
          simpa [isImageWords, isImage, parseRecord] using image
        rw [if_neg image, List.filter_append, List.filter_cons_of_neg kind, List.filter_nil,
          List.append_nil]

/-- The records the simulator counts as valid are the valid ones. -/
theorem usedRecords_parse {load : Nat → RecordWords} (valid : AllValid load) {n : Nat} (hn : n ≤ 16) :
    (usedRecords load n).map parseRecord = validRecords load n := by
  rw [usedRecords, List.map_filterMap, validRecords]
  apply List.filterMap_congr
  intro i hi
  have := List.mem_range.1 hi
  cases erased : isErasedRecord (load i) with
  | true => simp [validateRecord_erased erased]
  | false =>
    obtain ⟨r, hr⟩ := valid i (by omega) erased
    simp [hr, (validateRecord_some hr).1]

/-! ## The payload -/

/-- A journal that only complete appends have written: no slot is torn, no
sequence occurs twice, no record stands without an image. -/
structure Clean (load : Nat → RecordWords) : Prop where
  valid : AllValid load
  single : hasDuplicate (validRecords load 16) = false
  selects : currentImage (validRecords load 16) = none → validRecords load 16 = []
  limit : ∀ image, currentImage (validRecords load 16) = some image →
    image.bootAttemptLimit = bootAttemptLimit

theorem joinU32_beq (low high low' high' : UInt16) :
    (joinU32 low high == joinU32 low' high') = (low == low' && high == high') := by
  rw [Bool.eq_iff_iff]
  simp only [beq_iff_eq, Bool.and_eq_true]
  constructor
  · intro h
    have low := congrArg lowWord h
    have high := congrArg highWord h
    simp only [Words.lowWord_joinU32, Words.highWord_joinU32] at low high
    exact ⟨low, high⟩
  · rintro ⟨rfl, rfl⟩
    rfl

theorem matchesImage_eq (image record : RecordWords) :
    matchesImage image record = recordMatchesImage (parseRecord record) (parseRecord image) := by
  simp (disch := decide) only [matchesImage, getElem!_pos, recordMatchesImage, parseRecord,
    joinU32_beq, Bool.and_assoc]

theorem boundTo_eq (image record : RecordWords) (recordType : UInt16) :
    boundTo image recordType record =
      (isBound (parseRecord image) (parseRecord record) &&
        (parseRecord record).recordType == recordType) := by
  rw [boundTo, matchesImage_eq, isBound, Bool.and_assoc, Bool.and_comm]
  rfl

theorem attemptCount_eq (image : RecordWords) (records : List RecordWords) :
    records.countP (boundTo image recordBootAttempt) =
      attempts (parseRecord image) (records.map parseRecord) := by
  rw [attempts, boundRecords, List.countP_filter, List.countP_map]
  apply List.countP_congr
  intro record _
  rw [boundTo_eq]
  simp only [Function.comp_apply, isBound, Bool.and_eq_true]
  exact and_comm

theorem appConfirmed_eq (image : RecordWords) (records : List RecordWords) :
    records.any (boundTo image recordAppConfirmed) =
      !(confirmations (parseRecord image) (records.map parseRecord)).isEmpty := by
  rw [Bool.eq_iff_iff, Bool.not_eq_true', confirmations_isEmpty, List.any_eq_true]
  simp only [List.mem_map, exists_exists_and_eq_and, boundTo_eq, isBound, Bool.and_eq_true,
    decide_eq_true_eq, beq_iff_eq, recordMatchesImage_iff]
  constructor
  · rintro ⟨record, mem, ⟨newer, same⟩, kind⟩
    exact ⟨record, mem, kind, newer, same⟩
  · rintro ⟨record, mem, kind, newer, same⟩
    exact ⟨record, mem, ⟨newer, same⟩, kind⟩

section
variable {load : Nat → RecordWords} (clean : Clean load)
include clean

theorem Clean.latest : (Selection.newest wordsKey (usedRecords load 16)).map parseRecord =
    Selection.newest seqKey (validRecords load 16) := by
  rw [← usedRecords_parse clean.valid (Nat.le_refl 16), Selection.newest_map]
  rfl

theorem Clean.latestImage :
    (Selection.newest wordsKey ((usedRecords load 16).filter isImageWords)).map parseRecord =
      currentImage (validRecords load 16) := by
  rw [currentImage, ← usedRecords_parse clean.valid (Nat.le_refl 16), List.filter_map,
    Selection.newest_map]
  rfl

theorem Clean.invalidSlots : (invalidSlots load 16).length = 0 := by
  rw [List.length_eq_zero_iff, BootMetadata.invalidSlots, List.filter_eq_nil_iff]
  intro i hi live
  simp only [Bool.and_eq_true, Bool.not_eq_true'] at live
  obtain ⟨r, hr⟩ := clean.valid i (List.mem_range.1 hi) live.1
  rw [hr] at live
  exact absurd live.2 (by simp)

omit clean in
theorem nextIndex_getD (erased : List Nat) : UInt16.ofNat (erased.head?.getD 0xFFFF) = nextIndex erased := by
  cases erased <;> rfl

end

/-- The scan of a journal without records. -/
theorem summarize_nil {counts : BootMetadataSummary} (valid : counts.validRecordCount = 0)
    (invalid : counts.invalidRecordCount = 0) :
    summarize counts [] = { counts with state := .empty } := by
  have none : (counts.validRecordCount = 0 ∧ counts.invalidRecordCount = 0) := ⟨valid, invalid⟩
  show { counts with state := if counts.validRecordCount = 0 ∧ counts.invalidRecordCount = 0 then
    BootMetadataScanState.empty else .invalid } = _
  rw [if_pos none]

/-- The summary is the payload of the scan. -/
theorem metadataSummaryPayload_eq (core : SimulatorCore) (clean : Clean core.metadataRecord) :
    core.metadataSummaryPayload =
      summaryToPayload (scanLoadedRecords core.metadataRecord 16) := by
  have records := usedRecords_parse clean.valid (Nat.le_refl 16)
  have length := congrArg List.length records
  rw [List.length_map] at length
  have latestImage := clean.latestImage
  have latest := clean.latest
  have invalid := clean.invalidSlots
  rw [metadataSummaryPayload, foldl_summarySlot core clean.valid (Nat.le_refl 16),
    scanLoadedRecords_eq _ (Nat.le_refl 16), summaryPayload]
  dsimp only [scannedWords]
  cases hi : Selection.newest wordsKey ((usedRecords core.metadataRecord 16).filter isImageWords) with
  | none =>
    rw [hi, Option.map_none] at latestImage
    have empty := clean.selects latestImage.symm
    rw [empty, summarize_nil (by simp [slotCounts, empty]) (by simp [slotCounts, invalid])]
    simp only [summaryToPayload, slotCounts, empty, invalid, nextIndex_getD]
    rfl
  | some image =>
    rw [hi, Option.map_some] at latestImage
    have limit : image[27] = 3 := clean.limit _ latestImage.symm
    have slot : image[7] = BootSlot.a := (currentImage_valid latestImage.symm).1
    have newest : ∃ record, Selection.newest wordsKey (usedRecords core.metadataRecord 16) =
        some record := by
      cases hn : Selection.newest wordsKey (usedRecords core.metadataRecord 16) with
      | some record => exact ⟨record, rfl⟩
      | none =>
        rw [(Selection.newest_eq_none wordsKey).1 hn] at hi
        cases hi
    obtain ⟨record, hn⟩ := newest
    rw [hn, Option.map_some] at latest
    rw [hn, summarize_selected clean.single latestImage.symm]
    simp only [attemptCount_eq, appConfirmed_eq, records, nextIndex_getD, length]
    simp only [summaryToPayload, selectedSummary, ← latest, copyLatestToSummary, bound,
      copyImageToSummary, slotCounts, parseRecord, Words.lowWord_joinU32, Words.highWord_joinU32,
      limit, invalid]
    simp [slot]

/-! ## The appends -/

/-- The journals of the two sides are clean together. -/
theorem Clean.same {load load' : Nat → RecordWords} (h : ∀ i < 16, SameSlot (load i) (load' i))
    (clean : Clean load') : Clean load := by
  have bare := validRecords_bare h
  have image := congrArg currentImage bare
  rw [currentImage_bare, currentImage_bare] at image
  refine ⟨?_, ?_, ?_, ?_⟩
  · intro i hi live
    obtain ⟨erased, valid⟩ := h i hi
    obtain ⟨r, hr⟩ := clean.valid i hi (by rw [← erased, live])
    rw [hr, Option.map_some, Option.map_eq_some_iff] at valid
    obtain ⟨r', hr', -⟩ := valid
    exact ⟨r', hr'⟩
  · rw [← hasDuplicate_bare, bare, hasDuplicate_bare]
    exact clean.single
  · intro none
    rw [none, Option.map_none] at image
    have empty := clean.selects (Option.map_eq_none_iff.1 image.symm)
    rw [empty, List.map_nil] at bare
    exact List.map_eq_nil_iff.1 bare
  · intro r selected
    rw [selected, Option.map_some] at image
    obtain ⟨r', selected', same⟩ := Option.map_eq_some_iff.1 image.symm
    have limit := clean.limit r' selected'
    have equal : r'.bare.bootAttemptLimit = r.bare.bootAttemptLimit := by rw [same]
    exact equal.symm.trans limit

variable (core : SimulatorCore)

theorem firstFree_eq : core.firstFree = (erasedSlots core.metadataRecord 16).head? :=
  List.head?_filter.symm

omit core in
theorem usedRecords_sequences (load : Nat → RecordWords) (n : Nat) :
    ((List.range n).filter fun i => !isErasedRecord (load i)).map
      (fun i => (recordSequence (load i)).toNat) = (usedRecords load n).map wordsKey := by
  induction n with
  | zero => rfl
  | succ n ih =>
    rw [usedRecords] at ih ⊢
    rw [List.range_succ, List.filter_append, List.map_append, ih, List.filterMap_append,
      List.map_append]
    by_cases erased : isErasedRecord (load n) = true
    · simp [erased]
    · simp [erased, wordsKey, seqKey, parseRecord, recordSequence]

omit core in
theorem Clean.latestSequence {load : Nat → RecordWords} (clean : Clean load) :
    (((List.range 16).filter fun i => !isErasedRecord (load i)).map
      fun i => (recordSequence (load i)).toNat).foldl max 0 =
        (scanLoadedRecords load 16).latestSequence.toNat := by
  rw [usedRecords_sequences, Selection.foldl_max_key, scan_latestSequence, ← clean.latest]
  generalize Selection.newest wordsKey (usedRecords load 16) = latest
  cases latest <;> rfl

/-- The next sequence follows the latest one of the scan. -/
theorem nextSequence_eq (clean : Clean core.metadataRecord) :
    core.nextSequence = (scanLoadedRecords core.metadataRecord 16).latestSequence.toNat + 1 := by
  rw [← clean.latestSequence, Nat.add_comm]
  rfl

theorem metadataRecord_getElem (index : Nat) {k : Nat} (hk : k < 64) :
    (core.metadataRecord index)[k] = core.flash (slotAStart.toNat + index * 64 + k) :=
  Vector.getElem_ofFn ..

/-- A record stored in its slot. -/
theorem metadataRecord_store (slot : Nat) (record : RecordWords) (i : Nat) :
    ({ core with
      flash := Memory.store core.flash (slotAStart.toNat + slot * 64) record.toList } :
        SimulatorCore).metadataRecord i = writeSlot core.metadataRecord slot record i := by
  apply Vector.ext
  intro k hk
  have len : record.toList.length = 64 := Vector.length_toList
  rw [metadataRecord_getElem _ i hk]
  dsimp only
  by_cases h : i = slot
  · subst h
    rw [writeSlot_self, Memory.store_inside (by omega) (by omega), Nat.add_sub_cancel_left,
      List.getD_eq_getElem?_getD, List.getElem?_eq_getElem (by omega), Option.getD_some,
      Vector.getElem_toList]
  · rw [writeSlot_ne h, Memory.store_outside (by omega), metadataRecord_getElem core i hk]

end SimulatorCore

end BootUpgrade

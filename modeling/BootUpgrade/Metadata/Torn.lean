import BootUpgrade.Metadata.Scan

/-!
# A record whose programming stopped half way

A record is programmed in eight units of eight words. `tornRecord w k` is what
an erased slot holds after the first `k` of them. No torn record of a builder
passes validation unless it is the whole record: below four units a field
check fails on the erased words, from four units on only the record CRC is
missing, and it is there only if it equals the erased words.
-/

namespace BootUpgrade

namespace BootMetadata

/-- An erased slot after the first `units` units of `w` were programmed. -/
def tornRecord (w : RecordWords) (units : Nat) : RecordWords :=
  Vector.ofFn fun i => if (i : Nat) < 8 * units then w[i] else erasedWord

/-- The journal with the words of one slot replaced. -/
def writeSlot (load : Nat → RecordWords) (slot : Nat) (w : RecordWords) : Nat → RecordWords :=
  fun i => if i = slot then w else load i

/-- The words a builder produced, from any arguments. -/
inductive BuiltRecord : RecordWords → Prop
  | imageValid (sequence entryPoint imageSizeWords imageCrc32 : UInt32)
      (appVersionMajor appVersionMinor appVersionPatch : UInt16)
      (appVersionBuild appEnd : UInt32) (targetDeviceId targetCpuId : UInt16) :
      BuiltRecord (buildImageValidRecord sequence entryPoint imageSizeWords imageCrc32
        appVersionMajor appVersionMinor appVersionPatch appVersionBuild appEnd
        targetDeviceId targetCpuId)
  | bootAttempt (sequence : UInt32) (summary : BootMetadataSummary) (count : UInt16) :
      BuiltRecord (buildBootAttemptRecord sequence summary count)
  | appConfirmed (sequence : UInt32) (summary : BootMetadataSummary) :
      BuiltRecord (buildAppConfirmedRecord sequence summary)

theorem BuiltRecord.sealed {w : RecordWords} (h : BuiltRecord w) : ∃ r, w = sealRecord r := by
  cases h <;> exact ⟨_, rfl⟩

/-! ## The words of a torn record -/

section
variable {w : RecordWords} {k i : Nat}

theorem tornRecord_getElem (hi : i < 64) :
    (tornRecord w k)[i] = if i < 8 * k then w[i] else erasedWord := by
  simp [tornRecord]

theorem tornRecord_programmed (hi : i < 64) (h : i < 8 * k) : (tornRecord w k)[i] = w[i] := by
  rw [tornRecord_getElem hi, if_pos h]

theorem tornRecord_fill (hi : i < 64) (h : 8 * k ≤ i) : (tornRecord w k)[i] = erasedWord := by
  rw [tornRecord_getElem hi, if_neg (Nat.not_lt.2 h)]

theorem tornRecord_zero (w : RecordWords) : isErasedRecord (tornRecord w 0) = true := by
  rw [isErasedRecord, Vector.all_eq_true]
  intro i hi
  rw [tornRecord_fill hi (by omega)]
  rfl

theorem tornRecord_eq (w : RecordWords) (h : 8 ≤ k) : tornRecord w k = w := by
  apply Vector.ext
  intro i hi
  rw [tornRecord_programmed hi (by omega)]

end

/-! ## Validation of a torn record -/

section
variable (r : BootMetadataRecord) {k : Nat}

theorem validateRecord_of_fields {w : RecordWords} (h : areAppFieldsValid (parseRecord w) = false) :
    validateRecord w = none := by
  cases hv : validateRecord w with
  | none => rfl
  | some r =>
    obtain ⟨rfl, -, -, -, fields, -⟩ := validateRecord_some hv
    rw [h] at fields
    cases fields

/-- Up to three units: the boot attempt limit is still erased. -/
theorem validateRecord_torn_fields (w : RecordWords) (h : k ≤ 3) :
    validateRecord (tornRecord w k) = none := by
  apply validateRecord_of_fields
  have limit : (parseRecord (tornRecord w k)).bootAttemptLimit = 0xFFFF := by
    simp only [parseRecord]
    rw [tornRecord_fill (by decide) (by omega)]
    rfl
  have excess : (parseRecord (tornRecord w k)).bootAttemptLimit > bootAttemptLimit := by
    rw [limit]; decide
  simp [areAppFieldsValid, excess]

theorem fieldWord_fill {i : Nat} (h : 29 ≤ i) : fieldWord r i = erasedWord := by
  unfold fieldWord
  split <;> first | omega | rfl

/-- From four units on every word but the record CRC is there. -/
theorem tornRecord_body (h : 4 ≤ k) {i : Nat} (hi : i < 62) :
    (tornRecord (sealRecord r) k)[i] = (sealRecord r)[i] := by
  by_cases hp : i < 8 * k
  · exact tornRecord_programmed (by omega) hp
  · rw [tornRecord_fill (by omega) (by omega), sealRecord_getElem r hi, fieldWord_fill r (by omega)]

/-- From four units on: valid only if the record CRC reads as erased words,
and then nothing is missing. -/
theorem validateRecord_torn_body (h : 4 ≤ k) (torn : tornRecord (sealRecord r) k ≠ sealRecord r) :
    validateRecord (tornRecord (sealRecord r) k) = none := by
  cases hv : validateRecord (tornRecord (sealRecord r) k) with
  | none => rfl
  | some v =>
    obtain ⟨-, -, -, -, -, crc⟩ := validateRecord_some hv
    have same : recordCrc (tornRecord (sealRecord r) k) = recordCrc (sealRecord r) :=
      recordCrc_congr fun i hi => tornRecord_body r h hi
    have low : (tornRecord (sealRecord r) k)[62] = (sealRecord r)[62] := by
      rw [sealRecord_crcLow, ← same, ← crc, Words.lowWord_joinU32]
    have high : (tornRecord (sealRecord r) k)[63] = (sealRecord r)[63] := by
      rw [sealRecord_crcHigh, ← same, ← crc, Words.highWord_joinU32]
    refine absurd (Vector.ext fun i hi => ?_) torn
    by_cases hb : i < 62
    · exact tornRecord_body r h hb
    · obtain rfl | rfl : i = 62 ∨ i = 63 := by omega
      · exact low
      · exact high

end

/-- A torn record that is not the whole record is rejected. -/
theorem validateRecord_torn {w : RecordWords} (hw : BuiltRecord w) {k : Nat}
    (torn : tornRecord w k ≠ w) : validateRecord (tornRecord w k) = none := by
  obtain ⟨r, rfl⟩ := hw.sealed
  by_cases h : k ≤ 3
  · exact validateRecord_torn_fields _ h
  · exact validateRecord_torn_body r (by omega) torn

/-! ## The scan of the journal with a torn record -/

theorem validRecords_congr {load load' : Nat → RecordWords} {n : Nat}
    (h : ∀ i < n, validateRecord (load i) = validateRecord (load' i)) :
    validRecords load n = validRecords load' n := by
  induction n with
  | zero => rfl
  | succ n ih =>
    rw [validRecords_succ, validRecords_succ, ih fun i hi => h i (by omega), h n (by omega)]

/-- Overwriting an erased slot with words that are no record changes no valid
record. -/
theorem validRecords_writeSlot {load : Nat → RecordWords} {slot n : Nat} {w : RecordWords}
    (erased : isErasedRecord (load slot) = true) (hw : validateRecord w = none) :
    validRecords (writeSlot load slot w) n = validRecords load n := by
  apply validRecords_congr
  intro i _
  by_cases h : i = slot
  · rw [writeSlot, if_pos h, hw, h, validateRecord_erased erased]
  · rw [writeSlot, if_neg h]

end BootMetadata

/-- What a summary decides: everything but how many slots are erased, valid
and invalid, and whether a scan without an image found anything at all. -/
def BootMetadataSummary.result (s : BootMetadataSummary) : BootMetadataSummary :=
  { s with
    validRecordCount := 0
    invalidRecordCount := 0
    erasedRecordCount := 0
    freeRecordCount := 0
    nextRecordIndex := BootMetadata.invalidIndex
    state :=
      match s.state with
      | .invalid => .empty
      | state => state }

namespace BootMetadata

/-- The slot counts do not take part in the result. -/
theorem result_summarize (load : Nat → RecordWords) (n : Nat) (valid : List BootMetadataRecord) :
    (summarize (slotCounts load n) valid).result = (summarize initSummary valid).result := by
  unfold summarize
  cases hasDuplicate valid with
  | true => cases Selection.newest seqKey valid <;> rfl
  | false =>
    cases currentImage valid with
    | some image => cases Selection.newest seqKey valid <;> rfl
    | none =>
      by_cases empty : (slotCounts load n).validRecordCount = 0 ∧
          (slotCounts load n).invalidRecordCount = 0 <;>
        cases Selection.newest seqKey valid <;>
        simp only [BootMetadataSummary.result, copyLatestToSummary, Bool.false_eq_true, empty,
          if_false] <;>
        rfl

/-- The result depends only on the valid records. -/
theorem result_scanLoadedRecords {load load' : Nat → RecordWords} {n : Nat} (hn : n ≤ 16)
    (h : validRecords load n = validRecords load' n) :
    (scanLoadedRecords load n).result = (scanLoadedRecords load' n).result := by
  rw [scanLoadedRecords_eq load hn, scanLoadedRecords_eq load' hn, h, result_summarize,
    result_summarize]

/-- A journal of erased slots. -/
def blankJournal : Nat → RecordWords := fun _ => Vector.replicate 64 erasedWord

/-- Power loss after any number of units leaves a journal that scans as it did
before the append or as it does after it. -/
theorem torn_append_atomic {load : Nat → RecordWords} {slot : Nat} {w : RecordWords}
    (erased : isErasedRecord (load slot) = true) (hw : BuiltRecord w) (units : Nat) :
    let scan := fun w => (scanLoadedRecords (writeSlot load slot w) 16).result
    (scan (tornRecord w units) = (scanLoadedRecords load 16).result ∨
      scan (tornRecord w units) = scan w) ∧
    (tornRecord w units ≠ w → validateRecord (tornRecord w units) = none) := by
  refine ⟨?_, validateRecord_torn hw⟩
  by_cases whole : tornRecord w units = w
  · exact .inr (by simp only [whole])
  · exact .inl (result_scanLoadedRecords (by decide)
      (validRecords_writeSlot erased (validateRecord_torn hw whole)))

/-- The first IMAGE_VALID record of a blank journal, stopped after three units. -/
theorem torn_append_atomic_blank :
    let w := buildImageValidRecord 1 0x082400 8 0 1 0 0 1 0x082408 BootDevice.f28377d BootDevice.cpu1
    let scan := fun w => (scanLoadedRecords (writeSlot blankJournal 0 w) 16).result
    (scan (tornRecord w 3) = (scanLoadedRecords blankJournal 16).result ∨
      scan (tornRecord w 3) = scan w) ∧
    (tornRecord w 3 ≠ w → validateRecord (tornRecord w 3) = none) :=
  torn_append_atomic (by simp [isErasedRecord, blankJournal]) (.imageValid ..) 3

end BootMetadata

end BootUpgrade

import BootUpgrade.Lib.Selection
import BootUpgrade.Metadata.Record

/-!
# The journal scan of `boot_metadata_scan.c`

`scanLoadedRecords` is the two loops of the source. `scanLoadedRecords_eq`
replaces them by a description of what they compute: the counters are counts
of erased and invalid slots, everything else depends only on the list of valid
records.
-/

namespace BootUpgrade

namespace BootMetadata

/-- `BootMetadata_InitSummary`. -/
def initSummary : BootMetadataSummary where
  state := .empty
  metadataValid := 0
  activeSlot := BootSlot.auto
  hasImageValid := 0
  appConfirmed := 0
  latestRecordType := 0
  validRecordCount := 0
  invalidRecordCount := 0
  erasedRecordCount := 0
  freeRecordCount := 0
  nextRecordIndex := invalidIndex
  latestSequence := 0
  imageValidSequence := 0
  appConfirmedSequence := 0
  appStart := 0
  appEnd := 0
  entryPoint := 0
  imageSizeWords := 0
  imageCrc32 := 0
  appVersionMajor := 0
  appVersionMinor := 0
  appVersionPatch := 0
  appVersionBuild := 0
  targetDeviceId := 0
  targetCpuId := 0
  bootAttemptLimit := bootAttemptLimit
  bootAttemptCount := 0

/-- `BootMetadata_CopyImageToSummary`. -/
def copyImageToSummary (summary : BootMetadataSummary) (record : BootMetadataRecord) :
    BootMetadataSummary :=
  { summary with
    activeSlot := record.slotId
    hasImageValid := 1
    imageValidSequence := record.sequence
    appStart := record.appStart
    appEnd := record.appEnd
    entryPoint := record.entryPoint
    imageSizeWords := record.imageSizeWords
    imageCrc32 := record.imageCrc32
    appVersionMajor := record.appVersionMajor
    appVersionMinor := record.appVersionMinor
    appVersionPatch := record.appVersionPatch
    appVersionBuild := record.appVersionBuild
    targetDeviceId := record.targetDeviceId
    targetCpuId := record.targetCpuId
    bootAttemptLimit := record.bootAttemptLimit }

/-- `(has_best == 0U) || (record.sequence > best.sequence)`, then `best = record`. -/
def replaceIfNewer (best : Option BootMetadataRecord) (record : BootMetadataRecord) :
    Option BootMetadataRecord :=
  match best with
  | none => some record
  | some b => if record.sequence > b.sequence then some record else some b

/-- The locals of the first loop; a record and its `has_` flag are one `Option`. -/
structure ScanLocals where
  summary : BootMetadataSummary
  duplicateSequence : Bool
  sequences : List UInt32
  latestRecord : Option BootMetadataRecord
  imageRecord : Option BootMetadataRecord

def ScanLocals.init : ScanLocals := ⟨initSummary, false, [], none, none⟩

/-- An erased slot: counted, and the first one is where the next record goes. -/
def ScanLocals.erasedSlot (s : ScanLocals) (index : Nat) : ScanLocals :=
  { s with summary := { s.summary with
      erasedRecordCount := s.summary.erasedRecordCount + 1
      freeRecordCount := s.summary.freeRecordCount + 1
      nextRecordIndex :=
        if s.summary.nextRecordIndex = invalidIndex then UInt16.ofNat index
        else s.summary.nextRecordIndex } }

def ScanLocals.invalidSlot (s : ScanLocals) : ScanLocals :=
  { s with summary := { s.summary with
      invalidRecordCount := s.summary.invalidRecordCount + 1 } }

def ScanLocals.validSlot (s : ScanLocals) (record : BootMetadataRecord) : ScanLocals where
  summary := { s.summary with validRecordCount := s.summary.validRecordCount + 1 }
  duplicateSequence := s.duplicateSequence || s.sequences.contains record.sequence
  sequences := if s.sequences.length < 16 then s.sequences ++ [record.sequence] else s.sequences
  latestRecord := replaceIfNewer s.latestRecord record
  imageRecord :=
    if record.recordType = recordImageValid then replaceIfNewer s.imageRecord record
    else s.imageRecord

/-- The body of the first loop. -/
def scanSlot (load : Nat → RecordWords) (s : ScanLocals) (index : Nat) : ScanLocals :=
  if isErasedRecord (load index) then s.erasedSlot index
  else
    match validateRecord (load index) with
    | none => s.invalidSlot
    | some record => s.validSlot record

/-- The body of the second loop on a valid record, with `has_confirm`. -/
def bindRecord (image : BootMetadataRecord) (s : BootMetadataSummary × Bool)
    (record : BootMetadataRecord) : BootMetadataSummary × Bool :=
  if record.sequence ≤ image.sequence then s
  else if recordMatchesImage record image = false then s
  else if record.recordType = recordBootAttempt then
    ({ s.1 with bootAttemptCount := s.1.bootAttemptCount + 1 }, s.2)
  else if record.recordType = recordAppConfirmed ∧
      (s.2 = false ∨ record.sequence > s.1.appConfirmedSequence) then
    ({ s.1 with appConfirmed := 1, appConfirmedSequence := record.sequence }, true)
  else s

def bindSlot (load : Nat → RecordWords) (image : BootMetadataRecord)
    (s : BootMetadataSummary × Bool) (index : Nat) : BootMetadataSummary × Bool :=
  match validateRecord (load index) with
  | none => s
  | some record => bindRecord image s record

/-- `if (has_latest != 0U)` and its body. -/
def copyLatestToSummary (summary : BootMetadataSummary) (latest : Option BootMetadataRecord) :
    BootMetadataSummary :=
  match latest with
  | none => summary
  | some r => { summary with latestSequence := r.sequence, latestRecordType := r.recordType }

/-- `BootMetadata_ScanLoadedRecords` after the first loop. -/
def finishScan (load : Nat → RecordWords) (count : Nat) (s : ScanLocals) : BootMetadataSummary :=
  let summary := copyLatestToSummary s.summary s.latestRecord
  if s.duplicateSequence then { summary with state := .duplicateSequence, metadataValid := 0 }
  else
    match s.imageRecord with
    | none =>
      { summary with
        state :=
          if summary.validRecordCount = 0 ∧ summary.invalidRecordCount = 0 then .empty
          else .invalid }
    | some image =>
      let bound := (List.range count).foldl (bindSlot load image)
        (copyImageToSummary summary image, false)
      { bound.1 with metadataValid := 1, state := .valid }

/-- `BootMetadata_ScanLoadedRecords`. -/
def scanLoadedRecords (load : Nat → RecordWords) (recordCount : Nat) : BootMetadataSummary :=
  let count := if recordCount > 16 then 16 else recordCount
  finishScan load count ((List.range count).foldl (scanSlot load) .init)

/-- `BootMetadata_LoadFlashRecord`; `readWord` is `BOOT_FLASH_READ_WORD`. -/
def loadFlashRecord (readWord : UInt32 → UInt16) (metadataStart : UInt32) (recordIndex : Nat) :
    RecordWords :=
  Vector.ofFn fun i =>
    readWord (metadataStart + UInt32.ofNat recordIndex * recordWords + UInt32.ofNat i)

/-- `BootMetadata_ScanFlashRecords`. -/
def scanFlashRecords (readWord : UInt32 → UInt16) (metadataStart : UInt32) :
    BootMetadataSummary :=
  scanLoadedRecords (loadFlashRecord readWord metadataStart) 16

/-- `BootMetadataSummary_ToPayload`. -/
def summaryToPayload (summary : BootMetadataSummary) : List UInt16 :=
  [summary.metadataValid, summary.activeSlot, summary.latestRecordType,
    summary.bootAttemptCount, summary.appConfirmed, summary.bootAttemptLimit,
    summary.appVersionMajor, summary.appVersionMinor, summary.appVersionPatch,
    lowWord summary.appVersionBuild, highWord summary.appVersionBuild,
    lowWord summary.entryPoint, highWord summary.entryPoint,
    lowWord summary.imageCrc32, highWord summary.imageCrc32,
    match summary.state with
    | .empty => 0
    | .valid => 1
    | .invalid => 2
    | .duplicateSequence => 3,
    summary.validRecordCount, summary.invalidRecordCount, summary.erasedRecordCount,
    summary.freeRecordCount, summary.nextRecordIndex,
    lowWord summary.imageSizeWords, highWord summary.imageSizeWords,
    summary.targetDeviceId, summary.targetCpuId]

/-! ## What the scan computes -/

/-- The valid records, in slot order. -/
def validRecords (load : Nat → RecordWords) (count : Nat) : List BootMetadataRecord :=
  (List.range count).filterMap fun i => validateRecord (load i)

def erasedSlots (load : Nat → RecordWords) (count : Nat) : List Nat :=
  (List.range count).filter fun i => isErasedRecord (load i)

/-- The slots that hold neither an erased nor a valid record. -/
def invalidSlots (load : Nat → RecordWords) (count : Nat) : List Nat :=
  (List.range count).filter fun i =>
    !isErasedRecord (load i) && (validateRecord (load i)).isNone

def seqKey (r : BootMetadataRecord) : Nat := r.sequence.toNat

def isImage (r : BootMetadataRecord) : Bool := r.recordType == recordImageValid

/-- The image the scan selects among the valid records. -/
def currentImage (valid : List BootMetadataRecord) : Option BootMetadataRecord :=
  Selection.newest seqKey (valid.filter isImage)

/-- The records that count for `image`: newer than it and of the same identity. -/
def boundRecords (image : BootMetadataRecord) (valid : List BootMetadataRecord) :
    List BootMetadataRecord :=
  valid.filter fun r => decide (image.sequence < r.sequence) && recordMatchesImage r image

def attempts (image : BootMetadataRecord) (valid : List BootMetadataRecord) : Nat :=
  (boundRecords image valid).countP (·.recordType == recordBootAttempt)

def confirmations (image : BootMetadataRecord) (valid : List BootMetadataRecord) :
    List BootMetadataRecord :=
  (boundRecords image valid).filter (·.recordType == recordAppConfirmed)

def hasDuplicate (valid : List BootMetadataRecord) : Bool :=
  !decide (valid.map (·.sequence)).Nodup

theorem replaceIfNewer_eq (best : Option BootMetadataRecord) (r : BootMetadataRecord) :
    replaceIfNewer best r = Selection.newer seqKey best r := by
  cases best with
  | none => rfl
  | some b =>
    by_cases h : b.sequence.toNat < r.sequence.toNat <;>
      simp [replaceIfNewer, Selection.newer, seqKey, UInt32.lt_iff_toNat_lt, h]

theorem validRecords_succ (load : Nat → RecordWords) (n : Nat) :
    validRecords load (n + 1) = validRecords load n ++ (validateRecord (load n)).toList := by
  rw [validRecords, List.range_succ, List.filterMap_append]
  simp only [List.filterMap_cons, List.filterMap_nil, validRecords]
  cases validateRecord (load n) <;> rfl

theorem length_validRecords_le (load : Nat → RecordWords) (n : Nat) :
    (validRecords load n).length ≤ n := by
  have := List.length_filterMap_le (fun i => validateRecord (load i)) (List.range n)
  simpa [validRecords] using this

/-- Where the next record goes. -/
def nextIndex (erased : List Nat) : UInt16 :=
  match erased.head? with
  | none => invalidIndex
  | some i => UInt16.ofNat i

/-- The summary counters after `n` slots. -/
def slotCounts (load : Nat → RecordWords) (n : Nat) : BootMetadataSummary :=
  { initSummary with
    validRecordCount := UInt16.ofNat (validRecords load n).length
    invalidRecordCount := UInt16.ofNat (invalidSlots load n).length
    erasedRecordCount := UInt16.ofNat (erasedSlots load n).length
    freeRecordCount := UInt16.ofNat (erasedSlots load n).length
    nextRecordIndex := nextIndex (erasedSlots load n) }

/-- The locals of the first loop after `n` slots. -/
def scanned (load : Nat → RecordWords) (n : Nat) : ScanLocals where
  summary := slotCounts load n
  duplicateSequence := hasDuplicate (validRecords load n)
  sequences := (validRecords load n).map (·.sequence)
  latestRecord := Selection.newest seqKey (validRecords load n)
  imageRecord := currentImage (validRecords load n)

theorem hasDuplicate_append (valid : List BootMetadataRecord) (r : BootMetadataRecord) :
    hasDuplicate (valid ++ [r]) =
      (hasDuplicate valid || (valid.map (·.sequence)).contains r.sequence) := by
  simp only [hasDuplicate, List.map_append, List.map_cons, List.map_nil, List.nodup_append]
  by_cases hd : (valid.map (·.sequence)).Nodup <;>
    by_cases hm : r.sequence ∈ valid.map (·.sequence) <;> simp_all

theorem currentImage_append (valid : List BootMetadataRecord) (r : BootMetadataRecord) :
    currentImage (valid ++ [r]) =
      if r.recordType = recordImageValid then replaceIfNewer (currentImage valid) r
      else currentImage valid := by
  by_cases h : r.recordType = recordImageValid
  · have hr : isImage r = true := by simpa [isImage] using h
    rw [if_pos h, replaceIfNewer_eq, currentImage, List.filter_append,
      List.filter_cons_of_pos hr, List.filter_nil, Selection.newest_append_singleton, currentImage]
  · have hr : ¬ isImage r = true := by simpa [isImage] using h
    rw [if_neg h, currentImage, List.filter_append, List.filter_cons_of_neg hr, List.filter_nil,
      List.append_nil, currentImage]

section
variable {load : Nat → RecordWords} {n : Nat}

theorem mem_erasedSlots {i : Nat} :
    i ∈ erasedSlots load n ↔ i < n ∧ isErasedRecord (load i) = true := by
  simp [erasedSlots]

/-- The `next_record_index` update of the loop body. -/
theorem nextIndex_append (hn : n < 16) :
    (if nextIndex (erasedSlots load n) = invalidIndex then UInt16.ofNat n
      else nextIndex (erasedSlots load n)) = nextIndex (erasedSlots load n ++ [n]) := by
  cases he : erasedSlots load n with
  | nil => rfl
  | cons i is =>
    have hm : i ∈ erasedSlots load n := by rw [he]; exact List.mem_cons_self
    have hi : i < n := (mem_erasedSlots.1 hm).1
    have small : (UInt16.ofNat i).toNat ≠ invalidIndex.toNat := by
      simp [invalidIndex]; omega
    have index : UInt16.ofNat i ≠ invalidIndex := fun h => small (by rw [h])
    simp [nextIndex, index]

theorem scanned_erased (hn : n < 16) (he : isErasedRecord (load n) = true) :
    (scanned load n).erasedSlot n = scanned load (n + 1) := by
  have hv : validRecords load (n + 1) = validRecords load n := by
    rw [validRecords_succ, validateRecord_erased he]; simp
  have hi : invalidSlots load (n + 1) = invalidSlots load n := by
    simp [invalidSlots, List.range_succ, he]
  have hs : erasedSlots load (n + 1) = erasedSlots load n ++ [n] := by
    simp [erasedSlots, List.range_succ, he]
  simp only [ScanLocals.erasedSlot, scanned, slotCounts, hv, hi, hs, ← nextIndex_append hn,
    List.length_append, List.length_singleton, UInt16.ofNat_add]
  rfl

theorem scanned_invalid (he : isErasedRecord (load n) = false)
    (hv : validateRecord (load n) = none) :
    (scanned load n).invalidSlot = scanned load (n + 1) := by
  have hr : validRecords load (n + 1) = validRecords load n := by
    rw [validRecords_succ, hv]; simp
  have hi : invalidSlots load (n + 1) = invalidSlots load n ++ [n] := by
    simp [invalidSlots, List.range_succ, he, hv]
  have hs : erasedSlots load (n + 1) = erasedSlots load n := by
    simp [erasedSlots, List.range_succ, he]
  simp only [ScanLocals.invalidSlot, scanned, slotCounts, hr, hi, hs, List.length_append,
    List.length_singleton, UInt16.ofNat_add]
  rfl

theorem scanned_valid {r : BootMetadataRecord} (hn : n < 16)
    (hv : validateRecord (load n) = some r) :
    (scanned load n).validSlot r = scanned load (n + 1) := by
  have he := (validateRecord_some hv).2.1
  have hr : validRecords load (n + 1) = validRecords load n ++ [r] := by
    rw [validRecords_succ, hv]; simp
  have hi : invalidSlots load (n + 1) = invalidSlots load n := by
    simp [invalidSlots, List.range_succ, he, hv]
  have hs : erasedSlots load (n + 1) = erasedSlots load n := by
    simp [erasedSlots, List.range_succ, he]
  have len : (validRecords load n).length < 16 :=
    Nat.lt_of_le_of_lt (length_validRecords_le load n) hn
  simp only [ScanLocals.validSlot, scanned, slotCounts, hr, hi, hs, len, if_true,
    hasDuplicate_append, currentImage_append, replaceIfNewer_eq,
    Selection.newest_append_singleton, List.length_append, List.length_singleton,
    List.length_map, UInt16.ofNat_add, List.map_append, List.map_cons, List.map_nil]
  rfl

end

/-- The first loop computes `scanned`. -/
theorem foldl_scanSlot (load : Nat → RecordWords) {n : Nat} (hn : n ≤ 16) :
    (List.range n).foldl (scanSlot load) .init = scanned load n := by
  induction n with
  | zero => rfl
  | succ n ih =>
    rw [List.range_succ, List.foldl_append, ih (by omega), List.foldl_cons, List.foldl_nil,
      scanSlot]
    cases he : isErasedRecord (load n) with
    | true => exact scanned_erased (by omega) he
    | false =>
      cases hv : validateRecord (load n) with
      | none => exact scanned_invalid he hv
      | some r => exact scanned_valid (by omega) hv

/-! ## The second loop -/

/-- The sequence a scan keeps, which starts as zero. -/
def sequenceOf (best : Option BootMetadataRecord) : UInt32 :=
  match best with
  | none => 0
  | some r => r.sequence

/-- The second loop's result on the valid records of the slots it has read. -/
def bound (image : BootMetadataRecord) (summary : BootMetadataSummary)
    (valid : List BootMetadataRecord) : BootMetadataSummary × Bool :=
  ({ summary with
      bootAttemptCount := UInt16.ofNat (attempts image valid)
      appConfirmed := if (confirmations image valid).isEmpty then 0 else 1
      appConfirmedSequence :=
        sequenceOf (Selection.newest seqKey (confirmations image valid)) },
    !(confirmations image valid).isEmpty)

section
variable (image : BootMetadataRecord) (summary : BootMetadataSummary)
  (valid : List BootMetadataRecord) (r : BootMetadataRecord)

/-- A record counts for `image`. -/
def isBound : Bool := decide (image.sequence < r.sequence) && recordMatchesImage r image

theorem attempts_append : attempts image (valid ++ [r]) =
    attempts image valid + if isBound image r ∧ r.recordType = recordBootAttempt then 1 else 0 := by
  by_cases hb : isBound image r = true <;> by_cases ht : r.recordType = recordBootAttempt <;>
    simp_all [attempts, boundRecords, isBound]

theorem confirmations_append : confirmations image (valid ++ [r]) =
    confirmations image valid ++
      if isBound image r ∧ r.recordType = recordAppConfirmed then [r] else [] := by
  by_cases hb : isBound image r = true <;> by_cases ht : r.recordType = recordAppConfirmed <;>
    simp_all [confirmations, boundRecords, isBound]

/-- A record that is neither a bound attempt nor a bound confirmation does not
affect the summary. -/
theorem bound_append_other
    (h : ¬ (isBound image r ∧
      (r.recordType = recordBootAttempt ∨ r.recordType = recordAppConfirmed))) :
    bound image summary (valid ++ [r]) = bound image summary valid := by
  have ha : ¬ (isBound image r ∧ r.recordType = recordBootAttempt) := fun x => h ⟨x.1, .inl x.2⟩
  have hc : ¬ (isBound image r ∧ r.recordType = recordAppConfirmed) := fun x => h ⟨x.1, .inr x.2⟩
  simp only [bound, attempts_append, confirmations_append, ha, hc, if_false, List.append_nil,
    Nat.add_zero]

theorem bound_append_attempt (hb : isBound image r = true)
    (ht : r.recordType = recordBootAttempt) :
    bound image summary (valid ++ [r]) =
      ({ (bound image summary valid).1 with
          bootAttemptCount := (bound image summary valid).1.bootAttemptCount + 1 },
        (bound image summary valid).2) := by
  have other : recordBootAttempt ≠ recordAppConfirmed := by decide
  simp only [bound, attempts_append, confirmations_append, hb, ht, other, true_and, if_true, if_false,
    List.append_nil, UInt16.ofNat_add]
  rfl

theorem bound_append_confirmed (hb : isBound image r = true)
    (ht : r.recordType = recordAppConfirmed) :
    bound image summary (valid ++ [r]) =
      if (bound image summary valid).2 = false ∨
          r.sequence > (bound image summary valid).1.appConfirmedSequence then
        ({ (bound image summary valid).1 with
            appConfirmed := 1, appConfirmedSequence := r.sequence }, true)
      else bound image summary valid := by
  have other : recordAppConfirmed ≠ recordBootAttempt := by decide
  have count : attempts image (valid ++ [r]) = attempts image valid := by
    simp [attempts_append, ht, other]
  have last : confirmations image (valid ++ [r]) = confirmations image valid ++ [r] := by
    simp [confirmations_append, hb, ht]
  cases hn : Selection.newest seqKey (confirmations image valid) with
  | none =>
    have none := (Selection.newest_eq_none seqKey).1 hn
    simp [bound, count, last, none, Selection.newest, Selection.newer, sequenceOf]
  | some c =>
    have live : confirmations image valid ≠ [] := fun h => by rw [h] at hn; cases hn
    have live' : (confirmations image valid).isEmpty = false := by simpa using live
    have longer : (confirmations image valid ++ [r]).isEmpty = false := by simp
    by_cases hlt : c.sequence < r.sequence
    · have key : seqKey c < seqKey r := UInt32.lt_iff_toNat_lt.1 hlt
      simp [bound, count, last, Selection.newest_append_singleton, hn, live', longer, hlt,
        Selection.newer, key, sequenceOf]
    · have key : ¬ seqKey c < seqKey r := fun h => hlt (UInt32.lt_iff_toNat_lt.2 h)
      simp [bound, count, last, Selection.newest_append_singleton, hn, live', longer, hlt,
        Selection.newer, key, sequenceOf]

/-- One pass through the body of the second loop. -/
theorem bindRecord_bound :
    bindRecord image (bound image summary valid) r = bound image summary (valid ++ [r]) := by
  have unbound : ∀ h : isBound image r ≠ true,
      bound image summary (valid ++ [r]) = bound image summary valid := fun h =>
    bound_append_other image summary valid r fun x => h x.1
  rw [bindRecord]
  split
  · rename_i old
    rw [unbound (by simp [isBound, UInt32.not_lt.2 old])]
  split
  · rename_i other
    rw [unbound (by simp [isBound, other])]
  rename_i newer match'
  have hb : isBound image r = true := by
    simpa [isBound] using And.intro (UInt32.not_le.1 newer) match'
  split
  · rename_i ht
    rw [bound_append_attempt image summary valid r hb ht]
  rename_i notAttempt
  by_cases ht : r.recordType = recordAppConfirmed
  · rw [bound_append_confirmed image summary valid r hb ht]
    simp only [ht, true_and]
  · rw [if_neg (fun x => ht x.1), bound_append_other image summary valid r]
    rintro ⟨-, h | h⟩
    · exact notAttempt h
    · exact ht h

theorem foldl_bindSlot (load : Nat → RecordWords) (n : Nat) 
    (start : summary = (bound image summary []).1) :
    (List.range n).foldl (bindSlot load image) (summary, false) =
      bound image summary (validRecords load n) := by
  induction n with
  | zero => 
    rw [List.range_zero, List.foldl_nil]
    exact Prod.ext start rfl
  | succ n ih =>
    rw [List.range_succ, List.foldl_append, ih, List.foldl_cons, List.foldl_nil, bindSlot,
      validRecords_succ]
    cases hv : validateRecord (load n) with
    | none => simp
    | some r => exact bindRecord_bound image summary _ r

end

/-! ## The scan as a function of the valid records -/

/-- The summary, from the slot counts and the valid records. -/
def summarize (counts : BootMetadataSummary) (valid : List BootMetadataRecord) :
    BootMetadataSummary :=
  let summary := copyLatestToSummary counts (Selection.newest seqKey valid)
  if hasDuplicate valid then { summary with state := .duplicateSequence, metadataValid := 0 }
  else
    match currentImage valid with
    | none =>
      { summary with
        state :=
          if summary.validRecordCount = 0 ∧ summary.invalidRecordCount = 0 then .empty
          else .invalid }
    | some image =>
      { (bound image (copyImageToSummary summary image) valid).1 with
        metadataValid := 1, state := .valid }

theorem scanLoadedRecords_eq (load : Nat → RecordWords) {n : Nat} (hn : n ≤ 16) :
    scanLoadedRecords load n = summarize (slotCounts load n) (validRecords load n) := by
  rw [scanLoadedRecords, if_neg (Nat.not_lt.2 hn)]
  simp only [foldl_scanSlot load hn, finishScan, summarize, scanned]
  cases currentImage (validRecords load n) with
  | none => rfl
  | some image =>
    -- the attempt and confirmation fields are still zero when the second loop starts
    have start : ∀ latest summary,
        summary = copyImageToSummary (copyLatestToSummary (slotCounts load n) latest) image →
        summary = (bound image summary []).1 := by
      rintro (- | latest) _ rfl <;> rfl
    simp only [foldl_bindSlot image _ load n (start _ _ rfl)]

end BootMetadata

end BootUpgrade

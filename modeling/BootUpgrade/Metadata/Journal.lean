import BootUpgrade.Metadata.Torn

/-!
# Appending to the journal

The journal invariant and what one more record does to it. A record goes into
the first erased slot; everything behind that slot is erased too, so a record
that was written completely becomes the last valid one and a torn one changes
nothing.
-/

namespace BootUpgrade.BootMetadata

/-! ## Reading a summary back -/

/-- The summary of a scan that has selected `image`. -/
def selectedSummary (counts : BootMetadataSummary) (valid : List BootMetadataRecord)
    (image : BootMetadataRecord) : BootMetadataSummary :=
  { (bound image (copyImageToSummary
      (copyLatestToSummary counts (Selection.newest seqKey valid)) image) valid).1 with
    metadataValid := 1, state := .valid }

section
variable {counts : BootMetadataSummary} {valid : List BootMetadataRecord}
  {image r : BootMetadataRecord}

theorem summarize_selected (single : hasDuplicate valid = false)
    (selected : currentImage valid = some image) :
    summarize counts valid = selectedSummary counts valid image := by
  simp [summarize, single, selected, selectedSummary]

theorem copyLatestToSummary_metadataValid (s : BootMetadataSummary)
    (latest : Option BootMetadataRecord) :
    (copyLatestToSummary s latest).metadataValid = s.metadataValid := by
  cases latest <;> rfl

/-- A scan reports valid metadata exactly when it has selected an image and
seen no sequence twice. -/
theorem summarize_metadataValid (hc : counts.metadataValid = 0)
    (h : (summarize counts valid).metadataValid ≠ 0) :
    hasDuplicate valid = false ∧ ∃ image, currentImage valid = some image := by
  cases hd : hasDuplicate valid with
  | true => simp [summarize, hd] at h
  | false =>
    cases hi : currentImage valid with
    | none => simp [summarize, hd, hi, copyLatestToSummary_metadataValid, hc] at h
    | some image => exact ⟨rfl, image, rfl⟩

theorem summarize_state : (summarize counts valid).state = .duplicateSequence ↔
    hasDuplicate valid = true := by
  cases hd : hasDuplicate valid with
  | true => simp [summarize, hd]
  | false =>
    cases hi : currentImage valid with
    | none => simp only [summarize, hd, hi, Bool.false_eq_true, if_false, iff_false]; split <;> simp
    | some image => simp [summarize, hd, hi]

theorem currentImage_spec (h : currentImage valid = some image) :
    image ∈ valid ∧ image.recordType = recordImageValid ∧
      ∀ r ∈ valid, r.recordType = recordImageValid → r.sequence.toNat ≤ image.sequence.toNat := by
  obtain ⟨mem, le⟩ := Selection.newest_spec seqKey h
  rw [List.mem_filter] at mem
  refine ⟨mem.1, by simpa [isImage] using mem.2, fun r hr ht => ?_⟩
  exact le r (List.mem_filter.2 ⟨hr, by simpa [isImage] using ht⟩)

/-! ## One more record -/

/-- `r` is newer than every record so far. -/
def Newer (r : BootMetadataRecord) (valid : List BootMetadataRecord) : Prop :=
  ∀ v ∈ valid, v.sequence < r.sequence

theorem currentImage_append_image (ht : r.recordType = recordImageValid) (newer : Newer r valid) :
    currentImage (valid ++ [r]) = some r := by
  have hr : isImage r = true := by simpa [isImage] using ht
  rw [currentImage, List.filter_append, List.filter_cons_of_pos hr, List.filter_nil]
  apply Selection.newest_concat
  intro v hv
  exact UInt32.lt_iff_toNat_lt.1 (newer v (List.mem_filter.1 hv).1)

theorem currentImage_append_other (ht : r.recordType ≠ recordImageValid) :
    currentImage (valid ++ [r]) = currentImage valid := by
  rw [currentImage_append, if_neg ht]

theorem boundRecords_append_image (newer : Newer r valid) : boundRecords r (valid ++ [r]) = [] := by
  rw [boundRecords, List.filter_eq_nil_iff]
  intro v hv
  rcases List.mem_append.1 hv with hv | hv
  · simp [UInt32.lt_asymm (newer v hv)]
  · obtain rfl := List.mem_singleton.1 hv
    simp

theorem newest_append (newer : Newer r valid) : Selection.newest seqKey (valid ++ [r]) = some r := by
  apply Selection.newest_concat
  exact fun v hv => UInt32.lt_iff_toNat_lt.1 (newer v hv)

theorem hasDuplicate_append_newer (single : hasDuplicate valid = false) (newer : Newer r valid) :
    hasDuplicate (valid ++ [r]) = false := by
  rw [hasDuplicate_append, single, Bool.false_or]
  by_cases h : (valid.map (·.sequence)).contains r.sequence = true
  · simp only [List.contains_iff_mem, List.mem_map] at h
    obtain ⟨v, hv, he⟩ := h
    exact absurd (newer v hv) (by rw [he]; simp)
  · simpa using h

end

/-! ## The next slot -/

section
variable {load : Nat → RecordWords} {slot n : Nat} {w : RecordWords} {r : BootMetadataRecord}

theorem summarize_nextRecordIndex (counts : BootMetadataSummary)
    (valid : List BootMetadataRecord) :
    (summarize counts valid).nextRecordIndex = counts.nextRecordIndex := by
  have latest : ∀ best, (copyLatestToSummary counts best).nextRecordIndex =
      counts.nextRecordIndex := by
    rintro (- | best) <;> rfl
  unfold summarize
  cases hasDuplicate valid with
  | true => exact latest _
  | false => cases currentImage valid <;> exact latest _

theorem scan_nextRecordIndex (load : Nat → RecordWords) :
    (scanLoadedRecords load 16).nextRecordIndex = nextIndex (erasedSlots load 16) := by
  rw [scanLoadedRecords_eq load (Nat.le_refl 16), summarize_nextRecordIndex, slotCounts]

/-- `next_record_index` is the first erased slot. -/
theorem nextRecordIndex_spec (h : (scanLoadedRecords load 16).nextRecordIndex ≠ invalidIndex) :
    ∃ slot < 16, (scanLoadedRecords load 16).nextRecordIndex = UInt16.ofNat slot ∧
      isErasedRecord (load slot) = true ∧ ∀ i < slot, isErasedRecord (load i) = false := by
  rw [scan_nextRecordIndex] at h ⊢
  have head : (erasedSlots load 16).head? = (List.range 16).find? fun i => isErasedRecord (load i) :=
    List.head?_filter ..
  simp only [nextIndex, head] at h ⊢
  cases hf : (List.range 16).find? fun i => isErasedRecord (load i) with
  | none => rw [hf] at h; exact absurd rfl h
  | some slot =>
    obtain ⟨erased, mem, before⟩ := List.find?_range_eq_some.1 hf
    exact ⟨slot, List.mem_range.1 mem, rfl, erased, fun i hi => by simpa using before i hi⟩

theorem validRecords_erased_tail (hn : slot ≤ n)
    (erased : ∀ i, slot ≤ i → i < n → isErasedRecord (load i) = true) :
    validRecords load n = validRecords load slot := by
  induction n with
  | zero => rw [Nat.le_zero.1 hn]
  | succ n ih =>
    by_cases h : slot = n + 1
    · rw [h]
    · have hn : slot ≤ n := by omega
      rw [validRecords_succ, ih hn fun i hi hin => erased i hi (by omega),
        validateRecord_erased (erased n hn (by omega))]
      simp

theorem writeSlot_self : writeSlot load slot w slot = w := if_pos rfl

theorem writeSlot_ne {i : Nat} (h : i ≠ slot) : writeSlot load slot w i = load i := if_neg h

/-- A valid record in the first of the erased slots is the last valid record. -/
theorem validRecords_append (hs : slot < n)
    (erased : ∀ i, slot ≤ i → i < n → isErasedRecord (load i) = true)
    (hw : validateRecord w = some r) :
    validRecords (writeSlot load slot w) n = validRecords load n ++ [r] := by
  have tail : ∀ i, slot + 1 ≤ i → i < n →
      isErasedRecord (writeSlot load slot w i) = true := fun i hi hin => by
    rw [writeSlot_ne (by omega)]
    exact erased i (by omega) hin
  have before : validRecords (writeSlot load slot w) slot = validRecords load slot :=
    validRecords_congr fun i hi => by rw [writeSlot_ne (by omega)]
  rw [validRecords_erased_tail hs tail, validRecords_erased_tail (by omega) erased,
    validRecords_succ, writeSlot_self, hw, before]
  rfl

end

/-! ## The journal invariant -/

/-- The journal of a device that has only ever appended to it. -/
structure JournalInvariant (load : Nat → RecordWords) : Prop where
  filled : ∃ used ≤ 16, ∀ i < 16, isErasedRecord (load i) = true ↔ used ≤ i
  ascending : (validRecords load 16).Pairwise fun a b => a.sequence < b.sequence
  bounded : ∀ r ∈ validRecords load 16, r.sequence.toNat ≤ (validRecords load 16).length
  limit : ∀ image, currentImage (validRecords load 16) = some image →
    attempts image (validRecords load 16) ≤ image.bootAttemptLimit.toNat
  confirmed : ∀ image, currentImage (validRecords load 16) = some image →
    confirmations image (validRecords load 16) ≠ [] → attempts image (validRecords load 16) ≠ 0

/-- The scan reads sixteen slots. -/
theorem scan_congr {load load' : Nat → RecordWords} (h : ∀ i < 16, load i = load' i) :
    scanLoadedRecords load 16 = scanLoadedRecords load' 16 := by
  have filtered : ∀ p : RecordWords → Bool,
      (List.range 16).filter (fun i => p (load i)) =
        (List.range 16).filter fun i => p (load' i) := by
    intro p
    apply List.filter_congr
    intro i hi
    rw [h i (List.mem_range.1 hi)]
  have valid : validRecords load 16 = validRecords load' 16 :=
    validRecords_congr fun i hi => by rw [h i hi]
  have erased : erasedSlots load 16 = erasedSlots load' 16 := filtered isErasedRecord
  have invalid : invalidSlots load 16 = invalidSlots load' 16 :=
    filtered fun w => !isErasedRecord w && (validateRecord w).isNone
  rw [scanLoadedRecords_eq load (Nat.le_refl 16), scanLoadedRecords_eq load' (Nat.le_refl 16)]
  simp only [slotCounts, valid, erased, invalid]

/-- So does the invariant. -/
theorem journalInvariant_congr {load load' : Nat → RecordWords} (h : ∀ i < 16, load i = load' i)
    (inv : JournalInvariant load) : JournalInvariant load' := by
  have same : validRecords load' 16 = validRecords load 16 :=
    validRecords_congr fun i hi => by rw [h i hi]
  obtain ⟨used, le, filled⟩ := inv.filled
  refine ⟨⟨used, le, fun i hi => by rw [← h i hi]; exact filled i hi⟩, ?_, ?_, ?_, ?_⟩ <;> rw [same]
  · exact inv.ascending
  · exact inv.bounded
  · exact inv.limit
  · exact inv.confirmed

theorem journalInvariant_blank {load : Nat → RecordWords}
    (h : ∀ i < 16, isErasedRecord (load i) = true) : JournalInvariant load := by
  have none : validRecords load 16 = [] := by
    rw [validRecords_erased_tail (Nat.zero_le 16) fun i _ hi => h i hi]
    rfl
  refine ⟨⟨0, by omega, fun i hi => by simp [h i hi]⟩, ?_, ?_, ?_, ?_⟩ <;> rw [none]
  · exact List.Pairwise.nil
  · simp
  · simp [currentImage]
  · simp [currentImage]

section
variable {load : Nat → RecordWords} {slot : Nat} {w : RecordWords} {r : BootMetadataRecord}

namespace JournalInvariant

/-- Behind the first erased slot every slot is erased. -/
theorem erased_tail (inv : JournalInvariant load) (erased : isErasedRecord (load slot) = true)
    (hs : slot < 16) : ∀ i, slot ≤ i → i < 16 → isErasedRecord (load i) = true := by
  obtain ⟨used, -, filled⟩ := inv.filled
  intro i hi hin
  have := (filled slot hs).1 erased
  exact (filled i hin).2 (by omega)

theorem filled_append (inv : JournalInvariant load) (hs : slot < 16)
    (erased : isErasedRecord (load slot) = true)
    (first : ∀ i < slot, isErasedRecord (load i) = false) :
    ∃ used ≤ 16, ∀ i < 16, isErasedRecord (writeSlot load slot w i) = true ↔ used ≤ i := by
  have tail := inv.erased_tail erased hs
  have others : ∀ i < 16, i ≠ slot → (isErasedRecord (writeSlot load slot w i) = true ↔ slot ≤ i) := by
    intro i hi hne
    rw [writeSlot_ne hne]
    constructor
    · intro h
      by_cases hlt : i < slot
      · rw [first i hlt] at h; cases h
      · omega
    · exact fun h => tail i h hi
  cases hw : isErasedRecord w with
  | true =>
    refine ⟨slot, by omega, fun i hi => ?_⟩
    by_cases hne : i = slot
    · rw [hne, writeSlot_self, hw]; simp
    · exact others i hi hne
  | false =>
    refine ⟨slot + 1, by omega, fun i hi => ?_⟩
    by_cases hne : i = slot
    · rw [hne, writeSlot_self, hw]; simp
    · rw [others i hi hne]; omega

/-- A slot that holds no valid record changes nothing else. -/
theorem append_invalid (inv : JournalInvariant load) (hs : slot < 16)
    (erased : isErasedRecord (load slot) = true)
    (first : ∀ i < slot, isErasedRecord (load i) = false) (hw : validateRecord w = none) :
    JournalInvariant (writeSlot load slot w) := by
  have same := validRecords_writeSlot (n := 16) erased hw
  refine ⟨inv.filled_append hs erased first, ?_, ?_, ?_, ?_⟩ <;> rw [same]
  · exact inv.ascending
  · exact inv.bounded
  · exact inv.limit
  · exact inv.confirmed

/-- A valid record, the newest and numbered without a gap, keeps the invariant
if the attempts and confirmations of the image it leaves current are in order. -/
theorem append_valid (inv : JournalInvariant load) (hs : slot < 16)
    (erased : isErasedRecord (load slot) = true)
    (first : ∀ i < slot, isErasedRecord (load i) = false) (hw : validateRecord w = some r)
    (newer : Newer r (validRecords load 16))
    (bounded : r.sequence.toNat ≤ (validRecords load 16).length + 1)
    (limit : ∀ image, currentImage (validRecords load 16 ++ [r]) = some image →
      attempts image (validRecords load 16 ++ [r]) ≤ image.bootAttemptLimit.toNat)
    (confirmed : ∀ image, currentImage (validRecords load 16 ++ [r]) = some image →
      confirmations image (validRecords load 16 ++ [r]) ≠ [] →
      attempts image (validRecords load 16 ++ [r]) ≠ 0) :
    JournalInvariant (writeSlot load slot w) := by
  have longer := validRecords_append hs (inv.erased_tail erased hs) hw
  refine ⟨inv.filled_append hs erased first, ?_, ?_, ?_, ?_⟩ <;> rw [longer]
  · rw [List.pairwise_append]
    refine ⟨inv.ascending, List.pairwise_singleton .., fun a ha b hb => ?_⟩
    rw [List.mem_singleton.1 hb]
    exact newer a ha
  · intro v hv
    rw [List.length_append, List.length_singleton]
    rcases List.mem_append.1 hv with hv | hv
    · have := inv.bounded v hv
      omega
    · rw [List.mem_singleton.1 hv]
      exact bounded
  · exact limit
  · exact confirmed

end JournalInvariant

/-! ## The three kinds of record -/

theorem mem_validRecords {n : Nat} (h : r ∈ validRecords load n) :
    ∃ i < n, validateRecord (load i) = some r := by
  rw [validRecords, List.mem_filterMap] at h
  obtain ⟨i, hi, hr⟩ := h
  exact ⟨i, List.mem_range.1 hi, hr⟩

theorem copyLatestToSummary_validRecordCount (s : BootMetadataSummary)
    (latest : Option BootMetadataRecord) :
    (copyLatestToSummary s latest).validRecordCount = s.validRecordCount := by
  cases latest <;> rfl

theorem summarize_validRecordCount (counts : BootMetadataSummary)
    (valid : List BootMetadataRecord) :
    (summarize counts valid).validRecordCount = counts.validRecordCount := by
  unfold summarize
  cases hasDuplicate valid with
  | true => exact copyLatestToSummary_validRecordCount ..
  | false => cases currentImage valid <;> exact copyLatestToSummary_validRecordCount ..

theorem summarize_latestSequence (counts : BootMetadataSummary)
    (hc : counts.latestSequence = 0) (valid : List BootMetadataRecord) :
    (summarize counts valid).latestSequence = sequenceOf (Selection.newest seqKey valid) := by
  have latest : (copyLatestToSummary counts (Selection.newest seqKey valid)).latestSequence =
      sequenceOf (Selection.newest seqKey valid) := by
    cases Selection.newest seqKey valid with
    | none => exact hc
    | some r => rfl
  unfold summarize
  cases hasDuplicate valid with
  | true => exact latest
  | false => cases currentImage valid <;> exact latest

theorem scan_latestSequence (load : Nat → RecordWords) :
    (scanLoadedRecords load 16).latestSequence =
      sequenceOf (Selection.newest seqKey (validRecords load 16)) := by
  rw [scanLoadedRecords_eq load (Nat.le_refl 16)]
  exact summarize_latestSequence _ rfl _

/-- Without a valid record the latest sequence is zero. -/
theorem scan_validRecordCount (load : Nat → RecordWords)
    (h : (scanLoadedRecords load 16).validRecordCount = 0) :
    (scanLoadedRecords load 16).latestSequence = 0 := by
  have len := length_validRecords_le load 16
  rw [scanLoadedRecords_eq load (Nat.le_refl 16), summarize_validRecordCount] at h
  have count : (UInt16.ofNat (validRecords load 16).length).toNat = 0 := congrArg UInt16.toNat h
  rw [UInt16.toNat_ofNat_of_lt' (by simp only [UInt16.size]; omega)] at count
  rw [scan_latestSequence, List.eq_nil_of_length_eq_zero count]
  rfl

namespace JournalInvariant

/-- The next sequence is new and leaves no gap; sixteen slots cannot exhaust it. -/
theorem next_sequence (inv : JournalInvariant load) :
    let next := (scanLoadedRecords load 16).latestSequence + 1
    (∀ v ∈ validRecords load 16, v.sequence < next) ∧
      next.toNat ≤ (validRecords load 16).length + 1 := by
  intro next
  have len := length_validRecords_le load 16
  have latest := scan_latestSequence load
  cases hn : Selection.newest seqKey (validRecords load 16) with
  | none =>
    rw [(Selection.newest_eq_none seqKey).1 hn]
    have one : next = 1 := by
      show (scanLoadedRecords load 16).latestSequence + 1 = 1
      rw [latest, hn]
      rfl
    rw [one]
    exact ⟨by simp, by decide⟩
  | some b =>
    obtain ⟨mem, le⟩ := Selection.newest_spec seqKey hn
    have small := inv.bounded b mem
    have succ : next.toNat = b.sequence.toNat + 1 := by
      show ((scanLoadedRecords load 16).latestSequence + 1).toNat = _
      rw [latest, hn]
      exact Words.toNat_add_of_lt (by simp only [sequenceOf, UInt32.reduceToNat]; omega)
    refine ⟨fun v hv => UInt32.lt_iff_toNat_lt.2 ?_, by omega⟩
    have : v.sequence.toNat ≤ b.sequence.toNat := le v hv
    omega

theorem single (inv : JournalInvariant load) : hasDuplicate (validRecords load 16) = false := by
  have distinct : ((validRecords load 16).map (·.sequence)).Nodup := by
    rw [List.Nodup, List.pairwise_map]
    exact inv.ascending.imp fun h he => by rw [he] at h; simp at h
  simp [hasDuplicate, distinct]

/-- A new image starts with no attempts. -/
theorem append_image (inv : JournalInvariant load) (hs : slot < 16)
    (erased : isErasedRecord (load slot) = true)
    (first : ∀ i < slot, isErasedRecord (load i) = false) (hw : validateRecord w = some r)
    (kind : r.recordType = recordImageValid)
    (next : r.sequence = (scanLoadedRecords load 16).latestSequence + 1) :
    JournalInvariant (writeSlot load slot w) := by
  obtain ⟨newer, bounded⟩ := inv.next_sequence
  rw [← next] at newer bounded
  have unbound := boundRecords_append_image newer
  refine inv.append_valid hs erased first hw newer bounded ?_ ?_ <;>
    rw [currentImage_append_image kind newer] <;> rintro image ⟨⟩
  · simp [attempts, unbound]
  · simp [confirmations, unbound]

end JournalInvariant

theorem scan_selected (h : (scanLoadedRecords load 16).metadataValid ≠ 0) :
    ∃ image, currentImage (validRecords load 16) = some image ∧
      scanLoadedRecords load 16 =
        selectedSummary (slotCounts load 16) (validRecords load 16) image := by
  rw [scanLoadedRecords_eq load (Nat.le_refl 16)] at h ⊢
  obtain ⟨single, image, selected⟩ := summarize_metadataValid rfl h
  exact ⟨image, selected, summarize_selected single selected⟩

/-- What validation says of the current image. -/
theorem currentImage_valid {image : BootMetadataRecord} {n : Nat}
    (h : currentImage (validRecords load n) = some image) :
    image.slotId = BootSlot.a ∧ areAppFieldsValid image = true := by
  obtain ⟨i, -, hv⟩ := mem_validRecords (currentImage_spec h).1
  obtain ⟨-, -, -, slotId, fields, -⟩ := validateRecord_some hv
  exact ⟨slotId, fields⟩

section
variable {image : BootMetadataRecord} (counts : BootMetadataSummary)
  (valid : List BootMetadataRecord) (kind : UInt16) (sequence : UInt32) (count : UInt16)

/-- The record a builder makes from the summary of a scan that has selected
`image`, as it reads back. -/
def followUp (image : BootMetadataRecord) : BootMetadataRecord :=
  sealed (summaryRecord kind sequence (selectedSummary counts valid image) count)

/-- It carries the image's application fields. -/
theorem validateRecord_followUp (hk : isRecordTypeValid kind = true)
    (hf : areAppFieldsValid image = true) :
    validateRecord (sealRecord
      (summaryRecord kind sequence (selectedSummary counts valid image) count)) =
    some (followUp counts valid kind sequence count image) :=
  validateRecord_sealRecord hk rfl hf

/-- It carries the image's identity. -/
theorem isBound_followUp (hs : image.slotId = BootSlot.a) (newer : image.sequence < sequence) :
    isBound image (followUp counts valid kind sequence count image) = true := by
  have same : recordMatchesImage (summaryRecord kind sequence (selectedSummary counts valid image)
      count) image = (BootSlot.a == image.slotId && image.entryPoint == image.entryPoint &&
        image.imageSizeWords == image.imageSizeWords && image.imageCrc32 == image.imageCrc32) := rfl
  rw [isBound, followUp, sealed, recordMatchesImage_withRecordCrc, withRecordCrc_sequence, same, hs]
  simp only [BEq.rfl, Bool.and_true, summaryRecord]
  exact decide_eq_true newer

end

theorem attempts_le (image : BootMetadataRecord) (valid : List BootMetadataRecord) :
    attempts image valid ≤ valid.length :=
  Nat.le_trans List.countP_le_length (List.length_filter_le ..)

theorem selected_bootAttemptCount (counts : BootMetadataSummary)
    (valid : List BootMetadataRecord) (image : BootMetadataRecord) :
    (selectedSummary counts valid image).bootAttemptCount =
      UInt16.ofNat (attempts image valid) := rfl

theorem selected_bootAttemptLimit (counts : BootMetadataSummary)
    (valid : List BootMetadataRecord) (image : BootMetadataRecord) :
    (selectedSummary counts valid image).bootAttemptLimit = image.bootAttemptLimit := rfl

/-- Sixteen slots cannot make the counter wrap. -/
theorem toNat_attempts (image : BootMetadataRecord) (load : Nat → RecordWords) :
    (UInt16.ofNat (attempts image (validRecords load 16))).toNat =
      attempts image (validRecords load 16) := by
  have small := attempts_le image (validRecords load 16)
  have len := length_validRecords_le load 16
  exact UInt16.toNat_ofNat_of_lt' (by simp only [UInt16.size]; omega)

/-- A record built from the scanned summary is valid and bound to the current image. -/
theorem followUp_spec
    (newer : ∀ v ∈ validRecords load 16, v.sequence < (scanLoadedRecords load 16).latestSequence + 1)
    (valid : (scanLoadedRecords load 16).metadataValid ≠ 0) (kind : UInt16)
    (hk : isRecordTypeValid kind = true) (count : UInt16) :
    let summary := scanLoadedRecords load 16
    let built := summaryRecord kind (summary.latestSequence + 1) summary count
    ∃ image, currentImage (validRecords load 16) = some image ∧
      summary = selectedSummary (slotCounts load 16) (validRecords load 16) image ∧
      validateRecord (sealRecord built) = some (sealed built) ∧
      isBound image (sealed built) = true := by
  intro summary built
  obtain ⟨image, selected, scan⟩ := scan_selected valid
  obtain ⟨slotId, fields⟩ := currentImage_valid selected
  have same : sealed built =
      followUp (slotCounts load 16) (validRecords load 16) kind (summary.latestSequence + 1) count
        image := by
    rw [followUp, ← scan]
  refine ⟨image, selected, scan, ?_, ?_⟩
  · have hv := validateRecord_followUp (slotCounts load 16) (validRecords load 16) kind
      (summary.latestSequence + 1) count hk fields
    rw [← scan] at hv
    rw [same]
    exact hv
  · rw [same]
    exact isBound_followUp (slotCounts load 16) (validRecords load 16) kind
      (summary.latestSequence + 1) count slotId (newer image (currentImage_spec selected).1)

namespace JournalInvariant

/-- A record bound to the current image leaves it current. -/
theorem append_followUp (inv : JournalInvariant load) (hs : slot < 16)
    (erased : isErasedRecord (load slot) = true)
    (first : ∀ i < slot, isErasedRecord (load i) = false)
    (valid : (scanLoadedRecords load 16).metadataValid ≠ 0) (kind : UInt16)
    (hk : isRecordTypeValid kind = true) (other : kind ≠ recordImageValid) (count : UInt16)
    (ordered : ∀ image r,
      scanLoadedRecords load 16 = selectedSummary (slotCounts load 16) (validRecords load 16) image →
      currentImage (validRecords load 16) = some image →
      r.recordType = kind → isBound image r = true →
      attempts image (validRecords load 16 ++ [r]) ≤ image.bootAttemptLimit.toNat ∧
      (confirmations image (validRecords load 16 ++ [r]) ≠ [] →
        attempts image (validRecords load 16 ++ [r]) ≠ 0)) :
    JournalInvariant (writeSlot load slot (sealRecord (summaryRecord kind
      ((scanLoadedRecords load 16).latestSequence + 1) (scanLoadedRecords load 16) count))) := by
  obtain ⟨newer, bounded⟩ := inv.next_sequence
  obtain ⟨image, selected, summary, hv, hb⟩ := followUp_spec newer valid kind hk count
  have same := (@currentImage_append_other (validRecords load 16)) (r := sealed (summaryRecord
    kind ((scanLoadedRecords load 16).latestSequence + 1) (scanLoadedRecords load 16) count)) other
  rw [selected] at same
  have order := ordered image _ summary selected rfl hb
  refine inv.append_valid hs erased first hv newer bounded ?_ ?_ <;> rw [same] <;> rintro _ ⟨⟩
  · exact order.1
  · exact order.2

/-- One more attempt for the current image, while any are left. -/
theorem append_attempt (inv : JournalInvariant load) (hs : slot < 16)
    (erased : isErasedRecord (load slot) = true)
    (first : ∀ i < slot, isErasedRecord (load i) = false)
    (valid : (scanLoadedRecords load 16).metadataValid ≠ 0)
    (left : (scanLoadedRecords load 16).bootAttemptCount <
      (scanLoadedRecords load 16).bootAttemptLimit) (count : UInt16) :
    JournalInvariant (writeSlot load slot
      (buildBootAttemptRecord ((scanLoadedRecords load 16).latestSequence + 1)
        (scanLoadedRecords load 16) count)) := by
  refine inv.append_followUp hs erased first valid recordBootAttempt (by decide) (by decide) count
    fun image r summary _ kind bound => ?_
  rw [summary, selected_bootAttemptCount, selected_bootAttemptLimit, UInt16.lt_iff_toNat_lt,
    toNat_attempts] at left
  rw [attempts_append, if_pos ⟨bound, kind⟩]
  exact ⟨left, fun _ => by omega⟩

/-- The confirmation of an image that has been attempted. -/
theorem append_confirmed (inv : JournalInvariant load) (hs : slot < 16)
    (erased : isErasedRecord (load slot) = true)
    (first : ∀ i < slot, isErasedRecord (load i) = false)
    (valid : (scanLoadedRecords load 16).metadataValid ≠ 0)
    (attempted : (scanLoadedRecords load 16).bootAttemptCount ≠ 0) :
    JournalInvariant (writeSlot load slot
      (buildAppConfirmedRecord ((scanLoadedRecords load 16).latestSequence + 1)
        (scanLoadedRecords load 16))) := by
  refine inv.append_followUp hs erased first valid recordAppConfirmed (by decide) (by decide) _
    fun image r summary selected kind _ => ?_
  rw [summary, selected_bootAttemptCount] at attempted
  have some : attempts image (validRecords load 16) ≠ 0 := fun h => attempted (by rw [h]; rfl)
  have other : r.recordType ≠ recordBootAttempt := by rw [kind]; decide
  rw [attempts_append, if_neg (fun h => other h.2)]
  exact ⟨inv.limit image selected, fun _ => some⟩

/-! ## What the scan reports under the invariant -/

theorem scan_single (inv : JournalInvariant load) :
    (scanLoadedRecords load 16).state ≠ .duplicateSequence := by
  rw [scanLoadedRecords_eq load (Nat.le_refl 16), ne_eq, summarize_state, inv.single]
  decide

/-- Attempts never exceed the limit of the image, which is at most three. -/
theorem scan_attempts (inv : JournalInvariant load)
    (valid : (scanLoadedRecords load 16).metadataValid ≠ 0) :
    (scanLoadedRecords load 16).bootAttemptCount ≤ (scanLoadedRecords load 16).bootAttemptLimit ∧
      (scanLoadedRecords load 16).bootAttemptLimit ≤ bootAttemptLimit := by
  obtain ⟨image, selected, summary⟩ := scan_selected valid
  obtain ⟨-, fields⟩ := currentImage_valid selected
  rw [summary, selected_bootAttemptCount, selected_bootAttemptLimit, UInt16.le_iff_toNat_le,
    toNat_attempts]
  refine ⟨inv.limit image selected, UInt16.not_lt.1 fun excess => ?_⟩
  simp [areAppFieldsValid, excess] at fields

theorem scan_confirmed (inv : JournalInvariant load)
    (valid : (scanLoadedRecords load 16).metadataValid ≠ 0)
    (confirmed : (scanLoadedRecords load 16).appConfirmed ≠ 0) :
    (scanLoadedRecords load 16).bootAttemptCount ≠ 0 := by
  obtain ⟨image, selected, summary⟩ := scan_selected valid
  rw [summary] at confirmed ⊢
  have some : confirmations image (validRecords load 16) ≠ [] := fun none => by
    simp [selectedSummary, bound, none] at confirmed
  intro h
  rw [selected_bootAttemptCount, ← UInt16.toNat_inj, toNat_attempts] at h
  exact inv.confirmed image selected some h

end JournalInvariant

end

end BootUpgrade.BootMetadata

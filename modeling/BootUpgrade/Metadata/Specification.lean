import BootUpgrade.Metadata.Journal

/-!
# What the journal scan means

The summary of a scan, said without its loops: which image it selects, which
records count for it, and what of it depends on the order of the slots.
-/

namespace BootUpgrade

/-- What a summary says of the image: everything but the type of the latest
record and the slot of the next one. -/
def BootMetadataSummary.imageResult (s : BootMetadataSummary) : BootMetadataSummary :=
  { s with latestRecordType := 0, nextRecordIndex := BootMetadata.invalidIndex }

namespace BootMetadata

/-- `r` carries the identity `BootMetadata_RecordMatchesImage` compares. -/
def SameIdentity (image r : BootMetadataRecord) : Prop :=
  r.slotId = image.slotId ∧ r.entryPoint = image.entryPoint ∧
    r.imageSizeWords = image.imageSizeWords ∧ r.imageCrc32 = image.imageCrc32

instance (image r : BootMetadataRecord) : Decidable (SameIdentity image r) :=
  inferInstanceAs (Decidable (_ ∧ _ ∧ _ ∧ _))

/-- The summary carries the identity and the application fields of `image`. -/
structure Reports (s : BootMetadataSummary) (image : BootMetadataRecord) : Prop where
  hasImageValid : s.hasImageValid = 1
  activeSlot : s.activeSlot = image.slotId
  imageValidSequence : s.imageValidSequence = image.sequence
  appStart : s.appStart = image.appStart
  appEnd : s.appEnd = image.appEnd
  entryPoint : s.entryPoint = image.entryPoint
  imageSizeWords : s.imageSizeWords = image.imageSizeWords
  imageCrc32 : s.imageCrc32 = image.imageCrc32
  appVersionMajor : s.appVersionMajor = image.appVersionMajor
  appVersionMinor : s.appVersionMinor = image.appVersionMinor
  appVersionPatch : s.appVersionPatch = image.appVersionPatch
  appVersionBuild : s.appVersionBuild = image.appVersionBuild
  targetDeviceId : s.targetDeviceId = image.targetDeviceId
  targetCpuId : s.targetCpuId = image.targetCpuId
  bootAttemptLimit : s.bootAttemptLimit = image.bootAttemptLimit

theorem recordMatchesImage_iff {image r : BootMetadataRecord} :
    recordMatchesImage r image = true ↔ SameIdentity image r := by
  simp [recordMatchesImage, SameIdentity, and_assoc]

theorem hasDuplicate_eq_false {valid : List BootMetadataRecord} :
    hasDuplicate valid = false ↔ (valid.map (·.sequence)).Nodup := by
  simp [hasDuplicate]

/-- Records of distinct sequences are told apart by them. -/
theorem eq_of_sequence {valid : List BootMetadataRecord} (single : hasDuplicate valid = false) :
    ∀ x ∈ valid, ∀ y ∈ valid, x.sequence = y.sequence → x = y := by
  have distinct := hasDuplicate_eq_false.1 single
  induction valid with
  | nil => simp
  | cons r rest ih =>
    rw [List.map_cons, List.nodup_cons] at distinct
    have tail := ih (hasDuplicate_eq_false.2 distinct.2) distinct.2
    have head : ∀ z ∈ rest, z.sequence ≠ r.sequence := fun z hz same =>
      distinct.1 (same ▸ List.mem_map_of_mem hz)
    intro x hx y hy same
    rcases List.mem_cons.1 hx with hx | hx <;> rcases List.mem_cons.1 hy with hy | hy
    · rw [hx, hy]
    · exact absurd (hx ▸ same).symm (head y hy)
    · exact absurd (hy ▸ same) (head x hx)
    · exact tail x hx y hy same

section
variable {valid : List BootMetadataRecord} {image : BootMetadataRecord}

theorem currentImage_isSome :
    (∃ image, currentImage valid = some image) ↔ ∃ r ∈ valid, r.recordType = recordImageValid := by
  constructor
  · rintro ⟨image, h⟩
    obtain ⟨mem, kind, -⟩ := currentImage_spec h
    exact ⟨image, mem, kind⟩
  · rintro ⟨r, mem, kind⟩
    cases h : currentImage valid with
    | some image => exact ⟨image, rfl⟩
    | none =>
      have images := (Selection.newest_eq_none seqKey).1 h
      have found : r ∈ valid.filter isImage := List.mem_filter.2 ⟨mem, by simpa [isImage] using kind⟩
      rw [images] at found
      cases found

/-- No other image of the journal is as new as the selected one. -/
theorem currentImage_greatest (single : hasDuplicate valid = false)
    (h : currentImage valid = some image) :
    ∀ r ∈ valid, r.recordType = recordImageValid → r ≠ image → r.sequence < image.sequence := by
  obtain ⟨mem, -, greatest⟩ := currentImage_spec h
  intro r hr kind other
  have ne : r.sequence.toNat ≠ image.sequence.toNat := fun same =>
    other (eq_of_sequence single r hr image mem (UInt32.toNat_inj.1 same))
  have le := greatest r hr kind
  exact UInt32.lt_iff_toNat_lt.2 (by omega)

theorem attempts_eq_countP : attempts image valid = valid.countP fun r =>
    decide (r.recordType = recordBootAttempt ∧ image.sequence < r.sequence ∧
      SameIdentity image r) := by
  rw [attempts, boundRecords, List.countP_filter]
  apply List.countP_congr
  intro r _
  simp [recordMatchesImage_iff]

theorem confirmations_isEmpty : (confirmations image valid).isEmpty = false ↔
    ∃ r ∈ valid, r.recordType = recordAppConfirmed ∧ image.sequence < r.sequence ∧
      SameIdentity image r := by
  rw [List.isEmpty_eq_false_iff_exists_mem]
  simp only [confirmations, boundRecords, List.mem_filter, Bool.and_eq_true, decide_eq_true_eq,
    beq_iff_eq, recordMatchesImage_iff]
  constructor
  · rintro ⟨r, ⟨mem, newer, same⟩, kind⟩
    exact ⟨r, mem, kind, newer, same⟩
  · rintro ⟨r, mem, kind, newer, same⟩
    exact ⟨r, ⟨mem, newer, same⟩, kind⟩

theorem selectedSummary_reports (counts : BootMetadataSummary) :
    Reports (selectedSummary counts valid image) image := by
  constructor <;> rfl

theorem selected_appConfirmed (counts : BootMetadataSummary) :
    (selectedSummary counts valid image).appConfirmed =
      if (confirmations image valid).isEmpty then 0 else 1 := rfl

end

/-! ## Valid metadata -/

section
variable (load : Nat → RecordWords)

theorem scan_metadataValid_one (h : (scanLoadedRecords load 16).metadataValid ≠ 0) :
    (scanLoadedRecords load 16).metadataValid = 1 := by
  obtain ⟨image, -, selected⟩ := scan_selected h
  rw [selected]
  rfl

theorem scan_metadataValid_iff : (scanLoadedRecords load 16).metadataValid = 1 ↔
    ((validRecords load 16).map (·.sequence)).Nodup ∧
      ∃ r ∈ validRecords load 16, r.recordType = recordImageValid := by
  rw [← hasDuplicate_eq_false, ← currentImage_isSome]
  constructor
  · intro h
    rw [scanLoadedRecords_eq load (Nat.le_refl 16)] at h
    exact summarize_metadataValid rfl (by rw [h]; decide)
  · rintro ⟨single, image, selected⟩
    rw [scanLoadedRecords_eq load (Nat.le_refl 16), summarize_selected single selected]
    rfl

/-! ## The slot counts -/

/-- Every slot is counted once. -/
theorem slots_partition (n : Nat) :
    (erasedSlots load n).length + (validRecords load n).length + (invalidSlots load n).length =
      n := by
  induction n with
  | zero => rfl
  | succ n ih =>
    rw [validRecords_succ]
    simp only [erasedSlots, invalidSlots, List.range_succ, List.filter_append, List.length_append]
      at ih ⊢
    cases he : isErasedRecord (load n) with
    | true =>
      simp [he, validateRecord_erased he]
      omega
    | false =>
      cases hv : validateRecord (load n) with
      | none => simp [he, hv]; omega
      | some r => simp [he, hv]; omega

/-- The counters of a summary are the counts of the scan. -/
theorem summarize_counts (counts : BootMetadataSummary) (valid : List BootMetadataRecord) :
    (summarize counts valid).erasedRecordCount = counts.erasedRecordCount ∧
    (summarize counts valid).validRecordCount = counts.validRecordCount ∧
    (summarize counts valid).invalidRecordCount = counts.invalidRecordCount ∧
    (summarize counts valid).freeRecordCount = counts.freeRecordCount := by
  cases hl : Selection.newest seqKey valid <;> cases hd : hasDuplicate valid <;>
    cases hi : currentImage valid <;>
    simp [summarize, copyLatestToSummary, bound, copyImageToSummary, hl, hd, hi]

theorem scan_counts :
    (scanLoadedRecords load 16).erasedRecordCount.toNat = (erasedSlots load 16).length ∧
    (scanLoadedRecords load 16).validRecordCount.toNat = (validRecords load 16).length ∧
    (scanLoadedRecords load 16).invalidRecordCount.toNat = (invalidSlots load 16).length := by
  have all := slots_partition load 16
  have counts := summarize_counts (slotCounts load 16) (validRecords load 16)
  rw [scanLoadedRecords_eq load (Nat.le_refl 16), counts.1, counts.2.1, counts.2.2.1]
  have small : ∀ m ≤ 16, (UInt16.ofNat m).toNat = m := fun m hm =>
    UInt16.toNat_ofNat_of_lt' (by simp only [UInt16.size]; omega)
  exact ⟨small _ (by omega), small _ (by omega), small _ (by omega)⟩

end

/-! ## Another order of the slots -/

section
variable {valid valid' : List BootMetadataRecord} (h : valid.Perm valid')
include h

theorem hasDuplicate_perm : hasDuplicate valid = hasDuplicate valid' := by
  have same : (valid.map (·.sequence)).Nodup ↔ (valid'.map (·.sequence)).Nodup :=
    (h.map _).nodup_iff
  simp [hasDuplicate, same]

theorem attempts_perm (image : BootMetadataRecord) : attempts image valid = attempts image valid' :=
  (h.filter _).countP_eq _

theorem confirmations_perm (image : BootMetadataRecord) :
    (confirmations image valid).Perm (confirmations image valid') :=
  (h.filter _).filter _

variable (single : hasDuplicate valid = false)
include single

omit h in
/-- A selection among some of the records, each of its own sequence. -/
theorem newest_sublist_perm {some some' : List BootMetadataRecord} (hs : some.Perm some')
    (sub : ∀ r ∈ some, r ∈ valid) :
    Selection.newest seqKey some = Selection.newest seqKey some' := by
  apply Selection.newest_perm seqKey hs
  intro x hx y hy same
  exact eq_of_sequence single x (sub x hx) y (sub y hy) (UInt32.toNat_inj.1 same)

theorem currentImage_perm : currentImage valid = currentImage valid' :=
  newest_sublist_perm single (h.filter isImage) fun _ hr => (List.mem_filter.1 hr).1

theorem bound_perm (image : BootMetadataRecord) (summary : BootMetadataSummary) :
    bound image summary valid = bound image summary valid' := by
  have confirmed := confirmations_perm h image
  have empty : (confirmations image valid).isEmpty = (confirmations image valid').isEmpty := by
    rw [Bool.eq_iff_iff, List.isEmpty_iff_length_eq_zero, List.isEmpty_iff_length_eq_zero,
      confirmed.length_eq]
  have last := newest_sublist_perm single confirmed fun r hr =>
    (List.mem_filter.1 (List.mem_filter.1 hr).1).1
  rw [bound, bound, attempts_perm h image, empty, last]

end

/-- The summary of records in another order, with another slot to write next. -/
theorem summarize_perm {valid valid' : List BootMetadataRecord} (h : valid.Perm valid')
    (counts : BootMetadataSummary) (index : UInt16) :
    (summarize { counts with nextRecordIndex := index } valid').imageResult =
      (summarize counts valid).imageResult := by
  have latest := Selection.newest_key_perm seqKey h
  have duplicate := hasDuplicate_perm h
  cases single : hasDuplicate valid with
  | true =>
    rw [single] at duplicate
    cases hl : Selection.newest seqKey valid <;> cases hl' : Selection.newest seqKey valid' <;>
      simp [hl, hl', seqKey, UInt32.toNat_inj] at latest <;>
      simp [summarize, single, ← duplicate, hl, hl', copyLatestToSummary, latest,
        BootMetadataSummary.imageResult]
  | false =>
    rw [single] at duplicate
    have same := newest_sublist_perm single h fun r hr => hr
    have selected := currentImage_perm h single
    cases hi : currentImage valid with
    | none =>
      rw [hi] at selected
      cases hl : Selection.newest seqKey valid <;>
        simp [summarize, single, ← duplicate, ← same, ← selected, hi, hl, copyLatestToSummary,
          BootMetadataSummary.imageResult]
    | some image =>
      rw [hi] at selected
      simp only [summarize, single, ← duplicate, ← same, ← selected, hi, Bool.false_eq_true,
        if_false, ← bound_perm h single]
      cases Selection.newest seqKey valid <;> rfl

section
variable {load load' : Nat → RecordWords} {n : Nat}
  (h : ((List.range n).map load).Perm ((List.range n).map load'))
include h

theorem validRecords_perm : (validRecords load n).Perm (validRecords load' n) := by
  have valid := h.filterMap validateRecord
  rw [List.filterMap_map, List.filterMap_map] at valid
  exact valid

theorem length_slots_perm (p : RecordWords → Bool) :
    ((List.range n).filter fun i => p (load i)).length =
      ((List.range n).filter fun i => p (load' i)).length := by
  have counted := h.countP_eq p
  rw [List.countP_map, List.countP_map] at counted
  rw [← List.countP_eq_length_filter, ← List.countP_eq_length_filter]
  exact counted

theorem slotCounts_perm : slotCounts load' n =
    { slotCounts load n with nextRecordIndex := nextIndex (erasedSlots load' n) } := by
  have valid := (validRecords_perm h).length_eq
  have erased : (erasedSlots load n).length = (erasedSlots load' n).length :=
    length_slots_perm h isErasedRecord
  have invalid : (invalidSlots load n).length = (invalidSlots load' n).length :=
    length_slots_perm h fun w => !isErasedRecord w && (validateRecord w).isNone
  simp only [slotCounts, valid, erased, invalid]

end

theorem scan_perm {load load' : Nat → RecordWords}
    (h : ((List.range 16).map load).Perm ((List.range 16).map load')) :
    (scanLoadedRecords load' 16).imageResult = (scanLoadedRecords load 16).imageResult := by
  rw [scanLoadedRecords_eq load (Nat.le_refl 16), scanLoadedRecords_eq load' (Nat.le_refl 16),
    slotCounts_perm h]
  exact summarize_perm (validRecords_perm h) _ _

/-! ## The specification -/

/-- The scan of sixteen slots of any content. -/
theorem scan_specification (load : Nat → RecordWords) :
    let valid := validRecords load 16
    let summary := scanLoadedRecords load 16
    (summary.metadataValid ≠ 0 ↔ summary.metadataValid = 1) ∧
    (summary.metadataValid = 1 ↔
      (valid.map (·.sequence)).Nodup ∧ ∃ r ∈ valid, r.recordType = recordImageValid) ∧
    (summary.metadataValid = 1 → ∃ image ∈ valid,
      image.recordType = recordImageValid ∧
      (∀ r ∈ valid, r.recordType = recordImageValid → r ≠ image → r.sequence < image.sequence) ∧
      Reports summary image ∧
      summary.bootAttemptCount.toNat = (valid.countP fun r =>
        decide (r.recordType = recordBootAttempt ∧ image.sequence < r.sequence ∧
          SameIdentity image r)) ∧
      (summary.appConfirmed ≠ 0 ↔ ∃ r ∈ valid, r.recordType = recordAppConfirmed ∧
        image.sequence < r.sequence ∧ SameIdentity image r)) ∧
    (summary.erasedRecordCount.toNat = (erasedSlots load 16).length ∧
      summary.validRecordCount.toNat = valid.length ∧
      summary.erasedRecordCount.toNat + summary.validRecordCount.toNat +
        summary.invalidRecordCount.toNat = 16) ∧
    ∀ load', ((List.range 16).map load).Perm ((List.range 16).map load') →
      (scanLoadedRecords load' 16).imageResult = summary.imageResult := by
  intro valid summary
  refine ⟨⟨scan_metadataValid_one load, fun h => by rw [h]; decide⟩, scan_metadataValid_iff load,
    ?_, ?_, fun load' => scan_perm⟩
  · intro h
    have single := hasDuplicate_eq_false.2 ((scan_metadataValid_iff load).1 h).1
    obtain ⟨image, current, selected⟩ := scan_selected (by rw [h]; decide)
    obtain ⟨mem, kind, -⟩ := currentImage_spec current
    have report : Reports summary image := by
      rw [show summary = _ from selected]
      exact selectedSummary_reports _
    have count : summary.bootAttemptCount.toNat = attempts image valid := by
      rw [show summary = _ from selected, selected_bootAttemptCount]
      exact toNat_attempts image load
    have confirmed : summary.appConfirmed ≠ 0 ↔ (confirmations image valid).isEmpty = false := by
      rw [show summary = _ from selected, selected_appConfirmed]
      cases (confirmations image valid).isEmpty <;> simp
    exact ⟨image, mem, kind, currentImage_greatest single current, report,
      count.trans attempts_eq_countP, confirmed.trans confirmations_isEmpty⟩
  · obtain ⟨erased, read, invalid⟩ := scan_counts load
    exact ⟨erased, read, by rw [erased, read, invalid]; exact slots_partition load 16⟩

end BootMetadata

end BootUpgrade

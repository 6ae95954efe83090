import BootUpgrade.Core.CrcGate
import BootUpgrade.Gui.MetadataSnapshot
import BootUpgrade.System.ArrayJournal
import BootUpgrade.System.BootAgreement

/-!
# The boot prediction of the GUI

What the GUI derives from the metadata summary, against the decision of the
device over the same journal.
-/

namespace BootUpgrade

open BootMetadata BootUser RuntimeBackend HostProtocol

/-- The state word of the summary payload. -/
def stateWord (state : BootMetadataScanState) : UInt16 :=
  if state = .empty then 0 else if state = .valid then 1 else if state = .invalid then 2 else 3

/-- The summary as the host reads it from the payload. -/
def hostSummary (summary : BootMetadataSummary) : MetadataSummary where
  metadataValid := summary.metadataValid
  activeSlot := summary.activeSlot
  latestRecordType := summary.latestRecordType
  bootAttemptCount := summary.bootAttemptCount
  appConfirmed := summary.appConfirmed
  bootAttemptLimit := summary.bootAttemptLimit
  appVersionMajor := summary.appVersionMajor
  appVersionMinor := summary.appVersionMinor
  appVersionPatch := summary.appVersionPatch
  appVersionBuild := summary.appVersionBuild
  entryPoint := summary.entryPoint
  imageCrc32 := summary.imageCrc32
  state := stateWord summary.state
  validRecordCount := summary.validRecordCount
  invalidRecordCount := summary.invalidRecordCount
  erasedRecordCount := summary.erasedRecordCount
  freeRecordCount := summary.freeRecordCount
  nextRecordIndex := summary.nextRecordIndex
  imageSizeWords := summary.imageSizeWords
  targetDeviceId := summary.targetDeviceId
  targetCpuId := summary.targetCpuId

theorem fromWords_summaryToPayload (summary : BootMetadataSummary) :
    MetadataSummary.fromWords (summaryToPayload summary) = .ok (hostSummary summary) := by
  simp only [MetadataSummary.fromWords, summaryToPayload, Words.joinU32_lowWord_highWord,
    hostSummary, stateWord]
  cases summary.state <;> rfl

/-- The selected image names a content and the device the summary comes from. -/
def OwnImage (info : DeviceInfo) (summary : BootMetadataSummary) : Prop :=
  summary.imageSizeWords ≠ 0 ∧ summary.imageCrc32 ≠ 0 ∧ summary.targetDeviceId = info.deviceId ∧
    summary.targetCpuId = info.cpuId

instance (info : DeviceInfo) (summary : BootMetadataSummary) : Decidable (OwnImage info summary) :=
  inferInstanceAs (Decidable (_ ∧ _ ∧ _ ∧ _))

/-- The application range of the CPU1 profile holds the entries of valid records. -/
theorem contains_entry {entryPoint : UInt32} (entry : FlashEntry entryPoint) :
    Cpu1.flash.appRanges.any (·.contains entryPoint.toNat) = true := by
  obtain ⟨start, stop, -⟩ := entry
  have low : appStart.toNat = 0x082400 := rfl
  have high : appEndExclusive.toNat = 0x0C0000 := rfl
  rw [UInt32.le_iff_toNat_le, low] at start
  rw [UInt32.lt_iff_toNat_lt, high] at stop
  simp [Cpu1.flash, AddressRange.contains, start, stop]

/-- What else a scan with valid metadata reports. -/
theorem scan_valid {memory : CoreMemory}
    (valid : (scanFlashRecords memory slotAStart).metadataValid ≠ 0) :
    (scanFlashRecords memory slotAStart).state = .valid ∧
      (scanFlashRecords memory slotAStart).hasImageValid = 1 := by
  obtain ⟨image, -, summary⟩ := scan_selected valid
  rw [scanFlashRecords, summary]
  exact ⟨rfl, rfl⟩

/-- The decision over valid metadata. -/
theorem isConfirmedBootable_valid {summary : BootMetadataSummary} (valid : summary.metadataValid ≠ 0)
    (state : summary.state = .valid) (image : summary.hasImageValid = 1)
    (entry : FlashEntry summary.entryPoint) :
    isConfirmedBootable summary = (summary.bootAttemptCount != 0 && summary.appConfirmed != 0) := by
  have auto := isValidAutoBootEntry_iff.2 entry
  unfold isConfirmedBootable previewAutoBootDecision
  by_cases attempted : summary.bootAttemptCount = 0
  · simp [valid, state, image, auto, attempted]
  · by_cases confirmed : summary.appConfirmed = 0
    · simp [valid, state, image, auto, attempted, confirmed]
    · simp [valid, state, image, auto, attempted, confirmed]

/-- The GUI's derivation, from a summary that is consistent when it is valid. -/
theorem metadataSnapshot_bootable {summary : BootMetadataSummary} (info : DeviceInfo)
    (consistent : summary.metadataValid ≠ 0 →
      summary.state = .valid ∧ summary.hasImageValid = 1 ∧ FlashEntry summary.entryPoint) :
    ∃ snapshot, metadataSnapshot (some info) (some Cpu1.memoryMap) (hostSummary summary) =
        some snapshot ∧
      snapshot.confirmedBootable =
        (isConfirmedBootable summary && decide (OwnImage info summary)) := by
  refine ⟨_, rfl, ?_⟩
  by_cases valid : summary.metadataValid = 0
  · have stays : isConfirmedBootable summary = false := by
      rw [Bool.eq_false_iff]
      intro bootable
      exact (previewAutoBootDecision_run (isConfirmedBootable_iff.1 bootable)).valid valid
    rw [stays]
    simp [hostSummary, valid]
  · obtain ⟨state, image, entry⟩ := consistent valid
    have nonzero : summary.entryPoint ≠ 0 := by
      intro zero
      rw [zero] at entry
      exact absurd entry.1 (by decide)
    have word : stateWord summary.state = MetadataScanState.valid := by
      rw [state]
      rfl
    rw [isConfirmedBootable_valid valid state image entry]
    dsimp only [hostSummary, Cpu1.memoryMap, Option.bind_some]
    rw [word, Option.any_some, contains_entry entry, entry.2.2]
    by_cases own : OwnImage info summary
    · obtain ⟨size, crc, device, cpu⟩ := id own
      rw [Bool.eq_iff_iff]
      simp only [Bool.and_eq_true, bne_iff_ne, beq_iff_eq, decide_eq_true_eq, gt_iff_lt,
        UInt16.pos_iff_ne_zero, ne_eq, valid, nonzero, size, crc, device, cpu, own,
        not_false_eq_true, true_and, and_true]
    · have other : (summary.entryPoint != 0 && summary.imageSizeWords != 0 &&
          summary.imageCrc32 != 0 && summary.targetDeviceId == info.deviceId &&
          summary.targetCpuId == info.cpuId) = false := by
        rw [Bool.eq_false_iff]
        intro all
        simp only [Bool.and_eq_true, bne_iff_ne, beq_iff_eq] at all
        exact own ⟨all.1.1.1.2, all.1.1.2, all.1.2, all.2⟩
      rw [other, decide_eq_false own]
      simp

/-- For every journal, the GUI predicts a boot exactly when the device decides
for it and the selected image is one of the device with a size and a CRC. -/
theorem boot_prediction (memory : CoreMemory) (info : DeviceInfo) :
    let summary := scanFlashRecords memory slotAStart
    ∃ raw snapshot, MetadataSummary.fromWords (summaryToPayload summary) = .ok raw ∧
      metadataSnapshot (some info) (some Cpu1.memoryMap) raw = some snapshot ∧
      snapshot.confirmedBootable = (isConfirmedBootable summary && decide (OwnImage info summary)) := by
  intro summary
  have consistent (valid : summary.metadataValid ≠ 0) :
      summary.state = .valid ∧ summary.hasImageValid = 1 ∧ FlashEntry summary.entryPoint := by
    obtain ⟨image, -, same, flash⟩ := scan_entry valid
    obtain ⟨state, hasImage⟩ := scan_valid valid
    refine ⟨state, hasImage, ?_⟩
    rw [← same] at flash
    exact flash
  obtain ⟨snapshot, derived, bootable⟩ := metadataSnapshot_bootable info consistent
  exact ⟨_, snapshot, fromWords_summaryToPayload summary, derived, bootable⟩

/-- A Flash with these record slots, blank elsewhere. -/
def slotsArray (slots : List RecordWords) : Memory.Words := fun address =>
  if address < 0x082000 then erasedWord
  else
    match slots[(address - 0x082000) / 64]? with
    | none => erasedWord
    | some words => words.toList.getD ((address - 0x082000) % 64) 0

theorem journal_slotsArray (slots : List RecordWords) {i : Nat} (hi : i < 16) :
    FlashArray.journal (slotsArray slots) i =
      (slots[i]?).getD (Vector.replicate 64 erasedWord) := by
  apply Vector.ext
  intro k hk
  have inside : ¬ FlashArray.slotAddress i + k < 0x082000 := by
    unfold FlashArray.slotAddress
    omega
  have slot : (FlashArray.slotAddress i + k - 0x082000) / 64 = i := by
    unfold FlashArray.slotAddress
    omega
  have word : (FlashArray.slotAddress i + k - 0x082000) % 64 = k := by
    unfold FlashArray.slotAddress
    omega
  rw [FlashArray.journal_getElem _ hi hk, slotsArray, if_neg inside, slot, word]
  cases slots[i]? with
  | none => simp
  | some words => simp [hk]

/-- A record for an image of eight words whose CRC is zero. -/
def crcZeroRecord (recordType : UInt16) (sequence : UInt32) : BootMetadataRecord where
  recordType
  sequence
  slotId := BootSlot.a
  slotRole := BootSlot.a
  flags := 0
  appStart := slotAAppStart
  appEnd := 0x082408
  entryPoint := 0x082400
  imageSizeWords := 8
  imageCrc32 := 0
  appVersionMajor := 1
  appVersionMinor := 0
  appVersionPatch := 0
  appVersionBuild := 0
  targetDeviceId := BootDevice.f28377d
  targetCpuId := BootDevice.cpu1
  bootAttemptLimit := 3
  bootAttemptCount := 0
  recordCrc32 := 0

/-- The image, an attempt and its confirmation. -/
def crcZeroSlots : List RecordWords :=
  [sealRecord (crcZeroRecord recordImageValid 1), sealRecord (crcZeroRecord recordBootAttempt 2),
    sealRecord (crcZeroRecord recordAppConfirmed 3)]

def cpu1DeviceInfo : DeviceInfo := ⟨BootAlgorithm.cpu1Info, by decide, by decide⟩

theorem validRecords_crcZero :
    validRecords (FlashArray.journal (slotsArray crcZeroSlots)) 16 =
      [sealed (crcZeroRecord recordImageValid 1), sealed (crcZeroRecord recordBootAttempt 2),
        sealed (crcZeroRecord recordAppConfirmed 3)] := by
  have image : validateRecord (sealRecord (crcZeroRecord recordImageValid 1)) = some _ :=
    validateRecord_sealRecord (by decide) rfl (by decide)
  have attempt : validateRecord (sealRecord (crcZeroRecord recordBootAttempt 2)) = some _ :=
    validateRecord_sealRecord (by decide) rfl (by decide)
  have confirmed : validateRecord (sealRecord (crcZeroRecord recordAppConfirmed 3)) = some _ :=
    validateRecord_sealRecord (by decide) rfl (by decide)
  have blank : validateRecord (Vector.replicate 64 erasedWord) = none := by
    apply validateRecord_erased
    rw [isErasedRecord, Vector.all_eq_true]
    intro k hk
    simp
  have read : ∀ i < 16, validateRecord (FlashArray.journal (slotsArray crcZeroSlots) i) =
      validateRecord ((crcZeroSlots[i]?).getD (Vector.replicate 64 erasedWord)) := by
    intro i hi
    rw [journal_slotsArray crcZeroSlots hi]
  rw [validRecords_congr read]
  simp [validRecords, List.range_succ, crcZeroSlots, image, attempt, confirmed, blank]

/-- The device boots the confirmed image, the GUI says that it will not. -/
theorem boot_prediction_crc_zero :
    let summary := scanFlashRecords (fun a => slotsArray crcZeroSlots a.toNat) slotAStart
    isConfirmedBootable summary = true ∧
      ((MetadataSummary.fromWords (summaryToPayload summary)).toOption.bind fun raw =>
        (metadataSnapshot (some cpu1DeviceInfo) (some Cpu1.memoryMap) raw).map
          (·.confirmedBootable)) = some false := by
  intro summary
  have scanned : summary = _ :=
    scanLoadedRecords_eq (FlashArray.journal (slotsArray crcZeroSlots)) (Nat.le_refl 16)
  rw [validRecords_crcZero] at scanned
  rw [scanned]
  constructor
  · decide +kernel
  · decide +kernel

end BootUpgrade

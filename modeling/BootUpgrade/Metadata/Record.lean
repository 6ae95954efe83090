import BootUpgrade.Common.Protocol
import BootUpgrade.Common.Crc32

/-! The 64-word metadata records of `boot_metadata.h`: reading, validating
and building them. -/

namespace BootUpgrade

namespace BootSlot

def auto : UInt16 := 0x0000
def a : UInt16 := 0x0001

end BootSlot

namespace BootMetadata

def slotAStart : UInt32 := 0x082000
def recordWords : UInt32 := 64
def recordCount : UInt16 := 16
def slotAAppStart : UInt32 := 0x082400
def slotAAppEnd : UInt32 := 0x0C0000
def bootAttemptLimit : UInt16 := 3
def magic0 : UInt16 := 0x4D42
def magic1 : UInt16 := 0x4453
def recordVersion : UInt16 := 0x0001
def recordImageValid : UInt16 := 0x0001
def recordBootAttempt : UInt16 := 0x0002
def recordAppConfirmed : UInt16 := 0x0003
def invalidIndex : UInt16 := 0xFFFF

/-- An erased Flash word. -/
def erasedWord : UInt16 := 0xFFFF

/-- One slot of the journal, `BOOT_METADATA_RECORD_WORDS` words. -/
abbrev RecordWords := Vector UInt16 64

end BootMetadata

structure BootMetadataRecord where
  recordType : UInt16
  sequence : UInt32
  slotId : UInt16
  slotRole : UInt16
  flags : UInt16
  appStart : UInt32
  appEnd : UInt32
  entryPoint : UInt32
  imageSizeWords : UInt32
  imageCrc32 : UInt32
  appVersionMajor : UInt16
  appVersionMinor : UInt16
  appVersionPatch : UInt16
  appVersionBuild : UInt32
  targetDeviceId : UInt16
  targetCpuId : UInt16
  bootAttemptLimit : UInt16
  bootAttemptCount : UInt16
  recordCrc32 : UInt32
  deriving DecidableEq, Repr

namespace BootMetadata

/-! ## Reading a record -/

/-- `BootMetadata_IsErasedRecord`. -/
def isErasedRecord (words : RecordWords) : Bool := words.all (· == erasedWord)

/-- `BootMetadata_IsRecordTypeValid`. -/
def isRecordTypeValid (recordType : UInt16) : Bool :=
  recordType == recordImageValid || recordType == recordBootAttempt ||
    recordType == recordAppConfirmed

/-- `BootMetadata_AreAppFieldsValid`. -/
def areAppFieldsValid (record : BootMetadataRecord) : Bool :=
  if record.appStart ≠ slotAAppStart then false
  else if record.appStart ≥ record.appEnd ∨ record.appEnd > slotAAppEnd then false
  else if record.entryPoint < slotAAppStart ∨ record.entryPoint ≥ slotAAppEnd ∨
      record.entryPoint % 8 ≠ 0 then false
  else if record.bootAttemptLimit = 0 ∨ record.bootAttemptLimit > bootAttemptLimit then false
  else true

/-- `BootMetadata_ParseRecord`. -/
def parseRecord (w : RecordWords) : BootMetadataRecord where
  recordType := w[4]
  sequence := joinU32 w[5] w[6]
  slotId := w[7]
  slotRole := w[8]
  flags := w[9]
  appStart := joinU32 w[10] w[11]
  appEnd := joinU32 w[12] w[13]
  entryPoint := joinU32 w[14] w[15]
  imageSizeWords := joinU32 w[16] w[17]
  imageCrc32 := joinU32 w[18] w[19]
  appVersionMajor := w[20]
  appVersionMinor := w[21]
  appVersionPatch := w[22]
  appVersionBuild := joinU32 w[23] w[24]
  targetDeviceId := w[25]
  targetCpuId := w[26]
  bootAttemptLimit := w[27]
  bootAttemptCount := w[28]
  recordCrc32 := joinU32 w[62] w[63]

/-- The CRC over words 0 to 61. -/
def recordCrc (w : RecordWords) : UInt32 := BootCrc32.calcWords (w.toList.take 62)

/-- `BootMetadata_ValidateRecord`: the parsed record, if the words are one. -/
def validateRecord (w : RecordWords) : Option BootMetadataRecord :=
  if isErasedRecord w then none
  else if w[0] ≠ magic0 ∨ w[1] ≠ magic1 ∨ w[2] ≠ recordVersion ∨
      w[3] ≠ recordWords.toUInt16 ∨ isRecordTypeValid w[4] = false ∨ w[7] ≠ BootSlot.a then none
  else if (parseRecord w).recordCrc32 ≠ recordCrc w then none
  else if areAppFieldsValid (parseRecord w) = false then none
  else some (parseRecord w)

/-- `BootMetadata_RecordMatchesImage`. -/
def recordMatchesImage (record image : BootMetadataRecord) : Bool :=
  record.slotId == image.slotId && record.entryPoint == image.entryPoint &&
    record.imageSizeWords == image.imageSizeWords && record.imageCrc32 == image.imageCrc32

/-! ## Building a record -/

/-- The words the builders store before the record CRC; every other word keeps
the fill value. -/
def fieldWord (r : BootMetadataRecord) : Nat → UInt16
  | 0 => magic0
  | 1 => magic1
  | 2 => recordVersion
  | 3 => recordWords.toUInt16
  | 4 => r.recordType
  | 5 => lowWord r.sequence
  | 6 => highWord r.sequence
  | 7 => r.slotId
  | 8 => r.slotRole
  | 9 => r.flags
  | 10 => lowWord r.appStart
  | 11 => highWord r.appStart
  | 12 => lowWord r.appEnd
  | 13 => highWord r.appEnd
  | 14 => lowWord r.entryPoint
  | 15 => highWord r.entryPoint
  | 16 => lowWord r.imageSizeWords
  | 17 => highWord r.imageSizeWords
  | 18 => lowWord r.imageCrc32
  | 19 => highWord r.imageCrc32
  | 20 => r.appVersionMajor
  | 21 => r.appVersionMinor
  | 22 => r.appVersionPatch
  | 23 => lowWord r.appVersionBuild
  | 24 => highWord r.appVersionBuild
  | 25 => r.targetDeviceId
  | 26 => r.targetCpuId
  | 27 => r.bootAttemptLimit
  | 28 => r.bootAttemptCount
  | _ => 0xFFFF

/-- The body shared by the three builders: the field words, then the CRC over
them in words 62 and 63. -/
def sealRecord (r : BootMetadataRecord) : RecordWords :=
  let body : RecordWords := Vector.ofFn fun i => fieldWord r i
  let crc := recordCrc body
  (body.set 62 (lowWord crc)).set 63 (highWord crc)

/-- `BootMetadata_BuildImageValidRecord`. -/
def buildImageValidRecord (sequence entryPoint imageSizeWords imageCrc32 : UInt32)
    (appVersionMajor appVersionMinor appVersionPatch : UInt16)
    (appVersionBuild appEnd : UInt32) (targetDeviceId targetCpuId : UInt16) : RecordWords :=
  sealRecord
    { recordType := recordImageValid, sequence, slotId := BootSlot.a, slotRole := BootSlot.a,
      flags := 0, appStart := slotAAppStart, appEnd, entryPoint, imageSizeWords, imageCrc32,
      appVersionMajor, appVersionMinor, appVersionPatch, appVersionBuild, targetDeviceId,
      targetCpuId, bootAttemptLimit, bootAttemptCount := 0, recordCrc32 := 0 }

end BootMetadata

inductive BootMetadataScanState where
  | empty | valid | invalid | duplicateSequence
  deriving DecidableEq, Repr

structure BootMetadataSummary where
  state : BootMetadataScanState
  metadataValid : UInt16
  activeSlot : UInt16
  hasImageValid : UInt16
  appConfirmed : UInt16
  latestRecordType : UInt16
  validRecordCount : UInt16
  invalidRecordCount : UInt16
  erasedRecordCount : UInt16
  freeRecordCount : UInt16
  nextRecordIndex : UInt16
  latestSequence : UInt32
  imageValidSequence : UInt32
  appConfirmedSequence : UInt32
  appStart : UInt32
  appEnd : UInt32
  entryPoint : UInt32
  imageSizeWords : UInt32
  imageCrc32 : UInt32
  appVersionMajor : UInt16
  appVersionMinor : UInt16
  appVersionPatch : UInt16
  appVersionBuild : UInt32
  targetDeviceId : UInt16
  targetCpuId : UInt16
  bootAttemptLimit : UInt16
  bootAttemptCount : UInt16
  deriving DecidableEq, Repr

namespace BootMetadata

/-- The record a builder makes for the image a summary has selected. -/
def summaryRecord (recordType : UInt16) (sequence : UInt32) (summary : BootMetadataSummary)
    (bootAttemptCount : UInt16) : BootMetadataRecord :=
  { recordType, sequence, slotId := BootSlot.a, slotRole := BootSlot.a, flags := 0,
    appStart := summary.appStart, appEnd := summary.appEnd, entryPoint := summary.entryPoint,
    imageSizeWords := summary.imageSizeWords, imageCrc32 := summary.imageCrc32,
    appVersionMajor := summary.appVersionMajor, appVersionMinor := summary.appVersionMinor,
    appVersionPatch := summary.appVersionPatch, appVersionBuild := summary.appVersionBuild,
    targetDeviceId := summary.targetDeviceId, targetCpuId := summary.targetCpuId,
    bootAttemptLimit := summary.bootAttemptLimit, bootAttemptCount, recordCrc32 := 0 }

/-- `BootMetadata_BuildBootAttemptRecord`. -/
def buildBootAttemptRecord (sequence : UInt32) (summary : BootMetadataSummary)
    (bootAttemptCount : UInt16) : RecordWords :=
  sealRecord (summaryRecord recordBootAttempt sequence summary bootAttemptCount)

/-- `BootMetadata_BuildAppConfirmedRecord`. -/
def buildAppConfirmedRecord (sequence : UInt32) (summary : BootMetadataSummary) : RecordWords :=
  sealRecord (summaryRecord recordAppConfirmed sequence summary summary.bootAttemptCount)

/-! ## A built record reads back -/

theorem sealRecord_getElem (r : BootMetadataRecord) {i : Nat} (h : i < 62) :
    (sealRecord r)[i] = fieldWord r i := by
  simp only [sealRecord]
  rw [Vector.getElem_set_ne (by omega) (by omega) (by omega),
    Vector.getElem_set_ne (by omega) (by omega) (by omega), Vector.getElem_ofFn]

/-- The two CRC words do not take part in the CRC. -/
theorem recordCrc_congr {v w : RecordWords} (h : ∀ i (_ : i < 62), v[i] = w[i]) :
    recordCrc v = recordCrc w := by
  simp only [recordCrc]
  congr 1
  apply List.ext_getElem
  · simp
  · intro i hi _
    simp only [List.length_take, Vector.length_toList] at hi
    simp only [List.getElem_take, Vector.getElem_toList]
    exact h i (by omega)

theorem recordCrc_sealRecord (r : BootMetadataRecord) :
    recordCrc (sealRecord r) = recordCrc (Vector.ofFn fun i => fieldWord r i) := by
  apply recordCrc_congr
  intro i hi
  rw [sealRecord_getElem r hi, Vector.getElem_ofFn]

theorem sealRecord_crcLow (r : BootMetadataRecord) :
    (sealRecord r)[62] = lowWord (recordCrc (sealRecord r)) := by
  rw [recordCrc_sealRecord]
  simp [sealRecord]

theorem sealRecord_crcHigh (r : BootMetadataRecord) :
    (sealRecord r)[63] = highWord (recordCrc (sealRecord r)) := by
  rw [recordCrc_sealRecord]
  simp [sealRecord]

/-- The record CRC is stored next to the record, not in it. -/
def withRecordCrc (r : BootMetadataRecord) (crc : UInt32) : BootMetadataRecord :=
  { r with recordCrc32 := crc }

section
variable (r image : BootMetadataRecord) (crc : UInt32)

@[simp] theorem withRecordCrc_recordType : (withRecordCrc r crc).recordType = r.recordType := rfl

@[simp] theorem withRecordCrc_sequence : (withRecordCrc r crc).sequence = r.sequence := rfl

@[simp] theorem areAppFieldsValid_withRecordCrc :
    areAppFieldsValid (withRecordCrc r crc) = areAppFieldsValid r := rfl

@[simp] theorem recordMatchesImage_withRecordCrc :
    recordMatchesImage (withRecordCrc r crc) image = recordMatchesImage r image := rfl

end

/-- A built record as it reads back, with the CRC of its words. -/
def sealed (r : BootMetadataRecord) : BootMetadataRecord :=
  withRecordCrc r (recordCrc (sealRecord r))

/-- What the builders write, the parser reads back, with the CRC filled in. -/
theorem parseRecord_sealRecord (r : BootMetadataRecord) : parseRecord (sealRecord r) = sealed r := by
  have word : ∀ i (h : i < 62), (sealRecord r)[i] = fieldWord r i := fun i h =>
    sealRecord_getElem r h
  simp only [parseRecord, sealRecord_crcLow, sealRecord_crcHigh, Words.joinU32_lowWord_highWord]
  simp only [word, fieldWord, Nat.reduceLT, Words.joinU32_lowWord_highWord, sealed,
    withRecordCrc]

theorem isErasedRecord_eq_false {w : RecordWords} {i : Nat} (h : i < 64)
    (hw : w[i] ≠ erasedWord) : isErasedRecord w = false := by
  rw [isErasedRecord, Vector.all_eq_false]
  exact ⟨i, h, by simpa using hw⟩

/-- A built record is accepted when its type, its slot and its application
fields are: the CRC and the fixed words always are. -/
theorem validateRecord_sealRecord {r : BootMetadataRecord}
    (ht : isRecordTypeValid r.recordType = true) (hs : r.slotId = BootSlot.a)
    (hf : areAppFieldsValid r = true) :
    validateRecord (sealRecord r) = some (sealed r) := by
  have word : ∀ i (h : i < 62), (sealRecord r)[i] = fieldWord r i := fun i h =>
    sealRecord_getElem r h
  have live : isErasedRecord (sealRecord r) = false := by
    apply isErasedRecord_eq_false (i := 0) (by decide)
    rw [word 0 (by decide)]
    show magic0 ≠ erasedWord
    decide
  have fields : areAppFieldsValid (parseRecord (sealRecord r)) = true := by
    rw [parseRecord_sealRecord, sealed, areAppFieldsValid_withRecordCrc, hf]
  have crc : (parseRecord (sealRecord r)).recordCrc32 = recordCrc (sealRecord r) := by
    rw [parseRecord_sealRecord, sealed, withRecordCrc]
  have fixed : ¬ ((sealRecord r)[0] ≠ magic0 ∨ (sealRecord r)[1] ≠ magic1 ∨
      (sealRecord r)[2] ≠ recordVersion ∨ (sealRecord r)[3] ≠ recordWords.toUInt16 ∨
      isRecordTypeValid (sealRecord r)[4] = false ∨ (sealRecord r)[7] ≠ BootSlot.a) := by
    simp only [word, fieldWord, Nat.reduceLT, ht, hs]
    simp
  rw [validateRecord, if_neg (by simp [live]), if_neg fixed, if_neg (by simp [crc]),
    if_neg (by simp [fields]), parseRecord_sealRecord]

/-! ## What validation implies -/

theorem validateRecord_some {w : RecordWords} {r : BootMetadataRecord}
    (h : validateRecord w = some r) :
    r = parseRecord w ∧ isErasedRecord w = false ∧ isRecordTypeValid r.recordType = true ∧
      r.slotId = BootSlot.a ∧ areAppFieldsValid r = true ∧
      joinU32 w[62] w[63] = recordCrc w := by
  unfold validateRecord at h
  split at h
  · cases h
  · rename_i live
    split at h
    · cases h
    · rename_i fixed
      split at h
      · cases h
      · rename_i crc
        split at h
        · cases h
        · rename_i fields
          cases h
          simp only [not_or, Decidable.not_not, ne_eq] at fixed crc
          refine ⟨rfl, by simpa using live, ?_, ?_, by simpa using fields, crc⟩
          · simpa [parseRecord] using fixed.2.2.2.2.1
          · simpa [parseRecord] using fixed.2.2.2.2.2

theorem validateRecord_erased {w : RecordWords} (h : isErasedRecord w = true) :
    validateRecord w = none := by
  rw [validateRecord, if_pos h]

end BootMetadata

end BootUpgrade

import BootUpgrade.Lib.Memory
import BootUpgrade.Gui.MetadataSnapshot
import BootUpgrade.Host.Packets
import BootUpgrade.Metadata.Record

/-! The metadata journal of the protocol simulator, `simulator/core.py`. -/

namespace BootUpgrade

open BootMetadata HostProtocol HostWorkflow

/-- The status and the payload of a response frame of the simulator. -/
structure SimulatorResponse where
  status : UInt16
  payload : List UInt16
  deriving DecidableEq, Repr

/-- `SimulatorCore`, as far as the metadata commands read and write it; the
dictionary `flash` has 0xFFFF wherever it has no word. -/
structure SimulatorCore where
  flash : Memory.Words
  deviceInfo : DeviceInfo
  lastError : BootErrorDetail
  verifySucceeded : Bool

/-- `ErrorOperation.FRAME`. -/
def BootErr.opFrame : UInt16 := 0x0001

namespace SimulatorCore

variable (core : SimulatorCore)

/-- `_fail`. -/
def fail (status operation stage : UInt16) : SimulatorResponse × SimulatorCore :=
  (⟨status, []⟩,
    if operation ≠ BootErr.opFrame then
      { core with lastError := { BootErrorDetail.clear with operation, stage } }
    else core)

/-- `_response` with status OK. -/
def respond (payload : List UInt16) : SimulatorResponse × SimulatorCore :=
  (⟨BootStatus.ok, payload⟩, core)

/-! ## The summary -/

/-- `_metadata_record`. -/
def metadataRecord (index : Nat) : RecordWords :=
  Vector.ofFn fun word => core.flash (slotAStart.toNat + index * 64 + word)

/-- `_metadata_erased`. -/
def metadataErased (record : RecordWords) : Bool := record.all (· == 0xFFFF)

/-- `join_u32(record[5], record[6])`. -/
def recordSequence (record : RecordWords) : UInt32 := joinU32 record[5]! record[6]!

/-- A record that `_metadata_summary_payload` does not count as invalid. -/
def usableRecord (record : RecordWords) : Bool :=
  !(record[0]! != magic0 || record[1]! != magic1 || record[2]! != recordVersion ||
    record[3]! != recordWords.toUInt16 ||
    !(record[4]! == recordImageValid || record[4]! == recordBootAttempt ||
      record[4]! == recordAppConfirmed) ||
    crc32Words (record.toList.take 62) != joinU32 record[62]! record[63]!)

/-- `latest is None or` the record is newer, then `latest = record`. -/
def replaceLatest (latest : Option RecordWords) (record : RecordWords) : Option RecordWords :=
  match latest with
  | none => some record
  | some l => if recordSequence record > recordSequence l then some record else some l

/-- The locals of the loop of `_metadata_summary_payload`. -/
structure SummaryLocals where
  erased : Nat
  invalid : Nat
  firstFree : Nat
  latest : Option RecordWords
  latestImage : Option RecordWords
  validRecords : List RecordWords

def SummaryLocals.init : SummaryLocals := ⟨0, 0, 0xFFFF, none, none, []⟩

/-- The body of the loop. -/
def summarySlot (s : SummaryLocals) (index : Nat) : SummaryLocals :=
  let record := core.metadataRecord index
  if metadataErased record then
    { s with
      erased := s.erased + 1
      firstFree := if s.firstFree = 0xFFFF then index else s.firstFree }
  else if usableRecord record = false then { s with invalid := s.invalid + 1 }
  else
    { s with
      validRecords := s.validRecords ++ [record]
      latest := replaceLatest s.latest record
      latestImage :=
        if record[4]! = recordImageValid then replaceLatest s.latestImage record
        else s.latestImage }

/-- `matches_image`. -/
def matchesImage (image record : RecordWords) : Bool :=
  record[7]! == image[7]! && record[14]! == image[14]! && record[15]! == image[15]! &&
    record[16]! == image[16]! && record[17]! == image[17]! && record[18]! == image[18]! &&
    record[19]! == image[19]!

/-- The records of a type that count for `image`. -/
def boundTo (image : RecordWords) (recordType : UInt16) (record : RecordWords) : Bool :=
  record[4]! == recordType && decide (recordSequence record > recordSequence image) &&
    matchesImage image record

/-- What `_metadata_summary_payload` returns after the loop. -/
def summaryPayload (s : SummaryLocals) : List UInt16 :=
  let counts (valid : Nat) := [UInt16.ofNat valid, UInt16.ofNat s.invalid, UInt16.ofNat s.erased,
    UInt16.ofNat s.erased, UInt16.ofNat s.firstFree]
  match s.latestImage with
  | none =>
    [0, 0, 0, 0, 0, 3, 0, 0, 0, 0, 0, 0, 0, 0, 0, if s.invalid = 0 then 0 else 2] ++ counts 0 ++
      [0, 0, 0, 0]
  | some image =>
    let attemptCount := s.validRecords.countP (boundTo image recordBootAttempt)
    let appConfirmed := s.validRecords.any (boundTo image recordAppConfirmed)
    -- a selected image is a valid record, so there is a latest one
    let latestType := match s.latest with
      | none => 0
      | some latest => latest[4]!
    [1, BootSlot.a, latestType, UInt16.ofNat attemptCount, if appConfirmed then 1 else 0, 3,
      image[20]!, image[21]!, image[22]!, image[23]!, image[24]!, image[14]!, image[15]!, image[18]!,
      image[19]!, 1] ++ counts s.validRecords.length ++ [image[16]!, image[17]!, image[25]!, image[26]!]

/-- `_metadata_summary_payload`. -/
def metadataSummaryPayload : List UInt16 :=
  summaryPayload ((List.range 16).foldl core.summarySlot .init)

/-- `_get_metadata_summary`. -/
def getMetadataSummary (payload : List UInt16) : SimulatorResponse × SimulatorCore :=
  if payload ≠ [] then
    core.fail BootStatus.badPayloadLength BootErr.opFrame BootErr.stagePayload
  else core.respond core.metadataSummaryPayload

/-! ## The records -/

/-- `record[62], record[63] = split_u32(crc32_words(record[:62]))`. -/
def sealWords (record : RecordWords) : RecordWords :=
  let crc := crc32Words (record.toList.take 62)
  (record.setIfInBounds 62 (lowWord crc)).setIfInBounds 63 (highWord crc)

/-- `_build_image_valid_record`. -/
def buildImageValidRecord (payload : List UInt16) (sequence : UInt32) (device : DeviceInfo) :
    RecordWords :=
  let word (index : Nat) := payload.getD index 0
  sealWords (Vector.ofFn fun index =>
    match index.val with
    | 0 => magic0
    | 1 => magic1
    | 2 => recordVersion
    | 3 => recordWords.toUInt16
    | 4 => recordImageValid
    | 5 => lowWord sequence
    | 6 => highWord sequence
    | 7 => BootSlot.a
    | 8 => BootSlot.a
    | 9 => 0
    | 10 => lowWord slotAAppStart
    | 11 => highWord slotAAppStart
    | 12 => word 13
    | 13 => word 14
    | 14 => word 2
    | 15 => word 3
    | 16 => word 4
    | 17 => word 5
    | 18 => word 6
    | 19 => word 7
    | 20 => word 8
    | 21 => word 9
    | 22 => word 10
    | 23 => word 11
    | 24 => word 12
    | 25 => device.deviceId
    | 26 => device.cpuId
    | 27 => bootAttemptLimit
    | 28 => 0
    | _ => 0xFFFF)

/-- `_build_boot_attempt_record`. -/
def buildBootAttemptRecord (summary : MetadataSummary) (sequence : UInt32) : RecordWords :=
  sealWords (Vector.ofFn fun index =>
    match index.val with
    | 0 => magic0
    | 1 => magic1
    | 2 => recordVersion
    | 3 => recordWords.toUInt16
    | 4 => recordBootAttempt
    | 5 => lowWord sequence
    | 6 => highWord sequence
    | 7 => BootSlot.a
    | 8 => BootSlot.a
    | 9 => 0
    | 10 => lowWord slotAAppStart
    | 11 => highWord slotAAppStart
    | 12 => lowWord slotAAppEnd
    | 13 => highWord slotAAppEnd
    | 14 => lowWord summary.entryPoint
    | 15 => highWord summary.entryPoint
    | 16 => lowWord summary.imageSizeWords
    | 17 => highWord summary.imageSizeWords
    | 18 => lowWord summary.imageCrc32
    | 19 => highWord summary.imageCrc32
    | 20 => summary.appVersionMajor
    | 21 => summary.appVersionMinor
    | 22 => summary.appVersionPatch
    | 23 => lowWord summary.appVersionBuild
    | 24 => highWord summary.appVersionBuild
    | 25 => summary.targetDeviceId
    | 26 => summary.targetCpuId
    | 27 => summary.bootAttemptLimit
    | 28 => summary.bootAttemptCount + 1
    | _ => 0xFFFF)

/-- `_build_app_confirmed_record`. -/
def buildAppConfirmedRecord (summary : MetadataSummary) (sequence : UInt32) : RecordWords :=
  sealWords (((buildBootAttemptRecord summary sequence).setIfInBounds 4
    recordAppConfirmed).setIfInBounds 28 summary.bootAttemptCount)

/-! ## The appends -/

/-- The first erased slot. -/
def firstFree : Option Nat := (List.range 16).find? fun index => metadataErased (core.metadataRecord index)

/-- One more than the greatest sequence of the slots that are not erased. -/
def nextSequence : Nat :=
  let used := (List.range 16).filter fun index => !metadataErased (core.metadataRecord index)
  1 + (used.map fun index => (recordSequence (core.metadataRecord index)).toNat).foldl max 0

/-- `self.flash.update` with the record of the next sequence in the first free
slot; `split_u32` raises where the sequence does not fit. -/
def appendRecord (record : UInt32 → RecordWords) :
    Except HostError (SimulatorResponse × SimulatorCore) :=
  match core.firstFree with
  | none => .ok (core.fail BootStatus.metadataFull BootErr.opProgram BootErr.stageState)
  | some free =>
    if core.nextSequence > 0xFFFFFFFF then .error (.valueError "value must fit uint32")
    else
      let words := (record (UInt32.ofNat core.nextSequence)).toList
      .ok ({ core with flash := Memory.store core.flash (slotAStart.toNat + free * 64) words }.respond
        [])

/-- The BOOT_ATTEMPT and APP_CONFIRMED branch of `_metadata_append_record`. -/
def appendFollowUp (payload : List UInt16) : Except HostError (SimulatorResponse × SimulatorCore) :=
  let word (index : Nat) := payload.getD index 0
  let u32 (index : Nat) := joinU32 (word index) (word (index + 1))
  if ((payload.drop 8).take 7).any (· ≠ 0) then
    .ok (core.fail BootStatus.badPayloadLength BootErr.opProgram BootErr.stagePayload)
  else
    (MetadataSummary.fromWords core.metadataSummaryPayload).bind fun summary =>
      if summary.metadataValid = 0 then
        .ok (core.fail BootStatus.metadataInvalid BootErr.opProgram BootErr.stageState)
      else if word 0 = recordAppConfirmed ∧ summary.bootAttemptCount = 0 then
        .ok (core.fail BootStatus.invalidState BootErr.opProgram BootErr.stageState)
      else if summary.appConfirmed ≠ 0 then .ok (core.respond [])
      else if word 0 = recordBootAttempt ∧ summary.bootAttemptCount ≥ summary.bootAttemptLimit then
        .ok (core.fail BootStatus.attemptLimitReached BootErr.opProgram BootErr.stageState)
      else if u32 2 ≠ summary.entryPoint ∨ u32 4 ≠ summary.imageSizeWords ∨
          u32 6 ≠ summary.imageCrc32 then
        .ok (core.fail BootStatus.metadataInvalid BootErr.opProgram BootErr.stageState)
      else
        core.appendRecord fun sequence =>
          if word 0 = recordBootAttempt then buildBootAttemptRecord summary sequence
          else buildAppConfirmedRecord summary sequence

/-- The end of the IMAGE_VALID branch: the record, and the closed verify gate. -/
def appendVerified (payload : List UInt16) :
    Except HostError (SimulatorResponse × SimulatorCore) :=
  (core.appendRecord fun sequence => buildImageValidRecord payload sequence core.deviceInfo).map
    fun (response, written) =>
      if response.status ≠ BootStatus.ok then (response, written)
      else (response, { written with verifySucceeded := false })

/-- The IMAGE_VALID branch of `_metadata_append_record`. -/
def appendImageValid (payload : List UInt16) :
    Except HostError (SimulatorResponse × SimulatorCore) :=
  let u32 (index : Nat) := joinU32 (payload.getD index 0) (payload.getD (index + 1) 0)
  let entryPoint := u32 2
  let imageSizeWords := u32 4
  let appEnd := u32 13
  if imageSizeWords = 0 then
    .ok (core.fail BootStatus.badWordCount BootErr.opProgram BootErr.stagePayload)
  else if entryPoint < slotAAppStart ∨ entryPoint ≥ slotAAppEnd ∨ entryPoint % 8 ≠ 0 then
    .ok (core.fail BootStatus.badAddress BootErr.opProgram BootErr.stageAddressCheck)
  else if appEnd ≤ slotAAppStart ∨ appEnd > slotAAppEnd then
    .ok (core.fail BootStatus.badAddress BootErr.opProgram BootErr.stageAddressCheck)
  else if core.verifySucceeded = false then
    .ok (core.fail BootStatus.invalidState BootErr.opProgram BootErr.stageState)
  else core.appendVerified payload

/-- `_metadata_append_record`. -/
def metadataAppendRecord (payload : List UInt16) :
    Except HostError (SimulatorResponse × SimulatorCore) :=
  let word (index : Nat) := payload.getD index 0
  if payload.length ≠ 16 then
    .ok (core.fail BootStatus.badPayloadLength BootErr.opProgram BootErr.stagePayload)
  else if isRecordTypeValid (word 0) = false then
    .ok (core.fail BootStatus.unsupportedFeature BootErr.opProgram BootErr.stagePayload)
  else if word 1 ≠ BootSlot.a then
    .ok (core.fail BootStatus.unsupportedFeature BootErr.opProgram BootErr.stagePayload)
  else if word 15 ≠ 0 then
    .ok (core.fail BootStatus.badFlags BootErr.opProgram BootErr.stagePayload)
  else if word 0 = recordBootAttempt ∨ word 0 = recordAppConfirmed then core.appendFollowUp payload
  else core.appendImageValid payload

end SimulatorCore

end BootUpgrade

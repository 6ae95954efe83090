import BootUpgrade.Host.BootProtocolClient
import BootUpgrade.Host.FlashImage

/-! The metadata status of the GUI: `MetadataSummary` of `protocol/models.py`
and `RuntimeBackend._metadata_snapshot`. -/

namespace BootUpgrade

/-- `MetadataSummary`. -/
structure MetadataSummary where
  metadataValid : UInt16
  activeSlot : UInt16
  latestRecordType : UInt16
  bootAttemptCount : UInt16
  appConfirmed : UInt16
  bootAttemptLimit : UInt16
  appVersionMajor : UInt16
  appVersionMinor : UInt16
  appVersionPatch : UInt16
  appVersionBuild : UInt32
  entryPoint : UInt32
  imageCrc32 : UInt32
  state : UInt16
  validRecordCount : UInt16
  invalidRecordCount : UInt16
  erasedRecordCount : UInt16
  freeRecordCount : UInt16
  nextRecordIndex : UInt16
  imageSizeWords : UInt32
  targetDeviceId : UInt16
  targetCpuId : UInt16
  deriving DecidableEq, Repr

/-- `MetadataSummary.from_words`. -/
def MetadataSummary.fromWords : List UInt16 → Except HostError MetadataSummary
  | [metadataValid, activeSlot, latestRecordType, bootAttemptCount, appConfirmed, bootAttemptLimit,
      appVersionMajor, appVersionMinor, appVersionPatch, buildLow, buildHigh, entryLow, entryHigh,
      crcLow, crcHigh, state, validRecordCount, invalidRecordCount, erasedRecordCount,
      freeRecordCount, nextRecordIndex, sizeLow, sizeHigh, targetDeviceId, targetCpuId] =>
    .ok {
      metadataValid, activeSlot, latestRecordType, bootAttemptCount, appConfirmed, bootAttemptLimit
      appVersionMajor, appVersionMinor, appVersionPatch
      appVersionBuild := joinU32 buildLow buildHigh
      entryPoint := joinU32 entryLow entryHigh
      imageCrc32 := joinU32 crcLow crcHigh
      state, validRecordCount, invalidRecordCount, erasedRecordCount, freeRecordCount
      nextRecordIndex
      imageSizeWords := joinU32 sizeLow sizeHigh
      targetDeviceId, targetCpuId }
  | _ => .error (.valueError "MetadataSummary requires exactly 25 words")

namespace MetadataScanState

/-- `MetadataScanState.VALID`. -/
def valid : UInt16 := 1

end MetadataScanState

/-- The derived fields of `MetadataStatusSnapshot`. -/
structure MetadataStatusSnapshot where
  rawMetadata : MetadataSummary
  metadataValid : Bool
  imageValid : Bool
  entryPointValid : Bool
  bootAttemptPresent : Bool
  appConfirmed : Bool
  confirmedBootable : Bool
  deriving DecidableEq, Repr

/-- `AddressRange.contains`. -/
def AddressRange.contains (range : AddressRange) (address : Nat) : Bool :=
  range.start ≤ address && address < range.endExclusive

namespace RuntimeBackend

open HostProtocol

/-- `RuntimeBackend._metadata_snapshot`; `none` where it raises for want of a
DeviceInfo. -/
def metadataSnapshot (deviceInfo : Option DeviceInfo) (target : Option TargetMemoryMap)
    (raw : MetadataSummary) : Option MetadataStatusSnapshot :=
  match deviceInfo with
  | none => none
  | some info =>
    let metadataValid := raw.metadataValid != 0 && raw.state == MetadataScanState.valid
    let imageValid := metadataValid && (raw.entryPoint != 0 && raw.imageSizeWords != 0 &&
      raw.imageCrc32 != 0 && raw.targetDeviceId == info.deviceId && raw.targetCpuId == info.cpuId)
    let flash := target.bind (·.flash)
    let entryPointValid := imageValid && raw.entryPoint % 8 == 0 &&
      flash.any fun flash => flash.appRanges.any (·.contains raw.entryPoint.toNat)
    let bootAttemptPresent := imageValid && decide (raw.bootAttemptCount > 0)
    let appConfirmed := imageValid && raw.appConfirmed != 0
    some {
      rawMetadata := raw
      metadataValid, imageValid, entryPointValid, bootAttemptPresent, appConfirmed
      confirmedBootable := metadataValid && imageValid && entryPointValid && bootAttemptPresent &&
        appConfirmed }

end RuntimeBackend

end BootUpgrade

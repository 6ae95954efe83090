import BootUpgrade.Host.FlashOperations

/-!
# The readback of a metadata write

After a write the backend reads the metadata again and compares what it finds with
what the operation has reported.
-/

namespace BootUpgrade.RuntimeBackend

open HostImages HostOperations

/-- What the readback is compared with: the image of the request, or what the metadata said of
the current one. -/
def readbackSource (identity : Option ImageIdentity) (expected : MetadataSummary) : ImageIdentity :=
  identity.getD ⟨expected.entryPoint.toNat, expected.imageSizeWords.toNat, expected.imageCrc32, 0⟩

/-- `image_matches` of `_metadata_readback_matches`. -/
def imageMatches (raw : MetadataSummary) (source : ImageIdentity)
    (metadataSnapshot : MetadataStatusSnapshot) : Bool :=
  metadataSnapshot.metadataValid && metadataSnapshot.imageValid &&
    raw.entryPoint.toNat == source.entryPoint && raw.imageSizeWords.toNat == source.imageSizeWords &&
    raw.imageCrc32 == source.imageCrc32

/-- `RuntimeBackend._metadata_readback_matches`; `expected` is the raw metadata of the
expected snapshot. -/
def metadataReadbackMatches (operationType : HostRecordType) (primary : MetadataAppend)
    (raw : MetadataSummary) (identity : Option ImageIdentity)
    (metadataSnapshot : MetadataStatusSnapshot) (expected : MetadataSummary) : Bool :=
  let matched := imageMatches raw (readbackSource identity expected) metadataSnapshot
  if operationType = .imageValid then
    if primary.written then matched
    else if primary.reason = some "IMAGE_VALID_ALREADY_EXISTS" then
      metadataSnapshot.metadataValid && metadataSnapshot.imageValid
    else if primary.reason = some "METADATA_INVALID" then !metadataSnapshot.metadataValid
    else false
  else if primary.reason = some "METADATA_INVALID" then !metadataSnapshot.metadataValid
  else if primary.reason = some "IMAGE_VALID_REQUIRED" then !metadataSnapshot.imageValid
  else if primary.reason = some "APP_CONFIRMED_ALREADY_EXISTS" then
    matched && metadataSnapshot.appConfirmed
  else if primary.reason = some "BOOT_ATTEMPT_LIMIT_REACHED" then
    matched && decide (raw.bootAttemptCount ≥ min raw.bootAttemptLimit 3)
  else if primary.reason = some "BOOT_ATTEMPT_REQUIRED" then matched && raw.bootAttemptCount == 0
  else if operationType = .bootAttempt then
    matched && raw.bootAttemptCount.toNat == expected.bootAttemptCount.toNat + 1
  else matched && raw.appConfirmed != 0

end BootUpgrade.RuntimeBackend

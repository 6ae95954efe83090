import BootUpgrade.Host.OperationResult

/-!
# RAM App images

`images/ram_image.py`, the RAM packets of `core/workflow.py` and the operations
of `operations/ram_ops.py` and `execution_ops.py` on them. RAM packets are not
padded.
-/

namespace BootUpgrade

namespace Cpu1

/-- The RAM layout of `CPU1_MEMORY_MAP`, its ranges those of `RAM_WRITE_RANGES`. -/
def ram : RamLayout where
  serviceRanges := [⟨0x010000, 0x01BFF8, by decide⟩]
  ramAppRanges :=
    [⟨0x000000, 0x000002, by decide⟩, ⟨0x000123, 0x000400, by decide⟩,
      ⟨0x008000, 0x00C000, by decide⟩, ⟨0x010000, 0x01BFF8, by decide⟩,
      ⟨0x03F800, 0x040000, by decide⟩, ⟨0x049000, 0x049800, by decide⟩,
      ⟨0x04B000, 0x04B800, by decide⟩]
  reservedRanges := []

end Cpu1

namespace HostImages

structure PreparedRamImage where
  image : FirmwareImage
  entryPoint : Nat
  totalWords : Nat
  imageCrc32 : Nat

/-- `_overlaps`. -/
def overlapsAny (start endExclusive : Nat) (ranges : List AddressRange) : Bool :=
  ranges.any fun item => start < item.endExclusive && endExclusive > item.start

/-- The loop of `validate_ram_app_image` over the blocks. -/
def checkRamBlocks (ram : RamLayout) : List FirmwareBlock → Except HostError Unit
  | [] => .ok ()
  | block :: rest =>
    if ¬ insideAny block.address block.endExclusive ram.ramAppRanges then
      .error (.valueError "RAM App block is outside target RAM app ranges")
    else if overlapsAny block.address block.endExclusive ram.reservedRanges then
      .error (.valueError "RAM App block overlaps reserved RAM")
    else if overlapsAny block.address block.endExclusive ram.serviceRanges then
      .error (.valueError "RAM App block overlaps service RAM")
    else checkRamBlocks ram rest

/-- `validate_ram_app_image`. -/
def validateRamAppImage (image : FirmwareImage) (ram : RamLayout) : Except HostError Unit :=
  if ¬ insideAny image.entryPoint (image.entryPoint + 1) ram.ramAppRanges then
    .error (.valueError "RAM App entry point is outside target RAM app ranges")
  else checkRamBlocks ram image.blocks

end HostImages

namespace HostWorkflow

/-- The `while` loop of `_prepare_ram_packets` on the rest of a block. It does not end
on `max_data_words` 0, where this one stops. -/
def ramBlockPackets (maxDataWords address index : Nat) (words : List UInt16) : List DataPacket :=
  if words = [] ∨ maxDataWords = 0 then []
  else
    ⟨address, words.take maxDataWords, index⟩ ::
      ramBlockPackets maxDataWords (address + (words.take maxDataWords).length) (index + 1)
        (words.drop maxDataWords)
termination_by words.length
decreasing_by
  rename_i more
  rw [not_or] at more
  have := List.length_pos_iff.2 more.1
  rw [List.length_drop]
  omega

/-- The `for` loop of `_prepare_ram_packets`. -/
def ramImagePackets (maxDataWords index : Nat) : List FirmwareBlock → List DataPacket
  | [] => []
  | block :: rest =>
    let packets := ramBlockPackets maxDataWords block.address index block.words
    packets ++ ramImagePackets maxDataWords (index + packets.length) rest

/-- `_prepare_ram_packets`. -/
def prepareRamPackets (image : FirmwareImage) (maxDataWords : Nat) :
    Except HostError (List DataPacket) :=
  let packets := ramImagePackets maxDataWords 0 (mergeContiguous image.blocks)
  if packets.length > 0xFFFF then
    .error (.workflowError "RAM image requires more than 65535 protocol packets")
  else .ok packets

/-- `calculate_ram_image_crc32`. -/
def calculateRamImageCrc32 (image : FirmwareImage) (maxDataWords : Nat) : Except HostError UInt32 := do
  let packets ← prepareRamPackets image maxDataWords
  return crc32Words (packets.flatMap (·.words))

end HostWorkflow

namespace HostImages

/-- `prepare_ram_app_image`, from the image that `load_firmware_image` has read. -/
def prepareRamAppImage (ram : Option RamLayout) (image : FirmwareImage) :
    Except HostError PreparedRamImage :=
  match ram with
  | none => .error (.valueError "target must define a RAM layout")
  | some ram => do
    validateRamAppImage image ram
    let crc32 ← HostWorkflow.calculateRamImageCrc32 image 248
    return ⟨image, image.entryPoint, image.totalWords, crc32.toNat⟩

end HostImages

namespace HostOperations

open HostClient HostImages HostWorkflow

/-- `_validate_image`. -/
def validateImage (ctx : OperationContext) (image : PreparedRamImage) : Except HostError Unit :=
  if image.entryPoint ≠ image.image.entryPoint then
    .error (.operationFailure "INVALID_RAM_IMAGE"
      "prepared RAM entry point does not match firmware image" "RAM_ADMISSION")
  else if image.totalWords ≠ image.image.totalWords then
    .error (.operationFailure "INVALID_RAM_IMAGE"
      "prepared RAM word count does not match firmware image" "RAM_ADMISSION")
  else
    match ctx.ram with
    | none => .error (.unsupportedOperationError "target does not define a RAM layout")
    | some ram =>
      match validateRamAppImage image.image ram with
      | .error (.valueError message) =>
        .error (.operationFailure "INVALID_RAM_IMAGE" message "RAM_ADMISSION")
      | .error error => .error error
      | .ok () => .ok ()

/-- `load_ram_image`. -/
def loadRamImage (ctx : OperationContext) (image : PreparedRamImage) :
    HostDialogue (OperationResult (Option (Nat × Nat))) :=
  failureResult <|
    (Dialogue.lift (validateImage ctx image)).bind fun _ =>
    (Dialogue.lift (prepareRamPackets image.image ctx.maxDataWords)).bind fun packets =>
    ((TransferKind.ramLoad.transfer ctx.maxPayloadWords image.entryPoint image.imageCrc32
      packets).runCancellableTransfer ctx.transferPolls).bind fun outcome => .done outcome.result

/-- `ram_check_crc_protocol`. -/
def ramCheckCrcProtocol (maxPayloadWords expectedCrc32 expectedTotalWords : Nat) :
    HostDialogue (List UInt16) :=
  (Dialogue.lift do
    return (← splitU32 expectedCrc32) ++ (← splitU32 expectedTotalWords) ++ [0]).bind fun payload =>
    transact maxPayloadWords BootCmd.ramCheckCrc payload

/-- `check_ram_crc`; the summary is `image_crc32` and `total_words`. -/
def checkRamCrc (ctx : OperationContext) (image : PreparedRamImage) :
    HostDialogue (OperationResult (Nat × Nat)) :=
  failureResult <|
    (Dialogue.lift (validateImage ctx image)).bind fun _ =>
    (ramCheckCrcProtocol ctx.maxPayloadWords image.imageCrc32 image.totalWords).bind fun _ =>
    .done (.succeeded (image.imageCrc32, image.totalWords))

/-- `run_ram_image`; the summary is `entry_point`. -/
def runRamImage (ctx : OperationContext) (entryPoint : Nat) : HostDialogue (OperationResult Nat) :=
  failureResult <|
    (Dialogue.lift (splitU32 entryPoint)).bind fun entry =>
    (transact ctx.maxPayloadWords BootCmd.runRam (entry ++ [0])).bind fun _ =>
    .done (.succeeded entryPoint)

end HostOperations

end BootUpgrade

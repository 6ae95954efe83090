import BootUpgrade.Host.RamImage

/-!
# Attaching the Flash service

`ensure_service_attached` of `operations/_service_runtime.py`. A service that
the device reports as attached is used again; any other is loaded into RAM with
the commands of a RAM load, checked and attached.
-/

namespace BootUpgrade

/-- `ServiceStatus`. -/
structure ServiceStatus where
  serviceState : UInt16
  abiMajor : UInt16
  abiMinor : UInt16
  reserved0 : UInt16
  reserved1 : UInt16
  capabilities : UInt32
  lastAttachStatus : UInt16
  loadedImageCrc32 : UInt32
  loadedImageWords : UInt32
  deriving DecidableEq, Repr

/-- `ServiceStatus.from_words`. -/
def ServiceStatus.fromWords : List UInt16 → Except HostError ServiceStatus
  | [serviceState, abiMajor, abiMinor, reserved0, reserved1, capabilitiesLow, capabilitiesHigh,
      lastAttachStatus, crcLow, crcHigh, wordsLow, wordsHigh] =>
    .ok {
      serviceState, abiMajor, abiMinor, reserved0, reserved1
      capabilities := joinU32 capabilitiesLow capabilitiesHigh
      lastAttachStatus
      loadedImageCrc32 := joinU32 crcLow crcHigh
      loadedImageWords := joinU32 wordsLow wordsHigh }
  | _ => .error (.valueError "ServiceStatus requires exactly 12 words")

namespace HostImages

structure PreparedServiceImage where
  image : FirmwareImage
  headerAddress : Nat
  totalWords : Nat
  expectedCrc32 : UInt32
  requiredCapabilities : UInt32

end HostImages

namespace HostWorkflow

/-- The inner loop of `prepare_service_ram_packets`, over the offsets of a block. -/
def serviceBlockPackets (maxDataWords index : Nat) (block : FirmwareBlock) : List DataPacket :=
  (List.range (Chunks.count maxDataWords block.words)).map fun k =>
    ⟨block.address + maxDataWords * k, Chunks.chunk maxDataWords block.words k, index + k⟩

/-- The loop over the blocks. -/
def serviceImagePackets (maxDataWords index : Nat) : List FirmwareBlock → List DataPacket
  | [] => []
  | block :: rest =>
    let packets := serviceBlockPackets maxDataWords index block
    packets ++ serviceImagePackets maxDataWords (index + packets.length) rest

/-- `prepare_service_ram_packets`; blocks that touch are left apart. -/
def prepareServiceRamPackets (image : FirmwareImage) (maxDataWords : Nat) :
    Except HostError (List DataPacket) :=
  if maxDataWords = 0 then .error (.valueError "max_data_words must be positive")
  else
    let packets := serviceImagePackets maxDataWords 0 (sortedBlocks image.blocks)
    if packets.length > 0xFFFF then
      .error (.valueError "service image requires more than 65535 protocol packets")
    else .ok packets

end HostWorkflow

/-- The transfer of `ensure_service_attached`. -/
def TransferKind.serviceLoad : TransferKind :=
  { TransferKind.ramLoad with
    recoveryAction := fun _ => "RESTART_SERVICE_LOAD"
    reconnectRecoveryAction := fun _ => "RECONNECT_AND_RESTART_SERVICE_LOAD"
    serviceAttached := false }

/-- `FlashOperationContext`; `servicePolls` reads the token inside
`ensure_service_attached`. -/
structure FlashOperationContext extends OperationContext where
  service : HostImages.PreparedServiceImage
  forceServiceAttach : Bool
  servicePolls : Nat → Bool
  serviceTransferPolls : Nat → Bool

/-- `ServiceRuntimeSummary`: what has been done and the status that led to it. -/
structure ServiceRuntimeSummary where
  reused : Bool
  attachPerformed : Bool
  status : ServiceStatus

/-- `ServiceRuntimeCancellation`. -/
structure ServiceRuntimeCancellation where
  cancellation : OperationCancellationInfo
  service : Option ServiceRuntimeSummary
  cleanupError : Option HostError

namespace HostOperations

open HostClient HostImages HostWorkflow

def serviceAbiMajor : UInt16 := 2
def serviceAbiMinor : UInt16 := 0
/-- `ServiceState.ATTACHED`. -/
def serviceStateAttached : UInt16 := 0x0002

variable (ctx : FlashOperationContext)

/-- `_read_status`. -/
def readStatus : HostDialogue ServiceStatus :=
  (transact ctx.maxPayloadWords BootCmd.getServiceStatus []).bind fun words =>
    .lift (ServiceStatus.fromWords words)

/-- `_matches`. -/
def serviceMatches (status : ServiceStatus) : Bool :=
  status.serviceState == serviceStateAttached && status.abiMajor == serviceAbiMajor &&
    status.abiMinor == serviceAbiMinor &&
    status.loadedImageCrc32 == ctx.service.expectedCrc32 &&
    status.loadedImageWords.toNat == ctx.service.totalWords &&
    status.capabilities &&& ctx.service.requiredCapabilities == ctx.service.requiredCapabilities

/-- `_validate_attached`. -/
def validateAttached (status : ServiceStatus) : Except HostError Unit :=
  if status.serviceState ≠ serviceStateAttached then
    .error (.operationFailure "SERVICE_ATTACH_FAILED" "service is not attached" "SERVICE_ATTACH")
  else if status.abiMajor ≠ serviceAbiMajor ∨ status.abiMinor ≠ serviceAbiMinor then
    .error (.operationFailure "SERVICE_ABI_MISMATCH"
      "attached service ABI does not match host expectation" "SERVICE_ATTACH")
  else if status.capabilities &&& ctx.service.requiredCapabilities ≠
      ctx.service.requiredCapabilities then
    .error (.operationFailure "SERVICE_CAPABILITY_MISMATCH"
      "attached service does not provide required capabilities" "SERVICE_ATTACH")
  else .ok ()

/-- What `ensure_service_attached` returns. -/
abbrev ServiceRuntime := Except ServiceRuntimeCancellation ServiceRuntimeSummary

/-- `_cancelled`. -/
def serviceCancelled (info : Except HostError OperationCancellationInfo)
    (service : Option ServiceRuntimeSummary) : HostDialogue ServiceRuntime :=
  (Dialogue.lift info).bind fun cancellation => .done (.error ⟨cancellation, service, none⟩)

/-- `ensure_service_attached` once the service is loaded: the check, the attach and the
status that has to come of it. -/
def attachLoaded (totalWords : Nat) : HostDialogue ServiceRuntime :=
  let cancelled (stage : String) (stage_ne : stage ≠ "") (attached : Bool) (action : String)
      (action_mem : action ∈ recoveryActions) : HostDialogue ServiceRuntime :=
    serviceCancelled (cancellationInfo stage totalWords ctx.service.totalWords attached action
      stage_ne action_mem) none
  if ctx.servicePolls 2 then
    cancelled "RAM_CHECK_CRC" (by decide) false "RESTART_SERVICE_LOAD" (by decide)
  else
    (ramCheckCrcProtocol ctx.maxPayloadWords ctx.service.expectedCrc32.toNat
      ctx.service.totalWords).bind fun _ =>
    if ctx.servicePolls 3 then
      cancelled "SERVICE_ATTACH" (by decide) false "RESTART_SERVICE_LOAD" (by decide)
    else
      (Dialogue.lift do
        return (← splitU32 ctx.service.headerAddress) ++
          (← splitU32 ctx.service.expectedCrc32.toNat) ++ (← splitU32 ctx.service.totalWords) ++
          [0]).bind fun payload =>
      (transact ctx.maxPayloadWords BootCmd.serviceAttach payload).bind fun _ =>
      if ctx.servicePolls 4 then
        cancelled "GET_SERVICE_STATUS" (by decide) true "NONE" (by decide)
      else
        (readStatus ctx).bind fun status =>
        (Dialogue.lift (validateAttached ctx status)).bind fun _ =>
        if status.loadedImageCrc32 ≠ ctx.service.expectedCrc32 ∨
            status.loadedImageWords.toNat ≠ ctx.service.totalWords then
          .fail (.operationFailure "SERVICE_ATTACH_FAILED"
            "attached service image does not match request" "SERVICE_ATTACH")
        else .done (.ok ⟨false, true, status⟩)

/-- The load of the service by these packets and what follows it. -/
def loadPackets (packets : List DataPacket) : HostDialogue ServiceRuntime :=
  ((TransferKind.serviceLoad.transfer ctx.maxPayloadWords ctx.service.image.entryPoint
    ctx.service.expectedCrc32.toNat packets).runCancellableTransfer
      ctx.serviceTransferPolls).bind fun outcome =>
  match outcome.cancellation with
  | some cancellation =>
    let cancellation :=
      if outcome.completedAfterCancel then
        { cancellation with
          serviceAttached := some false
          recoveryAction := "RESTART_SERVICE_LOAD"
          action_mem := by decide }
      else cancellation
    .done (.error ⟨cancellation, none, outcome.cleanupError⟩)
  | none => attachLoaded ctx (totalWords packets)

/-- `ensure_service_attached` from the load of the service on. -/
def loadService : HostDialogue ServiceRuntime :=
  (Dialogue.lift (prepareServiceRamPackets ctx.service.image ctx.maxDataWords)).bind
    (loadPackets ctx)

/-- `ensure_service_attached`. -/
def ensureServiceAttached : HostDialogue ServiceRuntime :=
  if ctx.servicePolls 0 then
    serviceCancelled (cancellationInfo "GET_SERVICE_STATUS" 0 ctx.service.totalWords none
      "RESTART_SERVICE_LOAD") none
  else
    (readStatus ctx).bind fun status =>
    if !ctx.forceServiceAttach && serviceMatches ctx status then
      if ctx.servicePolls 1 then
        serviceCancelled (cancellationInfo "GET_SERVICE_STATUS" 0 ctx.service.totalWords (some true)
          "NONE") (some ⟨true, false, status⟩)
      else .done (.ok ⟨true, false, status⟩)
    else if ctx.servicePolls 1 then
      serviceCancelled (cancellationInfo "GET_SERVICE_STATUS" 0 ctx.service.totalWords (some false)
        "RESTART_SERVICE_LOAD") none
    else loadService ctx

end HostOperations

end BootUpgrade

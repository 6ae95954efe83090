import BootUpgrade.Core.Service
import BootUpgrade.Metadata.Scan

/-! The bootloader core of `boot_algorithm.c`: one request at a time, from the
received frame to the response and the action for the caller. -/

namespace BootUpgrade

inductive BootAlgorithmAction where
  | none | runFlashApp | resetDevice | runRamApp
  deriving DecidableEq, Repr

/-- `BOOT_ENABLE_RUN_RAM` and the other build options of the core. -/
structure BootFeatures where
  runRam : Bool
  resetCommand : Bool
  memoryRead : Bool

structure BootTransferSession where
  active : UInt16
  target : UInt16
  expectedPacketCount : UInt32
  processedPacketCount : UInt32
  expectedTotalWords : UInt32
  processedTotalWords : UInt32
  expectedBlockIndex : UInt32
  entryPoint : UInt32
  loadedStart : UInt32
  loadedEndExclusive : UInt32
  crc32 : UInt32
  imageReady : UInt16
  crcChecked : UInt16
  deriving DecidableEq, Repr

/-- `BootAlgorithm_ResetRamLoad`. -/
def BootTransferSession.reset : BootTransferSession :=
  ⟨0, 0, 0, 0, 0, 0, 0, 0, 0, 0, BootCrc32.initValue, 0, 0⟩

structure BootServiceAttachState where
  state : UInt16
  lastAttachStatus : UInt16
  capabilities : UInt32
  loadedCrc32 : UInt32
  loadedWords : UInt32
  deriving DecidableEq, Repr

/-- `BootAlgorithm` without its IO operations and hooks; the handler is the
address of its code. -/
structure BootAlgorithm where
  deviceInfo : BootDeviceInfo
  lastError : BootErrorDetail
  ramLoad : BootTransferSession
  serviceCommandHandler : Option UInt32
  serviceActive : UInt16
  serviceState : BootServiceAttachState
  pendingEntryPoint : UInt32
  deriving DecidableEq, Repr

/-- The core and the memory it works on. -/
structure Core (σ : Type) where
  algorithm : BootAlgorithm
  world : CoreWorld σ

/-- What one request leaves. -/
structure CoreReturn (σ : Type) where
  response : BootResponse
  action : BootAlgorithmAction
  core : Core σ

namespace BootAlgorithm

open BootFlashServiceLayout BootFlashServiceAbi

variable {σ : Type}

/-! ## Publish state and validation -/

/-- `BootAlgorithm_InvalidatePublishState`. -/
def invalidatePublishState (w : CoreWorld σ) : CoreWorld σ :=
  { w with
    memory := (w.memory.writeWord publishOrigin publishInvalid).writeWord (publishOrigin + 1)
      publishInvalid }

/-- The last writes of `BootAlgorithm_ValidateFlashService`. -/
def publishState (w : CoreWorld σ) : CoreWorld σ :=
  { w with
    memory := (w.memory.writeWord (publishOrigin + 1) publishValidInverse).writeWord publishOrigin
      publishValid }

/-- `BootAlgorithm_InvalidateFlashService`. -/
def invalidateFlashService (c : Core σ) : Core σ where
  algorithm :=
    { c.algorithm with
      serviceCommandHandler := none
      serviceActive := 0
      serviceState.state := stateDetached
      serviceState.capabilities := 0 }
  world := invalidatePublishState c.world

/-- What `BootAlgorithm_ValidateFlashService` returns. -/
structure ValidateReturn (σ : Type) where
  status : UInt16
  commandHandler : Option UInt32
  world : CoreWorld σ

/-- `BootAlgorithm_ValidateFlashService`. -/
def validateFlashService (code : ServiceCode σ) (deviceInfo : BootDeviceInfo) (w : CoreWorld σ) :
    ValidateReturn σ :=
  let w := invalidatePublishState w
  let status := checkHeader w.memory
  if status ≠ BootStatus.ok then ⟨status, none, w⟩
  else
    -- the header words were copied before `boot_init` runs
    let handler := commandAddress w.memory
    let call := code.bootInit (bootInitAddress w.memory) deviceInfo.deviceId deviceInfo.cpuId
      deviceInfo.maxDataWords w
    if call.1 ≠ BootStatus.ok then ⟨call.1, none, call.2⟩
    else ⟨BootStatus.ok, some handler, publishState call.2⟩

/-- `BootAlgorithm_RangeOverlapsFlashService`. -/
def rangeOverlapsFlashService (address wordCount : UInt32) : Bool :=
  let endExclusive := address + wordCount
  let serviceEndExclusive := dataOrigin + dataLength
  wordCount ≠ 0 && endExclusive ≥ address && address < serviceEndExclusive &&
    endExclusive > headerOrigin

/-- `BootAlgorithm_IsRangeInLoadedRamImage`. -/
def isRangeInLoadedRamImage (ramLoad : BootTransferSession) (address wordCount : UInt32) : Bool :=
  let endExclusive := address + wordCount
  wordCount ≠ 0 && endExclusive ≥ address && ramLoad.imageReady ≠ 0 &&
    address ≥ ramLoad.loadedStart && endExclusive ≤ ramLoad.loadedEndExclusive

/-! ## Responses -/

variable (request : BootProtocolFrame)

def response (packetType status : UInt16) (payload : List UInt16) : BootResponse :=
  ⟨packetType, request.command, request.sequence, status, payload⟩

/-- `BootAlgorithm_SendStatus`. -/
def sendStatus (status : UInt16) (c : Core σ) : CoreReturn σ :=
  ⟨response request (if status = BootStatus.ok then pktResponse else pktErrorResponse) status [],
    .none, c⟩

/-- A response of a query. -/
def sendPayload (payload : List UInt16) (c : Core σ) : CoreReturn σ :=
  ⟨response request pktResponse BootStatus.ok payload, .none, c⟩

/-- `BootAlgorithm_SetError`. -/
def setError (c : Core σ) (operation stage : UInt16) (address lengthWords : UInt32)
    (extra0 extra1 : UInt16) : Core σ :=
  { c with
    algorithm.lastError :=
      { BootErrorDetail.clear with operation, stage, address, lengthWords, extra0, extra1 } }

/-- `BootAlgorithm_Fail`. -/
def fail (status operation stage : UInt16) (address lengthWords : UInt32) (c : Core σ) :
    CoreReturn σ :=
  sendStatus request status (setError c operation stage address lengthWords 0 0)

/-- `BootAlgorithm_ResetRamLoad(algorithm)` after the response has been sent. -/
def resetRamLoad (r : CoreReturn σ) : CoreReturn σ :=
  { r with core.algorithm.ramLoad := .reset }

/-- An accepted request that the caller has to act on. -/
def accept (action : BootAlgorithmAction) (c : Core σ) : CoreReturn σ :=
  { sendStatus request BootStatus.ok c with action }

/-! ## The service commands -/

/-- `BootAlgorithm_IsFlashCommand`. -/
def isFlashCommand (command : UInt16) : Bool :=
  command = BootCmd.erase || command = BootCmd.programBegin || command = BootCmd.programData ||
    command = BootCmd.programEnd || command = BootCmd.verifyBegin ||
    command = BootCmd.verifyData || command = BootCmd.verifyEnd ||
    command = BootCmd.metadataAppendRecord

/-- `BootAlgorithm_ForwardToService`. -/
def forwardToService (code : ServiceCode σ) (c : Core σ) : CoreReturn σ :=
  match c.algorithm.serviceCommandHandler with
  | none => sendStatus request BootStatus.unsupportedFeature c
  | some handler =>
    if c.algorithm.serviceActive = 0 then sendStatus request BootStatus.unsupportedFeature c
    else
      let call := code.handleCommand handler request c.world
      let c := { c with world := call.world }
      let c := if call.error.operation ≠ BootErr.opNone then
          { c with algorithm.lastError := call.error } else c
      if call.responsePayloadWords > c.algorithm.deviceInfo.maxPayloadWords ∨
          call.responsePayloadWords > maxPayloadWords then
        sendStatus request BootStatus.badPayloadLength c
      else
        ⟨response request
            (if call.status = BootStatus.ok then pktResponse else pktErrorResponse) call.status
            (call.responsePayload.take call.responsePayloadWords.toNat),
          .none, c⟩

/-- The fields of a successful attach. -/
def attachService (handler : Option UInt32) (c : Core σ) : Core σ :=
  { c with
    algorithm :=
      { c.algorithm with
        serviceCommandHandler := handler
        serviceActive := 1
        serviceState.state := stateAttached
        serviceState.capabilities := headerU32 c.world.memory 20
        serviceState.lastAttachStatus := BootStatus.ok } }

/-- `BootAlgorithm_FailServiceAttach`. -/
def failServiceAttach (status : UInt16) (address lengthWords : UInt32) (c : Core σ) :
    CoreReturn σ :=
  let c := if c.algorithm.serviceActive = 0 then
      { c with algorithm.serviceState.state := stateError } else c
  fail request status BootErr.opRamLoad BootErr.stageState address lengthWords
    { c with algorithm.serviceState.lastAttachStatus := status }

/-- `BootAlgorithm_HandleServiceAttach`. -/
def handleServiceAttach (code : ServiceCode σ) (c : Core σ) : CoreReturn σ :=
  let ramLoad := c.algorithm.ramLoad
  if request.payloadWords ≠ 7 then failServiceAttach request BootStatus.badPayloadLength 0 0 c
  else if request.word 6 ≠ 0 then failServiceAttach request BootStatus.badFlags 0 0 c
  else
    let headerAddress := request.u32 0
    let expectedCrc32 := request.u32 2
    let expectedWords := request.u32 4
    if ramLoad.imageReady = 0 ∨ ramLoad.crcChecked = 0 then
      failServiceAttach request BootStatus.invalidState headerAddress expectedWords c
    else if expectedCrc32 ≠ ramLoad.crc32 ∨ expectedWords ≠ ramLoad.expectedTotalWords then
      failServiceAttach request BootStatus.verifyMismatch ramLoad.loadedStart
        ramLoad.expectedTotalWords c
    else if headerAddress ≠ headerOrigin ∨
        isRangeInLoadedRamImage ramLoad headerAddress headerReservedWords = false then
      failServiceAttach request BootStatus.ramRegionError headerAddress headerReservedWords c
    else
      let valid := validateFlashService code c.algorithm.deviceInfo c.world
      let c := { c with world := valid.world }
      if valid.status ≠ BootStatus.ok then
        failServiceAttach request valid.status headerAddress headerWords.toUInt32 c
      else
        let c := attachService valid.commandHandler c
        sendStatus request BootStatus.ok
          { c with
            algorithm.serviceState.loadedCrc32 := ramLoad.crc32
            algorithm.serviceState.loadedWords := ramLoad.expectedTotalWords }

/-! ## The RAM load -/

/-- The session an accepted RAM_LOAD_BEGIN opens. -/
def begunLoad : BootTransferSession where
  active := 1
  target := BootTarget.ramApp
  expectedPacketCount := (request.word 1).toUInt32
  processedPacketCount := 0
  expectedTotalWords := request.u32 2
  processedTotalWords := 0
  expectedBlockIndex := 0
  entryPoint := request.u32 4
  loadedStart := 0xFFFFFFFF
  loadedEndExclusive := 0
  crc32 := BootCrc32.initValue
  imageReady := 0
  crcChecked := 0

/-- `BootAlgorithm_HandleRamLoadBegin`. -/
def handleRamLoadBegin (c : Core σ) : CoreReturn σ :=
  if request.payloadWords ≠ 9 then
    fail request BootStatus.badPayloadLength BootErr.opRamLoad BootErr.stagePayload 0 0 c
  else if c.algorithm.ramLoad.active ≠ 0 then
    fail request BootStatus.busy BootErr.opRamLoad BootErr.stageState 0 0 c
  else if request.word 0 ≠ BootTarget.ramApp then
    fail request BootStatus.targetMismatch BootErr.opRamLoad BootErr.stageState 0 0 c
  else
    let totalWords := request.u32 2
    let entryPoint := request.u32 4
    if request.word 1 = 0 ∨ totalWords = 0 then
      fail request BootStatus.badWordCount BootErr.opRamLoad BootErr.stagePayload entryPoint
        totalWords c
    else if BootRam.checkAddress entryPoint 1 BootTarget.ramApp ≠ BootRamResult.ok then
      fail request BootStatus.ramRegionError BootErr.opRamLoad BootErr.stageAddressCheck
        entryPoint 1 c
    else sendStatus request BootStatus.ok { c with algorithm.ramLoad := begunLoad request }

/-- The session after an accepted packet of `data` at `address`. -/
def countPacket (ramLoad : BootTransferSession) (address : UInt32) (dataWords : UInt16)
    (data : List UInt16) : BootTransferSession :=
  { ramLoad with
    processedPacketCount := ramLoad.processedPacketCount + 1
    processedTotalWords := ramLoad.processedTotalWords + dataWords.toUInt32
    expectedBlockIndex := ramLoad.expectedBlockIndex + 1
    crc32 := BootCrc32.updateWords ramLoad.crc32 data
    loadedStart := if address < ramLoad.loadedStart then address else ramLoad.loadedStart
    loadedEndExclusive :=
      if address + dataWords.toUInt32 > ramLoad.loadedEndExclusive then
        address + dataWords.toUInt32
      else ramLoad.loadedEndExclusive }

/-- `BootAlgorithm_HandleRamLoadData`. -/
def handleRamLoadData (c : Core σ) : CoreReturn σ :=
  let ramLoad := c.algorithm.ramLoad
  if ramLoad.active = 0 then
    fail request BootStatus.missingBegin BootErr.opRamLoad BootErr.stageState 0 0 c
  else if request.payloadWords < 5 then
    resetRamLoad
      (fail request BootStatus.badPayloadLength BootErr.opRamLoad BootErr.stagePayload 0 0 c)
  else
    let address := request.u32 0
    let dataWords := request.word 2
    let blockIndex := request.u32 3
    if request.payloadWords ≠ 5 + dataWords then
      resetRamLoad
        (fail request BootStatus.badPayloadLength BootErr.opRamLoad BootErr.stagePayload address
          dataWords.toUInt32 c)
    else if dataWords = 0 then
      resetRamLoad
        (fail request BootStatus.badWordCount BootErr.opRamLoad BootErr.stagePayload address
          dataWords.toUInt32 c)
    else if blockIndex ≠ ramLoad.expectedBlockIndex then
      resetRamLoad
        (sendStatus request BootStatus.blockIndexError
          (setError c BootErr.opRamLoad BootErr.stageState address dataWords.toUInt32
            (lowWord ramLoad.expectedBlockIndex) (highWord ramLoad.expectedBlockIndex)))
    else if ramLoad.processedPacketCount ≥ ramLoad.expectedPacketCount ∨
        dataWords.toUInt32 > ramLoad.expectedTotalWords - ramLoad.processedTotalWords then
      resetRamLoad
        (fail request BootStatus.totalCountMismatch BootErr.opRamLoad BootErr.stageState address
          dataWords.toUInt32 c)
    else
      let overlaps := rangeOverlapsFlashService address dataWords.toUInt32
      let data := request.words 5 dataWords.toNat
      let c := if overlaps then invalidateFlashService c else c
      let call := BootRam.writeBlock address data dataWords BootTarget.ramApp c.world.memory
      let c := { c with world.memory := call.2 }
      if call.1 ≠ BootRamResult.ok then
        resetRamLoad
          (fail request
            (if call.1 = BootRamResult.badAddress then BootStatus.ramRegionError
              else BootStatus.ramWriteFailed)
            BootErr.opRamLoad BootErr.stageApiCall address dataWords.toUInt32 c)
      else
        let c := if overlaps then { c with world := invalidatePublishState c.world } else c
        sendStatus request BootStatus.ok
          { c with algorithm.ramLoad := countPacket ramLoad address dataWords data }

/-- The counts and the entry point that a RAM_LOAD_END request has to match. -/
def loadComplete (ramLoad : BootTransferSession) : Prop :=
  request.u32 0 = ramLoad.expectedPacketCount ∧ request.u32 0 = ramLoad.processedPacketCount ∧
    request.u32 2 = ramLoad.expectedTotalWords ∧ request.u32 2 = ramLoad.processedTotalWords ∧
    ramLoad.entryPoint ≥ ramLoad.loadedStart ∧ ramLoad.entryPoint < ramLoad.loadedEndExclusive

instance (ramLoad : BootTransferSession) : Decidable (loadComplete request ramLoad) :=
  inferInstanceAs (Decidable (_ ∧ _ ∧ _ ∧ _ ∧ _ ∧ _))

/-- `BootAlgorithm_HandleRamLoadEnd`. -/
def handleRamLoadEnd (c : Core σ) : CoreReturn σ :=
  let ramLoad := c.algorithm.ramLoad
  if ramLoad.active = 0 then
    fail request BootStatus.missingBegin BootErr.opRamLoad BootErr.stageState 0 0 c
  else if request.payloadWords ≠ 6 then
    resetRamLoad
      (fail request BootStatus.badPayloadLength BootErr.opRamLoad BootErr.stagePayload 0 0 c)
  else
    let packets := request.u32 0
    let totalWords := request.u32 2
    if ¬ loadComplete request ramLoad then
      resetRamLoad
        (fail request BootStatus.totalCountMismatch BootErr.opRamLoad BootErr.stageState 0
          totalWords c)
    else
      sendStatus request BootStatus.ok
        { c with
          algorithm.ramLoad :=
            { ramLoad with
              active := 0
              expectedTotalWords := totalWords
              processedTotalWords := totalWords
              expectedPacketCount := packets
              processedPacketCount := packets
              crc32 := BootCrc32.finalize ramLoad.crc32
              imageReady := 1
              crcChecked := 0 } }

/-- `BootAlgorithm_HandleRamCheckCrc`. -/
def handleRamCheckCrc (c : Core σ) : CoreReturn σ :=
  let ramLoad := c.algorithm.ramLoad
  if request.payloadWords ≠ 5 then
    fail request BootStatus.badPayloadLength BootErr.opRamLoad BootErr.stagePayload 0 0 c
  else if request.word 4 ≠ 0 then sendStatus request BootStatus.badFlags c
  else if ramLoad.imageReady = 0 then
    fail request BootStatus.invalidState BootErr.opRamLoad BootErr.stageState 0 0 c
  else
    let expectedCrc := request.u32 0
    let expectedWords := request.u32 2
    if expectedCrc ≠ ramLoad.crc32 ∨ expectedWords ≠ ramLoad.expectedTotalWords then
      fail request BootStatus.verifyMismatch BootErr.opRamLoad BootErr.stageVerify
        ramLoad.loadedStart ramLoad.expectedTotalWords
        { c with algorithm.ramLoad.crcChecked := 0 }
    else sendStatus request BootStatus.ok { c with algorithm.ramLoad.crcChecked := 1 }

/-- `BootAlgorithm_HandleRunRam`. -/
def handleRunRam (c : Core σ) : CoreReturn σ :=
  let ramLoad := c.algorithm.ramLoad
  if request.payloadWords ≠ 3 then
    fail request BootStatus.badPayloadLength BootErr.opRun BootErr.stagePayload 0 0 c
  else if request.word 2 ≠ 0 then sendStatus request BootStatus.badFlags c
  else if ramLoad.imageReady = 0 ∨ ramLoad.crcChecked = 0 then
    fail request BootStatus.invalidState BootErr.opRun BootErr.stageState 0 0 c
  else
    let entryPoint := if request.u32 0 = 0 then ramLoad.entryPoint else request.u32 0
    if isRangeInLoadedRamImage ramLoad entryPoint 1 = false ∨
        BootRam.checkAddress entryPoint 1 BootTarget.ramApp ≠ BootRamResult.ok then
      fail request BootStatus.ramRegionError BootErr.opRun BootErr.stageAddressCheck entryPoint 1 c
    else accept request .runRamApp { c with algorithm.pendingEntryPoint := entryPoint }

/-! ## The other commands -/

/-- `BootAlgorithm_HandleRun`. -/
def handleRun (c : Core σ) : CoreReturn σ :=
  if request.payloadWords ≠ 4 then
    fail request BootStatus.badPayloadLength BootErr.opRun BootErr.stagePayload 0 0 c
  else if request.word 0 ≠ BootTarget.flashApp then
    fail request BootStatus.targetMismatch BootErr.opRun BootErr.stageState 0 0 c
  else
    let entryPoint := request.u32 1
    if entryPoint % 8 ≠ 0 then
      fail request BootStatus.badAlignment BootErr.opRun BootErr.stageAddressCheck entryPoint 1 c
    else
      let summary := BootMetadata.scanFlashRecords c.world.memory BootMetadata.slotAStart
      if summary.metadataValid = 0 ∨ summary.entryPoint ≠ entryPoint then
        fail request BootStatus.metadataInvalid BootErr.opRun BootErr.stageState entryPoint 1 c
      else if summary.appConfirmed = 0 ∧ (summary.bootAttemptCount = 0 ∨
          summary.bootAttemptCount > summary.bootAttemptLimit) then
        fail request
          (if summary.bootAttemptCount > summary.bootAttemptLimit then
            BootStatus.attemptLimitReached else BootStatus.invalidState)
          BootErr.opRun BootErr.stageState entryPoint 1 c
      else accept request .runFlashApp { c with algorithm.pendingEntryPoint := entryPoint }

/-- `BootAlgorithm_HandleGetServiceStatus`. -/
def handleGetServiceStatus (c : Core σ) : CoreReturn σ :=
  let state := c.algorithm.serviceState
  if request.payloadWords ≠ 0 then sendStatus request BootStatus.badPayloadLength c
  else
    sendPayload request
      [state.state, abiMajor, abiMinor, 0, 0, lowWord state.capabilities,
        highWord state.capabilities, state.lastAttachStatus, lowWord state.loadedCrc32,
        highWord state.loadedCrc32, lowWord state.loadedWords, highWord state.loadedWords] c

/-- `BootAlgorithm_HandleMemoryRead`. -/
def handleMemoryRead (c : Core σ) : CoreReturn σ :=
  if request.payloadWords ≠ 4 then sendStatus request BootStatus.badPayloadLength c
  else
    let startAddress := request.u32 0
    let wordCount := request.word 2
    if request.word 3 ≠ 0 then sendStatus request BootStatus.badFlags c
    else
      let responseCapacity :=
        if c.algorithm.deviceInfo.maxPayloadWords > maxPayloadWords then maxPayloadWords
        else c.algorithm.deviceInfo.maxPayloadWords
      let maxReadWords := if responseCapacity > 3 then responseCapacity - 3 else 0
      if wordCount = 0 ∨ wordCount > maxReadWords then
        sendStatus request BootStatus.badWordCount c
      else
        sendPayload request
          (lowWord startAddress :: highWord startAddress :: wordCount ::
            (List.range wordCount.toNat).map fun index =>
              c.world.memory (startAddress + UInt32.ofNat index)) c

/-- `BootAlgorithm_HandleGetMetadataSummary`. -/
def handleGetMetadataSummary (c : Core σ) : CoreReturn σ :=
  if request.payloadWords ≠ 0 then sendStatus request BootStatus.badPayloadLength c
  else
    sendPayload request (BootMetadata.summaryToPayload
      (BootMetadata.scanFlashRecords c.world.memory BootMetadata.slotAStart)) c

/-- The answer to BOOT_CMD_GET_PROTOCOL_INFO. -/
def protocolInfo (deviceInfo : BootDeviceInfo) : List UInt16 :=
  [protocolVersion, protocolVersion, protocolVersion, protocolHeaderWords, 0x0001, 0x0001,
    deviceInfo.maxPayloadWords, 0]

/-- A query without payload. -/
def handleQuery (payload : List UInt16) (c : Core σ) : CoreReturn σ :=
  if request.payloadWords ≠ 0 then sendStatus request BootStatus.badPayloadLength c
  else sendPayload request payload c

/-- The BOOT_CMD_RESET case of `BootAlgorithm_ProcessOne`. -/
def handleReset (features : BootFeatures) (c : Core σ) : CoreReturn σ :=
  if features.resetCommand then
    if request.payloadWords ≠ 0 then
      fail request BootStatus.badPayloadLength BootErr.opReset BootErr.stagePayload 0 0 c
    else accept request .resetDevice c
  else sendStatus request BootStatus.unsupportedFeature c

/-- The `default` case of `BootAlgorithm_ProcessOne`. -/
def handleOther (code : ServiceCode σ) (c : Core σ) : CoreReturn σ :=
  if isFlashCommand request.command then forwardToService request code c
  else sendStatus request BootStatus.unknownCommand c

/-- The command switch of `BootAlgorithm_ProcessOne`. -/
def dispatch (features : BootFeatures) (code : ServiceCode σ) (c : Core σ) : CoreReturn σ :=
  if request.command = BootCmd.ping then
    sendStatus request
      (if request.payloadWords = 0 then BootStatus.ok else BootStatus.badPayloadLength) c
  else if request.command = BootCmd.getDeviceInfo then
    handleQuery request c.algorithm.deviceInfo.toPayload c
  else if request.command = BootCmd.getProtocolInfo then
    handleQuery request (protocolInfo c.algorithm.deviceInfo) c
  else if request.command = BootCmd.getLastError then
    handleQuery request c.algorithm.lastError.toPayload c
  else if request.command = BootCmd.getServiceStatus then handleGetServiceStatus request c
  else if request.command = BootCmd.serviceAttach then handleServiceAttach request code c
  else if request.command = BootCmd.ramLoadBegin then handleRamLoadBegin request c
  else if request.command = BootCmd.ramLoadData then handleRamLoadData request c
  else if request.command = BootCmd.ramLoadEnd then handleRamLoadEnd request c
  else if request.command = BootCmd.ramCheckCrc then handleRamCheckCrc request c
  else if request.command = BootCmd.runRam then
    if features.runRam then handleRunRam request c
    else sendStatus request BootStatus.unsupportedFeature c
  else if request.command = BootCmd.memoryRead ∧ features.memoryRead then
    handleMemoryRead request c
  else if request.command = BootCmd.getMetadataSummary then handleGetMetadataSummary request c
  else if request.command = BootCmd.run then handleRun request c
  else if request.command = BootCmd.reset then handleReset request features c
  else handleOther request code c

/-- What `BootProtocol_Receive` has found. -/
inductive ReceiveResult where
  | ok | badPayloadCrc
  deriving DecidableEq, Repr

/-- `BootAlgorithm_ProcessOne` on a received frame. -/
def processOne (features : BootFeatures) (code : ServiceCode σ) (received : ReceiveResult)
    (c : Core σ) : CoreReturn σ :=
  if received = .badPayloadCrc then sendStatus request BootStatus.badPayloadCrc c
  else if request.protocolVer ≠ protocolVersion then
    sendStatus request BootStatus.unsupportedProtocol c
  else if request.packetType ≠ pktRequest then sendStatus request BootStatus.badPacketType c
  else if request.flags ≠ protocolFlagNone then sendStatus request BootStatus.badFlags c
  else dispatch request features code c

/-! ## Start-up -/

/-- `BootAlgorithm_Init`; `none` where it returns 0. -/
def init (deviceInfo : BootDeviceInfo) (w : CoreWorld σ) : Option (Core σ) :=
  if deviceInfo.protocolVer ≠ protocolVersion ∨ deviceInfo.maxPayloadWords > maxPayloadWords ∨
      deviceInfo.maxDataWords = 0 ∨ deviceInfo.maxDataWords % 8 ≠ 0 ∨
      deviceInfo.maxDataWords.toUInt32 + 5 > deviceInfo.maxPayloadWords.toUInt32 then none
  else
    some {
      algorithm := {
        deviceInfo
        lastError := .clear
        ramLoad := .reset
        serviceCommandHandler := none
        serviceActive := 0
        serviceState := ⟨stateDetached, BootStatus.ok, 0, 0, 0⟩
        pendingEntryPoint := 0 }
      world := w }

/-- `BootAlgorithm_RestoreFlashService`. -/
def restoreFlashService (code : ServiceCode σ) (c : Core σ) : UInt16 × Core σ :=
  let valid := validateFlashService code c.algorithm.deviceInfo c.world
  let c := { c with world := valid.world }
  if valid.status ≠ BootStatus.ok then (valid.status, invalidateFlashService c)
  else (BootStatus.ok, attachService valid.commandHandler c)

end BootAlgorithm

end BootUpgrade

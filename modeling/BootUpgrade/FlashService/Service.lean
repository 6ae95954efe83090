import BootUpgrade.FlashService.Port
import BootUpgrade.Metadata.Scan

/-! The resident Flash service of `boot_flash_service_lib.c`, over any port. -/

namespace BootUpgrade

/-- `BootFlashServiceSessionOperation`. -/
inductive SessionOperation where
  | none | program | verify
  deriving DecidableEq, Repr

structure BootFlashServiceSession where
  operation : SessionOperation
  target : UInt16
  expectedPacketCount : UInt32
  processedPacketCount : UInt32
  expectedTotalWords : UInt32
  processedTotalWords : UInt32
  expectedBlockIndex : UInt32
  entryPoint : UInt32
  deriving DecidableEq, Repr

/-- `BootFlashService_ResetSession`. -/
def BootFlashServiceSession.reset : BootFlashServiceSession := ⟨.none, 0, 0, 0, 0, 0, 0, 0⟩

structure BootFlashServiceRuntimeState where
  session : BootFlashServiceSession
  initialized : UInt16
  flashInitialized : UInt16
  verifySucceeded : UInt16
  deviceId : UInt16
  cpuId : UInt16
  maxDataWords : UInt16
  deriving DecidableEq, Repr

/-- `g_service` and the device behind the port. -/
structure FlashService (σ : Type) where
  runtime : BootFlashServiceRuntimeState
  world : σ

/-- What a handler returns: the status, the error detail and the service. -/
structure Outcome (σ : Type) where
  status : UInt16
  error : BootErrorDetail
  service : FlashService σ

namespace BootFlashService

/-- `BootFlashService_MapResult`. -/
def mapResult (result : BootFlashResult) (failedStatus badAddressStatus : UInt16) : UInt16 :=
  if result = BootFlashResult.ok then BootStatus.ok
  else if result = BootFlashResult.notImplemented then BootStatus.unsupportedFeature
  else if result = BootFlashResult.badAddress then badAddressStatus
  else failedStatus

/-- `BootFlashService_SetError`. -/
def setError (operation stage : UInt16) (address lengthWords : UInt32) (extra0 extra1 : UInt16) :
    BootErrorDetail :=
  { BootErrorDetail.clear with operation, stage, address, lengthWords, extra0, extra1 }

/-- `BootFlashService_SetFlashError`. -/
def setFlashError (operation stage : UInt16) (result : BootFlashResult)
    (info : BootFlashErrorInfo) : BootErrorDetail :=
  let apiStatus := info.apiStatus.toUInt32.toUInt16
  { setError operation stage info.address info.lengthWords (lowWord info.extra)
      (highWord info.extra) with
    apiStatus := if apiStatus = 0 then result else apiStatus
    fsmStatus := info.fsmStatus }

variable {σ : Type}

/-- `BootFlashService_Fail`. -/
def fail (s : FlashService σ) (status operation stage : UInt16) (address lengthWords : UInt32) :
    Outcome σ :=
  ⟨status, setError operation stage address lengthWords 0 0, s⟩

/-- `if (status != BOOT_STATUS_OK) return status;`, then the rest. -/
def andThen (o : Outcome σ) (rest : FlashService σ → Outcome σ) : Outcome σ :=
  if o.status ≠ BootStatus.ok then o else rest o.service

def succeed (s : FlashService σ) : Outcome σ := ⟨BootStatus.ok, .clear, s⟩

/-- `BootFlashService_ResetSession(&g_service.session)`. -/
def resetSession (s : FlashService σ) : FlashService σ :=
  { s with runtime := { s.runtime with session := .reset } }

def setVerifySucceeded (s : FlashService σ) (flag : UInt16) : FlashService σ :=
  { s with runtime := { s.runtime with verifySucceeded := flag } }

variable (port : FlashPort σ)

/-- `BootFlashService_EnsureFlash`. -/
def ensureFlash (operation failedStatus : UInt16) (s : FlashService σ) : Outcome σ :=
  if s.runtime.flashInitialized ≠ 0 then succeed s
  else
    let call := port.init .zero s.world
    let status := mapResult call.result failedStatus BootStatus.badAddress
    if status ≠ BootStatus.ok then
      ⟨status, setFlashError operation BootErr.stageApiCall call.result call.info,
        { s with world := call.world }⟩
    else succeed { runtime := { s.runtime with flashInitialized := 1 }, world := call.world }

/-- `BootFlashService_HandleErase`. -/
def handleErase (request : BootProtocolFrame) (s : FlashService σ) : Outcome σ :=
  if request.payloadWords ≠ 3 then
    fail s BootStatus.badPayloadLength BootErr.opErase BootErr.stagePayload 0 0
  else if request.word 2 ≠ 0 then
    fail s BootStatus.badFlags BootErr.opErase BootErr.stagePayload 0 0
  else
    let sectorMask := request.u32 0
    if sectorMask = 0 then
      fail s BootStatus.badAddress BootErr.opErase BootErr.stageAddressCheck 0 0
    else
      andThen (ensureFlash port BootErr.opErase BootStatus.eraseFailed s) fun s =>
        let call := port.eraseBySectorMask sectorMask
          { BootFlashErrorInfo.zero with operation := .erase, extra := sectorMask } s.world
        let s := { s with world := call.world }
        let status := mapResult call.result BootStatus.eraseFailed BootStatus.badAddress
        if status ≠ BootStatus.ok then
          ⟨status, setFlashError BootErr.opErase BootErr.stageApiCall call.result call.info, s⟩
        else succeed (setVerifySucceeded (resetSession s) 0)

/-- `BootFlashService_HandleBegin`. -/
def handleBegin (request : BootProtocolFrame) (sessionOperation : SessionOperation)
    (errorOperation failedStatus : UInt16) (s : FlashService σ) : Outcome σ :=
  if s.runtime.session.operation ≠ .none then
    fail s BootStatus.busy errorOperation BootErr.stageState 0 0
  else if request.payloadWords ≠ 9 then
    fail s BootStatus.badPayloadLength errorOperation BootErr.stagePayload 0 0
  else if request.word 0 ≠ BootTarget.flashApp then
    fail s BootStatus.targetMismatch errorOperation BootErr.stageState 0 0
  else
    let totalWords := request.u32 2
    if request.word 1 = 0 ∨ totalWords = 0 then
      fail s BootStatus.badWordCount errorOperation BootErr.stagePayload 0 totalWords
    else
      andThen (ensureFlash port errorOperation failedStatus s) fun s =>
        succeed
          { s with
            runtime.session :=
              { operation := sessionOperation
                target := BootTarget.flashApp
                expectedPacketCount := (request.word 1).toUInt32
                processedPacketCount := 0
                expectedTotalWords := totalWords
                processedTotalWords := 0
                expectedBlockIndex := 0
                entryPoint := request.u32 4 } }

/-- The session after an accepted data packet. -/
def countPacket (session : BootFlashServiceSession) (dataWords : UInt16) :
    BootFlashServiceSession :=
  { session with
    processedPacketCount := session.processedPacketCount + 1
    processedTotalWords := session.processedTotalWords + dataWords.toUInt32
    expectedBlockIndex := session.expectedBlockIndex + 1 }

/-- The port call of a data packet: program or compare the block. -/
def dataCall (request : BootProtocolFrame) (sessionOperation : SessionOperation)
    (address : UInt32) (dataWords : UInt16) (info : BootFlashErrorInfo) (world : σ) :
    PortReturn σ :=
  let data := request.words 5 dataWords.toNat
  if sessionOperation = .program then port.programBlock address data dataWords info world
  else port.verifyBlock address data dataWords info world

/-- `BootFlashService_HandleData`. -/
def handleData (request : BootProtocolFrame) (sessionOperation : SessionOperation)
    (errorOperation : UInt16) (flashOperation : BootFlashOperation) (failedStatus : UInt16)
    (s : FlashService σ) : Outcome σ :=
  let session := s.runtime.session
  if session.operation = .none then
    fail s BootStatus.missingBegin errorOperation BootErr.stageState 0 0
  else if session.operation ≠ sessionOperation then
    fail s BootStatus.invalidState errorOperation BootErr.stageState 0 0
  else if request.payloadWords < 5 then
    fail (resetSession s) BootStatus.badPayloadLength errorOperation BootErr.stagePayload 0 0
  else
    let address := request.u32 0
    let dataWords := request.word 2
    let blockIndex := request.u32 3
    if request.payloadWords ≠ 5 + dataWords then
      fail (resetSession s) BootStatus.badPayloadLength errorOperation BootErr.stagePayload
        address dataWords.toUInt32
    else if dataWords = 0 ∨ dataWords % 8 ≠ 0 ∨ dataWords > s.runtime.maxDataWords then
      fail (resetSession s) BootStatus.badWordCount errorOperation BootErr.stagePayload
        address dataWords.toUInt32
    else if blockIndex ≠ session.expectedBlockIndex then
      ⟨BootStatus.blockIndexError,
        setError errorOperation BootErr.stageState address dataWords.toUInt32
          (lowWord session.expectedBlockIndex) (highWord session.expectedBlockIndex),
        resetSession s⟩
    else if session.processedPacketCount ≥ session.expectedPacketCount ∨
        dataWords.toUInt32 > session.expectedTotalWords - session.processedTotalWords then
      fail (resetSession s) BootStatus.totalCountMismatch errorOperation BootErr.stageState
        address dataWords.toUInt32
    else
      let check := port.checkAddress address dataWords.toUInt32 flashOperation
        { BootFlashErrorInfo.zero with
          operation := flashOperation, address, lengthWords := dataWords.toUInt32 }
      let status := mapResult check.1 failedStatus BootStatus.addressOutOfRange
      if status ≠ BootStatus.ok then
        ⟨status, setFlashError errorOperation BootErr.stageAddressCheck check.1 check.2,
          resetSession s⟩
      else
        let stage :=
          if sessionOperation = .program then BootErr.stageApiCall else BootErr.stageVerify
        let call := dataCall port request sessionOperation address dataWords check.2 s.world
        let s := { s with world := call.world }
        let status := mapResult call.result failedStatus BootStatus.addressOutOfRange
        if status ≠ BootStatus.ok then
          ⟨status, setFlashError errorOperation stage call.result call.info, resetSession s⟩
        else
          let s := { s with runtime.session := countPacket session dataWords }
          succeed (if sessionOperation = .program then setVerifySucceeded s 0 else s)

/-- The counts of an END request agree with the session. -/
def countsMatch (request : BootProtocolFrame) (session : BootFlashServiceSession) : Prop :=
  request.u32 0 = session.expectedPacketCount ∧ request.u32 0 = session.processedPacketCount ∧
    request.u32 2 = session.expectedTotalWords ∧ request.u32 2 = session.processedTotalWords

instance (request : BootProtocolFrame) (session : BootFlashServiceSession) :
    Decidable (countsMatch request session) :=
  inferInstanceAs (Decidable (_ ∧ _ ∧ _ ∧ _))

/-- `BootFlashService_HandleEnd`. -/
def handleEnd (request : BootProtocolFrame) (sessionOperation : SessionOperation)
    (errorOperation : UInt16) (s : FlashService σ) : Outcome σ :=
  let session := s.runtime.session
  if session.operation = .none then
    fail s BootStatus.missingBegin errorOperation BootErr.stageState 0 0
  else if session.operation ≠ sessionOperation then
    fail s BootStatus.unexpectedEnd errorOperation BootErr.stageState 0 0
  else if request.payloadWords ≠ 6 then
    fail (resetSession s) BootStatus.badPayloadLength errorOperation BootErr.stagePayload 0 0
  else if ¬ countsMatch request session then
    fail (resetSession s) BootStatus.totalCountMismatch errorOperation BootErr.stageState
      0 (request.u32 2)
  else
    succeed (if sessionOperation = .verify then setVerifySucceeded (resetSession s) 1
      else resetSession s)

/-! ## Metadata records -/

/-- `BootFlashService_MetadataRequestValid`; the values it returns are the
request words `u32 2`, `u32 4`, `u32 6`, `u32 11` and `u32 13`. -/
def metadataRequestValid (request : BootProtocolFrame) (s : FlashService σ) : Outcome σ :=
  if request.payloadWords ≠ 16 then
    fail s BootStatus.badPayloadLength BootErr.opProgram BootErr.stagePayload 0 0
  else if request.word 0 ≠ BootMetadata.recordImageValid then
    fail s BootStatus.unsupportedFeature BootErr.opProgram BootErr.stagePayload 0 0
  else if request.word 1 ≠ BootSlot.a then
    fail s BootStatus.unsupportedFeature BootErr.opProgram BootErr.stagePayload 0 0
  else if request.word 15 ≠ 0 then
    fail s BootStatus.badFlags BootErr.opProgram BootErr.stagePayload 0 0
  else
    let entryPoint := request.u32 2
    let imageSizeWords := request.u32 4
    let appEnd := request.u32 13
    if imageSizeWords = 0 then
      fail s BootStatus.badWordCount BootErr.opProgram BootErr.stagePayload entryPoint 0
    else if entryPoint < BootMetadata.slotAAppStart ∨ entryPoint ≥ BootMetadata.slotAAppEnd ∨
        entryPoint % 8 ≠ 0 ∨ appEnd ≤ BootMetadata.slotAAppStart ∨
        appEnd > BootMetadata.slotAAppEnd then
      fail s BootStatus.badAddress BootErr.opProgram BootErr.stageAddressCheck entryPoint
        imageSizeWords
    else succeed s

/-- `BootFlashService_ProgramMetadataRecord`. -/
def programMetadataRecord (recordAddress : UInt32) (record : BootMetadata.RecordWords)
    (s : FlashService σ) : Outcome σ :=
  andThen (ensureFlash port BootErr.opProgram BootStatus.metadataWriteFailed s) fun s =>
    let call := port.programMetadataRecord recordAddress record.toList
      BootMetadata.recordWords.toUInt16
      { BootFlashErrorInfo.zero with
        operation := .program, address := recordAddress, lengthWords := BootMetadata.recordWords }
      s.world
    let s := { s with world := call.world }
    if call.result ≠ BootFlashResult.ok then
      ⟨BootStatus.metadataWriteFailed,
        setFlashError BootErr.opProgram BootErr.stageApiCall call.result call.info, s⟩
    else succeed s

/-- The slot `next_record_index` names. -/
def nextRecordAddress (summary : BootMetadataSummary) : UInt32 :=
  BootMetadata.slotAStart + summary.nextRecordIndex.toUInt32 * BootMetadata.recordWords

/-- `BootFlashService_MetadataRecordAddress`; the address it returns is
`nextRecordAddress`. -/
def metadataRecordAddress (summary : BootMetadataSummary) (s : FlashService σ) : Outcome σ :=
  if summary.nextRecordIndex = BootMetadata.invalidIndex then
    fail s BootStatus.metadataFull BootErr.opProgram BootErr.stageState 0 0
  else
    let recordAddress := nextRecordAddress summary
    if recordAddress % BootMetadata.recordWords ≠ 0 ∨ recordAddress < BootMetadata.slotAStart ∨
        recordAddress + BootMetadata.recordWords > BootMetadata.slotAAppStart then
      fail s BootStatus.badAddress BootErr.opProgram BootErr.stageAddressCheck recordAddress
        BootMetadata.recordWords
    else succeed s

/-- `BootMetadata_ScanFlashRecords(BOOT_METADATA_SLOT_A_START, &summary)`. -/
def scanJournal (s : FlashService σ) : BootMetadataSummary :=
  BootMetadata.scanFlashRecords (port.readWord s.world) BootMetadata.slotAStart

/-- The common checks of a BOOT_ATTEMPT and an APP_CONFIRMED request. -/
def identityRequestValid (request : BootProtocolFrame) (s : FlashService σ) : Outcome σ :=
  if request.payloadWords ≠ 16 then
    fail s BootStatus.badPayloadLength BootErr.opProgram BootErr.stagePayload 0 0
  else if request.word 1 ≠ BootSlot.a then
    fail s BootStatus.unsupportedFeature BootErr.opProgram BootErr.stagePayload 0 0
  else if request.word 15 ≠ 0 then
    fail s BootStatus.badFlags BootErr.opProgram BootErr.stagePayload 0 0
  else if (request.words 8 7).any (· ≠ 0) then
    fail s BootStatus.badPayloadLength BootErr.opProgram BootErr.stagePayload 0 0
  else succeed s

/-- `BootFlashService_HandleBootAttemptAppend`. -/
def handleBootAttemptAppend (request : BootProtocolFrame) (s : FlashService σ) : Outcome σ :=
  andThen (identityRequestValid request s) fun s =>
    let summary := scanJournal port s
    if summary.metadataValid = 0 ∨ summary.state = .duplicateSequence then
      fail s BootStatus.metadataInvalid BootErr.opProgram BootErr.stageState 0 0
    else if summary.appConfirmed ≠ 0 then succeed s
    else if summary.bootAttemptCount ≥ summary.bootAttemptLimit then
      fail s BootStatus.attemptLimitReached BootErr.opProgram BootErr.stageState
        summary.entryPoint summary.imageSizeWords
    else if request.u32 2 ≠ summary.entryPoint ∨ request.u32 4 ≠ summary.imageSizeWords ∨
        request.u32 6 ≠ summary.imageCrc32 then
      fail s BootStatus.metadataInvalid BootErr.opProgram BootErr.stageState (request.u32 2)
        (request.u32 4)
    else
      andThen (metadataRecordAddress summary s) fun s =>
        let recordAddress := nextRecordAddress summary
        let record := BootMetadata.buildBootAttemptRecord (summary.latestSequence + 1) summary
          (summary.bootAttemptCount + 1)
        andThen (programMetadataRecord port recordAddress record s) fun s =>
          let written := scanJournal port s
          if written.metadataValid = 0 ∨
              written.bootAttemptCount ≠ summary.bootAttemptCount + 1 then
            fail s BootStatus.metadataWriteFailed BootErr.opProgram BootErr.stageVerify
              recordAddress BootMetadata.recordWords
          else succeed s

/-- The identity the caller of `BootFlashService_ConfirmJournal` expects. -/
structure ExpectedIdentity where
  entryPoint : UInt32
  imageSizeWords : UInt32
  imageCrc32 : UInt32

def ExpectedIdentity.differs (expected : ExpectedIdentity) (summary : BootMetadataSummary) : Prop :=
  expected.entryPoint ≠ summary.entryPoint ∨ expected.imageSizeWords ≠ summary.imageSizeWords ∨
    expected.imageCrc32 ≠ summary.imageCrc32

instance (expected : ExpectedIdentity) (summary : BootMetadataSummary) :
    Decidable (expected.differs summary) :=
  inferInstanceAs (Decidable (_ ∨ _ ∨ _))

/-- `BootFlashService_ConfirmJournal`; no expected identity is
`validate_expected_identity == 0U`. -/
def confirmJournal (expected : Option ExpectedIdentity) (s : FlashService σ) : Outcome σ :=
  if s.runtime.initialized = 0 then
    fail s BootStatus.invalidState BootErr.opProgram BootErr.stageState 0 0
  else
    let summary := scanJournal port s
    if summary.metadataValid = 0 ∨ summary.state = .duplicateSequence ∨
        summary.hasImageValid = 0 then
      fail s BootStatus.metadataInvalid BootErr.opProgram BootErr.stageState 0 0
    else if ∃ e ∈ expected, e.differs summary then
      fail s BootStatus.metadataInvalid BootErr.opProgram BootErr.stageState
        ((expected.map (·.entryPoint)).getD 0) ((expected.map (·.imageSizeWords)).getD 0)
    else if summary.bootAttemptCount = 0 then
      fail s BootStatus.metadataInvalid BootErr.opProgram BootErr.stageState summary.entryPoint
        summary.imageSizeWords
    else if summary.appConfirmed ≠ 0 then succeed s
    else
      andThen (metadataRecordAddress summary s) fun s =>
        let recordAddress := nextRecordAddress summary
        let record := BootMetadata.buildAppConfirmedRecord (summary.latestSequence + 1) summary
        andThen (programMetadataRecord port recordAddress record s) fun s =>
          let written := scanJournal port s
          if written.metadataValid = 0 ∨ written.state = .duplicateSequence ∨
              written.hasImageValid = 0 ∨
              written.imageValidSequence ≠ summary.imageValidSequence ∨
              written.entryPoint ≠ summary.entryPoint ∨
              written.imageSizeWords ≠ summary.imageSizeWords ∨
              written.imageCrc32 ≠ summary.imageCrc32 ∨ written.appConfirmed = 0 then
            fail s BootStatus.metadataWriteFailed BootErr.opProgram BootErr.stageVerify
              recordAddress BootMetadata.recordWords
          else succeed s

/-- `BootFlashService_HandleAppConfirmedAppend`. -/
def handleAppConfirmedAppend (request : BootProtocolFrame) (s : FlashService σ) : Outcome σ :=
  andThen (identityRequestValid request s) fun s =>
    confirmJournal port (some ⟨request.u32 2, request.u32 4, request.u32 6⟩) s

/-- The sequence of a new IMAGE_VALID record. -/
def imageSequence (summary : BootMetadataSummary) : UInt32 :=
  if summary.validRecordCount = 0 then 1 else summary.latestSequence + 1

/-- The IMAGE_VALID record of a request. -/
def imageRecord (request : BootProtocolFrame) (runtime : BootFlashServiceRuntimeState)
    (summary : BootMetadataSummary) : BootMetadata.RecordWords :=
  BootMetadata.buildImageValidRecord (imageSequence summary) (request.u32 2) (request.u32 4)
    (request.u32 6) (request.word 8) (request.word 9) (request.word 10) (request.u32 11)
    (request.u32 13) runtime.deviceId runtime.cpuId

/-- The rest of `BootFlashService_HandleMetadataAppendRecord`, for IMAGE_VALID. -/
def handleImageValidAppend (request : BootProtocolFrame) (s : FlashService σ) : Outcome σ :=
  andThen (metadataRequestValid request s) fun s =>
    let entryPoint := request.u32 2
    let imageSizeWords := request.u32 4
    let imageCrc32 := request.u32 6
    if s.runtime.verifySucceeded = 0 then
      fail s BootStatus.invalidState BootErr.opProgram BootErr.stageState entryPoint imageSizeWords
    else
      let summary := scanJournal port s
      if summary.state = .duplicateSequence then
        fail s BootStatus.metadataInvalid BootErr.opProgram BootErr.stageState 0 0
      else
        andThen (metadataRecordAddress summary s) fun s =>
          let recordAddress := nextRecordAddress summary
          let record := imageRecord request s.runtime summary
          andThen (programMetadataRecord port recordAddress record s) fun s =>
            let written := scanJournal port s
            if written.metadataValid = 0 ∨
                written.imageValidSequence ≠ imageSequence summary ∨
                written.entryPoint ≠ entryPoint ∨ written.imageCrc32 ≠ imageCrc32 then
              fail s BootStatus.metadataWriteFailed BootErr.opProgram BootErr.stageVerify
                recordAddress BootMetadata.recordWords
            else succeed (setVerifySucceeded s 0)

/-- `BootFlashService_HandleMetadataAppendRecord`. -/
def handleMetadataAppendRecord (request : BootProtocolFrame) (s : FlashService σ) : Outcome σ :=
  if request.payloadWords = 16 ∧ request.word 0 = BootMetadata.recordBootAttempt then
    handleBootAttemptAppend port request s
  else if request.payloadWords = 16 ∧ request.word 0 = BootMetadata.recordAppConfirmed then
    handleAppConfirmedAppend port request s
  else handleImageValidAppend port request s

/-! ## The entry points -/

/-- `BootFlashService_BootInit`. -/
def bootInit (deviceId cpuId maxDataWords : UInt16) (s : FlashService σ) :
    UInt16 × FlashService σ :=
  let cleared : BootFlashServiceRuntimeState := ⟨.reset, 0, 0, 0, 0, 0, 0⟩
  if deviceId ≠ BootDevice.f28377d ∨ cpuId ≠ BootDevice.cpu1 then
    (BootStatus.targetMismatch, { s with runtime := cleared })
  else if maxDataWords = 0 then (BootStatus.badWordCount, { s with runtime := cleared })
  else
    (BootStatus.ok,
      { s with runtime := { cleared with deviceId, cpuId, maxDataWords, initialized := 1 } })

/-- What `BootFlashService_BootHandleCommand` returns. -/
structure CommandReturn (σ : Type) extends Outcome σ where
  responsePayloadWords : UInt16

/-- The command switch of `BootFlashService_BootHandleCommand`. -/
def dispatch (request : BootProtocolFrame) (s : FlashService σ) : Outcome σ :=
  if request.command = BootCmd.erase then handleErase port request s
  else if request.command = BootCmd.programBegin then
    handleBegin port request .program BootErr.opProgram BootStatus.programFailed s
  else if request.command = BootCmd.programData then
    handleData port request .program BootErr.opProgram .program BootStatus.programFailed s
  else if request.command = BootCmd.programEnd then
    handleEnd request .program BootErr.opProgram s
  else if request.command = BootCmd.verifyBegin then
    handleBegin port request .verify BootErr.opVerify BootStatus.verifyFailed s
  else if request.command = BootCmd.verifyData then
    handleData port request .verify BootErr.opVerify .verify BootStatus.verifyFailed s
  else if request.command = BootCmd.verifyEnd then
    handleEnd request .verify BootErr.opVerify s
  else if request.command = BootCmd.metadataAppendRecord then
    handleMetadataAppendRecord port request s
  else ⟨BootStatus.unsupportedCommand, .clear, s⟩

/-- `BootFlashService_BootHandleCommand`; `error` and `responsePayloadWords`
are what the caller left in them. -/
def bootHandleCommand (request : BootProtocolFrame) (responsePayloadWords : UInt16)
    (error : BootErrorDetail) (s : FlashService σ) : CommandReturn σ :=
  if s.runtime.initialized = 0 then
    { status := BootStatus.invalidState, error, service := s, responsePayloadWords }
  else { dispatch port request s with responsePayloadWords := 0 }

/-- `BootFlashService_ConfirmCurrentImage`. -/
def confirmCurrentImage (s : FlashService σ) : Outcome σ := confirmJournal port none s

end BootFlashService

end BootUpgrade

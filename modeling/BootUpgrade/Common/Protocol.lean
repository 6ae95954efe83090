import BootUpgrade.Lib.Words

/-! The wire vocabulary of `boot_protocol.h` and `boot_device_info.h`:
commands, status words, the request frame and the error detail. -/

namespace BootUpgrade

export Words (joinU32 lowWord highWord)

namespace BootCmd

def ping : UInt16 := 0x0001
def getDeviceInfo : UInt16 := 0x0002
def getProtocolInfo : UInt16 := 0x0003
def getLastError : UInt16 := 0x0004
def getServiceStatus : UInt16 := 0x0007
def serviceAttach : UInt16 := 0x0008
def ramLoadBegin : UInt16 := 0x0101
def ramLoadData : UInt16 := 0x0102
def ramLoadEnd : UInt16 := 0x0103
def ramCheckCrc : UInt16 := 0x0104
def runRam : UInt16 := 0x0105
def erase : UInt16 := 0x0201
def programBegin : UInt16 := 0x0210
def programData : UInt16 := 0x0211
def programEnd : UInt16 := 0x0212
def verifyBegin : UInt16 := 0x0220
def verifyData : UInt16 := 0x0221
def verifyEnd : UInt16 := 0x0222
def memoryRead : UInt16 := 0x0230
def getMetadataSummary : UInt16 := 0x0401
def metadataAppendRecord : UInt16 := 0x0402
def run : UInt16 := 0x0301
def reset : UInt16 := 0x0302

end BootCmd

namespace BootTarget

def flashApp : UInt16 := 0x0001
def ramApp : UInt16 := 0x0002

end BootTarget

namespace BootStatus

def ok : UInt16 := 0x0000
def badPayloadCrc : UInt16 := 0x0103
def unsupportedProtocol : UInt16 := 0x0104
def badPacketType : UInt16 := 0x0105
def badPayloadLength : UInt16 := 0x0106
def badFlags : UInt16 := 0x0109
def unknownCommand : UInt16 := 0x0201
def unsupportedCommand : UInt16 := 0x0202
def invalidState : UInt16 := 0x0203
def busy : UInt16 := 0x0204
def missingBegin : UInt16 := 0x0205
def unexpectedEnd : UInt16 := 0x0206
def blockIndexError : UInt16 := 0x0207
def totalCountMismatch : UInt16 := 0x0208
def badAddress : UInt16 := 0x0301
def addressOutOfRange : UInt16 := 0x0302
def badAlignment : UInt16 := 0x0303
def badWordCount : UInt16 := 0x0304
def eraseFailed : UInt16 := 0x0401
def programFailed : UInt16 := 0x0501
def verifyFailed : UInt16 := 0x0601
def verifyMismatch : UInt16 := 0x0602
def ramWriteFailed : UInt16 := 0x0702
def ramRegionError : UInt16 := 0x0703
def unsupportedFeature : UInt16 := 0x0801
def targetMismatch : UInt16 := 0x0803
def metadataInvalid : UInt16 := 0x0804
def metadataFull : UInt16 := 0x0805
def metadataWriteFailed : UInt16 := 0x0806
def attemptLimitReached : UInt16 := 0x0807

end BootStatus

def protocolVersion : UInt16 := 0x0001
def protocolHeaderWords : UInt16 := 10
def protocolFlagNone : UInt16 := 0x0000
def pktRequest : UInt16 := 0x0001
def pktResponse : UInt16 := 0x0002
def pktErrorResponse : UInt16 := 0x0003

/-- `BOOT_PROTOCOL_MAX_PAYLOAD_WORDS`, the length of every payload buffer. -/
def maxPayloadWords : UInt16 := 256

/-- `BootProtocolFrame`, as `BootProtocol_Receive` fills it: a buffer of which
the first `payloadWords` words belong to the request. The words behind them are
whatever earlier requests left there. -/
structure BootProtocolFrame where
  protocolVer : UInt16
  packetType : UInt16
  command : UInt16
  sequence : UInt16
  flags : UInt16
  status : UInt16
  payloadWords : UInt16
  payload : Vector UInt16 256
  payloadWords_le : payloadWords.toNat ≤ 256

/-- `count` words from `&request->payload[start]` on. -/
def BootProtocolFrame.words (request : BootProtocolFrame) (start count : Nat) : List UInt16 :=
  (request.payload.toList.drop start).take count

theorem BootProtocolFrame.length_words (request : BootProtocolFrame) (start count : Nat)
    (h : start + count ≤ 256) : (request.words start count).length = count := by
  simp only [words, List.length_take, List.length_drop, Vector.length_toList]
  omega

/-- A request with the given payload words in an otherwise empty buffer. -/
def BootProtocolFrame.ofWords (command sequence : UInt16) (words : List UInt16)
    (h : words.length ≤ 256 := by decide) : BootProtocolFrame where
  protocolVer := protocolVersion
  packetType := pktRequest
  command := command
  sequence := sequence
  flags := 0
  status := BootStatus.ok
  payloadWords := UInt16.ofNat words.length
  payload := Vector.ofFn fun i => words.getD i 0
  payloadWords_le := by simp; omega

/-- `request->payload[index]`, for an index inside the buffer. -/
def BootProtocolFrame.word (request : BootProtocolFrame) (index : Nat) : UInt16 :=
  request.payload.toList.getD index 0

theorem BootProtocolFrame.word_ofWords (command sequence : UInt16) (words : List UInt16)
    (h : words.length ≤ 256) (index : Nat) :
    (ofWords command sequence words h).word index = words.getD index 0 := by
  rw [word, ofWords, Vector.toList_ofFn, List.getD_eq_getElem?_getD, List.getD_eq_getElem?_getD,
    List.getElem?_ofFn]
  split
  · simp
  · rw [List.getElem?_eq_none (by omega)]

/-- The 32-bit value in two payload words, low word first. -/
def BootProtocolFrame.u32 (request : BootProtocolFrame) (index : Nat) : UInt32 :=
  joinU32 (request.word index) (request.word (index + 1))

theorem BootProtocolFrame.u32_ofWords (command sequence : UInt16) (words : List UInt16)
    (h : words.length ≤ 256) (index : Nat) :
    (ofWords command sequence words h).u32 index =
      joinU32 (words.getD index 0) (words.getD (index + 1) 0) := by
  rw [u32, word_ofWords, word_ofWords]

/-- The response frame `BootProtocol_SendResponse` sends. -/
structure BootResponse where
  packetType : UInt16
  command : UInt16
  sequence : UInt16
  status : UInt16
  payload : List UInt16
  deriving DecidableEq, Repr

namespace BootErr

def opNone : UInt16 := 0x0000
def opErase : UInt16 := 0x0002
def opProgram : UInt16 := 0x0003
def opVerify : UInt16 := 0x0004
def opRamLoad : UInt16 := 0x0005
def opRun : UInt16 := 0x0006
def opReset : UInt16 := 0x0007

def stageNone : UInt16 := 0x0000
def stagePayload : UInt16 := 0x0002
def stageAddressCheck : UInt16 := 0x0003
def stageApiCall : UInt16 := 0x0004
def stageVerify : UInt16 := 0x0006
def stageState : UInt16 := 0x0007

end BootErr

structure BootErrorDetail where
  operation : UInt16
  stage : UInt16
  address : UInt32
  lengthWords : UInt32
  apiStatus : UInt16
  fsmStatus : UInt32
  extra0 : UInt16
  extra1 : UInt16
  deriving DecidableEq, Repr

/-- `BootErrorDetail_Clear`. -/
def BootErrorDetail.clear : BootErrorDetail :=
  ⟨BootErr.opNone, BootErr.stageNone, 0, 0, 0, 0, 0, 0⟩

/-- `BootErrorDetail_ToPayload`. -/
def BootErrorDetail.toPayload (detail : BootErrorDetail) : List UInt16 :=
  [detail.operation, detail.stage,
    lowWord detail.address, highWord detail.address,
    lowWord detail.lengthWords, highWord detail.lengthWords,
    detail.apiStatus,
    lowWord detail.fsmStatus, highWord detail.fsmStatus,
    detail.extra0, detail.extra1]

/-- `BootDeviceInfo`, with the two identity fields that are exported. -/
structure BootDeviceInfo where
  deviceId : UInt16
  cpuId : UInt16
  kernelVerMajor : UInt16
  kernelVerMinor : UInt16
  kernelVerPatch : UInt16
  protocolVer : UInt16
  featureFlags : UInt32
  maxPayloadWords : UInt16
  maxDataWords : UInt16
  bootMode : UInt16
  kernelLayout : UInt16
  revisionId : UInt32
  uidUnique : UInt32
  deriving DecidableEq, Repr

/-- `BootDeviceInfo_ToPayload`. -/
def BootDeviceInfo.toPayload (info : BootDeviceInfo) : List UInt16 :=
  [info.deviceId, info.cpuId, info.kernelVerMajor, info.kernelVerMinor, info.kernelVerPatch,
    info.protocolVer, lowWord info.featureFlags, highWord info.featureFlags,
    info.maxPayloadWords, info.maxDataWords, info.bootMode, info.kernelLayout,
    lowWord info.revisionId, highWord info.revisionId,
    lowWord info.uidUnique, highWord info.uidUnique]

namespace BootDevice

def f28377d : UInt16 := 0x377D
def cpu1 : UInt16 := 0x0001

end BootDevice

end BootUpgrade

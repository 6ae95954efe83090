import BootUpgrade.Host.BootProtocolClient
import BootUpgrade.Host.OperationResult

/-!
# The memory read of `operations/memory_ops.py`

A range of words is read frame by frame, each frame as long as the payload of a
response allows, with the cancellation token read before the first frame and
behind each.
-/

namespace BootUpgrade

/-- `MemoryReadRequest`, with the checks of its constructor. -/
structure MemoryReadRequest where
  startAddress : Nat
  wordCount : Nat
  start_le : startAddress ≤ 0xFFFFFFFF
  count_pos : 0 < wordCount
  count_le : wordCount ≤ 0xFFFFFFFF
  end_le : startAddress + wordCount - 1 ≤ 0xFFFFFFFF

/-- `MemoryReadRequest.__post_init__`. -/
def MemoryReadRequest.create (startAddress wordCount : Nat) : Except HostError MemoryReadRequest :=
  if start_le : startAddress ≤ 0xFFFFFFFF then
    if count : 0 < wordCount ∧ wordCount ≤ 0xFFFFFFFF then
      if end_le : startAddress + wordCount - 1 ≤ 0xFFFFFFFF then
        .ok ⟨startAddress, wordCount, start_le, count.1, count.2, end_le⟩
      else .error (.valueError "memory read exceeds the uint32 address space")
    else .error (.valueError "word_count must be a positive uint32")
  else .error (.valueError "start_address must fit uint32")

/-- What `memory_read` reads of its context: the client, `command_set.memory_read` and the
cancellation token, whose read `k` gives `polls k`. -/
structure MemoryReadContext where
  client : HostProtocol.BootProtocolClient
  memoryRead : Option UInt16
  polls : Nat → Bool

/-- The summary of a memory read and its words. -/
structure MemoryReadResult where
  startAddress : Nat
  endAddress : Nat
  wordCount : Nat
  frameCount : Nat
  words : List UInt16
  deriving DecidableEq, Repr

/-- `Feature.MEMORY_READ`. -/
def featureMemoryRead : UInt32 := 0x0400

namespace HostOperations

open HostClient

/-- Eight upper-case hexadecimal digits. -/
def hex8 (value : Nat) : String :=
  let digits := (Nat.toDigits 16 value).map Char.toUpper
  String.ofList (List.replicate (8 - digits.length) '0' ++ digits)

theorem memoryRead_ne : "MEMORY_READ" ≠ "" := by decide

section
variable (request : MemoryReadRequest)

/-- `_cancellation_info`. -/
def memoryReadCancellation (currentWords : Nat) : Except HostError OperationCancellationInfo :=
  cancellationInfo "MEMORY_READ" currentWords request.wordCount none "NONE" memoryRead_ne none_mem

/-- `_summary`, with the words. -/
def memoryReadSummary (frameCount : Nat) (words : List UInt16) : MemoryReadResult where
  startAddress := request.startAddress
  endAddress := request.startAddress + request.wordCount - 1
  wordCount := request.wordCount
  frameCount := frameCount
  words := words

/-- The checks of the payload of a response, behind `collected` words. -/
def checkReadResponse (frameIndex address chunkWordCount collected : Nat) :
    List UInt16 → Except HostError (List UInt16)
  | low :: high :: responseWordCount :: data =>
    let frame := "MEMORY_READ frame " ++ toString frameIndex
    if (joinU32 low high).toNat ≠ address then
      .error (.protocolDecodeError (frame ++ " address mismatch: expected 0x" ++ hex8 address ++
        ", actual 0x" ++ hex8 (joinU32 low high).toNat))
    else if responseWordCount.toNat ≠ chunkWordCount then
      .error (.protocolDecodeError (frame ++ " count mismatch: expected " ++
        toString chunkWordCount ++ ", actual " ++ toString responseWordCount.toNat))
    else if data.length ≠ responseWordCount.toNat then
      .error (.protocolDecodeError (frame ++ " data length mismatch: expected " ++
        toString responseWordCount.toNat ++ ", actual payload length " ++ toString data.length))
    else if collected + data.length > request.wordCount then
      .error (.protocolDecodeError (frame ++ " exceeds requested count " ++
        toString request.wordCount))
    else .ok data
  | payload =>
    .error (.protocolDecodeError ("MEMORY_READ frame " ++ toString frameIndex ++
      " response has " ++ toString payload.length ++ " payload words; expected at least 3"))

variable (ctx : MemoryReadContext)

/-- The `for` loop of `memory_read` with the frames that are left, and what follows it. -/
def readFrames (maxPayloadWords frameCapacity frameCount : Nat) (command : UInt16) :
    Nat → Nat → Nat → List UInt16 → HostDialogue (OperationResult MemoryReadResult)
  | 0, _, _, words =>
    if words.length ≠ request.wordCount then
      .fail (.protocolDecodeError ("MEMORY_READ returned " ++ toString words.length ++
        " words; expected " ++ toString request.wordCount))
    else .done (.succeeded (memoryReadSummary request frameCount words))
  | frames + 1, frameIndex, address, words =>
    let chunkWordCount := min frameCapacity (request.wordCount - words.length)
    (Dialogue.lift (splitU32 address)).bind fun addressWords =>
    (transact maxPayloadWords command (addressWords ++ [chunkWordCount, 0])).bind fun payload =>
    (Dialogue.lift (checkReadResponse request frameIndex address chunkWordCount words.length
      payload)).bind fun data =>
    if ctx.polls (frameIndex + 1) then
      (Dialogue.lift (memoryReadCancellation request (words ++ data).length)).bind
        fun cancellation =>
        if (words ++ data).length < request.wordCount then .done (.cancelled cancellation)
        else
          .done (.completedAfterCancelRequest (memoryReadSummary request frameCount (words ++ data))
            cancellation)
    else
      readFrames maxPayloadWords frameCapacity frameCount command frames (frameIndex + 1)
        (address + chunkWordCount) (words ++ data)

/-- `memory_read`. -/
def memoryRead : HostDialogue (OperationResult MemoryReadResult) :=
  failureResult <|
    match ctx.client.deviceInfo with
    | none =>
      .fail (.operationFailure "CAPABILITY_UNAVAILABLE" "DeviceInfo is not cached"
        "MEMORY_READ_PREFLIGHT")
    | some device =>
      if device.featureFlags &&& featureMemoryRead = 0 then
        .fail (.operationFailure "UNSUPPORTED_FEATURE"
          "connected target does not advertise MEMORY_READ" "MEMORY_READ_PREFLIGHT")
      else
        match ctx.memoryRead with
        | none =>
          .fail (.operationFailure "UNSUPPORTED_OPERATION"
            "target profile does not define MEMORY_READ" "MEMORY_READ_PREFLIGHT")
        | some command =>
          (Dialogue.lift ctx.client.effectiveMaxPayloadWords).bind fun maxPayloadWords =>
          if maxPayloadWords < 4 then
            .fail (.operationFailure "INVALID_PAYLOAD_CAPACITY"
              "effective payload capacity must be at least 4 words" "MEMORY_READ_PREFLIGHT")
          else if ctx.polls 0 then
            (Dialogue.lift (memoryReadCancellation request 0)).bind fun cancellation =>
              .done (.cancelled cancellation)
          else
            let frameCapacity := min 0xFFFF (maxPayloadWords - 3)
            let frameCount := (request.wordCount + frameCapacity - 1) / frameCapacity
            readFrames request ctx maxPayloadWords frameCapacity frameCount command frameCount 0
              request.startAddress []

end

end HostOperations

end BootUpgrade

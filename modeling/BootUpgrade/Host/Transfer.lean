import BootUpgrade.Host.Client
import BootUpgrade.Host.Packets

/-!
# Transfers that can be cancelled

`run_cancellable_transfer` of `operations/results.py` and the three transfers
that use it: a BEGIN, the packets and an END, with the cancellation token read
between them. A transfer cut short sends the END all the same, for the device
to discard its session.
-/

namespace BootUpgrade

/-- `_RECOVERY_ACTIONS`. -/
def recoveryActions : List String :=
  ["NONE", "RESTART_RAM_LOAD", "RESTART_SERVICE_LOAD", "RESTART_PROGRAM",
    "ERASE_AND_RESTART_PROGRAM", "RESTART_VERIFY", "RECONNECT_AND_RESTART_RAM_LOAD",
    "RECONNECT_AND_RESTART_SERVICE_LOAD", "RECONNECT_AND_RESTART_PROGRAM",
    "RECONNECT_ERASE_AND_RESTART_PROGRAM", "RECONNECT_AND_RESTART_VERIFY"]

/-- `OperationCancellationInfo`, with the checks of its constructor. -/
structure OperationCancellationInfo where
  stage : String
  currentWords : Nat
  totalWords : Nat
  protocolStateClean : Bool
  outcomeUncertain : Bool
  connectionRecoveryRequired : Bool
  partialFlashProgrammed : Bool
  eraseBeforeRetryRequired : Bool
  serviceAttached : Option Bool
  recoveryAction : String
  stage_ne : stage ≠ ""
  words_le : currentWords ≤ totalWords
  action_mem : recoveryAction ∈ recoveryActions
  erase_partial : eraseBeforeRetryRequired = true → partialFlashProgrammed = true
  uncertain_recovery : outcomeUncertain = true → connectionRecoveryRequired = true
  clean_certain : protocolStateClean = true →
    outcomeUncertain = false ∧ connectionRecoveryRequired = false

/-- `CancellableTransferOutcome`; the summary is `total_words` and `packets`. -/
structure CancellableTransferOutcome where
  summary : Option (Nat × Nat)
  cancellation : Option OperationCancellationInfo
  cleanupError : Option HostError
  completedAfterCancel : Bool

/-- The arguments of `run_cancellable_transfer`. -/
structure CancellableTransfer where
  packets : List HostWorkflow.DataPacket
  totalWords : Nat
  beginStage : String
  endStage : String
  sendBegin : HostDialogue Unit
  sendData : HostWorkflow.DataPacket → HostDialogue Unit
  sendEnd : HostDialogue Unit
  recoveryAction : Nat → String
  reconnectRecoveryAction : Nat → String
  partialFlashProgrammed : Nat → Bool
  serviceAttached : Option Bool

namespace CancellableTransfer

variable (t : CancellableTransfer)

/-- The local function `info` of `run_cancellable_transfer`. -/
def info (stage : String) (currentWords : Nat) (reconnect none : Bool) :
    Except HostError OperationCancellationInfo :=
  let partialFlash := t.partialFlashProgrammed currentWords
  let action :=
    if none then "NONE"
    else if reconnect then t.reconnectRecoveryAction currentWords
    else t.recoveryAction currentWords
  if stage_ne : stage = "" then .error (.valueError "stage must be non-empty")
  else if words_le : ¬ currentWords ≤ t.totalWords then
    .error (.valueError "word counts must satisfy 0 <= current_words <= total_words")
  else if action_mem : action ∉ recoveryActions then .error (.valueError "invalid recovery_action")
  else
    .ok {
      stage
      currentWords
      totalWords := t.totalWords
      protocolStateClean := !reconnect
      outcomeUncertain := reconnect
      connectionRecoveryRequired := reconnect
      partialFlashProgrammed := partialFlash
      eraseBeforeRetryRequired := partialFlash
      serviceAttached := t.serviceAttached
      recoveryAction := action
      stage_ne
      words_le := Decidable.not_not.1 words_le
      action_mem := Decidable.not_not.1 action_mem
      erase_partial := id
      uncertain_recovery := id
      clean_certain := by simp }

theorem info_ok {stage : String} {words : Nat} {reconnect none : Bool} (stage_ne : stage ≠ "")
    (le : words ≤ t.totalWords)
    (action : (if none then "NONE" else if reconnect then t.reconnectRecoveryAction words
      else t.recoveryAction words) ∈ recoveryActions) :
    ∃ i, t.info stage words reconnect none = .ok i ∧
      i.partialFlashProgrammed = t.partialFlashProgrammed words ∧
      i.eraseBeforeRetryRequired = t.partialFlashProgrammed words := by
  unfold info
  dsimp only
  rw [dif_neg stage_ne, dif_neg (not_not_intro le), dif_neg (not_not_intro action)]
  exact ⟨_, rfl, rfl, rfl⟩

/-- `cancellation_cleanup_succeeded` for a partial transfer. -/
def cleanupSucceeded : HostError → Bool
  | .protocolStatusError _ status => status = BootStatus.totalCountMismatch
  | _ => false

/-- What the loop over the packets has sent, and whether the token stopped it. -/
structure Sent where
  packets : Nat
  words : Nat
  cancelObserved : Bool

/-- The loop over the packets. The token is read once before the transfer, once
after the BEGIN and once after each packet: read `k` gives `polls k`. -/
def sendPackets (polls : Nat → Bool) (sent : Sent) :
    List HostWorkflow.DataPacket → HostDialogue Sent
  | [] => .done sent
  | packet :: rest =>
    if sent.cancelObserved then .done sent
    else
      (t.sendData packet).bind fun _ =>
        sendPackets polls
          ⟨sent.packets + 1, sent.words + packet.words.length, polls (sent.packets + 2)⟩ rest

/-- The END of a transfer that has been cut short. -/
def cleanUp (sent : Sent) : HostDialogue CancellableTransferOutcome :=
  t.sendEnd.attempt.bind fun ended =>
    match ended with
    | .error error =>
      if cleanupSucceeded error then
        .lift do return ⟨none, ← t.info t.endStage sent.words false false, none, false⟩
      else .lift do return ⟨none, ← t.info t.endStage sent.words true false, error, false⟩
    | .ok () => .lift do return ⟨none, ← t.info t.endStage sent.words false false, none, false⟩

/-- The END of a transfer that has sent every packet. -/
def complete (polls : Nat → Bool) (sent : Sent) : HostDialogue CancellableTransferOutcome :=
  t.sendEnd.bind fun _ =>
    let summary := (t.totalWords, t.packets.length)
    if sent.cancelObserved || polls (sent.packets + 2) then
      .lift do return ⟨summary, ← t.info t.endStage t.totalWords false true, none, true⟩
    else .done ⟨summary, none, none, false⟩

/-- `run_cancellable_transfer`. -/
def runCancellableTransfer (polls : Nat → Bool) : HostDialogue CancellableTransferOutcome :=
  if polls 0 then .lift do return ⟨none, ← t.info t.beginStage 0 false false, none, false⟩
  else
    t.sendBegin.bind fun _ =>
      (t.sendPackets polls ⟨0, 0, polls 1⟩ t.packets).bind fun sent =>
        let isPartial := sent.packets < t.packets.length ∨ sent.words < t.totalWords
        if sent.cancelObserved = true ∧ isPartial then t.cleanUp sent else t.complete polls sent

end CancellableTransfer

/-! ## The requests of the three transfers -/

namespace HostClient

/-- `program_begin_protocol`, `verify_begin_protocol` and `ram_load_begin_protocol`. -/
def beginProtocol (limit : Nat) (command : UInt16) (target packetCount totalWords entryPoint : Nat)
    (imageCrc32 : Nat) : HostDialogue Unit :=
  (Dialogue.lift do
    return [target, packetCount] ++ (← splitU32 totalWords) ++ (← splitU32 entryPoint) ++
      (← splitU32 imageCrc32) ++ [0]).bind fun payload =>
    (transact limit command payload).bind fun _ => .done ()

/-- `program_data_protocol`, `verify_data_protocol` and `ram_load_data_protocol`. -/
def dataProtocol (limit : Nat) (command : UInt16) (packet : HostWorkflow.DataPacket) :
    HostDialogue Unit :=
  (Dialogue.lift do
    return (← splitU32 packet.address) ++ [packet.words.length] ++ (← splitU32 packet.index) ++
      packet.words.map (·.toNat)).bind fun payload =>
    (transact limit command payload).bind fun _ => .done ()

/-- `program_end_protocol`, `verify_end_protocol` and `ram_load_end_protocol`. -/
def endProtocol (limit : Nat) (command : UInt16) (packetCount totalWords imageCrc32 : Nat) :
    HostDialogue Unit :=
  (Dialogue.lift do
    return (← splitU32 packetCount) ++ (← splitU32 totalWords) ++
      (← splitU32 imageCrc32)).bind fun payload =>
    (transact limit command payload).bind fun _ => .done ()

end HostClient

/-- What sets the three transfers apart: the commands, the target and the
strings of the results. -/
structure TransferKind where
  beginCommand : UInt16
  dataCommand : UInt16
  endCommand : UInt16
  target : Nat
  beginStage : String
  endStage : String
  recoveryAction : Nat → String
  reconnectRecoveryAction : Nat → String
  partialFlashProgrammed : Nat → Bool
  serviceAttached : Option Bool

namespace TransferKind

open HostWorkflow HostClient

/-- The Program case of `_transfer`. -/
def program : TransferKind where
  beginCommand := BootCmd.programBegin
  dataCommand := BootCmd.programData
  endCommand := BootCmd.programEnd
  target := 1
  beginStage := "PROGRAM_BEGIN"
  endStage := "PROGRAM_END"
  recoveryAction sent := if sent ≠ 0 then "ERASE_AND_RESTART_PROGRAM" else "RESTART_PROGRAM"
  reconnectRecoveryAction sent :=
    if sent ≠ 0 then "RECONNECT_ERASE_AND_RESTART_PROGRAM" else "RECONNECT_AND_RESTART_PROGRAM"
  partialFlashProgrammed sent := sent ≠ 0
  serviceAttached := true

/-- The Verify case of `_transfer`. -/
def verify : TransferKind where
  beginCommand := BootCmd.verifyBegin
  dataCommand := BootCmd.verifyData
  endCommand := BootCmd.verifyEnd
  target := 1
  beginStage := "VERIFY_BEGIN"
  endStage := "VERIFY_END"
  recoveryAction _ := "RESTART_VERIFY"
  reconnectRecoveryAction _ := "RECONNECT_AND_RESTART_VERIFY"
  partialFlashProgrammed _ := false
  serviceAttached := true

/-- The transfer of `load_ram_image`. -/
def ramLoad : TransferKind where
  beginCommand := BootCmd.ramLoadBegin
  dataCommand := BootCmd.ramLoadData
  endCommand := BootCmd.ramLoadEnd
  target := 2
  beginStage := "RAM_LOAD_BEGIN"
  endStage := "RAM_LOAD_END"
  recoveryAction _ := "RESTART_RAM_LOAD"
  reconnectRecoveryAction _ := "RECONNECT_AND_RESTART_RAM_LOAD"
  partialFlashProgrammed _ := false
  serviceAttached := none

/-- The call of `run_cancellable_transfer` for these packets. -/
def transfer (kind : TransferKind) (limit entryPoint imageCrc32 : Nat)
    (packets : List DataPacket) : CancellableTransfer where
  packets := packets
  totalWords := totalWords packets
  beginStage := kind.beginStage
  endStage := kind.endStage
  sendBegin := beginProtocol limit kind.beginCommand kind.target packets.length
    (totalWords packets) entryPoint imageCrc32
  sendData := dataProtocol limit kind.dataCommand
  sendEnd := endProtocol limit kind.endCommand packets.length (totalWords packets) imageCrc32
  recoveryAction := kind.recoveryAction
  reconnectRecoveryAction := kind.reconnectRecoveryAction
  partialFlashProgrammed := kind.partialFlashProgrammed
  serviceAttached := kind.serviceAttached

end TransferKind

end BootUpgrade

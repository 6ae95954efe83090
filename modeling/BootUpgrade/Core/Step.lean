import BootUpgrade.Core.Algorithm

/-!
# What one request does to the core

`Step` lists the effects of a request on the RAM load, the attached service and
the memory. `processOne_step` says that there are no others.
-/

namespace BootUpgrade

/-- The part of the core that requests work on; the rest is only reported. -/
structure CoreView (σ : Type) where
  deviceInfo : BootDeviceInfo
  ramLoad : BootTransferSession
  serviceCommandHandler : Option UInt32
  serviceActive : UInt16
  world : CoreWorld σ

def Core.view {σ : Type} (c : Core σ) : CoreView σ :=
  ⟨c.algorithm.deviceInfo, c.algorithm.ramLoad, c.algorithm.serviceCommandHandler,
    c.algorithm.serviceActive, c.world⟩

namespace BootAlgorithm

open BootFlashServiceLayout BootFlashServiceAbi

variable {σ : Type}

/-- A RAM_LOAD_DATA request that passes every check. -/
structure LoadReady (request : BootProtocolFrame) (ramLoad : BootTransferSession) : Prop where
  active : ramLoad.active ≠ 0
  header : 5 ≤ request.payloadWords
  length : request.payloadWords = (5 : UInt16) + request.word 2
  nonempty : request.word 2 ≠ 0
  index : request.u32 3 = ramLoad.expectedBlockIndex
  packets : ramLoad.processedPacketCount < ramLoad.expectedPacketCount
  total : (request.word 2).toUInt32 ≤ ramLoad.expectedTotalWords - ramLoad.processedTotalWords
  writable : BootRam.checkAddress (request.u32 0) (request.word 2).toUInt32 BootTarget.ramApp =
    BootRamResult.ok

/-- The data words of a RAM_LOAD_DATA request. -/
def loadData (request : BootProtocolFrame) : List UInt16 := request.words 5 (request.word 2).toNat

/-- `a` is a word of the block a RAM_LOAD_DATA request carries. -/
def InBlock (request : BootProtocolFrame) (a : UInt32) : Prop :=
  (request.u32 0).toNat ≤ a.toNat ∧ a.toNat < (request.u32 0).toNat + (request.word 2).toNat

instance (request : BootProtocolFrame) (a : UInt32) : Decidable (InBlock request a) :=
  inferInstanceAs (Decidable (_ ∧ _))

def overlaps (request : BootProtocolFrame) : Bool :=
  rangeOverlapsFlashService (request.u32 0) (request.word 2).toUInt32

/-- The service taken out of use. -/
def CoreView.invalidated (v : CoreView σ) : CoreView σ :=
  { v with serviceCommandHandler := none, serviceActive := 0, world := invalidatePublishState v.world }

/-- The block of a RAM_LOAD_DATA request, stored. -/
def storeLoad (request : BootProtocolFrame) (w : CoreWorld σ) : CoreWorld σ :=
  { w with
    memory := BootRam.storeWords w.memory (request.u32 0)
      ((loadData request).take (request.word 2).toNat) }

/-- The memory and the service after an accepted RAM_LOAD_DATA. -/
def loadedView (request : BootProtocolFrame) (v : CoreView σ) : CoreView σ :=
  if overlaps request then
    { CoreView.invalidated v with
      world := invalidatePublishState (storeLoad request (invalidatePublishState v.world)) }
  else { v with world := storeLoad request v.world }

/-- The session after an accepted RAM_LOAD_END. -/
def endedLoad (request : BootProtocolFrame) (ramLoad : BootTransferSession) :
    BootTransferSession :=
  { ramLoad with
    active := 0
    expectedTotalWords := request.u32 2
    processedTotalWords := request.u32 2
    expectedPacketCount := request.u32 0
    processedPacketCount := request.u32 0
    crc32 := BootCrc32.finalize ramLoad.crc32
    imageReady := 1
    crcChecked := 0 }

/-- The commands of the RAM load and the attach. -/
def IsLoadCommand (command : UInt16) : Prop :=
  command = BootCmd.ramLoadBegin ∨ command = BootCmd.ramLoadData ∨
    command = BootCmd.ramLoadEnd ∨ command = BootCmd.ramCheckCrc ∨
    command = BootCmd.serviceAttach

instance (command : UInt16) : Decidable (IsLoadCommand command) :=
  inferInstanceAs (Decidable (_ ∨ _ ∨ _ ∨ _ ∨ _))

/-- What a request does. -/
inductive Step (code : ServiceCode σ) (request : BootProtocolFrame) (v : CoreView σ) :
    UInt16 → CoreView σ → Prop
  | untouched {status : UInt16}
      (passive : status = BootStatus.ok → ¬ IsLoadCommand request.command)
      (run : status = BootStatus.ok → request.command = BootCmd.runRam →
        v.ramLoad.imageReady ≠ 0 ∧ v.ramLoad.crcChecked ≠ 0) : Step code request v status v
  | aborted {status : UInt16} (refused : status ≠ BootStatus.ok) :
      Step code request v status { v with ramLoad := .reset }
  | begun (command : request.command = BootCmd.ramLoadBegin) (idle : v.ramLoad.active = 0)
      (packets : request.word 1 ≠ 0) (words : request.u32 2 ≠ 0) :
      Step code request v BootStatus.ok { v with ramLoad := begunLoad request }
  | loaded (command : request.command = BootCmd.ramLoadData)
      (ready : LoadReady request v.ramLoad) :
      Step code request v BootStatus.ok
        { loadedView request v with
          ramLoad := countPacket v.ramLoad (request.u32 0) (request.word 2) (loadData request) }
  | loadFailed {status : UInt16} (refused : status ≠ BootStatus.ok) :
      Step code request v status { CoreView.invalidated v with ramLoad := .reset }
  | ended (command : request.command = BootCmd.ramLoadEnd) (active : v.ramLoad.active ≠ 0)
      (complete : loadComplete request v.ramLoad) :
      Step code request v BootStatus.ok { v with ramLoad := endedLoad request v.ramLoad }
  | mismatched {status : UInt16} (refused : status ≠ BootStatus.ok) :
      Step code request v status { v with ramLoad.crcChecked := 0 }
  | checked (command : request.command = BootCmd.ramCheckCrc) (ready : v.ramLoad.imageReady ≠ 0)
      (crc : request.u32 0 = v.ramLoad.crc32) :
      Step code request v BootStatus.ok { v with ramLoad.crcChecked := 1 }
  | attached (command : request.command = BootCmd.serviceAttach)
      (ready : v.ramLoad.imageReady ≠ 0) (checked : v.ramLoad.crcChecked ≠ 0)
      (valid : (validateFlashService code v.deviceInfo v.world).status = BootStatus.ok) :
      Step code request v BootStatus.ok
        { v with
          serviceCommandHandler := (validateFlashService code v.deviceInfo v.world).commandHandler
          serviceActive := 1
          world := (validateFlashService code v.deviceInfo v.world).world }
  | attachFailed {status : UInt16} (refused : status ≠ BootStatus.ok)
      (invalid : (validateFlashService code v.deviceInfo v.world).status ≠ BootStatus.ok) :
      Step code request v status
        { v with world := (validateFlashService code v.deviceInfo v.world).world }
  | forwarded {status : UInt16} {handler : UInt32}
      (command : isFlashCommand request.command = true)
      (attached : v.serviceCommandHandler = some handler) (active : v.serviceActive ≠ 0) :
      Step code request v status { v with world := (code.handleCommand handler request v.world).world }

/-! ## The handlers -/

variable {code : ServiceCode σ} {request : BootProtocolFrame} {c : Core σ}

/-- What `processOne_step` says of one outcome. -/
def Steps (code : ServiceCode σ) (request : BootProtocolFrame) (c : Core σ) (r : CoreReturn σ) :
    Prop :=
  Step code request c.view r.response.status r.core.view

/-- A refusal that changes nothing the view shows. -/
theorem steps_refused {status : UInt16} {c' : Core σ} (refused : status ≠ BootStatus.ok)
    (same : c'.view = c.view) : Steps code request c (sendStatus request status c') := by
  unfold Steps
  show Step code request c.view status c'.view
  rw [same]
  exact .untouched (fun h => absurd h refused) (fun h => absurd h refused)

theorem steps_fail {status operation stage : UInt16} {address lengthWords : UInt32}
    (refused : status ≠ BootStatus.ok) :
    Steps code request c (fail request status operation stage address lengthWords c) :=
  steps_refused refused rfl

/-- An answer to a command outside the RAM load. -/
theorem steps_sendStatus {status : UInt16} (other : ¬ IsLoadCommand request.command)
    (run : request.command ≠ BootCmd.runRam) :
    Steps code request c (sendStatus request status c) :=
  .untouched (fun _ => other) fun _ h => absurd h run

theorem steps_sendPayload {payload : List UInt16} (other : ¬ IsLoadCommand request.command)
    (run : request.command ≠ BootCmd.runRam) :
    Steps code request c (sendPayload request payload c) :=
  .untouched (fun _ => other) fun _ h => absurd h run

/-- A failure that ends the RAM load. -/
theorem steps_resetRamLoad {status operation stage : UInt16} {address lengthWords : UInt32}
    (refused : status ≠ BootStatus.ok) :
    Steps code request c
      (resetRamLoad (fail request status operation stage address lengthWords c)) :=
  .aborted refused

theorem handleRamLoadBegin_step (command : request.command = BootCmd.ramLoadBegin) :
    Steps code request c (handleRamLoadBegin request c) := by
  apply iteInduction (motive := Steps code request c)
  · exact fun _ => steps_fail (by decide)
  intro _
  apply iteInduction (motive := Steps code request c)
  · exact fun _ => steps_fail (by decide)
  intro active
  apply iteInduction (motive := Steps code request c)
  · exact fun _ => steps_fail (by decide)
  intro _
  apply iteInduction (motive := Steps code request c)
  · exact fun _ => steps_fail (by decide)
  intro counts
  apply iteInduction (motive := Steps code request c)
  · exact fun _ => steps_fail (by decide)
  intro _
  rw [not_or] at counts
  exact .begun command (Decidable.not_not.1 active) counts.1 counts.2

/-- Storing the block of a packet that has passed the counters. -/
def storeStep (request : BootProtocolFrame) (c : Core σ) : CoreReturn σ :=
  let dataWords := request.word 2
  let c' := if overlaps request then invalidateFlashService c else c
  let call := BootRam.writeBlock (request.u32 0) (loadData request) dataWords BootTarget.ramApp
    c'.world.memory
  let c' := { c' with world.memory := call.2 }
  if call.1 ≠ BootRamResult.ok then
    resetRamLoad
      (fail request
        (if call.1 = BootRamResult.badAddress then BootStatus.ramRegionError
          else BootStatus.ramWriteFailed)
        BootErr.opRamLoad BootErr.stageApiCall (request.u32 0) dataWords.toUInt32 c')
  else
    let c' := if overlaps request then { c' with world := invalidatePublishState c'.world } else c'
    sendStatus request BootStatus.ok
      { c' with
        algorithm.ramLoad :=
          countPacket c.algorithm.ramLoad (request.u32 0) dataWords (loadData request) }

theorem storeStep_step (command : request.command = BootCmd.ramLoadData)
    (ready : BootRam.checkAddress (request.u32 0) (request.word 2).toUInt32 BootTarget.ramApp =
      BootRamResult.ok → LoadReady request c.algorithm.ramLoad) :
    Steps code request c (storeStep request c) := by
  unfold storeStep
  dsimp only
  by_cases writable : BootRam.checkAddress (request.u32 0) (request.word 2).toUInt32
      BootTarget.ramApp = BootRamResult.ok
  · have step : Step code request c.view _ _ := .loaded command (ready writable)
    rw [BootRam.writeBlock_ok writable, if_neg (not_not_intro rfl)]
    by_cases within : overlaps request = true
    · rw [if_pos within, if_pos within]
      rw [loadedView, if_pos within] at step
      exact step
    · rw [if_neg within, if_neg within]
      rw [loadedView, if_neg within] at step
      exact step
  · rw [BootRam.writeBlock_bad writable, if_pos (show BootRamResult.badAddress ≠ _ by decide),
      if_pos rfl]
    have refused : BootStatus.ramRegionError ≠ BootStatus.ok := by decide
    by_cases within : overlaps request = true
    · rw [if_pos within]
      exact .loadFailed refused
    · rw [if_neg within]
      exact .aborted refused

theorem handleRamLoadData_step (command : request.command = BootCmd.ramLoadData) :
    Steps code request c (handleRamLoadData request c) := by
  apply iteInduction (motive := Steps code request c)
  · exact fun _ => steps_fail (by decide)
  intro active
  apply iteInduction (motive := Steps code request c)
  · exact fun _ => steps_resetRamLoad (by decide)
  intro header
  apply iteInduction (motive := Steps code request c)
  · exact fun _ => steps_resetRamLoad (by decide)
  intro length
  apply iteInduction (motive := Steps code request c)
  · exact fun _ => steps_resetRamLoad (by decide)
  intro nonempty
  apply iteInduction (motive := Steps code request c)
  · exact fun _ => .aborted (show BootStatus.blockIndexError ≠ BootStatus.ok by decide)
  intro index
  apply iteInduction (motive := Steps code request c)
  · exact fun _ => steps_resetRamLoad (by decide)
  intro counts
  rw [not_or] at counts
  exact storeStep_step command fun writable =>
    ⟨active, UInt16.not_lt.1 header, Decidable.not_not.1 length, nonempty,
      Decidable.not_not.1 index, UInt32.not_le.1 counts.1, UInt32.not_lt.1 counts.2, writable⟩

theorem handleRamLoadEnd_step (command : request.command = BootCmd.ramLoadEnd) :
    Steps code request c (handleRamLoadEnd request c) := by
  apply iteInduction (motive := Steps code request c)
  · exact fun _ => steps_fail (by decide)
  intro active
  apply iteInduction (motive := Steps code request c)
  · exact fun _ => steps_resetRamLoad (by decide)
  intro _
  apply iteInduction (motive := Steps code request c)
  · exact fun _ => steps_resetRamLoad (by decide)
  intro complete
  exact .ended command active (Decidable.not_not.1 complete)

theorem handleRamCheckCrc_step (command : request.command = BootCmd.ramCheckCrc) :
    Steps code request c (handleRamCheckCrc request c) := by
  apply iteInduction (motive := Steps code request c)
  · exact fun _ => steps_fail (by decide)
  intro _
  apply iteInduction (motive := Steps code request c)
  · exact fun _ => steps_refused (by decide) rfl
  intro _
  apply iteInduction (motive := Steps code request c)
  · exact fun _ => steps_fail (by decide)
  intro ready
  apply iteInduction (motive := Steps code request c)
  · exact fun _ => .mismatched (show BootStatus.verifyMismatch ≠ BootStatus.ok by decide)
  intro agrees
  rw [not_or] at agrees
  exact .checked command ready (Decidable.not_not.1 agrees.1)

theorem handleRunRam_step (command : request.command = BootCmd.runRam) :
    Steps code request c (handleRunRam request c) := by
  apply iteInduction (motive := Steps code request c)
  · exact fun _ => steps_fail (by decide)
  intro _
  apply iteInduction (motive := Steps code request c)
  · exact fun _ => steps_refused (by decide) rfl
  intro _
  apply iteInduction (motive := Steps code request c)
  · exact fun _ => steps_fail (by decide)
  intro gate
  rw [not_or] at gate
  apply iteInduction (motive := Steps code request c)
  · exact fun _ => steps_fail (by decide)
  intro _
  have other : ¬ IsLoadCommand request.command := by rw [command]; decide
  exact .untouched (fun _ => other) fun _ _ => gate

theorem failServiceAttach_view {status : UInt16} {address lengthWords : UInt32} {c : Core σ} :
    (failServiceAttach request status address lengthWords c).core.view = c.view := by
  unfold failServiceAttach
  dsimp only
  split <;> rfl

theorem steps_failServiceAttach {status : UInt16} {address lengthWords : UInt32}
    (refused : status ≠ BootStatus.ok) :
    Steps code request c (failServiceAttach request status address lengthWords c) := by
  unfold Steps
  rw [failServiceAttach_view]
  exact .untouched (fun h => absurd h refused) (fun h => absurd h refused)

theorem handleServiceAttach_step (command : request.command = BootCmd.serviceAttach) :
    Steps code request c (handleServiceAttach request code c) := by
  apply iteInduction (motive := Steps code request c)
  · exact fun _ => steps_failServiceAttach (by decide)
  intro _
  apply iteInduction (motive := Steps code request c)
  · exact fun _ => steps_failServiceAttach (by decide)
  intro _
  apply iteInduction (motive := Steps code request c)
  · exact fun _ => steps_failServiceAttach (by decide)
  intro gate
  rw [not_or] at gate
  apply iteInduction (motive := Steps code request c)
  · exact fun _ => steps_failServiceAttach (by decide)
  intro _
  apply iteInduction (motive := Steps code request c)
  · exact fun _ => steps_failServiceAttach (by decide)
  intro _
  apply iteInduction (motive := Steps code request c)
  · intro invalid
    unfold Steps
    rw [failServiceAttach_view]
    exact .attachFailed invalid invalid
  · exact fun valid => .attached command gate.1 gate.2 (Decidable.not_not.1 valid)

theorem forwardToService_step (command : isFlashCommand request.command = true) :
    Steps code request c (forwardToService request code c) := by
  have unsupported : BootStatus.unsupportedFeature ≠ BootStatus.ok := by decide
  unfold forwardToService
  split
  · exact steps_refused unsupported rfl
  rename_i handler attached
  apply iteInduction (motive := Steps code request c)
  · exact fun _ => steps_refused unsupported rfl
  intro active
  have step : ∀ status, Step code request c.view status
      { c.view with world := (code.handleCommand handler request c.world).world } :=
    fun _ => .forwarded command attached active
  dsimp only
  by_cases reported : (code.handleCommand handler request c.world).error.operation ≠ BootErr.opNone
  · rw [if_pos reported]
    split <;> exact step _
  · rw [if_neg reported]
    split <;> exact step _

theorem handleOther_step : Steps code request c (handleOther request code c) := by
  apply iteInduction (motive := Steps code request c)
  · exact forwardToService_step
  · exact fun _ => steps_refused (show BootStatus.unknownCommand ≠ BootStatus.ok by decide) rfl

section
variable (other : ¬ IsLoadCommand request.command) (run : request.command ≠ BootCmd.runRam)
include other run

theorem handleQuery_step {payload : List UInt16} :
    Steps code request c (handleQuery request payload c) := by
  apply iteInduction (motive := Steps code request c)
  · exact fun _ => steps_sendStatus other run
  · exact fun _ => steps_sendPayload other run

theorem handleMemoryRead_step : Steps code request c (handleMemoryRead request c) := by
  apply iteInduction (motive := Steps code request c)
  · exact fun _ => steps_sendStatus other run
  intro _
  apply iteInduction (motive := Steps code request c)
  · exact fun _ => steps_sendStatus other run
  intro _
  apply iteInduction (motive := Steps code request c)
  · exact fun _ => steps_sendStatus other run
  · exact fun _ => steps_sendPayload other run

theorem handleRun_step : Steps code request c (handleRun request c) := by
  apply iteInduction (motive := Steps code request c)
  · exact fun _ => steps_fail (by decide)
  intro _
  apply iteInduction (motive := Steps code request c)
  · exact fun _ => steps_fail (by decide)
  intro _
  apply iteInduction (motive := Steps code request c)
  · exact fun _ => steps_fail (by decide)
  intro _
  apply iteInduction (motive := Steps code request c)
  · exact fun _ => steps_fail (by decide)
  intro _
  apply iteInduction (motive := Steps code request c)
  · intro _
    apply steps_fail
    split <;> decide
  · exact fun _ => .untouched (fun _ => other) fun _ h => absurd h run

theorem handleReset_step {features : BootFeatures} :
    Steps code request c (handleReset request features c) := by
  apply iteInduction (motive := Steps code request c)
  · intro _
    apply iteInduction (motive := Steps code request c)
    · exact fun _ => steps_fail (by decide)
    · exact fun _ => .untouched (fun _ => other) fun _ h => absurd h run
  · exact fun _ => steps_sendStatus other run

end

/-! ## All requests -/

theorem dispatch_step {features : BootFeatures} :
    Steps code request c (dispatch request features code c) := by
  have other {command : UInt16} (h : request.command = command) (hc : ¬ IsLoadCommand command) :
      ¬ IsLoadCommand request.command := h ▸ hc
  have run {command : UInt16} (h : request.command = command) (hc : command ≠ BootCmd.runRam) :
      request.command ≠ BootCmd.runRam := h ▸ hc
  apply iteInduction (motive := Steps code request c)
  · exact fun h => steps_sendStatus (other h (by decide)) (run h (by decide))
  intro _
  apply iteInduction (motive := Steps code request c)
  · exact fun h => handleQuery_step (other h (by decide)) (run h (by decide))
  intro _
  apply iteInduction (motive := Steps code request c)
  · exact fun h => handleQuery_step (other h (by decide)) (run h (by decide))
  intro _
  apply iteInduction (motive := Steps code request c)
  · exact fun h => handleQuery_step (other h (by decide)) (run h (by decide))
  intro _
  apply iteInduction (motive := Steps code request c)
  · exact fun h => handleQuery_step (other h (by decide)) (run h (by decide))
  intro _
  apply iteInduction (motive := Steps code request c)
  · exact handleServiceAttach_step
  intro _
  apply iteInduction (motive := Steps code request c)
  · exact handleRamLoadBegin_step
  intro _
  apply iteInduction (motive := Steps code request c)
  · exact handleRamLoadData_step
  intro _
  apply iteInduction (motive := Steps code request c)
  · exact handleRamLoadEnd_step
  intro _
  apply iteInduction (motive := Steps code request c)
  · exact handleRamCheckCrc_step
  intro _
  apply iteInduction (motive := Steps code request c)
  · intro h
    apply iteInduction (motive := Steps code request c)
    · exact fun _ => handleRunRam_step h
    · exact fun _ => steps_refused (show BootStatus.unsupportedFeature ≠ BootStatus.ok by decide) rfl
  intro _
  apply iteInduction (motive := Steps code request c)
  · exact fun h => handleMemoryRead_step (other h.1 (by decide)) (run h.1 (by decide))
  intro _
  apply iteInduction (motive := Steps code request c)
  · exact fun h => handleQuery_step (other h (by decide)) (run h (by decide))
  intro _
  apply iteInduction (motive := Steps code request c)
  · exact fun h => handleRun_step (other h (by decide)) (run h (by decide))
  intro _
  apply iteInduction (motive := Steps code request c)
  · exact fun h => handleReset_step (other h (by decide)) (run h (by decide))
  · exact fun _ => handleOther_step

/-- Every request does one of the things `Step` lists. -/
theorem processOne_step (features : BootFeatures) (received : ReceiveResult) :
    Steps code request c (processOne request features code received c) := by
  apply iteInduction (motive := Steps code request c)
  · exact fun _ => steps_refused (show BootStatus.badPayloadCrc ≠ BootStatus.ok by decide) rfl
  intro _
  apply iteInduction (motive := Steps code request c)
  · exact fun _ => steps_refused (show BootStatus.unsupportedProtocol ≠ BootStatus.ok by decide) rfl
  intro _
  apply iteInduction (motive := Steps code request c)
  · exact fun _ => steps_refused (show BootStatus.badPacketType ≠ BootStatus.ok by decide) rfl
  intro _
  apply iteInduction (motive := Steps code request c)
  · exact fun _ => steps_refused (show BootStatus.badFlags ≠ BootStatus.ok by decide) rfl
  · exact fun _ => dispatch_step

/-! ## Requests that are accepted -/

/-- A frame that passes the checks of the protocol. -/
structure WellFormed (request : BootProtocolFrame) : Prop where
  protocolVer : request.protocolVer = protocolVersion
  packetType : request.packetType = pktRequest
  flags : request.flags = protocolFlagNone

theorem processOne_dispatch {features : BootFeatures} (wellFormed : WellFormed request) :
    processOne request features code .ok c = dispatch request features code c := by
  rw [processOne, if_neg (by decide), if_neg (not_not_intro wellFormed.protocolVer),
    if_neg (not_not_intro wellFormed.packetType), if_neg (not_not_intro wellFormed.flags)]

/-- A check that refuses the request has not been met by one that is accepted. -/
theorem not_of_accepted {p : Prop} [Decidable p] {x y : CoreReturn σ}
    (accepted : (if p then x else y).response.status = BootStatus.ok)
    (refuses : x.response.status ≠ BootStatus.ok) : ¬ p := by
  intro h
  rw [if_pos h] at accepted
  exact refuses accepted

/-- What is accepted has passed the checks of the protocol. -/
theorem processOne_wellFormed {features : BootFeatures} {received : ReceiveResult}
    (accepted : (processOne request features code received c).response.status = BootStatus.ok) :
    received = .ok ∧ WellFormed request := by
  unfold processOne at accepted
  have crc := not_of_accepted accepted (by decide : BootStatus.badPayloadCrc ≠ BootStatus.ok)
  rw [if_neg crc] at accepted
  have version :=
    not_of_accepted accepted (by decide : BootStatus.unsupportedProtocol ≠ BootStatus.ok)
  rw [if_neg version] at accepted
  have packetType := not_of_accepted accepted (by decide : BootStatus.badPacketType ≠ BootStatus.ok)
  rw [if_neg packetType] at accepted
  have flags := not_of_accepted accepted (by decide : BootStatus.badFlags ≠ BootStatus.ok)
  rw [Decidable.not_not] at version packetType flags
  constructor
  · cases received with
    | ok => rfl
    | badPayloadCrc => exact absurd rfl crc
  · exact ⟨version, packetType, flags⟩

theorem processOne_accepted {features : BootFeatures} {received : ReceiveResult}
    (accepted : (processOne request features code received c).response.status = BootStatus.ok) :
    processOne request features code received c = dispatch request features code c := by
  obtain ⟨rfl, wellFormed⟩ := processOne_wellFormed accepted
  exact processOne_dispatch wellFormed

section
variable {features : BootFeatures}

theorem dispatch_serviceAttach (command : request.command = BootCmd.serviceAttach) :
    dispatch request features code c = handleServiceAttach request code c := by
  unfold dispatch
  rw [command, if_neg (by decide), if_neg (by decide), if_neg (by decide), if_neg (by decide),
    if_neg (by decide), if_pos rfl]

theorem dispatch_ramLoadBegin (command : request.command = BootCmd.ramLoadBegin) :
    dispatch request features code c = handleRamLoadBegin request c := by
  unfold dispatch
  rw [command, if_neg (by decide), if_neg (by decide), if_neg (by decide), if_neg (by decide),
    if_neg (by decide), if_neg (by decide), if_pos rfl]

theorem dispatch_ramLoadData (command : request.command = BootCmd.ramLoadData) :
    dispatch request features code c = handleRamLoadData request c := by
  unfold dispatch
  rw [command, if_neg (by decide), if_neg (by decide), if_neg (by decide), if_neg (by decide),
    if_neg (by decide), if_neg (by decide), if_neg (by decide), if_pos rfl]

theorem dispatch_ramLoadEnd (command : request.command = BootCmd.ramLoadEnd) :
    dispatch request features code c = handleRamLoadEnd request c := by
  unfold dispatch
  rw [command, if_neg (by decide), if_neg (by decide), if_neg (by decide), if_neg (by decide),
    if_neg (by decide), if_neg (by decide), if_neg (by decide), if_neg (by decide), if_pos rfl]

theorem dispatch_ramCheckCrc (command : request.command = BootCmd.ramCheckCrc) :
    dispatch request features code c = handleRamCheckCrc request c := by
  unfold dispatch
  rw [command, if_neg (by decide), if_neg (by decide), if_neg (by decide), if_neg (by decide),
    if_neg (by decide), if_neg (by decide), if_neg (by decide), if_neg (by decide),
    if_neg (by decide), if_pos rfl]

theorem dispatch_runRam (command : request.command = BootCmd.runRam) :
    dispatch request features code c =
      if features.runRam then handleRunRam request c
      else sendStatus request BootStatus.unsupportedFeature c := by
  unfold dispatch
  rw [command, if_neg (by decide), if_neg (by decide), if_neg (by decide), if_neg (by decide),
    if_neg (by decide), if_neg (by decide), if_neg (by decide), if_neg (by decide),
    if_neg (by decide), if_neg (by decide), if_pos rfl]

theorem dispatch_memoryRead (command : request.command = BootCmd.memoryRead) :
    dispatch request features code c =
      if features.memoryRead then handleMemoryRead request c
      else sendStatus request BootStatus.unknownCommand c := by
  unfold dispatch
  rw [command, if_neg (by decide), if_neg (by decide), if_neg (by decide), if_neg (by decide),
    if_neg (by decide), if_neg (by decide), if_neg (by decide), if_neg (by decide),
    if_neg (by decide), if_neg (by decide), if_neg (by decide)]
  by_cases enabled : features.memoryRead = true
  · rw [if_pos ⟨rfl, enabled⟩, if_pos enabled]
  · rw [if_neg fun h => enabled h.2, if_neg enabled, if_neg (by decide), if_neg (by decide),
      if_neg (by decide), handleOther, command, if_neg (by decide)]

theorem dispatch_run (command : request.command = BootCmd.run) :
    dispatch request features code c = handleRun request c := by
  have memoryRead : ¬ (BootCmd.run = BootCmd.memoryRead ∧ features.memoryRead = true) :=
    fun h => absurd h.1 (by decide)
  unfold dispatch
  rw [command, if_neg (by decide), if_neg (by decide), if_neg (by decide), if_neg (by decide),
    if_neg (by decide), if_neg (by decide), if_neg (by decide), if_neg (by decide),
    if_neg (by decide), if_neg (by decide), if_neg (by decide), if_neg memoryRead,
    if_neg (by decide), if_pos rfl]

/-- The commands of the service are passed on to it. -/
theorem dispatch_forward (flash : isFlashCommand request.command = true) :
    dispatch request features code c = forwardToService request code c := by
  have apart : ∀ command ∈ [BootCmd.ping, BootCmd.getDeviceInfo, BootCmd.getProtocolInfo,
      BootCmd.getLastError, BootCmd.getServiceStatus, BootCmd.serviceAttach, BootCmd.ramLoadBegin,
      BootCmd.ramLoadData, BootCmd.ramLoadEnd, BootCmd.ramCheckCrc, BootCmd.runRam,
      BootCmd.memoryRead, BootCmd.getMetadataSummary, BootCmd.run, BootCmd.reset],
      request.command ≠ command := by
    intro command listed same
    rw [same] at flash
    have core : ([BootCmd.ping, BootCmd.getDeviceInfo, BootCmd.getProtocolInfo,
        BootCmd.getLastError, BootCmd.getServiceStatus, BootCmd.serviceAttach, BootCmd.ramLoadBegin,
        BootCmd.ramLoadData, BootCmd.ramLoadEnd, BootCmd.ramCheckCrc, BootCmd.runRam,
        BootCmd.memoryRead, BootCmd.getMetadataSummary, BootCmd.run, BootCmd.reset].all
        fun command => !isFlashCommand command) = true := rfl
    have other := List.all_eq_true.1 core command listed
    rw [flash] at other
    cases other
  simp only [List.mem_cons, forall_eq_or_imp] at apart
  simp only [dispatch, handleOther, apart, flash, if_true, if_false, false_and]

end

theorem handleRamLoadBegin_ok (idle : c.algorithm.ramLoad.active = 0)
    (payload : request.payloadWords = 9) (target : request.word 0 = BootTarget.ramApp)
    (counts : request.word 1 ≠ 0 ∧ request.u32 2 ≠ 0)
    (entry : BootRam.checkAddress (request.u32 4) 1 BootTarget.ramApp = BootRamResult.ok) :
    handleRamLoadBegin request c =
      sendStatus request BootStatus.ok { c with algorithm.ramLoad := begunLoad request } := by
  unfold handleRamLoadBegin
  rw [if_neg (not_not_intro payload), if_neg (not_not_intro idle), if_neg (not_not_intro target)]
  dsimp only
  rw [if_neg (not_or.2 counts), if_neg (not_not_intro entry)]

/-- What an accepted RAM_LOAD_DATA leaves. -/
def receivePacket (request : BootProtocolFrame) (c : Core σ) : Core σ :=
  let start := if overlaps request then invalidateFlashService c else c
  let stored := { start with world := storeLoad request start.world }
  let loaded :=
    if overlaps request then { stored with world := invalidatePublishState stored.world }
    else stored
  { loaded with
    algorithm.ramLoad :=
      countPacket c.algorithm.ramLoad (request.u32 0) (request.word 2) (loadData request) }

theorem handleRamLoadData_ready (ready : LoadReady request c.algorithm.ramLoad) :
    handleRamLoadData request c = sendStatus request BootStatus.ok (receivePacket request c) := by
  have counts : ¬ (c.algorithm.ramLoad.processedPacketCount ≥ c.algorithm.ramLoad.expectedPacketCount ∨
      (request.word 2).toUInt32 >
        c.algorithm.ramLoad.expectedTotalWords - c.algorithm.ramLoad.processedTotalWords) :=
    not_or.2 ⟨UInt32.not_le.2 ready.packets, UInt32.not_lt.2 ready.total⟩
  unfold handleRamLoadData
  dsimp only
  rw [if_neg ready.active, if_neg (UInt16.not_lt.2 ready.header),
    if_neg (not_not_intro ready.length), if_neg ready.nonempty,
    if_neg (not_not_intro ready.index), if_neg counts]
  simp only [BootRam.writeBlock_ok ready.writable, ne_eq, not_true_eq_false, if_false]
  rfl

theorem receivePacket_ramLoad : (receivePacket request c).algorithm.ramLoad =
    countPacket c.algorithm.ramLoad (request.u32 0) (request.word 2) (loadData request) := rfl

/-- A block that does not reach the guarded interval leaves the service alone. -/
theorem receivePacket_apart (apart : overlaps request = false) :
    receivePacket request c =
      { c with
        world := storeLoad request c.world
        algorithm.ramLoad := countPacket c.algorithm.ramLoad (request.u32 0) (request.word 2)
          (loadData request) } := by
  unfold receivePacket
  rw [apart]
  rfl

theorem handleRamLoadEnd_ok (active : c.algorithm.ramLoad.active ≠ 0)
    (payload : request.payloadWords = 6) (complete : loadComplete request c.algorithm.ramLoad) :
    handleRamLoadEnd request c =
      sendStatus request BootStatus.ok
        { c with algorithm.ramLoad := endedLoad request c.algorithm.ramLoad } := by
  unfold handleRamLoadEnd
  dsimp only
  rw [if_neg active, if_neg (not_not_intro payload), if_neg (not_not_intro complete)]
  rfl

theorem handleRamLoadEnd_incomplete (incomplete : ¬ loadComplete request c.algorithm.ramLoad) :
    (handleRamLoadEnd request c).response.status ≠ BootStatus.ok := by
  let motive (r : CoreReturn σ) : Prop := r.response.status ≠ BootStatus.ok
  apply iteInduction (motive := motive)
  · exact fun _ => show BootStatus.missingBegin ≠ BootStatus.ok by decide
  intro _
  apply iteInduction (motive := motive)
  · exact fun _ => show BootStatus.badPayloadLength ≠ BootStatus.ok by decide
  intro _
  apply iteInduction (motive := motive)
  · exact fun _ => show BootStatus.totalCountMismatch ≠ BootStatus.ok by decide
  · exact fun complete => absurd (Decidable.not_not.1 complete) incomplete

theorem handleRamCheckCrc_ok (payload : request.payloadWords = 5) (flags : request.word 4 = 0)
    (ready : c.algorithm.ramLoad.imageReady ≠ 0)
    (crc : request.u32 0 = c.algorithm.ramLoad.crc32)
    (words : request.u32 2 = c.algorithm.ramLoad.expectedTotalWords) :
    handleRamCheckCrc request c =
      sendStatus request BootStatus.ok { c with algorithm.ramLoad.crcChecked := 1 } := by
  unfold handleRamCheckCrc
  dsimp only
  rw [if_neg (not_not_intro payload), if_neg (not_not_intro flags), if_neg ready, crc, words]
  exact if_neg fun h => h.elim (fun h => h rfl) fun h => h rfl

end BootAlgorithm

end BootUpgrade

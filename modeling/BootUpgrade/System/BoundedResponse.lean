import BootUpgrade.Core.Response
import BootUpgrade.System.Link

/-!
# One bounded response for each request

What a request puts on the wire is the bytes of one frame. Its payload keeps to
the limit of the device, unless the request asks for the device information or
the metadata summary and the limit is smaller than these.
-/

namespace BootUpgrade

open BootAlgorithm

variable {σ : Type}

/-- The bytes sent are one frame that answers the request within the limit. -/
def OneResponse (request : BootProtocolFrame) (limit : UInt16) (r : CoreReturn σ) : Prop :=
  ∃ frame : WireFrame, Link.responseBytes request r.response = frame.bytes ∧
    frame.command = request.command ∧ frame.sequence = request.sequence ∧
    (frame.packetType = pktResponse ↔ frame.status = BootStatus.ok) ∧
    frame.payload.length ≤ limit.toNat

/-- The payload of a response is short enough for its count. -/
theorem oneResponse_iff {request : BootProtocolFrame} {limit : UInt16} {r : CoreReturn σ}
    (answered : Answered request 0xFFFF r) :
    OneResponse request limit r ↔ Answered request limit.toNat r := by
  have counted : Link.countedPayload r.response.payload = r.response.payload := by
    apply List.take_of_length_le
    have bound := answered.bounded
    have count : (UInt16.ofNat r.response.payload.length).toNat = r.response.payload.length :=
      UInt16.toNat_ofNat_of_lt' (by rw [UInt16.size]; omega)
    exact Nat.le_of_eq count.symm
  constructor
  · rintro ⟨frame, bytes, -, -, packetType, bounded⟩
    rw [Link.responseBytes_eq] at bytes
    rw [← WireFrame.bytes_inj bytes] at packetType bounded
    refine ⟨answered.command, answered.sequence, packetType, ?_⟩
    rw [← counted]
    exact bounded
  · intro h
    refine ⟨_, Link.responseBytes_eq request r.response, rfl, rfl, h.packetType, ?_⟩
    show (Link.countedPayload r.response.payload).length ≤ _
    rw [counted]
    exact h.bounded

/-- In every state of a run, every request is answered by one frame within the
limit of the device exactly when it is no query with a longer answer. -/
theorem bounded_response (features : BootFeatures) (code : ServiceCode σ)
    (deviceInfo : BootDeviceInfo) (w : CoreWorld σ) (c₀ : Core σ)
    (start : init deviceInfo w = some c₀) (inputs : List CoreInput) (request : BootProtocolFrame)
    (received : ReceiveResult) :
    OneResponse request deviceInfo.maxPayloadWords
        (processOne request features code received
          ((coreMachine features code).run c₀ inputs)) ↔
      ¬ (Dispatched request received ∧ TooLong request deviceInfo.maxPayloadWords.toNat) := by
  obtain ⟨same, room, buffer⟩ := init_deviceInfo start
  have info := (run_deviceInfo features code c₀ inputs).trans same
  have capacity : ∀ limit : Nat, deviceInfo.maxPayloadWords.toNat ≤ limit →
      ((coreMachine features code).run c₀ inputs).algorithm.deviceInfo.maxPayloadWords.toNat ≤
        limit := by
    rw [info]
    exact fun _ h => h
  have short : ¬ (Dispatched request received ∧ TooLong request 0xFFFF) := by
    rintro ⟨-, -, ⟨-, small⟩ | ⟨-, small⟩⟩
    · exact absurd small (by decide)
    · exact absurd small (by decide)
  have answered : Answered request 0xFFFF (processOne request features code received
      ((coreMachine features code).run c₀ inputs)) :=
    (processOne_answered (capacity 0xFFFF (by omega)) (by decide)).2 short
  rw [oneResponse_iff answered, processOne_answered (capacity _ (Nat.le_refl _)) room]

/-- The smallest payload limit that `BootAlgorithm_Init` accepts. -/
def smallInfo : BootDeviceInfo := { cpu1Info with maxPayloadWords := 13, maxDataWords := 8 }

/-- The core of that device after `BootAlgorithm_Init`. -/
def smallCore : Core Unit := { cpu1Core with algorithm.deviceInfo := smallInfo }

theorem bounded_response_ping :
    OneResponse (.ofWords BootCmd.ping 1 []) smallInfo.maxPayloadWords
      (processOne (.ofWords BootCmd.ping 1 []) ⟨true, true, true⟩ idleService .ok smallCore) := by
  have small := (bounded_response ⟨true, true, true⟩ idleService smallInfo ⟨fun _ => 0, ()⟩ smallCore
    (if_neg (by decide)) [] (.ofWords BootCmd.ping 1 []) .ok).2
  apply small
  rintro ⟨-, -, ⟨device, -⟩ | ⟨summary, -⟩⟩
  · exact absurd device (by decide)
  · exact absurd summary (by decide)

/-- The device information has sixteen words. -/
theorem bounded_response_device_info : init smallInfo ⟨fun _ => 0, ()⟩ = some smallCore ∧
    ¬ OneResponse (.ofWords BootCmd.getDeviceInfo 1 []) smallInfo.maxPayloadWords
      (processOne (.ofWords BootCmd.getDeviceInfo 1 []) ⟨true, true, true⟩ idleService .ok
        smallCore) := by
  refine ⟨if_neg (by decide), ?_⟩
  rintro ⟨frame, bytes, -, -, -, bounded⟩
  have length := congrArg List.length bytes
  rw [WireFrame.length_bytes] at length
  have sent : (Link.responseBytes (.ofWords BootCmd.getDeviceInfo 1 [])
      (processOne (.ofWords BootCmd.getDeviceInfo 1 []) ⟨true, true, true⟩ idleService .ok
        smallCore).response).length = 54 := by
    decide +kernel
  rw [sent] at length
  have limit : smallInfo.maxPayloadWords.toNat = 13 := rfl
  omega

end BootUpgrade

import BootUpgrade.Core.CrcGate

/-!
# The response to a request

Every path through the core builds one response for the request it has
received. The payloads of the queries are of a fixed size; those of a memory
read and of the service are held against the device information.
-/

namespace BootUpgrade.BootAlgorithm

variable {σ : Type} {code : ServiceCode σ} {request : BootProtocolFrame} {c : Core σ} {limit : Nat}

/-- The response is one to this request, with at most `limit` payload words. -/
structure Answered (request : BootProtocolFrame) (limit : Nat) (r : CoreReturn σ) : Prop where
  command : r.response.command = request.command
  sequence : r.response.sequence = request.sequence
  packetType : r.response.packetType = pktResponse ↔ r.response.status = BootStatus.ok
  bounded : r.response.payload.length ≤ limit

theorem packetType_iff {status : UInt16} :
    (if status = BootStatus.ok then pktResponse else pktErrorResponse) = pktResponse ↔
      status = BootStatus.ok := by
  have apart : pktErrorResponse ≠ pktResponse := by decide
  split
  · rename_i ok
    simp [ok]
  · rename_i refused
    simp [refused, apart]

theorem answered_sendStatus (status : UInt16) (c : Core σ) :
    Answered request limit (sendStatus request status c) :=
  ⟨rfl, rfl, packetType_iff, Nat.zero_le _⟩

theorem answered_fail (status operation stage : UInt16) (address lengthWords : UInt32) (c : Core σ) :
    Answered request limit (fail request status operation stage address lengthWords c) :=
  answered_sendStatus status _

theorem answered_resetRamLoad {r : CoreReturn σ} (h : Answered request limit r) :
    Answered request limit (resetRamLoad r) :=
  ⟨h.command, h.sequence, h.packetType, h.bounded⟩

theorem answered_accept (action : BootAlgorithmAction) (c : Core σ) :
    Answered request limit (accept request action c) := by
  have h := @answered_sendStatus _ request limit BootStatus.ok c
  exact ⟨h.command, h.sequence, h.packetType, h.bounded⟩

theorem answered_sendPayload {payload : List UInt16} (c : Core σ) :
    Answered request limit (sendPayload request payload c) ↔ payload.length ≤ limit := by
  constructor
  · exact fun h => h.bounded
  · intro short
    exact ⟨rfl, rfl, by simp [sendPayload, response], short⟩

/-- A test whose refusal is answered, then the rest. -/
theorem answered_ite {p : Prop} [Decidable p] {r s : CoreReturn σ}
    (first : p → Answered request limit r) (rest : ¬ p → Answered request limit s) :
    Answered request limit (if p then r else s) :=
  iteInduction first rest

/-! ## The handlers -/

theorem handleRamLoadBegin_answered : Answered request limit (handleRamLoadBegin request c) := by
  apply answered_ite fun _ => answered_fail ..
  intro _
  apply answered_ite fun _ => answered_fail ..
  intro _
  apply answered_ite fun _ => answered_fail ..
  intro _
  apply answered_ite fun _ => answered_fail ..
  intro _
  apply answered_ite fun _ => answered_fail ..
  exact fun _ => answered_sendStatus ..

theorem handleRamLoadData_answered : Answered request limit (handleRamLoadData request c) := by
  apply answered_ite fun _ => answered_fail ..
  intro _
  apply answered_ite fun _ => answered_resetRamLoad (answered_fail ..)
  intro _
  apply answered_ite fun _ => answered_resetRamLoad (answered_fail ..)
  intro _
  apply answered_ite fun _ => answered_resetRamLoad (answered_fail ..)
  intro _
  apply answered_ite fun _ => answered_resetRamLoad (answered_sendStatus ..)
  intro _
  apply answered_ite fun _ => answered_resetRamLoad (answered_fail ..)
  intro _
  apply answered_ite fun _ => answered_resetRamLoad (answered_fail ..)
  exact fun _ => answered_sendStatus ..

theorem handleRamLoadEnd_answered : Answered request limit (handleRamLoadEnd request c) := by
  apply answered_ite fun _ => answered_fail ..
  intro _
  apply answered_ite fun _ => answered_resetRamLoad (answered_fail ..)
  intro _
  apply answered_ite fun _ => answered_resetRamLoad (answered_fail ..)
  exact fun _ => answered_sendStatus ..

theorem handleRamCheckCrc_answered : Answered request limit (handleRamCheckCrc request c) := by
  apply answered_ite fun _ => answered_fail ..
  intro _
  apply answered_ite fun _ => answered_sendStatus ..
  intro _
  apply answered_ite fun _ => answered_fail ..
  intro _
  apply answered_ite fun _ => answered_fail ..
  exact fun _ => answered_sendStatus ..

theorem handleRunRam_answered : Answered request limit (handleRunRam request c) := by
  apply answered_ite fun _ => answered_fail ..
  intro _
  apply answered_ite fun _ => answered_sendStatus ..
  intro _
  apply answered_ite fun _ => answered_fail ..
  intro _
  apply answered_ite fun _ => answered_fail ..
  exact fun _ => answered_accept ..

theorem handleRun_answered : Answered request limit (handleRun request c) := by
  apply answered_ite fun _ => answered_fail ..
  intro _
  apply answered_ite fun _ => answered_fail ..
  intro _
  apply answered_ite fun _ => answered_fail ..
  intro _
  apply answered_ite fun _ => answered_fail ..
  intro _
  apply answered_ite fun _ => answered_fail ..
  exact fun _ => answered_accept ..

theorem handleServiceAttach_answered :
    Answered request limit (handleServiceAttach request code c) := by
  apply answered_ite fun _ => answered_fail ..
  intro _
  apply answered_ite fun _ => answered_fail ..
  intro _
  apply answered_ite fun _ => answered_fail ..
  intro _
  apply answered_ite fun _ => answered_fail ..
  intro _
  apply answered_ite fun _ => answered_fail ..
  intro _
  apply answered_ite fun _ => answered_fail ..
  exact fun _ => answered_sendStatus ..

theorem handleReset_answered {features : BootFeatures} :
    Answered request limit (handleReset request features c) := by
  apply answered_ite
  · intro _
    apply answered_ite fun _ => answered_fail ..
    exact fun _ => answered_accept ..
  · exact fun _ => answered_sendStatus ..

/-- The capacity of a response is what the device information says. -/
theorem handleMemoryRead_answered
    (capacity : c.algorithm.deviceInfo.maxPayloadWords.toNat ≤ limit) :
    Answered request limit (handleMemoryRead request c) := by
  apply answered_ite fun _ => answered_sendStatus ..
  intro _
  apply answered_ite fun _ => answered_sendStatus ..
  intro _
  apply answered_ite fun _ => answered_sendStatus ..
  intro count
  rw [not_or, UInt16.not_lt] at count
  obtain ⟨some, count⟩ := count
  have positive : 0 < (request.word 2).toNat := by
    apply Nat.pos_of_ne_zero
    intro zero
    exact some (UInt16.toNat_inj.1 zero)
  rw [answered_sendPayload, List.length_cons, List.length_cons, List.length_cons, List.length_map,
    List.length_range]
  rw [UInt16.le_iff_toNat_le] at count
  have three : (3 : UInt16).toNat = 3 := rfl
  split at count
  · -- the buffer is the smaller of the two capacities
    rename_i large
    rw [gt_iff_lt, UInt16.lt_iff_toNat_lt] at large
    have small : (maxPayloadWords - 3).toNat + 3 = maxPayloadWords.toNat := rfl
    split at count
    · omega
    · exact absurd count (by rw [UInt16.toNat_zero]; omega)
  · split at count
    · rename_i room
      rw [UInt16.toNat_sub_of_le _ _ (UInt16.le_of_lt room), three] at count
      rw [gt_iff_lt, UInt16.lt_iff_toNat_lt, three] at room
      omega
    · exact absurd count (by rw [UInt16.toNat_zero]; omega)

/-- What the service returns is bounded before it is sent. -/
theorem forwardToService_answered
    (capacity : c.algorithm.deviceInfo.maxPayloadWords.toNat ≤ limit) :
    Answered request limit (forwardToService request code c) := by
  unfold forwardToService
  split
  · exact answered_sendStatus ..
  rename_i handler attached
  apply answered_ite fun _ => answered_sendStatus ..
  intro _
  apply answered_ite fun _ => answered_sendStatus ..
  intro bounded
  rw [not_or, UInt16.not_lt, UInt16.le_iff_toNat_le] at bounded
  refine ⟨rfl, rfl, packetType_iff, ?_⟩
  have short := bounded.1
  have same : (if (code.handleCommand handler request c.world).error.operation ≠ BootErr.opNone then
      { algorithm := { c.algorithm with
          lastError := (code.handleCommand handler request c.world).error }
        world := (code.handleCommand handler request c.world).world }
      else ⟨c.algorithm, (code.handleCommand handler request c.world).world⟩ : Core σ
      ).algorithm.deviceInfo = c.algorithm.deviceInfo := by
    split <;> rfl
  show (List.take _ _).length ≤ limit
  rw [List.length_take]
  rw [same] at short
  omega

/-! ## All requests -/

/-- A query whose answer has a fixed number of words. -/
theorem handleQuery_answered {payload : List UInt16} :
    Answered request limit (handleQuery request payload c) ↔
      ¬ (request.payloadWords = 0 ∧ limit < payload.length) := by
  unfold handleQuery
  by_cases empty : request.payloadWords = 0
  · rw [if_neg (not_not_intro empty), answered_sendPayload]
    simp [empty]
  · rw [if_pos empty]
    simp [empty, answered_sendStatus]

theorem handleGetServiceStatus_answered (room : 12 ≤ limit) :
    Answered request limit (handleGetServiceStatus request c) := by
  apply answered_ite fun _ => answered_sendStatus ..
  exact fun _ => (answered_sendPayload c).2 room

/-- The answer to a query is longer than the payloads of the device. -/
def TooLong (request : BootProtocolFrame) (limit : Nat) : Prop :=
  request.payloadWords = 0 ∧
    (request.command = BootCmd.getDeviceInfo ∧ limit < 16 ∨
      request.command = BootCmd.getMetadataSummary ∧ limit < 25)

instance (request : BootProtocolFrame) (limit : Nat) : Decidable (TooLong request limit) :=
  inferInstanceAs (Decidable (_ ∧ (_ ∧ _ ∨ _ ∧ _)))

section
variable (capacity : c.algorithm.deviceInfo.maxPayloadWords.toNat ≤ limit) (room : 13 ≤ limit)
include capacity room

theorem dispatch_answered {features : BootFeatures} :
    Answered request limit (dispatch request features code c) ↔ ¬ TooLong request limit := by
  have fits {command : UInt16} (h : request.command = command)
      (device : command ≠ BootCmd.getDeviceInfo) (summary : command ≠ BootCmd.getMetadataSummary)
      {r : CoreReturn σ} (answered : Answered request limit r) :
      Answered request limit r ↔ ¬ TooLong request limit := by
    apply iff_of_true answered
    rintro ⟨-, ⟨is, -⟩ | ⟨is, -⟩⟩
    · exact device (h.symm.trans is)
    · exact summary (h.symm.trans is)
  let motive (r : CoreReturn σ) : Prop := Answered request limit r ↔ ¬ TooLong request limit
  apply iteInduction (motive := motive)
  · exact fun h => fits h (by decide) (by decide) (answered_sendStatus ..)
  intro _
  apply iteInduction (motive := motive)
  · intro h
    have other : BootCmd.getDeviceInfo ≠ BootCmd.getMetadataSummary := by decide
    show Answered request limit (handleQuery request _ c) ↔ _
    rw [handleQuery_answered, TooLong]
    simp only [h, true_and, other, false_and, or_false]
    rfl
  intro device
  apply iteInduction (motive := motive)
  · intro h
    apply fits h (by decide) (by decide)
    rw [handleQuery_answered]
    exact fun long => absurd long.2 (Nat.not_lt.2 (Nat.le_trans (show 8 ≤ 13 by decide) room))
  intro _
  apply iteInduction (motive := motive)
  · intro h
    apply fits h (by decide) (by decide)
    rw [handleQuery_answered]
    exact fun long => absurd long.2 (Nat.not_lt.2 (Nat.le_trans (show 11 ≤ 13 by decide) room))
  intro _
  apply iteInduction (motive := motive)
  · exact fun h => fits h (by decide) (by decide)
      (handleGetServiceStatus_answered (Nat.le_trans (show 12 ≤ 13 by decide) room))
  intro _
  apply iteInduction (motive := motive)
  · exact fun h => fits h (by decide) (by decide) handleServiceAttach_answered
  intro _
  apply iteInduction (motive := motive)
  · exact fun h => fits h (by decide) (by decide) handleRamLoadBegin_answered
  intro _
  apply iteInduction (motive := motive)
  · exact fun h => fits h (by decide) (by decide) handleRamLoadData_answered
  intro _
  apply iteInduction (motive := motive)
  · exact fun h => fits h (by decide) (by decide) handleRamLoadEnd_answered
  intro _
  apply iteInduction (motive := motive)
  · exact fun h => fits h (by decide) (by decide) handleRamCheckCrc_answered
  intro _
  apply iteInduction (motive := motive)
  · intro h
    apply fits h (by decide) (by decide)
    exact answered_ite (fun _ => handleRunRam_answered) fun _ => answered_sendStatus ..
  intro _
  apply iteInduction (motive := motive)
  · exact fun h => fits h.1 (by decide) (by decide)
      (handleMemoryRead_answered capacity)
  intro _
  apply iteInduction (motive := motive)
  · intro h
    have other : BootCmd.getMetadataSummary ≠ BootCmd.getDeviceInfo := by decide
    show Answered request limit (handleQuery request _ c) ↔ _
    rw [handleQuery_answered, TooLong]
    simp only [h, true_and, other, false_and, false_or]
    rfl
  intro summary
  have fits {r : CoreReturn σ} (answered : Answered request limit r) :
      Answered request limit r ↔ ¬ TooLong request limit := by
    apply iff_of_true answered
    rintro ⟨-, ⟨is, -⟩ | ⟨is, -⟩⟩
    · exact device is
    · exact summary is
  apply iteInduction (motive := motive)
  · exact fun _ => fits handleRun_answered
  intro _
  apply iteInduction (motive := motive)
  · exact fun _ => fits handleReset_answered
  intro _
  apply fits
  apply answered_ite
  · exact fun _ => forwardToService_answered capacity
  · exact fun _ => answered_sendStatus ..

end

/-- The request reaches the command switch. -/
def Dispatched (request : BootProtocolFrame) (received : ReceiveResult) : Prop :=
  received = .ok ∧ WellFormed request

theorem processOne_answered {features : BootFeatures} {received : ReceiveResult}
    (capacity : c.algorithm.deviceInfo.maxPayloadWords.toNat ≤ limit) (room : 13 ≤ limit) :
    Answered request limit (processOne request features code received c) ↔
      ¬ (Dispatched request received ∧ TooLong request limit) := by
  let motive (r : CoreReturn σ) : Prop :=
    Answered request limit r ↔ ¬ (Dispatched request received ∧ TooLong request limit)
  apply iteInduction (motive := motive)
  · intro bad
    apply iff_of_true (answered_sendStatus ..)
    rintro ⟨⟨ok, -⟩, -⟩
    rw [bad] at ok
    cases ok
  intro intact
  apply iteInduction (motive := motive)
  · exact fun other => iff_of_true (answered_sendStatus ..) fun h => other h.1.2.protocolVer
  intro protocolVer
  apply iteInduction (motive := motive)
  · exact fun other => iff_of_true (answered_sendStatus ..) fun h => other h.1.2.packetType
  intro packetType
  apply iteInduction (motive := motive)
  · exact fun other => iff_of_true (answered_sendStatus ..) fun h => other h.1.2.flags
  intro flags
  have ok : received = .ok := by
    cases received with
    | ok => rfl
    | badPayloadCrc => exact absurd rfl intact
  have dispatched : Dispatched request received :=
    ⟨ok, Decidable.not_not.1 protocolVer, Decidable.not_not.1 packetType,
      Decidable.not_not.1 flags⟩
  show Answered request limit (dispatch request features code c) ↔ _
  rw [dispatch_answered capacity room, not_and]
  exact ⟨fun h _ => h, fun h => h dispatched⟩

/-! ## The device information -/

theorem step_deviceInfo {v v' : CoreView σ} {status : UInt16} (step : Step code request v status v') :
    v'.deviceInfo = v.deviceInfo := by
  cases step with
  | loaded =>
    show (loadedView request v).deviceInfo = _
    unfold loadedView
    split <;> rfl
  | _ => rfl

/-- No event of a run changes the device information. -/
theorem run_deviceInfo (features : BootFeatures) (code : ServiceCode σ) (c₀ : Core σ)
    (inputs : List CoreInput) :
    ((coreMachine features code).run c₀ inputs).algorithm.deviceInfo = c₀.algorithm.deviceInfo := by
  apply (coreMachine features code).run_induction
    fun c => c.algorithm.deviceInfo = c₀.algorithm.deviceInfo
  · rfl
  intro c input same
  cases input with
  | request request received =>
    exact (step_deviceInfo (processOne_step features received)).trans same
  | restoreFlashService =>
    show (restoreFlashService code c).2.algorithm.deviceInfo = _
    rw [← same]
    unfold restoreFlashService
    dsimp only
    split <;> rfl

theorem init_deviceInfo {deviceInfo : BootDeviceInfo} {w : CoreWorld σ} {c₀ : Core σ}
    (start : init deviceInfo w = some c₀) : c₀.algorithm.deviceInfo = deviceInfo ∧
      13 ≤ deviceInfo.maxPayloadWords.toNat ∧ deviceInfo.maxPayloadWords.toNat ≤ 256 := by
  unfold init at start
  split at start
  · cases start
  rename_i checks
  simp only [not_or] at checks
  obtain ⟨-, buffer, some, units, room⟩ := checks
  cases start
  refine ⟨rfl, ?_, UInt16.le_iff_toNat_le.1 (UInt16.not_lt.1 buffer)⟩
  have unit : deviceInfo.maxDataWords.toNat % 8 = 0 := by
    have h := congrArg UInt16.toNat (Decidable.not_not.1 units)
    rwa [UInt16.toNat_mod] at h
  have positive : deviceInfo.maxDataWords.toNat ≠ 0 := fun zero => some (UInt16.toNat_inj.1 zero)
  rw [gt_iff_lt, UInt32.not_lt, UInt32.le_iff_toNat_le, Words.toNat_add_of_lt] at room
  · rw [UInt16.toNat_toUInt32, UInt16.toNat_toUInt32] at room
    have five : (5 : UInt32).toNat = 5 := rfl
    omega
  · have small := deviceInfo.maxDataWords.toNat_lt
    have five : (5 : UInt32).toNat = 5 := rfl
    rw [UInt16.toNat_toUInt32]
    omega

end BootUpgrade.BootAlgorithm

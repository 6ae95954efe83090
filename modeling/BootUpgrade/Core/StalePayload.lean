import BootUpgrade.Common.StalePayload
import BootUpgrade.Core.Algorithm

/-!
# The core reads no stale words

The core's handlers check `payload_words` before they read a word. A service
command is passed on, so the core is as good as the service code there.
-/

namespace BootUpgrade

/-- The code's command handler reads no stale words. -/
def ServiceCode.ReadsRequest {σ : Type} (code : ServiceCode σ) : Prop :=
  ∀ address r r' w, SameRequest r r' →
    code.handleCommand address r w = code.handleCommand address r' w

namespace BootAlgorithm

variable {σ : Type} {r r' : BootProtocolFrame} (same : SameRequest r r')
include same

/-! ## Responses -/

theorem response_same : response r = response r' := by
  funext packetType status payload
  rw [response, response, same.command, same.sequence]

theorem sendStatus_same : sendStatus (σ := σ) r = sendStatus r' := by
  funext status c
  rw [sendStatus, sendStatus, response_same same]

theorem sendPayload_same : sendPayload (σ := σ) r = sendPayload r' := by
  funext payload c
  rw [sendPayload, sendPayload, response_same same]

theorem fail_same : fail (σ := σ) r = fail r' := by
  funext status operation stage address lengthWords c
  rw [fail, fail, sendStatus_same same]

theorem accept_same : accept (σ := σ) r = accept r' := by
  funext action c
  rw [accept, accept, sendStatus_same same]

theorem failServiceAttach_same : failServiceAttach (σ := σ) r = failServiceAttach r' := by
  funext status address lengthWords c
  rw [failServiceAttach, failServiceAttach, fail_same same]

/-! ## The RAM load -/

variable (c : Core σ)

theorem handleRamLoadBegin_same : handleRamLoadBegin r c = handleRamLoadBegin r' c := by
  unfold handleRamLoadBegin begunLoad
  rw [← same.payloadWords, fail_same same, sendStatus_same same]
  apply ite_congr rfl (fun _ => rfl)
  intro length
  rw [Decidable.not_not] at length
  rw [same.word_of length (show 0 < 9 by decide), same.word_of length (show 1 < 9 by decide),
    same.u32_of length (show 2 + 1 < 9 by decide), same.u32_of length (show 4 + 1 < 9 by decide)]

theorem handleRamLoadData_same : handleRamLoadData r c = handleRamLoadData r' c := by
  unfold handleRamLoadData
  dsimp only
  rw [← same.payloadWords, fail_same same, sendStatus_same same]
  apply ite_congr rfl (fun _ => rfl)
  intro _
  apply ite_congr rfl (fun _ => rfl)
  intro header
  have five : (5 : UInt16).toNat = 5 := rfl
  have enough : 5 ≤ r.payloadWords.toNat := by
    rw [UInt16.not_lt, UInt16.le_iff_toNat_le, five] at header
    exact header
  have count : r.word 2 = r'.word 2 := same.word 2 (by omega)
  have address : r.u32 0 = r'.u32 0 := same.u32_of rfl (by omega)
  have index : r.u32 3 = r'.u32 3 := same.u32_of rfl (by omega)
  rw [← count, ← address, ← index]
  apply ite_congr rfl (fun _ => rfl)
  intro length
  have inside := BootProtocolFrame.data_inside header (Decidable.not_not.1 length)
  have data : r.words 5 (r.word 2).toNat = r'.words 5 (r.word 2).toNat := same.words_of inside
  rw [data]

theorem handleRamLoadEnd_same : handleRamLoadEnd r c = handleRamLoadEnd r' c := by
  unfold handleRamLoadEnd
  dsimp only
  rw [← same.payloadWords, fail_same same, sendStatus_same same]
  apply ite_congr rfl (fun _ => rfl)
  intro _
  apply ite_congr rfl (fun _ => rfl)
  intro length
  rw [Decidable.not_not] at length
  have packets : r.u32 0 = r'.u32 0 := same.u32_of length (show 0 + 1 < 6 by decide)
  have words : r.u32 2 = r'.u32 2 := same.u32_of length (show 2 + 1 < 6 by decide)
  rw [packets, words]
  apply ite_congr _ (fun _ => rfl) (fun _ => rfl)
  unfold loadComplete
  rw [packets, words]

theorem handleRamCheckCrc_same : handleRamCheckCrc r c = handleRamCheckCrc r' c := by
  unfold handleRamCheckCrc
  rw [← same.payloadWords, fail_same same, sendStatus_same same]
  apply ite_congr rfl (fun _ => rfl)
  intro length
  rw [Decidable.not_not] at length
  rw [same.word_of length (show 4 < 5 by decide), same.u32_of length (show 0 + 1 < 5 by decide),
    same.u32_of length (show 2 + 1 < 5 by decide)]

theorem handleRunRam_same : handleRunRam r c = handleRunRam r' c := by
  unfold handleRunRam
  rw [← same.payloadWords, fail_same same, sendStatus_same same, accept_same same]
  apply ite_congr rfl (fun _ => rfl)
  intro length
  rw [Decidable.not_not] at length
  rw [same.word_of length (show 2 < 3 by decide), same.u32_of length (show 0 + 1 < 3 by decide)]

/-! ## The other commands -/

theorem handleRun_same : handleRun r c = handleRun r' c := by
  unfold handleRun
  rw [← same.payloadWords, fail_same same, accept_same same]
  apply ite_congr rfl (fun _ => rfl)
  intro length
  rw [Decidable.not_not] at length
  rw [same.word_of length (show 0 < 4 by decide), same.u32_of length (show 1 + 1 < 4 by decide)]

theorem handleQuery_same (payload : List UInt16) : handleQuery r payload c = handleQuery r' payload c := by
  rw [handleQuery, handleQuery, ← same.payloadWords, sendStatus_same same, sendPayload_same same]

theorem handleGetServiceStatus_same :
    handleGetServiceStatus r c = handleGetServiceStatus r' c := by
  unfold handleGetServiceStatus
  rw [← same.payloadWords, sendStatus_same same, sendPayload_same same]

theorem handleGetMetadataSummary_same :
    handleGetMetadataSummary r c = handleGetMetadataSummary r' c := by
  unfold handleGetMetadataSummary
  rw [← same.payloadWords, sendStatus_same same, sendPayload_same same]

theorem handleMemoryRead_same : handleMemoryRead r c = handleMemoryRead r' c := by
  unfold handleMemoryRead
  rw [← same.payloadWords, sendStatus_same same, sendPayload_same same]
  apply ite_congr rfl (fun _ => rfl)
  intro length
  rw [Decidable.not_not] at length
  rw [same.word_of length (show 3 < 4 by decide), same.word_of length (show 2 < 4 by decide),
    same.u32_of length (show 0 + 1 < 4 by decide)]

theorem handleReset_same (features : BootFeatures) :
    handleReset r features c = handleReset r' features c := by
  unfold handleReset
  rw [← same.payloadWords, fail_same same, accept_same same, sendStatus_same same]

variable {code : ServiceCode σ}

theorem handleServiceAttach_same :
    handleServiceAttach r code c = handleServiceAttach r' code c := by
  unfold handleServiceAttach
  dsimp only
  rw [← same.payloadWords, failServiceAttach_same same, sendStatus_same same]
  apply ite_congr rfl (fun _ => rfl)
  intro length
  rw [Decidable.not_not] at length
  rw [same.word_of length (show 6 < 7 by decide), same.u32_of length (show 0 + 1 < 7 by decide),
    same.u32_of length (show 2 + 1 < 7 by decide), same.u32_of length (show 4 + 1 < 7 by decide)]

section
variable (reads : code.ReadsRequest)
include reads

theorem forwardToService_same : forwardToService r code c = forwardToService r' code c := by
  unfold forwardToService
  rw [sendStatus_same same, response_same same]
  cases c.algorithm.serviceCommandHandler with
  | none => rfl
  | some handler =>
    dsimp only
    rw [reads handler r r' c.world same]

theorem dispatch_same (features : BootFeatures) :
    dispatch r features code c = dispatch r' features code c := by
  unfold dispatch handleOther
  rw [← same.command, ← same.payloadWords, sendStatus_same same, handleQuery_same same,
    handleQuery_same same, handleQuery_same same, handleGetServiceStatus_same same,
    handleServiceAttach_same same, handleRamLoadBegin_same same, handleRamLoadData_same same,
    handleRamLoadEnd_same same, handleRamCheckCrc_same same, handleRunRam_same same,
    handleMemoryRead_same same, handleGetMetadataSummary_same same, handleRun_same same,
    handleReset_same same, forwardToService_same same c reads]

/-- The core answers and does the same whatever stands behind the payload. -/
theorem processOne_same (features : BootFeatures) (received : ReceiveResult) :
    processOne r features code received c = processOne r' features code received c := by
  unfold processOne
  rw [← same.protocolVer, ← same.packetType, ← same.flags, sendStatus_same same,
    dispatch_same same c reads]

end

end BootAlgorithm

end BootUpgrade

import BootUpgrade.Core.PayloadFlags
import BootUpgrade.FlashService.PayloadFlags
import BootUpgrade.System.Device

/-!
# Reserved payload flags

Which commands of the device refuse a request for its payload flags alone.
-/

namespace BootUpgrade

open BootAlgorithm Device

/-- The commands whose handlers do not read their flags word. -/
def flagsNotChecked : List UInt16 :=
  [BootCmd.ramLoadBegin, BootCmd.run, BootCmd.programBegin, BootCmd.verifyBegin]

variable {σ : Type} {port : FlashPort σ} {features : BootFeatures} {c : Core (FlashService σ)}
  {r r' : BootProtocolFrame}

/-- An accepted request is not refused. -/
theorem not_flagsRefused {τ : Type} {c : Core τ} {ret : CoreReturn τ}
    (accepted : ret.response.status = BootStatus.ok) : ¬ FlagsRefused c ret := by
  intro refused
  have badFlags := accepted.symm.trans refused.status
  exact absurd badFlags (by decide)

/-! ## Requests for the service -/

theorem handleCommand_uninitialized {address : UInt32} {w : CoreWorld (FlashService σ)}
    (uninitialized : w.service.runtime.initialized = 0) :
    (flashServiceCode port).handleCommand address r w =
      ⟨BootStatus.invalidState, [], 0, .clear, w⟩ := by
  dsimp only [flashServiceCode]
  unfold BootFlashService.bootHandleCommand
  rw [if_pos uninitialized]
  dsimp only
  rw [flashChanged_self]

theorem handleCommand_initialized (address : UInt32) {w : CoreWorld (FlashService σ)}
    {o : Outcome σ} (initialized : w.service.runtime.initialized ≠ 0)
    (dispatched : BootFlashService.dispatch port r w.service = o) :
    (flashServiceCode port).handleCommand address r w =
      ⟨o.status, [], 0, o.error,
        ⟨flashChanged port w.service.world o.service.world w.memory, o.service⟩⟩ := by
  dsimp only [flashServiceCode]
  unfold BootFlashService.bootHandleCommand
  rw [if_neg initialized, dispatched]

/-- A service request that is accepted has been accepted by the service. -/
theorem forwardToService_accepted
    (accepted : (forwardToService r (flashServiceCode port) c).response.status = BootStatus.ok) :
    (∃ address, c.algorithm.serviceCommandHandler = some address) ∧ c.algorithm.serviceActive ≠ 0 ∧
      c.world.service.runtime.initialized ≠ 0 ∧
      (BootFlashService.dispatch port r c.world.service).status = BootStatus.ok := by
  unfold forwardToService at accepted
  cases handler : c.algorithm.serviceCommandHandler with
  | none =>
    rw [handler] at accepted
    exact absurd accepted (by decide : BootStatus.unsupportedFeature ≠ BootStatus.ok)
  | some address =>
    rw [handler] at accepted
    dsimp only at accepted
    have active :=
      not_of_accepted accepted (by decide : BootStatus.unsupportedFeature ≠ BootStatus.ok)
    rw [if_neg active] at accepted
    have room := not_of_accepted accepted (by decide : BootStatus.badPayloadLength ≠ BootStatus.ok)
    rw [if_neg room] at accepted
    dsimp only at accepted
    refine ⟨⟨address, rfl⟩, active, ?_⟩
    by_cases initialized : c.world.service.runtime.initialized = 0
    · rw [handleCommand_uninitialized initialized] at accepted
      exact absurd accepted (by decide : BootStatus.invalidState ≠ BootStatus.ok)
    · rw [handleCommand_initialized address initialized rfl] at accepted
      exact ⟨initialized, accepted⟩

/-- A request that the service refuses for its flags. -/
theorem forwardToService_flags {operation : UInt16}
    (accepted : (forwardToService r (flashServiceCode port) c).response.status = BootStatus.ok)
    (refused : BootFlashService.dispatch port r' c.world.service =
      BootFlashService.fail c.world.service BootStatus.badFlags operation BootErr.stagePayload 0 0) :
    FlagsRefused c (forwardToService r' (flashServiceCode port) c) := by
  obtain ⟨⟨address, handler⟩, active, initialized, -⟩ := forwardToService_accepted accepted
  have call := handleCommand_initialized address initialized refused
  dsimp only [BootFlashService.fail] at call
  rw [flashChanged_self] at call
  have empty : ¬ ((0 : UInt16) > c.algorithm.deviceInfo.maxPayloadWords ∨
      (0 : UInt16) > maxPayloadWords) := by
    rintro (small | small)
    · exact absurd small (by simp)
    · exact absurd small (by decide)
  unfold forwardToService
  rw [handler]
  dsimp only
  rw [if_neg active, call]
  dsimp only
  by_cases reported : (BootFlashService.setError operation BootErr.stagePayload 0 0 0 0).operation ≠
      BootErr.opNone
  · rw [if_pos reported, if_neg empty]
    exact ⟨rfl, rfl, rfl⟩
  · rw [if_neg reported, if_neg empty]
    exact ⟨rfl, rfl, rfl⟩

/-- A request that the service handles like another. -/
theorem forwardToService_alike {index : Nat} (same : SameButFlags index r r')
    (alike : BootFlashService.dispatch port r c.world.service =
      BootFlashService.dispatch port r' c.world.service) :
    forwardToService r (flashServiceCode port) c = forwardToService r' (flashServiceCode port) c := by
  have call : ∀ address, (flashServiceCode port).handleCommand address r c.world =
      (flashServiceCode port).handleCommand address r' c.world := by
    intro address
    dsimp only [flashServiceCode]
    unfold BootFlashService.bootHandleCommand
    rw [alike]
  unfold forwardToService sendStatus
  rw [response_flags same]
  cases c.algorithm.serviceCommandHandler with
  | none => rfl
  | some address =>
    dsimp only
    rw [call]

/-! ## All requests -/

/-- A MEMORY_READ of one word. -/
def readWords : List UInt16 := [0x8000, 0, 1, 0]

/-- A RAM_LOAD_BEGIN for one packet of eight words. -/
def loadWords : List UInt16 := [BootTarget.ramApp, 1, 8, 0, 0x8000, 0, 0, 0, 0]

end BootUpgrade

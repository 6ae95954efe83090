import BootUpgrade.Core.StalePayload
import BootUpgrade.FlashService.StalePayload
import BootUpgrade.System.Device

/-!
# Runs that differ in stale words

Two runs of the device whose request buffers differ behind the payload only.
-/

namespace BootUpgrade

open BootAlgorithm

/-- The same input, but for the stale words of a request. -/
inductive SameInput : CoreInput → CoreInput → Prop
  | request {r r' : BootProtocolFrame} (same : SameRequest r r') (received : ReceiveResult) :
      SameInput (.request r received) (.request r' received)
  | restoreFlashService : SameInput .restoreFlashService .restoreFlashService

/-- The same inputs one by one. -/
inductive SameInputs : List CoreInput → List CoreInput → Prop
  | nil : SameInputs [] []
  | cons {i i' : CoreInput} {is is' : List CoreInput} (first : SameInput i i')
      (rest : SameInputs is is') : SameInputs (i :: is) (i' :: is')

variable {σ : Type}

theorem coreMachine_same {code : ServiceCode σ} (reads : code.ReadsRequest)
    (features : BootFeatures) {i i' : CoreInput} (same : SameInput i i') (c : Core σ) :
    (coreMachine features code).step c i = (coreMachine features code).step c i' := by
  cases same with
  | request same received =>
    dsimp only [coreMachine]
    rw [processOne_same same c reads]
  | restoreFlashService => rfl

theorem flashServiceCode_readsRequest (port : FlashPort σ) :
    (Device.flashServiceCode port).ReadsRequest := by
  intro address r r' w same
  dsimp only [Device.flashServiceCode]
  rw [BootFlashService.bootHandleCommand_same same]

/-- The request with stale words behind its payload. -/
def staleRequest (r : BootProtocolFrame) : BootProtocolFrame :=
  { r with payload := Vector.ofFn fun i => if i < r.payloadWords.toNat then r.word i else 0xBEEF }

theorem staleRequest_same (r : BootProtocolFrame) : SameRequest r (staleRequest r) := by
  constructor
  case word =>
    intro i hi
    have buffer := r.payloadWords_le
    have index : i < 256 := by omega
    have stale : (staleRequest r).word i = if i < r.payloadWords.toNat then r.word i else 0xBEEF := by
      simp [staleRequest, BootProtocolFrame.word, index]
    rw [stale, if_pos hi]
  all_goals dsimp only [staleRequest]

end BootUpgrade

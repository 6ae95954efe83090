import BootUpgrade.Core.CrcGate

/-!
# The load that the core holds

Only the commands of a RAM load and RAM_CHECK_CRC touch its session, so a load
that has been completed and checked stays until one of them comes.
-/

namespace BootUpgrade.BootAlgorithm

variable {σ : Type} {features : BootFeatures} {code : ServiceCode σ} {request : BootProtocolFrame}
  {received : ReceiveResult} {c : Core σ}

/-- The commands that may change the session of the RAM load. -/
def ChangesLoad (command : UInt16) : Prop :=
  command = BootCmd.ramLoadBegin ∨ command = BootCmd.ramLoadData ∨
    command = BootCmd.ramLoadEnd ∨ command = BootCmd.ramCheckCrc

instance (command : UInt16) : Decidable (ChangesLoad command) :=
  inferInstanceAs (Decidable (_ ∨ _ ∨ _ ∨ _))

/-- The session behind the answer is `load`. -/
def Keeps (load : BootTransferSession) (r : CoreReturn σ) : Prop :=
  r.core.algorithm.ramLoad = load

section
variable {load : BootTransferSession}

theorem keeps_ite {p : Prop} [Decidable p] {x y : CoreReturn σ} (hx : Keeps load x)
    (hy : Keeps load y) : Keeps load (if p then x else y) := by
  split
  · exact hx
  · exact hy

theorem keeps_core {r : CoreReturn σ} {p : Prop} [Decidable p] {x y : Core σ}
    (is : r.core = if p then x else y) (hx : x.algorithm.ramLoad = load)
    (hy : y.algorithm.ramLoad = load) : Keeps load r := by
  unfold Keeps
  rw [is]
  split
  · exact hx
  · exact hy

variable (held : c.algorithm.ramLoad = load)
include held

theorem handleQuery_keeps {payload : List UInt16} : Keeps load (handleQuery request payload c) :=
  keeps_ite held held

theorem failServiceAttach_keeps {status : UInt16} {address lengthWords : UInt32} :
    Keeps load (failServiceAttach request status address lengthWords c) := by
  show (if c.algorithm.serviceActive = 0 then _ else c : Core σ).algorithm.ramLoad = load
  split <;> exact held

theorem handleServiceAttach_keeps : Keeps load (handleServiceAttach request code c) := by
  unfold handleServiceAttach
  dsimp only
  iterate 5
    apply keeps_ite
    · exact failServiceAttach_keeps held
  apply keeps_ite
  · let validated : Core σ :=
      { c with world := (validateFlashService code c.algorithm.deviceInfo c.world).world }
    have validatedHeld : validated.algorithm.ramLoad = load := held
    exact failServiceAttach_keeps validatedHeld
  · exact held

theorem handleRunRam_keeps : Keeps load (handleRunRam request c) := by
  unfold handleRunRam
  dsimp only
  iterate 4
    apply keeps_ite
    · exact held
  exact held

theorem handleRun_keeps : Keeps load (handleRun request c) := by
  unfold handleRun
  dsimp only
  iterate 5
    apply keeps_ite
    · exact held
  exact held

theorem handleMemoryRead_keeps : Keeps load (handleMemoryRead request c) := by
  unfold handleMemoryRead
  dsimp only
  iterate 3
    apply keeps_ite
    · exact held
  exact held

theorem forwardToService_keeps : Keeps load (forwardToService request code c) := by
  unfold forwardToService
  split
  · exact held
  apply keeps_ite
  · exact held
  dsimp only
  apply keeps_ite
  · exact keeps_core rfl held held
  · exact keeps_core rfl held held

/-- What is no command of the load leaves its session alone. -/
theorem dispatch_keeps (other : ¬ ChangesLoad request.command) :
    Keeps load (dispatch request features code c) := by
  obtain ⟨begins, data, ends, crc⟩ : request.command ≠ BootCmd.ramLoadBegin ∧
      request.command ≠ BootCmd.ramLoadData ∧ request.command ≠ BootCmd.ramLoadEnd ∧
      request.command ≠ BootCmd.ramCheckCrc := by
    simpa [ChangesLoad] using other
  unfold dispatch
  rw [if_neg begins, if_neg data, if_neg ends, if_neg crc]
  apply keeps_ite
  · exact held
  iterate 3
    apply keeps_ite
    · exact handleQuery_keeps held
  apply keeps_ite
  · exact keeps_ite held held
  apply keeps_ite
  · exact handleServiceAttach_keeps held
  apply keeps_ite
  · exact keeps_ite (handleRunRam_keeps held) held
  apply keeps_ite
  · exact handleMemoryRead_keeps held
  apply keeps_ite
  · exact handleQuery_keeps held
  apply keeps_ite
  · exact handleRun_keeps held
  apply keeps_ite
  · exact keeps_ite (keeps_ite held held) held
  · exact keeps_ite (forwardToService_keeps held) held

theorem processOne_keeps (other : ¬ ChangesLoad request.command) :
    Keeps load (processOne request features code received c) := by
  unfold processOne
  iterate 4
    apply keeps_ite
    · exact held
  exact dispatch_keeps held other

end

/-- An accepted RAM_CHECK_CRC names the CRC and the length of the load that is ready. -/
theorem handleRamCheckCrc_accepted
    (accepted : (handleRamCheckCrc request c).response.status = BootStatus.ok) :
    c.algorithm.ramLoad.imageReady ≠ 0 ∧ request.u32 0 = c.algorithm.ramLoad.crc32 ∧
      request.u32 2 = c.algorithm.ramLoad.expectedTotalWords ∧
      Keeps { c.algorithm.ramLoad with crcChecked := 1 } (handleRamCheckCrc request c) := by
  unfold handleRamCheckCrc at accepted ⊢
  dsimp only at accepted ⊢
  have length := not_of_accepted accepted (by decide : BootStatus.badPayloadLength ≠ BootStatus.ok)
  rw [if_neg length] at accepted ⊢
  have flags := not_of_accepted accepted (by decide : BootStatus.badFlags ≠ BootStatus.ok)
  rw [if_neg flags] at accepted ⊢
  have ready := not_of_accepted accepted (by decide : BootStatus.invalidState ≠ BootStatus.ok)
  rw [if_neg ready] at accepted ⊢
  have same := not_of_accepted accepted (by decide : BootStatus.verifyMismatch ≠ BootStatus.ok)
  rw [if_neg same]
  rw [not_or, Decidable.not_not, Decidable.not_not] at same
  exact ⟨ready, same.1, same.2, rfl⟩

/-- No image is ready while a load is under way. -/
def OneAtATime (load : BootTransferSession) : Prop := load.active ≠ 0 → load.imageReady = 0

theorem oneAtATime_step {v v' : CoreView σ} {status : UInt16}
    (step : Step code request v status v') (one : OneAtATime v.ramLoad) : OneAtATime v'.ramLoad := by
  cases step with
  | untouched | attached | attachFailed | forwarded => exact one
  | loaded command ready =>
    intro _
    exact one ready.active
  | mismatched => exact one
  | checked command ready =>
    intro active
    exact absurd (one active) ready
  | aborted | loadFailed =>
    intro active
    exact absurd rfl active
  | begun =>
    intro _
    rfl
  | ended =>
    intro active
    exact absurd rfl active

/-- A core that has been started and has received requests meets it. -/
theorem oneAtATime_run {deviceInfo : BootDeviceInfo} {w : CoreWorld σ} {c₀ : Core σ}
    (started : init deviceInfo w = some c₀) (inputs : List CoreInput) :
    OneAtATime ((coreMachine features code).run c₀ inputs).algorithm.ramLoad := by
  have inv := ramLoadInvariant_run features code (init_ramLoad started) inputs
  intro active
  exact (inv.loading active).1

end BootUpgrade.BootAlgorithm

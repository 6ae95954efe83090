import BootUpgrade.Common.PayloadFlags
import BootUpgrade.Core.Step

/-!
# Payload flags of the core's commands

RAM_CHECK_CRC, RUN_RAM, MEMORY_READ and SERVICE_ATTACH refuse flags.
RAM_LOAD_BEGIN and RUN do not read their flags words.
-/

namespace BootUpgrade.BootAlgorithm

variable {σ : Type} {r r' : BootProtocolFrame} {c : Core σ}

/-- Nothing has changed but the error detail and the attach status, which only
the diagnostic queries report. -/
def OnlyReports (c c' : Core σ) : Prop :=
  c' =
    { c with
      algorithm :=
        { c.algorithm with
          lastError := c'.algorithm.lastError
          serviceState.state := c'.algorithm.serviceState.state
          serviceState.lastAttachStatus := c'.algorithm.serviceState.lastAttachStatus } }

/-- The request has been refused with BAD_FLAGS, without any effect. -/
structure FlagsRefused (c : Core σ) (r : CoreReturn σ) : Prop where
  status : r.response.status = BootStatus.badFlags
  action : r.action = .none
  unchanged : OnlyReports c r.core

theorem flagsRefused_sendStatus : FlagsRefused c (sendStatus r BootStatus.badFlags c) :=
  ⟨rfl, rfl, rfl⟩

theorem flagsRefused_failServiceAttach {address lengthWords : UInt32} :
    FlagsRefused c (failServiceAttach r BootStatus.badFlags address lengthWords c) := by
  constructor
  · rfl
  · rfl
  · unfold OnlyReports failServiceAttach
    dsimp only
    split
    · rfl
    · rfl

/-! ## Commands that refuse flags -/

theorem handleRamCheckCrc_flags (same : SameButFlags 4 r r') (nonzero : r'.word 4 ≠ 0)
    (accepted : (handleRamCheckCrc r c).response.status = BootStatus.ok) :
    handleRamCheckCrc r' c = sendStatus r' BootStatus.badFlags c := by
  have length := not_of_accepted accepted (by decide : BootStatus.badPayloadLength ≠ BootStatus.ok)
  rw [handleRamCheckCrc, ← same.payloadWords, if_neg length, if_pos nonzero]

theorem handleRunRam_flags (same : SameButFlags 2 r r') (nonzero : r'.word 2 ≠ 0)
    (accepted : (handleRunRam r c).response.status = BootStatus.ok) :
    handleRunRam r' c = sendStatus r' BootStatus.badFlags c := by
  have length := not_of_accepted accepted (by decide : BootStatus.badPayloadLength ≠ BootStatus.ok)
  rw [handleRunRam, ← same.payloadWords, if_neg length, if_pos nonzero]

theorem handleMemoryRead_flags (same : SameButFlags 3 r r') (nonzero : r'.word 3 ≠ 0)
    (accepted : (handleMemoryRead r c).response.status = BootStatus.ok) :
    handleMemoryRead r' c = sendStatus r' BootStatus.badFlags c := by
  have length := not_of_accepted accepted (by decide : BootStatus.badPayloadLength ≠ BootStatus.ok)
  rw [handleMemoryRead, ← same.payloadWords, if_neg length, if_pos nonzero]

theorem handleServiceAttach_flags {code : ServiceCode σ} (same : SameButFlags 6 r r')
    (nonzero : r'.word 6 ≠ 0)
    (accepted : (handleServiceAttach r code c).response.status = BootStatus.ok) :
    handleServiceAttach r' code c = failServiceAttach r' BootStatus.badFlags 0 0 c := by
  have length := not_of_accepted accepted (by decide : BootStatus.badPayloadLength ≠ BootStatus.ok)
  rw [handleServiceAttach, ← same.payloadWords, if_neg length, if_pos nonzero]

/-! ## Commands that do not read their flags -/

theorem response_flags {index : Nat} (same : SameButFlags index r r') : response r = response r' := by
  funext packetType status payload
  rw [response, response, same.command, same.sequence]

theorem handleRamLoadBegin_flags (same : SameButFlags 8 r r') :
    handleRamLoadBegin r c = handleRamLoadBegin r' c := by
  unfold handleRamLoadBegin begunLoad fail sendStatus
  rw [same.payloadWords, same.word 0 (by decide), same.word 1 (by decide),
    same.u32 (show 2 ≠ 8 by decide) (by decide), same.u32 (show 4 ≠ 8 by decide) (by decide),
    response_flags same]

theorem handleRun_flags (same : SameButFlags 3 r r') : handleRun r c = handleRun r' c := by
  unfold handleRun fail accept sendStatus
  rw [same.payloadWords, same.word 0 (by decide), same.u32 (show 1 ≠ 3 by decide) (by decide),
    response_flags same]

end BootUpgrade.BootAlgorithm

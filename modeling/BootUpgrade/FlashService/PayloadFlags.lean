import BootUpgrade.Common.PayloadFlags
import BootUpgrade.FlashService.Step

/-!
# Payload flags of the service commands

ERASE and METADATA_APPEND_RECORD refuse flags before they do anything. BEGIN
does not read its flags word.
-/

namespace BootUpgrade.BootFlashService

variable {σ : Type} {port : FlashPort σ} {r r' : BootProtocolFrame} {s : FlashService σ}

/-- A request that a check refuses has not been accepted. -/
theorem not_of_accepted {p : Prop} [Decidable p] {x y : Outcome σ}
    (accepted : (if p then x else y).status = BootStatus.ok) (refuses : x.status ≠ BootStatus.ok) :
    ¬ p := by
  intro h
  rw [if_pos h] at accepted
  exact refuses accepted

theorem handleErase_flags (same : SameButFlags 2 r r') (nonzero : r'.word 2 ≠ 0)
    (accepted : (handleErase port r s).status = BootStatus.ok) :
    handleErase port r' s =
      fail s BootStatus.badFlags BootErr.opErase BootErr.stagePayload 0 0 := by
  have length := not_of_accepted accepted (by decide : BootStatus.badPayloadLength ≠ BootStatus.ok)
  rw [handleErase, ← same.payloadWords, if_neg length, if_pos nonzero]

theorem handleBegin_flags (same : SameButFlags 8 r r') (operation : SessionOperation)
    (errorOperation failedStatus : UInt16) :
    handleBegin port r operation errorOperation failedStatus s =
      handleBegin port r' operation errorOperation failedStatus s := by
  unfold handleBegin
  rw [same.payloadWords, same.word 0 (by decide), same.word 1 (by decide),
    same.u32 (show 2 ≠ 8 by decide) (by decide), same.u32 (show 4 ≠ 8 by decide) (by decide)]

/-! ## Metadata records -/

theorem metadataRequestValid_flags (same : SameButFlags 15 r r') (nonzero : r'.word 15 ≠ 0)
    (accepted : (metadataRequestValid r s).status = BootStatus.ok) :
    metadataRequestValid r' s =
      fail s BootStatus.badFlags BootErr.opProgram BootErr.stagePayload 0 0 := by
  unfold metadataRequestValid at accepted
  have length := not_of_accepted accepted (by decide : BootStatus.badPayloadLength ≠ BootStatus.ok)
  rw [if_neg length] at accepted
  have kind := not_of_accepted accepted (by decide : BootStatus.unsupportedFeature ≠ BootStatus.ok)
  rw [if_neg kind] at accepted
  have slot := not_of_accepted accepted (by decide : BootStatus.unsupportedFeature ≠ BootStatus.ok)
  unfold metadataRequestValid
  rw [← same.payloadWords, ← same.word 0 (by decide), ← same.word 1 (by decide), if_neg length,
    if_neg kind, if_neg slot, if_pos nonzero]

theorem identityRequestValid_flags (same : SameButFlags 15 r r') (nonzero : r'.word 15 ≠ 0)
    (accepted : (identityRequestValid r s).status = BootStatus.ok) :
    identityRequestValid r' s =
      fail s BootStatus.badFlags BootErr.opProgram BootErr.stagePayload 0 0 := by
  unfold identityRequestValid at accepted
  have length := not_of_accepted accepted (by decide : BootStatus.badPayloadLength ≠ BootStatus.ok)
  rw [if_neg length] at accepted
  have slot := not_of_accepted accepted (by decide : BootStatus.unsupportedFeature ≠ BootStatus.ok)
  unfold identityRequestValid
  rw [← same.payloadWords, ← same.word 1 (by decide), if_neg length, if_neg slot, if_pos nonzero]

/-- A check that refuses stops the handler. -/
theorem handleMetadataAppendRecord_flags (same : SameButFlags 15 r r') (nonzero : r'.word 15 ≠ 0)
    (accepted : (handleMetadataAppendRecord port r s).status = BootStatus.ok) :
    handleMetadataAppendRecord port r' s =
      fail s BootStatus.badFlags BootErr.opProgram BootErr.stagePayload 0 0 := by
  have badFlags : (fail s BootStatus.badFlags BootErr.opProgram BootErr.stagePayload 0 0).status ≠
      BootStatus.ok := by
    intro h
    exact absurd h (by decide : BootStatus.badFlags ≠ BootStatus.ok)
  unfold handleMetadataAppendRecord at accepted ⊢
  rw [← same.payloadWords, ← same.word 0 (by decide)]
  split at accepted
  · rename_i attempt
    rw [if_pos attempt, handleBootAttemptAppend,
      identityRequestValid_flags same nonzero (andThen_ok accepted).1, andThen_refused badFlags]
  · rename_i attempt
    rw [if_neg attempt]
    split at accepted
    · rename_i confirmed
      rw [if_pos confirmed, handleAppConfirmedAppend,
        identityRequestValid_flags same nonzero (andThen_ok accepted).1, andThen_refused badFlags]
    · rename_i confirmed
      rw [if_neg confirmed, handleImageValidAppend,
        metadataRequestValid_flags same nonzero (andThen_ok accepted).1, andThen_refused badFlags]

/-! ## The switch -/

theorem dispatch_erase (command : r.command = BootCmd.erase) :
    dispatch port r s = handleErase port r s := if_pos command

theorem dispatch_begin_flags (same : SameButFlags 8 r r')
    (command : r.command = BootCmd.programBegin ∨ r.command = BootCmd.verifyBegin) :
    dispatch port r s = dispatch port r' s := by
  unfold dispatch
  rw [← same.command]
  rcases command with program | verify
  · rw [program, if_neg (by decide), if_pos rfl, if_neg (by decide), if_pos rfl,
      handleBegin_flags same]
  · rw [verify, if_neg (by decide), if_neg (by decide), if_neg (by decide), if_neg (by decide),
      if_pos rfl, if_neg (by decide), if_neg (by decide), if_neg (by decide), if_neg (by decide),
      if_pos rfl, handleBegin_flags same]

end BootUpgrade.BootFlashService

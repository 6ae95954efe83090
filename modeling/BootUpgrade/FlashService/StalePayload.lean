import BootUpgrade.Common.StalePayload
import BootUpgrade.FlashService.Service

/-!
# The service reads no stale words

Every handler checks `payload_words` before it reads a word.
-/

namespace BootUpgrade.BootFlashService

variable {σ : Type} {r r' : BootProtocolFrame} (same : SameRequest r r') (port : FlashPort σ)
  (s : FlashService σ)
include same

theorem handleErase_same : handleErase port r s = handleErase port r' s := by
  unfold handleErase
  rw [← same.payloadWords]
  apply ite_congr rfl (fun _ => rfl)
  intro length
  rw [Decidable.not_not] at length
  rw [same.word_of length (show 2 < 3 by decide), same.u32_of length (show 0 + 1 < 3 by decide)]

theorem handleBegin_same (operation : SessionOperation) (errorOperation failedStatus : UInt16) :
    handleBegin port r operation errorOperation failedStatus s =
      handleBegin port r' operation errorOperation failedStatus s := by
  unfold handleBegin
  rw [← same.payloadWords]
  apply ite_congr rfl (fun _ => rfl)
  intro _
  apply ite_congr rfl (fun _ => rfl)
  intro length
  rw [Decidable.not_not] at length
  rw [same.word_of length (show 0 < 9 by decide), same.word_of length (show 1 < 9 by decide),
    same.u32_of length (show 2 + 1 < 9 by decide), same.u32_of length (show 4 + 1 < 9 by decide)]

theorem handleData_same (operation : SessionOperation) (errorOperation : UInt16)
    (flashOperation : BootFlashOperation) (failedStatus : UInt16) :
    handleData port r operation errorOperation flashOperation failedStatus s =
      handleData port r' operation errorOperation flashOperation failedStatus s := by
  unfold handleData
  dsimp only
  rw [← same.payloadWords]
  apply ite_congr rfl (fun _ => rfl)
  intro _
  apply ite_congr rfl (fun _ => rfl)
  intro _
  apply ite_congr rfl (fun _ => rfl)
  intro header
  have five : (5 : UInt16).toNat = 5 := rfl
  have enough : 5 ≤ r.payloadWords.toNat := by
    rw [UInt16.not_lt, UInt16.le_iff_toNat_le, five] at header
    exact header
  have count : r.word 2 = r'.word 2 := same.word 2 (by omega)
  have address : r.u32 0 = r'.u32 0 := same.u32_of rfl (by omega)
  have index : r.u32 3 = r'.u32 3 := same.u32_of rfl (by omega)
  rw [← count, ← address, ← index]
  apply ite_congr rfl (fun _ => rfl)
  intro length
  have inside := BootProtocolFrame.data_inside header (Decidable.not_not.1 length)
  have data : r.words 5 (r.word 2).toNat = r'.words 5 (r.word 2).toNat :=
    same.words_of inside
  unfold dataCall
  rw [data]

theorem handleEnd_same (operation : SessionOperation) (errorOperation : UInt16) :
    handleEnd r operation errorOperation s = handleEnd r' operation errorOperation s := by
  unfold handleEnd
  dsimp only
  rw [← same.payloadWords]
  apply ite_congr rfl (fun _ => rfl)
  intro _
  apply ite_congr rfl (fun _ => rfl)
  intro _
  apply ite_congr rfl (fun _ => rfl)
  intro length
  rw [Decidable.not_not] at length
  have packets : r.u32 0 = r'.u32 0 := same.u32_of length (show 0 + 1 < 6 by decide)
  have words : r.u32 2 = r'.u32 2 := same.u32_of length (show 2 + 1 < 6 by decide)
  rw [words]
  apply ite_congr _ (fun _ => rfl) (fun _ => rfl)
  unfold countsMatch
  rw [packets, words]

/-! ## Metadata records -/

theorem metadataRequestValid_same : metadataRequestValid r s = metadataRequestValid r' s := by
  unfold metadataRequestValid
  rw [← same.payloadWords]
  apply ite_congr rfl (fun _ => rfl)
  intro length
  rw [Decidable.not_not] at length
  rw [same.word_of length (show 0 < 16 by decide), same.word_of length (show 1 < 16 by decide),
    same.word_of length (show 15 < 16 by decide), same.u32_of length (show 2 + 1 < 16 by decide),
    same.u32_of length (show 4 + 1 < 16 by decide), same.u32_of length (show 13 + 1 < 16 by decide)]

theorem identityRequestValid_same : identityRequestValid r s = identityRequestValid r' s := by
  unfold identityRequestValid
  rw [← same.payloadWords]
  apply ite_congr rfl (fun _ => rfl)
  intro length
  rw [Decidable.not_not] at length
  have reserved : r.words 8 7 = r'.words 8 7 := by
    apply same.words_of
    rw [length]
    decide
  rw [same.word_of length (show 1 < 16 by decide), same.word_of length (show 15 < 16 by decide),
    reserved]

section
variable (length : r.payloadWords = 16)
include length

theorem handleBootAttemptAppend_same :
    handleBootAttemptAppend port r s = handleBootAttemptAppend port r' s := by
  unfold handleBootAttemptAppend
  rw [identityRequestValid_same same, same.u32_of length (show 2 + 1 < 16 by decide),
    same.u32_of length (show 4 + 1 < 16 by decide), same.u32_of length (show 6 + 1 < 16 by decide)]

theorem handleAppConfirmedAppend_same :
    handleAppConfirmedAppend port r s = handleAppConfirmedAppend port r' s := by
  unfold handleAppConfirmedAppend
  rw [identityRequestValid_same same, same.u32_of length (show 2 + 1 < 16 by decide),
    same.u32_of length (show 4 + 1 < 16 by decide), same.u32_of length (show 6 + 1 < 16 by decide)]

end

theorem handleImageValidAppend_same :
    handleImageValidAppend port r s = handleImageValidAppend port r' s := by
  by_cases length : r.payloadWords = 16
  · unfold handleImageValidAppend imageRecord
    rw [metadataRequestValid_same same, same.u32_of length (show 2 + 1 < 16 by decide),
      same.u32_of length (show 4 + 1 < 16 by decide),
      same.u32_of length (show 6 + 1 < 16 by decide),
      same.u32_of length (show 11 + 1 < 16 by decide),
      same.u32_of length (show 13 + 1 < 16 by decide), same.word_of length (show 8 < 16 by decide),
      same.word_of length (show 9 < 16 by decide), same.word_of length (show 10 < 16 by decide)]
  · -- a request of another length is refused before its words are read
    have refused : ∀ r : BootProtocolFrame, r.payloadWords ≠ 16 →
        handleImageValidAppend port r s =
          fail s BootStatus.badPayloadLength BootErr.opProgram BootErr.stagePayload 0 0 := by
      intro r other
      unfold handleImageValidAppend metadataRequestValid
      rw [if_pos other]
      rfl
    rw [refused r length, refused r' (same.payloadWords ▸ length)]

theorem handleMetadataAppendRecord_same :
    handleMetadataAppendRecord port r s = handleMetadataAppendRecord port r' s := by
  unfold handleMetadataAppendRecord
  rw [← same.payloadWords, handleImageValidAppend_same same]
  by_cases length : r.payloadWords = 16
  · rw [same.word_of length (show 0 < 16 by decide), handleBootAttemptAppend_same same port s length,
      handleAppConfirmedAppend_same same port s length]
  · simp only [length, false_and, if_false]

/-! ## All requests -/

theorem bootHandleCommand_same (responsePayloadWords : UInt16) (error : BootErrorDetail) :
    bootHandleCommand port r responsePayloadWords error s =
      bootHandleCommand port r' responsePayloadWords error s := by
  have dispatched : dispatch port r s = dispatch port r' s := by
    unfold dispatch
    rw [same.command, handleErase_same same, handleBegin_same same, handleData_same same,
      handleEnd_same same, handleBegin_same same, handleData_same same, handleEnd_same same,
      handleMetadataAppendRecord_same same]
  unfold bootHandleCommand
  rw [dispatched]

end BootUpgrade.BootFlashService

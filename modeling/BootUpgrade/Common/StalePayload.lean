import BootUpgrade.Common.Protocol

/-!
# Requests that differ in stale words only

The receive buffer keeps words of earlier requests behind the payload. Two
requests are the same when they agree on the header and on the words that
`payload_words` counts.
-/

namespace BootUpgrade

/-- The two frames agree on everything but the words behind the payload. -/
structure SameRequest (r r' : BootProtocolFrame) : Prop where
  protocolVer : r.protocolVer = r'.protocolVer
  packetType : r.packetType = r'.packetType
  command : r.command = r'.command
  sequence : r.sequence = r'.sequence
  flags : r.flags = r'.flags
  status : r.status = r'.status
  payloadWords : r.payloadWords = r'.payloadWords
  word : ∀ i < r.payloadWords.toNat, r.word i = r'.word i

namespace SameRequest

variable {r r' : BootProtocolFrame} (same : SameRequest r r')
include same

/-- The words of a request whose length a handler has checked. -/
theorem word_of {n : UInt16} (length : r.payloadWords = n) {i : Nat} (hi : i < n.toNat) :
    r.word i = r'.word i := by
  apply same.word
  rw [length]
  exact hi

theorem u32_of {n : UInt16} (length : r.payloadWords = n) {i : Nat} (hi : i + 1 < n.toNat) :
    r.u32 i = r'.u32 i := by
  rw [BootProtocolFrame.u32, BootProtocolFrame.u32, same.word_of length hi,
    same.word_of length (Nat.lt_of_succ_lt hi)]

theorem words_of {start count : Nat} (inside : start + count ≤ r.payloadWords.toNat) :
    r.words start count = r'.words start count := by
  have buffer := r.payloadWords_le
  apply List.ext_getElem?
  intro k
  simp only [BootProtocolFrame.words, List.getElem?_take, List.getElem?_drop]
  by_cases hk : k < count
  · rw [if_pos hk, if_pos hk]
    have word := same.word (start + k) (by omega)
    unfold BootProtocolFrame.word at word
    have index : start + k < 256 := by omega
    simp only [List.getD_eq_getElem?_getD, Vector.length_toList, index, List.getElem?_eq_getElem,
      Option.getD_some] at word ⊢
    rw [word]
  · rw [if_neg hk, if_neg hk]

end SameRequest

/-- The length of a request with data counts its data words. -/
theorem BootProtocolFrame.data_inside {r : BootProtocolFrame} (header : ¬ r.payloadWords < 5)
    (length : r.payloadWords = (5 : UInt16) + r.word 2) :
    5 + (r.word 2).toNat ≤ r.payloadWords.toNat := by
  have five : (5 : UInt16).toNat = 5 := rfl
  have buffer := r.payloadWords_le
  have small := (r.word 2).toNat_lt
  rw [UInt16.not_lt, UInt16.le_iff_toNat_le, five] at header
  have sum := congrArg UInt16.toNat length
  rw [UInt16.toNat_add, five] at sum
  omega

end BootUpgrade

import BootUpgrade.Host.FrameReader

/-!
# Completing what has begun

Whatever a header has begun with, there are bytes that make a whole frame of it
and hold no header of their own.
-/

namespace BootUpgrade

namespace HostProtocol

open BootProtocol

/-- Enough bytes behind a header for any payload that it can declare. -/
def longestFrame : Nat := (10 + 65535 + 1) * 2

def zeros (n : Nat) : List UInt8 := List.replicate n 0

theorem length_zeros (n : Nat) : (zeros n).length = n := List.length_replicate

theorem zeros_getElem? (n i : Nat) : (zeros n)[i]? ≠ some 0x5A := by
  intro found
  rw [zeros, List.getElem?_replicate] at found
  split at found <;> cases found

/-- A header with enough bytes behind it ends the call. -/
theorem settle_whole {maxPayloadWords : Nat} {bytes : List UInt8} (valid : ValidHeader bytes)
    (enough : longestFrame ≤ bytes.length) : ∃ r, settle maxPayloadWords bytes = some r := by
  have declared := ((headerWords bytes).getD 8 0).toNat_lt
  unfold longestFrame at enough
  unfold settle
  rw [if_neg (not_not_intro valid)]
  split
  · exact ⟨_, rfl⟩
  · rw [if_neg (by omega)]
    exact ⟨_, rfl⟩

/-- Bytes without a magic end no call. -/
theorem settle_nowhere {maxPayloadWords : Nat} {bytes : List UInt8}
    (nowhere : ∀ i, ¬ magicBytes <+: bytes.drop i) :
    settle maxPayloadWords (live bytes) = none := by
  apply settle_invalid
  intro valid
  obtain ⟨dead, split⟩ : live bytes <:+ bytes := Residue.live_suffix bytes
  apply nowhere dead.length
  rw [← split, List.drop_left]
  exact valid.magic

/-- The first and the last byte of a magic. -/
theorem ends_of_magic {bytes : List UInt8} {i : Nat} (magic : magicBytes <+: bytes.drop i) :
    bytes[i]? = some 0x5A ∧ bytes[i + 3]? = some 0x5A := by
  obtain ⟨rest, split⟩ := magic
  have first : (bytes.drop i)[0]? = some 0x5A := by
    rw [← split]
    rfl
  have last : (bytes.drop i)[3]? = some 0x5A := by
    rw [← split]
    rfl
  rw [List.getElem?_drop] at first last
  exact ⟨first, last⟩

/-- Up to three bytes and zeros hold no magic. -/
theorem nowhere_zeros {bytes : List UInt8} (short : bytes.length ≤ 3) (n i : Nat) :
    ¬ magicBytes <+: (bytes ++ zeros n).drop i := by
  intro magic
  have last := (ends_of_magic magic).2
  rw [List.getElem?_append_right (by omega)] at last
  exact zeros_getElem? _ _ last

/-- A header of zeros with its CRC, behind the magic. -/
def blank (crc : UInt16) (n : Nat) : List UInt8 :=
  magicBytes ++ zeros 14 ++ bytesOf [crc] ++ zeros n

theorem blank_getElem? (crc : UInt16) (n : Nat) {i : Nat} (padding : 4 ≤ i ∧ i < 18 ∨ 20 ≤ i) :
    (blank crc n)[i]? ≠ some 0x5A := by
  have four : magicBytes.length = 4 := rfl
  have two : (bytesOf [crc]).length = 2 := rfl
  rw [blank, List.append_assoc, List.append_assoc, List.getElem?_append_right (by omega)]
  rcases padding with inner | outer
  · rw [List.getElem?_append_left (by rw [length_zeros]; omega)]
    exact zeros_getElem? _ _
  · rw [List.getElem?_append_right (by rw [length_zeros]; omega),
      List.getElem?_append_right (by rw [length_zeros]; omega)]
    exact zeros_getElem? _ _

/-- Behind its first byte a blank header holds no magic. -/
theorem nowhere_blank (crc : UInt16) (n : Nat) {k : Nat} (behind : 0 < k) (i : Nat) :
    ¬ magicBytes <+: ((blank crc n).drop k).drop i := by
  intro magic
  rw [List.drop_drop] at magic
  obtain ⟨first, last⟩ := ends_of_magic magic
  by_cases inner : 15 ≤ k + i ∧ k + i < 18
  · exact blank_getElem? crc n (by omega) first
  · exact blank_getElem? crc n (by omega) last

/-- The first bytes of a header, with zeros for the others up to the CRC. -/
def padded (bytes : List UInt8) : List UInt8 := bytes ++ (magicBytes ++ zeros 14).drop bytes.length

theorem length_padded {bytes : List UInt8} (short : bytes.length ≤ 18) :
    (padded bytes).length = 18 := by
  have four : magicBytes.length = 4 := rfl
  rw [padded, List.length_append, List.length_drop, List.length_append, length_zeros]
  omega

theorem magic_padded {bytes : List UInt8} (begins : MayBegin bytes) : magicBytes <+: padded bytes := by
  obtain ⟨more, valid⟩ := begins
  have magic := valid.magic
  by_cases whole : magicBytes.length ≤ bytes.length
  · have inside := List.prefix_of_prefix_length_le magic (List.prefix_append bytes more) whole
    exact inside.trans (List.prefix_append _ _)
  · obtain ⟨rest, split⟩ := List.prefix_of_prefix_length_le (List.prefix_append bytes more) magic
      (Nat.le_of_lt (Nat.not_le.1 whole))
    refine ⟨zeros 14, ?_⟩
    rw [padded, ← split, List.append_assoc, List.drop_left]

/-- The header that begins so and goes on with zeros and its CRC is valid. -/
theorem validHeader_padded {bytes : List UInt8} (begins : MayBegin bytes)
    (short : bytes.length ≤ 18) (rest : List UInt8) :
    ValidHeader (padded bytes ++ (bytesOf [crcWords (wordsOf (padded bytes))] ++ rest)) := by
  have length := length_padded short
  have even : (padded bytes).length = 2 * 9 := length
  have words : headerWords (padded bytes ++ (bytesOf [crcWords (wordsOf (padded bytes))] ++ rest)) =
      wordsOf (padded bytes) ++ [crcWords (wordsOf (padded bytes))] := by
    generalize crcWords (wordsOf (padded bytes)) = crc
    have twenty : (bytesOf (wordsOf (padded bytes) ++ [crc])).length = 20 := by
      rw [Words.length_bytesOf, List.length_append, Words.length_wordsOf even]
      rfl
    have bytes_eq : padded bytes ++ (bytesOf [crc] ++ rest) =
        bytesOf (wordsOf (padded bytes) ++ [crc]) ++ rest := by
      rw [Words.bytesOf_append, Words.bytesOf_wordsOf even, List.append_assoc]
    rw [bytes_eq, headerWords, List.take_left' twenty, Words.wordsOf_bytesOf]
  have nine := Words.length_wordsOf even
  constructor
  · rw [List.length_append, List.length_append, Words.length_bytesOf, length, List.length_singleton]
    omega
  · exact (magic_padded begins).trans (List.prefix_append _ _)
  · rw [words, List.take_left' nine, List.getD_eq_getElem?_getD,
      List.getElem?_append_right (Nat.le_of_eq nine), nine]
    rfl

/-- What can begin a header can be completed, by bytes that hold no magic. -/
theorem exists_completion {bytes : List UInt8} (ne : bytes ≠ []) (begins : MayBegin bytes) :
    ∃ chunk, ValidHeader (bytes ++ chunk) ∧ longestFrame ≤ chunk.length ∧
      ∀ i, ¬ magicBytes <+: chunk.drop i := by
  by_cases short : bytes.length ≤ 16
  · refine ⟨(blank (crcWords (wordsOf (padded bytes))) longestFrame).drop bytes.length, ?_, ?_,
      nowhere_blank _ _ (List.length_pos_iff.2 ne)⟩
    · have valid := validHeader_padded begins (Nat.le_trans short (by decide)) (zeros longestFrame)
      have inside : bytes.length ≤ (magicBytes ++ zeros 14).length := Nat.le_trans short (by decide)
      rw [padded, List.append_assoc] at valid
      rw [blank, List.append_assoc, List.drop_append_of_le_length inside]
      exact valid
    · have four : magicBytes.length = 4 := rfl
      have two : (bytesOf [crcWords (wordsOf (padded bytes))]).length = 2 := rfl
      rw [List.length_drop, blank, List.length_append, List.length_append, List.length_append,
        length_zeros, length_zeros]
      omega
  · obtain ⟨more, valid⟩ := begins
    have few : (more.take (20 - bytes.length)).length ≤ 3 := by
      rw [List.length_take]
      omega
    refine ⟨more.take (20 - bytes.length) ++ zeros longestFrame, ?_, ?_, nowhere_zeros few _⟩
    · have start := valid.take (Nat.le_max_left 20 bytes.length)
      have rest : max 20 bytes.length - bytes.length = 20 - bytes.length := by omega
      rw [List.take_append, rest, List.take_of_length_le (Nat.le_max_right _ _)] at start
      rw [← List.append_assoc]
      exact start.append _
    · rw [List.length_append, length_zeros]
      exact Nat.le_add_left _ _

end HostProtocol

end BootUpgrade

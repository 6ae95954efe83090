/-!
# 16-bit words that make up 32-bit values

A 32-bit value travels as two 16-bit words, low word first. These are the two
directions and the fact that they are inverse to each other; a `toNat` lemma
for each turns questions about them into linear arithmetic.
-/

namespace BootUpgrade.Words

/-- `((uint32_t)high << 16U) | (uint32_t)low`. -/
def joinU32 (low high : UInt16) : UInt32 := (high.toUInt32 <<< 16) ||| low.toUInt32

/-- `(uint16_t)(value & 0xFFFFUL)`. -/
def lowWord (value : UInt32) : UInt16 := (value &&& 0xFFFF).toUInt16

/-- `(uint16_t)(value >> 16U)`. -/
def highWord (value : UInt32) : UInt16 := (value >>> 16).toUInt16

theorem toNat_lowWord (value : UInt32) : (lowWord value).toNat = value.toNat % 65536 := by
  have mask := Nat.and_two_pow_sub_one_eq_mod (value.toNat % 65536) 16
  simp only [Nat.reducePow, Nat.add_one_sub_one, Nat.mod_mod] at mask
  simp [lowWord, mask]

theorem toNat_highWord (value : UInt32) : (highWord value).toNat = value.toNat / 65536 := by
  have bound := value.toNat_lt
  simp [highWord, Nat.shiftRight_eq_div_pow]
  omega

theorem toNat_joinU32 (low high : UInt16) :
    (joinU32 low high).toNat = high.toNat * 65536 + low.toNat := by
  have hl := low.toNat_lt
  have hh := high.toNat_lt
  have shift : (high.toUInt32 <<< 16).toNat = high.toNat <<< 16 := by
    simp [Nat.shiftLeft_eq]
    omega
  have disjoint := Nat.shiftLeft_add_eq_or_of_lt (i := 16) (b := low.toNat)
    (by simpa using hl) high.toNat
  rw [joinU32, UInt32.toNat_or, shift, UInt16.toNat_toUInt32, ← disjoint, Nat.shiftLeft_eq]

@[simp] theorem lowWord_joinU32 (low high : UInt16) : lowWord (joinU32 low high) = low := by
  have := low.toNat_lt
  apply UInt16.toNat_inj.1
  rw [toNat_lowWord, toNat_joinU32]
  omega

@[simp] theorem highWord_joinU32 (low high : UInt16) : highWord (joinU32 low high) = high := by
  have := low.toNat_lt
  apply UInt16.toNat_inj.1
  rw [toNat_highWord, toNat_joinU32]
  omega

@[simp] theorem joinU32_lowWord_highWord (value : UInt32) :
    joinU32 (lowWord value) (highWord value) = value := by
  apply UInt32.toNat_inj.1
  rw [toNat_joinU32, toNat_lowWord, toNat_highWord]
  omega

/-- A sum that stays below `2^32` as natural numbers does not wrap. -/
theorem toNat_add_of_lt {a b : UInt32} (h : a.toNat + b.toNat < 4294967296) :
    (a + b).toNat = a.toNat + b.toNat := by
  rw [UInt32.toNat_add, Nat.mod_eq_of_lt h]

end BootUpgrade.Words

import BootUpgrade.Lib.Words

/-!
# Words as little-endian bytes

Each 16-bit word is two bytes, the low one first. A list of bytes of even
length is the bytes of exactly one list of words.
-/

namespace BootUpgrade.Words

/-- `low | (high << 8)`. -/
def joinBytes (low high : UInt8) : UInt16 := low.toUInt16 ||| (high.toUInt16 <<< 8)

def lowByte (word : UInt16) : UInt8 := word.toUInt8

def highByte (word : UInt16) : UInt8 := (word >>> 8).toUInt8

theorem toNat_lowByte (word : UInt16) : (lowByte word).toNat = word.toNat % 256 := by
  simp [lowByte]

theorem toNat_highByte (word : UInt16) : (highByte word).toNat = word.toNat / 256 := by
  have := word.toNat_lt
  simp [highByte, Nat.shiftRight_eq_div_pow]
  omega

theorem toNat_joinBytes (low high : UInt8) :
    (joinBytes low high).toNat = high.toNat * 256 + low.toNat := by
  have hl := low.toNat_lt
  have hh := high.toNat_lt
  have shift : (high.toUInt16 <<< 8).toNat = high.toNat <<< 8 := by
    simp [Nat.shiftLeft_eq]
    omega
  have disjoint := @Nat.shiftLeft_add_eq_or_of_lt 8 low.toNat (by simpa using hl) high.toNat
  rw [joinBytes, UInt16.toNat_or, shift, UInt8.toNat_toUInt16, Nat.or_comm, ← disjoint,
    Nat.shiftLeft_eq]

@[simp] theorem joinBytes_lowByte_highByte (word : UInt16) :
    joinBytes (lowByte word) (highByte word) = word := by
  apply UInt16.toNat_inj.1
  rw [toNat_joinBytes, toNat_lowByte, toNat_highByte]
  omega

@[simp] theorem lowByte_joinBytes (low high : UInt8) : lowByte (joinBytes low high) = low := by
  have := low.toNat_lt
  apply UInt8.toNat_inj.1
  rw [toNat_lowByte, toNat_joinBytes]
  omega

@[simp] theorem highByte_joinBytes (low high : UInt8) : highByte (joinBytes low high) = high := by
  have := low.toNat_lt
  apply UInt8.toNat_inj.1
  rw [toNat_highByte, toNat_joinBytes]
  omega

def bytesOf : List UInt16 → List UInt8
  | [] => []
  | word :: rest => lowByte word :: highByte word :: bytesOf rest

def wordsOf : List UInt8 → List UInt16
  | low :: high :: rest => joinBytes low high :: wordsOf rest
  | _ => []

@[simp] theorem length_bytesOf (words : List UInt16) :
    (bytesOf words).length = 2 * words.length := by
  induction words with
  | nil => rfl
  | cons word rest ih =>
    simp only [bytesOf, List.length_cons, ih]
    omega

theorem bytesOf_append (xs ys : List UInt16) : bytesOf (xs ++ ys) = bytesOf xs ++ bytesOf ys := by
  induction xs with
  | nil => rfl
  | cons x xs ih => simp only [List.cons_append, bytesOf, ih]

@[simp] theorem wordsOf_bytesOf (words : List UInt16) : wordsOf (bytesOf words) = words := by
  induction words with
  | nil => rfl
  | cons word rest ih => simp only [bytesOf, wordsOf, joinBytes_lowByte_highByte, ih]

theorem bytesOf_inj {xs ys : List UInt16} (h : bytesOf xs = bytesOf ys) : xs = ys := by
  rw [← wordsOf_bytesOf xs, h, wordsOf_bytesOf]

theorem bytesOf_wordsOf {bytes : List UInt8} {n : Nat} (even : bytes.length = 2 * n) :
    bytesOf (wordsOf bytes) = bytes := by
  induction n generalizing bytes with
  | zero =>
    rw [List.eq_nil_of_length_eq_zero even]
    rfl
  | succ n ih =>
    match bytes with
    | [] => rfl
    | [_] =>
      rw [List.length_singleton] at even
      omega
    | low :: high :: rest =>
      have shorter : rest.length = 2 * n := by
        simp only [List.length_cons] at even
        omega
      rw [wordsOf, bytesOf, lowByte_joinBytes, highByte_joinBytes, ih shorter]

theorem length_wordsOf {bytes : List UInt8} {n : Nat} (even : bytes.length = 2 * n) :
    (wordsOf bytes).length = n := by
  have := length_bytesOf (wordsOf bytes)
  rw [bytesOf_wordsOf even] at this
  omega

end BootUpgrade.Words

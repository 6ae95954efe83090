import BootUpgrade.Metadata.Journal
import BootUpgrade.FlashService.Machine
import BootUpgrade.F28377D.FlashArray

/-!
# The journal in the Flash array

The slots of the journal are words of the array; programming the first units
of a record into an erased slot leaves a torn record there.
-/

namespace BootUpgrade

open BootMetadata

namespace FlashArray

/-- Record slot `i`, as the scan loads it. -/
def journal (m : Memory.Words) (i : Nat) : RecordWords :=
  loadFlashRecord (fun a => m a.toNat) slotAStart i

/-- The address of word `k` of slot `i`. -/
def slotAddress (i : Nat) : Nat := 0x082000 + 64 * i

theorem journal_getElem (m : Memory.Words) {i k : Nat} (hi : i < 16) (hk : k < 64) :
    (journal m i)[k] = m (slotAddress i + k) := by
  have base : (UInt32.ofNat i * recordWords).toNat = 64 * i := by
    simp only [UInt32.toNat_mul, recordWords, UInt32.toNat_ofNat', UInt32.reduceToNat]
    omega
  have start : slotAStart.toNat = 0x082000 := rfl
  have offset : (UInt32.ofNat k).toNat = k := UInt32.toNat_ofNat_of_lt' (by simp [UInt32.size]; omega)
  have slot : (slotAStart + UInt32.ofNat i * recordWords).toNat = slotAddress i := by
    rw [Words.toNat_add_of_lt (by omega), base, start, slotAddress]
  simp only [journal, loadFlashRecord, Vector.getElem_ofFn]
  have bound : slotAddress i ≤ 0x082400 := by unfold slotAddress; omega
  rw [Words.toNat_add_of_lt (by omega), slot, offset]

theorem journal_erased {m : Memory.Words} {i : Nat} (hi : i < 16) :
    isErasedRecord (journal m i) = true ↔ ∀ k < 64, m (slotAddress i + k) = erasedWord := by
  rw [isErasedRecord, Vector.all_eq_true]
  constructor
  · intro h k hk
    have := h k hk
    rw [journal_getElem m hi hk] at this
    simpa using this
  · intro h k hk
    rw [journal_getElem m hi hk, h k hk]
    rfl

/-- Words outside the slot do not matter. -/
theorem journal_congr {m m' : Memory.Words} {i : Nat} (hi : i < 16)
    (h : ∀ k < 64, m (slotAddress i + k) = m' (slotAddress i + k)) : journal m i = journal m' i := by
  apply Vector.ext
  intro k hk
  rw [journal_getElem m hi hk, journal_getElem m' hi hk, h k hk]

/-- The first `units` units of a record, programmed into an erased slot. -/
theorem journal_program {m : Memory.Words} {slot : Nat} (hs : slot < 16)
    (erased : isErasedRecord (journal m slot) = true) (record : RecordWords) {units : Nat}
    (hu : units ≤ 8) {i : Nat} (hi : i < 16) :
    journal (programWords m (slotAddress slot) (record.toList.take (8 * units))) i =
      writeSlot (journal m) slot (tornRecord record units) i := by
  have blank := (journal_erased hs).1 erased
  have len : (record.toList.take (8 * units)).length = 8 * units := by
    rw [List.length_take, Vector.length_toList]
    omega
  by_cases h : i = slot
  · subst h
    rw [writeSlot_self]
    apply Vector.ext
    intro k hk
    rw [journal_getElem _ hs hk, tornRecord_getElem hk]
    split
    · rename_i programmed
      rw [programWords_inside (by omega) (by omega), blank k hk]
      simp only [Nat.add_sub_cancel_left, List.getD_eq_getElem?_getD]
      rw [List.getElem?_take_of_lt programmed, List.getElem?_eq_getElem (by simpa using hk),
        Option.getD_some, Vector.getElem_toList]
      exact UInt16.neg_one_and
    · rw [programWords_outside (by omega), blank k hk]
  · rw [writeSlot_ne h]
    apply journal_congr hi
    intro k hk
    apply programWords_outside
    unfold slotAddress
    omega

end FlashArray

end BootUpgrade

import BootUpgrade.FlashService.Port

/-! The sector table and the address limits of the F28377D CPU1 Flash. -/

namespace BootUpgrade.F28377D

def appStart : UInt32 := 0x082400
def appEndExclusive : UInt32 := 0x0C0000
def slotAMetadataStart : UInt32 := 0x082000
def slotAMetadataEnd : UInt32 := 0x082400
def allowedEraseMask : UInt32 := 0x00003FFE

def sectorLength16K : UInt32 := 0x1000
def sectorLength64K : UInt32 := 0x4000

/-- `BootFlash_FindSector`: start address and size in 32-bit words. -/
def findSector (index : UInt32) : Option (UInt32 × UInt32) :=
  if index = 1 then some (0x80000, sectorLength16K)
  else if index = 2 then some (0x82000, sectorLength16K)
  else if index = 3 then some (0x84000, sectorLength16K)
  else if index = 4 then some (0x86000, sectorLength16K)
  else if index = 5 then some (0x88000, sectorLength64K)
  else if index = 6 then some (0x90000, sectorLength64K)
  else if index = 7 then some (0x98000, sectorLength64K)
  else if index = 8 then some (0xA0000, sectorLength64K)
  else if index = 9 then some (0xA8000, sectorLength64K)
  else if index = 10 then some (0xB0000, sectorLength64K)
  else if index = 11 then some (0xB8000, sectorLength16K)
  else if index = 12 then some (0xBA000, sectorLength16K)
  else if index = 13 then some (0xBC000, sectorLength16K)
  else if index = 14 then some (0xBE000, sectorLength16K)
  else none

/-- `Bzero_Sector…_start` and `Bzero_Sector…_End` of the sectors A to N. -/
def sectorBounds : List (UInt32 × UInt32) :=
  [(0x80000, 0x81FFF), (0x82000, 0x83FFF), (0x84000, 0x85FFF), (0x86000, 0x87FFF),
    (0x88000, 0x8FFFF), (0x90000, 0x97FFF), (0x98000, 0x9FFFF), (0xA0000, 0xA7FFF),
    (0xA8000, 0xAFFFF), (0xB0000, 0xB7FFF), (0xB8000, 0xB9FFF), (0xBA000, 0xBBFFF),
    (0xBC000, 0xBDFFF), (0xBE000, 0xBFFFF)]

def inSector (address : UInt32) (s : UInt32 × UInt32) : Bool :=
  address ≥ s.1 && address ≤ s.2

/-- `BootFlash_FindSectorEndExclusive`; the chain of the source tries the
sectors in this order. -/
def findSectorEndExclusive (address : UInt32) : Option UInt32 :=
  (sectorBounds.find? (inSector address)).map fun s => s.2 + 1

/-! ## The table as intervals -/

/-- Start and end of the sectors A to N, in address order. -/
def sectorTable : List (Nat × Nat) :=
  [(0x80000, 0x82000), (0x82000, 0x84000), (0x84000, 0x86000), (0x86000, 0x88000),
    (0x88000, 0x90000), (0x90000, 0x98000), (0x98000, 0xA0000), (0xA0000, 0xA8000),
    (0xA8000, 0xB0000), (0xB0000, 0xB8000), (0xB8000, 0xBA000), (0xBA000, 0xBC000),
    (0xBC000, 0xBE000), (0xBE000, 0xC0000)]

/-- Sector `i` of the table, with `i = 0` for sector A. -/
theorem findSector_spec (i : Nat) (hi : i < 32) :
    findSector (UInt32.ofNat i + 1) =
      (sectorTable[i]?).map fun s => (UInt32.ofNat s.1, UInt32.ofNat ((s.2 - s.1) / 2)) := by
  have all : (List.range 32).all (fun i => findSector (UInt32.ofNat i + 1) ==
      (sectorTable[i]?).map fun s => (UInt32.ofNat s.1, UInt32.ofNat ((s.2 - s.1) / 2))) = true := by
    decide
  simpa using List.all_eq_true.1 all i (List.mem_range.2 hi)

theorem sectorTable_disjoint : ∀ s ∈ sectorTable, ∀ t ∈ sectorTable,
    s = t ∨ s.2 ≤ t.1 ∨ t.2 ≤ s.1 := by
  decide

/-- An address lies in one sector at most. -/
theorem sectorTable_unique {n : Nat} {s t : Nat × Nat} (hs : s ∈ sectorTable) (ht : t ∈ sectorTable)
    (ns : s.1 ≤ n ∧ n < s.2) (nt : t.1 ≤ n ∧ n < t.2) : s = t := by
  rcases sectorTable_disjoint s hs t ht with h | h | h
  · exact h
  · omega
  · omega

theorem sectorBounds_spec : ∀ s ∈ sectorBounds,
    (s.1.toNat, s.2.toNat + 1) ∈ sectorTable ∧ s.2 + 1 = UInt32.ofNat (s.2.toNat + 1) := by
  have all : sectorBounds.all (fun s => sectorTable.contains (s.1.toNat, s.2.toNat + 1) &&
      s.2 + 1 == UInt32.ofNat (s.2.toNat + 1)) = true := by
    decide
  intro s hs
  simpa using List.all_eq_true.1 all s hs

theorem sectorTable_spec : ∀ s ∈ sectorTable,
    ∃ t ∈ sectorBounds, t.1.toNat = s.1 ∧ t.2.toNat + 1 = s.2 := by
  decide

/-- The end of an address's sector is the end of the table interval around it. -/
theorem findSectorEndExclusive_spec (address stop : UInt32) :
    findSectorEndExclusive address = some stop ↔
      ∃ s ∈ sectorTable, s.1 ≤ address.toNat ∧ address.toNat < s.2 ∧ stop = UInt32.ofNat s.2 := by
  have inside : ∀ t, inSector address t = true ↔
      t.1.toNat ≤ address.toNat ∧ address.toNat < t.2.toNat + 1 := fun t => by
    simp only [inSector, Bool.and_eq_true, decide_eq_true_eq, ge_iff_le, UInt32.le_iff_toNat_le]
    omega
  unfold findSectorEndExclusive
  constructor
  · intro h
    obtain ⟨t, found, rfl⟩ := Option.map_eq_some_iff.1 h
    obtain ⟨entry, last⟩ := sectorBounds_spec t (List.mem_of_find?_eq_some found)
    obtain ⟨lo, hi⟩ := (inside t).1 (List.find?_some found)
    exact ⟨_, entry, lo, hi, last⟩
  · rintro ⟨s, hs, lo, hi, rfl⟩
    obtain ⟨t, ht, start, last⟩ := sectorTable_spec s hs
    cases found : sectorBounds.find? (inSector address) with
    | none =>
      have outside := List.find?_eq_none.1 found t ht
      exact absurd ((inside t).2 ⟨by omega, by omega⟩) outside
    | some u =>
      obtain ⟨entry, stop⟩ := sectorBounds_spec u (List.mem_of_find?_eq_some found)
      have same := sectorTable_unique entry hs ((inside u).1 (List.find?_some found)) ⟨lo, hi⟩
      rw [Option.map_some, stop, ← same]

end BootUpgrade.F28377D

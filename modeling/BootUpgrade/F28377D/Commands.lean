import BootUpgrade.F28377D.FlashArray

/-!
# The commands a port call issues

What the port asks the Flash API to do, for any Flash API: which sectors an
erase names and which units a block program is made of.
-/

namespace BootUpgrade.F28377D

open Fapi

variable {ε : Type} (fapi : Fapi ε)

/-- The unit `k` of a block. -/
def unitCommand (address : UInt32) (data : List UInt16) (k : Nat) : Command :=
  .program (address + UInt32.ofNat (8 * k)) ((data.drop (8 * k)).take 8)

theorem program128Bits_commands (address : UInt32) (data : List UInt16) (info : BootFlashErrorInfo)
    (w : Issued ε) :
    (program128Bits fapi.logged address data info w).world.commands =
      w.commands ++ [.program address data] := by
  unfold program128Bits
  dsimp only [logged]
  split <;> rfl

theorem programLoop_commands (units : Nat) (address : UInt32) (data : List UInt16)
    (info : BootFlashErrorInfo) (w : Issued ε) :
    ∃ done ≤ units, (programLoop fapi.logged units address data info w).world.commands =
      w.commands ++ (List.range done).map (unitCommand address data) := by
  induction units generalizing address data info w with
  | zero => exact ⟨0, Nat.le_refl 0, by simp [programLoop]⟩
  | succ units ih =>
    have first := program128Bits_commands fapi address (data.take 8) info w
    unfold programLoop
    dsimp only
    split
    · refine ⟨1, by omega, ?_⟩
      rw [first]
      simp [unitCommand]
    · obtain ⟨more, le, rest⟩ := ih (address + 8) (data.drop 8)
        (program128Bits fapi.logged address (data.take 8) info w).info
        (program128Bits fapi.logged address (data.take 8) info w).world
      refine ⟨more + 1, by omega, ?_⟩
      rw [rest, first, List.append_assoc, List.range_succ_eq_map, List.map_cons, List.map_map,
        List.singleton_append]
      congr 2
      · simp [unitCommand]
      · apply List.map_congr_left
        intro k _
        have step : UInt32.ofNat (8 * (k + 1)) = 8 + UInt32.ofNat (8 * k) := by
          rw [Nat.mul_succ, Nat.add_comm, UInt32.ofNat_add]
          rfl
        simp only [unitCommand, Function.comp, List.drop_drop, step, UInt32.add_assoc]
        rw [show 8 * (k + 1) = 8 + 8 * k by omega]

theorem programBlock_commands (address : UInt32) (data : List UInt16) (wordCount : UInt16)
    (info : BootFlashErrorInfo) (w : Issued ε) :
    ∃ done ≤ (wordCount.toNat + 7) / 8,
      (programBlock fapi.logged address data wordCount info w).world.commands =
        w.commands ++ (List.range done).map (unitCommand address data) :=
  programLoop_commands fapi _ address data info w

/-- Erasing sector `i` issues one command, if there is such a sector. -/
theorem eraseSector_commands {i : Nat} (hi : i < 32) (info : BootFlashErrorInfo) (w : Issued ε) :
    (eraseSector fapi.logged (UInt32.ofNat i) info w).world.commands =
      w.commands ++ ((sectorTable[i]?).map fun s => Command.eraseSector (UInt32.ofNat s.1)).toList := by
  unfold eraseSector
  rw [findSector_spec i hi]
  cases sectorTable[i]? with
  | none => simp
  | some s =>
    let Q := fun r : PortReturn (Issued ε) =>
      r.world.commands = w.commands ++ [.eraseSector (UInt32.ofNat s.1)]
    refine iteInduction (motive := Q) (fun _ => rfl) fun _ => ?_
    refine iteInduction (motive := Q) (fun _ => rfl) fun _ => ?_
    exact iteInduction (motive := Q) (fun _ => rfl) fun _ => rfl

theorem eraseLoop_commands (sectorMask : UInt32) (is : List Nat) (his : ∀ i ∈ is, i < 32)
    (info : BootFlashErrorInfo) (w : Issued ε) :
    ∃ issued, (eraseLoop fapi.logged sectorMask is info w).world.commands = w.commands ++ issued ∧
      ∀ c ∈ issued, ∃ i, FlashArray.selected sectorMask i ∧ ∃ s, sectorTable[i]? = some s ∧
        c = .eraseSector (UInt32.ofNat s.1) := by
  induction is generalizing info w with
  | nil => exact ⟨[], by simp [eraseLoop], by simp⟩
  | cons i is ih =>
    have rest := fun info w => ih (fun j hj => his j (List.mem_cons_of_mem _ hj)) info w
    unfold eraseLoop
    dsimp only
    split
    · rename_i bit
      have one := eraseSector_commands fapi (his i List.mem_cons_self) info w
      have named : ∀ c ∈ ((sectorTable[i]?).map fun s => Command.eraseSector (UInt32.ofNat s.1)).toList,
          ∃ i, FlashArray.selected sectorMask i ∧ ∃ s, sectorTable[i]? = some s ∧
            c = .eraseSector (UInt32.ofNat s.1) := by
        intro c hc
        rw [Option.mem_toList, Option.map_eq_some_iff] at hc
        obtain ⟨s, hs, rfl⟩ := hc
        exact ⟨i, bit, s, hs, rfl⟩
      split
      · exact ⟨_, one, named⟩
      · obtain ⟨issued, commands, all⟩ := rest
          (eraseSector fapi.logged (UInt32.ofNat i) info w).info
          (eraseSector fapi.logged (UInt32.ofNat i) info w).world
        refine ⟨_, by rw [commands, one, List.append_assoc], fun c hc => ?_⟩
        rcases List.mem_append.1 hc with hc | hc
        · exact named c hc
        · exact all c hc
    · exact rest info w

/-- Bit 0, the bootloader sector, is not among the allowed ones. -/
theorem bootloader_bit {sectorMask : UInt32} (h : sectorMask &&& ~~~allowedEraseMask = 0) :
    sectorMask &&& (1 <<< UInt32.ofNat 0) = 0 := by
  have forbidden : ~~~allowedEraseMask &&& (1 <<< UInt32.ofNat 0) = (1 <<< UInt32.ofNat 0 : UInt32) := by
    decide
  rw [← forbidden, ← UInt32.and_assoc, h]
  decide

/-- An erase names only sectors of its mask, never the bootloader's. -/
theorem eraseBySectorMask_commands (sectorMask : UInt32) (info : BootFlashErrorInfo)
    (w : Issued ε) :
    ∃ issued, (eraseBySectorMask fapi.logged sectorMask info w).world.commands =
        w.commands ++ issued ∧
      ∀ c ∈ issued, ∃ i, i ≠ 0 ∧ FlashArray.selected sectorMask i ∧
        ∃ s, sectorTable[i]? = some s ∧ c = .eraseSector (UInt32.ofNat s.1) := by
  unfold eraseBySectorMask
  split
  · exact ⟨[], by simp, by simp⟩
  · rename_i allowed
    obtain ⟨issued, commands, all⟩ := eraseLoop_commands fapi sectorMask (List.range 32)
      (fun i hi => List.mem_range.1 hi) info w
    refine ⟨issued, commands, fun c hc => ?_⟩
    obtain ⟨i, bit, s, hs, rfl⟩ := all c hc
    refine ⟨i, ?_, bit, s, hs, rfl⟩
    rintro rfl
    exact bit (bootloader_bit (Decidable.not_not.1 allowed))

end BootUpgrade.F28377D

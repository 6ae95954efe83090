import BootUpgrade.System.WorkingAppends

/-!
# A Flash array that works

When every command of the array succeeds, a program writes its whole block, a
comparison tells whether the words agree, and an erase blanks the sectors of its
mask and leaves the others alone.
-/

namespace BootUpgrade.FlashArray

/-! ## Blocks -/

section
variable {w : FlashArray} (working : Working w) (info : BootFlashErrorInfo)
include working

theorem Working.api : (w.outcomes 0).apiStatus = Fapi.statusSuccess := by
  rw [working 0]
  rfl

theorem Working.fsm : (w.outcomes 0).fsmStatus = 0 := by
  rw [working 0]
  rfl

theorem programBlock_working {address : UInt32} {data : List UInt16} {wordCount : UInt16}
    (length : wordCount.toNat = data.length) (low : address.toNat + data.length + 7 < 4294967296) :
    let r := port.programBlock address data wordCount info w
    r.result = BootFlashResult.ok ∧ Working r.world ∧
      r.world.words = programWords w.words address.toNat data := by
  intro r
  obtain ⟨ok, live⟩ : r.result = BootFlashResult.ok ∧ Working r.world :=
    programLoop_working _ address data info w working
  obtain ⟨done, -, words, all⟩ := programBlock_words info w address data wordCount (by omega)
  have whole : data.take (8 * done) = data := by
    apply List.take_of_length_le
    rw [all ok]
    omega
  rw [whole] at words
  exact ⟨ok, live, words⟩

/-- A comparison succeeds on whole units that agree. -/
theorem verifyBlock_working (address : UInt32) (expected : List UInt16) (wordCount : UInt16) :
    let r := port.verifyBlock address expected wordCount info w
    Working r.world ∧ (r.result = BootFlashResult.ok ↔
      (address.toNat % 8 = 0 ∧ wordCount.toNat % 8 = 0) ∧
        ∀ i < wordCount.toNat, w.words (address.toNat + i) = expected.getD i 0) := by
  have eight32 : (8 : UInt32).toNat = 8 := rfl
  have zero32 : (0 : UInt32).toNat = 0 := rfl
  have eight : (8 : UInt16).toNat = 8 := rfl
  have zero : (0 : UInt16).toNat = 0 := rfl
  have one : (1 : UInt16).toNat = 1 := rfl
  have bad : BootFlashResult.badAddress ≠ BootFlashResult.ok := by decide
  have failed : BootFlashResult.failed ≠ BootFlashResult.ok := by decide
  intro r
  change Working (F28377D.verifyBlock fapi address expected wordCount info w).world ∧
    ((F28377D.verifyBlock fapi address expected wordCount info w).result = _ ↔ _)
  unfold F28377D.verifyBlock
  by_cases units : address.toNat % 8 = 0 ∧ wordCount.toNat % 8 = 0
  · have aligned : ¬ (address % 8 ≠ 0 ∨ wordCount % 8 ≠ 0) := by
      rw [not_or, Decidable.not_not, Decidable.not_not, ← UInt32.toNat_inj, ← UInt16.toNat_inj,
        UInt32.toNat_mod, UInt16.toNat_mod, eight32, zero32, eight, zero]
      exact units
    have half : (wordCount >>> 1).toNat * 2 = wordCount.toNat := by
      rw [UInt16.toNat_shiftRight, one, Nat.one_mod, Nat.shiftRight_eq_div_pow]
      omega
    rw [if_neg aligned]
    dsimp only [fapi, compare, FlashArray.advance]
    rw [half, if_neg (not_not_intro working.api), working.fsm]
    have agree : ((List.range wordCount.toNat).all fun i =>
        w.words (address.toNat + i) == expected.getD i 0) = true ↔
          ∀ i < wordCount.toNat, w.words (address.toNat + i) = expected.getD i 0 := by
      simp only [List.all_eq_true, List.mem_range, beq_iff_eq]
    by_cases same : ∀ i < wordCount.toNat, w.words (address.toNat + i) = expected.getD i 0
    · rw [if_pos (agree.2 same), if_neg (by simp)]
      exact ⟨fun n => working (n + 1), iff_of_true rfl ⟨units, same⟩⟩
    · rw [if_neg fun h => same (agree.1 h), if_pos (.inl (by decide))]
      exact ⟨fun n => working (n + 1), iff_of_false failed fun h => same h.2⟩
  · have unaligned : address % 8 ≠ 0 ∨ wordCount % 8 ≠ 0 := by
      rw [ne_eq, ne_eq, ← UInt32.toNat_inj, ← UInt16.toNat_inj, UInt32.toNat_mod,
        UInt16.toNat_mod, eight32, zero32, eight, zero]
      omega
    rw [if_pos unaligned]
    exact ⟨working, iff_of_false bad fun h => units h.1⟩

/-! ## Sectors -/

/-- The blank check finds the sector blank. -/
theorem eraseSector_working {i : Nat} (inTable : i < 14) :
    let r := F28377D.eraseSector fapi (UInt32.ofNat i) info w
    r.result = BootFlashResult.ok ∧ Working r.world := by
  obtain ⟨s, hs⟩ : ∃ s, F28377D.sectorTable[i]? = some s :=
    ⟨_, List.getElem?_eq_getElem (show i < F28377D.sectorTable.length from inTable)⟩
  have start := sectorIndex_start i inTable s hs
  have erase : ∀ m, eraseAt m (UInt32.ofNat s.1).toNat = eraseSectorWords m i := fun m => by
    rw [eraseAt, start]
  have table : ∀ s ∈ F28377D.sectorTable,
      s.1 < 0x100000 ∧ s.1 + 2 * ((s.2 - s.1) / 2) = s.2 ∧ s.2 < 0x100000 := by
    decide
  obtain ⟨low, whole, high⟩ := table s (List.mem_of_getElem? hs)
  have address : (UInt32.ofNat s.1).toNat = s.1 :=
    UInt32.toNat_ofNat_of_lt' (by rw [UInt32.size]; omega)
  have size : (UInt32.ofNat ((s.2 - s.1) / 2)).toNat = (s.2 - s.1) / 2 :=
    UInt32.toNat_ofNat_of_lt' (by rw [UInt32.size]; omega)
  have blank : ((List.range ((UInt32.ofNat ((s.2 - s.1) / 2)).toNat * 2)).all fun k =>
      eraseSectorWords w.words i ((UInt32.ofNat s.1).toNat + k) == BootMetadata.erasedWord) = true := by
    rw [List.all_eq_true]
    intro k hk
    have inside := List.mem_range.1 hk
    rw [size] at inside
    rw [address, eraseSectorWords, hs, beq_iff_eq]
    exact Memory.fill_inside (by omega) (by omega)
  have next : (w.outcomes 1).apiStatus = Fapi.statusSuccess := by
    rw [working 1]
    rfl
  dsimp only
  unfold F28377D.eraseSector
  rw [F28377D.findSector_spec i (by omega), hs]
  simp only [Option.map_some, fapi, command, compare, FlashArray.advance, erase, working.api,
    working.fsm, working.takesEffect, ne_eq, not_true_eq_false, if_true, if_false, blank, next]
  exact ⟨trivial, fun n => working (n + 2)⟩

omit working info in
theorem eraseLoop_working (sectorMask : UInt32) {is : List Nat}
    (inTable : ∀ i ∈ is, selected sectorMask i → i < 14) (info : BootFlashErrorInfo) (w : FlashArray)
    (working : Working w) :
    let r := F28377D.eraseLoop fapi sectorMask is info w
    r.result = BootFlashResult.ok ∧ Working r.world := by
  induction is generalizing info w with
  | nil => exact ⟨rfl, working⟩
  | cons i is ih =>
    obtain ⟨first, others⟩ := List.forall_mem_cons.1 inTable
    unfold F28377D.eraseLoop
    dsimp only
    split
    · rename_i bit
      obtain ⟨ok, next⟩ := eraseSector_working working info (first bit)
      rw [if_neg (not_not_intro ok)]
      exact ih others _ _ next
    · exact ih others info w working

/-- The erase of an allowed mask. -/
theorem eraseBySectorMask_working {sectorMask : UInt32}
    (allowed : sectorMask &&& ~~~F28377D.allowedEraseMask = 0)
    (inTable : ∀ i < 32, selected sectorMask i → i < 14) :
    let r := port.eraseBySectorMask sectorMask info w
    r.result = BootFlashResult.ok ∧ Working r.world ∧
      r.world.words = eraseSelected w.words sectorMask 32 := by
  intro r
  have body : r = F28377D.eraseLoop fapi sectorMask (List.range 32) info w :=
    if_neg (not_not_intro allowed)
  obtain ⟨ok, live⟩ : r.result = BootFlashResult.ok ∧ Working r.world := by
    rw [body]
    exact eraseLoop_working sectorMask (fun i hi => inTable i (List.mem_range.1 hi)) info w working
  obtain ⟨done, -, words, all, -⟩ := eraseBySectorMask_words info w sectorMask
  rw [all ok] at words
  exact ⟨ok, live, words⟩

end

/-! ## What an erase leaves -/

section
variable {m : Memory.Words} {sectorMask : UInt32} {n a : Nat}

theorem eraseSectorWords_inside {i : Nat} {s : Nat × Nat} (hs : F28377D.sectorTable[i]? = some s)
    (inside : s.1 ≤ a ∧ a < s.2) : eraseSectorWords m i a = BootMetadata.erasedWord := by
  rw [eraseSectorWords, hs]
  exact Memory.fill_inside inside.1 inside.2

theorem eraseSectorWords_outside {i : Nat}
    (outside : ∀ s, F28377D.sectorTable[i]? = some s → ¬ (s.1 ≤ a ∧ a < s.2)) :
    eraseSectorWords m i a = m a := by
  unfold eraseSectorWords
  cases hs : F28377D.sectorTable[i]? with
  | none => rfl
  | some s =>
    have := outside s hs
    exact Memory.fill_outside (by omega)

/-- The address lies in a selected sector below sector `n`. -/
def Selected (sectorMask : UInt32) (n a : Nat) : Prop :=
  ∃ i < n, selected sectorMask i ∧ ∃ s, F28377D.sectorTable[i]? = some s ∧ s.1 ≤ a ∧ a < s.2

theorem eraseSelected_outside (outside : ¬ Selected sectorMask n a) :
    eraseSelected m sectorMask n a = m a := by
  induction n with
  | zero => rfl
  | succ n ih =>
    have below := ih fun ⟨i, lt, inside⟩ => outside ⟨i, by omega, inside⟩
    rw [eraseSelected]
    split
    · rename_i bit
      rw [eraseSectorWords_outside, below]
      intro s hs inside
      exact outside ⟨n, by omega, bit, s, hs, inside⟩
    · exact below

theorem eraseSelected_inside (inside : Selected sectorMask n a) :
    eraseSelected m sectorMask n a = BootMetadata.erasedWord := by
  induction n with
  | zero =>
    obtain ⟨i, lt, -⟩ := inside
    exact absurd lt (Nat.not_lt_zero i)
  | succ n ih =>
    obtain ⟨i, lt, bit, s, hs, here⟩ := inside
    rw [eraseSelected]
    by_cases last : i = n
    · rw [last] at bit hs
      rw [if_pos bit]
      exact eraseSectorWords_inside hs here
    · have below := ih ⟨i, by omega, bit, s, hs, here⟩
      split
      · -- a sector that is erased again stays erased
        by_cases again : ∃ t, F28377D.sectorTable[n]? = some t ∧ t.1 ≤ a ∧ a < t.2
        · obtain ⟨t, ht, there⟩ := again
          exact eraseSectorWords_inside ht there
        · rw [eraseSectorWords_outside fun t ht there => again ⟨t, ht, there⟩]
          exact below
      · exact below

end

end BootUpgrade.FlashArray

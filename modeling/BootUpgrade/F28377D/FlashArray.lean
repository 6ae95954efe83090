import BootUpgrade.Lib.Memory
import BootUpgrade.F28377D.Port
import BootUpgrade.Metadata.Record

/-!
# A Flash array behind the Flash API

Each command either takes effect as a whole or not at all: a sector erase, or
the programming of one unit, which can only clear bits. The array holds the
outcomes of all coming commands; a power loss is a command that fails, before
or after it took effect. A command that reports success has taken effect.
-/

namespace BootUpgrade

/-- What becomes of one command. -/
structure CommandOutcome where
  apiStatus : FapiStatus
  fsmStatus : UInt32
  applied : Bool

namespace CommandOutcome

def takesEffect (o : CommandOutcome) : Bool :=
  o.applied || (o.apiStatus == Fapi.statusSuccess && o.fsmStatus == 0)

def success : CommandOutcome := ⟨Fapi.statusSuccess, 0, true⟩

end CommandOutcome

structure FlashArray where
  words : Memory.Words
  fsmStatus : UInt32
  outcomes : Nat → CommandOutcome

namespace FlashArray

/-- Programming clears the bits that are clear in `data`. -/
def programWords (m : Memory.Words) (address : Nat) (data : List UInt16) : Memory.Words :=
  fun a => if address ≤ a ∧ a < address + data.length then m a &&& data.getD (a - address) 0 else m a

/-- Sector `i` of the table, erased. -/
def eraseSectorWords (m : Memory.Words) (i : Nat) : Memory.Words :=
  match F28377D.sectorTable[i]? with
  | none => m
  | some s => Memory.fill m s.1 s.2 BootMetadata.erasedWord

/-- The number of the sector an address lies in. -/
def sectorIndex (a : Nat) : Option Nat :=
  F28377D.sectorTable.findIdx? fun s => s.1 ≤ a && a < s.2

/-- The sector with `address` in it, erased. -/
def eraseAt (m : Memory.Words) (address : Nat) : Memory.Words :=
  match sectorIndex address with
  | none => m
  | some i => eraseSectorWords m i

/-- Take the next outcome. -/
def advance (w : FlashArray) : FlashArray :=
  { w with fsmStatus := (w.outcomes 0).fsmStatus, outcomes := fun n => w.outcomes (n + 1) }

/-- Issue a command that changes the words. -/
def command (w : FlashArray) (change : Memory.Words → Memory.Words) : FapiStatus × FlashArray :=
  ((w.outcomes 0).apiStatus,
    { w.advance with
      words := if (w.outcomes 0).takesEffect then change w.words else w.words })

/-- Issue a command that compares words and succeeds only if they agree. -/
def compare (w : FlashArray) (agree : Bool) : FapiStatus × UInt32 × FlashArray :=
  (if (w.outcomes 0).apiStatus ≠ Fapi.statusSuccess then (w.outcomes 0).apiStatus
    else if agree then Fapi.statusSuccess else -1, 0, w.advance)

/-- The Flash API on the array. -/
def fapi : Fapi FlashArray where
  readWord w a := w.words a.toNat
  initializeAPI w := ((w.outcomes 0).apiStatus, w.advance)
  setActiveFlashBank w := ((w.outcomes 0).apiStatus, w.advance)
  eraseSector address w := w.command fun m => eraseAt m address.toNat
  issueProgrammingCommand address data w := w.command fun m => programWords m address.toNat data
  waitForReady w := w
  flushPipeline w := w
  getFsmStatus w := w.fsmStatus
  doBlankCheck address size32Words w :=
    w.compare ((List.range (size32Words.toNat * 2)).all fun i =>
      w.words (address.toNat + i) == BootMetadata.erasedWord)
  doVerify address length32 data w :=
    w.compare ((List.range (length32.toNat * 2)).all fun i =>
      w.words (address.toNat + i) == data.getD i 0)

/-- The F28377D port on the array. -/
def port : FlashPort FlashArray := F28377D.port fapi

/-! ## Programming -/

section
variable {m : Memory.Words} {address a : Nat} {data xs ys : List UInt16}

theorem programWords_inside (h : address ≤ a) (h' : a < address + data.length) :
    programWords m address data a = m a &&& data.getD (a - address) 0 := if_pos ⟨h, h'⟩

theorem programWords_outside (h : a < address ∨ address + data.length ≤ a) :
    programWords m address data a = m a := if_neg (by omega)

@[simp] theorem programWords_nil : programWords m address [] = m := by
  funext a
  exact programWords_outside (by simp only [List.length_nil]; omega)

theorem programWords_append : programWords m address (xs ++ ys) =
    programWords (programWords m address xs) (address + xs.length) ys := by
  funext a
  by_cases hx : address ≤ a ∧ a < address + xs.length
  · rw [programWords_inside hx.1 (by rw [List.length_append]; omega),
      programWords_outside (by omega), programWords_inside hx.1 hx.2]
    simp only [List.getD_eq_getElem?_getD,
      List.getElem?_append_left (show a - address < xs.length by omega)]
  · by_cases hy : address + xs.length ≤ a ∧ a < address + xs.length + ys.length
    · rw [programWords_inside (by omega) (by rw [List.length_append]; omega),
        programWords_inside hy.1 hy.2, programWords_outside (by omega)]
      simp only [List.getD_eq_getElem?_getD,
        List.getElem?_append_right (show xs.length ≤ a - address by omega)]
      rw [show a - address - xs.length = a - (address + xs.length) by omega]
    · rw [programWords_outside (by rw [List.length_append]; omega),
        programWords_outside (by omega), programWords_outside (by omega)]

/-- On erased words programming stores the data. -/
theorem programWords_erased
    (h : ∀ a, address ≤ a → a < address + data.length → m a = BootMetadata.erasedWord) :
    programWords m address data = Memory.store m address data := by
  funext a
  by_cases ha : address ≤ a ∧ a < address + data.length
  · rw [programWords_inside ha.1 ha.2, Memory.store_inside ha.1 ha.2, h a ha.1 ha.2]
    exact UInt16.neg_one_and
  · rw [programWords_outside (by omega), Memory.store_outside (by omega)]

end

theorem program128Bits_words (address : UInt32) (data : List UInt16) (info : BootFlashErrorInfo)
    (w : FlashArray) :
    let r := F28377D.program128Bits fapi address data info w
    (r.world.words = w.words ∨ r.world.words = programWords w.words address.toNat data) ∧
      (r.result = BootFlashResult.ok →
        r.world.words = programWords w.words address.toNat data) := by
  have failed : BootFlashResult.failed ≠ BootFlashResult.ok := by decide
  unfold F28377D.program128Bits
  dsimp only [fapi, command, advance]
  cases effect : (w.outcomes 0).takesEffect with
  | true =>
    split <;> exact ⟨.inr rfl, fun _ => rfl⟩
  | false =>
    split
    · exact ⟨.inl rfl, fun h => absurd h failed⟩
    · rename_i done
      simp only [not_or, ne_eq, Decidable.not_not] at done
      simp [CommandOutcome.takesEffect, done.1, done.2] at effect

/-- The loop programs its units in order and stops at the first that fails. -/
theorem programLoop_words (units : Nat) (address : UInt32) (data : List UInt16)
    (info : BootFlashErrorInfo) (w : FlashArray) (h : address.toNat + 8 * units < 4294967296) :
    let r := F28377D.programLoop fapi units address data info w
    ∃ done ≤ units,
      r.world.words = programWords w.words address.toNat (data.take (8 * done)) ∧
      (r.result = BootFlashResult.ok → done = units) := by
  induction units generalizing address data info w with
  | zero => exact ⟨0, Nat.le_refl 0, by simp [F28377D.programLoop], fun _ => rfl⟩
  | succ units ih =>
    obtain ⟨unit, whole⟩ := program128Bits_words address (data.take 8) info w
    unfold F28377D.programLoop
    dsimp only
    split
    · rename_i failed
      rcases unit with same | done
      · exact ⟨0, by omega, by simpa using same, fun h => absurd h failed⟩
      · exact ⟨1, by omega, by simpa using done, fun h => absurd h failed⟩
    · rename_i done
      have words := whole (Decidable.not_not.1 done)
      have next : (address + 8).toNat = address.toNat + 8 :=
        Words.toNat_add_of_lt (by simp only [UInt32.reduceToNat]; omega)
      obtain ⟨more, le, rest, all⟩ := ih (address + 8) (data.drop 8)
        (F28377D.program128Bits fapi address (data.take 8) info w).info
        (F28377D.program128Bits fapi address (data.take 8) info w).world (by omega)
      refine ⟨more + 1, by omega, ?_, fun h => by rw [all h]⟩
      rw [rest, words, next]
      have split : data.take (8 * (more + 1)) = data.take 8 ++ (data.drop 8).take (8 * more) := by
        rw [show 8 * (more + 1) = 8 + 8 * more by omega, List.take_add]
      rw [split, programWords_append]
      by_cases long : 8 ≤ data.length
      · rw [List.length_take, Nat.min_eq_left long]
      · rw [List.drop_of_length_le (by omega)]
        simp

/-! ## Erasing -/

/-- Bit `i` of a sector mask. -/
def selected (sectorMask : UInt32) (i : Nat) : Prop :=
  sectorMask &&& (1 <<< UInt32.ofNat i) ≠ 0

instance (sectorMask : UInt32) (i : Nat) : Decidable (selected sectorMask i) :=
  inferInstanceAs (Decidable (_ ≠ _))

/-- The selected sectors below `n`, erased. -/
def eraseSelected (m : Memory.Words) (sectorMask : UInt32) : Nat → Memory.Words
  | 0 => m
  | n + 1 =>
    if selected sectorMask n then eraseSectorWords (eraseSelected m sectorMask n) n
    else eraseSelected m sectorMask n

theorem sectorIndex_start : ∀ i < 14, ∀ s ∈ F28377D.sectorTable[i]?,
    sectorIndex (UInt32.ofNat s.1).toNat = some i := by
  decide

theorem eraseSector_words (i : Nat) (hi : i < 32) (info : BootFlashErrorInfo) (w : FlashArray) :
    let r := F28377D.eraseSector fapi (UInt32.ofNat i) info w
    (r.world.words = w.words ∨ r.world.words = eraseSectorWords w.words i) ∧
      (r.result = BootFlashResult.ok → r.world.words = eraseSectorWords w.words i) := by
  have failed : BootFlashResult.failed ≠ BootFlashResult.ok := by decide
  have bad : BootFlashResult.badAddress ≠ BootFlashResult.ok := by decide
  cases hs : F28377D.sectorTable[i]? with
  | none =>
    have none : F28377D.eraseSector fapi (UInt32.ofNat i) info w = ⟨BootFlashResult.badAddress,
        F28377D.setInfo info .erase 0 ((0 : UInt32) <<< 1) (-1) 0xFFFFFFFF, w⟩ := by
      rw [F28377D.eraseSector, F28377D.findSector_spec i hi, hs]
      rfl
    rw [none]
    exact ⟨.inl rfl, fun h => absurd h bad⟩
  | some s =>
    have inTable : i < 14 := by
      obtain ⟨h, -⟩ := List.getElem?_eq_some_iff.1 hs
      exact h
    have start := sectorIndex_start i inTable s hs
    have erase : ∀ m, eraseAt m (UInt32.ofNat s.1).toNat = eraseSectorWords m i := fun m => by
      rw [eraseAt, start]
    let issued := w.command fun m => eraseSectorWords m i
    let Q := fun r : PortReturn FlashArray => r.world.words = issued.2.words ∧
      (r.result = BootFlashResult.ok → (w.outcomes 0).takesEffect = true)
    have all : Q (F28377D.eraseSector fapi (UInt32.ofNat i) info w) := by
      unfold F28377D.eraseSector
      rw [F28377D.findSector_spec i hi, hs]
      simp only [Option.map_some, fapi, erase]
      refine iteInduction (motive := Q) (fun _ => ⟨rfl, fun h => absurd h failed⟩) fun api => ?_
      refine iteInduction (motive := Q) (fun _ => ⟨rfl, fun h => absurd h failed⟩) fun fsm => ?_
      have success : (w.outcomes 0).takesEffect = true := by
        simp only [command, advance, ne_eq, Decidable.not_not] at api fsm
        simp [CommandOutcome.takesEffect, api, fsm]
      exact iteInduction (motive := Q) (fun _ => ⟨rfl, fun _ => success⟩)
        fun _ => ⟨rfl, fun _ => success⟩
    obtain ⟨words, effect⟩ := all
    simp only [words, issued, command]
    constructor
    · cases (w.outcomes 0).takesEffect with
      | true => exact .inr rfl
      | false => exact .inl rfl
    · intro h
      rw [effect h, if_pos rfl]

/-- The loop erases the selected sectors in order and stops at the first that fails. -/
theorem eraseLoop_words (m : Memory.Words) (sectorMask : UInt32) (n : Nat) (is : List Nat)
    (his : is = List.range' n (32 - n)) (hn : n ≤ 32) (info : BootFlashErrorInfo) (w : FlashArray)
    (hw : w.words = eraseSelected m sectorMask n) :
    let r := F28377D.eraseLoop fapi sectorMask is info w
    ∃ done ≤ 32, r.world.words = eraseSelected m sectorMask done ∧
      (r.result = BootFlashResult.ok → done = 32) := by
  induction is generalizing n info w with
  | nil =>
    have := congrArg List.length his
    simp only [List.length_nil, List.length_range'] at this
    exact ⟨n, hn, hw, fun _ => by omega⟩
  | cons i is ih =>
    have len := congrArg List.length his
    simp only [List.length_cons, List.length_range'] at len
    obtain ⟨k, hk⟩ : ∃ k, 32 - n = k + 1 := ⟨32 - n - 1, by omega⟩
    rw [hk, List.range'_succ] at his
    obtain ⟨rfl, his⟩ := List.cons.inj his
    have rest : is = List.range' (i + 1) (32 - (i + 1)) := by rw [his]; congr 1; omega
    unfold F28377D.eraseLoop
    dsimp only
    split
    · rename_i bit
      obtain ⟨either, whole⟩ := eraseSector_words i (by omega) info w
      have next : eraseSelected m sectorMask (i + 1) = eraseSectorWords w.words i := by
        rw [eraseSelected, if_pos (show selected sectorMask i from bit), hw]
      split
      · rename_i failed
        rcases either with same | done
        · exact ⟨i, by omega, same.trans hw, fun h => absurd h failed⟩
        · exact ⟨i + 1, by omega, done.trans next.symm, fun h => absurd h failed⟩
      · rename_i done
        exact ih (i + 1) rest (by omega) _ _ ((whole (Decidable.not_not.1 done)).trans next.symm)
    · rename_i bit
      have next : eraseSelected m sectorMask (i + 1) = eraseSelected m sectorMask i := by
        rw [eraseSelected, if_neg (show ¬ selected sectorMask i from bit)]
      exact ih (i + 1) rest (by omega) info w (hw.trans next.symm)

/-! ## The port calls -/

section
variable (info : BootFlashErrorInfo) (w : FlashArray)

theorem init_words : (port.init info w).world.words = w.words := by
  let Q := fun r : PortReturn FlashArray => r.world.words = w.words
  refine iteInduction (motive := Q) (fun _ => rfl) fun _ => ?_
  exact iteInduction (motive := Q) (fun _ => rfl) fun _ => rfl

theorem verifyBlock_words (address : UInt32) (expected : List UInt16) (wordCount : UInt16) :
    (port.verifyBlock address expected wordCount info w).world.words = w.words := by
  let Q := fun r : PortReturn FlashArray => r.world.words = w.words
  refine iteInduction (motive := Q) (fun _ => rfl) fun _ => ?_
  exact iteInduction (motive := Q) (fun _ => rfl) fun _ => rfl

theorem programBlock_words (address : UInt32) (data : List UInt16) (wordCount : UInt16)
    (h : address.toNat + wordCount.toNat + 7 < 4294967296) :
    let r := port.programBlock address data wordCount info w
    ∃ done ≤ (wordCount.toNat + 7) / 8,
      r.world.words = programWords w.words address.toNat (data.take (8 * done)) ∧
      (r.result = BootFlashResult.ok → done = (wordCount.toNat + 7) / 8) :=
  programLoop_words _ address data info w (by omega)

/-- A record program that passes its address check programs a record slot. -/
theorem programMetadataRecord_words (address : UInt32) (data : List UInt16) (wordCount : UInt16) :
    let r := port.programMetadataRecord address data wordCount info w
    (∃ done ≤ 8, r.world.words = programWords w.words address.toNat (data.take (8 * done)) ∧
      (r.result = BootFlashResult.ok → done = 8)) := by
  let Q := fun r : PortReturn FlashArray =>
    ∃ done ≤ 8, r.world.words = programWords w.words address.toNat (data.take (8 * done)) ∧
      (r.result = BootFlashResult.ok → done = 8)
  have bad : BootFlashResult.badAddress ≠ BootFlashResult.ok := by decide
  refine iteInduction (motive := Q)
    (fun _ => ⟨0, by omega, by simp, fun h => absurd h bad⟩) fun range => ?_
  simp only [not_or, ne_eq, Decidable.not_not, UInt32.not_lt, gt_iff_lt] at range
  obtain ⟨count, -, -, stop, order⟩ := range
  have small : address.toNat ≤ F28377D.slotAMetadataEnd.toNat :=
    Nat.le_trans (UInt32.le_iff_toNat_le.1 order) (UInt32.le_iff_toNat_le.1 stop)
  have bound : F28377D.slotAMetadataEnd.toNat = 0x082400 := rfl
  rw [count]
  exact programBlock_words info w address data 64 (by simp only [UInt16.reduceToNat]; omega)

/-- Erasing stops at the first sector that fails; a mask with a forbidden bit
erases nothing. -/
theorem eraseBySectorMask_words (sectorMask : UInt32) :
    let r := port.eraseBySectorMask sectorMask info w
    (∃ done ≤ 32, r.world.words = eraseSelected w.words sectorMask done ∧
      (r.result = BootFlashResult.ok → done = 32) ∧
      (sectorMask &&& ~~~F28377D.allowedEraseMask ≠ 0 → done = 0)) := by
  let Q := fun r : PortReturn FlashArray =>
    ∃ done ≤ 32, r.world.words = eraseSelected w.words sectorMask done ∧
      (r.result = BootFlashResult.ok → done = 32) ∧
      (sectorMask &&& ~~~F28377D.allowedEraseMask ≠ 0 → done = 0)
  have bad : BootFlashResult.badAddress ≠ BootFlashResult.ok := by decide
  refine iteInduction (motive := Q)
    (fun _ => ⟨0, by omega, rfl, fun h => absurd h bad, fun _ => rfl⟩) fun allowed => ?_
  obtain ⟨done, le, words, all⟩ := eraseLoop_words w.words sectorMask 0 (List.range 32)
    List.range_eq_range' (by omega) info w rfl
  exact ⟨done, le, words, all, fun h => absurd h allowed⟩

end

end FlashArray

end BootUpgrade

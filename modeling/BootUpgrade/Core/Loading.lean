import BootUpgrade.Core.LoadedWords
import BootUpgrade.Core.Resident

/-!
# A RAM load from BEGIN to END

The requests of a load that fits its own BEGIN are accepted one after the
other. `Progress` is the session after some of its packets; the END passes
exactly when the entry point lies between the bounds of the packets.
-/

namespace BootUpgrade.BootAlgorithm

open BootFlashServiceLayout BootFlashServiceAbi

variable {σ : Type} {c : Core σ} {begin' p : BootProtocolFrame} {ps : List BootProtocolFrame}

/-- A RAM_LOAD_DATA request with a block that the RAM port writes. -/
structure Storable (p : BootProtocolFrame) : Prop where
  header : 5 ≤ p.payloadWords
  length : p.payloadWords = (5 : UInt16) + p.word 2
  nonempty : p.word 2 ≠ 0
  writable : BootRam.checkAddress (p.u32 0) (p.word 2).toUInt32 BootTarget.ramApp = BootRamResult.ok

/-- The session after the packets `ps` of the load that `begin'` has opened. -/
structure Progress (begin' : BootProtocolFrame) (ps : List BootProtocolFrame)
    (ramLoad : BootTransferSession) : Prop where
  active : ramLoad.active ≠ 0
  expectedPackets : ramLoad.expectedPacketCount = (begin'.word 1).toUInt32
  expectedWords : ramLoad.expectedTotalWords = begin'.u32 2
  entryPoint : ramLoad.entryPoint = begin'.u32 4
  index : ramLoad.expectedBlockIndex = ramLoad.processedPacketCount
  packets : ramLoad.processedPacketCount.toNat = ps.length
  words : ramLoad.processedTotalWords.toNat = (packetWords ps).length
  crc : ramLoad.crc32 = BootCrc32.updateWords BootCrc32.initValue (packetWords ps)
  bounds : Bounds ramLoad ps

theorem progress_begun (begin' : BootProtocolFrame) : Progress begin' [] (begunLoad begin') :=
  ⟨show (1 : UInt16) ≠ 0 by decide, rfl, rfl, rfl, rfl, rfl, rfl, rfl, bounds_begun begin'⟩

theorem packetWords_append (xs ys : List BootProtocolFrame) :
    packetWords (xs ++ ys) = packetWords xs ++ packetWords ys := List.flatMap_append

theorem packetWords_singleton (p : BootProtocolFrame) : packetWords [p] = loadData p :=
  List.flatMap_singleton ..

/-- The declared packets, by position. -/
theorem Complete.index (complete : Complete begin' ps) {before after : List BootProtocolFrame}
    (split : ps = before ++ p :: after) :
    (p.u32 3).toNat = before.length ∧ before.length < (begin'.word 1).toNat := by
  have indices := complete.indices
  have length := congrArg List.length indices
  rw [split, List.length_map, List.length_range, List.length_append, List.length_cons] at length
  constructor
  · have entry := congrArg (·[before.length]?) indices
    simp only [split, List.map_append, List.map_cons] at entry
    rw [List.getElem?_append_right (Nat.le_of_eq (List.length_map _)),
      List.length_map, Nat.sub_self, List.getElem?_cons_zero,
      List.getElem?_range (by omega)] at entry
    exact Option.some.inj entry
  · omega

section
variable {ramLoad : BootTransferSession}

/-- The next packet of a load passes every check. -/
theorem Progress.ready {before after : List BootProtocolFrame}
    (progress : Progress begin' before ramLoad) (complete : Complete begin' ps)
    (split : ps = before ++ p :: after) (storable : Storable p) : LoadReady p ramLoad := by
  obtain ⟨index, room⟩ := complete.index split
  have data : (loadData p).length = (p.word 2).toNat := by
    apply p.length_words
    have length := congrArg UInt16.toNat storable.length
    have header := UInt16.le_iff_toNat_le.1 storable.header
    have payload := p.payloadWords_le
    have words := (p.word 2).toNat_lt
    have five : (5 : UInt16).toNat = 5 := rfl
    rw [UInt16.toNat_add] at length
    omega
  have total := complete.total
  rw [split, List.append_cons, packetWords_append, packetWords_append, packetWords_singleton,
    List.length_append, List.length_append, data, ← progress.words] at total
  refine ⟨progress.active, storable.header, storable.length, storable.nonempty, ?_, ?_, ?_,
    storable.writable⟩
  · rw [progress.index, ← UInt32.toNat_inj, index, progress.packets]
  · rw [UInt32.lt_iff_toNat_lt, progress.packets, progress.expectedPackets, UInt16.toNat_toUInt32]
    exact room
  · have le : ramLoad.processedTotalWords ≤ ramLoad.expectedTotalWords := by
      rw [UInt32.le_iff_toNat_le, progress.expectedWords]
      omega
    rw [UInt32.le_iff_toNat_le, UInt32.toNat_sub_of_le _ _ le, UInt16.toNat_toUInt32,
      progress.expectedWords]
    omega

theorem Progress.received (progress : Progress begin' ps ramLoad) (ready : LoadReady p ramLoad)
    (totalLe : ramLoad.processedTotalWords ≤ ramLoad.expectedTotalWords) :
    Progress begin' (ps ++ [p]) (countPacket ramLoad (p.u32 0) (p.word 2) (loadData p)) := by
  obtain ⟨next, sum, -⟩ := countPacket_counts ready totalLe
  constructor
  · exact progress.active
  · exact progress.expectedPackets
  · exact progress.expectedWords
  · exact progress.entryPoint
  · show ramLoad.expectedBlockIndex + 1 = ramLoad.processedPacketCount + 1
    rw [progress.index]
  · show (ramLoad.processedPacketCount + 1).toNat = _
    rw [next, progress.packets, List.length_append]
    rfl
  · show (ramLoad.processedTotalWords + (p.word 2).toUInt32).toNat = _
    rw [sum, progress.words, packetWords_append, packetWords_singleton, List.length_append,
      loadData_length ready]
  · show BootCrc32.updateWords ramLoad.crc32 (loadData p) = _
    rw [progress.crc, packetWords_append, packetWords_singleton, BootCrc32.updateWords_append]
  · exact progress.bounds.counts ready

end

/-! ## All packets -/

/-- Every packet passes the checks, one after the other. -/
def Receives : Core σ → List BootProtocolFrame → Prop
  | _, [] => True
  | c, p :: ps => LoadReady p c.algorithm.ramLoad ∧ Receives (receivePacket p c) ps

/-- The core after the packets. -/
def receive (c : Core σ) (ps : List BootProtocolFrame) : Core σ :=
  ps.foldl (fun c p => receivePacket p c) c

theorem Progress.receives {before rest : List BootProtocolFrame}
    (progress : Progress begin' before c.algorithm.ramLoad)
    (complete : Complete begin' (before ++ rest)) (storable : ∀ p ∈ rest, Storable p) :
    Receives c rest ∧ Progress begin' (before ++ rest) (receive c rest).algorithm.ramLoad := by
  induction rest generalizing c before with
  | nil =>
    rw [List.append_nil]
    exact ⟨trivial, progress⟩
  | cons p rest ih =>
    obtain ⟨first, others⟩ := List.forall_mem_cons.1 storable
    have ready := progress.ready complete rfl first
    have totalLe : c.algorithm.ramLoad.processedTotalWords ≤
        c.algorithm.ramLoad.expectedTotalWords := by
      have total := complete.total
      rw [packetWords_append, List.length_append] at total
      rw [UInt32.le_iff_toNat_le, progress.words, progress.expectedWords]
      omega
    have next : Progress begin' (before ++ [p]) (receivePacket p c).algorithm.ramLoad :=
      progress.received ready totalLe
    rw [List.append_cons] at complete ⊢
    obtain ⟨receives, done⟩ := ih next complete others
    exact ⟨⟨ready, receives⟩, done⟩

/-- The END passes exactly when the entry point lies between the bounds. -/
theorem Progress.loadComplete_iff {end' : BootProtocolFrame}
    (progress : Progress begin' ps c.algorithm.ramLoad) (complete : Complete begin' ps)
    (packets : end'.u32 0 = (begin'.word 1).toUInt32) (words : end'.u32 2 = begin'.u32 2) :
    loadComplete end' c.algorithm.ramLoad ↔
      (∃ p ∈ ps, (p.u32 0).toNat ≤ (begin'.u32 4).toNat) ∧
        ∃ p ∈ ps, (begin'.u32 4).toNat < (p.u32 0).toNat + (p.word 2).toNat := by
  have count : ps.length = (begin'.word 1).toNat := by
    have length := congrArg List.length complete.indices
    rwa [List.length_map, List.length_range] at length
  have processed : (begin'.word 1).toUInt32 = c.algorithm.ramLoad.processedPacketCount := by
    rw [← UInt32.toNat_inj, UInt16.toNat_toUInt32, progress.packets, count]
  have total : begin'.u32 2 = c.algorithm.ramLoad.processedTotalWords := by
    rw [← UInt32.toNat_inj, progress.words, complete.total]
  rw [← progress.bounds.between, ← progress.entryPoint]
  constructor
  · rintro ⟨-, -, -, -, start, stop⟩
    exact ⟨start, stop⟩
  · rintro ⟨start, stop⟩
    refine ⟨packets.trans progress.expectedPackets.symm, packets.trans processed,
      words.trans progress.expectedWords.symm, words.trans total, start, stop⟩

/-! ## What the packets leave -/

/-- The word of a packet at an address inside its block. -/
def wordOf (p : BootProtocolFrame) (a : UInt32) : UInt16 :=
  (loadData p).getD (a.toNat - (p.u32 0).toNat) 0

section
variable {a : UInt32} {value : UInt16}

theorem storeLoad_inside {ramLoad : BootTransferSession} (ready : LoadReady p ramLoad)
    {w : CoreWorld σ} (inside : InBlock p a) : (storeLoad p w).memory a = wordOf p a := by
  obtain ⟨lo, hi⟩ := inside
  have offset : (a - p.u32 0).toNat = a.toNat - (p.u32 0).toNat :=
    UInt32.toNat_sub_of_le _ _ (UInt32.le_iff_toNat_le.2 lo)
  have length := loadData_length ready
  have whole : (loadData p).take (p.word 2).toNat = loadData p :=
    List.take_of_length_le (Nat.le_of_eq length)
  show BootRam.storeWords _ _ ((loadData p).take _) a = _
  rw [BootRam.storeWords, whole, offset, if_pos (by omega)]
  rfl

/-- The value at `a` after a packet that has it there, if its block reaches `a`. -/
theorem receivePacket_memory {ramLoad : BootTransferSession} (ready : LoadReady p ramLoad)
    (inside : InBlock p a → wordOf p a = value)
    (publish : overlaps p = true → a = publishOrigin ∨ a = publishOrigin + 1 →
      value = publishInvalid)
    (outside : ¬ InBlock p a → c.world.memory a = value) :
    (receivePacket p c).world.memory a = value := by
  have stored : ∀ w : CoreWorld σ, (¬ InBlock p a → w.memory a = value) →
      (storeLoad p w).memory a = value := by
    intro w outside
    by_cases block : InBlock p a
    · rw [storeLoad_inside ready block]
      exact inside block
    · rw [storeLoad_outside ready block]
      exact outside block
  by_cases within : overlaps p = true
  · have whole : (receivePacket p c).world =
        invalidatePublishState (storeLoad p (invalidatePublishState c.world)) := by
      simp only [receivePacket, within, if_true]
      rfl
    rw [whole]
    by_cases other : a ≠ publishOrigin ∧ a ≠ publishOrigin + 1
    · rw [invalidatePublishState_other other]
      apply stored
      rw [invalidatePublishState_other other]
      exact outside
    · have words : a = publishOrigin ∨ a = publishOrigin + 1 := by
        by_cases first : a = publishOrigin
        · exact .inl first
        · exact .inr (Decidable.not_not.1 fun second => other ⟨first, second⟩)
      rw [publish within words]
      rcases words with rfl | rfl
      · exact invalidatePublishState_valid
      · exact invalidatePublishState_inverse
  · rw [Bool.not_eq_true] at within
    rw [receivePacket_apart within]
    exact stored _ outside

/-- The value at `a` after packets that have it there wherever they reach `a`. -/
theorem receive_memory (receives : Receives c ps) (inside : ∀ p ∈ ps, InBlock p a → wordOf p a = value)
    (publish : ∀ p ∈ ps, overlaps p = true → a = publishOrigin ∨ a = publishOrigin + 1 →
      value = publishInvalid)
    (start : (∃ p ∈ ps, InBlock p a) ∨ c.world.memory a = value) :
    (receive c ps).world.memory a = value := by
  induction ps generalizing c with
  | nil =>
    rcases start with ⟨p, mem, -⟩ | same
    · cases mem
    · exact same
  | cons p rest ih =>
    obtain ⟨ready, receives⟩ := receives
    obtain ⟨first, others⟩ := List.forall_mem_cons.1 inside
    obtain ⟨firstPublish, otherPublish⟩ := List.forall_mem_cons.1 publish
    apply ih receives others otherPublish
    by_cases later : ∃ q ∈ rest, InBlock q a
    · exact .inl later
    right
    apply receivePacket_memory ready first firstPublish
    intro apart
    rcases start with ⟨q, mem, block⟩ | same
    · rcases List.mem_cons.1 mem with rfl | mem
      · exact absurd block apart
      · exact absurd ⟨q, mem, block⟩ later
    · exact same

end

/-- Packets outside the guarded interval leave the service alone. -/
theorem receive_apart (apart : ∀ p ∈ ps, overlaps p = false) :
    (receive c ps).algorithm =
        { c.algorithm with ramLoad := (receive c ps).algorithm.ramLoad } ∧
      (receive c ps).world.service = c.world.service := by
  induction ps generalizing c with
  | nil => exact ⟨rfl, rfl⟩
  | cons p rest ih =>
    obtain ⟨first, others⟩ := List.forall_mem_cons.1 apart
    obtain ⟨algorithm, service⟩ := @ih (receivePacket p c) others
    have fields : (receivePacket p c).algorithm =
        { c.algorithm with ramLoad := (receivePacket p c).algorithm.ramLoad } := by
      rw [receivePacket_apart first]
    constructor
    · show (receive (receivePacket p c) rest).algorithm = _
      rw [algorithm, fields]
      rfl
    · show (receive (receivePacket p c) rest).world.service = _
      rw [service, receivePacket_apart first]
      rfl

theorem receive_deviceInfo {c : Core σ} (ps : List BootProtocolFrame) :
    (receive c ps).algorithm.deviceInfo = c.algorithm.deviceInfo := by
  induction ps generalizing c with
  | nil => rfl
  | cons p rest ih =>
    have one : (receivePacket p c).algorithm.deviceInfo = c.algorithm.deviceInfo := by
      unfold receivePacket
      dsimp only
      cases overlaps p <;> rfl
    exact ih.trans one

end BootUpgrade.BootAlgorithm

import BootUpgrade.F28377D.Port
import BootUpgrade.Host.FlashImage
import BootUpgrade.Host.PacketList

/-!
# Which packets the DSP admits

The PC cuts a run of addresses into packets of one size from its start. The DSP
takes whole units of one sector, so the start of the run must be the start of a
unit and every sector boundary inside the run must fall between two packets.
-/

namespace BootUpgrade.HostWorkflow

open Chunks F28377D HostImages Intervals

/-- `BootFlash_CheckAddress` accepts the packet for a program. -/
def CheckedForProgram (packet : DataPacket) : Prop :=
  ∀ info, (checkAddress (UInt32.ofNat packet.address) (UInt32.ofNat packet.words.length)
    .program info).1 = BootFlashResult.ok

/-- What the DSP needs of the packets of a transfer. -/
structure PacketsAdmissible (sectorMask : Nat) (packets : List DataPacket) : Prop where
  nonempty : ∀ packet ∈ packets, packet.words ≠ []
  checked : ∀ packet ∈ packets, CheckedForProgram packet
  units : packets.Pairwise fun p q => ∀ i < p.words.length, ∀ j < q.words.length,
    (p.address + i) / 8 ≠ (q.address + j) / 8
  selected : ∀ packet ∈ packets, ∀ i < packet.words.length, ∃ k s, sectorTable[k]? = some s ∧
    s.1 ≤ packet.address + i ∧ packet.address + i < s.2 ∧ sectorMask.testBit k = true

/-- Runs start with a unit, and packets of `m` words end at every sector boundary in them. -/
def CutAtSectors (image : FirmwareImage) (m : Nat) : Prop :=
  ∀ start stop, MaximalRun image.Covers start stop →
    start % 8 = 0 ∧ ∀ s ∈ sectorTable, start < s.1 → s.1 < stop → (s.1 - start) % m = 0

/-- The length of a list of `n` words with its padding. -/
def paddedLength (n : Nat) : Nat := 8 * ((n + 7) / 8)

/-! ## The check in numbers -/

/-- `n` words at `a` lie in one sector. -/
def InSector (a n : Nat) : Prop := ∃ s ∈ sectorTable, s.1 ≤ a ∧ a < s.2 ∧ a + n ≤ s.2

theorem checkAddress_ok {address wordCount : UInt32} {operation : BootFlashOperation}
    {info : BootFlashErrorInfo} :
    (checkAddress address wordCount operation info).1 = BootFlashResult.ok ↔
      addressAllowed address wordCount operation = true := by
  unfold checkAddress
  by_cases h : addressAllowed address wordCount operation = true
  · simp [h]
  · rw [if_neg h]
    simp only [h]
    decide

theorem checkedForProgram_iff {packet : DataPacket} (low : packet.address < 0x100000)
    (small : packet.words.length < 0x80000000) :
    CheckedForProgram packet ↔ 0x082400 ≤ packet.address ∧
      InSector packet.address packet.words.length ∧
      packet.address % 8 = 0 ∧ packet.words.length % 8 = 0 := by
  have address : (UInt32.ofNat packet.address).toNat = packet.address :=
    UInt32.toNat_ofNat_of_lt' (by simp only [UInt32.size]; omega)
  have length : (UInt32.ofNat packet.words.length).toNat = packet.words.length :=
    UInt32.toNat_ofNat_of_lt' (by simp only [UInt32.size]; omega)
  have allowed := @addressAllowed_iff (UInt32.ofNat packet.address)
    (UInt32.ofNat packet.words.length) .program (by omega)
  rw [address, length] at allowed
  simp only [forall_const] at allowed
  unfold CheckedForProgram
  simp only [checkAddress_ok, allowed]
  constructor
  · intro h
    exact h .zero
  · intro h _
    exact h

/-- The application part of the Flash is covered by sectors of whole units. -/
theorem inSector_of_app {a : Nat} (h : 0x082400 ≤ a ∧ a < 0x0C0000) :
    ∃ s ∈ sectorTable, s.1 ≤ a ∧ a < s.2 := by
  simp only [sectorTable, List.mem_cons, List.not_mem_nil, or_false, exists_eq_or_imp,
    exists_eq_left]
  omega

theorem sectorTable_next : ∀ s ∈ sectorTable, s.1 < s.2 ∧ s.2 % 8 = 0 ∧
    (s.2 = 0x0C0000 ∨ ∃ t ∈ sectorTable, t.1 = s.2) := by
  decide

/-! ## One run -/

section
variable {m : Nat} (positive : 0 < m) (units : m % 8 = 0)
include positive units

/-- Packets inside sectors end at the boundaries. -/
theorem cut_of_inSector {start stop : Nat}
    (fits : ∀ k, m * k < stop - start →
      InSector (start + m * k) (paddedLength (min m (stop - start - m * k)))) :
    ∀ s ∈ sectorTable, start < s.1 → s.1 < stop → (s.1 - start) % m = 0 := by
  intro s hs behind before
  apply Decidable.byContradiction
  intro inside
  -- the packet with the last word before the boundary goes past it
  obtain ⟨k, hk⟩ : ∃ k, k = (s.1 - start) / m := ⟨_, rfl⟩
  have split : m * k + (s.1 - start) % m = s.1 - start := by
    rw [hk]
    exact Nat.div_add_mod ..
  have rem := Nat.mod_lt (s.1 - start) positive
  obtain ⟨t, ht, lo, -, hi⟩ := fits k (by omega)
  unfold paddedLength at hi
  have := (sectorTable_next s hs).1
  have same := sectorTable_unique hs ht ⟨Nat.le_refl s.1, by omega⟩ ⟨by omega, by omega⟩
  rw [same] at split inside behind
  omega

/-- Packets that end at the boundaries lie inside sectors. -/
theorem inSector_of_cut {start stop : Nat} (app : 0x082400 ≤ start ∧ stop ≤ 0x0C0000)
    (aligned : start % 8 = 0)
    (cut : ∀ s ∈ sectorTable, start < s.1 → s.1 < stop → (s.1 - start) % m = 0)
    {k : Nat} (hk : m * k < stop - start) :
    InSector (start + m * k) (paddedLength (min m (stop - start - m * k))) := by
  have unit : m * k % 8 = 0 := by rw [Nat.mul_mod, units, Nat.zero_mul, Nat.zero_mod]
  obtain ⟨s, hs, lo, hi⟩ := inSector_of_app (a := start + m * k) (by omega)
  obtain ⟨-, whole, next⟩ := sectorTable_next s hs
  refine ⟨s, hs, lo, hi, ?_⟩
  have enough : start + m * k + min m (stop - start - m * k) ≤ s.2 := by
    rcases next with last | ⟨t, ht, boundary⟩
    · omega
    · apply Nat.le_of_not_lt
      intro long
      have multiple := cut t ht (by omega) (by omega)
      obtain ⟨j, hj⟩ := Nat.dvd_of_mod_eq_zero multiple
      have later : m * k < m * j := by omega
      have next := Nat.mul_le_mul_left m (Nat.lt_of_mul_lt_mul_left later)
      rw [Nat.mul_succ] at next
      omega
  unfold paddedLength
  omega

end

/-! ## The packets of an image -/

/-- Start and length of a packet, from the run it belongs to. -/
structure PieceOf (image : FirmwareImage) (m : Nat) (packet : DataPacket) (start stop k : Nat) :
    Prop where
  run : MaximalRun image.Covers start stop
  piece : m * k < stop - start
  address : packet.address = start + m * k
  length : packet.words.length = paddedLength (min m (stop - start - m * k))

section
variable {image : FirmwareImage} {prepared : PreparedFlashImage} {m : Nat}
  {packets : List DataPacket}

theorem piece_of_packet (positive : 0 < m) (units : m % 8 = 0)
    (transfer : preparePackets image m = .ok packets) {packet : DataPacket}
    (mem : packet ∈ packets) : ∃ start stop k, PieceOf image m packet start stop k := by
  obtain ⟨rfl, -⟩ := preparePackets_ok positive units transfer
  obtain ⟨block, hb, k, hk, address, words⟩ := mem_packetsOf.1 ⟨packet, mem, rfl, rfl⟩
  have length : block.endExclusive - block.address = block.words.length := by
    unfold FirmwareBlock.endExclusive
    omega
  refine ⟨block.address, block.endExclusive, k, ?_, ?_, address, ?_⟩
  · exact (mergeContiguous_runs image _ _).1 ⟨block, hb, rfl⟩
  · rw [length]
    exact (lt_count positive).1 hk
  · rw [words, length_padded, length_chunk, length]
    rfl

theorem packet_of_piece (positive : 0 < m) (units : m % 8 = 0)
    (transfer : preparePackets image m = .ok packets) {start stop k : Nat}
    (run : MaximalRun image.Covers start stop) (hk : m * k < stop - start) :
    ∃ packet ∈ packets, PieceOf image m packet start stop k := by
  obtain ⟨rfl, -⟩ := preparePackets_ok positive units transfer
  obtain ⟨block, hb, range⟩ := (mergeContiguous_runs image start stop).2 run
  obtain ⟨first, last⟩ : block.address = start ∧ block.endExclusive = stop := by
    simpa [FirmwareBlock.range] using range
  have length : stop - start = block.words.length := by
    rw [← first, ← last, FirmwareBlock.endExclusive]
    omega
  obtain ⟨packet, mem, address, words⟩ := mem_packetsOf.2 ⟨block, hb, k,
    (lt_count positive).2 (by omega), rfl, rfl⟩
  refine ⟨packet, mem, run, hk, ?_, ?_⟩
  · rw [address, first]
  · rw [words, length_padded, length_chunk, length]
    rfl

theorem run_inside (prepare : Prepared image prepared) {start stop : Nat}
    (run : MaximalRun image.Covers start stop) : 0x082400 ≤ start ∧ stop ≤ 0x0C0000 := by
  have := run.nonempty
  have first := prepare.covers (run.inside start (Nat.le_refl _) run.nonempty)
  have last := prepare.covers (run.inside (stop - 1) (by omega) (by omega))
  omega

theorem PieceOf.checked_iff (prepare : Prepared image prepared) {packet : DataPacket}
    {start stop k : Nat} (piece : PieceOf image m packet start stop k) :
    CheckedForProgram packet ↔
      InSector (start + m * k) (paddedLength (min m (stop - start - m * k))) ∧
        (start + m * k) % 8 = 0 := by
  have inside := run_inside prepare piece.run
  have nonempty := piece.run.nonempty
  obtain ⟨-, short, address, length⟩ := piece
  have small : paddedLength (min m (stop - start - m * k)) < 0x80000000 := by
    unfold paddedLength
    omega
  rw [checkedForProgram_iff (by omega) (by omega), address, length]
  constructor
  · rintro ⟨-, fits, aligned, -⟩
    exact ⟨fits, aligned⟩
  · rintro ⟨fits, aligned⟩
    exact ⟨by omega, fits, aligned, Nat.mul_mod_right ..⟩

/-- In a run that is cut right, the packets follow one another unit by unit. -/
theorem pairwise_packetsOf (positive : 0 < m) (units : m % 8 = 0) (index : Nat)
    {blocks : List FirmwareBlock} (aligned : ∀ block ∈ blocks, block.address % 8 = 0)
    (apart : blocks.Pairwise fun left right => left.endExclusive < right.address) :
    (packetsOf m index blocks).Pairwise fun p q => p.address + p.words.length ≤ q.address := by
  induction blocks generalizing index with
  | nil => exact List.Pairwise.nil
  | cons block rest ih =>
    obtain ⟨first, apart⟩ := List.pairwise_cons.1 apart
    have unit := aligned block List.mem_cons_self
    rw [packetsOf, List.pairwise_append]
    refine ⟨?_, ih _ (fun other ho => aligned other (List.mem_cons_of_mem _ ho)) apart, ?_⟩
    · rw [List.pairwise_map]
      apply List.pairwise_lt_range.imp
      intro i j before
      have next := Nat.mul_le_mul_left m before
      rw [Nat.mul_succ] at next
      show block.address + m * i + (padded (chunk m block.words i)).length ≤ block.address + m * j
      rw [length_padded, length_chunk]
      omega
    · intro p hp q hq
      obtain ⟨i, hi, rfl⟩ := List.mem_map.1 hp
      obtain ⟨other, ho, j, -, address, -⟩ := mem_packetsOf.1 ⟨q, hq, rfl, rfl⟩
      have gap := first other ho
      have unit' := aligned other (List.mem_cons_of_mem _ ho)
      have short := (lt_count positive).1 (List.mem_range.1 hi)
      have unit'' : m * i % 8 = 0 := by rw [Nat.mul_mod, units, Nat.zero_mul, Nat.zero_mod]
      show block.address + m * i + (padded (chunk m block.words i)).length ≤ q.address
      rw [length_padded, length_chunk, address]
      unfold FirmwareBlock.endExclusive at gap
      omega

/-- Packets of whole units that follow one another share no unit. -/
theorem units_apart {p q : DataPacket} (follow : p.address + p.words.length ≤ q.address)
    (aligned : q.address % 8 = 0) {i j : Nat} (hi : i < p.words.length) :
    (p.address + i) / 8 ≠ (q.address + j) / 8 := by
  omega

/-- A packet in one sector has its words in a sector of the mask. -/
theorem PieceOf.selected (prepare : Prepared image prepared) {packet : DataPacket}
    {start stop k : Nat} (piece : PieceOf image m packet start stop k)
    (fits : InSector packet.address packet.words.length) {i : Nat}
    (hi : i < packet.words.length) :
    ∃ k s, sectorTable[k]? = some s ∧ s.1 ≤ packet.address + i ∧ packet.address + i < s.2 ∧
      prepared.sectorMask.testBit k = true := by
  obtain ⟨s, hs, lo, first, hi'⟩ := fits
  obtain ⟨n, entry⟩ := List.mem_iff_getElem?.1 hs
  have covered : image.Covers packet.address := by
    have short := piece.piece
    rw [piece.address]
    exact piece.run.inside _ (by omega) (by omega)
  have bit := (testBit_imageSectorMask image n).2 ⟨s, entry, _, covered, lo, first⟩
  refine ⟨n, s, entry, by omega, by omega, ?_⟩
  rw [prepare.sectorMask, Nat.testBit_or, bit, Bool.true_or]

/-- The packets of a prepared image are admissible to the DSP exactly when the
image's runs start with a unit and are cut at the sector boundaries. -/
theorem packets_admissible (prepare : prepareFlashAppImage Cpu1.memoryMap image = .ok prepared)
    (positive : 0 < m) (units : m % 8 = 0) (transfer : preparePackets image m = .ok packets) :
    PacketsAdmissible prepared.sectorMask packets ↔ CutAtSectors image m := by
  have prepare := prepareFlashAppImage_ok prepare
  constructor
  · intro admissible start stop run
    have fits : ∀ k, m * k < stop - start →
        InSector (start + m * k) (paddedLength (min m (stop - start - m * k))) ∧
          (start + m * k) % 8 = 0 := by
      intro k hk
      obtain ⟨packet, mem, piece⟩ := packet_of_piece positive units transfer run hk
      exact (piece.checked_iff prepare).1 (admissible.checked packet mem)
    constructor
    · have first := (fits 0 (by have := run.nonempty; omega)).2
      rwa [Nat.mul_zero] at first
    · exact cut_of_inSector positive units fun k hk => (fits k hk).1
  · intro cut
    have fits : ∀ packet ∈ packets,
        InSector packet.address packet.words.length ∧ packet.address % 8 = 0 := by
      intro packet mem
      obtain ⟨start, stop, k, piece⟩ := piece_of_packet positive units transfer mem
      obtain ⟨aligned, boundaries⟩ := cut start stop piece.run
      have unit : m * k % 8 = 0 := by rw [Nat.mul_mod, units, Nat.zero_mul, Nat.zero_mod]
      rw [piece.address, piece.length]
      exact ⟨inSector_of_cut positive units (run_inside prepare piece.run) aligned boundaries
        piece.piece, by omega⟩
    constructor
    · intro packet mem
      obtain ⟨start, stop, k, piece⟩ := piece_of_packet positive units transfer mem
      apply List.ne_nil_of_length_pos
      have short := piece.piece
      rw [piece.length, paddedLength]
      omega
    · intro packet mem
      obtain ⟨start, stop, k, piece⟩ := piece_of_packet positive units transfer mem
      have here := fits packet mem
      rw [piece.address, piece.length] at here
      exact (piece.checked_iff prepare).2 here
    · obtain ⟨rfl, -⟩ := preparePackets_ok positive units transfer
      have order := pairwise_packetsOf positive units 0
        (fun block hb => (cut _ _ ((mergeContiguous_runs image _ _).1 ⟨block, hb, rfl⟩)).1)
        (List.pairwise_map.1 (separated_mergeContiguous image).apart)
      apply order.imp_of_mem
      intro p q _ hq follow i hi j _
      exact units_apart follow (fits q hq).2 hi
    · intro packet mem i hi
      obtain ⟨start, stop, k, piece⟩ := piece_of_packet positive units transfer mem
      exact piece.selected prepare (fits packet mem).1 hi

end

/-! ## Images of one word -/

/-- An image with its entry point at the start of the application and one word at `a`. -/
def wordImage (a : Nat) (ha : a ≤ 0xFFFFFFFF) : FirmwareImage where
  entryPoint := 0x082400
  blocks := [⟨a, [0x1234], ha, by decide⟩]
  entryPoint_le := by decide
  blocks_ne := by simp
  apart := by simp [blocksOverlap]

section
variable {a : Nat} (ha : a ≤ 0xFFFFFFFF)

theorem merge_wordImage :
    mergeContiguous (wordImage a ha).blocks = [⟨a, [0x1234], ha, by decide⟩] := by
  simp [wordImage, mergeContiguous, sortedBlocks, mergeFrom]

def wordPackets (a : Nat) : List DataPacket := [⟨a, padded [0x1234], 0⟩]

theorem packets_wordImage : preparePackets (wordImage a ha) 248 = .ok (wordPackets a) := by
  have packets : packetsOf 248 0 [⟨a, [0x1234], ha, by decide⟩] = wordPackets a := by
    simp [packetsOf, count, chunk, wordPackets]
  rw [preparePackets_eq (by decide) (by decide), merge_wordImage, packets]
  rfl

def wordPrepared (a : Nat) (ha : a ≤ 0xFFFFFFFF) : PreparedFlashImage :=
  ⟨wordImage a ha, ⟨0x082400, 8, crc32Words (padded [0x1234]), max 0 (a + 8)⟩, 2⟩

theorem identity_wordImage :
    imageIdentity (wordImage a ha) 248 = .ok (wordPrepared a ha).identity := by
  simp only [imageIdentity, programmedImageSizeAndEnd, calculateProgrammedImageCrc32,
    packets_wordImage]
  rfl

end

theorem prepare_wordImage {a : Nat} (ha : a ≤ 0xFFFFFFFF)
    (blocks : checkBlocks Cpu1.flash Cpu1.metadata (wordImage a ha).blocks = .ok ())
    (mask : imageSectorMask (wordImage a ha) = 2) :
    prepareFlashAppImage Cpu1.memoryMap (wordImage a ha) = .ok (wordPrepared a ha) := by
  have entry : insideAny (wordImage a ha).entryPoint ((wordImage a ha).entryPoint + 1)
      Cpu1.flash.appRanges = true := by
    show insideAny 0x082400 (0x082400 + 1) Cpu1.flash.appRanges = true
    decide
  have unit : (wordImage a ha).entryPoint % 8 = 0 := by
    show 0x082400 % 8 = 0
    decide
  have sectors : 2 ≠ 0 ∧ 2 &&& Cpu1.flash.forbiddenEraseMask = 0 ∧
      andNot 2 Cpu1.flash.allowedEraseMask = 0 := by
    decide
  obtain ⟨some, boot, allowed⟩ := sectors
  simp only [prepareFlashAppImage, Cpu1.memoryMap, blocks, mask, identity_wordImage]
  rw [if_neg (not_not_intro entry), if_neg (not_not_intro unit), if_neg some, if_neg (not_not_intro boot),
    if_neg (not_not_intro allowed)]
  rfl

theorem runs_wordImage {a : Nat} (ha : a ≤ 0xFFFFFFFF) {start stop : Nat}
    (run : MaximalRun (wordImage a ha).Covers start stop) : start = a ∧ stop = a + 1 := by
  obtain ⟨block, hb, range⟩ := (mergeContiguous_runs _ start stop).2 run
  rw [merge_wordImage, List.mem_singleton] at hb
  rw [hb] at range
  exact ⟨(congrArg Prod.fst range).symm, (congrArg Prod.snd range).symm⟩

theorem packets_admissible_aligned :
    PacketsAdmissible (wordPrepared 0x082400 (by decide)).sectorMask (wordPackets 0x082400) := by
  apply (packets_admissible (prepare_wordImage _ (by rfl) (by decide)) (by decide) (by decide)
    (packets_wordImage _)).2
  intro start stop run
  obtain ⟨rfl, rfl⟩ := runs_wordImage _ run
  refine ⟨by decide, ?_⟩
  intro s _ behind before
  omega

/-- A block that starts inside a unit is prepared, but its packet is not admissible. -/
theorem packets_admissible_unaligned :
    prepareFlashAppImage Cpu1.memoryMap (wordImage 0x082401 (by decide)) =
        .ok (wordPrepared 0x082401 (by decide)) ∧
      preparePackets (wordImage 0x082401 (by decide)) 248 = .ok (wordPackets 0x082401) ∧
      ¬ PacketsAdmissible (wordPrepared 0x082401 (by decide)).sectorMask (wordPackets 0x082401) := by
  refine ⟨prepare_wordImage _ (by rfl) (by decide), packets_wordImage _, ?_⟩
  intro admissible
  have checked := admissible.checked _ List.mem_cons_self .zero
  exact absurd checked (by decide)

end BootUpgrade.HostWorkflow

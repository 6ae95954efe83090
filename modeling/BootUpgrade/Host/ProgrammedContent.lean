import BootUpgrade.F28377D.FlashArray
import BootUpgrade.Host.PacketList
import Mathlib.Algebra.GroupWithZero.Nat

/-!
# The content that is programmed does not depend on the size of the packets

An image is cut into packets with one size to compute the identity that the
journal records and with another size to program it. The packets differ, but
their words in order, the CRC, the size and the end do not, and written in order
onto erased Flash they leave exactly the image. Only the limit on the number of
packets shows the size.
-/

namespace BootUpgrade

namespace HostWorkflow

open Chunks

/-! ## The number of packets -/

/-- The number of packets that `_prepare_packets` cuts an image into. -/
def packetCount (m : Nat) (image : FirmwareImage) : Nat :=
  ((mergeContiguous image.blocks).map fun block => count m block.words).sum

theorem length_packetsOf (m index : Nat) (blocks : List FirmwareBlock) :
    (packetsOf m index blocks).length = (blocks.map fun block => count m block.words).sum := by
  induction blocks generalizing index with
  | nil => rfl
  | cons block rest ih =>
    rw [packetsOf, List.length_append, List.length_map, List.length_range, ih, List.map_cons,
      List.sum_cons]

/-! ## Words on the Flash -/

/-- The packet programmed at its address. -/
def writePacket (flash : Memory.Words) (packet : DataPacket) : Memory.Words :=
  FlashArray.programWords flash packet.address packet.words

/-- The packets programmed in order. -/
def writePackets (flash : Memory.Words) (packets : List DataPacket) : Memory.Words :=
  packets.foldl writePacket flash

/-- Flash that has been erased. -/
def erasedFlash : Memory.Words := fun _ => BootMetadata.erasedWord

/-- The packet has the word `w` at address `a`. -/
def DataPacket.Has (packet : DataPacket) (a : Nat) (w : UInt16) : Prop :=
  packet.address ≤ a ∧ packet.words[a - packet.address]? = some w

theorem erased_and (w : UInt16) : BootMetadata.erasedWord &&& w = w := UInt16.neg_one_and

theorem and_erased (w : UInt16) : w &&& BootMetadata.erasedWord = w := UInt16.and_neg_one

section
variable {flash : Memory.Words} {packet : DataPacket} {packets : List DataPacket} {a : Nat}
  {w : UInt16}

theorem writePackets_cons :
    writePackets flash (packet :: packets) = writePackets (writePacket flash packet) packets := rfl

theorem writePacket_outside (outside : ∀ w, ¬ packet.Has a w) :
    writePacket flash packet a = flash a := by
  apply FlashArray.programWords_outside
  by_cases le : packet.address ≤ a
  · by_cases lt : a < packet.address + packet.words.length
    · have bound : a - packet.address < packet.words.length := by omega
      exact absurd ⟨le, List.getElem?_eq_getElem bound⟩ (outside _)
    · exact .inr (Nat.not_lt.1 lt)
  · exact .inl (Nat.not_le.1 le)

theorem writePacket_inside (has : packet.Has a w) :
    writePacket flash packet a = flash a &&& w := by
  obtain ⟨le, found⟩ := has
  obtain ⟨bound, -⟩ := List.getElem?_eq_some_iff.1 found
  rw [writePacket, FlashArray.programWords_inside le (by omega), List.getD_eq_getElem?_getD, found]
  rfl

/-- A packet that has nothing but the erased word at an address leaves it. -/
theorem writePacket_pad (pad : ∀ v, packet.Has a v → v = BootMetadata.erasedWord) :
    writePacket flash packet a = flash a := by
  by_cases has : ∃ v, packet.Has a v
  · obtain ⟨v, has⟩ := has
    rw [writePacket_inside has, pad v has, and_erased]
  · exact writePacket_outside fun v hv => has ⟨v, hv⟩

/-- Packets that all have the erased word at an address leave it. -/
theorem writePackets_pad
    (pad : ∀ packet ∈ packets, ∀ v, packet.Has a v → v = BootMetadata.erasedWord) :
    writePackets flash packets a = flash a := by
  induction packets generalizing flash with
  | nil => rfl
  | cons packet rest ih =>
    obtain ⟨first, later⟩ := List.forall_mem_cons.1 pad
    rw [writePackets_cons, ih later, writePacket_pad first]

/-- Packets that have `w` or the erased word at an address do not change `w`. -/
theorem writePackets_keeps (written : flash a = w)
    (agree : ∀ packet ∈ packets, ∀ v, packet.Has a v → v = w ∨ v = BootMetadata.erasedWord) :
    writePackets flash packets a = w := by
  induction packets generalizing flash with
  | nil => exact written
  | cons packet rest ih =>
    obtain ⟨first, later⟩ := List.forall_mem_cons.1 agree
    rw [writePackets_cons]
    apply ih _ later
    by_cases has : packet.Has a w
    · rw [writePacket_inside has, written, UInt16.and_self]
    · rw [writePacket_pad, written]
      intro v hv
      rcases first v hv with rfl | pad
      · exact absurd hv has
      · exact pad

/-- Packets that have `w` or the erased word at an address, one of them `w`, write `w`. -/
theorem writePackets_writes (blank : flash a = BootMetadata.erasedWord)
    (agree : ∀ packet ∈ packets, ∀ v, packet.Has a v → v = w ∨ v = BootMetadata.erasedWord)
    (some : ∃ packet ∈ packets, packet.Has a w) : writePackets flash packets a = w := by
  induction packets generalizing flash with
  | nil =>
    obtain ⟨_, mem, -⟩ := some
    cases mem
  | cons packet rest ih =>
    obtain ⟨first, later⟩ := List.forall_mem_cons.1 agree
    rw [writePackets_cons]
    by_cases has : packet.Has a w
    · have written : writePacket flash packet a = w := by
        rw [writePacket_inside has, blank, erased_and]
      exact writePackets_keeps written later
    · apply ih _ later
      · obtain ⟨other, mem, found⟩ := some
        rcases List.mem_cons.1 mem with rfl | mem
        · exact absurd found has
        · exact ⟨other, mem, found⟩
      · rw [writePacket_pad, blank]
        intro v hv
        rcases first v hv with rfl | pad
        · exact absurd hv has
        · exact pad

end

/-! ## The words of a packet -/

/-- A packet has the words of its block and behind them the pad word. -/
theorem packet_has {m k : Nat} {block : FirmwareBlock} {index a : Nat} {w : UInt16}
    (units : m % 8 = 0)
    (has : DataPacket.Has ⟨block.address + m * k, padded (chunk m block.words k), index⟩ a w) :
    w = (block.wordAt a).getD BootMetadata.erasedWord := by
  obtain ⟨le, found⟩ := has
  dsimp only at le found
  obtain ⟨bound, -⟩ := List.getElem?_eq_some_iff.1 found
  rw [length_padded, length_chunk] at bound
  have inside : block.wordAt a = block.words[m * k + (a - (block.address + m * k))]? := by
    rw [FirmwareBlock.wordAt, if_pos (by omega)]
    congr 1
    omega
  rw [inside]
  by_cases data : a - (block.address + m * k) < (chunk m block.words k).length
  · rw [padded, List.getElem?_append_left data, chunk, List.getElem?_take, List.getElem?_drop] at found
    split at found
    · rw [found]
      rfl
    · cases found
  · rw [padded, List.getElem?_append_right (Nat.not_lt.1 data)] at found
    rw [List.getElem?_replicate] at found
    rw [length_chunk] at data
    split at found
    · obtain rfl := Option.some.inj found
      rw [List.getElem?_eq_none (by omega)]
      rfl
    · cases found

/-- The packet that a word of a block goes into. -/
theorem packet_of_word {m : Nat} (positive : 0 < m) {block : FirmwareBlock} {index a : Nat}
    {w : UInt16} (word : block.wordAt a = some w) :
    (a - block.address) / m < count m block.words ∧
      DataPacket.Has ⟨block.address + m * ((a - block.address) / m),
        padded (chunk m block.words ((a - block.address) / m)), index⟩ a w := by
  have le : block.address ≤ a := (FirmwareBlock.wordAt_some.1 ⟨w, word⟩).1
  rw [FirmwareBlock.wordAt, if_pos le] at word
  obtain ⟨bound, -⟩ := List.getElem?_eq_some_iff.1 word
  generalize hi : a - block.address = i at word bound ⊢
  have split : m * (i / m) + i % m = i := Nat.div_add_mod i m
  have small : i % m < m := Nat.mod_lt i positive
  constructor
  · rw [lt_count positive]
    omega
  · constructor
    · show block.address + m * (i / m) ≤ a
      omega
    · show (padded (chunk m block.words (i / m)))[a - (block.address + m * (i / m))]? = some w
      have place : a - (block.address + m * (i / m)) = i % m := by omega
      have data : i % m < (chunk m block.words (i / m)).length := by
        rw [length_chunk]
        omega
      rw [place, padded, List.getElem?_append_left data, chunk, List.getElem?_take, if_pos small,
        List.getElem?_drop, split, word]

/-! ## The size and the end -/

theorem totalWords_eq (packets : List DataPacket) :
    totalWords packets = (packets.flatMap (·.words)).length := by
  have from_start : ∀ start, packets.foldl (fun total packet => total + packet.words.length) start =
      start + (packets.flatMap (·.words)).length := by
    induction packets with
    | nil =>
      intro start
      rfl
    | cons packet rest ih =>
      intro start
      rw [List.foldl_cons, ih, List.flatMap_cons, List.length_append]
      omega
  rw [totalWords, from_start, Nat.zero_add]

theorem packetsEnd_le {packets : List DataPacket} {n : Nat} :
    packetsEnd packets ≤ n ↔ ∀ packet ∈ packets, packet.address + packet.words.length ≤ n := by
  have from_start : ∀ start,
      (packets.map fun packet => packet.address + packet.words.length).foldl max start ≤ n ↔
        start ≤ n ∧ ∀ packet ∈ packets, packet.address + packet.words.length ≤ n := by
    induction packets with
    | nil => simp
    | cons packet rest ih =>
      intro start
      rw [List.map_cons, List.foldl_cons, ih, Nat.max_le, List.forall_mem_cons, and_assoc]
  rw [packetsEnd, from_start]
  simp

/-- The packets end where the last padded block ends. -/
theorem packetsEnd_packetsOf {m : Nat} (positive : 0 < m) (units : m % 8 = 0) {index n : Nat}
    {blocks : List FirmwareBlock} : packetsEnd (packetsOf m index blocks) ≤ n ↔
      ∀ block ∈ blocks, block.address + (padded block.words).length ≤ n := by
  rw [packetsEnd_le]
  constructor
  · intro bound block hb
    -- the last packet of the block ends where the padded block does
    have some := List.length_pos_iff.2 block.words_ne
    have split : m * ((block.words.length - 1) / m) + (block.words.length - 1) % m =
      block.words.length - 1 := Nat.div_add_mod _ m
    have small : (block.words.length - 1) % m < m := Nat.mod_lt _ positive
    have last : (block.words.length - 1) / m < count m block.words := by
      rw [lt_count positive]
      omega
    obtain ⟨packet, mem, address, words⟩ := mem_packetsOf.2 ⟨block, hb, _, last, rfl, rfl⟩
    have := bound packet mem
    rw [address, words, length_padded, length_chunk] at this
    rw [length_padded]
    have aligned : m * ((block.words.length - 1) / m) % 8 = 0 := by
      rw [Nat.mul_mod, units, Nat.zero_mul]
    omega
  · intro bound packet mem
    obtain ⟨block, hb, k, hk, address, words⟩ := mem_packetsOf.1 ⟨packet, mem, rfl, rfl⟩
    have := bound block hb
    have inside := (lt_count positive).1 hk
    have aligned : m * k % 8 = 0 := by
      rw [Nat.mul_mod, units, Nat.zero_mul]
    rw [length_padded] at this
    rw [address, words, length_padded, length_chunk]
    omega

theorem packetsOf_ne {m : Nat} (positive : 0 < m) {index : Nat} {blocks : List FirmwareBlock}
    (some : blocks ≠ []) : packetsOf m index blocks ≠ [] := by
  cases blocks with
  | nil => exact absurd rfl some
  | cons block rest =>
    have first : 0 < count m block.words := by
      rw [lt_count positive]
      exact List.length_pos_iff.2 block.words_ne
    intro none
    have lengths := congrArg List.length none
    rw [length_packetsOf, List.map_cons, List.sum_cons, List.length_nil] at lengths
    omega

theorem mergeContiguous_ne (image : FirmwareImage) : mergeContiguous image.blocks ≠ [] := by
  intro none
  obtain ⟨block, hb⟩ := List.exists_mem_of_ne_nil _ image.blocks_ne
  have covered : image.Covers block.address :=
    ⟨block.range, List.mem_map_of_mem hb, Nat.le_refl _, block.address_lt_end⟩
  obtain ⟨_, mem, -⟩ := (covered_mergeContiguous image block.address).2 covered
  rw [none] at mem
  cases mem

/-! ## What is programmed -/

/-- The packets write the image and nothing else, in pieces of whole units. -/
structure WritesImage (image : FirmwareImage) (m : Nat) (packets : List DataPacket) : Prop where
  word : ∀ a w, HasWord image.blocks a w → writePackets erasedFlash packets a = w
  pad : ∀ a, ¬ image.Covers a → writePackets erasedFlash packets a = BootMetadata.erasedWord
  lengths : ∀ packet ∈ packets,
    packet.words.length % 8 = 0 ∧ 0 < packet.words.length ∧ packet.words.length ≤ m

/-- What is computed from the packets of two sizes. -/
structure SameContent (image : FirmwareImage) (m m' : Nat) : Prop where
  words : (preparePackets image m).map (fun packets => packets.flatMap (·.words)) =
    (preparePackets image m').map fun packets => packets.flatMap (·.words)
  crc32 : calculateProgrammedImageCrc32 image m = calculateProgrammedImageCrc32 image m'
  sizeAndEnd : programmedImageSizeAndEnd image m = programmedImageSizeAndEnd image m'

/-- With packets of this size there are too many. -/
structure TooMany (image : FirmwareImage) (m : Nat) : Prop where
  packets : preparePackets image m =
    .error (.workflowError "firmware requires more than 65535 protocol packets")
  crc32 : calculateProgrammedImageCrc32 image m =
    .error (.workflowError "firmware requires more than 65535 protocol packets")
  sizeAndEnd : programmedImageSizeAndEnd image m =
    .error (.workflowError "firmware requires more than 65535 protocol packets")

section
variable {m : Nat} (positive : 0 < m) (units : m % 8 = 0) (image : FirmwareImage)
include positive units

theorem writesImage_packetsOf :
    WritesImage image m (packetsOf m 0 (mergeContiguous image.blocks)) where
  word a w hw := by
    have agree : ∀ packet ∈ packetsOf m 0 (mergeContiguous image.blocks),
        ∀ v, packet.Has a v → v = w ∨ v = BootMetadata.erasedWord := by
      intro packet mem v has
      obtain ⟨block, hb, k, -, address, words⟩ := mem_packetsOf.1 ⟨packet, mem, rfl, rfl⟩
      obtain ⟨_, _, index⟩ := packet
      dsimp only at address words
      subst address words
      have value := packet_has units has
      cases word : block.wordAt a with
      | none =>
        rw [word] at value
        exact .inr value
      | some u =>
        rw [word] at value
        have hu := (hasWord_mergeContiguous image a u).1 ⟨block, hb, word⟩
        exact .inl (value.trans (image.hasWord_unique hu hw))
    apply writePackets_writes rfl agree
    obtain ⟨block, hb, word⟩ := (hasWord_mergeContiguous image a w).2 hw
    obtain ⟨lt, le, found⟩ := (@packet_of_word _ positive _ 0) word
    obtain ⟨packet, mem, address, words⟩ := mem_packetsOf.2 ⟨block, hb, _, lt, rfl, rfl⟩
    refine ⟨packet, mem, ?_⟩
    rw [DataPacket.Has, address, words]
    exact ⟨le, found⟩
  pad a outside := by
    have agree : ∀ packet ∈ packetsOf m 0 (mergeContiguous image.blocks),
        ∀ v, packet.Has a v → v = BootMetadata.erasedWord := by
      intro packet mem v has
      obtain ⟨block, hb, k, -, address, words⟩ := mem_packetsOf.1 ⟨packet, mem, rfl, rfl⟩
      obtain ⟨_, _, index⟩ := packet
      dsimp only at address words
      subst address words
      have value := packet_has units has
      cases word : block.wordAt a with
      | none =>
        rw [word] at value
        exact value
      | some u =>
        have hu := (hasWord_mergeContiguous image a u).1 ⟨block, hb, word⟩
        exact absurd (covered_iff.2 ⟨u, hu⟩) outside
    exact writePackets_pad agree
  lengths packet mem := by
    obtain ⟨block, hb, k, hk, address, words⟩ := mem_packetsOf.1 ⟨packet, mem, rfl, rfl⟩
    have inside := (lt_count positive).1 hk
    rw [words, length_padded, length_chunk]
    omega

theorem preparePackets_many (many : 0xFFFF < packetCount m image) :
    preparePackets image m =
      .error (.workflowError "firmware requires more than 65535 protocol packets") := by
  rw [preparePackets_eq positive units, if_pos]
  rw [length_packetsOf]
  exact many

theorem preparePackets_few (few : packetCount m image ≤ 0xFFFF) :
    preparePackets image m = .ok (packetsOf m 0 (mergeContiguous image.blocks)) := by
  rw [preparePackets_eq positive units, if_neg]
  rw [length_packetsOf]
  exact Nat.not_lt.2 few

theorem calculateProgrammedImageCrc32_few (few : packetCount m image ≤ 0xFFFF) :
    calculateProgrammedImageCrc32 image m =
      .ok (crc32Words ((mergeContiguous image.blocks).flatMap fun block => padded block.words)) := by
  rw [calculateProgrammedImageCrc32, preparePackets_few positive units image few]
  show Except.ok _ = _
  rw [words_packetsOf positive units]

theorem programmedImageSizeAndEnd_few (few : packetCount m image ≤ 0xFFFF) :
    programmedImageSizeAndEnd image m =
      .ok (((mergeContiguous image.blocks).flatMap fun block => padded block.words).length,
        packetsEnd (packetsOf m 0 (mergeContiguous image.blocks))) := by
  rw [programmedImageSizeAndEnd, preparePackets_few positive units image few]
  show (if _ then _ else _) = _
  rw [if_neg (packetsOf_ne positive (mergeContiguous_ne image)), totalWords_eq,
    words_packetsOf positive units]

end

theorem sameContent {m m' : Nat} (positive : 0 < m) (units : m % 8 = 0) (positive' : 0 < m')
    (units' : m' % 8 = 0) (image : FirmwareImage) (few : packetCount m image ≤ 0xFFFF)
    (few' : packetCount m' image ≤ 0xFFFF) : SameContent image m m' where
  words := by
    rw [preparePackets_few positive units image few, preparePackets_few positive' units' image few']
    simp only [Except.map, words_packetsOf positive units, words_packetsOf positive' units']
  crc32 := by
    rw [calculateProgrammedImageCrc32_few positive units image few,
      calculateProgrammedImageCrc32_few positive' units' image few']
  sizeAndEnd := by
    have same : packetsEnd (packetsOf m 0 (mergeContiguous image.blocks)) =
        packetsEnd (packetsOf m' 0 (mergeContiguous image.blocks)) := by
      have ends := (packetsEnd_packetsOf positive units).1
        (Nat.le_refl (packetsEnd (packetsOf m 0 (mergeContiguous image.blocks))))
      have ends' := (packetsEnd_packetsOf positive' units').1
        (Nat.le_refl (packetsEnd (packetsOf m' 0 (mergeContiguous image.blocks))))
      apply Nat.le_antisymm
      · exact (packetsEnd_packetsOf positive units).2 ends'
      · exact (packetsEnd_packetsOf positive' units').2 ends
    rw [programmedImageSizeAndEnd_few positive units image few,
      programmedImageSizeAndEnd_few positive' units' image few', same]

theorem tooMany {m : Nat} (positive : 0 < m) (units : m % 8 = 0) (image : FirmwareImage)
    (many : 0xFFFF < packetCount m image) : TooMany image m where
  packets := preparePackets_many positive units image many
  crc32 := by
    rw [calculateProgrammedImageCrc32, preparePackets_many positive units image many]
    rfl
  sizeAndEnd := by
    rw [programmedImageSizeAndEnd, preparePackets_many positive units image many]
    rfl

/-- Up to the limit on packets the size of the packets does not show in what is programmed. -/
theorem programmed_content (image : FirmwareImage) {m m' : Nat} (positive : 0 < m)
    (units : m % 8 = 0) (positive' : 0 < m') (units' : m' % 8 = 0) :
    (packetCount m image ≤ 0xFFFF → packetCount m' image ≤ 0xFFFF → SameContent image m m') ∧
    (packetCount m image ≤ 0xFFFF → ∃ packets,
      preparePackets image m = .ok packets ∧ WritesImage image m packets) ∧
    (0xFFFF < packetCount m image → TooMany image m) := by
  refine ⟨?_, ?_, ?_⟩
  · intro few few'
    exact sameContent positive units positive' units' image few few'
  · intro few
    exact ⟨_, preparePackets_few positive units image few,
      writesImage_packetsOf positive units image⟩
  · intro many
    exact tooMany positive units image many

/-! ## Where the size shows -/

/-- An image of one block. -/
def singleBlock (address : Nat) (words : List UInt16) (address_le : address ≤ 0xFFFFFFFF)
    (words_ne : words ≠ []) : FirmwareImage where
  entryPoint := address
  blocks := [⟨address, words, address_le, words_ne⟩]
  entryPoint_le := address_le
  blocks_ne := List.cons_ne_nil _ _
  apart := blocksOverlap_of_pairwise (List.pairwise_singleton ..)

theorem packetCount_singleBlock {m address : Nat} {words : List UInt16}
    (address_le : address ≤ 0xFFFFFFFF) (words_ne : words ≠ []) :
    packetCount m (singleBlock address words address_le words_ne) = count m words := by
  simp [packetCount, singleBlock, mergeContiguous, sortedBlocks, mergeFrom]

theorem replicate_ne {n : Nat} (w : UInt16) (some : 0 < n) : List.replicate n w ≠ [] := by
  apply List.ne_nil_of_length_pos
  rw [List.length_replicate]
  exact some

theorem appStart_le : 0x082400 ≤ 0xFFFFFFFF := by decide

theorem longWords_ne : List.replicate 524281 (0 : UInt16) ≠ [] := replicate_ne 0 (by decide)

/-- A block of 524281 zeros, one word more than 65535 packets of eight words hold. -/
def longImage : FirmwareImage :=
  singleBlock 0x082400 (List.replicate 524281 0) appStart_le longWords_ne

theorem packetCount_longImage (m : Nat) : packetCount m longImage = (524281 + m - 1) / m := by
  rw [longImage, packetCount_singleBlock, count, List.length_replicate]

theorem behind_le : 0x082404 ≤ 0xFFFFFFFF := by decide

theorem firstWord_ne : [(0x1111 : UInt16)] ≠ [] := List.cons_ne_nil _ _

theorem behindWord_ne : [(0x2222 : UInt16)] ≠ [] := List.cons_ne_nil _ _

/-- Two blocks in one unit of eight words. -/
def closeBlocks : List FirmwareBlock :=
  [⟨0x082400, [0x1111], appStart_le, firstWord_ne⟩, ⟨0x082404, [0x2222], behind_le, behindWord_ne⟩]

theorem closeBlocks_sorted :
    closeBlocks.Pairwise fun left right => left.endExclusive ≤ right.address := by decide

def closeImage : FirmwareImage where
  entryPoint := 0x082400
  blocks := closeBlocks
  entryPoint_le := appStart_le
  blocks_ne := List.cons_ne_nil _ _
  apart := blocksOverlap_of_pairwise closeBlocks_sorted

theorem mergeContiguous_closeImage : mergeContiguous closeImage.blocks = closeBlocks := by
  have sorted : sortedBlocks closeImage.blocks = closeBlocks :=
    sortedBlocks_of_pairwise closeBlocks_sorted
  rw [mergeContiguous, sorted]
  rfl

/-- The long image can be cut into packets of 16 words and not into packets of 8, and
in the close image the first packet pads the address that the second one writes. -/
theorem content_shows_size :
    preparePackets longImage 8 =
      .error (.workflowError "firmware requires more than 65535 protocol packets") ∧
    (∃ packets, preparePackets longImage 16 = .ok packets) ∧
    ∃ first second, preparePackets closeImage 8 = .ok [first, second] ∧
      first.Has 0x082404 BootMetadata.erasedWord ∧
      writePackets erasedFlash [first, second] 0x082404 = 0x2222 := by
  have many : 0xFFFF < packetCount 8 longImage := by
    rw [packetCount_longImage]
    decide
  have few : packetCount 16 longImage ≤ 0xFFFF := by
    rw [packetCount_longImage]
    decide
  refine ⟨preparePackets_many (by decide) (by decide) longImage many,
    ⟨_, preparePackets_few (by decide) (by decide) longImage few⟩,
    ⟨0x082400, 0x1111 :: List.replicate 7 0xFFFF, 0⟩,
    ⟨0x082404, 0x2222 :: List.replicate 7 0xFFFF, 1⟩, ?_, ⟨by decide, rfl⟩, by decide⟩
  rw [preparePackets_eq (by decide) (by decide), mergeContiguous_closeImage]
  rfl

/-- The two sizes of the close image. -/
theorem programmed_content_close : SameContent closeImage 8 16 := by
  have few : packetCount 8 closeImage ≤ 0xFFFF := by
    rw [packetCount, mergeContiguous_closeImage]
    decide
  have few' : packetCount 16 closeImage ≤ 0xFFFF := by
    rw [packetCount, mergeContiguous_closeImage]
    decide
  exact (programmed_content closeImage (by decide) (by decide) (by decide) (by decide)).1 few few'

end HostWorkflow

end BootUpgrade

import BootUpgrade.Host.ServiceRuntime
import BootUpgrade.Host.ServiceImage
import BootUpgrade.Host.ProgrammedContent

/-!
# What `_prepare_ram_packets` produces

The packets of a RAM image carry the words of its blocks, each at its address,
and nothing else: nothing is padded. They are numbered from zero, none is empty
and none is longer than `max_data_words`. `prepare_service_ram_packets` does the
same with blocks that it has not merged.
-/

namespace BootUpgrade.HostWorkflow

/-- The packets number on from `index`, none of them empty or longer than `m`. -/
structure Numbered (m index : Nat) (packets : List DataPacket) : Prop where
  indices : packets.map (·.index) = List.range' index packets.length
  nonempty : ∀ packet ∈ packets, packet.words ≠ []
  fits : ∀ packet ∈ packets, packet.words.length ≤ m

theorem Numbered.append {m index : Nat} {packets others : List DataPacket}
    (first : Numbered m index packets) (second : Numbered m (index + packets.length) others) :
    Numbered m index (packets ++ others) := by
  constructor
  · rw [List.map_append, first.indices, second.indices, List.length_append,
      List.range'_append_1]
  · intro packet mem
    rcases List.mem_append.1 mem with mem | mem
    · exact first.nonempty packet mem
    · exact second.nonempty packet mem
  · intro packet mem
    rcases List.mem_append.1 mem with mem | mem
    · exact first.fits packet mem
    · exact second.fits packet mem

theorem numbered_nil (m index : Nat) : Numbered m index [] := by
  constructor <;> simp

theorem numbered_cons {m index address : Nat} {words : List UInt16} {rest : List DataPacket}
    (some : words ≠ []) (fits : words.length ≤ m) (numbered : Numbered m (index + 1) rest) :
    Numbered m index (⟨address, words, index⟩ :: rest) := by
  have single : Numbered m index [⟨address, words, index⟩] := by
    constructor <;> simp [some, fits]
  exact single.append numbered

/-- No packet is empty, so there are no more packets than words. -/
theorem Numbered.length_le {m index : Nat} {packets : List DataPacket}
    (numbered : Numbered m index packets) : packets.length ≤ (packets.flatMap (·.words)).length := by
  have some := numbered.nonempty
  clear numbered
  induction packets with
  | nil => exact Nat.le_refl 0
  | cons packet rest ih =>
    obtain ⟨first, others⟩ := List.forall_mem_cons.1 some
    have := List.length_pos_iff.2 first
    have := ih others
    rw [List.flatMap_cons, List.length_append, List.length_cons]
    omega

/-! ## One block -/

theorem numbered_ramBlockPackets (m address index : Nat) (words : List UInt16) :
    Numbered m index (ramBlockPackets m address index words) := by
  fun_induction ramBlockPackets m address index words with
  | case1 => exact numbered_nil m _
  | case2 address index words more ih =>
    have some : words.take m ≠ [] := by
      rw [not_or] at more
      simpa [List.take_eq_nil_iff, Nat.pos_iff_ne_zero] using ⟨more.2, more.1⟩
    exact numbered_cons some (List.length_take_le m words) ih

section
variable {m : Nat} (positive : 0 < m)
include positive

theorem words_ramBlockPackets (address index : Nat) (words : List UInt16) :
    (ramBlockPackets m address index words).flatMap (·.words) = words := by
  fun_induction ramBlockPackets m address index words with
  | case1 address index words done =>
    rcases done with rfl | zero
    · rfl
    · omega
  | case2 address index words more ih =>
    rw [List.flatMap_cons, ih]
    exact List.take_append_drop m words

/-- A packet of the block has the words of the block at its addresses. -/
theorem has_ramBlockPackets (address index : Nat) (words : List UInt16) {a : Nat} {w : UInt16} :
    (∃ packet ∈ ramBlockPackets m address index words, packet.Has a w) ↔
      address ≤ a ∧ words[a - address]? = some w := by
  fun_induction ramBlockPackets m address index words with
  | case1 address index words done =>
    rcases done with rfl | zero
    · simp
    · omega
  | case2 address index words more ih =>
    have taken : (words.take m).length = min m words.length := List.length_take
    simp only [List.mem_cons, exists_eq_or_imp, ih]
    simp only [DataPacket.Has, List.getElem?_take, List.getElem?_drop]
    constructor
    · rintro (⟨le, found⟩ | ⟨le, found⟩)
      · split at found
        · exact ⟨le, found⟩
        · cases found
      · obtain ⟨bound, -⟩ := List.getElem?_eq_some_iff.1 found
        refine ⟨by omega, ?_⟩
        rw [← found]
        congr 1
        omega
    · rintro ⟨le, found⟩
      obtain ⟨bound, -⟩ := List.getElem?_eq_some_iff.1 found
      by_cases first : a - address < m
      · rw [if_pos first]
        exact .inl ⟨le, found⟩
      · refine .inr ⟨by omega, ?_⟩
        rw [← found]
        congr 1
        omega

/-! ## All blocks -/

omit positive in
theorem numbered_ramImagePackets (m index : Nat) (blocks : List FirmwareBlock) :
    Numbered m index (ramImagePackets m index blocks) := by
  induction blocks generalizing index with
  | nil => exact numbered_nil m index
  | cons block rest ih =>
    exact (numbered_ramBlockPackets m block.address index block.words).append (ih _)

theorem words_ramImagePackets (index : Nat) (blocks : List FirmwareBlock) :
    (ramImagePackets m index blocks).flatMap (·.words) = blocks.flatMap (·.words) := by
  induction blocks generalizing index with
  | nil => rfl
  | cons block rest ih =>
    rw [ramImagePackets, List.flatMap_append, ih, words_ramBlockPackets positive, List.flatMap_cons]

theorem has_ramImagePackets (index : Nat) (blocks : List FirmwareBlock) {a : Nat} {w : UInt16} :
    (∃ packet ∈ ramImagePackets m index blocks, packet.Has a w) ↔ HasWord blocks a w := by
  induction blocks generalizing index with
  | nil =>
    constructor
    · rintro ⟨_, mem, -⟩
      cases mem
    · rintro ⟨_, mem, -⟩
      cases mem
  | cons block rest ih =>
    have word : block.wordAt a = some w ↔
        block.address ≤ a ∧ block.words[a - block.address]? = some w := by
      unfold FirmwareBlock.wordAt
      by_cases le : block.address ≤ a
      · simp [le]
      · simp [le]
    rw [hasWord_cons, word, ← has_ramBlockPackets positive block.address index,
      ← ih (index + (ramBlockPackets m block.address index block.words).length)]
    simp only [ramImagePackets, List.mem_append, or_and_right, exists_or]

end

/-! ## Merged blocks -/

theorem words_mergeFrom (rest : List FirmwareBlock) (current : FirmwareBlock) :
    (mergeFrom current rest).flatMap (·.words) = current.words ++ rest.flatMap (·.words) := by
  induction rest generalizing current with
  | nil => rfl
  | cons block rest ih =>
    unfold mergeFrom
    by_cases touch : current.endExclusive = block.address
    · rw [if_pos touch, ih, List.flatMap_cons]
      exact List.append_assoc _ _ _
    · rw [if_neg touch, List.flatMap_cons, ih, List.flatMap_cons]

/-- Merging keeps the words in the order of their addresses. -/
theorem words_mergeContiguous (blocks : List FirmwareBlock) :
    (mergeContiguous blocks).flatMap (·.words) = (sortedBlocks blocks).flatMap (·.words) := by
  unfold mergeContiguous
  cases sorted : sortedBlocks blocks with
  | nil => rfl
  | cons first rest => exact words_mergeFrom rest first

/-- The words of an image, whatever the order of its blocks. -/
theorem length_sortedBlocks (image : FirmwareImage) :
    ((sortedBlocks image.blocks).flatMap (·.words)).length = image.totalWords := by
  have counted : ∀ (blocks : List FirmwareBlock) (start : Nat),
      blocks.foldl (fun total block => total + block.words.length) start =
        start + (blocks.flatMap (·.words)).length := by
    intro blocks
    induction blocks with
    | nil => exact fun start => rfl
    | cons block rest ih =>
      intro start
      rw [List.foldl_cons, ih, List.flatMap_cons, List.length_append]
      omega
  have same : ((sortedBlocks image.blocks).flatMap (·.words)).Perm (image.blocks.flatMap (·.words)) :=
    (List.mergeSort_perm _ _).flatMap_right _
  rw [same.length_eq, FirmwareImage.totalWords, counted, Nat.zero_add]

/-- An image whose blocks lie in these regions has no more words than they have. -/
theorem totalWords_le_room {image : FirmwareImage} {regions : List (Nat × Nat)}
    (inside : ∀ block ∈ image.blocks, ∃ r ∈ regions, r.1 ≤ block.address ∧ block.endExclusive ≤ r.2) :
    image.totalWords ≤ Intervals.room regions 0 := by
  have regions : ∀ i ∈ (sortedBlocks image.blocks).map (·.range),
      ∃ r ∈ regions, r.1 ≤ i.1 ∧ i.2 ≤ r.2 := by
    intro i mem
    obtain ⟨block, hb, rfl⟩ := List.mem_map.1 mem
    exact inside block (mem_sortedBlocks.1 hb)
  have some : ∀ i ∈ (sortedBlocks image.blocks).map (·.range), i.1 ≤ i.2 := by
    intro i mem
    obtain ⟨block, -, rfl⟩ := List.mem_map.1 mem
    exact Nat.le_of_lt block.address_lt_end
  have bound := Intervals.lengths_le_room (List.pairwise_map.2 image.sorted) some regions
    fun _ _ => Nat.zero_le _
  have counted : ∀ blocks : List FirmwareBlock,
      Intervals.lengths (blocks.map (·.range)) = (blocks.flatMap (·.words)).length := by
    intro blocks
    induction blocks with
    | nil => rfl
    | cons block rest ih =>
      rw [List.map_cons, Intervals.lengths, ih, List.flatMap_cons, List.length_append]
      show block.endExclusive - block.address + _ = _
      rw [FirmwareBlock.endExclusive, Nat.add_sub_cancel_left]
  rw [counted, length_sortedBlocks] at bound
  exact bound

/-- What the packets of an image are, when they are not too many. -/
structure CarriesImage (image : FirmwareImage) (m : Nat) (packets : List DataPacket) : Prop
    extends Numbered m 0 packets where
  few : packets.length ≤ 0xFFFF
  words : packets.flatMap (·.words) = (sortedBlocks image.blocks).flatMap (·.words)
  has : ∀ a w, (∃ packet ∈ packets, packet.Has a w) ↔ HasWord image.blocks a w

theorem CarriesImage.totalWords {image : FirmwareImage} {m : Nat} {packets : List DataPacket}
    (carries : CarriesImage image m packets) : totalWords packets = image.totalWords := by
  rw [totalWords_eq, carries.words, length_sortedBlocks]

section
variable {m : Nat} (positive : 0 < m) {image : FirmwareImage}
include positive

theorem prepareRamPackets_ok {packets : List DataPacket}
    (prepared : prepareRamPackets image m = .ok packets) : CarriesImage image m packets := by
  unfold prepareRamPackets at prepared
  dsimp only at prepared
  split at prepared
  · cases prepared
  · rename_i few
    cases prepared
    refine ⟨numbered_ramImagePackets m 0 _, Nat.not_lt.1 few, ?_, ?_⟩
    · rw [words_ramImagePackets positive, words_mergeContiguous]
    · intro a w
      rw [has_ramImagePackets positive, hasWord_mergeContiguous]

/-- An image of no more words than there may be packets has not too many packets. -/
theorem prepareRamPackets_few (few : image.totalWords ≤ 0xFFFF) :
    ∃ packets, prepareRamPackets image m = .ok packets := by
  have numbered := numbered_ramImagePackets m 0 (mergeContiguous image.blocks)
  have length := numbered.length_le
  rw [words_ramImagePackets positive, words_mergeContiguous, length_sortedBlocks] at length
  unfold prepareRamPackets
  exact ⟨_, if_neg (by omega)⟩

/-- The CRC of an image does not depend on the size of its packets. -/
theorem calculateRamImageCrc32_ok {crc32 : UInt32}
    (calculated : calculateRamImageCrc32 image m = .ok crc32) :
    crc32 = crc32Words ((sortedBlocks image.blocks).flatMap (·.words)) := by
  unfold calculateRamImageCrc32 at calculated
  cases prepared : prepareRamPackets image m with
  | error error =>
    rw [prepared] at calculated
    cases calculated
  | ok packets =>
    rw [prepared] at calculated
    rw [← (prepareRamPackets_ok positive prepared).words]
    exact (Except.ok.inj calculated).symm

/-! ## The packets of a service -/

/-- The pieces of a block are those that its `while` loop would cut. -/
theorem serviceBlockPackets_eq (index : Nat) (block : FirmwareBlock) :
    serviceBlockPackets m index block = ramBlockPackets m block.address index block.words := by
  unfold serviceBlockPackets
  generalize block.address = address
  generalize block.words = words
  fun_induction ramBlockPackets m address index words with
  | case1 address index words done =>
    rcases done with rfl | zero
    · rw [Chunks.count_nil positive]
      rfl
    · omega
  | case2 address index words more ih =>
    rw [not_or] at more
    rw [Chunks.map_chunk (fun k chunk => (⟨address + m * k, chunk, index + k⟩ : DataPacket))
      positive more.1, ← ih]
    apply congrArg₂ List.cons rfl
    apply List.map_congr_left
    intro k mem
    -- a piece behind the first has a full one before it
    have later := (Chunks.lt_count positive).1 (List.mem_range.1 mem)
    rw [List.length_drop] at later
    have full : (words.take m).length = m := by
      rw [List.length_take]
      omega
    rw [full, Nat.mul_succ, DataPacket.mk.injEq]
    exact ⟨by omega, rfl, by omega⟩

theorem serviceImagePackets_eq (index : Nat) (blocks : List FirmwareBlock) :
    serviceImagePackets m index blocks = ramImagePackets m index blocks := by
  induction blocks generalizing index with
  | nil => rfl
  | cons block rest ih =>
    rw [serviceImagePackets, ramImagePackets, serviceBlockPackets_eq positive, ih]

theorem prepareServiceRamPackets_ok {packets : List DataPacket}
    (prepared : prepareServiceRamPackets image m = .ok packets) : CarriesImage image m packets := by
  unfold prepareServiceRamPackets at prepared
  rw [if_neg (Nat.ne_of_gt positive), serviceImagePackets_eq positive] at prepared
  dsimp only at prepared
  split at prepared
  · cases prepared
  · rename_i few
    cases prepared
    refine ⟨numbered_ramImagePackets m 0 _, Nat.not_lt.1 few, words_ramImagePackets positive 0 _, ?_⟩
    intro a w
    rw [has_ramImagePackets positive, hasWord_sortedBlocks]

/-- A service of no more words than there may be packets has not too many packets. -/
theorem prepareServiceRamPackets_few (few : image.totalWords ≤ 0xFFFF) :
    ∃ packets, prepareServiceRamPackets image m = .ok packets := by
  have numbered := numbered_ramImagePackets m 0 (sortedBlocks image.blocks)
  have length := numbered.length_le
  rw [words_ramImagePackets positive, length_sortedBlocks] at length
  unfold prepareServiceRamPackets
  rw [if_neg (Nat.ne_of_gt positive), serviceImagePackets_eq positive]
  exact ⟨_, if_neg (by omega)⟩

end

end BootUpgrade.HostWorkflow

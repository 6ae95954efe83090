import BootUpgrade.Host.Packets

/-!
# What `_prepare_packets` produces

Every packet is one piece of a merged block, padded; the packets are numbered
from zero, and their words in order are the padded words of the merged blocks,
whatever the size of the pieces.
-/

namespace BootUpgrade.HostWorkflow

open Chunks

/-! ## Padding -/

theorem length_padded (words : List UInt16) :
    (padded words).length = 8 * ((words.length + 7) / 8) := by
  rw [padded, List.length_append, List.length_replicate, writeDataAlignmentWords]
  omega

theorem padded_of_units {words : List UInt16} (h : words.length % 8 = 0) : padded words = words := by
  rw [padded, writeDataAlignmentWords, h]
  exact List.append_nil words

theorem padded_append {xs ys : List UInt16} (h : xs.length % 8 = 0) :
    padded (xs ++ ys) = xs ++ padded ys := by
  unfold padded writeDataAlignmentWords
  rw [List.length_append, show (xs.length + ys.length) % 8 = ys.length % 8 by omega,
    List.append_assoc]

section
variable {m : Nat} (positive : 0 < m) (units : m % 8 = 0)
include positive units

theorem padWriteData_eq {words : List UInt16} (nonempty : words ≠ []) (fits : words.length ≤ m) :
    padWriteData words m = .ok (padded words) := by
  have length := length_padded words
  have some : padded words ≠ [] := by
    apply List.ne_nil_of_length_pos
    have := List.length_pos_iff.2 nonempty
    omega
  have valid : validateWriteData (padded words) m = .ok () := by
    unfold validateWriteData writeDataAlignmentWords
    rw [if_neg some, if_neg (by omega), if_neg (by omega), if_neg (by omega)]
  rw [padWriteData, if_neg nonempty, valid]

/-! ## The packets of a block -/

theorem blockPackets_eq (address index : Nat) (words : List UInt16) :
    blockPackets m address index words =
      .ok ((List.range (count m words)).map fun k =>
        ⟨address + m * k, padded (chunk m words k), index + k⟩) := by
  generalize hn : words.length = n
  induction n using Nat.strongRecOn generalizing address index words with
  | ind n ih =>
    by_cases empty : words = []
    · rw [empty, blockPackets, if_pos rfl, count_nil positive]
      rfl
    · have some := List.length_pos_iff.2 empty
      have taken : words.take m ≠ [] := by
        apply List.ne_nil_of_length_pos
        rw [List.length_take]
        omega
      have data := padWriteData_eq positive units taken (List.length_take_le ..)
      have drop : words.drop (words.take m).length = words.drop m := by
        rw [List.length_take]
        by_cases long : m ≤ words.length
        · rw [Nat.min_eq_left long]
        · rw [Nat.min_eq_right (by omega), List.drop_length, List.drop_of_length_le (by omega)]
      have rest := ih (words.drop m).length (by rw [List.length_drop]; omega)
        (address + (words.take m).length) (index + 1) (words.drop m) rfl
      rw [blockPackets, if_neg empty]
      split
      · rename_i failed
        rw [data] at failed
        cases failed
      · rename_i words' done
        rw [data] at done
        obtain rfl := Except.ok.inj done
        rw [drop, rest, map_chunk (fun k c => (⟨address + m * k, padded c, index + k⟩ : DataPacket))
          positive empty]
        show Except.ok _ = Except.ok _
        congr 2
        apply List.map_congr_left
        intro k hk
        -- there is a next piece only behind a full one
        have full := (lt_count positive).1 (List.mem_range.1 hk)
        rw [List.length_drop] at full
        rw [List.length_take, Nat.min_eq_left (by omega), Nat.mul_succ]
        congr 1
        · omega
        · omega

/-- The packets of the blocks, numbered from `index` on. -/
def packetsOf (m : Nat) : Nat → List FirmwareBlock → List DataPacket
  | _, [] => []
  | index, block :: rest =>
    ((List.range (count m block.words)).map fun k =>
      ⟨block.address + m * k, padded (chunk m block.words k), index + k⟩) ++
      packetsOf m (index + count m block.words) rest

theorem imagePackets_eq (index : Nat) (blocks : List FirmwareBlock) :
    imagePackets m index blocks = .ok (packetsOf m index blocks) := by
  induction blocks generalizing index with
  | nil => rfl
  | cons block rest ih =>
    rw [imagePackets, blockPackets_eq positive units]
    show (imagePackets m (index + _) rest >>= _) = _
    rw [List.length_map, List.length_range, ih]
    rfl

theorem preparePackets_eq (image : FirmwareImage) :
    preparePackets image m =
      if (packetsOf m 0 (mergeContiguous image.blocks)).length > 0xFFFF then
        .error (.workflowError "firmware requires more than 65535 protocol packets")
      else .ok (packetsOf m 0 (mergeContiguous image.blocks)) := by
  rw [preparePackets, imagePackets_eq positive units]
  rfl

theorem preparePackets_ok {image : FirmwareImage} {packets : List DataPacket}
    (h : preparePackets image m = .ok packets) :
    packets = packetsOf m 0 (mergeContiguous image.blocks) ∧ packets.length ≤ 0xFFFF := by
  rw [preparePackets_eq positive units] at h
  split at h
  · cases h
  · rename_i few
    cases h
    exact ⟨rfl, Nat.not_lt.1 few⟩

end

/-! ## Their places and numbers -/

section
variable {m : Nat} {blocks : List FirmwareBlock}

/-- The packet is piece `k` of one of the blocks. -/
theorem mem_packetsOf {index : Nat} {address : Nat} {words : List UInt16} :
    (∃ packet ∈ packetsOf m index blocks, packet.address = address ∧ packet.words = words) ↔
      ∃ block ∈ blocks, ∃ k < count m block.words,
        address = block.address + m * k ∧ words = padded (chunk m block.words k) := by
  induction blocks generalizing index with
  | nil =>
    constructor
    · rintro ⟨_, h, _⟩
      cases h
    · rintro ⟨_, h, _⟩
      cases h
  | cons block rest ih =>
    rw [packetsOf]
    constructor
    · rintro ⟨packet, mem, rfl, rfl⟩
      rcases List.mem_append.1 mem with mem | mem
      · obtain ⟨k, hk, rfl⟩ := List.mem_map.1 mem
        exact ⟨block, List.mem_cons_self, k, List.mem_range.1 hk, rfl, rfl⟩
      · obtain ⟨other, ho, found⟩ := ih.1 ⟨packet, mem, rfl, rfl⟩
        exact ⟨other, List.mem_cons_of_mem _ ho, found⟩
    · rintro ⟨other, ho, k, hk, rfl, rfl⟩
      rcases List.mem_cons.1 ho with rfl | ho
      · exact ⟨_, List.mem_append_left _ (List.mem_map_of_mem (List.mem_range.2 hk)), rfl, rfl⟩
      · obtain ⟨packet, mem, found⟩ := ih.2 ⟨other, ho, k, hk, rfl, rfl⟩
        exact ⟨packet, List.mem_append_right _ mem, found⟩

theorem index_packetsOf (index : Nat) :
    (packetsOf m index blocks).map (·.index) =
      List.range' index (packetsOf m index blocks).length := by
  induction blocks generalizing index with
  | nil => rfl
  | cons block rest ih =>
    rw [packetsOf, List.map_append, ih, List.map_map, List.length_append, List.length_map,
      List.length_range, List.range'_eq_map_range, List.range'_eq_map_range,
      List.range_add, List.map_append, List.map_map]
    congr 1
    apply List.map_congr_left
    intro k _
    simp only [Function.comp]
    omega

/-- The size of the pieces does not show in the words. -/
theorem words_packetsOf (positive : 0 < m) (units : m % 8 = 0) (index : Nat) :
    (packetsOf m index blocks).flatMap (·.words) = blocks.flatMap fun block => padded block.words := by
  have pieces : ∀ words : List UInt16,
      (List.range (count m words)).flatMap (fun k => padded (chunk m words k)) = padded words := by
    intro words
    generalize hn : words.length = n
    induction n using Nat.strongRecOn generalizing words with
    | ind n ih =>
      by_cases empty : words = []
      · rw [empty, count_nil positive]
        rfl
      · have some := List.length_pos_iff.2 empty
        rw [List.flatMap_def, map_chunk (fun _ c => padded c) positive empty, List.flatten_cons,
          ← List.flatMap_def, ih (words.drop m).length (by rw [List.length_drop]; omega) _ rfl]
        by_cases long : m ≤ words.length
        · have full : (words.take m).length % 8 = 0 := by
            rw [List.length_take, Nat.min_eq_left long]
            exact units
          rw [padded_of_units full, ← padded_append full, List.take_append_drop]
        · rw [List.take_of_length_le (by omega), List.drop_of_length_le (by omega)]
          exact List.append_nil _
  induction blocks generalizing index with
  | nil => rfl
  | cons block rest ih =>
    rw [packetsOf, List.flatMap_append, ih, List.flatMap_map, List.flatMap_cons, pieces]

end

end BootUpgrade.HostWorkflow

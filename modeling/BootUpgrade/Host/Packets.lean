import BootUpgrade.Common.Crc32
import BootUpgrade.Lib.Chunks
import BootUpgrade.Host.Firmware

/-!
# The packets of `core/workflow.py`

Blocks that touch are merged, each merged block is cut into packets of at most
`max_data_words` words, and the last packet of a block is padded to a multiple
of eight words.
-/

namespace BootUpgrade

namespace HostWorkflow

/-! ## Merging -/

/-- `words.extend(block.words)`. -/
def extend (current block : FirmwareBlock) : FirmwareBlock where
  address := current.address
  words := current.words ++ block.words
  address_le := current.address_le
  words_ne := by simp [current.words_ne]

/-- The loop of `_merge_contiguous`, with the block it is working on. -/
def mergeFrom (current : FirmwareBlock) : List FirmwareBlock → List FirmwareBlock
  | [] => [current]
  | block :: rest =>
    if current.endExclusive = block.address then mergeFrom (extend current block) rest
    else current :: mergeFrom block rest

/-- `_merge_contiguous`. -/
def mergeContiguous (blocks : List FirmwareBlock) : List FirmwareBlock :=
  match sortedBlocks blocks with
  | [] => []
  | first :: rest => mergeFrom first rest

/-! ## Padding -/

def writeDataAlignmentWords : Nat := 8
def writeDataPadWord : UInt16 := 0xFFFF

/-- `validate_write_data` with `max_data_words` given. -/
def validateWriteData (words : List UInt16) (maxDataWords : Nat) : Except HostError Unit :=
  if words = [] then .error (.dataAlignmentError "write data must not be empty")
  else if words.length % writeDataAlignmentWords ≠ 0 then
    .error (.dataAlignmentError "write data word count must be a multiple of 8")
  else if maxDataWords = 0 ∨ maxDataWords % writeDataAlignmentWords ≠ 0 then
    .error (.valueError "max_data_words must be a positive multiple of 8")
  else if words.length > maxDataWords then
    .error (.dataAlignmentError "write data exceeds max_data_words")
  else .ok ()

/-- `tuple(words) + (WRITE_DATA_PAD_WORD,) * missing`. -/
def padded (words : List UInt16) : List UInt16 :=
  words ++ List.replicate ((writeDataAlignmentWords - words.length % writeDataAlignmentWords) %
    writeDataAlignmentWords) writeDataPadWord

/-- `pad_write_data`. -/
def padWriteData (words : List UInt16) (maxDataWords : Nat) : Except HostError (List UInt16) :=
  if words = [] then .error (.dataAlignmentError "write data must not be empty")
  else
    match validateWriteData (padded words) maxDataWords with
    | .error e => .error e
    | .ok () => .ok (padded words)

theorem padWriteData_ok {words data : List UInt16} {m : Nat} (h : padWriteData words m = .ok data) :
    words ≠ [] ∧ data = padded words := by
  unfold padWriteData at h
  split at h
  · cases h
  · rename_i nonempty
    split at h
    · cases h
    · cases h
      exact ⟨nonempty, rfl⟩

/-! ## Packets -/

/-- `_DataPacket`. -/
structure DataPacket where
  address : Nat
  words : List UInt16
  index : Nat
  deriving DecidableEq, Repr

/-- The `while` loop of `_prepare_packets` on the rest of a block: `address` is
`block.address + offset` and `index` is `len(packets)`. -/
def blockPackets (maxDataWords address index : Nat) (words : List UInt16) :
    Except HostError (List DataPacket) :=
  if words = [] then .ok []
  else
    match padded : padWriteData (words.take maxDataWords) maxDataWords with
    | .error e => .error e
    | .ok data => do
      let rest ← blockPackets maxDataWords (address + (words.take maxDataWords).length) (index + 1)
        (words.drop (words.take maxDataWords).length)
      return ⟨address, data, index⟩ :: rest
termination_by words.length
decreasing_by
  have taken := List.length_pos_iff.2 (padWriteData_ok padded).1
  rw [List.length_drop]
  rw [List.length_take] at taken ⊢
  omega

/-- The `for` loop of `_prepare_packets`. -/
def imagePackets (maxDataWords index : Nat) : List FirmwareBlock →
    Except HostError (List DataPacket)
  | [] => .ok []
  | block :: rest => do
    let packets ← blockPackets maxDataWords block.address index block.words
    let others ← imagePackets maxDataWords (index + packets.length) rest
    return packets ++ others

/-- `_prepare_packets`. -/
def preparePackets (image : FirmwareImage) (maxDataWords : Nat) :
    Except HostError (List DataPacket) := do
  let packets ← imagePackets maxDataWords 0 (mergeContiguous image.blocks)
  if packets.length > 0xFFFF then
    .error (.workflowError "firmware requires more than 65535 protocol packets")
  else .ok packets

/-- `sum(len(packet.words) for packet in packets)`. -/
def totalWords (packets : List DataPacket) : Nat :=
  packets.foldl (fun total packet => total + packet.words.length) 0

/-- `zlib.crc32`: the CRC32 of the bytes, bit by bit. -/
def crc32Bytes (data : List UInt8) : UInt32 :=
  data.foldl (fun crc byte => BootCrc32.updateBits 8 (crc ^^^ byte.toUInt32)) 0xFFFFFFFF ^^^
    0xFFFFFFFF

/-- `crc32_words`. -/
def crc32Words (words : List UInt16) : UInt32 :=
  crc32Bytes (words.flatMap fun (word : UInt16) => [(word &&& 0xFF).toUInt8, ((word >>> 8) &&& 0xFF).toUInt8])

theorem byte_word (word : UInt16) : ((word &&& 0xFF).toUInt8).toUInt32 = (word &&& 0xFF).toUInt32 := by
  rw [← UInt32.toNat_inj, UInt8.toNat_toUInt32, UInt16.toNat_toUInt8, UInt16.toNat_toUInt32,
    UInt16.toNat_and]
  have mask : (0xFF : UInt16).toNat = 2 ^ 8 - 1 := rfl
  rw [mask, Nat.and_two_pow_sub_one_eq_mod]
  omega

theorem updateWord_bytes (crc : UInt32) (word : UInt16) :
    BootCrc32.updateWord crc word =
      BootCrc32.updateBits 8 (BootCrc32.updateBits 8 (crc ^^^ ((word &&& 0xFF).toUInt8).toUInt32) ^^^
        (((word >>> 8) &&& 0xFF).toUInt8).toUInt32) := by
  have twice : ∀ w : UInt16, w &&& 0xFF &&& 0x00FF = w &&& 0xFF := by
    intro w
    rw [UInt16.and_assoc, UInt16.and_self]
  simp only [BootCrc32.updateWord, BootCrc32.updateByte, byte_word, twice]

/-- `crc32_words` is the CRC of `boot_crc32.c`. -/
theorem crc32Words_eq (words : List UInt16) : crc32Words words = BootCrc32.calcWords words := by
  have fold : ∀ crc, (words.flatMap fun (word : UInt16) =>
      [(word &&& 0xFF).toUInt8, ((word >>> 8) &&& 0xFF).toUInt8]).foldl
        (fun crc byte => BootCrc32.updateBits 8 (crc ^^^ byte.toUInt32)) crc =
      BootCrc32.updateWords crc words := by
    induction words with
    | nil => exact fun _ => rfl
    | cons word rest ih =>
      intro crc
      rw [List.flatMap_cons, List.foldl_append, ih]
      simp only [BootCrc32.updateWords, List.foldl_cons, List.foldl_nil, updateWord_bytes]
  rw [crc32Words, crc32Bytes, fold]
  rfl

/-- `calculate_programmed_image_crc32`. -/
def calculateProgrammedImageCrc32 (image : FirmwareImage) (maxDataWords : Nat) :
    Except HostError UInt32 := do
  let packets ← preparePackets image maxDataWords
  return crc32Words (packets.flatMap (·.words))

/-- `max(packet.address + len(packet.words) for packet in packets)`. -/
def packetsEnd (packets : List DataPacket) : Nat :=
  (packets.map fun packet => packet.address + packet.words.length).foldl max 0

/-- `_programmed_image_size_and_end`. -/
def programmedImageSizeAndEnd (image : FirmwareImage) (maxDataWords : Nat) :
    Except HostError (Nat × Nat) := do
  let packets ← preparePackets image maxDataWords
  if packets = [] then .error (.workflowError "firmware image has no programmable data")
  else .ok (totalWords packets, packetsEnd packets)

/-! ## What merging does -/

theorem wordAt_extend {current block : FirmwareBlock} (touch : current.endExclusive = block.address)
    (a : Nat) (w : UInt16) : (extend current block).wordAt a = some w ↔
      current.wordAt a = some w ∨ block.wordAt a = some w := by
  have start := current.address_lt_end
  unfold FirmwareBlock.wordAt extend
  unfold FirmwareBlock.endExclusive at touch start
  dsimp only
  by_cases inside : current.address ≤ a
  · rw [if_pos inside]
    by_cases first : a - current.address < current.words.length
    · have before : ¬ block.address ≤ a := by omega
      rw [List.getElem?_append_left first, if_neg before]
      simp [inside]
    · have behind : block.address ≤ a := by omega
      rw [List.getElem?_append_right (by omega), if_pos behind,
        List.getElem?_eq_none (show current.words.length ≤ a - current.address by omega)]
      rw [show a - current.address - current.words.length = a - block.address by omega]
      simp
  · have before : ¬ block.address ≤ a := by omega
    rw [if_neg inside, if_neg before]
    simp [inside]

theorem hasWord_cons {block : FirmwareBlock} {blocks : List FirmwareBlock} {a : Nat} {w : UInt16} :
    HasWord (block :: blocks) a w ↔ block.wordAt a = some w ∨ HasWord blocks a w := by
  unfold HasWord
  simp only [List.mem_cons, exists_eq_or_imp]

/-- Merging keeps every word at its address. -/
theorem hasWord_mergeFrom (rest : List FirmwareBlock) (current : FirmwareBlock) (a : Nat)
    (w : UInt16) : HasWord (mergeFrom current rest) a w ↔ HasWord (current :: rest) a w := by
  induction rest generalizing current with
  | nil => rfl
  | cons block rest ih =>
    unfold mergeFrom
    by_cases touch : current.endExclusive = block.address
    · rw [if_pos touch, ih, hasWord_cons, hasWord_cons, hasWord_cons, wordAt_extend touch, or_assoc]
    · rw [if_neg touch, hasWord_cons, ih, hasWord_cons, hasWord_cons, hasWord_cons]

theorem address_mergeFrom {e : Nat} {rest : List FirmwareBlock} {current : FirmwareBlock}
    (first : e ≤ current.address) (later : ∀ block ∈ rest, e ≤ block.address) :
    ∀ block ∈ mergeFrom current rest, e ≤ block.address := by
  induction rest generalizing current with
  | nil =>
    intro block hb
    rw [List.mem_singleton.1 hb]
    exact first
  | cons next rest ih =>
    obtain ⟨hn, hr⟩ := List.forall_mem_cons.1 later
    unfold mergeFrom
    split
    · exact @ih (extend current next) first hr
    · exact List.forall_mem_cons.2 ⟨first, ih hn hr⟩

/-- Between merged blocks there is a gap. -/
theorem separated_mergeFrom {rest : List FirmwareBlock} {current : FirmwareBlock}
    (sorted : (current :: rest).Pairwise fun left right => left.endExclusive ≤ right.address) :
    (mergeFrom current rest).Pairwise fun left right => left.endExclusive < right.address := by
  induction rest generalizing current with
  | nil => exact List.pairwise_singleton ..
  | cons next rest ih =>
    obtain ⟨first, sorted⟩ := List.pairwise_cons.1 sorted
    obtain ⟨second, sorted'⟩ := List.pairwise_cons.1 sorted
    unfold mergeFrom
    by_cases touch : current.endExclusive = next.address
    · rw [if_pos touch]
      apply ih
      rw [List.pairwise_cons]
      refine ⟨?_, sorted'⟩
      intro block hb
      have last : (extend current next).endExclusive = next.endExclusive := by
        unfold FirmwareBlock.endExclusive at touch ⊢
        show current.address + (current.words ++ next.words).length = _
        rw [List.length_append]
        omega
      rw [last]
      exact second block hb
    · rw [if_neg touch, List.pairwise_cons]
      refine ⟨?_, ih sorted⟩
      have gap : current.endExclusive + 1 ≤ next.address := by
        have := first next List.mem_cons_self
        omega
      apply address_mergeFrom gap
      intro block hb
      have := second block hb
      have := next.address_lt_end
      omega

section
variable (image : FirmwareImage)

theorem hasWord_mergeContiguous (a : Nat) (w : UInt16) :
    HasWord (mergeContiguous image.blocks) a w ↔ HasWord image.blocks a w := by
  have sorted : HasWord (sortedBlocks image.blocks) a w ↔ HasWord image.blocks a w := by
    unfold HasWord
    simp only [mem_sortedBlocks]
  rw [← sorted]
  unfold mergeContiguous
  split
  · rename_i none
    rw [none]
  · rename_i first rest some
    rw [some]
    exact hasWord_mergeFrom rest first a w

theorem separated_mergeContiguous :
    Intervals.Separated ((mergeContiguous image.blocks).map (·.range)) := by
  constructor
  · intro i hi
    obtain ⟨block, -, rfl⟩ := List.mem_map.1 hi
    exact block.address_lt_end
  · rw [List.pairwise_map]
    have sorted := image.sorted
    unfold mergeContiguous
    split
    · exact List.Pairwise.nil
    · rename_i first rest some
      rw [some] at sorted
      exact separated_mergeFrom sorted

theorem covered_mergeContiguous (a : Nat) :
    Intervals.Covered ((mergeContiguous image.blocks).map (·.range)) a ↔ image.Covers a := by
  rw [FirmwareImage.Covers, covered_iff, covered_iff]
  simp only [hasWord_mergeContiguous]

/-- The merged blocks are the maximal runs of the image's addresses. -/
theorem mergeContiguous_runs (start stop : Nat) :
    (∃ block ∈ mergeContiguous image.blocks, block.range = (start, stop)) ↔
      Intervals.MaximalRun image.Covers start stop := by
  rw [← Intervals.MaximalRun.congr (covered_mergeContiguous image),
    (separated_mergeContiguous image).maximalRun, List.mem_map]

end

end HostWorkflow

end BootUpgrade

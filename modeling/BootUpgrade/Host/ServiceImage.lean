import BootUpgrade.Host.Packets
import BootUpgrade.Lib.Words

/-!
# The service image of `firmware/service_image.py`

An image built outside is patched before it is loaded: its immutable range is
made dense, the publish words are cleared and the header is written, each by a
replacement of words that cuts the blocks it touches.
-/

namespace BootUpgrade

/-- The blocks share no address. -/
def FirmwareBlock.Apart (left right : FirmwareBlock) : Prop :=
  left.endExclusive ≤ right.address ∨ right.endExclusive ≤ left.address

theorem FirmwareBlock.Apart.symm {left right : FirmwareBlock} (apart : left.Apart right) :
    right.Apart left := Or.symm apart

/-- Blocks that share no address follow one another once they are sorted. -/
theorem sortedBlocks_pairwise {blocks : List FirmwareBlock}
    (apart : blocks.Pairwise FirmwareBlock.Apart) :
    (sortedBlocks blocks).Pairwise fun left right => left.endExclusive ≤ right.address := by
  have ordered : (sortedBlocks blocks).Pairwise fun left right => left.address ≤ right.address := by
    have sorted := @List.pairwise_mergeSort _
      (fun left right : FirmwareBlock => decide (left.address ≤ right.address))
      (by simp only [decide_eq_true_eq]; omega)
      (by simp only [Bool.or_eq_true, decide_eq_true_eq]; omega) blocks
    exact sorted.imp fun le => of_decide_eq_true le
  have permuted : (sortedBlocks blocks).Pairwise FirmwareBlock.Apart :=
    ((List.mergeSort_perm blocks _).pairwise_iff fun h => h.symm).2 apart
  apply (ordered.and permuted).imp
  rintro left right ⟨le, before | after⟩
  · exact before
  · have := right.address_lt_end
    omega

theorem FirmwareImage.apart_blocks (image : FirmwareImage) :
    image.blocks.Pairwise FirmwareBlock.Apart := by
  have sorted : (sortedBlocks image.blocks).Pairwise FirmwareBlock.Apart :=
    image.sorted.imp fun before => .inl before
  exact ((List.mergeSort_perm image.blocks _).pairwise_iff fun h => h.symm).1 sorted

theorem hasWord_append {xs ys : List FirmwareBlock} {a : Nat} {w : UInt16} :
    HasWord (xs ++ ys) a w ↔ HasWord xs a w ∨ HasWord ys a w := by
  unfold HasWord
  simp only [List.mem_append, or_and_right, exists_or]

theorem hasWord_sortedBlocks {blocks : List FirmwareBlock} {a : Nat} {w : UInt16} :
    HasWord (sortedBlocks blocks) a w ↔ HasWord blocks a w := by
  unfold HasWord
  simp only [mem_sortedBlocks]

namespace ServiceImage

/-! ## Replacing words -/

/-- `FirmwareBlock(block.address, block.words[: address - block.address])`, if it has words. -/
def leftPiece (address : Nat) (block : FirmwareBlock) : Except HostError (List FirmwareBlock) :=
  if block.address < address then
    (FirmwareBlock.create block.address (block.words.take (address - block.address))).map ([·])
  else .ok []

/-- `FirmwareBlock(end, block.words[end - block.address :])`, if it has words. -/
def rightPiece (stop : Nat) (block : FirmwareBlock) : Except HostError (List FirmwareBlock) :=
  if stop < block.endExclusive then
    (FirmwareBlock.create stop (block.words.drop (stop - block.address))).map ([·])
  else .ok []

/-- What `_replace_words` leaves of a block: the words before `address` and those from `stop` on. -/
def cutBlock (address stop : Nat) (block : FirmwareBlock) : Except HostError (List FirmwareBlock) :=
  if block.endExclusive ≤ address ∨ stop ≤ block.address then .ok [block]
  else do
    let left ← leftPiece address block
    let right ← rightPiece stop block
    return left ++ right

/-- The `for` loop of `_replace_words`. -/
def cutBlocks (address stop : Nat) : List FirmwareBlock → Except HostError (List FirmwareBlock)
  | [] => .ok []
  | block :: rest => do
    let pieces ← cutBlock address stop block
    let others ← cutBlocks address stop rest
    return pieces ++ others

/-- `_copy_image`. -/
def copyImage (image : FirmwareImage) (blocks : List FirmwareBlock) :
    Except HostError FirmwareImage :=
  FirmwareImage.create image.entryPoint (sortedBlocks blocks)

/-- `_replace_words`; its words fit uint16 by their type. -/
def replaceWords (image : FirmwareImage) (address : Nat) (words : List UInt16) :
    Except HostError FirmwareImage :=
  if words = [] then .error (.valueError "patch words must be non-empty uint16 values")
  else do
    let blocks ← cutBlocks address (address + words.length) image.blocks
    let patch ← FirmwareBlock.create address words
    copyImage image (blocks ++ [patch])

/-- The range lies inside one block. -/
def insideBlock (image : FirmwareImage) (address count : Nat) : Bool :=
  image.blocks.any fun block => block.address ≤ address && address + count ≤ block.endExclusive

/-- `patch_words`. -/
def patchWords (image : FirmwareImage) (address : Nat) (words : List UInt16) :
    Except HostError FirmwareImage :=
  if insideBlock image address words.length = false then
    .error (.valueError "patch range must be inside one FirmwareBlock")
  else replaceWords image address words

/-! ## The immutable range -/

/-- One round of the loop of `_dense_immutable`: the words of the block that lie in the range. -/
def copyBlock (start stop : Nat) (words : List UInt16) (block : FirmwareBlock) : List UInt16 :=
  let copyStart := max start block.address
  let copyEnd := min stop block.endExclusive
  if copyStart < copyEnd then
    words.take (copyStart - start) ++
      (block.words.drop (copyStart - block.address)).take (copyEnd - copyStart) ++
      words.drop (copyEnd - start)
  else words

/-- `_dense_immutable`. -/
def denseImmutable (image : FirmwareImage) (start stop : Nat) : Except HostError FirmwareBlock :=
  if stop ≤ start ∨ stop > 0x100000000 then .error (.valueError "invalid immutable range")
  else
    FirmwareBlock.create start
      (image.blocks.foldl (copyBlock start stop) (List.replicate (stop - start) 0xFFFF))

/-! ## The header -/

def serviceHeaderWords : Nat := 28
def serviceHeaderMagic : UInt32 := 0x46534832
def serviceHeaderVersion : UInt16 := 1
def serviceImageCrc32Ieee : UInt16 := 1
def servicePublishInvalid : UInt16 := 0x0000
def serviceAbiMajor : UInt16 := 2
def serviceAbiMinor : UInt16 := 0

/-- `SERVICE_REQUIRED_CAPABILITIES`. -/
def serviceRequiredCapabilities : UInt32 := 0x0F

/-- `TiMapSymbols`, whose values fit uint32 by their type. -/
structure TiMapSymbols where
  headerAddress : UInt32
  publishStateAddress : UInt32
  runtimeStateAddress : UInt32
  appExportAddress : UInt32
  immutableStart : UInt32
  immutableEndExclusive : UInt32
  bootInitAddress : UInt32
  bootHandleCommandAddress : UInt32
  confirmCurrentImageAddress : UInt32
  immutable_ne : immutableStart < immutableEndExclusive

variable (symbols : TiMapSymbols)

/-- `header[:26]`. -/
def headerFields (capabilities : UInt32) (immutable : List UInt16) : List UInt16 :=
  [Words.lowWord serviceHeaderMagic, Words.highWord serviceHeaderMagic, serviceHeaderVersion,
    UInt16.ofNat serviceHeaderWords, serviceAbiMajor, serviceAbiMinor,
    Words.lowWord symbols.immutableStart, Words.highWord symbols.immutableStart,
    Words.lowWord symbols.immutableEndExclusive, Words.highWord symbols.immutableEndExclusive,
    Words.lowWord symbols.publishStateAddress, Words.highWord symbols.publishStateAddress,
    Words.lowWord symbols.runtimeStateAddress, Words.highWord symbols.runtimeStateAddress,
    Words.lowWord symbols.appExportAddress, Words.highWord symbols.appExportAddress,
    Words.lowWord symbols.bootInitAddress, Words.highWord symbols.bootInitAddress,
    Words.lowWord symbols.bootHandleCommandAddress, Words.highWord symbols.bootHandleCommandAddress,
    Words.lowWord capabilities, Words.highWord capabilities, serviceImageCrc32Ieee, 0,
    Words.lowWord (HostWorkflow.crc32Words immutable),
    Words.highWord (HostWorkflow.crc32Words immutable)]

/-- The header of `patch_flash_service_image`. -/
def serviceHeader (capabilities : UInt32) (immutable : List UInt16) : List UInt16 :=
  let fields := headerFields symbols capabilities immutable
  fields ++ [Words.lowWord (HostWorkflow.crc32Words fields),
    Words.highWord (HostWorkflow.crc32Words fields)]

/-! ## Patching -/

/-- The ranges that the service writes at run time, sorted. -/
def mutableRanges : List (Nat × Nat) :=
  [(symbols.headerAddress.toNat, symbols.headerAddress.toNat + serviceHeaderWords),
    (symbols.publishStateAddress.toNat, symbols.publishStateAddress.toNat + 2),
    (symbols.runtimeStateAddress.toNat, symbols.runtimeStateAddress.toNat + 1)].mergeSort
    fun left right => left.1 < right.1 || (left.1 == right.1 && left.2 ≤ right.2)

/-- The service entry points lie in the immutable range. -/
def entriesInside : Bool :=
  [symbols.bootInitAddress, symbols.bootHandleCommandAddress,
    symbols.confirmCurrentImageAddress].all fun address =>
      symbols.immutableStart ≤ address && address < symbols.immutableEndExclusive

/-- Two mutable ranges overlap, or one overlaps the immutable range. -/
def mutableOverlap : Bool :=
  Intervals.neighboursOverlap (mutableRanges symbols) ||
    (mutableRanges symbols).any fun range =>
      range.1 < symbols.immutableEndExclusive.toNat && range.2 > symbols.immutableStart.toNat

/-- `patch_flash_service_image`. -/
def patchFlashServiceImage (image : FirmwareImage)
    (capabilities : UInt32 := serviceRequiredCapabilities) : Except HostError FirmwareImage :=
  if insideBlock image symbols.headerAddress.toNat serviceHeaderWords = false then
    .error (.valueError "header_address must point to 28 words inside one FirmwareBlock")
  else if entriesInside symbols = false then
    .error (.valueError "service entry points must be inside the immutable range")
  else if mutableOverlap symbols then
    .error (.valueError
      "mutable service ranges must be disjoint from each other and immutable data")
  else do
    let immutable ← denseImmutable image symbols.immutableStart.toNat
      symbols.immutableEndExclusive.toNat
    let dense ← replaceWords image immutable.address immutable.words
    let cleared ← replaceWords dense symbols.publishStateAddress.toNat
      [servicePublishInvalid, servicePublishInvalid]
    patchWords cleared symbols.headerAddress.toNat
      (serviceHeader symbols capabilities immutable.words)

/-! ## What a cut leaves -/

theorem create_ok {address : Nat} {words : List UInt16} (fits : address ≤ 0xFFFFFFFF)
    (some : words ≠ []) :
    FirmwareBlock.create address words = .ok ⟨address, words, fits, some⟩ := by
  rw [FirmwareBlock.create, dif_pos fits, dif_neg some]

theorem create_high {address : Nat} {words : List UInt16} (high : 0xFFFFFFFF < address) :
    FirmwareBlock.create address words = .error (.valueError "block address must fit uint32") := by
  rw [FirmwareBlock.create, dif_neg (Nat.not_le.2 high)]

/-- The pieces of blocks without the words from `address` up to `stop`. -/
structure Cut (address stop : Nat) (blocks pieces : List FirmwareBlock) : Prop where
  words : ∀ a w, HasWord pieces a w ↔ HasWord blocks a w ∧ (a < address ∨ stop ≤ a)
  within : ∀ piece ∈ pieces, ∃ block ∈ blocks,
    block.address ≤ piece.address ∧ piece.endExclusive ≤ block.endExclusive
  outside : ∀ piece ∈ pieces, piece.endExclusive ≤ address ∨ stop ≤ piece.address
  apart : pieces.Pairwise FirmwareBlock.Apart
  whole : ∀ block ∈ blocks, ∀ first last, block.address ≤ first → first < last →
    last ≤ block.endExclusive → last ≤ address ∨ stop ≤ first →
    ∃ piece ∈ pieces, piece.address ≤ first ∧ last ≤ piece.endExclusive

section
variable {address stop : Nat} {block piece : FirmwareBlock}

/-- A piece has the words of its block at its own addresses. -/
theorem wordAt_piece {k : Nat} (start : piece.address = block.address + k)
    (same : ∀ i < piece.words.length, piece.words[i]? = block.words[k + i]?) (a : Nat) (w : UInt16) :
    piece.wordAt a = some w ↔
      block.wordAt a = some w ∧ piece.address ≤ a ∧ a < piece.endExclusive := by
  unfold FirmwareBlock.wordAt FirmwareBlock.endExclusive
  by_cases le : piece.address ≤ a
  · have le' : block.address ≤ a := by omega
    rw [if_pos le, if_pos le']
    by_cases lt : a - piece.address < piece.words.length
    · rw [same _ lt, show k + (a - piece.address) = a - block.address by omega]
      constructor
      · intro found
        exact ⟨found, le, by omega⟩
      · rintro ⟨found, -, -⟩
        exact found
    · rw [List.getElem?_eq_none (Nat.not_lt.1 lt)]
      constructor
      · nofun
      · rintro ⟨-, -, inside⟩
        omega
  · rw [if_neg le]
    constructor
    · nofun
    · rintro ⟨-, inside, -⟩
      exact absurd inside le

theorem hasWord_single (block : FirmwareBlock) (a : Nat) (w : UInt16) :
    HasWord [block] a w ↔ block.wordAt a = some w := by
  unfold HasWord
  simp only [List.mem_singleton, exists_eq_left]

theorem not_hasWord_nil (a : Nat) (w : UInt16) : ¬ HasWord [] a w := by
  rintro ⟨_, mem, -⟩
  cases mem

/-- The piece of a block from `lower` up to `upper`, or none if these do not leave any. -/
structure Side (block : FirmwareBlock) (lower upper : Nat) (pieces : List FirmwareBlock) : Prop where
  words : ∀ a w, HasWord pieces a w ↔ block.wordAt a = some w ∧ lower ≤ a ∧ a < upper
  bounds : ∀ piece ∈ pieces, piece.address = lower ∧ piece.endExclusive = upper
  some : lower < upper → ∃ piece, piece ∈ pieces
  apart : pieces.Pairwise FirmwareBlock.Apart

theorem side_nil {lower upper : Nat} (none : upper ≤ lower) : Side block lower upper [] where
  words a w := by
    constructor
    · exact fun found => absurd found (not_hasWord_nil a w)
    · rintro ⟨-, after, before⟩
      omega
  bounds := nofun
  some lt := absurd lt (Nat.not_lt.2 none)
  apart := List.Pairwise.nil

theorem side_single {k lower upper : Nat} (start : piece.address = block.address + k)
    (same : ∀ i < piece.words.length, piece.words[i]? = block.words[k + i]?)
    (first : piece.address = lower) (last : piece.endExclusive = upper) :
    Side block lower upper [piece] where
  words a w := by
    rw [hasWord_single, wordAt_piece start same, first, last]
  bounds other mem := by
    rw [List.mem_singleton.1 mem]
    exact ⟨first, last⟩
  some _ := ⟨piece, List.mem_singleton_self piece⟩
  apart := List.pairwise_singleton ..

theorem leftPiece_ok (overlaps : address < block.endExclusive) :
    ∃ left, leftPiece address block = .ok left ∧ Side block block.address address left := by
  have ends : block.endExclusive = block.address + block.words.length := rfl
  unfold leftPiece
  by_cases before : block.address < address
  · have length : (block.words.take (address - block.address)).length = address - block.address := by
      rw [List.length_take]
      omega
    have some : block.words.take (address - block.address) ≠ [] := by
      apply List.ne_nil_of_length_pos
      omega
    rw [if_pos before, create_ok block.address_le some]
    refine ⟨_, rfl, side_single (Nat.add_zero _).symm ?_ rfl ?_⟩
    · intro i lt
      dsimp only at lt ⊢
      rw [Nat.zero_add, List.getElem?_take, if_pos (by omega)]
    · show block.address + (block.words.take (address - block.address)).length = address
      omega
  · rw [if_neg before]
    exact ⟨[], rfl, side_nil (Nat.not_lt.1 before)⟩

theorem rightPiece_ok (overlaps : block.address < stop)
    (fits : stop ≤ 0xFFFFFFFF ∨ block.endExclusive ≤ stop) :
    ∃ right, rightPiece stop block = .ok right ∧ Side block stop block.endExclusive right := by
  have ends : block.endExclusive = block.address + block.words.length := rfl
  unfold rightPiece
  by_cases behind : stop < block.endExclusive
  · have small : stop ≤ 0xFFFFFFFF := by omega
    have length : (block.words.drop (stop - block.address)).length =
        block.words.length - (stop - block.address) := List.length_drop
    have some : block.words.drop (stop - block.address) ≠ [] := by
      apply List.ne_nil_of_length_pos
      omega
    rw [if_pos behind, create_ok small some]
    refine ⟨_, rfl, side_single (k := stop - block.address) ?_ ?_ rfl ?_⟩
    · show stop = block.address + (stop - block.address)
      omega
    · intro i lt
      dsimp only at lt ⊢
      rw [List.getElem?_drop]
    · show stop + (block.words.drop (stop - block.address)).length = block.endExclusive
      omega
  · rw [if_neg behind]
    exact ⟨[], rfl, side_nil (Nat.not_lt.1 behind)⟩

/-- A block that the range misses stays. -/
theorem cut_missed (misses : block.endExclusive ≤ address ∨ stop ≤ block.address) :
    Cut address stop [block] [block] where
  words a w := by
    rw [hasWord_single]
    constructor
    · intro found
      have := FirmwareBlock.wordAt_some.1 ⟨w, found⟩
      exact ⟨found, by omega⟩
    · rintro ⟨found, -⟩
      exact found
  within piece mem := ⟨piece, mem, Nat.le_refl _, Nat.le_refl _⟩
  outside piece mem := by
    obtain rfl := List.mem_singleton.1 mem
    exact misses
  apart := List.pairwise_singleton ..
  whole other mem first last lower _ upper _ := ⟨other, mem, lower, upper⟩

/-- The two sides of a block that the range meets. -/
theorem cut_sides {left right : List FirmwareBlock} (nonempty : address < stop)
    (after : address < block.endExclusive) (before : block.address < stop)
    (hl : Side block block.address address left) (hr : Side block stop block.endExclusive right) :
    Cut address stop [block] (left ++ right) where
  words a w := by
    rw [hasWord_append, hl.words, hr.words, hasWord_single]
    constructor
    · rintro (⟨found, inside⟩ | ⟨found, inside⟩)
      · exact ⟨found, by omega⟩
      · exact ⟨found, by omega⟩
    · rintro ⟨found, clear⟩
      have := FirmwareBlock.wordAt_some.1 ⟨w, found⟩
      rcases clear with lower | upper
      · exact .inl ⟨found, by omega⟩
      · exact .inr ⟨found, by omega⟩
  within piece mem := by
    refine ⟨block, List.mem_singleton_self block, ?_⟩
    have := piece.address_lt_end
    rcases List.mem_append.1 mem with mem | mem
    · have := hl.bounds piece mem
      omega
    · have := hr.bounds piece mem
      omega
  outside piece mem := by
    rcases List.mem_append.1 mem with mem | mem
    · exact .inl (Nat.le_of_eq (hl.bounds piece mem).2)
    · exact .inr (Nat.le_of_eq (hr.bounds piece mem).1.symm)
  apart := by
    rw [List.pairwise_append]
    refine ⟨hl.apart, hr.apart, ?_⟩
    intro piece hp other ho
    have := hl.bounds piece hp
    have := hr.bounds other ho
    exact .inl (by omega)
  whole other mem first last lower some upper clear := by
    obtain rfl := List.mem_singleton.1 mem
    rcases clear with left | right
    · obtain ⟨piece, mem⟩ := hl.some (by omega)
      have := hl.bounds piece mem
      exact ⟨piece, List.mem_append_left _ mem, by omega⟩
    · obtain ⟨piece, mem⟩ := hr.some (by omega)
      have := hr.bounds piece mem
      exact ⟨piece, List.mem_append_right _ mem, by omega⟩

theorem cutBlock_ok (nonempty : address < stop)
    (fits : stop ≤ 0xFFFFFFFF ∨ block.endExclusive ≤ stop) :
    ∃ pieces, cutBlock address stop block = .ok pieces ∧ Cut address stop [block] pieces := by
  unfold cutBlock
  by_cases misses : block.endExclusive ≤ address ∨ stop ≤ block.address
  · rw [if_pos misses]
    exact ⟨_, rfl, cut_missed misses⟩
  · rw [if_neg misses]
    rw [not_or, Nat.not_le, Nat.not_le] at misses
    obtain ⟨after, before⟩ := misses
    obtain ⟨left, hl, leftSide⟩ := leftPiece_ok after
    obtain ⟨right, hr, rightSide⟩ := rightPiece_ok before fits
    rw [hl, hr]
    exact ⟨_, rfl, cut_sides nonempty after before leftSide rightSide⟩

/-- A block that goes on behind the address space cannot be cut there. -/
theorem cutBlock_high (nonempty : address < stop) (high : 0xFFFFFFFF < stop)
    (behind : stop < block.endExclusive) :
    cutBlock address stop block = .error (.valueError "block address must fit uint32") := by
  have low := block.address_le
  obtain ⟨left, hl, -⟩ := leftPiece_ok (show address < block.endExclusive by omega)
  rw [cutBlock, if_neg (by omega), hl, rightPiece, if_pos behind, create_high high]
  rfl

end

section
variable {address stop : Nat} {blocks : List FirmwareBlock}

theorem cut_append {block : FirmwareBlock} {pieces others : List FirmwareBlock}
    (first : Cut address stop [block] pieces) (rest : Cut address stop blocks others)
    (apart : ∀ other ∈ blocks, block.Apart other) :
    Cut address stop (block :: blocks) (pieces ++ others) where
  words a w := by
    rw [hasWord_append, first.words, rest.words, hasWord_single, HostWorkflow.hasWord_cons,
      or_and_right]
  within piece mem := by
    rcases List.mem_append.1 mem with mem | mem
    · obtain ⟨other, ho, inside⟩ := first.within piece mem
      rw [List.mem_singleton.1 ho] at inside
      exact ⟨block, List.mem_cons_self, inside⟩
    · obtain ⟨other, ho, inside⟩ := rest.within piece mem
      exact ⟨other, List.mem_cons_of_mem _ ho, inside⟩
  outside piece mem := by
    rcases List.mem_append.1 mem with mem | mem
    · exact first.outside piece mem
    · exact rest.outside piece mem
  apart := by
    rw [List.pairwise_append]
    refine ⟨first.apart, rest.apart, ?_⟩
    intro piece hp other ho
    obtain ⟨source, hs, lower, upper⟩ := first.within piece hp
    obtain ⟨source', hs', lower', upper'⟩ := rest.within other ho
    rw [List.mem_singleton.1 hs] at lower upper
    rcases apart source' hs' with before | after
    · exact .inl (by omega)
    · exact .inr (by omega)
  whole source hs first' last lower some upper clear := by
    rcases List.mem_cons.1 hs with rfl | hs
    · obtain ⟨piece, mem, inside⟩ :=
        first.whole source (List.mem_singleton_self source) first' last lower some upper clear
      exact ⟨piece, List.mem_append_left _ mem, inside⟩
    · obtain ⟨piece, mem, inside⟩ := rest.whole source hs first' last lower some upper clear
      exact ⟨piece, List.mem_append_right _ mem, inside⟩

theorem cutBlocks_ok (nonempty : address < stop) (apart : blocks.Pairwise FirmwareBlock.Apart)
    (fits : ∀ block ∈ blocks, stop ≤ 0xFFFFFFFF ∨ block.endExclusive ≤ stop) :
    ∃ pieces, cutBlocks address stop blocks = .ok pieces ∧ Cut address stop blocks pieces := by
  induction blocks with
  | nil =>
    refine ⟨[], rfl, ?_, nofun, nofun, List.Pairwise.nil, nofun⟩
    intro a w
    constructor
    · exact fun found => absurd found (not_hasWord_nil a w)
    · exact fun found => absurd found.1 (not_hasWord_nil a w)
  | cons block rest ih =>
    obtain ⟨first, others⟩ := List.pairwise_cons.1 apart
    obtain ⟨fits, fits'⟩ := List.forall_mem_cons.1 fits
    obtain ⟨pieces, made, cut⟩ := cutBlock_ok nonempty fits
    obtain ⟨more, made', cut'⟩ := ih others fits'
    refine ⟨pieces ++ more, ?_, cut_append cut cut' first⟩
    rw [cutBlocks, made, made']
    rfl

theorem cutBlocks_high (nonempty : address < stop) (high : 0xFFFFFFFF < stop)
    (behind : ∃ block ∈ blocks, stop < block.endExclusive) :
    cutBlocks address stop blocks = .error (.valueError "block address must fit uint32") := by
  induction blocks with
  | nil =>
    obtain ⟨_, mem, -⟩ := behind
    cases mem
  | cons block rest ih =>
    by_cases here : stop < block.endExclusive
    · rw [cutBlocks, cutBlock_high nonempty high here]
      rfl
    · obtain ⟨pieces, made, -⟩ := cutBlock_ok nonempty (.inr (Nat.not_lt.1 here))
      obtain ⟨other, mem, behind⟩ := behind
      rcases List.mem_cons.1 mem with rfl | mem
      · exact absurd behind here
      · rw [cutBlocks, made, ih ⟨other, mem, behind⟩]
        rfl

end

/-! ## What a replacement writes -/

/-- The image goes on behind the address space at `stop`. -/
def RunsPast (image : FirmwareImage) (stop : Nat) : Prop :=
  0xFFFFFFFF < stop ∧ image.Covers stop

/-- The words from `address` on are replaced, the others stay. -/
structure Replaced (image : FirmwareImage) (address : Nat) (words : List UInt16)
    (image' : FirmwareImage) : Prop where
  sorted : image'.blocks.Pairwise fun left right => left.endExclusive ≤ right.address
  entryPoint : image'.entryPoint = image.entryPoint
  inside : ∀ a w, address ≤ a → a < address + words.length →
    (HasWord image'.blocks a w ↔ words[a - address]? = some w)
  outside : ∀ a w, a < address ∨ address + words.length ≤ a →
    (HasWord image'.blocks a w ↔ HasWord image.blocks a w)
  whole : ∀ first last, first < last → last ≤ address ∨ address + words.length ≤ first →
    (∃ block ∈ image.blocks, block.address ≤ first ∧ last ≤ block.endExclusive) →
    ∃ block ∈ image'.blocks, block.address ≤ first ∧ last ≤ block.endExclusive

section
variable {image : FirmwareImage} {address : Nat} {words : List UInt16}

theorem replaceWords_ok (fits : address ≤ 0xFFFFFFFF) (some : words ≠ [])
    (clear : ¬ RunsPast image (address + words.length)) :
    ∃ image', replaceWords image address words = .ok image' ∧ Replaced image address words image' := by
  have positive := List.length_pos_iff.2 some
  have ends : ∀ block ∈ image.blocks,
      address + words.length ≤ 0xFFFFFFFF ∨ block.endExclusive ≤ address + words.length := by
    intro block mem
    by_cases low : address + words.length ≤ 0xFFFFFFFF
    · exact .inl low
    · right
      apply Nat.le_of_not_lt
      intro behind
      have := block.address_le
      have before : block.address ≤ address + words.length := by omega
      exact clear ⟨Nat.not_le.1 low, block.range, List.mem_map_of_mem mem, before, behind⟩
  obtain ⟨pieces, made, cut⟩ := cutBlocks_ok
    (show address < address + words.length by omega) image.apart_blocks ends
  let patch : FirmwareBlock := ⟨address, words, fits, some⟩
  have patchEnd : patch.endExclusive = address + words.length := rfl
  have apart : (pieces ++ [patch]).Pairwise FirmwareBlock.Apart := by
    rw [List.pairwise_append]
    refine ⟨cut.apart, List.pairwise_singleton .., ?_⟩
    intro piece hp other ho
    rw [List.mem_singleton.1 ho]
    exact cut.outside piece hp
  have sorted := sortedBlocks_pairwise apart
  have nonempty : sortedBlocks (pieces ++ [patch]) ≠ [] := by
    apply List.ne_nil_of_mem (a := patch)
    exact mem_sortedBlocks.2 (List.mem_append_right _ (List.mem_singleton_self patch))
  refine ⟨⟨image.entryPoint, sortedBlocks (pieces ++ [patch]), image.entryPoint_le, nonempty,
    blocksOverlap_of_pairwise sorted⟩, ?_, sorted, rfl, ?_, ?_, ?_⟩
  · rw [replaceWords, if_neg some, made, create_ok fits some]
    show copyImage image (pieces ++ [patch]) = _
    rw [copyImage, FirmwareImage.create, dif_pos image.entryPoint_le, dif_neg nonempty,
      dif_pos (blocksOverlap_of_pairwise sorted)]
  · intro a w lower upper
    rw [hasWord_sortedBlocks, hasWord_append, cut.words, hasWord_single, FirmwareBlock.wordAt,
      if_pos lower]
    constructor
    · rintro (⟨-, outside⟩ | found)
      · omega
      · exact found
    · exact .inr
  · intro a w outside
    rw [hasWord_sortedBlocks, hasWord_append, cut.words, hasWord_single]
    constructor
    · rintro (⟨found, -⟩ | found)
      · exact found
      · have := FirmwareBlock.wordAt_some.1 ⟨w, found⟩
        have : patch.address = address := rfl
        omega
    · intro found
      exact .inl ⟨found, outside⟩
  · rintro first last lt outside ⟨block, mem, lower, upper⟩
    obtain ⟨piece, hp, inside⟩ := cut.whole block mem first last lower lt upper outside
    exact ⟨piece, mem_sortedBlocks.2 (List.mem_append_left _ hp), inside⟩

theorem replaceWords_high (some : words ≠ []) (past : RunsPast image (address + words.length)) :
    replaceWords image address words = .error (.valueError "block address must fit uint32") := by
  have positive := List.length_pos_iff.2 some
  obtain ⟨high, _, mem, -, behind⟩ := past
  obtain ⟨block, hb, rfl⟩ := List.mem_map.1 mem
  rw [replaceWords, if_neg some, cutBlocks_high (by omega) high ⟨block, hb, behind⟩]
  rfl

end

/-! ## What the immutable range is filled with -/

section
variable {start stop : Nat} {words : List UInt16} {block : FirmwareBlock}

theorem length_copyBlock (length : words.length = stop - start) :
    (copyBlock start stop words block).length = stop - start := by
  have ends : block.endExclusive = block.address + block.words.length := rfl
  unfold copyBlock
  dsimp only
  split
  · simp only [List.length_append, List.length_take, List.length_drop]
    omega
  · exact length

/-- A word of the block, where it has one. -/
theorem getElem_copyBlock (length : words.length = stop - start) {i : Nat} (lt : i < stop - start) :
    (copyBlock start stop words block)[i]? = (block.wordAt (start + i)).or words[i]? := by
  have ends : block.endExclusive = block.address + block.words.length := rfl
  unfold copyBlock FirmwareBlock.wordAt
  dsimp only
  split
  · rename_i some
    by_cases before : start + i < max start block.address
    · rw [List.append_assoc, List.getElem?_append_left (by rw [List.length_take]; omega),
        List.getElem?_take, if_pos (by omega), if_neg (by omega)]
      rfl
    · by_cases inside : start + i < min stop block.endExclusive
      · rw [List.append_assoc, List.getElem?_append_right (by rw [List.length_take]; omega),
          List.getElem?_append_left (by
            simp only [List.length_take, List.length_drop]
            omega),
          List.getElem?_take, List.length_take, if_pos (by omega), List.getElem?_drop,
          if_pos (by omega)]
        have place : max start block.address - block.address +
            (i - min (max start block.address - start) words.length) = start + i - block.address := by
          omega
        rw [place, List.getElem?_eq_getElem (by omega)]
        rfl
      · have behind : block.words[start + i - block.address]? = none := by
          apply List.getElem?_eq_none
          omega
        rw [if_pos (by omega), behind, List.getElem?_append_right (by
            simp only [List.length_append, List.length_take, List.length_drop]
            omega),
          List.getElem?_drop]
        simp only [List.length_append, List.length_take, List.length_drop, Option.none_or]
        congr 1
        omega
  · rename_i none
    split
    · rename_i after
      have behind : block.words[start + i - block.address]? = Option.none := by
        apply List.getElem?_eq_none
        omega
      rw [behind]
      rfl
    · rfl

theorem foldl_copyBlock {blocks : List FirmwareBlock}
    (unique : ∀ a v w, HasWord blocks a v → HasWord blocks a w → v = w)
    (length : words.length = stop - start) :
    (blocks.foldl (copyBlock start stop) words).length = stop - start ∧
      ∀ i < stop - start,
        (∀ w, HasWord blocks (start + i) w →
          (blocks.foldl (copyBlock start stop) words)[i]? = some w) ∧
        ((∀ w, ¬ HasWord blocks (start + i) w) →
          (blocks.foldl (copyBlock start stop) words)[i]? = words[i]?) := by
  induction blocks generalizing words with
  | nil =>
    refine ⟨length, fun i _ => ⟨fun w found => absurd found (not_hasWord_nil _ w), fun _ => rfl⟩⟩
  | cons block rest ih =>
    have cons : ∀ {a w}, HasWord rest a w → HasWord (block :: rest) a w :=
      fun found => HostWorkflow.hasWord_cons.2 (.inr found)
    obtain ⟨length', each⟩ := ih (fun a v w hv hw => unique a v w (cons hv) (cons hw))
      (length_copyBlock length)
    refine ⟨length', ?_⟩
    intro i lt
    obtain ⟨found, kept⟩ := each i lt
    rw [getElem_copyBlock length lt] at kept
    constructor
    · intro w hw
      by_cases later : ∃ v, HasWord rest (start + i) v
      · obtain ⟨v, hv⟩ := later
        rw [unique _ _ _ hw (cons hv)]
        exact found v hv
      · rcases HostWorkflow.hasWord_cons.1 hw with here | there
        · rw [here] at kept
          exact kept fun v hv => later ⟨v, hv⟩
        · exact absurd ⟨w, there⟩ later
    · intro none
      have absent : block.wordAt (start + i) = Option.none := by
        cases here : block.wordAt (start + i) with
        | none => rfl
        | some w => exact absurd (HostWorkflow.hasWord_cons.2 (.inl here)) (none w)
      rw [absent] at kept
      exact kept fun v hv => none v (cons hv)

/-- The words of a range, with `0xFFFF` where the image has none. -/
structure Dense (image : FirmwareImage) (start stop : Nat) (words : List UInt16) : Prop where
  length : words.length = stop - start
  copied : ∀ i < stop - start, ∀ w, HasWord image.blocks (start + i) w → words[i]? = some w
  fill : ∀ i < stop - start, ¬ image.Covers (start + i) → words[i]? = some 0xFFFF

theorem denseImmutable_ok {image : FirmwareImage} (nonempty : start < stop)
    (low : start ≤ 0xFFFFFFFF) (high : stop ≤ 0x100000000) :
    ∃ block, denseImmutable image start stop = .ok block ∧ block.address = start ∧
      Dense image start stop block.words := by
  obtain ⟨length, each⟩ := foldl_copyBlock
    (fun _ _ _ => image.hasWord_unique)
    (List.length_replicate (n := stop - start) (a := (0xFFFF : UInt16)))
  have some : image.blocks.foldl (copyBlock start stop) (List.replicate (stop - start) 0xFFFF) ≠ [] := by
    apply List.ne_nil_of_length_pos
    omega
  rw [denseImmutable, if_neg (by omega), create_ok low some]
  refine ⟨_, rfl, rfl, length, fun i lt => (each i lt).1, ?_⟩
  intro i lt outside
  have kept := (each i lt).2 fun w found => outside (covered_iff.2 ⟨w, found⟩)
  rw [List.getElem?_replicate, if_pos lt] at kept
  exact kept

end

/-! ## The patched image -/

/-- The range of `count` words from `address` on is clear of another. -/
def Clear (address count address' count' : Nat) : Prop :=
  address + count ≤ address' ∨ address' + count' ≤ address

/-- The checks that `patch_flash_service_image` makes before it builds anything. -/
structure ServiceChecks (image : FirmwareImage) : Prop where
  header : insideBlock image symbols.headerAddress.toNat serviceHeaderWords = true
  entries : entriesInside symbols = true
  apart : mutableOverlap symbols = false

/-- What is patched, and nothing else. -/
structure ServicePatched (image : FirmwareImage) (capabilities : UInt32) (image' : FirmwareImage)
    (immutable header : List UInt16) : Prop where
  sorted : image'.blocks.Pairwise fun left right => left.endExclusive ≤ right.address
  entryPoint : image'.entryPoint = image.entryPoint
  dense : Dense image symbols.immutableStart.toNat symbols.immutableEndExclusive.toNat immutable
  header_eq : header = serviceHeader symbols capabilities immutable
  immutableWords : ∀ a w, symbols.immutableStart.toNat ≤ a → a < symbols.immutableEndExclusive.toNat →
    (HasWord image'.blocks a w ↔ immutable[a - symbols.immutableStart.toNat]? = some w)
  publishWords : ∀ a w, symbols.publishStateAddress.toNat ≤ a →
    a < symbols.publishStateAddress.toNat + 2 → (HasWord image'.blocks a w ↔ w = 0)
  headerWords : ∀ a w, symbols.headerAddress.toNat ≤ a →
    a < symbols.headerAddress.toNat + serviceHeaderWords →
    (HasWord image'.blocks a w ↔ header[a - symbols.headerAddress.toNat]? = some w)
  others : ∀ a w,
    a < symbols.immutableStart.toNat ∨ symbols.immutableEndExclusive.toNat ≤ a →
    a < symbols.publishStateAddress.toNat ∨ symbols.publishStateAddress.toNat + 2 ≤ a →
    a < symbols.headerAddress.toNat ∨ symbols.headerAddress.toNat + serviceHeaderWords ≤ a →
    (HasWord image'.blocks a w ↔ HasWord image.blocks a w)
  imageCrc32 : Words.joinU32 (header.getD 24 0) (header.getD 25 0) = HostWorkflow.crc32Words immutable
  headerCrc32 : Words.joinU32 (header.getD 26 0) (header.getD 27 0) =
    HostWorkflow.crc32Words (header.take 26)

theorem length_serviceHeader (capabilities : UInt32) (immutable : List UInt16) :
    (serviceHeader symbols capabilities immutable).length = serviceHeaderWords := rfl

theorem serviceHeader_ne (capabilities : UInt32) (immutable : List UInt16) :
    serviceHeader symbols capabilities immutable ≠ [] := List.cons_ne_nil _ _

theorem insideBlock_iff {image : FirmwareImage} {address count : Nat} :
    insideBlock image address count = true ↔
      ∃ block ∈ image.blocks, block.address ≤ address ∧ address + count ≤ block.endExclusive := by
  simp only [insideBlock, List.any_eq_true, Bool.and_eq_true, decide_eq_true_eq]

section
variable {symbols} {image : FirmwareImage}

/-- The ranges that the checks hold apart. -/
theorem mutable_clear (apart : mutableOverlap symbols = false) :
    Clear symbols.headerAddress.toNat serviceHeaderWords symbols.publishStateAddress.toNat 2 ∧
    (symbols.headerAddress.toNat + serviceHeaderWords ≤ symbols.immutableStart.toNat ∨
      symbols.immutableEndExclusive.toNat ≤ symbols.headerAddress.toNat) ∧
    (symbols.publishStateAddress.toNat + 2 ≤ symbols.immutableStart.toNat ∨
      symbols.immutableEndExclusive.toNat ≤ symbols.publishStateAddress.toNat) := by
  unfold mutableOverlap at apart
  rw [Bool.or_eq_false_iff, List.any_eq_false] at apart
  obtain ⟨neighbours, immutable⟩ := apart
  have mem : ∀ range, range ∈ mutableRanges symbols ↔
      range = (symbols.headerAddress.toNat, symbols.headerAddress.toNat + serviceHeaderWords) ∨
      range = (symbols.publishStateAddress.toNat, symbols.publishStateAddress.toNat + 2) ∨
      range = (symbols.runtimeStateAddress.toNat, symbols.runtimeStateAddress.toNat + 1) := by
    intro range
    rw [mutableRanges, List.mem_mergeSort]
    simp only [List.mem_cons, List.not_mem_nil, or_false]
  have nonempty : ∀ range ∈ mutableRanges symbols, range.1 < range.2 := by
    intro range hr
    rcases (mem range).1 hr with rfl | rfl | rfl
    · exact Nat.lt_add_of_pos_right (by decide)
    · exact Nat.lt_add_of_pos_right (by decide)
    · exact Nat.lt_add_of_pos_right (by decide)
  have sorted := (Intervals.neighboursOverlap_iff nonempty).1 neighbours
  have either : (mutableRanges symbols).Pairwise fun i j : Nat × Nat => i.2 ≤ j.1 ∨ j.2 ≤ i.1 :=
    sorted.imp fun before => .inl before
  have listed := ((List.mergeSort_perm _ _).pairwise_iff fun h => Or.symm h).1 either
  have pair := (List.pairwise_cons.1 listed).1
    (symbols.publishStateAddress.toNat, symbols.publishStateAddress.toNat + 2)
    (List.mem_cons_self)
  have header := immutable _ ((mem _).2 (.inl rfl))
  have publish := immutable _ ((mem _).2 (.inr (.inl rfl)))
  simp only [gt_iff_lt, Bool.and_eq_true, decide_eq_true_eq, not_and, Nat.not_lt] at header publish
  refine ⟨pair, ?_, ?_⟩
  · by_cases before : symbols.headerAddress.toNat < symbols.immutableEndExclusive.toNat
    · exact .inl (header before)
    · exact .inr (Nat.not_lt.1 before)
  · by_cases before : symbols.publishStateAddress.toNat < symbols.immutableEndExclusive.toNat
    · exact .inl (publish before)
    · exact .inr (Nat.not_lt.1 before)

/-- Whether the image goes on there is not changed by a replacement elsewhere. -/
theorem Replaced.runsPast {image' : FirmwareImage} {address stop : Nat} {words : List UInt16}
    (replaced : Replaced image address words image')
    (outside : stop < address ∨ address + words.length ≤ stop) :
    RunsPast image' stop ↔ RunsPast image stop := by
  unfold RunsPast FirmwareImage.Covers
  rw [covered_iff, covered_iff]
  simp only [replaced.outside _ _ outside]

/-- The steps of the patch that the checks let through. -/
theorem patch_steps (checks : ServiceChecks symbols image) (capabilities : UInt32) :
    ∃ immutable dense,
      replaceWords image symbols.immutableStart.toNat immutable = .ok dense ∧
      Replaced image symbols.immutableStart.toNat immutable dense ∧
      Dense image symbols.immutableStart.toNat symbols.immutableEndExclusive.toNat immutable ∧
      patchFlashServiceImage symbols image capabilities =
        (replaceWords dense symbols.publishStateAddress.toNat [0, 0]).bind fun cleared =>
          patchWords cleared symbols.headerAddress.toNat
            (serviceHeader symbols capabilities immutable) := by
  have low := symbols.immutableStart.toNat_lt
  have high := symbols.immutableEndExclusive.toNat_lt
  have nonempty : symbols.immutableStart.toNat < symbols.immutableEndExclusive.toNat :=
    UInt32.lt_iff_toNat_lt.1 symbols.immutable_ne
  obtain ⟨block, made, address, dense⟩ :=
    (@denseImmutable_ok _ _ image) nonempty (by omega) (by omega)
  have length := dense.length
  have clear : ¬ RunsPast image (symbols.immutableStart.toNat + block.words.length) := by
    rintro ⟨past, -⟩
    omega
  obtain ⟨image', replaced, words⟩ := replaceWords_ok (show symbols.immutableStart.toNat ≤ 0xFFFFFFFF
    by omega) block.words_ne clear
  refine ⟨block.words, image', replaced, words, dense, ?_⟩
  rw [patchFlashServiceImage, if_neg (by rw [checks.header]; decide),
    if_neg (by rw [checks.entries]; decide), if_neg (by rw [checks.apart]; decide), made]
  show (replaceWords image block.address block.words).bind _ = _
  rw [address, replaced]
  rfl

/-- A patch that does not cut the image behind the address space changes what it must. -/
theorem patch_ok (checks : ServiceChecks symbols image) (capabilities : UInt32)
    (publishFits : ¬ RunsPast image (symbols.publishStateAddress.toNat + 2))
    (headerFits : ¬ RunsPast image (symbols.headerAddress.toNat + serviceHeaderWords)) :
    ∃ image' immutable header, patchFlashServiceImage symbols image capabilities = .ok image' ∧
      ServicePatched symbols image capabilities image' immutable header := by
  obtain ⟨pair, headerClear, publishClear⟩ := mutable_clear checks.apart
  obtain ⟨immutable, dense, -, replaced, content, steps⟩ := patch_steps checks capabilities
  have low := symbols.publishStateAddress.toNat_lt
  have low' := symbols.headerAddress.toNat_lt
  have length := content.length
  have nonempty : symbols.immutableStart.toNat < symbols.immutableEndExclusive.toNat :=
    UInt32.lt_iff_toNat_lt.1 symbols.immutable_ne
  have high := symbols.immutableEndExclusive.toNat_lt
  have publishFits' : ¬ RunsPast dense (symbols.publishStateAddress.toNat + 2) := by
    intro past
    have := past.1
    exact publishFits ((replaced.runsPast (by omega)).1 past)
  obtain ⟨cleared, made, words⟩ := replaceWords_ok (show symbols.publishStateAddress.toNat ≤ 0xFFFFFFFF
    by omega) (List.cons_ne_nil (0 : UInt16) [0]) publishFits'
  have two : ([0, 0] : List UInt16).length = 2 := rfl
  have count : serviceHeaderWords = 28 := rfl
  unfold Clear at pair
  -- the header range stays inside one block
  have inside : insideBlock cleared symbols.headerAddress.toNat serviceHeaderWords = true := by
    rw [insideBlock_iff]
    apply words.whole _ _ (by omega) (by omega)
    apply replaced.whole _ _ (by omega) (by omega)
    exact insideBlock_iff.1 checks.header
  have headerFits' : ¬ RunsPast cleared (symbols.headerAddress.toNat +
      (serviceHeader symbols capabilities immutable).length) := by
    rw [length_serviceHeader]
    intro past
    have := past.1
    exact headerFits ((replaced.runsPast (by omega)).1 ((words.runsPast (by omega)).1 past))
  obtain ⟨image', made', header⟩ := replaceWords_ok (show symbols.headerAddress.toNat ≤ 0xFFFFFFFF
    by omega) (serviceHeader_ne symbols capabilities immutable) headerFits'
  have headerLength := length_serviceHeader symbols capabilities immutable
  refine ⟨image', immutable, serviceHeader symbols capabilities immutable, ?_, ?_⟩
  · rw [steps, made]
    show patchWords cleared _ _ = _
    rw [patchWords, length_serviceHeader, if_neg (by rw [inside]; decide), made']
  · refine ⟨header.sorted, header.entryPoint.trans (words.entryPoint.trans replaced.entryPoint),
      content, rfl, ?_, ?_, ?_, ?_, ?_, ?_⟩
    · intro a w lower upper
      rw [header.outside a w (by omega), words.outside a w (by omega),
        replaced.inside a w lower (by omega)]
    · intro a w lower upper
      rw [header.outside a w (by omega), words.inside a w lower (by omega)]
      have place : a - symbols.publishStateAddress.toNat = 0 ∨
          a - symbols.publishStateAddress.toNat = 1 := by omega
      rcases place with zero | one
      · rw [zero]
        exact ⟨fun h => (Option.some.inj h).symm, fun h => h ▸ rfl⟩
      · rw [one]
        exact ⟨fun h => (Option.some.inj h).symm, fun h => h ▸ rfl⟩
    · intro a w lower upper
      exact header.inside a w lower (by omega)
    · intro a w clear clear' clear''
      rw [header.outside a w (by omega), words.outside a w (by omega),
        replaced.outside a w (by omega)]
    · exact Words.joinU32_lowWord_highWord _
    · exact Words.joinU32_lowWord_highWord _

/-- A patch that cuts the image behind the address space fails at a constructor. -/
theorem patch_high (checks : ServiceChecks symbols image) (capabilities : UInt32)
    (past : RunsPast image (symbols.publishStateAddress.toNat + 2) ∨
      RunsPast image (symbols.headerAddress.toNat + serviceHeaderWords)) :
    patchFlashServiceImage symbols image capabilities =
      .error (.valueError "block address must fit uint32") := by
  obtain ⟨pair, headerClear, publishClear⟩ := mutable_clear checks.apart
  obtain ⟨immutable, dense, -, replaced, content, steps⟩ := patch_steps checks capabilities
  have low := symbols.publishStateAddress.toNat_lt
  have length := content.length
  have nonempty : symbols.immutableStart.toNat < symbols.immutableEndExclusive.toNat :=
    UInt32.lt_iff_toNat_lt.1 symbols.immutable_ne
  have high := symbols.immutableEndExclusive.toNat_lt
  have two : ([0, 0] : List UInt16).length = 2 := rfl
  have count : serviceHeaderWords = 28 := rfl
  have some : ([0, 0] : List UInt16) ≠ [] := List.cons_ne_nil _ _
  unfold Clear at pair
  rw [steps]
  by_cases publishPast : RunsPast dense (symbols.publishStateAddress.toNat + 2)
  · rw [replaceWords_high some publishPast]
    rfl
  · have headerPast : RunsPast image (symbols.headerAddress.toNat + serviceHeaderWords) := by
      rcases past with past | past
      · have := past.1
        exact absurd ((replaced.runsPast (by omega)).2 past) publishPast
      · exact past
    have behind := headerPast.1
    obtain ⟨cleared, made, words⟩ := replaceWords_ok
      (show symbols.publishStateAddress.toNat ≤ 0xFFFFFFFF by omega) some publishPast
    have inside : insideBlock cleared symbols.headerAddress.toNat serviceHeaderWords = true := by
      rw [insideBlock_iff]
      apply words.whole _ _ (by omega) (by omega)
      apply replaced.whole _ _ (by omega) (by omega)
      exact insideBlock_iff.1 checks.header
    have past' : RunsPast cleared (symbols.headerAddress.toNat +
        (serviceHeader symbols capabilities immutable).length) := by
      rw [length_serviceHeader]
      exact (words.runsPast (by omega)).2 ((replaced.runsPast (by omega)).2 headerPast)
    rw [made]
    show patchWords cleared _ _ = _
    rw [patchWords, length_serviceHeader, if_neg (by rw [inside]; decide),
      replaceWords_high (serviceHeader_ne symbols capabilities immutable) past']

end

/-- Behind its checks the patch returns an image in which it has changed what it must and nothing
else, exactly when the image does not go on behind the address space where it is cut. -/
theorem service_patch (symbols : TiMapSymbols) (image : FirmwareImage)
    (checks : ServiceChecks symbols image) (capabilities : UInt32) :
    (∃ image' immutable header, patchFlashServiceImage symbols image capabilities = .ok image' ∧
      ServicePatched symbols image capabilities image' immutable header) ↔
    ¬ RunsPast image (symbols.publishStateAddress.toNat + 2) ∧
      ¬ RunsPast image (symbols.headerAddress.toNat + serviceHeaderWords) := by
  constructor
  · rintro ⟨image', immutable, header, patched, -⟩
    rw [← not_or]
    intro past
    rw [patch_high checks capabilities past] at patched
    cases patched
  · rintro ⟨publishFits, headerFits⟩
    exact patch_ok checks capabilities publishFits headerFits

/-! ## A block that goes on behind the address space -/

def topSymbols : TiMapSymbols where
  headerAddress := 0xFFFFFFC0
  publishStateAddress := 0xFFFFFFFE
  runtimeStateAddress := 0xFFFFFFF0
  appExportAddress := 0xFFFFFFE0
  immutableStart := 0xFFFFFFE0
  immutableEndExclusive := 0xFFFFFFE8
  bootInitAddress := 0xFFFFFFE0
  bootHandleCommandAddress := 0xFFFFFFE2
  confirmCurrentImageAddress := 0xFFFFFFE4
  immutable_ne := by decide

/-- One block that ends `n` words behind the first word of the header. -/
def topImage (n : Nat) (some : List.replicate n (0x1234 : UInt16) ≠ []) : FirmwareImage where
  entryPoint := 0xFFFFFFE0
  blocks := [⟨0xFFFFFFC0, List.replicate n 0x1234, by decide, some⟩]
  entryPoint_le := by decide
  blocks_ne := List.cons_ne_nil _ _
  apart := blocksOverlap_of_pairwise (List.pairwise_singleton ..)

theorem topImage_checks {n : Nat} {some : List.replicate n (0x1234 : UInt16) ≠ []} (long : 28 ≤ n) :
    ServiceChecks topSymbols (topImage n some) where
  header := by
    rw [insideBlock_iff]
    refine ⟨_, List.mem_singleton_self _, Nat.le_refl _, ?_⟩
    show 0xFFFFFFC0 + 28 ≤ 0xFFFFFFC0 + (List.replicate n (0x1234 : UInt16)).length
    rw [List.length_replicate]
    omega
  entries := by decide
  apart := by
    simp [mutableOverlap, mutableRanges, topSymbols, serviceHeaderWords, Intervals.neighboursOverlap,
      List.mergeSort]

theorem covers_topImage {n a : Nat} {some : List.replicate n (0x1234 : UInt16) ≠ []} :
    (topImage n some).Covers a ↔ 0xFFFFFFC0 ≤ a ∧ a < 0xFFFFFFC0 + n := by
  have range : (topImage n some).blocks.map (·.range) = [(0xFFFFFFC0, 0xFFFFFFC0 + n)] := by
    show [((0xFFFFFFC0, 0xFFFFFFC0 + (List.replicate n (0x1234 : UInt16)).length) : Nat × Nat)] = _
    rw [List.length_replicate]
  rw [FirmwareImage.Covers, range]
  constructor
  · rintro ⟨_, mem, inside⟩
    rw [List.mem_singleton.1 mem] at inside
    exact inside
  · intro inside
    exact ⟨_, List.mem_singleton_self _, inside⟩

/-- The image ends where the address space does. -/
theorem service_patch_top : ∃ image' immutable header,
    patchFlashServiceImage topSymbols (topImage 64 (List.cons_ne_nil _ _)) = .ok image' ∧
      ServicePatched topSymbols (topImage 64 (List.cons_ne_nil _ _)) serviceRequiredCapabilities
        image' immutable header := by
  apply (service_patch topSymbols (topImage 64 (List.cons_ne_nil _ _)) (topImage_checks (by decide))
    serviceRequiredCapabilities).2
  constructor
  · rintro ⟨-, covers⟩
    have := (covers_topImage.1 covers).2
    exact absurd this (by decide)
  · rintro ⟨high, -⟩
    exact absurd high (by decide)

/-- Sixteen words more, and the patch fails behind its checks. -/
theorem service_patch_fails :
    ServiceChecks topSymbols (topImage 80 (List.cons_ne_nil _ _)) ∧
    patchFlashServiceImage topSymbols (topImage 80 (List.cons_ne_nil _ _)) =
      .error (.valueError "block address must fit uint32") := by
  have checks : ServiceChecks topSymbols (topImage 80 (List.cons_ne_nil _ _)) :=
    topImage_checks (by decide)
  refine ⟨checks, patch_high checks serviceRequiredCapabilities (.inl ⟨by decide, ?_⟩)⟩
  exact covers_topImage.2 ⟨by decide, by decide⟩

end ServiceImage

end BootUpgrade

import BootUpgrade.Lib.Intervals

/-!
# The firmware images of `firmware/models.py`

A block carries data, and the blocks of an image do not overlap, whatever order
they come in: the constructors of the source refuse anything else.
-/

namespace BootUpgrade

/-- `FrameError` and its subclasses. -/
inductive FrameErrorKind where
  | frameError
  | frameLengthError
  | headerCrcError
  | payloadCrcError
  deriving DecidableEq, Repr

/-- The exceptions of the host, with their messages or their fields. -/
inductive HostError where
  | valueError (message : String)
  | frameError (kind : FrameErrorKind) (message : String)
  | protocolDecodeError (message : String)
  | transportError (message : String)
  | dataAlignmentError (message : String)
  | workflowError (message : String)
  | payloadLimitError (command : UInt16) (actualPayloadWords effectiveMaxPayloadWords : Nat)
  | protocolStatusError (command status : UInt16)
  | transportTimeoutError
  | operationFailure (code message stage : String)
  | unsupportedOperationError (message : String)
  deriving DecidableEq, Repr

structure FirmwareBlock where
  address : Nat
  words : List UInt16
  address_le : address ≤ 0xFFFFFFFF
  words_ne : words ≠ []

namespace FirmwareBlock

/-- `FirmwareBlock.__init__`; its words fit uint16 by their type. -/
def create (address : Nat) (words : List UInt16) : Except HostError FirmwareBlock :=
  if fits : address ≤ 0xFFFFFFFF then
    if empty : words = [] then .error (.valueError "firmware block must contain data")
    else .ok ⟨address, words, fits, empty⟩
  else .error (.valueError "block address must fit uint32")

def endExclusive (block : FirmwareBlock) : Nat := block.address + block.words.length

/-- `AddressRange(block.address, block.end_exclusive)`. -/
def range (block : FirmwareBlock) : Nat × Nat := (block.address, block.endExclusive)

/-- The word of the block at address `a`. -/
def wordAt (block : FirmwareBlock) (a : Nat) : Option UInt16 :=
  if block.address ≤ a then block.words[a - block.address]? else none

theorem wordAt_some {block : FirmwareBlock} {a : Nat} :
    (∃ w, block.wordAt a = some w) ↔ block.address ≤ a ∧ a < block.endExclusive := by
  unfold wordAt endExclusive
  by_cases h : block.address ≤ a
  · rw [if_pos h]
    constructor
    · rintro ⟨w, hw⟩
      obtain ⟨lt, -⟩ := List.getElem?_eq_some_iff.1 hw
      omega
    · rintro ⟨-, lt⟩
      exact ⟨_, List.getElem?_eq_getElem (by omega)⟩
  · simp [h]

theorem address_lt_end (block : FirmwareBlock) : block.address < block.endExclusive := by
  have := List.length_pos_iff.2 block.words_ne
  unfold endExclusive
  omega

end FirmwareBlock

/-- `sorted(blocks, key=lambda block: block.address)`. -/
def sortedBlocks (blocks : List FirmwareBlock) : List FirmwareBlock :=
  blocks.mergeSort fun left right => left.address ≤ right.address

/-- The overlap test of `FirmwareImage.__init__`. -/
def blocksOverlap (blocks : List FirmwareBlock) : Bool :=
  let sortedRanges := (blocks.map (·.range)).mergeSort fun left right => left.1 ≤ right.1
  (sortedRanges.zip sortedRanges.tail).any fun pair => pair.1.2 > pair.2.1

/-- An image as the operations use it. -/
structure FirmwareImage where
  entryPoint : Nat
  blocks : List FirmwareBlock
  entryPoint_le : entryPoint ≤ 0xFFFFFFFF
  blocks_ne : blocks ≠ []
  apart : blocksOverlap blocks = false

/-- `FirmwareImage.__init__`. -/
def FirmwareImage.create (entryPoint : Nat) (blocks : List FirmwareBlock) :
    Except HostError FirmwareImage :=
  if fits : entryPoint ≤ 0xFFFFFFFF then
    if empty : blocks = [] then
      .error (.valueError "firmware image must contain at least one block")
    else if apart : blocksOverlap blocks = false then .ok ⟨entryPoint, blocks, fits, empty, apart⟩
    else .error (.valueError "firmware blocks overlap")
  else .error (.valueError "entry point must fit uint32")

/-- `FirmwareImage.total_words`. -/
def FirmwareImage.totalWords (image : FirmwareImage) : Nat :=
  image.blocks.foldl (fun total block => total + block.words.length) 0

/-! ## Blocks in address order -/

theorem mem_sortedBlocks {blocks : List FirmwareBlock} {block : FirmwareBlock} :
    block ∈ sortedBlocks blocks ↔ block ∈ blocks := List.mem_mergeSort

theorem sortedBlocks_ranges (blocks : List FirmwareBlock) :
    (sortedBlocks blocks).map (·.range) =
      (blocks.map (·.range)).mergeSort fun left right => left.1 ≤ right.1 :=
  List.map_mergeSort fun _ _ _ _ => rfl

/-- Blocks follow one another exactly when no neighbours overlap. -/
theorem ranges_follow {blocks : List FirmwareBlock} :
    Intervals.neighboursOverlap (blocks.map (·.range)) = false ↔
      blocks.Pairwise fun left right => left.endExclusive ≤ right.address := by
  have nonempty : ∀ i ∈ blocks.map (·.range), i.1 < i.2 := by
    intro i hi
    obtain ⟨block, -, rfl⟩ := List.mem_map.1 hi
    exact block.address_lt_end
  rw [Intervals.neighboursOverlap_iff nonempty, List.pairwise_map]
  rfl

/-- The blocks of an image, sorted, follow one another. -/
theorem FirmwareImage.sorted (image : FirmwareImage) :
    (sortedBlocks image.blocks).Pairwise fun left right => left.endExclusive ≤ right.address := by
  rw [← ranges_follow, sortedBlocks_ranges]
  exact image.apart

theorem sortedBlocks_of_pairwise {blocks : List FirmwareBlock}
    (sorted : blocks.Pairwise fun left right => left.endExclusive ≤ right.address) :
    sortedBlocks blocks = blocks := by
  apply List.mergeSort_of_pairwise
  apply sorted.imp
  intro left right before
  have := left.address_lt_end
  simp only [decide_eq_true_eq]
  omega

/-- Blocks in order pass the overlap test. -/
theorem blocksOverlap_of_pairwise {blocks : List FirmwareBlock}
    (sorted : blocks.Pairwise fun left right => left.endExclusive ≤ right.address) :
    blocksOverlap blocks = false := by
  have neighbours := ranges_follow.2 sorted
  unfold blocksOverlap
  rw [← sortedBlocks_ranges, sortedBlocks_of_pairwise sorted]
  exact neighbours

/-- One of the blocks has the word `w` at address `a`. -/
def HasWord (blocks : List FirmwareBlock) (a : Nat) (w : UInt16) : Prop :=
  ∃ block ∈ blocks, block.wordAt a = some w

/-- Blocks that follow one another have one word at an address. -/
theorem hasWord_unique {blocks : List FirmwareBlock}
    (sorted : blocks.Pairwise fun left right => left.endExclusive ≤ right.address) {a : Nat}
    {v w : UInt16} (hv : HasWord blocks a v) (hw : HasWord blocks a w) : v = w := by
  induction blocks with
  | nil =>
    obtain ⟨_, mem, -⟩ := hv
    cases mem
  | cons block rest ih =>
    obtain ⟨later, sorted⟩ := List.pairwise_cons.1 sorted
    have apart : ∀ v w, block.wordAt a = some v → ¬ HasWord rest a w := by
      rintro v w first ⟨other, mem, second⟩
      have inside := FirmwareBlock.wordAt_some.1 ⟨v, first⟩
      have inside' := FirmwareBlock.wordAt_some.1 ⟨w, second⟩
      have := later other mem
      omega
    obtain ⟨left, hl, first⟩ := hv
    obtain ⟨right, hr, second⟩ := hw
    rcases List.mem_cons.1 hl with rfl | hl'
    · rcases List.mem_cons.1 hr with rfl | hr'
      · rw [first] at second
        exact Option.some.inj second
      · exact absurd ⟨right, hr', second⟩ (apart v w first)
    · rcases List.mem_cons.1 hr with rfl | hr'
      · exact absurd ⟨left, hl', first⟩ (apart w v second)
      · exact ih sorted ⟨left, hl', first⟩ ⟨right, hr', second⟩

/-- An image has one word at an address. -/
theorem FirmwareImage.hasWord_unique (image : FirmwareImage) {a : Nat} {v w : UInt16}
    (hv : HasWord image.blocks a v) (hw : HasWord image.blocks a w) : v = w := by
  have sorted : ∀ {w}, HasWord image.blocks a w → HasWord (sortedBlocks image.blocks) a w := by
    rintro w ⟨block, mem, found⟩
    exact ⟨block, mem_sortedBlocks.2 mem, found⟩
  exact BootUpgrade.hasWord_unique image.sorted (sorted hv) (sorted hw)

/-- The addresses of an image. -/
def FirmwareImage.Covers (image : FirmwareImage) (a : Nat) : Prop :=
  Intervals.Covered (image.blocks.map (·.range)) a

theorem covered_iff {blocks : List FirmwareBlock} {a : Nat} :
    Intervals.Covered (blocks.map (·.range)) a ↔ ∃ w, HasWord blocks a w := by
  constructor
  · rintro ⟨_, mem, inside⟩
    obtain ⟨block, hb, rfl⟩ := List.mem_map.1 mem
    obtain ⟨w, hw⟩ := FirmwareBlock.wordAt_some.2 inside
    exact ⟨w, block, hb, hw⟩
  · rintro ⟨w, block, hb, hw⟩
    exact ⟨block.range, List.mem_map_of_mem hb, FirmwareBlock.wordAt_some.1 ⟨w, hw⟩⟩

end BootUpgrade

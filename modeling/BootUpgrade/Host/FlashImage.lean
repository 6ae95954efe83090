import BootUpgrade.F28377D.Sectors
import BootUpgrade.Host.Packets

/-!
# Flash App images

The memory map of the target, the sector mask of `firmware/flash_layout.py` and
`prepare_flash_app_image`, which checks an image before any operation sees it.
-/

namespace BootUpgrade

/-! ## The memory map -/

structure AddressRange where
  start : Nat
  endExclusive : Nat
  start_lt : start < endExclusive

def AddressRange.containsRange (range : AddressRange) (start wordCount : Nat) : Bool :=
  wordCount > 0 && range.start ≤ start && start + wordCount ≤ range.endExclusive

structure FlashLayout where
  appRanges : List AddressRange
  allowedEraseMask : Nat
  forbiddenEraseMask : Nat
  metadataSectorMask : Nat

structure MetadataLayout where
  range : AddressRange

structure TargetMemoryMap where
  flash : Option FlashLayout
  metadata : Option MetadataLayout

namespace Cpu1

/-- The Flash layout of `CPU1_MEMORY_MAP`. -/
def flash : FlashLayout where
  appRanges := [⟨0x082400, 0x0C0000, by decide⟩]
  allowedEraseMask := 0x00003FFE
  forbiddenEraseMask := 0x00000001
  metadataSectorMask := 0x00000002

def metadata : MetadataLayout where
  range := ⟨0x082000, 0x082400, by decide⟩

def memoryMap : TargetMemoryMap := ⟨some flash, some metadata⟩

end Cpu1

namespace HostImages

/-- `SECTORS`: start, exclusive end and mask bit. -/
def sectors : List (Nat × Nat × Nat) :=
  [(0x080000, 0x082000, 0), (0x082000, 0x084000, 1), (0x084000, 0x086000, 2),
    (0x086000, 0x088000, 3), (0x088000, 0x090000, 4), (0x090000, 0x098000, 5),
    (0x098000, 0x0A0000, 6), (0x0A0000, 0x0A8000, 7), (0x0A8000, 0x0B0000, 8),
    (0x0B0000, 0x0B8000, 9), (0x0B8000, 0x0BA000, 10), (0x0BA000, 0x0BC000, 11),
    (0x0BC000, 0x0BE000, 12), (0x0BE000, 0x0C0000, 13)]

/-- The block has a word in the sector. -/
def touches (block : FirmwareBlock) (sector : Nat × Nat × Nat) : Bool :=
  block.address < sector.2.1 && block.endExclusive > sector.1

/-- The inner loop of `image_sector_mask`. -/
def blockSectorMask (block : FirmwareBlock) (mask : Nat) : Nat :=
  sectors.foldl (fun mask sector =>
    if touches block sector then mask ||| 1 <<< sector.2.2 else mask) mask

/-- `image_sector_mask`. -/
def imageSectorMask (image : FirmwareImage) : Nat :=
  image.blocks.foldl (fun mask block => blockSectorMask block mask) 0

/-- `a & ~b`. -/
def andNot (a b : Nat) : Nat := a ^^^ (a &&& b)

structure ImageIdentity where
  entryPoint : Nat
  imageSizeWords : Nat
  imageCrc32 : UInt32
  appEnd : Nat
  deriving DecidableEq, Repr

structure PreparedFlashImage where
  image : FirmwareImage
  identity : ImageIdentity
  sectorMask : Nat

/-- `_inside_any`. -/
def insideAny (start endExclusive : Nat) (ranges : List AddressRange) : Bool :=
  ranges.any fun item => item.containsRange start (endExclusive - start)

/-- The loop of `prepare_flash_app_image` over the blocks. -/
def checkBlocks (flash : FlashLayout) (metadata : MetadataLayout) :
    List FirmwareBlock → Except HostError Unit
  | [] => .ok ()
  | block :: rest =>
    if ¬ insideAny block.address block.endExclusive flash.appRanges then
      .error (.valueError "Flash App block is outside target app ranges")
    else if metadata.range.containsRange block.address block.words.length then
      .error (.valueError "Flash App block overlaps metadata range")
    else checkBlocks flash metadata rest

/-- The size, the end and the CRC32 of the packets of `m` words. -/
def imageIdentity (image : FirmwareImage) (m : Nat) : Except HostError ImageIdentity := do
  let (sizeWords, appEnd) ← HostWorkflow.programmedImageSizeAndEnd image m
  let crc32 ← HostWorkflow.calculateProgrammedImageCrc32 image m
  return ⟨image.entryPoint, sizeWords, crc32, appEnd⟩

/-- `prepare_flash_app_image`, from the image that `load_firmware_image` has read. -/
def prepareFlashAppImage (memoryMap : TargetMemoryMap) (image : FirmwareImage) :
    Except HostError PreparedFlashImage :=
  match memoryMap.flash, memoryMap.metadata with
  | some flash, some metadata =>
    if ¬ insideAny image.entryPoint (image.entryPoint + 1) flash.appRanges then
      .error (.valueError "Flash App entry point is outside target app ranges")
    else if image.entryPoint % 8 ≠ 0 then
      .error (.valueError "Flash App entry point must be 8-word aligned")
    else
      match checkBlocks flash metadata image.blocks with
      | .error e => .error e
      | .ok () =>
        let sectorMask := imageSectorMask image
        if sectorMask = 0 then
          .error (.valueError "image does not touch any known Flash sector")
        else if sectorMask &&& flash.forbiddenEraseMask ≠ 0 then
          .error (.valueError "image requires a forbidden erase sector")
        else if andNot sectorMask flash.allowedEraseMask ≠ 0 then
          .error (.valueError "image requires a sector outside target erase mask")
        else
          match imageIdentity image 248 with
          | .error e => .error e
          | .ok identity => .ok ⟨image, identity, sectorMask ||| flash.metadataSectorMask⟩
  | _, _ => .error (.valueError "target must define flash and metadata layouts")

/-! ## The sector mask -/

theorem testBit_foldl {α : Type} (bits : α → Nat → Bool) (step : Nat → α → Nat)
    (hstep : ∀ mask x i, (step mask x).testBit i = (mask.testBit i || bits x i)) (xs : List α)
    (mask i : Nat) :
    (xs.foldl step mask).testBit i = true ↔ mask.testBit i = true ∨ ∃ x ∈ xs, bits x i = true := by
  induction xs generalizing mask with
  | nil => simp
  | cons x xs ih =>
    rw [List.foldl_cons, ih, hstep, Bool.or_eq_true, or_assoc]
    simp

theorem testBit_blockSectorMask (block : FirmwareBlock) (mask i : Nat) :
    (blockSectorMask block mask).testBit i =
      (mask.testBit i || sectors.any fun s => touches block s && s.2.2 == i) := by
  rw [Bool.eq_iff_iff, blockSectorMask,
    testBit_foldl (fun s i => touches block s && s.2.2 == i), Bool.or_eq_true, List.any_eq_true]
  intro mask s i
  split
  · rename_i h
    rw [Nat.testBit_or, Nat.one_shiftLeft, Nat.testBit_two_pow, h, Bool.true_and]
    rfl
  · rename_i h
    rw [Bool.not_eq_true] at h
    rw [h, Bool.false_and, Bool.or_false]

theorem mem_sectors {s : Nat × Nat} {i : Nat} :
    (s.1, s.2, i) ∈ sectors ↔ F28377D.sectorTable[i]? = some s := by
  have table : sectors = F28377D.sectorTable.zipIdx.map fun p => (p.1.1, p.1.2, p.2) := by decide
  rw [table, List.mem_map]
  constructor
  · rintro ⟨p, hp, same⟩
    obtain ⟨first, second, third⟩ : p.1.1 = s.1 ∧ p.1.2 = s.2 ∧ p.2 = i := by simpa using same
    rw [← third, ← (Prod.ext first second : p.1 = s)]
    exact List.mem_zipIdx_iff_getElem?.1 hp
  · intro h
    exact ⟨(s, i), List.mem_zipIdx_iff_getElem?.2 h, rfl⟩

theorem touches_iff {block : FirmwareBlock} {s : Nat × Nat} {i : Nat} (hs : s.1 < s.2) :
    touches block (s.1, s.2, i) = true ↔
      ∃ a, (block.address ≤ a ∧ a < block.endExclusive) ∧ s.1 ≤ a ∧ a < s.2 := by
  have some := block.address_lt_end
  simp only [touches, Bool.and_eq_true, decide_eq_true_eq, gt_iff_lt]
  constructor
  · intro ⟨before, behind⟩
    exact ⟨max block.address s.1, by omega, by omega⟩
  · rintro ⟨a, inside, sector⟩
    omega

/-- The bit of a sector says whether the image has a word in it. -/
theorem testBit_imageSectorMask (image : FirmwareImage) (i : Nat) :
    (imageSectorMask image).testBit i = true ↔
      ∃ s, F28377D.sectorTable[i]? = some s ∧ ∃ a, image.Covers a ∧ s.1 ≤ a ∧ a < s.2 := by
  have nonempty : ∀ s ∈ F28377D.sectorTable, s.1 < s.2 := by decide
  rw [imageSectorMask, testBit_foldl _ _ fun mask block i => testBit_blockSectorMask block mask i]
  simp only [Nat.zero_testBit, Bool.false_eq_true, false_or, List.any_eq_true, Bool.and_eq_true,
    beq_iff_eq]
  constructor
  · rintro ⟨block, hb, s, hs, touch, rfl⟩
    have entry := mem_sectors (s := (s.1, s.2.1)).1 hs
    obtain ⟨a, inside, sector⟩ :=
      (touches_iff (s := (s.1, s.2.1)) (nonempty _ (List.mem_of_getElem? entry))).1 touch
    exact ⟨_, entry, a, ⟨block.range, List.mem_map_of_mem hb, inside⟩, sector⟩
  · rintro ⟨s, entry, a, ⟨_, mem, inside⟩, sector⟩
    obtain ⟨block, hb, rfl⟩ := List.mem_map.1 mem
    have touch := (touches_iff (i := i) (nonempty _ (List.mem_of_getElem? entry))).2
      ⟨a, inside, sector⟩
    exact ⟨block, hb, _, mem_sectors.2 entry, touch, rfl⟩

/-! ## What a prepared image satisfies -/

/-- The range of `Cpu1.flash`. -/
theorem insideAny_cpu1 {start stop : Nat} (h : start < stop) :
    insideAny start stop Cpu1.flash.appRanges = true ↔ 0x082400 ≤ start ∧ stop ≤ 0x0C0000 := by
  simp only [insideAny, Cpu1.flash, List.any_cons, List.any_nil, Bool.or_false,
    AddressRange.containsRange, Bool.and_eq_true, decide_eq_true_eq]
  omega

theorem checkBlocks_ok {blocks : List FirmwareBlock}
    (h : checkBlocks Cpu1.flash Cpu1.metadata blocks = .ok ()) :
    ∀ block ∈ blocks, 0x082400 ≤ block.address ∧ block.endExclusive ≤ 0x0C0000 := by
  induction blocks with
  | nil =>
    intro block hb
    cases hb
  | cons block rest ih =>
    unfold checkBlocks at h
    split at h
    · cases h
    · rename_i inside
      split at h
      · cases h
      · rw [Decidable.not_not] at inside
        intro other ho
        rcases List.mem_cons.1 ho with rfl | ho
        · exact (insideAny_cpu1 other.address_lt_end).1 inside
        · exact ih h other ho

/-- An image that `prepare_flash_app_image` has accepted for CPU1. -/
structure Prepared (image : FirmwareImage) (prepared : PreparedFlashImage) : Prop where
  same : prepared.image = image
  entry : 0x082400 ≤ image.entryPoint ∧ image.entryPoint < 0x0C0000
  entryUnit : image.entryPoint % 8 = 0
  blocks : ∀ block ∈ image.blocks, 0x082400 ≤ block.address ∧ block.endExclusive ≤ 0x0C0000
  bootSector : imageSectorMask image &&& Cpu1.flash.forbiddenEraseMask = 0
  allowed : andNot (imageSectorMask image) Cpu1.flash.allowedEraseMask = 0
  identity : imageIdentity image 248 = .ok prepared.identity
  sectorMask : prepared.sectorMask = imageSectorMask image ||| Cpu1.flash.metadataSectorMask

theorem prepareFlashAppImage_ok {image : FirmwareImage} {prepared : PreparedFlashImage}
    (h : prepareFlashAppImage Cpu1.memoryMap image = .ok prepared) : Prepared image prepared := by
  unfold prepareFlashAppImage Cpu1.memoryMap at h
  dsimp only at h
  split at h
  · cases h
  rename_i entry
  split at h
  · cases h
  rename_i entryUnit
  split at h
  · cases h
  rename_i blocks
  split at h
  · cases h
  split at h
  · cases h
  rename_i bootSector
  split at h
  · cases h
  rename_i allowed
  split at h
  · cases h
  rename_i identity
  cases h
  rw [Decidable.not_not] at entry entryUnit bootSector allowed
  exact ⟨rfl, (insideAny_cpu1 (Nat.lt_succ_self _)).1 entry, entryUnit, checkBlocks_ok blocks,
    bootSector, allowed, identity, rfl⟩

/-- Every address of a prepared image lies in the application range. -/
theorem Prepared.covers {image : FirmwareImage} {prepared : PreparedFlashImage}
    (h : Prepared image prepared) {a : Nat} (ha : image.Covers a) :
    0x082400 ≤ a ∧ a < 0x0C0000 := by
  obtain ⟨_, mem, inside⟩ := ha
  obtain ⟨block, hb, rfl⟩ := List.mem_map.1 mem
  have := h.blocks block hb
  have : block.address ≤ a ∧ a < block.endExclusive := inside
  omega

end HostImages

end BootUpgrade

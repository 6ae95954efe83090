import BootUpgrade.Host.RamPackets

/-!
# Preparing a service for the target

`prepare_service_image` of `images/service_image.py` on the image and the symbols
that have been read. What it accepts lies in the service RAM of CPU1, before and
after the patch, and has fewer words than a load may have packets.
-/

namespace BootUpgrade

namespace HostWorkflow

/-- `calculate_service_ram_load_crc32`. -/
def calculateServiceRamLoadCrc32 (image : FirmwareImage) (maxDataWords : Nat) :
    Except HostError UInt32 := do
  let packets ← prepareServiceRamPackets image maxDataWords
  return crc32Words (packets.flatMap (·.words))

end HostWorkflow

namespace HostImages

open ServiceImage

/-- `symbol_ranges`. -/
def symbolRanges (symbols : TiMapSymbols) : List (Nat × Nat) :=
  [(symbols.headerAddress.toNat, symbols.headerAddress.toNat + serviceHeaderWords),
    (symbols.publishStateAddress.toNat, symbols.publishStateAddress.toNat + 2),
    (symbols.runtimeStateAddress.toNat, symbols.runtimeStateAddress.toNat + 1),
    (symbols.appExportAddress.toNat, symbols.appExportAddress.toNat + 2),
    (symbols.immutableStart.toNat, symbols.immutableEndExclusive.toNat),
    (symbols.bootInitAddress.toNat, symbols.bootInitAddress.toNat + 1),
    (symbols.bootHandleCommandAddress.toNat, symbols.bootHandleCommandAddress.toNat + 1),
    (symbols.confirmCurrentImageAddress.toNat, symbols.confirmCurrentImageAddress.toNat + 1)]

/-- The loop of `prepare_service_image` over the blocks. -/
def checkServiceBlocks (ram : RamLayout) : List FirmwareBlock → Except HostError Unit
  | [] => .ok ()
  | block :: rest =>
    if ¬ insideAny block.address block.endExclusive ram.serviceRanges then
      .error (.valueError "service image block is outside target service RAM")
    else if overlapsAny block.address block.endExclusive ram.reservedRanges then
      .error (.valueError "service image block overlaps reserved RAM")
    else checkServiceBlocks ram rest

/-- `prepare_service_image`. -/
def prepareServiceImage (ram : Option RamLayout) (symbols : TiMapSymbols) (image : FirmwareImage)
    (requiredCapabilities : UInt32 := serviceRequiredCapabilities) :
    Except HostError PreparedServiceImage :=
  match ram with
  | none => .error (.valueError "target must define a RAM layout")
  | some ram =>
    if (symbolRanges symbols).any fun range =>
        !insideAny range.1 range.2 ram.serviceRanges ||
          overlapsAny range.1 range.2 ram.reservedRanges then
      .error (.valueError "service map symbol is outside target service RAM")
    else do
      checkServiceBlocks ram image.blocks
      let patched ← patchFlashServiceImage symbols image requiredCapabilities
      let expectedCrc32 ← HostWorkflow.calculateServiceRamLoadCrc32 patched 248
      return ⟨patched, symbols.headerAddress.toNat, patched.totalWords, expectedCrc32,
        requiredCapabilities⟩

end HostImages

namespace HostWorkflow

/-- The CRC of a service does not depend on the size of its packets. -/
theorem calculateServiceRamLoadCrc32_ok {m : Nat} (positive : 0 < m) {image : FirmwareImage}
    {crc32 : UInt32} (calculated : calculateServiceRamLoadCrc32 image m = .ok crc32) :
    crc32 = crc32Words ((sortedBlocks image.blocks).flatMap (·.words)) := by
  unfold calculateServiceRamLoadCrc32 at calculated
  cases prepared : prepareServiceRamPackets image m with
  | error error =>
    rw [prepared] at calculated
    cases calculated
  | ok packets =>
    rw [prepared] at calculated
    rw [← (prepareServiceRamPackets_ok positive prepared).words]
    exact (Except.ok.inj calculated).symm

end HostWorkflow

namespace ServiceImage

open HostImages HostWorkflow

/-- The interval lies in the service RAM of CPU1. -/
def InServiceRam (start stop : Nat) : Prop := 0x010000 ≤ start ∧ stop ≤ 0x01BFF8

theorem inServiceRam_iff {start stop : Nat} (nonempty : start < stop) :
    insideAny start stop Cpu1.ram.serviceRanges = true ↔ InServiceRam start stop := by
  simp only [insideAny, Cpu1.ram, List.any_cons, List.any_nil, Bool.or_false,
    AddressRange.containsRange, Bool.and_eq_true, decide_eq_true_eq, InServiceRam]
  omega

theorem checkServiceBlocks_ok {blocks : List FirmwareBlock} :
    checkServiceBlocks Cpu1.ram blocks = .ok () ↔
      ∀ block ∈ blocks, InServiceRam block.address block.endExclusive := by
  induction blocks with
  | nil => simp [checkServiceBlocks]
  | cons block rest ih =>
    have free : overlapsAny block.address block.endExclusive Cpu1.ram.reservedRanges = false := rfl
    rw [List.forall_mem_cons, ← ih, ← inServiceRam_iff block.address_lt_end, checkServiceBlocks, free]
    by_cases inside : insideAny block.address block.endExclusive Cpu1.ram.serviceRanges = true
    · simp [inside]
    · simp [inside]

/-- The patch ends with an image only behind its checks, and then with the patched one. -/
theorem patch_patched {symbols : TiMapSymbols} {image image' : FirmwareImage} {capabilities : UInt32}
    (patched : patchFlashServiceImage symbols image capabilities = .ok image') :
    ServiceChecks symbols image ∧
      ∃ immutable header, ServicePatched symbols image capabilities image' immutable header := by
  have checks : ServiceChecks symbols image := by
    unfold patchFlashServiceImage at patched
    split at patched
    · cases patched
    rename_i header
    split at patched
    · cases patched
    rename_i entries
    split at patched
    · cases patched
    rename_i apart
    exact ⟨(Bool.not_eq_false _).mp header, (Bool.not_eq_false _).mp entries,
      Bool.eq_false_iff.2 apart⟩
  refine ⟨checks, ?_⟩
  by_cases past : RunsPast image (symbols.publishStateAddress.toNat + 2) ∨
      RunsPast image (symbols.headerAddress.toNat + serviceHeaderWords)
  · rw [patch_high checks capabilities past] at patched
    cases patched
  · rw [not_or] at past
    obtain ⟨image'', immutable, header, made, described⟩ :=
      patch_ok checks capabilities past.1 past.2
    cases patched.symm.trans made
    exact ⟨immutable, header, described⟩

/-- What `prepare_service_image` has checked and made. -/
structure AcceptedService (symbols : TiMapSymbols) (image : FirmwareImage) (capabilities : UInt32)
    (service : PreparedServiceImage) : Prop where
  checks : ServiceChecks symbols image
  symbolsInside : ∀ range ∈ symbolRanges symbols, InServiceRam range.1 range.2
  blocksInside : ∀ block ∈ image.blocks, InServiceRam block.address block.endExclusive
  patched : ∃ immutable header,
    ServicePatched symbols image capabilities service.image immutable header
  header : service.headerAddress = symbols.headerAddress.toNat
  words : service.totalWords = service.image.totalWords
  crc : service.expectedCrc32 = crc32Words ((sortedBlocks service.image.blocks).flatMap (·.words))
  capabilities : service.requiredCapabilities = capabilities

theorem symbolRanges_nonempty {symbols : TiMapSymbols} :
    ∀ range ∈ symbolRanges symbols, range.1 < range.2 := by
  have immutable := UInt32.lt_iff_toNat_lt.1 symbols.immutable_ne
  simp only [symbolRanges, serviceHeaderWords, List.forall_mem_cons]
  refine ⟨?_, ?_, ?_, ?_, immutable, ?_, ?_, ?_, fun _ mem => absurd mem List.not_mem_nil⟩ <;>
    omega

theorem prepareServiceImage_ok {symbols : TiMapSymbols} {image : FirmwareImage} {capabilities : UInt32}
    {service : PreparedServiceImage}
    (prepared : prepareServiceImage (some Cpu1.ram) symbols image capabilities = .ok service) :
    AcceptedService symbols image capabilities service := by
  unfold prepareServiceImage at prepared
  dsimp only at prepared
  split at prepared
  · cases prepared
  rename_i inside
  cases blocks : checkServiceBlocks Cpu1.ram image.blocks with
  | error error =>
    rw [blocks] at prepared
    cases prepared
  | ok value =>
    cases patched : patchFlashServiceImage symbols image capabilities with
    | error error =>
      rw [blocks, patched] at prepared
      cases prepared
    | ok image' =>
      cases calculated : calculateServiceRamLoadCrc32 image' 248 with
      | error error =>
        simp only [blocks, patched, calculated, bind, Except.bind] at prepared
        cases prepared
      | ok crc32 =>
        simp only [blocks, patched, calculated, bind, Except.bind, pure, Except.pure,
          Except.ok.injEq] at prepared
        subst prepared
        obtain ⟨checks, described⟩ := patch_patched patched
        refine ⟨checks, ?_, checkServiceBlocks_ok.1 blocks, described, rfl, rfl,
          calculateServiceRamLoadCrc32_ok (by decide) calculated, rfl⟩
        intro range mem
        rw [← inServiceRam_iff (symbolRanges_nonempty range mem)]
        cases within : insideAny range.1 range.2 Cpu1.ram.serviceRanges with
        | true => rfl
        | false => exact absurd (List.any_eq_true.2 ⟨range, mem, by simp [within]⟩) inside

section
variable {symbols : TiMapSymbols} {image : FirmwareImage} {capabilities : UInt32}
  {service : PreparedServiceImage} (accepted : AcceptedService symbols image capabilities service)
include accepted

/-- The words of the patched image lie in the service RAM. -/
theorem AcceptedService.covered {a : Nat} (covers : service.image.Covers a) :
    0x010000 ≤ a ∧ a < 0x01BFF8 := by
  obtain ⟨immutable, header, patched⟩ := accepted.patched
  obtain ⟨w, word⟩ := covered_iff.1 covers
  have inside := accepted.symbolsInside
  simp only [symbolRanges, InServiceRam, List.forall_mem_cons] at inside
  obtain ⟨headerIn, publishIn, -, -, immutableIn, -⟩ := inside
  by_cases others : (a < symbols.immutableStart.toNat ∨ symbols.immutableEndExclusive.toNat ≤ a) ∧
      (a < symbols.publishStateAddress.toNat ∨ symbols.publishStateAddress.toNat + 2 ≤ a) ∧
      (a < symbols.headerAddress.toNat ∨ symbols.headerAddress.toNat + serviceHeaderWords ≤ a)
  · obtain ⟨block, mem, found⟩ := (patched.others a w others.1 others.2.1 others.2.2).1 word
    obtain ⟨lower, upper⟩ := FirmwareBlock.wordAt_some.1 ⟨w, found⟩
    have := accepted.blocksInside block mem
    exact ⟨Nat.le_trans this.1 lower, Nat.lt_of_lt_of_le upper this.2⟩
  · omega

theorem AcceptedService.inside {block : FirmwareBlock} (mem : block ∈ service.image.blocks) :
    InServiceRam block.address block.endExclusive := by
  have covers : ∀ a, block.address ≤ a → a < block.endExclusive → service.image.Covers a :=
    fun a lower upper => ⟨_, List.mem_map_of_mem mem, lower, upper⟩
  have nonempty := block.address_lt_end
  have first := accepted.covered (covers block.address (Nat.le_refl _) nonempty)
  have last := accepted.covered (covers (block.endExclusive - 1) (by omega) (by omega))
  exact ⟨first.1, by omega⟩

theorem AcceptedService.few : service.image.totalWords ≤ 0xFFFF := by
  have bound : service.image.totalWords ≤ Intervals.room [(0x010000, 0x01BFF8)] 0 :=
    totalWords_le_room fun block mem => ⟨_, List.mem_singleton_self _, accepted.inside mem⟩
  have room : Intervals.room [(0x010000, 0x01BFF8)] 0 = 0xBFF8 := by decide
  omega

end

/-- What lies in the service RAM and passes the checks of the patch is prepared. -/
theorem prepareServiceImage_valid {symbols : TiMapSymbols} {image : FirmwareImage}
    {capabilities : UInt32} (checks : ServiceChecks symbols image)
    (symbolsInside : ∀ range ∈ symbolRanges symbols, InServiceRam range.1 range.2)
    (blocksInside : ∀ block ∈ image.blocks, InServiceRam block.address block.endExclusive) :
    ∃ service, prepareServiceImage (some Cpu1.ram) symbols image capabilities = .ok service := by
  have inside := symbolsInside
  simp only [symbolRanges, InServiceRam, List.forall_mem_cons] at inside
  obtain ⟨headerIn, publishIn, -⟩ := inside
  obtain ⟨image', immutable, header, patched, described⟩ := patch_ok checks capabilities
    (fun past => by have := past.1; omega) (fun past => by have := past.1; omega)
  have accepted : AcceptedService symbols image capabilities
      ⟨image', symbols.headerAddress.toNat, image'.totalWords,
        crc32Words ((sortedBlocks image'.blocks).flatMap (·.words)), capabilities⟩ :=
    ⟨checks, symbolsInside, blocksInside, ⟨immutable, header, described⟩, rfl, rfl, rfl, rfl⟩
  obtain ⟨packets, prepares⟩ := prepareServiceRamPackets_few (m := 248) (by decide) accepted.few
  have ranges : ((symbolRanges symbols).any fun range =>
      !insideAny range.1 range.2 Cpu1.ram.serviceRanges ||
        overlapsAny range.1 range.2 Cpu1.ram.reservedRanges) = false := by
    rw [List.any_eq_false]
    intro range mem
    have within := (inServiceRam_iff (symbolRanges_nonempty range mem)).2 (symbolsInside range mem)
    have free : overlapsAny range.1 range.2 Cpu1.ram.reservedRanges = false := rfl
    simp [within, free]
  unfold prepareServiceImage
  dsimp only
  rw [ranges, if_neg Bool.false_ne_true, checkServiceBlocks_ok.2 blocksInside, patched]
  simp only [bind, Except.bind]
  rw [calculateServiceRamLoadCrc32, prepares]
  exact ⟨_, rfl⟩

end ServiceImage

end BootUpgrade

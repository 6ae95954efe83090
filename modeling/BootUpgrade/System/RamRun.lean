import BootUpgrade.System.ImageLoading

/-!
# A RAM image from the host to its start

An image that `prepare_ram_app_image` accepts is loaded, checked and started by
the three operations in order if and only if it has a word at or below its entry
point and one at or above it. The RAM then holds the image, and the attached
Flash service is as before.
-/

namespace BootUpgrade

open HostWorkflow HostClient HostImages

/-! ## Accepted images -/

/-- The regions for RAM images, without the one of the service. -/
def ramAppRegions : List (Nat × Nat) :=
  [(0x000000, 0x000002), (0x000123, 0x000400), (0x008000, 0x00C000), (0x03F800, 0x040000),
    (0x049000, 0x049800), (0x04B000, 0x04B800)]

theorem ramAppRegions_separated : Intervals.Separated ramAppRegions := by
  constructor
  · decide
  · decide

/-- The interval lies in one of the regions. -/
def InRamApp (start stop : Nat) : Prop := ∃ r ∈ ramAppRegions, r.1 ≤ start ∧ stop ≤ r.2

theorem inRamApp_of_checks {start stop : Nat} (nonempty : start < stop)
    (inside : HostImages.insideAny start stop Cpu1.ram.ramAppRanges = true)
    (apart : overlapsAny start stop Cpu1.ram.serviceRanges = false) : InRamApp start stop := by
  simp only [insideAny, Cpu1.ram, List.any_cons, List.any_nil, Bool.or_false,
    AddressRange.containsRange, Bool.and_eq_true, Bool.or_eq_true, decide_eq_true_eq] at inside
  simp only [overlapsAny, Cpu1.ram, List.any_cons, List.any_nil, Bool.or_false,
    Bool.and_eq_false_iff, decide_eq_false_iff_not] at apart
  simp only [InRamApp, ramAppRegions, List.mem_cons, List.not_mem_nil, or_false, exists_eq_or_imp,
    exists_eq_left]
  omega

theorem checkRamBlocks_ok {blocks : List FirmwareBlock}
    (checked : checkRamBlocks Cpu1.ram blocks = .ok ()) :
    ∀ block ∈ blocks, InRamApp block.address block.endExclusive := by
  induction blocks with
  | nil =>
    intro block mem
    cases mem
  | cons block rest ih =>
    unfold checkRamBlocks at checked
    split at checked
    · cases checked
    rename_i inside
    split at checked
    · cases checked
    split at checked
    · cases checked
    rename_i apart
    intro other mem
    rcases List.mem_cons.1 mem with rfl | mem
    · exact inRamApp_of_checks other.address_lt_end (Decidable.not_not.1 inside)
        (Bool.eq_false_iff.2 apart)
    · exact ih checked other mem

/-- What `prepare_ram_app_image` has checked and computed. -/
structure AcceptedRamImage (image : FirmwareImage) (prepared : PreparedRamImage) : Prop where
  valid : validateRamAppImage image Cpu1.ram = .ok ()
  entry : insideAny image.entryPoint (image.entryPoint + 1) Cpu1.ram.ramAppRanges = true
  inside : ∀ block ∈ image.blocks, InRamApp block.address block.endExclusive
  crc : prepared = ⟨image, image.entryPoint, image.totalWords,
    (crc32Words ((sortedBlocks image.blocks).flatMap (·.words))).toNat⟩

theorem prepareRamAppImage_ok {image : FirmwareImage} {prepared : PreparedRamImage}
    (accepted : prepareRamAppImage (some Cpu1.ram) image = .ok prepared) :
    AcceptedRamImage image prepared := by
  unfold prepareRamAppImage at accepted
  dsimp only at accepted
  cases valid : validateRamAppImage image Cpu1.ram with
  | error error =>
    rw [valid] at accepted
    cases accepted
  | ok value =>
    cases calculated : calculateRamImageCrc32 image 248 with
    | error error =>
      rw [valid, calculated] at accepted
      cases accepted
    | ok crc32 =>
      rw [valid, calculated] at accepted
      cases accepted
      have crc := calculateRamImageCrc32_ok (by decide) calculated
      have checks := valid
      unfold validateRamAppImage at checks
      split at checks
      · cases checks
      rename_i entry
      refine ⟨valid, Decidable.not_not.1 entry, checkRamBlocks_ok checks, ?_⟩
      rw [← crc]

/-- The regions are too small for an image of more words than there may be packets. -/
theorem few_of_valid {image : FirmwareImage}
    (inside : ∀ block ∈ image.blocks, InRamApp block.address block.endExclusive) :
    image.totalWords ≤ 0xFFFF := by
  have room : Intervals.room ramAppRegions 0 = 23263 := by decide
  have bound := totalWords_le_room inside
  omega

/-- Every valid image is accepted. -/
theorem prepareRamAppImage_valid {image : FirmwareImage}
    (valid : validateRamAppImage image Cpu1.ram = .ok ()) :
    ∃ prepared, prepareRamAppImage (some Cpu1.ram) image = .ok prepared := by
  have checks := valid
  unfold validateRamAppImage at checks
  split at checks
  · cases checks
  obtain ⟨packets, prepares⟩ :=
    prepareRamPackets_few (m := 248) (by decide) (few_of_valid (checkRamBlocks_ok checks))
  unfold prepareRamAppImage
  dsimp only
  rw [valid, calculateRamImageCrc32, prepares]
  exact ⟨_, rfl⟩

section
variable {image : FirmwareImage} {prepared : PreparedRamImage}
  (accepted : AcceptedRamImage image prepared)
include accepted

theorem AcceptedRamImage.few : image.totalWords ≤ 0xFFFF := few_of_valid accepted.inside

/-- The words of the image lie in the regions. -/
theorem AcceptedRamImage.covered {a : Nat} (covers : image.Covers a) :
    Intervals.Covered ramAppRegions a := by
  obtain ⟨_, mem, lower, upper⟩ := covers
  obtain ⟨block, hb, rfl⟩ := List.mem_map.1 mem
  obtain ⟨r, hr, start, stop⟩ := accepted.inside block hb
  exact ⟨r, hr, Nat.le_trans start lower, Nat.lt_of_lt_of_le upper stop⟩

/-- A packet of the image lies in one of the regions. -/
theorem AcceptedRamImage.packet {m : Nat} {packets : List DataPacket}
    (carries : CarriesImage image m packets) {packet : DataPacket} (mem : packet ∈ packets) :
    InRamApp packet.address (packet.address + packet.words.length) := by
  have some := List.length_pos_iff.2 (carries.nonempty packet mem)
  have within : ∀ a, packet.address ≤ a → a < packet.address + packet.words.length →
      Intervals.Covered ramAppRegions a :=
    fun a lower upper => accepted.covered (RamLoading.covers_packet carries mem lower upper)
  obtain ⟨r, hr, lower, upper⟩ := within packet.address (Nat.le_refl _) (by omega)
  have stop := ramAppRegions_separated.goesOn hr ⟨lower, upper⟩ (d := packet.words.length - 1)
    fun b from' upto => within b from' (by omega)
  exact ⟨r, hr, lower, by omega⟩

end

/-! ## What the device takes -/

/-- The RAM port takes what lies in one of the regions. -/
theorem InRamApp.region {start stop : Nat} (inside : InRamApp start stop) :
    RamLoading.InWriteRegion start stop := by
  simp only [InRamApp, ramAppRegions, List.mem_cons, List.not_mem_nil, or_false, exists_eq_or_imp,
    exists_eq_left] at inside
  simp only [RamLoading.InWriteRegion, BootRam.writeRegions, List.mem_cons, List.not_mem_nil,
    or_false, exists_eq_or_imp, exists_eq_left, UInt32.reduceToNat]
  omega

/-- The entry point of an accepted image is one the device takes. -/
theorem entry_writable {a : Nat}
    (inside : insideAny a (a + 1) Cpu1.ram.ramAppRanges = true) :
    BootRam.checkAddress (UInt32.ofNat a) 1 BootTarget.ramApp = BootRamResult.ok := by
  apply checkAddress_region (n := 1) (by decide)
  simp only [insideAny, Cpu1.ram, List.any_cons, List.any_nil, Bool.or_false,
    AddressRange.containsRange, Bool.and_eq_true, Bool.or_eq_true, decide_eq_true_eq] at inside
  simp only [BootRam.writeRegions, List.mem_cons, List.not_mem_nil, or_false, exists_eq_or_imp,
    exists_eq_left, UInt32.reduceToNat]
  omega

/-- What lies in one of the regions does not reach the guarded interval. -/
theorem InRamApp.apart {a n : Nat} (inside : InRamApp a (a + n)) :
    BootAlgorithm.rangeOverlapsFlashService (UInt32.ofNat a) (UInt32.ofNat n) = false := by
  simp only [InRamApp, ramAppRegions, List.mem_cons, List.not_mem_nil, or_false, exists_eq_or_imp,
    exists_eq_left] at inside
  have address : (UInt32.ofNat a).toNat = a := UInt32.toNat_ofNat_of_lt' (by rw [UInt32.size]; omega)
  have count : (UInt32.ofNat n).toNat = n := UInt32.toNat_ofNat_of_lt' (by rw [UInt32.size]; omega)
  have sum : (UInt32.ofNat a + UInt32.ofNat n).toNat = a + n := by
    rw [Words.toNat_add_of_lt (by omega), address, count]
  have stop : (BootFlashServiceLayout.dataOrigin + BootFlashServiceLayout.dataLength).toNat =
    0x016000 := rfl
  have start : BootFlashServiceLayout.headerOrigin.toNat = 0x013000 := rfl
  unfold BootAlgorithm.rangeOverlapsFlashService
  dsimp only
  rw [Bool.and_eq_false_iff, Bool.and_eq_false_iff]
  by_cases before : a + n ≤ 0x013000
  · right
    rw [decide_eq_false_iff_not, gt_iff_lt, UInt32.lt_iff_toNat_lt, sum, start]
    omega
  · left; right
    rw [decide_eq_false_iff_not, UInt32.lt_iff_toNat_lt, address, stop]
    omega

/-! ## The operations -/

namespace RamRun

open HostOperations TransferKind Dialogue RamLoading BootAlgorithm

variable {σ : Type} {features : BootFeatures} {code : ServiceCode σ} {c c' : Core σ}
  {ctx : OperationContext} {image : FirmwareImage} {prepared : PreparedRamImage}

section
variable (features code)

/-- The operation succeeds on `c` and leaves `c'`. -/
def Performs {S : Type} (operation : HostDialogue (OperationResult S)) (c c' : Core σ) : Prop :=
  Succeeds (coreServer features code) operation c fun result s =>
    (∃ summary, result = .succeeded summary) ∧ s = c'

end

/-- An operation whose exceptions are caught succeeds when it would without that. -/
theorem performs_failureResult {S : Type} {d : HostDialogue (OperationResult S)} :
    Performs features code (failureResult d) c c' ↔ Performs features code d c c' := by
  constructor
  · rintro ⟨_, ended, ⟨summary, rfl⟩, left⟩
    obtain ⟨state, result⟩ := failureResult_run (d := d) (coreServer features code) c
    exact ⟨_, result summary ended, ⟨summary, rfl⟩, state.symm.trans left⟩
  · rintro ⟨result, ended, success, left⟩
    have same := failureResult_ok ended
    refine ⟨result, ?_, success, ?_⟩
    · rw [same]
      exact ended
    · rw [same]
      exact left

section
variable (accepted : AcceptedRamImage image prepared) (ram : ctx.ram = some Cpu1.ram)
include accepted ram

theorem validateImage_ok : validateImage ctx prepared = .ok () := by
  rw [accepted.crc, validateImage, if_neg (not_not_intro rfl), if_neg (not_not_intro rfl), ram]
  dsimp only
  rw [accepted.valid]

/-- `load_ram_image` succeeds when the device accepts every request of the transfer. -/
theorem loadRamImage_performs (kept : ctx.transferPolls = fun _ => false)
    {packets : List DataPacket} (prepares : prepareRamPackets image ctx.maxDataWords = .ok packets)
    (loads : Loads ctx.maxPayloadWords prepared.entryPoint prepared.imageCrc32 packets) :
    Performs features code (loadRamImage ctx prepared) c c' ↔
      AcceptsAll (coreServer features code) c
        (ramLoad.transferRequests prepared.entryPoint prepared.imageCrc32 packets) ∧
      after (coreServer features code) c
        (ramLoad.transferRequests prepared.entryPoint prepared.imageCrc32 packets) = c' := by
  have same : prepared.image = image := by rw [accepted.crc]
  unfold loadRamImage
  rw [performs_failureResult, Performs, succeeds_bind_iff, succeeds_lift_iff,
    validateImage_ok accepted ram, same, prepares, kept]
  simp only [Except.ok.injEq, exists_eq_left', succeeds_bind_iff, succeeds_lift_iff]
  rw [succeeds_transfer loads.toBeginSent loads.sendable]
  simp [CancellableTransferOutcome.result]

/-- `check_ram_crc` succeeds on the load of the image. -/
theorem checkRamCrc_performs (long : 9 ≤ ctx.maxPayloadWords) {m : Nat} {packets : List DataPacket}
    (carries : CarriesImage image m packets)
    (holds : HoldsPackets image.entryPoint packets c.algorithm.ramLoad) :
    Performs features code (checkRamCrc ctx prepared) c
      { c with algorithm.ramLoad.crcChecked := 1 } := by
  unfold checkRamCrc
  rw [performs_failureResult, Performs, succeeds_bind_iff, succeeds_lift_iff,
    validateImage_ok accepted ram]
  refine ⟨(), rfl, ?_⟩
  rw [accepted.crc, succeeds_bind_iff]
  exact (ramCheckCrc_succeeds carries long accepted.few holds).2 (succeeds_done ⟨⟨_, rfl⟩, rfl⟩)

end

/-- The request of `run_ram_image`. -/
def runRequest (entryPoint : Nat) : HostRequest :=
  hostRequest BootCmd.runRam (lowHigh entryPoint ++ [0])

theorem runRequest_fits (entryPoint : Nat) : (runRequest entryPoint).payload.length ≤ 256 :=
  show 3 ≤ 256 by decide

/-- RUN_RAM with the entry point of a checked load schedules it. -/
theorem runRam_dispatch (runs : features.runRam = true) {entryPoint : Nat} {packets : List DataPacket}
    (fits : entryPoint ≤ 0xFFFFFFFF)
    (holds : HoldsPackets entryPoint packets c.algorithm.ramLoad)
    (checked : c.algorithm.ramLoad.crcChecked ≠ 0) (spanned : EntryLoaded entryPoint packets)
    (region : BootRam.checkAddress (UInt32.ofNat entryPoint) 1 BootTarget.ramApp =
      BootRamResult.ok) :
    dispatch (requestFrame (runRequest entryPoint)) features code c =
      accept (requestFrame (runRequest entryPoint)) .runRamApp
        { c with algorithm.pendingEntryPoint := UInt32.ofNat entryPoint } := by
  have short := runRequest_fits entryPoint
  have value : (UInt32.ofNat entryPoint).toNat = entryPoint :=
    UInt32.toNat_ofNat_of_lt' (by rw [UInt32.size]; omega)
  have asked : (requestFrame (runRequest entryPoint)).u32 0 = UInt32.ofNat entryPoint := by
    rw [u32_requestFrame short, ← UInt32.toNat_inj, value]
    exact joinU32_lowHigh fits
  -- the entry point 0 stands for that of the load, which is the same
  have entry : runRamEntry (requestFrame (runRequest entryPoint)) c.algorithm.ramLoad =
      UInt32.ofNat entryPoint := by
    have same : c.algorithm.ramLoad.entryPoint = UInt32.ofNat entryPoint := by
      rw [← UInt32.toNat_inj, holds.entry, value]
    rw [runRamEntry, asked, same, ite_self]
  have within : isRangeInLoadedRamImage c.algorithm.ramLoad (UInt32.ofNat entryPoint) 1 = true := by
    rw [← value] at spanned
    obtain ⟨start, stop⟩ := (holds.between _).2 spanned
    exact isRangeInLoadedRamImage_one holds.ready start stop
  rw [dispatch_runRam rfl, if_pos runs, handleRunRam_ok _ _ checked, entry]
  · rw [entry]
    exact within
  · rw [entry]
    exact region
  · rw [payloadWords_requestFrame short]
    rfl
  · rw [word_requestFrame short]
    rfl

/-- An accepted request that asks the caller to act is a success for the client. -/
theorem runRamImage_performs (long : 9 ≤ ctx.maxPayloadWords) {entryPoint : Nat}
    (fits : entryPoint ≤ 0xFFFFFFFF)
    (handled : dispatch (requestFrame (runRequest entryPoint)) features code c =
      accept (requestFrame (runRequest entryPoint)) .runRamApp c') :
    Performs features code (runRamImage ctx entryPoint) c c' := by
  have encodable : Encodable ctx.maxPayloadWords (lowHigh entryPoint ++ [0]) := by
    constructor
    · exact Nat.le_trans (show 3 ≤ 9 by decide) long
    · intro word mem
      rcases List.mem_append.1 mem with mem | mem
      · exact lowHigh_le fits word mem
      · rw [List.mem_singleton.1 mem]
        decide
  unfold runRamImage
  rw [performs_failureResult, Performs, splitU32_ok fits, succeeds_bind_iff]
  apply succeeds_lift rfl
  rw [succeeds_bind_iff, succeeds_core encodable (runRequest_fits entryPoint) handled]
  exact ⟨rfl, succeeds_done ⟨⟨_, rfl⟩, rfl⟩⟩

section
variable (features code)

/-- What the load, the check and the start of the image leave, one after the other. -/
structure RunsImage (image : FirmwareImage) (c loaded checked started : Core σ) : Prop where
  word : ∀ a w, HasWord image.blocks a w → loaded.world.memory (UInt32.ofNat a) = w
  other : ∀ a : UInt32, ¬ image.Covers a.toNat → loaded.world.memory a = c.world.memory a
  algorithm : loaded.algorithm = { c.algorithm with ramLoad := loaded.algorithm.ramLoad }
  service : loaded.world.service = c.world.service
  marked : checked = { loaded with algorithm.ramLoad.crcChecked := 1 }
  scheduled : started =
    { checked with algorithm.pendingEntryPoint := UInt32.ofNat image.entryPoint }
  action : (processOne (requestFrame (runRequest image.entryPoint)) features code .ok
    checked).action = .runRamApp

end

/-- The image is loaded if and only if its words reach its entry point from both sides, and
an image that is loaded is checked and started. -/
theorem ram_image_run (runs : features.runRam = true)
    (prepare : prepareRamAppImage (some Cpu1.ram) image = .ok prepared)
    (limits : ClientLimits c ctx) (ram : ctx.ram = some Cpu1.ram)
    (kept : ctx.transferPolls = fun _ => false) (idle : c.algorithm.ramLoad.active = 0) :
    ((∃ loaded, Performs features code (loadRamImage ctx prepared) c loaded) ↔ EntrySpanned image) ∧
      ∀ loaded, Performs features code (loadRamImage ctx prepared) c loaded →
        ∃ checked started, Performs features code (checkRamCrc ctx prepared) loaded checked ∧
          Performs features code (runRamImage ctx prepared.entryPoint) checked started ∧
          RunsImage features code image c loaded checked started := by
  have accepted := prepareRamAppImage_ok prepare
  obtain ⟨long, device⟩ := limits.bounds
  obtain ⟨packets, prepares⟩ := prepareRamPackets_few limits.positive accepted.few
  have carries := prepareRamPackets_ok limits.positive prepares
  have entry : prepared.entryPoint = image.entryPoint := by rw [accepted.crc]
  have crcFits : prepared.imageCrc32 ≤ 0xFFFFFFFF := by
    have := (crc32Words ((sortedBlocks image.blocks).flatMap (·.words))).toNat_lt
    rw [accepted.crc]
    dsimp only
    omega
  have loads : Loads ctx.maxPayloadWords image.entryPoint prepared.imageCrc32 packets :=
    loads_carried carries long limits.fits device accepted.few crcFits
      (fun packet mem => (accepted.packet carries mem).region) (entry_writable accepted.entry)
  rw [← entry] at loads
  obtain ⟨accepts, after⟩ := load_accepted features code loads idle
  have spanned := entryLoaded_iff carries
  rw [← entry] at spanned
  have performs (c' : Core σ) : Performs features code (loadRamImage ctx prepared) c c' ↔ _ :=
    loadRamImage_performs accepted ram kept prepares loads
  constructor
  · constructor
    · rintro ⟨loaded, success⟩
      exact spanned.1 (accepts.1 ((performs loaded).1 success).1)
    · intro spans
      have within := spanned.2 spans
      exact ⟨_, (performs _).2 ⟨accepts.2 within, rfl⟩⟩
  intro loaded success
  obtain ⟨all, left⟩ := (performs loaded).1 success
  have within := accepts.1 all
  rw [after within] at left
  subst left
  have holds : HoldsPackets image.entryPoint packets
      (loadedCore prepared.entryPoint prepared.imageCrc32 packets c).algorithm.ramLoad := by
    rw [← entry]
    exact holds_loadedCore loads
  have apart : ∀ packet ∈ packets, overlaps (dataFrame packet) = false := by
    intro packet mem
    have sendable := loads.sendable packet mem
    have inside := accepted.packet carries mem
    rw [overlaps, dataFrame_address32 sendable, dataFrame_length32 sendable]
    exact inside.apart
  rw [entry] at within
  let checked : Core σ :=
    { loadedCore prepared.entryPoint prepared.imageCrc32 packets c with
      algorithm.ramLoad.crcChecked := 1 }
  have holds' : HoldsPackets image.entryPoint packets checked.algorithm.ramLoad := holds.checked
  have flag : checked.algorithm.ramLoad.crcChecked = 1 := rfl
  have handled : dispatch (requestFrame (runRequest image.entryPoint)) features code checked = _ :=
    runRam_dispatch runs image.entryPoint_le holds' (by rw [flag]; decide) within
      (entry_writable accepted.entry)
  refine ⟨checked, _, checkRamCrc_performs accepted ram long carries holds, ?_, ?_, ?_, ?_, ?_, rfl,
    rfl, ?_⟩
  · rw [entry]
    exact runRamImage_performs long image.entryPoint_le handled
  · intro a w word
    have covered := accepted.covered (covered_iff.2 ⟨w, word⟩)
    have small : a < 4294967296 := by
      obtain ⟨r, region, -, upper⟩ := covered
      simp only [ramAppRegions, List.mem_cons, List.not_mem_nil, or_false] at region
      rcases region with rfl | rfl | rfl | rfl | rfl | rfl <;> omega
    have value : (UInt32.ofNat a).toNat = a := UInt32.toNat_ofNat_of_lt' small
    apply loadedCore_memory loads
    · rw [value]
      exact (carries.has a w).2 word
    · rw [value]
      intro packet mem v found
      exact image.hasWord_unique ((carries.has a v).1 ⟨packet, mem, found⟩) word
    · rintro ⟨packet, mem, within⟩
      rw [apart packet mem] at within
      cases within
  · intro a outside
    apply loadedCore_outside loads
    · intro packet mem v found
      exact outside (covered_iff.2 ⟨v, (carries.has _ v).1 ⟨packet, mem, found⟩⟩)
    · rintro ⟨packet, mem, within⟩
      rw [apart packet mem] at within
      cases within
  · exact (loadedCore_apart apart).1
  · exact (loadedCore_apart apart).2
  · rw [processOne_dispatch ⟨rfl, rfl, rfl⟩, handled]
    rfl

/-! ## An image of two words -/

theorem ramStart_le : 0x008000 ≤ 0xFFFFFFFF := by decide

theorem ramWords_ne : [(0x1234 : UInt16), 0x5678] ≠ [] := List.cons_ne_nil _ _

/-- Two words, the first of them the entry point. -/
def smallRamImage : FirmwareImage := singleBlock 0x008000 [0x1234, 0x5678] ramStart_le ramWords_ne

/-- A client that puts each word in a packet of its own. -/
def wordContext : OperationContext where
  maxPayloadWords := 256
  maxDataWords := 1
  flash := none
  ram := some Cpu1.ram
  polls _ := false
  transferPolls _ := false

theorem ram_image_run_small : ∃ prepared loaded checked started,
    prepareRamAppImage (some Cpu1.ram) smallRamImage = .ok prepared ∧
      RunsImage ⟨true, false, false⟩ idleService smallRamImage cpu1Core loaded checked started := by
  have valid : validateRamAppImage smallRamImage Cpu1.ram = .ok () := by decide
  obtain ⟨prepared, prepare⟩ := prepareRamAppImage_valid valid
  have limits : ClientLimits cpu1Core wordContext := ⟨by decide, by decide, by decide, by decide⟩
  obtain ⟨loads, runs⟩ :=
    @ram_image_run Unit ⟨true, false, false⟩ idleService _ _ _ _ rfl prepare limits rfl rfl rfl
  have covers : smallRamImage.Covers smallRamImage.entryPoint :=
    ⟨_, List.mem_singleton_self _, Nat.le_refl _, by decide⟩
  obtain ⟨loaded, success⟩ := loads.2 ⟨⟨_, covers, Nat.le_refl _⟩, _, covers, Nat.le_refl _⟩
  obtain ⟨checked, started, -, -, leaves⟩ := runs loaded success
  exact ⟨prepared, loaded, checked, started, prepare, leaves⟩

end RamRun

end BootUpgrade

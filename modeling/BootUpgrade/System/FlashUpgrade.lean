import BootUpgrade.System.FlashProgram
import BootUpgrade.System.RecordAppend

/-!
# A Flash upgrade from the erase to the record

The erase, the program, the verify and the IMAGE_VALID record of a prepared image, on
a device that has the service attached and whose Flash works. The program completes
exactly when the image is cut at the sectors; the rest then completes too, and the
device holds the image and a journal that names it.
-/

namespace BootUpgrade.FlashUpgrade

open Intervals FlashArray BootMetadata BootAlgorithm HostImages HostWorkflow HostClient HostOperations
  TransferKind Dialogue RamLoading BootFlashService AttachedService FlashErase FlashTransfer RecordAppend

section
variable {ctx : FlashOperationContext} {s : FlashService FlashArray} {m : Memory.Words}

/-- The service prepares its Flash for the operation. -/
theorem ensured_working (serves : Serves ctx s) (operation : SessionOperation) :
    (ensured FlashArray.port operation s).status = BootStatus.ok ∧
      Working (ensured FlashArray.port operation s).service.world ∧
      (ensured FlashArray.port operation s).service.world.words = s.world.words := by
  obtain ⟨flag, w, ensured, live, same⟩ := ensureFlash_working serves.working
    (errorOperation operation) (failedStatus operation)
  rw [FlashTransfer.ensured, ensured]
  exact ⟨rfl, live, same⟩

/-- What a transfer leaves. -/
theorem finished_leaves {operation : SessionOperation} {w : FlashArray} (working : Working w)
    (words : w.words = m) :
    Leaves s { runtime := finished operation (ensured FlashArray.port operation s).service.runtime
               world := w } (if operation = .verify then 1 else 0) m := by
  obtain ⟨flag, runtime⟩ := ensured_runtime FlashArray.port operation s
  rw [runtime]
  exact ⟨working, words, flag, rfl⟩

end

/-! ## The identity -/

section
variable {image : FirmwareImage} {prepared : PreparedFlashImage}

/-- The words of the image with their padding. -/
def imageWords (image : FirmwareImage) : List UInt16 :=
  (mergeContiguous image.blocks).flatMap fun block => padded block.words

/-- What the identity of a prepared image says. -/
theorem identity_prepared (prepare : HostImages.Prepared image prepared) :
    ∃ packets, preparePackets image 248 = .ok packets ∧
      prepared.identity = ⟨image.entryPoint, (imageWords image).length,
        crc32Words (imageWords image), packetsEnd packets⟩ := by
  have identity := prepare.identity
  unfold imageIdentity at identity
  by_cases few : packetCount 248 image ≤ 0xFFFF
  · rw [programmedImageSizeAndEnd_few (by decide) (by decide) image few,
      calculateProgrammedImageCrc32_few (by decide) (by decide) image few] at identity
    exact ⟨_, preparePackets_few (by decide) (by decide) image few, (Except.ok.inj identity).symm⟩
  · have many := preparePackets_many (m := 248) (by decide) (by decide) image (Nat.not_le.1 few)
    rw [programmedImageSizeAndEnd, many] at identity
    cases identity

/-- The identity of an image that is cut at the sectors is one that the service records. -/
theorem recordable_prepared (prepare : HostImages.Prepared image prepared) {n : Nat}
    (cut : CutAtSectors image n) : Recordable prepared.identity := by
  obtain ⟨packets, transfer, identity⟩ := identity_prepared prepare
  have sized := sized_packet (by decide) (by decide) prepare transfer
  obtain ⟨same, few⟩ := preparePackets_ok (by decide) (by decide) transfer
  have words : (imageWords image).length = totalWords packets := by
    rw [TransferKind.totalWords_eq, same, words_packetsOf (by decide) (by decide)]
    rfl
  have total := totalWords_le fun packet mem => (sized packet mem).short
  obtain ⟨packet, mem⟩ := List.exists_mem_of_ne_nil packets (by
    rw [same]
    exact packetsOf_ne (by decide) (mergeContiguous_ne image))
  obtain ⟨before, after, split⟩ := List.append_of_mem mem
  have first := sized packet mem
  have start := first.start
  have nonempty := first.nonempty
  have last := packetsEnd_le.1 (Nat.le_refl (packetsEnd packets)) packet mem
  have stop : packetsEnd packets ≤ 0x0C0000 := by
    rw [same, packetsEnd_packetsOf (by decide) (by decide)]
    intro block hb
    have run := (mergeContiguous_runs image _ _).1 ⟨block, hb, rfl⟩
    have inside := run_inside prepare run
    have aligned := (cut _ _ run).1
    have ends : block.endExclusive = block.address + block.words.length := rfl
    rw [length_padded]
    omega
  have some : 0 < totalWords packets := by
    rw [split, TransferKind.totalWords_append, TransferKind.totalWords_cons]
    omega
  rw [identity]
  exact ⟨prepare.entry, prepare.entryUnit, ⟨by dsimp only; omega, by dsimp only; omega⟩,
    by dsimp only; omega, stop⟩

end

/-! ## Program and verify -/

theorem program_ne : SessionOperation.program ≠ .none := by decide

theorem verify_ne : SessionOperation.verify ≠ .none := by decide

theorem verify_open : (1 : UInt16) ≠ 0 := by decide

section
variable {ctx : FlashOperationContext} {σ : Type} {c : Core σ} {n : Nat} {prepared : PreparedFlashImage}
  {packets : List DataPacket} {s s' : FlashService FlashArray} {counts : Option (Nat × Nat)}
  (free : Uninterrupted ctx)
  (limits : ClientLimits c ctx.toOperationContext) (size : ctx.maxWriteDataWords = .ok n)
  (prepare : HostImages.Prepared prepared.image prepared) (serves : Serves ctx s)
  (idle : s.runtime.session.operation = .none)
include free limits size prepare serves idle

omit free serves idle in
/-- The packets are small enough for the port. -/
theorem small_packets (transfer : preparePackets prepared.image n = .ok packets) :
    n ≤ 251 ∧ ∀ packet ∈ packets, Sized n packet := by
  obtain ⟨positive, units, most⟩ := maxWriteDataWords_ok size
  obtain ⟨-, payload⟩ := limits.bounds
  have fits := limits.fits
  exact ⟨by omega, sized_packet positive units prepare transfer⟩

/-- A transfer completes when the array takes its packets. -/
theorem transfer_completes {operation : SessionOperation} (ne : operation ≠ .none)
    (transfer : preparePackets prepared.image n = .ok packets) :
    Completes (attachedServer FlashArray.port) (transferFlash ctx (transferKind operation) prepared)
        s counts s' ↔
      TakesAll FlashArray.port operation packets
          (ensured FlashArray.port operation s).service.world ∧
        counts = some (totalWords packets, packets.length) ∧
        s' = { runtime := finished operation (ensured FlashArray.port operation s).service.runtime
               world := takenAll FlashArray.port operation packets
                (ensured FlashArray.port operation s).service.world } := by
  have ready := packets_ready limits size serves.room prepare transfer
  have entry : prepared.identity.entryPoint ≤ 0xFFFFFFFF := by
    obtain ⟨_, -, identity⟩ := identity_prepared prepare
    rw [identity]
    exact prepared.image.entryPoint_le
  rw [transferFlash_completes free ne serves.initialized size transfer ready limits.bounds.1 entry]
  apply and_congr_left
  intro _
  exact ⟨fun accepted => accepted.2.2, fun takes => ⟨idle, (ensured_working serves operation).1, takes⟩⟩

/-- A program that completes has written the packets of an image that is cut at the sectors. -/
theorem program_written (completes : Completes (attachedServer FlashArray.port)
      (transferFlash ctx .program prepared) s counts s') :
    CutAtSectors prepared.image n ∧ ∃ packets, preparePackets prepared.image n = .ok packets ∧
      counts = some (totalWords packets, packets.length) ∧
      Leaves s s' 0 (writePackets s.world.words packets) := by
  obtain ⟨positive, units, -⟩ := maxWriteDataWords_ok size
  cases transfer : preparePackets prepared.image n with
  | error e =>
    rw [Completes, transferFlash_packets .program size, transfer] at completes
    exact (not_succeeds_fail completes).elim
  | ok packets =>
    obtain ⟨small, sized⟩ := small_packets limits size prepare transfer
    obtain ⟨-, live, same⟩ := ensured_working serves .program
    obtain ⟨takes, working, words⟩ := takesAll_program sized small live
    obtain ⟨taken, counts, rfl⟩ :=
      (transfer_completes free limits size prepare serves idle program_ne transfer).1 completes
    refine ⟨(checked_iff_cut positive units prepare transfer).1 (takes.1 taken), packets, rfl, counts, ?_⟩
    rw [same] at words
    exact finished_leaves working words

theorem program_completes (cut : CutAtSectors prepared.image n) :
    ∃ counts s', Completes (attachedServer FlashArray.port) (transferFlash ctx .program prepared)
      s counts s' := by
  obtain ⟨positive, units, -⟩ := maxWriteDataWords_ok size
  obtain ⟨packets, transfer⟩ := preparePackets_cut positive units prepare cut
  obtain ⟨small, sized⟩ := small_packets limits size prepare transfer
  obtain ⟨-, live, -⟩ := ensured_working serves .program
  obtain ⟨takes, -⟩ := takesAll_program sized small live
  have checked := (checked_iff_cut positive units prepare transfer).2 cut
  exact ⟨_, _, (transfer_completes free limits size prepare serves idle program_ne transfer).2
    ⟨takes.2 checked, rfl, rfl⟩⟩

/-- A verify completes where the array has the words of the packets. -/
theorem verify_completes (cut : CutAtSectors prepared.image n)
    (transfer : preparePackets prepared.image n = .ok packets)
    (written : ∀ packet ∈ packets, ∀ a v, packet.Has a v → s.world.words a = v) :
    ∃ s', Completes (attachedServer FlashArray.port) (transferFlash ctx .verify prepared) s
        (some (totalWords packets, packets.length)) s' ∧ Leaves s s' 1 s.world.words := by
  obtain ⟨positive, units, -⟩ := maxWriteDataWords_ok size
  obtain ⟨small, sized⟩ := small_packets limits size prepare transfer
  obtain ⟨-, live, same⟩ := ensured_working serves .verify
  have checked := (checked_iff_cut positive units prepare transfer).2 cut
  rw [← same] at written
  obtain ⟨takes, working, words⟩ := takesAll_verify sized small live checked written
  rw [same] at words
  exact ⟨_, (transfer_completes free limits size prepare serves idle verify_ne transfer).2
    ⟨takes, rfl, rfl⟩, finished_leaves working words⟩

end

/-! ## The record -/

/-- The journal lies in the area of the image, and the image does not reach it. -/
theorem journal_inArea {image : FirmwareImage} {prepared : PreparedFlashImage}
    (prepare : HostImages.Prepared image prepared) {a : Nat} (low : 0x082000 ≤ a) (high : a < 0x082400) :
    InArea prepared.sectorMask a ∧ ¬ image.Covers a := by
  constructor
  · refine ⟨1, (0x82000, 0x84000), rfl, low, by dsimp only; omega, ?_⟩
    rw [metadata_bit prepare, show Cpu1.flash.metadataSectorMask.testBit 1 = true from rfl,
      Bool.or_true]
  · intro covers
    have := (prepare.covers covers).1
    omega

/-- `s'` is `s` with the image in its area and a record that names it. -/
structure Upgraded (prepared : PreparedFlashImage) (s s' : FlashService FlashArray) : Prop where
  image : ∀ a v, HasWord prepared.image.blocks a v → s'.world.words a = v
  blank : ∀ a, 0x082400 ≤ a → InArea prepared.sectorMask a → ¬ prepared.image.Covers a →
    s'.world.words a = erasedWord
  outside : ∀ a, ¬ InArea prepared.sectorMask a → s'.world.words a = s.world.words a
  named : compareImageIdentityWithMetadata prepared.identity
    (hostSummary (scanJournal FlashArray.port s')) = ⟨true, true, [], none⟩
  unattempted : (scanJournal FlashArray.port s').bootAttemptCount = 0
  unconfirmed : (scanJournal FlashArray.port s').appConfirmed = 0

section
variable {ctx : FlashOperationContext} {σ : Type} {c : Core σ} {n : Nat} {prepared : PreparedFlashImage}
  {s s₁ s₂ : FlashService FlashArray} {counts : Option (Nat × Nat)} {m : Memory.Words}
  (free : Uninterrupted ctx) (long : 16 ≤ ctx.maxPayloadWords)
  (prepare : HostImages.Prepared prepared.image prepared)
include free long prepare

/-- The host has the image recorded when the service has verified it in its area. -/
theorem append_completes (cut : CutAtSectors prepared.image n) (serves : Serves ctx s₂)
    (verified : s₂.runtime.verifySucceeded ≠ 0)
    (holds : HoldsImage prepared s.world.words s₂.world.words) :
    ∃ s', Completes (attachedServer FlashArray.port)
        (appendRecord ctx .imageValid (some prepared.identity)) s₂ ⟨true, false, none⟩ s' ∧
      Upgraded prepared s s' := by
  have recordable := recordable_prepared prepare cut
  have sendable : ∀ identity ∈ some prepared.identity, Sendable identity := by
    rintro _ ⟨⟩
    exact recordable.sendable
  have blank : ∀ a, 0x082000 ≤ a → a < 0x082400 → s₂.world.words a = erasedWord := by
    intro a low high
    obtain ⟨area, uncovered⟩ := journal_inArea prepare low high
    exact holds.blank a area uncovered
  obtain ⟨room, single, admits⟩ := blank_admits
  rw [← scan_blank blank, ← scanJournal_array] at room single admits
  have inv := journalInvariant_blank fun i hi => blank_records blank hi
  obtain ⟨accepted, recorded, named, attempts, confirmed⟩ :=
    image_appended recordable verified single serves.working serves.initialized inv room
  refine ⟨(attachedServer FlashArray.port s₂ (recordRequest .imageValid prepared.identity)).2, ?_, ?_⟩
  · rw [appendRecord_completes free long sendable, admits]
    exact ⟨accepted, rfl, rfl⟩
  have kept {a : Nat} (outside : a < 0x082000 ∨ 0x082400 ≤ a) := recorded.outside a outside
  refine ⟨?_, ?_, ?_, named, attempts, confirmed⟩
  · intro a v word
    have low := (prepare.covers (covered_iff.2 ⟨v, word⟩)).1
    rw [← holds.image a v word]
    exact kept (.inr low)
  · intro a low area uncovered
    rw [← holds.blank a area uncovered]
    exact kept (.inr low)
  · intro a outside
    rw [← holds.outside a outside]
    apply kept
    apply Decidable.byContradiction
    intro inside
    rw [not_or, Nat.not_lt, Nat.not_le] at inside
    exact outside (journal_inArea prepare inside.1 inside.2).1

variable (limits : ClientLimits c ctx.toOperationContext) (size : ctx.maxWriteDataWords = .ok n)
  (serves : Serves ctx s) (erased : Leaves s s₁ 0 m) (area : AreaErased prepared.sectorMask s.world.words m)
include limits size serves erased area

/-- Once the program has completed on the erased area, the rest completes. -/
theorem program_upgraded (completes : Completes (attachedServer FlashArray.port)
      (transferFlash ctx .program prepared) s₁ counts s₂) :
    ∃ s₃ s₄, Completes (attachedServer FlashArray.port) (transferFlash ctx .verify prepared) s₂
        counts s₃ ∧
      Completes (attachedServer FlashArray.port)
        (appendRecord ctx .imageValid (some prepared.identity)) s₃ ⟨true, false, none⟩ s₄ ∧
      Upgraded prepared s s₄ := by
  obtain ⟨positive, units, -⟩ := maxWriteDataWords_ok size
  have serves₁ := erased.serves serves
  obtain ⟨cut, packets, transfer, rfl, programmed⟩ :=
    program_written free limits size prepare serves₁ erased.idle completes
  rw [erased.words] at programmed
  have serves₂ := programmed.serves serves₁
  have written := packets_written positive units prepare transfer cut area
  rw [← programmed.words] at written
  obtain ⟨s₃, verifies, verified⟩ :=
    verify_completes free limits size prepare serves₂ programmed.idle cut transfer written
  have holds := programmed_area positive units prepare transfer cut area
  rw [← programmed.words, ← verified.words] at holds
  have gate : s₃.runtime.verifySucceeded ≠ 0 := by
    obtain ⟨flag, runtime⟩ := verified.runtime
    rw [runtime]
    exact verify_open
  obtain ⟨s₄, appends, upgraded⟩ :=
    append_completes free long prepare cut (verified.serves serves₂) gate holds
  exact ⟨s₃, s₄, verifies, appends, upgraded⟩

end

/-! ## The upgrade -/

section
variable {features : BootFeatures} {ctx : FlashOperationContext} {image : FirmwareImage}
  {prepared : PreparedFlashImage} {n : Nat} {c : Core (FlashService FlashArray)}

/-- The erase of a prepared image completes. The program after it completes exactly when the image
is cut at the sectors, and then the verify and the record complete too: the device holds the image
and names it in its journal, and is as before but for the area of the image and its service. -/
theorem flash_upgrade (prepare : prepareFlashAppImage Cpu1.memoryMap image = .ok prepared)
    (flash : ctx.flash = some Cpu1.flash) (size : ctx.maxWriteDataWords = .ok n)
    (free : Uninterrupted ctx) (limits : ClientLimits c ctx.toOperationContext)
    (long : 16 ≤ ctx.maxPayloadWords) (running : Running FlashArray.port c)
    (found : serviceMatches ctx (RamEvidence.reportedStatus c) = true)
    (serves : Serves ctx c.world.service) :
    let core := coreServer features (Device.flashServiceCode FlashArray.port)
    ∃ erased masks, Completes core (eraseFlashImageArea ctx prepared) c masks erased ∧
      Behind FlashArray.port c erased erased.world.service ∧
      AreaErased prepared.sectorMask c.world.service.world.words erased.world.service.world.words ∧
      ((∃ counts programmed, Completes core (programFlashImage ctx prepared) erased counts programmed) ↔
        CutAtSectors image n) ∧
      ∀ counts programmed, Completes core (programFlashImage ctx prepared) erased counts programmed →
        ∃ verified recorded,
          Completes core (verifyFlashImage ctx prepared) programmed counts verified ∧
          Completes core (appendImageValid ctx prepared) verified ⟨true, false, none⟩ recorded ∧
          Behind FlashArray.port c recorded recorded.world.service ∧
          Upgraded prepared c.world.service recorded.world.service := by
  intro core
  have prepare := prepareFlashAppImage_ok prepare
  obtain rfl := prepare.same
  have room : 3 ≤ ctx.maxPayloadWords := by omega
  have admitted : (ctx.maxWriteDataWords.map fun _ => ()) = .ok () := by
    rw [size]
    rfl
  have programAsks : (transferFlash ctx .program prepared).Always AsksService :=
    transferFlash_always ctx (by decide) (by decide) (by decide) prepared
  have verifyAsks : (transferFlash ctx .verify prepared).Always AsksService :=
    transferFlash_always ctx (by decide) (by decide) (by decide) prepared
  have appendAsks := appendRecord_always ctx .imageValid prepared.identity
  -- the erase
  obtain ⟨s₁, m, erases, left, area⟩ := eraseArea_completes prepare free room serves.working
    serves.initialized
  have masks : [(ctx.flash.map (·.metadataSectorMask)).getD 0,
      andNot (prepared.sectorMask ||| (ctx.flash.map (·.metadataSectorMask)).getD 0)
        ((ctx.flash.map (·.metadataSectorMask)).getD 0)].filter (· ≠ 0) = areaMasks prepared := by
    rw [flash, areaMasks, Option.map_some, Option.getD_some, effective_mask prepare]
  rw [← masks] at erases
  obtain ⟨erased, completes, behind₁⟩ : ∃ erased, Completes core (eraseFlashImageArea ctx prepared) c _
      erased ∧ Behind FlashArray.port c erased s₁ :=
    erases.onCore running (eraseMasks_always ctx _) free found running.behind
      (erase_admitted prepare flash)
  have service₁ := behind₁.service
  subst service₁
  refine ⟨erased, _, completes, behind₁, ?_, ?_, ?_⟩
  · rw [left.words]
    exact area
  · constructor
    · rintro ⟨counts, programmed, onCore⟩
      obtain ⟨s₂, onService, -⟩ := onCore.withService running programAsks free found behind₁
      exact (program_written free limits size prepare (left.serves serves) left.idle onService).1
    · intro cut
      obtain ⟨counts, s₂, onService⟩ :=
        program_completes free limits size prepare (left.serves serves) left.idle cut
      obtain ⟨programmed, onCore, -⟩ :=
        onService.onCore running programAsks free found behind₁ admitted
      exact ⟨counts, programmed, onCore⟩
  · intro counts programmed onCore
    obtain ⟨s₂, onService, behind₂⟩ := onCore.withService running programAsks free found behind₁
    obtain ⟨s₃, s₄, verifies, appends, upgraded⟩ :=
      program_upgraded free long prepare limits size serves left area onService
    obtain ⟨verified, verifyOnCore, behind₃⟩ :=
      verifies.onCore running verifyAsks free found behind₂ admitted
    obtain ⟨recorded, appendOnCore, behind₄⟩ :=
      appends.onCore running appendAsks free found behind₃ rfl
    have service₄ := behind₄.service
    subst service₄
    exact ⟨verified, recorded, verifyOnCore, appendOnCore, behind₄, upgraded⟩

end

/-- A device with the service attached, over a Flash that holds the zeros of no image. -/
def attachedCore : Core (FlashService FlashArray) where
  algorithm := {
    deviceInfo := cpu1Info
    lastError := .clear
    ramLoad := .reset
    serviceCommandHandler := some 0x013082
    serviceActive := 1
    serviceState := ⟨serviceStateAttached, BootStatus.ok, RamEvidence.smallService.requiredCapabilities,
      RamEvidence.smallService.expectedCrc32, 32⟩
    pendingEntryPoint := 0 }
  world := ⟨fun _ => 0,
    ⟨⟨.reset, 1, 0, 0, BootDevice.f28377d, BootDevice.cpu1, 248⟩, ⟨fun _ => 0, 0, fun _ => .success⟩⟩⟩

def upgradeContext : FlashOperationContext where
  toOperationContext := { ServiceAttach.fullContext with flash := some Cpu1.flash }
  service := RamEvidence.smallService
  forceServiceAttach := false
  servicePolls _ := false
  serviceTransferPolls _ := false

/-- An image of one word is upgraded to. -/
theorem flash_upgrade_word :
    let prepared := wordPrepared 0x082400 (by decide)
    let core := coreServer ⟨false, false, false⟩ (Device.flashServiceCode FlashArray.port)
    ∃ erased programmed verified recorded masks counts,
      Completes core (eraseFlashImageArea upgradeContext prepared) attachedCore masks erased ∧
      Completes core (programFlashImage upgradeContext prepared) erased counts programmed ∧
      Completes core (verifyFlashImage upgradeContext prepared) programmed counts verified ∧
      Completes core (appendImageValid upgradeContext prepared) verified ⟨true, false, none⟩ recorded ∧
      Upgraded prepared attachedCore.world.service recorded.world.service := by
  have limits : ClientLimits attachedCore upgradeContext.toOperationContext :=
    ⟨by decide, by decide, by decide, by decide⟩
  have running : Running FlashArray.port attachedCore := ⟨by decide, rfl, fun _ _ => rfl⟩
  have serves : Serves upgradeContext attachedCore.world.service :=
    ⟨fun _ => rfl, by decide, by decide⟩
  have prepare : prepareFlashAppImage Cpu1.memoryMap (wordImage 0x082400 (by decide)) =
      .ok (wordPrepared 0x082400 (by decide)) := prepare_wordImage _ (by rfl) (by decide)
  obtain ⟨erased, masks, erases, -, -, programs, rest⟩ := @flash_upgrade ⟨false, false, false⟩ _ _ _ _ _
    prepare rfl rfl ⟨rfl, rfl, rfl, rfl⟩ limits (by decide) running (by decide) serves
  have cut : CutAtSectors (wordImage 0x082400 (by decide)) 248 := by
    intro start stop run
    obtain ⟨rfl, rfl⟩ := runs_wordImage _ run
    refine ⟨by decide, ?_⟩
    intro s _ behind before
    omega
  obtain ⟨counts, programmed, program⟩ := programs.2 cut
  obtain ⟨verified, recorded, verifies, appends, -, upgraded⟩ := rest counts programmed program
  exact ⟨erased, programmed, verified, recorded, masks, counts, erases, program, verifies, appends,
    upgraded⟩

end BootUpgrade.FlashUpgrade

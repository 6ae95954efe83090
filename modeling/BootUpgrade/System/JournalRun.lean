import BootUpgrade.FlashService.VerifyGate
import BootUpgrade.System.ArrayJournal

/-!
# The journal over all runs of the service

Appends, verify sessions, confirmations and restarts, in any order and with
any outcome of every Flash command: the journal invariant holds throughout,
and only erased record slots are programmed.
-/

namespace BootUpgrade.BootFlashService

open BootMetadata FlashArray

/-! ## What the service appends -/

/-- The sequence of an IMAGE_VALID record is the next one, also in an empty journal. -/
theorem imageSequence_scan (load : Nat → RecordWords) :
    imageSequence (scanLoadedRecords load 16) = (scanLoadedRecords load 16).latestSequence + 1 := by
  rw [imageSequence]
  split
  · rename_i none
    rw [scan_validRecordCount load none]
    rfl
  · rfl

/-- The fields of the record that an IMAGE_VALID request asks for. -/
def imageFields (request : BootProtocolFrame) (runtime : BootFlashServiceRuntimeState)
    (summary : BootMetadataSummary) : BootMetadataRecord :=
  { recordType := recordImageValid, sequence := imageSequence summary, slotId := BootSlot.a,
    slotRole := BootSlot.a, flags := 0, appStart := slotAAppStart, appEnd := request.u32 13,
    entryPoint := request.u32 2, imageSizeWords := request.u32 4, imageCrc32 := request.u32 6,
    appVersionMajor := request.word 8, appVersionMinor := request.word 9,
    appVersionPatch := request.word 10, appVersionBuild := request.u32 11,
    targetDeviceId := runtime.deviceId, targetCpuId := runtime.cpuId, bootAttemptLimit,
    bootAttemptCount := 0, recordCrc32 := 0 }

theorem sealed_imageFields (request : BootProtocolFrame) (runtime : BootFlashServiceRuntimeState)
    (summary : BootMetadataSummary) :
    (sealed (imageFields request runtime summary)).recordType = recordImageValid ∧
      (sealed (imageFields request runtime summary)).sequence = imageSequence summary ∧
      (sealed (imageFields request runtime summary)).bootAttemptLimit = bootAttemptLimit :=
  ⟨rfl, rfl, rfl⟩

/-- The record of an IMAGE_VALID request, as it reads back. -/
theorem validateRecord_imageRecord {request : BootProtocolFrame} (valid : ImageRequest request)
    (runtime : BootFlashServiceRuntimeState) (summary : BootMetadataSummary) :
    validateRecord (imageRecord request runtime summary) =
      some (sealed (imageFields request runtime summary)) := by
  have kind : isRecordTypeValid recordImageValid = true := by decide
  apply validateRecord_sealRecord (r := imageFields request runtime summary) kind rfl
  have start : ¬ (slotAAppStart ≥ request.u32 13 ∨ request.u32 13 > slotAAppEnd) := by
    simp only [not_or, ge_iff_le, gt_iff_lt, UInt32.not_le, UInt32.not_lt]
    exact ⟨valid.endStart, valid.endEnd⟩
  have entry : ¬ (request.u32 2 < slotAAppStart ∨ request.u32 2 ≥ slotAAppEnd ∨
      request.u32 2 % 8 ≠ 0) := by
    simp only [not_or, ge_iff_le, UInt32.not_le, UInt32.not_lt, ne_eq, Decidable.not_not]
    exact ⟨valid.entryStart, valid.entryEnd, valid.entryAligned⟩
  have limit : ¬ (bootAttemptLimit = 0 ∨ bootAttemptLimit > bootAttemptLimit) := by decide
  have same : ¬ slotAAppStart ≠ slotAAppStart := not_not_intro rfl
  unfold areAppFieldsValid imageFields
  dsimp only
  rw [if_neg same, if_neg start, if_neg entry, if_neg limit]

theorem Appends.built {σ : Type} {asked : Option BootProtocolFrame} {s : FlashService σ}
    {summary : BootMetadataSummary} {record : RecordWords} (h : Appends asked s summary record) : BuiltRecord record := by
  cases h with
  | imageValid => exact .imageValid ..
  | bootAttempt => exact .bootAttempt ..
  | appConfirmed => exact .appConfirmed ..

section
variable {σ : Type} {asked : Option BootProtocolFrame} {s : FlashService σ}
  {load : Nat → RecordWords} {slot : Nat} {record : RecordWords}

theorem record_kind (r : BootMetadataRecord) :
    (parseRecord (sealRecord r)).recordType = r.recordType :=
  sealRecord_getElem r (by decide)

theorem followUp_ne_image : recordBootAttempt ≠ recordImageValid ∧
    recordAppConfirmed ≠ recordImageValid := by
  decide

/-- An appended image becomes the current one; any other record leaves it. -/
theorem Appends.currentImage {r : BootMetadataRecord} (inv : JournalInvariant load)
    (h : Appends asked s (scanLoadedRecords load 16) record) (hv : validateRecord record = some r) :
    (∃ request, asked = some request ∧ ImageRequest request ∧
      r = sealed (imageFields request s.runtime (scanLoadedRecords load 16)) ∧
      BootMetadata.currentImage (validRecords load 16 ++ [r]) = some r) ∨
    ((scanLoadedRecords load 16).metadataValid ≠ 0 ∧ r.recordType ≠ recordImageValid ∧
      BootMetadata.currentImage (validRecords load 16 ++ [r]) =
        BootMetadata.currentImage (validRecords load 16)) := by
  have newer := inv.next_sequence.1
  have sequence := imageSequence_scan load
  generalize scanLoadedRecords load 16 = summary at h newer sequence ⊢
  cases h with
  | imageValid request asked valid gate single =>
    have built := validateRecord_imageRecord valid s.runtime summary
    rw [hv] at built
    have same := Option.some.inj built
    obtain ⟨kind, numbered, -⟩ := sealed_imageFields request s.runtime summary
    rw [← same] at kind numbered
    rw [← sequence, ← numbered] at newer
    exact .inl ⟨request, asked, valid, same, currentImage_append_image kind newer⟩
  | bootAttempt valid =>
    have kind : r.recordType ≠ recordImageValid := by
      rw [(validateRecord_some hv).1, buildBootAttemptRecord, parseRecord_sealRecord]
      exact followUp_ne_image.1
    exact .inr ⟨valid, kind, currentImage_append_other kind⟩
  | appConfirmed valid =>
    have kind : r.recordType ≠ recordImageValid := by
      rw [(validateRecord_some hv).1, buildAppConfirmedRecord, parseRecord_sealRecord]
      exact followUp_ne_image.2
    exact .inr ⟨valid, kind, currentImage_append_other kind⟩

/-- A completely written record keeps the journal invariant. -/
theorem Appends.invariant (inv : JournalInvariant load) (hs : slot < 16)
    (erased : isErasedRecord (load slot) = true)
    (first : ∀ i < slot, isErasedRecord (load i) = false)
    (h : Appends asked s (scanLoadedRecords load 16) record) :
    JournalInvariant (writeSlot load slot record) := by
  cases h with
  | imageValid request same valid gate single =>
    have hv := validateRecord_imageRecord valid s.runtime (scanLoadedRecords load 16)
    exact inv.append_image hs erased first hv rfl (imageSequence_scan load)
  | bootAttempt valid single unconfirmed left =>
    exact inv.append_attempt hs erased first valid left _
  | appConfirmed valid single image attempted unconfirmed =>
    exact inv.append_confirmed hs erased first valid attempted

/-- So does one of which only the first units were written. -/
theorem Appends.torn_invariant (inv : JournalInvariant load) (hs : slot < 16)
    (erased : isErasedRecord (load slot) = true)
    (first : ∀ i < slot, isErasedRecord (load i) = false)
    (h : Appends asked s (scanLoadedRecords load 16) record) (units : Nat) :
    JournalInvariant (writeSlot load slot (tornRecord record units)) := by
  by_cases whole : tornRecord record units = record
  · rw [whole]
    exact h.invariant inv hs erased first
  · exact inv.append_invalid hs erased first (validateRecord_torn h.built whole)

end

/-! ## One append to the array -/

theorem nextRecordAddress_index {summary : BootMetadataSummary} {slot : Nat} (hs : slot < 16)
    (index : summary.nextRecordIndex = UInt16.ofNat slot) :
    (nextRecordAddress summary).toNat = slotAddress slot := by
  have small : (UInt16.ofNat slot).toNat = slot :=
    UInt16.toNat_ofNat_of_lt' (by simp only [UInt16.size]; omega)
  have product : ((UInt16.ofNat slot).toUInt32 * recordWords).toNat = slot * 64 := by
    simp only [UInt32.toNat_mul, UInt16.toNat_toUInt32, small, recordWords, UInt32.reduceToNat]
    omega
  have start : slotAStart.toNat = 0x082000 := rfl
  rw [nextRecordAddress, index, Words.toNat_add_of_lt (by omega), product, start, slotAddress]
  omega

/-- The scan's next slot is the first erased one, and the record address is its address. -/
theorem nextRecordAddress_spec {load : Nat → RecordWords}
    (ready : SlotReady (scanLoadedRecords load 16)) :
    ∃ slot < 16, (nextRecordAddress (scanLoadedRecords load 16)).toNat = slotAddress slot ∧
      isErasedRecord (load slot) = true ∧ ∀ i < slot, isErasedRecord (load i) = false := by
  obtain ⟨slot, hs, index, erased, first⟩ := nextRecordIndex_spec ready.free
  exact ⟨slot, hs, nextRecordAddress_index hs index, erased, first⟩

/-- The call programs erased words of one record slot only. -/
structure ProgramsErased (c : LoggedCall FlashArray) : Prop where
  record : ∀ address data count, c.call = .programMetadataRecord address data count →
    count = 64 ∧ data.length = 64 ∧ address.toNat % 64 = 0 ∧ 0x082000 ≤ address.toNat ∧
      address.toNat + 64 ≤ 0x082400 ∧ ∀ k < 64, c.before.words (address.toNat + k) = erasedWord
  keeps : ∀ a, c.after.words a ≠ c.before.words a →
    0x082000 ≤ a ∧ a < 0x082400 ∧ c.before.words a = erasedWord

/-- A call that is no record program and changes nothing. -/
theorem programsErased_of_words {c : LoggedCall FlashArray} (same : c.after.words = c.before.words)
    (other : ∀ address data count, c.call ≠ .programMetadataRecord address data count) :
    ProgramsErased c :=
  ⟨fun address data count h => absurd h (other address data count), fun a h => by simp [same] at h⟩

/-- Flash initialization changes no word. -/
theorem Prepared.words {s : FlashService FlashArray} {s₁ : FlashService (Logged FlashArray)}
    (h : Prepared FlashArray.port.logged (watched s) s₁) :
    s₁.world.world.words = s.world.words ∧ ∀ c ∈ s₁.world.calls, ProgramsErased c := by
  obtain rfl | ⟨-, flag, rfl⟩ := h
  · exact ⟨rfl, fun c hc => by cases hc⟩
  · refine ⟨init_words .zero s.world, fun c hc => ?_⟩
    obtain rfl : c = ⟨.init, s.world, _, _⟩ := by
      simpa [FlashPort.logged, Logged.record, watched] using hc
    exact programsErased_of_words (init_words .zero s.world) (by simp)

theorem scanJournal_watched (s : FlashService FlashArray) :
    scanJournal FlashArray.port.logged (watched s) =
      scanLoadedRecords (journal s.world.words) 16 := rfl

/-- The record call and what it adds to the log. -/
theorem recordCall_logged (summary : BootMetadataSummary) (record : RecordWords)
    (s₁ : FlashService (Logged FlashArray)) :
    ∃ r : PortReturn FlashArray,
      r = FlashArray.port.programMetadataRecord (nextRecordAddress summary) record.toList 64
        (recordInfo (nextRecordAddress summary)) s₁.world.world ∧
      (recordCall FlashArray.port.logged summary record s₁).world =
        ⟨r.world, s₁.world.calls ++ [⟨.programMetadataRecord (nextRecordAddress summary)
          record.toList 64, s₁.world.world, r.result, r.world⟩]⟩ :=
  ⟨_, rfl, rfl⟩

/-- The first units of the record have gone into the first erased slot. -/
theorem record_written {s : FlashService FlashArray} {s₁ : FlashService (Logged FlashArray)}
    {summary : BootMetadataSummary} (record : RecordWords)
    (scan : summary = scanLoadedRecords (journal s.world.words) 16) (ready : SlotReady summary)
    (prepared : Prepared FlashArray.port.logged (watched s) s₁) :
    ∃ slot < 16, ∃ units ≤ 8, (nextRecordAddress summary).toNat = slotAddress slot ∧
      isErasedRecord (journal s.world.words slot) = true ∧
      (∀ i < slot, isErasedRecord (journal s.world.words i) = false) ∧
      (recordCall FlashArray.port.logged summary record s₁).world.world.words =
        programWords s.world.words (slotAddress slot) (record.toList.take (8 * units)) := by
  obtain ⟨slot, hs, address, erased, first⟩ := nextRecordAddress_spec (scan ▸ ready)
  rw [← scan] at address
  obtain ⟨r, hr, world⟩ := recordCall_logged summary record s₁
  obtain ⟨units, le, words, -⟩ := programMetadataRecord_words
    (recordInfo (nextRecordAddress summary)) s₁.world.world (nextRecordAddress summary)
    record.toList 64
  rw [← hr, address, prepared.words.1] at words
  rw [world]
  exact ⟨slot, hs, units, le, address, erased, first, words⟩

theorem record_journal {s : FlashService FlashArray} {s₁ : FlashService (Logged FlashArray)}
    {asked : Option BootProtocolFrame} {summary : BootMetadataSummary} {record : RecordWords}
    (scan : summary = scanLoadedRecords (journal s.world.words) 16)
    (inv : JournalInvariant (journal s.world.words))
    (appends : Appends asked (watched s) summary record) (ready : SlotReady summary)
    (prepared : Prepared FlashArray.port.logged (watched s) s₁) :
    JournalInvariant (journal (recordCall FlashArray.port.logged summary record s₁).world.world.words) ∧
      ∀ c ∈ (recordCall FlashArray.port.logged summary record s₁).world.calls, ProgramsErased c := by
  obtain ⟨slot, hs, units, le, address, erased, first, words⟩ :=
    record_written record scan ready prepared
  obtain ⟨before, calls⟩ := prepared.words
  have blank := (journal_erased hs).1 erased
  have len : (record.toList.take (8 * units)).length = 8 * units := by
    rw [List.length_take, Vector.length_toList]
    omega
  constructor
  · rw [scan] at appends
    rw [words]
    exact journalInvariant_congr (fun i hi => (journal_program hs erased record le hi).symm)
      (appends.torn_invariant inv hs erased first units)
  · obtain ⟨r, -, world⟩ := recordCall_logged summary record s₁
    rw [world] at words ⊢
    dsimp only at words
    intro c hc
    rcases List.mem_append.1 hc with hc | hc
    · exact calls c hc
    · obtain rfl := List.mem_singleton.1 hc
      refine ⟨fun address' data count h => ?_, fun a changed => ?_⟩
      · obtain ⟨rfl, rfl, rfl⟩ := PortCall.programMetadataRecord.inj h
        rw [address, before]
        unfold slotAddress at blank ⊢
        exact ⟨rfl, by simp, by omega, by omega, by omega, blank⟩
      · simp only [words, before] at changed ⊢
        by_cases inside : slotAddress slot ≤ a ∧ a < slotAddress slot + 64
        · have word := blank (a - slotAddress slot) (by omega)
          rw [show slotAddress slot + (a - slotAddress slot) = a by omega] at word
          unfold slotAddress at inside
          exact ⟨by omega, by omega, word⟩
        · rw [programWords_outside (by omega)] at changed
          exact absurd rfl changed

theorem append_journal {asked : Option BootProtocolFrame} {s : FlashService FlashArray}
    {status : UInt16}
    {s' : FlashService (Logged FlashArray)} (inv : JournalInvariant (journal s.world.words))
    (h : AppendStep FlashArray.port.logged asked (watched s) status s') :
    JournalInvariant (journal s'.world.world.words) ∧ ∀ c ∈ s'.world.calls, ProgramsErased c := by
  cases h with
  | untouched => exact ⟨inv, fun c hc => by cases hc⟩
  | unprepared refused prepared =>
    obtain ⟨words, calls⟩ := prepared.words
    exact ⟨by rw [words]; exact inv, calls⟩
  | written appends slot prepared =>
    exact record_journal (scanJournal_watched s) inv appends slot prepared
  | imageWritten appends slot prepared programmed =>
    exact record_journal (scanJournal_watched s) inv appends slot prepared

/-! ## The run -/

/-- Everything but ERASE and PROGRAM. -/
def JournalInput : ServiceInput → Prop
  | .command request => request.command = BootCmd.metadataAppendRecord ∨
      request.command = BootCmd.verifyBegin ∨ request.command = BootCmd.verifyData ∨
      request.command = BootCmd.verifyEnd
  | _ => True

theorem verify_journal {s : FlashService FlashArray}
    (inv : JournalInvariant (journal s.world.words)) (address : UInt32) (data : List UInt16)
    (count : UInt16) (info : BootFlashErrorInfo) :
    let r := FlashArray.port.logged.verifyBlock address data count info (watched s).world
    JournalInvariant (journal r.world.world.words) ∧ ∀ c ∈ r.world.calls, ProgramsErased c := by
  have same := verifyBlock_words info s.world address data count
  refine ⟨same ▸ inv, fun c hc => ?_⟩
  obtain rfl : c = ⟨.verifyBlock address data count, s.world, _, _⟩ := by
    simpa [FlashPort.logged, Logged.record, watched] using hc
  exact programsErased_of_words same (by simp)

theorem step_journal {s : FlashService FlashArray} {request : BootProtocolFrame} {status : UInt16}
    {s' : FlashService (Logged FlashArray)} (input : JournalInput (.command request))
    (inv : JournalInvariant (journal s.world.words))
    (h : Step FlashArray.port.logged request (watched s) status s') :
    JournalInvariant (journal s'.world.world.words) ∧ ∀ c ∈ s'.world.calls, ProgramsErased c := by
  have other : ∀ command, request.command = command → command = BootCmd.metadataAppendRecord ∨
      command = BootCmd.verifyBegin ∨ command = BootCmd.verifyData ∨
      command = BootCmd.verifyEnd := by
    rintro _ rfl; exact input
  have quiet : ∀ c ∈ (watched s).world.calls, ProgramsErased c := fun c hc => by cases hc
  cases h with
  | refused => exact ⟨inv, quiet⟩
  | unprepared refused prepared =>
    obtain ⟨words, calls⟩ := prepared.words
    exact ⟨by rw [words]; exact inv, calls⟩
  | aborted => exact ⟨inv, quiet⟩
  | erased command => exact absurd (other _ command) (by decide)
  | eraseFailed command => exact absurd (other _ command) (by decide)
  | begun operation command operation_ne idle length packets words prepared =>
    obtain ⟨same, calls⟩ := prepared.words
    refine ⟨?_, calls⟩
    dsimp only
    rw [same]
    exact inv
  | programmed command => exact absurd (other _ command) (by decide)
  | programFailed command => exact absurd (other _ command) (by decide)
  | verified command ready done => exact verify_journal inv _ _ _ _
  | verifyFailed command refused ready => exact verify_journal inv _ _ _ _
  | ended operation =>
    split
    · exact ⟨inv, quiet⟩
    · exact ⟨inv, quiet⟩
  | append command append => exact append_journal inv append

theorem event_journal {s : FlashService FlashArray} {input : ServiceInput}
    (allowed : JournalInput input) (inv : JournalInvariant (journal s.world.words)) :
    JournalInvariant (journal
      ((serviceMachine FlashArray.port).step s input).2.world.words) ∧
      ∀ c ∈ ((serviceMachine FlashArray.port).event s input).output.calls, ProgramsErased c := by
  cases input with
  | bootInit deviceId cpuId maxDataWords =>
    have world : (bootInit deviceId cpuId maxDataWords s).2.world = s.world := by
      unfold bootInit
      dsimp only
      split
      · rfl
      · split <;> rfl
    refine ⟨?_, fun c hc => by cases hc⟩
    show JournalInvariant (journal (bootInit deviceId cpuId maxDataWords s).2.world.words)
    rw [world]
    exact inv
  | command request => exact step_journal allowed inv (bootHandleCommand_step 0 .clear)
  | confirmCurrentImage => exact append_journal inv (confirmJournal_step : AppendStep _ none _ _ _)

/-- What holds of the journal in the words `m` after the history `h`. -/
structure JournalHolds (h : List (ServiceEvent FlashArray)) (m : Memory.Words) : Prop where
  /-- Every record program has found its slot erased, and nothing else was programmed. -/
  programs : ∀ ev ∈ h, ∀ c ∈ ev.output.calls, ProgramsErased c
  /-- The used slots are a prefix of the journal. -/
  used : ∃ used ≤ 16, ∀ i < 16, isErasedRecord (journal m i) = true ↔ used ≤ i
  ascending : (validRecords (journal m) 16).Pairwise fun a b => a.sequence < b.sequence
  single : (scanLoadedRecords (journal m) 16).state ≠ .duplicateSequence
  attempts : (scanLoadedRecords (journal m) 16).metadataValid ≠ 0 →
    (scanLoadedRecords (journal m) 16).bootAttemptCount ≤
      (scanLoadedRecords (journal m) 16).bootAttemptLimit ∧
    (scanLoadedRecords (journal m) 16).bootAttemptLimit ≤ bootAttemptLimit
  confirmed : (scanLoadedRecords (journal m) 16).metadataValid ≠ 0 →
    (scanLoadedRecords (journal m) 16).appConfirmed ≠ 0 →
    (scanLoadedRecords (journal m) 16).bootAttemptCount ≠ 0

/-- Every run that starts from an erased journal keeps it in order. -/
theorem journal_run (s₀ : FlashService FlashArray)
    (blank : ∀ a, 0x082000 ≤ a → a < 0x082400 → s₀.world.words a = erasedWord)
    (inputs : List ServiceInput) (allowed : ∀ i ∈ inputs, JournalInput i) :
    JournalHolds ((serviceMachine FlashArray.port).history s₀ inputs)
      ((serviceMachine FlashArray.port).run s₀ inputs).world.words := by
  have all := (serviceMachine FlashArray.port).history_induction_of s₀
    (fun ev => JournalInput ev.input)
    (fun h s => JournalInvariant (journal s.world.words) ∧
      ∀ ev ∈ h, ∀ c ∈ ev.output.calls, ProgramsErased c)
    ⟨journalInvariant_blank fun i hi => (journal_erased hi).2 fun k hk =>
      blank _ (by unfold slotAddress; omega) (by unfold slotAddress; omega),
      fun ev hev => by cases hev⟩
    (fun h s input ⟨inv, calls⟩ hi => ?_) inputs
    ((serviceMachine FlashArray.port).forall_history_input allowed)
  · obtain ⟨inv, calls⟩ := all
    exact {
      programs := calls
      used := inv.filled
      ascending := inv.ascending
      single := inv.scan_single
      attempts := inv.scan_attempts
      confirmed := inv.scan_confirmed }
  · obtain ⟨inv', calls'⟩ := event_journal hi inv
    refine ⟨inv', fun ev hev => ?_⟩
    rcases List.mem_append.1 hev with hev | hev
    · exact calls ev hev
    · rw [List.mem_singleton.1 hev]
      exact calls'

theorem imageWords_length : [recordImageValid, BootSlot.a, 0x2400, 0x8, 8, 0, 0x1234, 0x5678, 1, 0,
    0, 1, 0, 0x2408, 0x8, 0].length ≤ 256 := by decide

/-- A verify session, an IMAGE_VALID append that fails half way, and a restart. -/
def tornRun : List ServiceInput :=
  verifyRequests ++
    [.command (.ofWords BootCmd.metadataAppendRecord 4
      [recordImageValid, BootSlot.a, 0x2400, 0x8, 8, 0, 0x1234, 0x5678, 1, 0, 0, 1, 0, 0x2408, 0x8, 0]),
    .bootInit BootDevice.f28377d BootDevice.cpu1 248, .confirmCurrentImage]

theorem journal_run_torn :
    let s₀ : FlashService FlashArray :=
      (bootInit BootDevice.f28377d BootDevice.cpu1 248
        ⟨⟨.reset, 0, 0, 0, 0, 0, 0⟩, {
          words := fun a => if a < 0x082400 then erasedWord else 0
          fsmStatus := 0
          outcomes := fun n => if n = 6 then ⟨1, 0, false⟩ else .success }⟩).2
    JournalHolds ((serviceMachine FlashArray.port).history s₀ tornRun)
      ((serviceMachine FlashArray.port).run s₀ tornRun).world.words := by
  apply journal_run
  · intro a _ ha
    exact if_pos ha
  · have commands : ∀ i ∈ tornRun, JournalInput i := by
      simp [tornRun, verifyRequests, JournalInput, BootProtocolFrame.ofWords]
    exact commands

end BootUpgrade.BootFlashService

import BootUpgrade.System.Containment
import BootUpgrade.System.JournalRun

/-!
# What the service can make of its journal

One step leaves the journal, writes the first units of a record into the first
erased slot, or erases the sector. Every journal that comes of it is in order,
and its current image is of the device that the service is made for.
-/

namespace BootUpgrade.BootFlashService

open BootMetadata FlashArray

/-! ## One step -/

/-- What a step can do to the journal. -/
inductive JournalMove (s : FlashService FlashArray) (load' : Nat → RecordWords) : Prop
  | kept (same : ∀ i < 16, load' i = journal s.world.words i)
  | written {asked : Option BootProtocolFrame} {record : RecordWords} {slot units : Nat}
      (hs : slot < 16) (erased : isErasedRecord (journal s.world.words slot) = true)
      (first : ∀ i < slot, isErasedRecord (journal s.world.words i) = false)
      (initialized : s.runtime.initialized ≠ 0)
      (appends : Appends asked s (scanLoadedRecords (journal s.world.words) 16) record)
      (whole : ∀ i < 16, load' i = writeSlot (journal s.world.words) slot (tornRecord record units) i)
  | blanked (blank : ∀ i < 16, isErasedRecord (load' i) = true)

section
variable {s : FlashService FlashArray} {m : Memory.Words}

/-- The journal sees its own words only. -/
theorem JournalMove.of_words (same : ∀ a, 0x082000 ≤ a → a < 0x082400 → m a = s.world.words a) :
    JournalMove s (journal m) := by
  apply JournalMove.kept
  intro i hi
  apply journal_congr hi
  intro k hk
  apply same <;> unfold slotAddress <;> omega

/-- Erasing a sector blanks the journal or does not touch it. -/
theorem eraseSectorWords_journal (m : Memory.Words) (i : Nat) :
    (∀ a, 0x082000 ≤ a → a < 0x082400 → eraseSectorWords m i a = m a) ∨
      ∀ a, 0x082000 ≤ a → a < 0x082400 → eraseSectorWords m i a = erasedWord := by
  unfold eraseSectorWords
  cases sector : F28377D.sectorTable[i]? with
  | none => exact .inl fun _ _ _ => rfl
  | some t =>
    have table : ∀ t ∈ F28377D.sectorTable,
        t.1 ≤ 0x082000 ∧ 0x082400 ≤ t.2 ∨ t.2 ≤ 0x082000 ∨ 0x082400 ≤ t.1 := by
      decide
    rcases table t (List.mem_of_getElem? sector) with ⟨start, stop⟩ | apart
    · exact .inr fun a _ _ => Memory.fill_inside (by omega) (by omega)
    · exact .inl fun a _ _ => Memory.fill_outside (by omega)

theorem eraseSelected_journal (m : Memory.Words) (sectorMask : UInt32) (n : Nat) :
    (∀ a, 0x082000 ≤ a → a < 0x082400 → eraseSelected m sectorMask n a = m a) ∨
      ∀ a, 0x082000 ≤ a → a < 0x082400 → eraseSelected m sectorMask n a = erasedWord := by
  induction n with
  | zero => exact .inl fun _ _ _ => rfl
  | succ n ih =>
    rw [eraseSelected]
    split
    · rcases eraseSectorWords_journal (eraseSelected m sectorMask n) n with same | blank
      · rcases ih with kept | blank
        · exact .inl fun a lo hi => (same a lo hi).trans (kept a lo hi)
        · exact .inr fun a lo hi => (same a lo hi).trans (blank a lo hi)
      · exact .inr blank
    · exact ih

theorem scanJournal_array (s : FlashService FlashArray) :
    scanJournal FlashArray.port s = scanLoadedRecords (journal s.world.words) 16 := rfl

section
variable {s₁ : FlashService FlashArray} (prepared : Prepared FlashArray.port s s₁)
include prepared

theorem Prepared.kept : s₁.world.words = s.world.words := by
  obtain rfl | ⟨-, flag, rfl⟩ := prepared
  · rfl
  · exact init_words .zero s.world

theorem erase_move (sectorMask : UInt32) (info : BootFlashErrorInfo) :
    JournalMove s (journal (FlashArray.port.eraseBySectorMask sectorMask info s₁.world).world.words) := by
  obtain ⟨done, -, words, -⟩ := eraseBySectorMask_words info s₁.world sectorMask
  rw [words, prepared.kept]
  rcases eraseSelected_journal s.world.words sectorMask done with same | blank
  · exact .of_words same
  · apply JournalMove.blanked
    intro i hi
    apply (journal_erased hi).2
    intro k hk
    apply blank <;> unfold slotAddress <;> omega

theorem record_move {asked : Option BootProtocolFrame} {summary : BootMetadataSummary}
    {record : RecordWords} (initialized : s.runtime.initialized ≠ 0)
    (scan : summary = scanLoadedRecords (journal s.world.words) 16)
    (appends : Appends asked s summary record) (ready : SlotReady summary) :
    JournalMove s (journal (recordCall FlashArray.port summary record s₁).world.words) := by
  obtain ⟨slot, hs, address, erased, first⟩ := nextRecordAddress_spec (scan ▸ ready)
  rw [← scan] at address
  obtain ⟨units, le, words, -⟩ := programMetadataRecord_words
    (recordInfo (nextRecordAddress summary)) s₁.world (nextRecordAddress summary) record.toList 64
  have programmed : (recordCall FlashArray.port summary record s₁).world.words = _ := words
  rw [programmed, address, prepared.kept]
  rw [scan] at appends
  exact .written hs erased first initialized appends
    fun i hi => journal_program hs erased record le hi

end

/-- Program packets do not reach the journal. -/
theorem program_move {request : BootProtocolFrame} (info : BootFlashErrorInfo)
    (ready : DataReady FlashArray.port request .program .program s) :
    JournalMove s (journal (FlashArray.port.programBlock (request.u32 0)
      (request.words 5 (request.word 2).toNat) (request.word 2) info s.world).world.words) := by
  have block := ready.appBlock rfl
  have start := block.start
  have stop := block.stop
  obtain ⟨done, -, words, -⟩ := programBlock_words info s.world (request.u32 0)
    (request.words 5 (request.word 2).toNat) (request.word 2) (by omega)
  apply JournalMove.of_words
  intro a _ hi
  rw [words]
  exact programWords_outside (.inl (by omega))

theorem append_move {asked : Option BootProtocolFrame} {status : UInt16}
    {s' : FlashService FlashArray} (initialized : s.runtime.initialized ≠ 0)
    (h : AppendStep FlashArray.port asked s status s') : JournalMove s (journal s'.world.words) := by
  cases h with
  | untouched => exact .kept fun _ _ => rfl
  | unprepared refused prepared =>
    rw [prepared.kept]
    exact .kept fun _ _ => rfl
  | written appends slot prepared =>
    have move := record_move prepared initialized (scanJournal_array s) appends slot
    generalize recordCall FlashArray.port (scanJournal FlashArray.port s) _ _ = r at move ⊢
    exact move
  | imageWritten appends slot prepared programmed =>
    have move := record_move prepared initialized (scanJournal_array s) appends slot
    generalize recordCall FlashArray.port (scanJournal FlashArray.port s) _ _ = r at move ⊢
    exact move

theorem step_move {request : BootProtocolFrame} {status : UInt16} {s' : FlashService FlashArray}
    (initialized : s.runtime.initialized ≠ 0) (h : Step FlashArray.port request s status s') :
    JournalMove s (journal s'.world.words) := by
  cases h with
  | refused => exact .kept fun _ _ => rfl
  | unprepared refused prepared =>
    rw [prepared.kept]
    exact .kept fun _ _ => rfl
  | aborted => exact .kept fun _ _ => rfl
  | erased command mask prepared => exact erase_move prepared _ _
  | eraseFailed command refused mask prepared => exact erase_move prepared _ _
  | begun operation command operation_ne idle length packets words prepared =>
    dsimp only
    rw [prepared.kept]
    exact .kept fun _ _ => rfl
  | programmed command ready => exact program_move _ ready
  | programFailed command refused ready => exact program_move _ ready
  | verified command ready =>
    exact .of_words fun a _ _ => congrFun (verifyBlock_words _ s.world _ _ _) a
  | verifyFailed command refused ready =>
    exact .of_words fun a _ _ => congrFun (verifyBlock_words _ s.world _ _ _) a
  | ended operation => split <;> exact .kept fun _ _ => rfl
  | append command append => exact append_move initialized append

theorem command_move (request : BootProtocolFrame) (words : UInt16) (error : BootErrorDetail) :
    JournalMove s
      (journal (bootHandleCommand FlashArray.port request words error s).service.world.words) := by
  by_cases initialized : s.runtime.initialized = 0
  · rw [bootHandleCommand, if_pos initialized]
    exact .kept fun _ _ => rfl
  · exact step_move initialized (bootHandleCommand_step words error)

theorem confirm_move : JournalMove s
    (journal (confirmCurrentImage FlashArray.port s).service.world.words) := by
  by_cases initialized : s.runtime.initialized = 0
  · rw [confirmCurrentImage, confirmJournal, if_pos initialized]
    exact .kept fun _ _ => rfl
  · exact append_move initialized (confirmJournal_step : AppendStep _ none _ _ _)

theorem bootInit_world (deviceId cpuId maxDataWords : UInt16) :
    (bootInit deviceId cpuId maxDataWords s).2.world = s.world := by
  unfold bootInit
  dsimp only
  split
  · rfl
  · split <;> rfl

end

/-! ## The images of the device -/

/-- The image is one that the service has admitted on the device it is made for. -/
structure DeviceImage (image : BootMetadataRecord) : Prop where
  targetDeviceId : image.targetDeviceId = BootDevice.f28377d
  targetCpuId : image.targetCpuId = BootDevice.cpu1
  entryPoint : image.entryPoint ≠ 0
  imageSizeWords : image.imageSizeWords ≠ 0
  bootAttemptLimit : image.bootAttemptLimit = BootMetadata.bootAttemptLimit

/-- The journal of the device. -/
structure DeviceJournal (load : Nat → RecordWords) : Prop where
  invariant : JournalInvariant load
  current : ∀ image, currentImage (validRecords load 16) = some image → DeviceImage image

/-- An initialized service knows the device. -/
def KnowsDevice (runtime : BootFlashServiceRuntimeState) : Prop :=
  runtime.initialized ≠ 0 → runtime.deviceId = BootDevice.f28377d ∧ runtime.cpuId = BootDevice.cpu1

theorem deviceJournal_congr {load load' : Nat → RecordWords} (same : ∀ i < 16, load i = load' i)
    (h : DeviceJournal load) : DeviceJournal load' := by
  refine ⟨journalInvariant_congr same h.invariant, ?_⟩
  rw [← validRecords_congr fun i hi => congrArg validateRecord (same i hi)]
  exact h.current

theorem deviceJournal_blank {load : Nat → RecordWords}
    (blank : ∀ i < 16, isErasedRecord (load i) = true) : DeviceJournal load := by
  refine ⟨journalInvariant_blank blank, ?_⟩
  rw [validRecords_erased_tail (Nat.zero_le 16) fun i _ hi => blank i hi]
  intro image none
  cases none

theorem deviceImage_imageFields {request : BootProtocolFrame} (valid : ImageRequest request)
    {runtime : BootFlashServiceRuntimeState} (knows : KnowsDevice runtime)
    (initialized : runtime.initialized ≠ 0) (summary : BootMetadataSummary) :
    DeviceImage (sealed (imageFields request runtime summary)) := by
  obtain ⟨device, cpu⟩ := knows initialized
  refine ⟨device, cpu, ?_, valid.size, rfl⟩
  intro zero
  have start := valid.entryStart
  rw [show request.u32 2 = 0 from zero] at start
  exact absurd start (by decide)

section
variable {s : FlashService FlashArray}

/-- A record that was decided keeps the journal, written as a whole or in part. -/
theorem DeviceJournal.append {asked : Option BootProtocolFrame} {record : RecordWords} {slot : Nat}
    (h : DeviceJournal (journal s.world.words)) (knows : KnowsDevice s.runtime)
    (initialized : s.runtime.initialized ≠ 0) (hs : slot < 16)
    (erased : isErasedRecord (journal s.world.words slot) = true)
    (first : ∀ i < slot, isErasedRecord (journal s.world.words i) = false)
    (appends : Appends asked s (scanLoadedRecords (journal s.world.words) 16) record)
    (units : Nat) :
    DeviceJournal (writeSlot (journal s.world.words) slot (tornRecord record units)) := by
  refine ⟨appends.torn_invariant h.invariant hs erased first units, ?_⟩
  have tail := h.invariant.erased_tail erased hs
  cases hv : validateRecord (tornRecord record units) with
  | none =>
    have same : validRecords (writeSlot (journal s.world.words) slot
        (tornRecord record units)) 16 = validRecords (journal s.world.words) 16 :=
      validRecords_writeSlot erased hv
    rw [same]
    exact h.current
  | some r =>
    have whole : tornRecord record units = record := by
      apply Decidable.byContradiction
      intro torn
      rw [validateRecord_torn appends.built torn] at hv
      cases hv
    rw [whole] at hv ⊢
    rw [validRecords_append hs tail hv]
    intro image selected
    rcases appends.currentImage h.invariant hv with ⟨request, -, valid, built, current⟩ | ⟨-, -, same⟩
    · rw [current] at selected
      rw [← Option.some.inj selected, built]
      exact deviceImage_imageFields valid knows initialized _
    · rw [same] at selected
      exact h.current image selected

theorem DeviceJournal.move {load' : Nat → RecordWords}
    (h : DeviceJournal (journal s.world.words)) (knows : KnowsDevice s.runtime)
    (moved : JournalMove s load') : DeviceJournal load' := by
  cases moved with
  | kept same => exact deviceJournal_congr (fun i hi => (same i hi).symm) h
  | written hs erased first initialized appends whole =>
    exact deviceJournal_congr (fun i hi => (whole i hi).symm)
      (h.append knows initialized hs erased first appends _)
  | blanked blank => exact deviceJournal_blank blank

end

/-! ## Every run -/

/-- What the runtime of the service keeps while it is initialized. -/
structure SameRuntime (runtime runtime' : BootFlashServiceRuntimeState) : Prop where
  initialized : runtime'.initialized = runtime.initialized
  deviceId : runtime'.deviceId = runtime.deviceId
  cpuId : runtime'.cpuId = runtime.cpuId

section
variable {σ : Type} {port : FlashPort σ} {s s' : FlashService σ}

theorem Prepared.sameRuntime (h : Prepared port s s') : SameRuntime s.runtime s'.runtime := by
  obtain rfl | ⟨-, flag, rfl⟩ := h
  · exact ⟨rfl, rfl, rfl⟩
  · exact ⟨rfl, rfl, rfl⟩

theorem SameRuntime.after {runtime runtime' runtime'' : BootFlashServiceRuntimeState}
    (same : SameRuntime runtime runtime') (initialized : runtime''.initialized = runtime'.initialized)
    (deviceId : runtime''.deviceId = runtime'.deviceId) (cpuId : runtime''.cpuId = runtime'.cpuId) :
    SameRuntime runtime runtime'' :=
  ⟨initialized.trans same.initialized, deviceId.trans same.deviceId, cpuId.trans same.cpuId⟩

theorem AppendStep.sameRuntime {asked : Option BootProtocolFrame} {status : UInt16}
    (h : AppendStep port asked s status s') : SameRuntime s.runtime s'.runtime := by
  cases h with
  | untouched => exact ⟨rfl, rfl, rfl⟩
  | unprepared refused prepared => exact prepared.sameRuntime
  | written appends slot prepared => exact prepared.sameRuntime
  | imageWritten appends slot prepared programmed => exact prepared.sameRuntime.after rfl rfl rfl

theorem Step.sameRuntime {request : BootProtocolFrame} {status : UInt16}
    (h : Step port request s status s') : SameRuntime s.runtime s'.runtime := by
  cases h with
  | unprepared refused prepared => exact prepared.sameRuntime
  | erased command mask prepared => exact prepared.sameRuntime.after rfl rfl rfl
  | eraseFailed command refused mask prepared => exact prepared.sameRuntime
  | begun operation command operation_ne idle length packets words prepared =>
    exact prepared.sameRuntime.after rfl rfl rfl
  | append command append => exact append.sameRuntime
  | ended operation => split <;> exact ⟨rfl, rfl, rfl⟩
  | _ => exact ⟨rfl, rfl, rfl⟩

theorem SameRuntime.knows {runtime runtime' : BootFlashServiceRuntimeState}
    (same : SameRuntime runtime runtime') (knows : KnowsDevice runtime) : KnowsDevice runtime' := by
  unfold KnowsDevice
  rw [same.initialized, same.deviceId, same.cpuId]
  exact knows

/-- `boot_init` refuses every other device. -/
theorem bootInit_knows (deviceId cpuId maxDataWords : UInt16) (s : FlashService σ) :
    KnowsDevice (bootInit deviceId cpuId maxDataWords s).2.runtime := by
  unfold bootInit
  dsimp only
  split
  · exact fun initialized => absurd rfl initialized
  split
  · exact fun initialized => absurd rfl initialized
  · rename_i supported _
    intro _
    simpa using supported

end

/-- The service after a call of one of its entry points. -/
def served (s : FlashService FlashArray) : ServiceInput → FlashService FlashArray
  | .bootInit deviceId cpuId maxDataWords => (bootInit deviceId cpuId maxDataWords s).2
  | .command request => (bootHandleCommand FlashArray.port request 0 .clear s).service
  | .confirmCurrentImage => (confirmCurrentImage FlashArray.port s).service

theorem command_knows {s : FlashService FlashArray} (knows : KnowsDevice s.runtime)
    (request : BootProtocolFrame) (words : UInt16) (error : BootErrorDetail) :
    KnowsDevice (bootHandleCommand FlashArray.port request words error s).service.runtime := by
  have step : Step FlashArray.port request s _ _ := bootHandleCommand_step words error
  exact step.sameRuntime.knows knows

theorem served_knows {s : FlashService FlashArray} (knows : KnowsDevice s.runtime)
    (input : ServiceInput) : KnowsDevice (served s input).runtime := by
  cases input with
  | bootInit deviceId cpuId maxDataWords => exact bootInit_knows deviceId cpuId maxDataWords s
  | command request => exact command_knows knows request 0 .clear
  | confirmCurrentImage =>
    have step : AppendStep FlashArray.port none s
        (confirmJournal FlashArray.port none s).status
        (confirmJournal FlashArray.port none s).service := confirmJournal_step
    exact step.sameRuntime.knows knows

theorem served_move (s : FlashService FlashArray) (input : ServiceInput) :
    JournalMove s (journal (served s input).world.words) := by
  cases input with
  | bootInit deviceId cpuId maxDataWords =>
    rw [served, bootInit_world]
    exact .kept fun _ _ => rfl
  | command request => exact command_move request 0 .clear
  | confirmCurrentImage => exact confirm_move

/-- A journal that the service has produced: from an erased one, by any requests, restarts and
confirmations, with any outcome of every Flash command. -/
def Produced (m : Memory.Words) : Prop :=
  ∃ (s₀ : FlashService FlashArray) (inputs : List ServiceInput),
    (∀ a, 0x082000 ≤ a → a < 0x082400 → s₀.world.words a = erasedWord) ∧ KnowsDevice s₀.runtime ∧
      m = (inputs.foldl served s₀).world.words

theorem Produced.deviceJournal {m : Memory.Words} (h : Produced m) :
    DeviceJournal (journal m) := by
  obtain ⟨s₀, inputs, blank, knows, rfl⟩ := h
  have start : DeviceJournal (journal s₀.world.words) := by
    apply deviceJournal_blank
    intro i hi
    apply (journal_erased hi).2
    intro k hk
    apply blank <;> unfold slotAddress <;> omega
  clear blank
  induction inputs generalizing s₀ with
  | nil => exact start
  | cons input inputs ih =>
    exact ih (served s₀ input) (served_knows knows input) (start.move knows (served_move s₀ input))

end BootUpgrade.BootFlashService

import BootUpgrade.Simulator.Journal
import BootUpgrade.System.BootPrediction
import BootUpgrade.System.WorkingAppends

/-!
# Appends to the simulator's journal and to the device's

The two journals hold the same records up to the end of the application. On
them the simulator decides an append request as the service does, except for
two kinds of APP_CONFIRMED request.
-/

namespace BootUpgrade

open BootMetadata BootFlashService FlashArray HostProtocol HostWorkflow

/-! ## The records -/

namespace SimulatorCore

theorem sealWords_eq {record : RecordWords} {r : BootMetadataRecord}
    (h : ∀ i < 62, ∀ inside : i < 64, record[i] = fieldWord r i) :
    sealWords record = sealRecord r := by
  have crc : crc32Words (record.toList.take 62) = recordCrc (Vector.ofFn fun i => fieldWord r i) := by
    rw [crc32Words_eq]
    show recordCrc record = _
    apply recordCrc_congr
    intro i hi
    rw [h i hi (by omega), Vector.getElem_ofFn]
  apply Vector.ext
  intro k hk
  unfold sealWords sealRecord
  dsimp only
  rw [crc]
  by_cases high : k = 63
  · subst high
    simp
  by_cases low : k = 62
  · subst low
    simp
  · rw [Vector.getElem_setIfInBounds_ne hk (Ne.symm high),
      Vector.getElem_setIfInBounds_ne hk (Ne.symm low),
      Vector.getElem_set_ne (by omega) (by omega) (by omega),
      Vector.getElem_set_ne (by omega) (by omega) (by omega), Vector.getElem_ofFn]
    exact h k (by omega) hk

/-- The fields of the record of an IMAGE_VALID request, on the simulator. -/
def imageFields (payload : List UInt16) (sequence : UInt32) (device : DeviceInfo) :
    BootMetadataRecord :=
  let u32 (index : Nat) := joinU32 (payload.getD index 0) (payload.getD (index + 1) 0)
  { recordType := recordImageValid, sequence, slotId := BootSlot.a, slotRole := BootSlot.a,
    flags := 0, appStart := slotAAppStart, appEnd := u32 13, entryPoint := u32 2,
    imageSizeWords := u32 4, imageCrc32 := u32 6, appVersionMajor := payload.getD 8 0,
    appVersionMinor := payload.getD 9 0, appVersionPatch := payload.getD 10 0,
    appVersionBuild := u32 11, targetDeviceId := device.deviceId, targetCpuId := device.cpuId,
    bootAttemptLimit, bootAttemptCount := 0, recordCrc32 := 0 }

theorem buildImageValidRecord_eq (payload : List UInt16) (sequence : UInt32) (device : DeviceInfo) :
    buildImageValidRecord payload sequence device =
      sealRecord (imageFields payload sequence device) := by
  apply sealWords_eq
  intro i hi inside
  rw [Vector.getElem_ofFn]
  dsimp only
  unfold fieldWord imageFields
  split <;> simp

/-- The fields of a BOOT_ATTEMPT record and, with another type and count, of an
APP_CONFIRMED record. -/
def followUpFields (recordType : UInt16) (summary : MetadataSummary) (sequence : UInt32)
    (bootAttemptCount : UInt16) : BootMetadataRecord :=
  { recordType, sequence, slotId := BootSlot.a, slotRole := BootSlot.a, flags := 0,
    appStart := slotAAppStart, appEnd := slotAAppEnd, entryPoint := summary.entryPoint,
    imageSizeWords := summary.imageSizeWords, imageCrc32 := summary.imageCrc32,
    appVersionMajor := summary.appVersionMajor, appVersionMinor := summary.appVersionMinor,
    appVersionPatch := summary.appVersionPatch, appVersionBuild := summary.appVersionBuild,
    targetDeviceId := summary.targetDeviceId, targetCpuId := summary.targetCpuId,
    bootAttemptLimit := summary.bootAttemptLimit, bootAttemptCount, recordCrc32 := 0 }

theorem buildBootAttemptRecord_eq (summary : MetadataSummary) (sequence : UInt32) :
    buildBootAttemptRecord summary sequence = sealRecord (followUpFields recordBootAttempt summary
      sequence (summary.bootAttemptCount + 1)) := by
  apply sealWords_eq
  intro i hi inside
  rw [Vector.getElem_ofFn]
  dsimp only
  unfold fieldWord followUpFields
  split <;> simp

theorem buildAppConfirmedRecord_eq (summary : MetadataSummary) (sequence : UInt32) :
    buildAppConfirmedRecord summary sequence = sealRecord (followUpFields recordAppConfirmed summary
      sequence summary.bootAttemptCount) := by
  apply sealWords_eq
  intro i hi inside
  by_cases count : i = 28
  · subst count
    simp [fieldWord, followUpFields]
  by_cases kind : i = 4
  · subst kind
    simp [fieldWord, followUpFields]
  · rw [Vector.getElem_setIfInBounds_ne (by omega) (Ne.symm count),
      Vector.getElem_setIfInBounds_ne (by omega) (Ne.symm kind), buildBootAttemptRecord_eq,
      sealRecord_getElem _ hi]
    unfold fieldWord followUpFields
    split <;> simp_all

/-! ## The slot -/

/-- The first erased slot, as the loops of both sides name it. -/
theorem head_erasedSlots {load : Nat → RecordWords} {slot : Nat}
    (free : (erasedSlots load 16).head? = some slot) :
    slot < 16 ∧ isErasedRecord (load slot) = true ∧ (∀ i < slot, isErasedRecord (load i) = false) ∧
      nextIndex (erasedSlots load 16) ≠ invalidIndex := by
  have index : nextIndex (erasedSlots load 16) = UInt16.ofNat slot := by rw [nextIndex, free]
  rw [erasedSlots, List.head?_filter, List.find?_range_eq_some] at free
  obtain ⟨erased, mem, before⟩ := free
  have hs := List.mem_range.1 mem
  refine ⟨hs, erased, fun i hi => by simpa using before i hi, ?_⟩
  intro h
  have same := congrArg UInt16.toNat (index.symm.trans h)
  simp [invalidIndex] at same
  omega

/-- What an append stores, or the answer of a full journal. -/
theorem appendRecord_spec (core : SimulatorCore) (clean : Clean core.metadataRecord)
    {next : UInt16} {latest : UInt32} (build : UInt32 → RecordWords)
    (hn : (scanLoadedRecords core.metadataRecord 16).nextRecordIndex = next)
    (hl : (scanLoadedRecords core.metadataRecord 16).latestSequence = latest)
    (small : latest.toNat < 0xFFFFFFFF) :
    (next = invalidIndex ∧ core.appendRecord build =
      .ok (core.fail BootStatus.metadataFull BootErr.opProgram BootErr.stageState)) ∨
    next ≠ invalidIndex ∧ ∃ slot < 16,
      isErasedRecord (core.metadataRecord slot) = true ∧
      (∀ i < slot, isErasedRecord (core.metadataRecord i) = false) ∧
      core.appendRecord build = .ok (({ core with
        flash := Memory.store core.flash (slotAStart.toNat + slot * 64)
          (build (latest + 1)).toList } : SimulatorCore).respond []) := by
  have sequence := nextSequence_eq core clean
  rw [hl] at sequence
  rw [scan_nextRecordIndex] at hn
  unfold appendRecord
  rw [firstFree_eq]
  cases free : (erasedSlots core.metadataRecord 16).head? with
  | none =>
    rw [nextIndex, free] at hn
    exact .inl ⟨hn.symm, rfl⟩
  | some slot =>
    obtain ⟨hs, erased, first, named⟩ := head_erasedSlots free
    rw [hn] at named
    have follows : UInt32.ofNat (latest.toNat + 1) = latest + 1 := by
      rw [UInt32.ofNat_add, UInt32.ofNat_toNat]
      rfl
    refine .inr ⟨named, slot, hs, erased, first, ?_⟩
    dsimp only
    rw [sequence, if_neg (by omega), follows]

end SimulatorCore

/-! ## Both sides -/

/-- The simulator and the service hold the same journal, the same verify gate
and the same identity of the device, and the Flash of the device works. -/
structure Related (core : SimulatorCore) (s : FlashService FlashArray) : Prop where
  slots : ∀ i < 16, SameSlot (core.metadataRecord i) (journal s.world.words i)
  invariant : JournalInvariant (journal s.world.words)
  clean : SimulatorCore.Clean (journal s.world.words)
  gate : core.verifySucceeded = true ↔ s.runtime.verifySucceeded ≠ 0
  deviceId : core.deviceInfo.deviceId = s.runtime.deviceId
  cpuId : core.deviceInfo.cpuId = s.runtime.cpuId
  initialized : s.runtime.initialized ≠ 0
  working : Working s.world

/-- The simulator's answer is what the verdict says, and the record it appends
is that of the verdict up to the end of the application. -/
inductive Matches (core : SimulatorCore) : SimulatorResponse × SimulatorCore → Verdict → Prop
  | refused (status operation stage : UInt16) :
      Matches core (core.fail status operation stage) (.refused status)
  | kept : Matches core (core.respond []) .kept
  | append {record record' : RecordWords} {r r' : BootMetadataRecord} {slot : Nat}
      (written : SimulatorCore) (hs : slot < 16)
      (erased : isErasedRecord (core.metadataRecord slot) = true)
      (first : ∀ i < slot, isErasedRecord (core.metadataRecord i) = false)
      (stored : ∀ i, written.metadataRecord i = writeSlot core.metadataRecord slot record i)
      (device : written.deviceInfo = core.deviceInfo)
      (gate : written.verifySucceeded =
        if (parseRecord record').recordType = recordImageValid then false else core.verifySucceeded)
      (hv : validateRecord record = some r) (hv' : validateRecord record' = some r')
      (bare : r.bare = r'.bare) :
      Matches core (written.respond []) (.append record')

/-! ## What both sides read -/

theorem JournalInvariant.latestSequence_le {load : Nat → RecordWords} (inv : JournalInvariant load) :
    (scanLoadedRecords load 16).latestSequence.toNat ≤ 16 := by
  rw [scan_latestSequence]
  cases hn : Selection.newest seqKey (validRecords load 16) with
  | none => exact Nat.zero_le 16
  | some r =>
    have bounded := inv.bounded r (Selection.newest_spec seqKey hn).1
    have length := length_validRecords_le load 16
    exact Nat.le_trans bounded length

theorem areAppFieldsValid_appStart {r : BootMetadataRecord} (h : areAppFieldsValid r = true) :
    r.appStart = slotAAppStart := by
  unfold areAppFieldsValid at h
  split at h
  · cases h
  · rename_i start
    exact Decidable.not_not.1 start

/-- An image still has valid fields when its application ends with the Flash. -/
theorem areAppFieldsValid_appEnd {r : BootMetadataRecord} (h : areAppFieldsValid r = true) :
    areAppFieldsValid { r with appEnd := slotAAppEnd } = true := by
  have start := areAppFieldsValid_appStart h
  have range : ¬ (slotAAppStart ≥ slotAAppEnd ∨ slotAAppEnd > slotAAppEnd) := by decide
  unfold areAppFieldsValid at h ⊢
  rw [if_neg (not_not_intro start)] at h ⊢
  split at h
  · cases h
  dsimp only
  rw [start, if_neg range]
  exact h

theorem bare_next {a b : BootMetadataSummary} (h : a.bare = b.bare) :
    a.nextRecordIndex = b.nextRecordIndex ∧ a.latestSequence = b.latestSequence := by
  have index : a.bare.nextRecordIndex = b.bare.nextRecordIndex := by rw [h]
  have latest : a.bare.latestSequence = b.bare.latestSequence := by rw [h]
  exact ⟨index, latest⟩

section
variable {core : SimulatorCore} {s : FlashService FlashArray} (related : Related core s)
include related

theorem Related.bare : (scanLoadedRecords core.metadataRecord 16).bare =
    (scanLoadedRecords (journal s.world.words) 16).bare :=
  scan_same related.slots

theorem Related.coreClean : SimulatorCore.Clean core.metadataRecord :=
  related.clean.same related.slots

theorem Related.payload : core.metadataSummaryPayload =
    summaryToPayload (scanLoadedRecords (journal s.world.words) 16) := by
  have same : ∀ summary : BootMetadataSummary,
      summaryToPayload summary = summaryToPayload summary.bare := fun _ => rfl
  rw [SimulatorCore.metadataSummaryPayload_eq core related.coreClean, same, related.bare, ← same]

theorem Related.next : (scanLoadedRecords core.metadataRecord 16).nextRecordIndex =
      (scanLoadedRecords (journal s.world.words) 16).nextRecordIndex ∧
    (scanLoadedRecords core.metadataRecord 16).latestSequence =
      (scanLoadedRecords (journal s.world.words) 16).latestSequence :=
  bare_next related.bare

variable {summary : BootMetadataSummary}
  (scan : scanLoadedRecords (journal s.world.words) 16 = summary)
include scan

/-- The record of an append that is no IMAGE_VALID goes into the same slot on both sides. -/
theorem Related.matches_appendTo {build : UInt32 → RecordWords} {record' : RecordWords}
    {r r' : BootMetadataRecord} (hv : validateRecord (build (summary.latestSequence + 1)) = some r)
    (hv' : validateRecord record' = some r') (bare : r.bare = r'.bare)
    (other : (parseRecord record').recordType ≠ recordImageValid) :
    ∃ result, core.appendRecord build = .ok result ∧
      Matches core result (.appendTo summary record') := by
  have small : summary.latestSequence.toNat < 0xFFFFFFFF := by
    have le := JournalInvariant.latestSequence_le related.invariant
    rw [scan] at le
    omega
  obtain ⟨next, latest⟩ := related.next
  rw [scan] at next latest
  unfold Verdict.appendTo
  rcases SimulatorCore.appendRecord_spec core related.coreClean build next latest small with
    ⟨full, answer⟩ | ⟨free, slot, hs, erased, first, answer⟩
  · rw [if_pos full]
    exact ⟨_, answer, .refused ..⟩
  · rw [if_neg free]
    refine ⟨_, answer, .append _ hs erased first ?_ rfl ?_ hv hv' bare⟩
    · exact SimulatorCore.metadataRecord_store core slot _
    · rw [if_neg other]

/-- The records both sides build for the selected image. -/
theorem Related.followUp (valid : summary.metadataValid ≠ 0) (kind : UInt16)
    (hk : isRecordTypeValid kind = true) (count : UInt16) :
    ∃ r r', validateRecord (sealRecord (SimulatorCore.followUpFields kind (hostSummary summary)
        (summary.latestSequence + 1) count)) = some r ∧
      validateRecord (sealRecord (summaryRecord kind (summary.latestSequence + 1) summary count)) =
        some r' ∧ r.bare = r'.bare := by
  obtain ⟨image, selected, reports, hv', -⟩ := followUp_spec related.invariant.next_sequence.1
    (by rw [scan]; exact valid) kind hk count
  rw [scan] at reports hv'
  obtain ⟨-, fields⟩ := currentImage_valid selected
  have start : summary.appStart = slotAAppStart := by
    rw [reports]
    exact areAppFieldsValid_appStart fields
  have last := areAppFieldsValid_appEnd fields
  have entry : summary.entryPoint = image.entryPoint := by rw [reports]; rfl
  have limit : summary.bootAttemptLimit = image.bootAttemptLimit := by rw [reports]; rfl
  have fields' : areAppFieldsValid (SimulatorCore.followUpFields kind (hostSummary summary)
      (summary.latestSequence + 1) count) = true := by
    unfold areAppFieldsValid at last ⊢
    simp only [areAppFieldsValid_appStart fields] at last
    simp only [SimulatorCore.followUpFields, hostSummary, entry, limit]
    exact last
  refine ⟨_, _, validateRecord_sealRecord hk rfl fields', hv', ?_⟩
  simp [BootMetadataRecord.bare, sealed, withRecordCrc, SimulatorCore.followUpFields, summaryRecord,
    hostSummary, start]

end

/-! ## The request -/

/-- The payload of the request frame, without the words behind it in the buffer. -/
def requestPayload (request : BootProtocolFrame) : List UInt16 :=
  request.words 0 request.payloadWords.toNat

section
variable {request : BootProtocolFrame}

theorem length_requestPayload : (requestPayload request).length = request.payloadWords.toNat :=
  request.length_words 0 _ (by have := request.payloadWords_le; omega)

theorem length_requestPayload_iff :
    (requestPayload request).length = 16 ↔ request.payloadWords = 16 := by
  rw [length_requestPayload, ← UInt16.toNat_inj]
  rfl

variable (length : request.payloadWords = 16)
include length

theorem requestPayload_eq : requestPayload request = request.payload.toList.take 16 := by
  rw [requestPayload, length]
  rfl

theorem getD_requestPayload {i : Nat} (hi : i < 16) :
    (requestPayload request).getD i 0 = request.word i := by
  rw [requestPayload_eq length, BootProtocolFrame.word, List.getD_eq_getElem?_getD,
    List.getD_eq_getElem?_getD, List.getElem?_take_of_lt hi]

theorem reserved_requestPayload :
    ((requestPayload request).drop 8).take 7 = request.words 8 7 := by
  rw [requestPayload_eq length, List.drop_take, List.take_take]
  rfl

theorem u32_requestPayload {i : Nat} (hi : i < 15) :
    joinU32 ((requestPayload request).getD i 0) ((requestPayload request).getD (i + 1) 0) =
      request.u32 i := by
  rw [getD_requestPayload length (by omega), getD_requestPayload length (by omega)]
  rfl

end

section
variable {core : SimulatorCore} {s : FlashService FlashArray} {request : BootProtocolFrame}

theorem Verdict.after_refused {status : UInt16} (h : status ≠ BootStatus.ok) (v : Verdict) :
    v.after status = .refused status := if_pos h

/-- The checks of a BOOT_ATTEMPT or APP_CONFIRMED request, which both sides make alike. -/
theorem matches_checked {v : Verdict} (length : request.payloadWords = 16)
    (kind : request.word 0 = recordBootAttempt ∨ request.word 0 = recordAppConfirmed)
    (body : request.word 1 = BootSlot.a → request.word 15 = 0 →
      (request.words 8 7).any (· ≠ 0) = false →
      ∃ result, core.appendFollowUp (requestPayload request) = .ok result ∧ Matches core result v) :
    ∃ result, core.metadataAppendRecord (requestPayload request) = .ok result ∧
      Matches core result (v.after (identityRequestValid request s).status) := by
  have valid : ¬ isRecordTypeValid (request.word 0) = false := by
    rcases kind with kind | kind <;> rw [kind] <;> decide
  have first : (requestPayload request).getD 0 0 = request.word 0 :=
    getD_requestPayload length (by decide)
  have second : (requestPayload request).getD 1 0 = request.word 1 :=
    getD_requestPayload length (by decide)
  have last : (requestPayload request).getD 15 0 = request.word 15 :=
    getD_requestPayload length (by decide)
  unfold SimulatorCore.metadataAppendRecord identityRequestValid
  simp only [first, second, last]
  rw [if_neg (not_not_intro (length_requestPayload_iff.2 length)), if_neg valid,
    if_neg (not_not_intro length)]
  by_cases slot : request.word 1 ≠ BootSlot.a
  · rw [if_pos slot, if_pos slot]
    exact ⟨_, rfl, .refused ..⟩
  rw [if_neg slot, if_neg slot]
  by_cases flags : request.word 15 ≠ 0
  · rw [if_pos flags, if_pos flags]
    exact ⟨_, rfl, .refused ..⟩
  rw [if_neg flags, if_neg flags, if_pos kind]
  by_cases reserved : (request.words 8 7).any (· ≠ 0) = true
  · rw [if_pos reserved]
    unfold SimulatorCore.appendFollowUp
    dsimp only
    rw [reserved_requestPayload length, if_pos reserved]
    exact ⟨_, rfl, .refused ..⟩
  · rw [if_neg reserved]
    exact body (Decidable.not_not.1 slot) (Decidable.not_not.1 flags) (by simpa using reserved)

variable (related : Related core s) {summary : BootMetadataSummary}
  (scan : scanLoadedRecords (journal s.world.words) 16 = summary)
include related scan

/-- What both sides read of the journal before they look at a BOOT_ATTEMPT or
APP_CONFIRMED request. -/
theorem Related.appendFollowUp (length : request.payloadWords = 16)
    (reserved : (request.words 8 7).any (· ≠ 0) = false) :
    core.appendFollowUp (requestPayload request) =
      if summary.metadataValid = 0 then
        .ok (core.fail BootStatus.metadataInvalid BootErr.opProgram BootErr.stageState)
      else if request.word 0 = recordAppConfirmed ∧ summary.bootAttemptCount = 0 then
        .ok (core.fail BootStatus.invalidState BootErr.opProgram BootErr.stageState)
      else if summary.appConfirmed ≠ 0 then .ok (core.respond [])
      else if request.word 0 = recordBootAttempt ∧
          summary.bootAttemptCount ≥ summary.bootAttemptLimit then
        .ok (core.fail BootStatus.attemptLimitReached BootErr.opProgram BootErr.stageState)
      else if (expectedIdentity request).differs summary then
        .ok (core.fail BootStatus.metadataInvalid BootErr.opProgram BootErr.stageState)
      else
        core.appendRecord fun sequence =>
          if request.word 0 = recordBootAttempt then
            SimulatorCore.buildBootAttemptRecord (hostSummary summary) sequence
          else SimulatorCore.buildAppConfirmedRecord (hostSummary summary) sequence := by
  have payload := related.payload
  rw [scan] at payload
  have first : (requestPayload request).getD 0 0 = request.word 0 :=
    getD_requestPayload length (by decide)
  have entry := u32_requestPayload (i := 2) length (by decide)
  have size := u32_requestPayload (i := 4) length (by decide)
  have crc := u32_requestPayload (i := 6) length (by decide)
  unfold SimulatorCore.appendFollowUp
  simp only [first, entry, size, crc, reserved_requestPayload length]
  rw [if_neg (by rw [reserved]; decide), payload, fromWords_summaryToPayload]
  rfl

omit related in
theorem scan_selects (valid : summary.metadataValid ≠ 0) :
    ¬ (summary.metadataValid = 0 ∨ summary.state = .duplicateSequence) ∧
      summary.hasImageValid ≠ 0 := by
  obtain ⟨image, -, reports⟩ := (@scan_selected (journal s.world.words)) (by rw [scan]; exact valid)
  rw [scan] at reports
  have state : summary.state = .valid := by rw [reports]; rfl
  have image : summary.hasImageValid = 1 := by rw [reports]; rfl
  rw [state, image]
  exact ⟨by simp [valid], by decide⟩

theorem Related.matches_attempt (length : request.payloadWords = 16)
    (kind : request.word 0 = recordBootAttempt)
    (reserved : (request.words 8 7).any (· ≠ 0) = false) :
    ∃ result, core.appendFollowUp (requestPayload request) = .ok result ∧
      Matches core result (attemptVerdict request summary) := by
  have other : ¬ (request.word 0 = recordAppConfirmed ∧ summary.bootAttemptCount = 0) := by
    rw [kind]
    exact fun h => absurd h.1 (by decide)
  rw [related.appendFollowUp scan length reserved, attemptVerdict]
  by_cases invalid : summary.metadataValid = 0
  · rw [if_pos invalid, if_pos (.inl invalid)]
    exact ⟨_, rfl, .refused ..⟩
  rw [if_neg invalid, if_neg (scan_selects scan invalid).1, if_neg other]
  by_cases confirmed : summary.appConfirmed ≠ 0
  · rw [if_pos confirmed, if_pos confirmed]
    exact ⟨_, rfl, .kept⟩
  rw [if_neg confirmed, if_neg confirmed]
  by_cases spent : summary.bootAttemptCount ≥ summary.bootAttemptLimit
  · rw [if_pos ⟨kind, spent⟩, if_pos spent]
    exact ⟨_, rfl, .refused ..⟩
  rw [if_neg (fun h => spent h.2), if_neg spent]
  by_cases differs : (expectedIdentity request).differs summary
  · rw [if_pos differs, if_pos differs]
    exact ⟨_, rfl, .refused ..⟩
  rw [if_neg differs, if_neg differs]
  obtain ⟨r, r', hv, hv', bare⟩ := related.followUp scan invalid recordBootAttempt (by decide)
    (summary.bootAttemptCount + 1)
  apply related.matches_appendTo scan (r := r) _ hv' bare _
  · rw [if_pos kind, SimulatorCore.buildBootAttemptRecord_eq]
    exact hv
  · rw [record_kind]
    exact followUp_ne_image.1

omit related scan in
theorem not_attempt (kind : request.word 0 = recordAppConfirmed) :
    ¬ request.word 0 = recordBootAttempt := by
  rw [kind]
  decide

/-- The image has no attempt, or it is confirmed and the request names another. -/
def Unsettled (request : BootProtocolFrame) (summary : BootMetadataSummary) : Prop :=
  summary.bootAttemptCount = 0 ∨
    summary.appConfirmed ≠ 0 ∧ (expectedIdentity request).differs summary

instance (request : BootProtocolFrame) (summary : BootMetadataSummary) :
    Decidable (Unsettled request summary) :=
  inferInstanceAs (Decidable (_ ∨ _))

theorem Related.matches_confirm (length : request.payloadWords = 16)
    (kind : request.word 0 = recordAppConfirmed)
    (reserved : (request.words 8 7).any (· ≠ 0) = false)
    (settled : summary.metadataValid ≠ 0 → ¬ Unsettled request summary) :
    ∃ result, core.appendFollowUp (requestPayload request) = .ok result ∧
      Matches core result (confirmVerdict request summary) := by
  rw [related.appendFollowUp scan length reserved, confirmVerdict]
  by_cases invalid : summary.metadataValid = 0
  · rw [if_pos invalid, if_pos (.inl invalid)]
    exact ⟨_, rfl, .refused ..⟩
  obtain ⟨attempted, unconfirmed⟩ := not_or.1 (settled invalid)
  obtain ⟨valid, image⟩ := scan_selects scan invalid
  have selects : ¬ (summary.metadataValid = 0 ∨ summary.state = .duplicateSequence ∨
      summary.hasImageValid = 0) := by
    rw [← or_assoc]
    exact not_or.2 ⟨valid, image⟩
  have unspent : ¬ (request.word 0 = recordBootAttempt ∧
      summary.bootAttemptCount ≥ summary.bootAttemptLimit) := fun h => not_attempt kind h.1
  rw [if_neg invalid, if_neg selects, if_neg (fun h => attempted h.2), if_neg attempted]
  by_cases confirmed : summary.appConfirmed ≠ 0
  · have same : ¬ (expectedIdentity request).differs summary := fun h => unconfirmed ⟨confirmed, h⟩
    rw [if_pos confirmed, if_pos confirmed, if_neg same]
    exact ⟨_, rfl, .kept⟩
  rw [if_neg confirmed, if_neg confirmed, if_neg unspent]
  by_cases differs : (expectedIdentity request).differs summary
  · rw [if_pos differs, if_pos differs]
    exact ⟨_, rfl, .refused ..⟩
  rw [if_neg differs, if_neg differs]
  obtain ⟨r, r', hv, hv', bare⟩ := related.followUp scan invalid recordAppConfirmed (by decide)
    summary.bootAttemptCount
  apply related.matches_appendTo scan (r := r) _ hv' bare _
  · rw [if_neg (not_attempt kind), SimulatorCore.buildAppConfirmedRecord_eq]
    exact hv
  · rw [record_kind]
    exact followUp_ne_image.2

/-- The service refuses an unsettled confirmation for its metadata; the
simulator refuses it for its state or accepts it. Neither writes anything. -/
theorem Related.unsettled_confirm (length : request.payloadWords = 16)
    (kind : request.word 0 = recordAppConfirmed)
    (reserved : (request.words 8 7).any (· ≠ 0) = false) (invalid : summary.metadataValid ≠ 0)
    (unsettled : Unsettled request summary) :
    (∃ result v, core.appendFollowUp (requestPayload request) = .ok result ∧
      Matches core result v ∧ (v = .refused BootStatus.invalidState ∨ v = .kept)) ∧
    confirmVerdict request summary = .refused BootStatus.metadataInvalid := by
  obtain ⟨valid, image⟩ := scan_selects scan invalid
  have selects : ¬ (summary.metadataValid = 0 ∨ summary.state = .duplicateSequence ∨
      summary.hasImageValid = 0) := by
    rw [← or_assoc]
    exact not_or.2 ⟨valid, image⟩
  rw [related.appendFollowUp scan length reserved, confirmVerdict, if_neg invalid, if_neg selects]
  by_cases attempted : summary.bootAttemptCount = 0
  · rw [if_pos ⟨kind, attempted⟩, if_pos attempted, ite_self]
    exact ⟨⟨_, _, rfl, .refused .., .inl rfl⟩, rfl⟩
  · obtain ⟨confirmed, differs⟩ := unsettled.resolve_left attempted
    rw [if_neg (fun h => attempted h.2), if_pos confirmed, if_pos differs]
    exact ⟨⟨_, _, rfl, .kept, .inr rfl⟩, rfl⟩

theorem Related.imageFields (length : request.payloadWords = 16) :
    SimulatorCore.imageFields (requestPayload request) (summary.latestSequence + 1) core.deviceInfo =
      BootFlashService.imageFields request s.runtime summary := by
  have word : ∀ i, i < 16 → (requestPayload request).getD i 0 = request.word i := fun i hi =>
    getD_requestPayload length hi
  have u32 : ∀ i, i < 15 → joinU32 ((requestPayload request).getD i 0)
      ((requestPayload request).getD (i + 1) 0) = request.u32 i := fun i hi =>
    u32_requestPayload length hi
  unfold SimulatorCore.imageFields BootFlashService.imageFields
  have sequence := imageSequence_scan (journal s.world.words)
  rw [scan] at sequence
  rw [sequence, ← related.deviceId, ← related.cpuId, ← u32 2 (by decide),
    ← u32 4 (by decide), ← u32 6 (by decide), ← u32 11 (by decide), ← u32 13 (by decide),
    ← word 8 (by decide), ← word 9 (by decide), ← word 10 (by decide)]

theorem Related.matches_verified (length : request.payloadWords = 16) (valid : ImageRequest request) :
    ∃ result, core.appendVerified (requestPayload request) = .ok result ∧
      Matches core result (.appendTo summary (imageRecord request s.runtime summary)) := by
  have small : summary.latestSequence.toNat < 0xFFFFFFFF := by
    have le := JournalInvariant.latestSequence_le related.invariant
    rw [scan] at le
    omega
  obtain ⟨next, latest⟩ := related.next
  rw [scan] at next latest
  have hv := validateRecord_imageRecord valid s.runtime summary
  have same : SimulatorCore.buildImageValidRecord (requestPayload request)
      (summary.latestSequence + 1) core.deviceInfo = imageRecord request s.runtime summary := by
    rw [SimulatorCore.buildImageValidRecord_eq, related.imageFields scan length]
    rfl
  have kind : (parseRecord (imageRecord request s.runtime summary)).recordType =
      recordImageValid :=
    record_kind (BootFlashService.imageFields request s.runtime summary)
  unfold SimulatorCore.appendVerified Verdict.appendTo
  rcases SimulatorCore.appendRecord_spec core related.coreClean (fun sequence =>
      SimulatorCore.buildImageValidRecord (requestPayload request) sequence core.deviceInfo)
      next latest small with ⟨full, answer⟩ | ⟨free, slot, hs, erased, first, answer⟩
  · rw [if_pos full, answer]
    exact ⟨_, rfl, .refused ..⟩
  · rw [if_neg free, answer, same]
    refine ⟨_, rfl, .append _ hs erased first ?_ rfl ?_ hv hv rfl⟩
    · exact SimulatorCore.metadataRecord_store core slot _
    · rw [if_pos kind]

/-- An IMAGE_VALID request, and every request that neither side knows. -/
theorem Related.matches_image
    (attempt : ¬ (request.payloadWords = 16 ∧ request.word 0 = recordBootAttempt))
    (confirm : ¬ (request.payloadWords = 16 ∧ request.word 0 = recordAppConfirmed)) :
    ∃ result, core.metadataAppendRecord (requestPayload request) = .ok result ∧
      Matches core result (.after (metadataRequestValid request s).status
        (imageVerdict request s.runtime summary)) := by
  by_cases length : request.payloadWords ≠ 16
  · unfold SimulatorCore.metadataAppendRecord metadataRequestValid
    rw [if_pos length, if_pos (fun h => length (length_requestPayload_iff.1 h))]
    exact ⟨_, rfl, .refused ..⟩
  have length : request.payloadWords = 16 := Decidable.not_not.1 length
  have attempt : ¬ request.word 0 = recordBootAttempt := fun h => attempt ⟨length, h⟩
  have confirm : ¬ request.word 0 = recordAppConfirmed := fun h => confirm ⟨length, h⟩
  have first : (requestPayload request).getD 0 0 = request.word 0 :=
    getD_requestPayload length (by decide)
  have second : (requestPayload request).getD 1 0 = request.word 1 :=
    getD_requestPayload length (by decide)
  have last : (requestPayload request).getD 15 0 = request.word 15 :=
    getD_requestPayload length (by decide)
  by_cases kind : request.word 0 ≠ recordImageValid
  · have unknown : isRecordTypeValid (request.word 0) = false := by
      simp [isRecordTypeValid, kind, attempt, confirm]
    unfold SimulatorCore.metadataAppendRecord metadataRequestValid
    simp only [first]
    rw [if_neg (not_not_intro (length_requestPayload_iff.2 length)), if_pos unknown,
      if_neg (not_not_intro length), if_pos kind]
    exact ⟨_, rfl, .refused ..⟩
  have known : ¬ isRecordTypeValid (request.word 0) = false := by
    rw [Decidable.not_not.1 kind]
    decide
  have entry := u32_requestPayload (i := 2) length (by decide)
  have size := u32_requestPayload (i := 4) length (by decide)
  have stop := u32_requestPayload (i := 13) length (by decide)
  have passed : (metadataRequestValid request s).status = BootStatus.ok → ImageRequest request :=
    metadataRequestValid_ok
  revert passed
  unfold SimulatorCore.metadataAppendRecord metadataRequestValid SimulatorCore.appendImageValid
  simp only [first, second, last, entry, size, stop]
  rw [if_neg (not_not_intro (length_requestPayload_iff.2 length)), if_neg known,
    if_neg (not_not_intro length), if_neg kind]
  by_cases slot : request.word 1 ≠ BootSlot.a
  · rw [if_pos slot, if_pos slot]
    exact fun _ => ⟨_, rfl, .refused ..⟩
  rw [if_neg slot, if_neg slot]
  by_cases flags : request.word 15 ≠ 0
  · rw [if_pos flags, if_pos flags]
    exact fun _ => ⟨_, rfl, .refused ..⟩
  rw [if_neg flags, if_neg flags, if_neg (not_or.2 ⟨attempt, confirm⟩)]
  by_cases empty : request.u32 4 = 0
  · rw [if_pos empty, if_pos empty]
    exact fun _ => ⟨_, rfl, .refused ..⟩
  rw [if_neg empty, if_neg empty]
  by_cases entry : request.u32 2 < slotAAppStart ∨ request.u32 2 ≥ slotAAppEnd ∨
      request.u32 2 % 8 ≠ 0
  · rw [if_pos entry, if_pos (by rcases entry with h | h | h <;> simp [h])]
    exact fun _ => ⟨_, rfl, .refused ..⟩
  by_cases stop : request.u32 13 ≤ slotAAppStart ∨ request.u32 13 > slotAAppEnd
  · rw [if_neg entry, if_pos stop, if_pos (by rcases stop with h | h <;> simp [h])]
    exact fun _ => ⟨_, rfl, .refused ..⟩
  have passed : ¬ (request.u32 2 < slotAAppStart ∨ request.u32 2 ≥ slotAAppEnd ∨
      request.u32 2 % 8 ≠ 0 ∨ request.u32 13 ≤ slotAAppStart ∨ request.u32 13 > slotAAppEnd) := by
    simp only [not_or] at entry stop ⊢
    exact ⟨entry.1, entry.2.1, entry.2.2, stop.1, stop.2⟩
  rw [if_neg entry, if_neg stop, if_neg passed]
  intro valid
  have single := related.invariant.scan_single
  rw [scan] at single
  show ∃ result, _ ∧ Matches core result (imageVerdict request s.runtime summary)
  rw [imageVerdict]
  by_cases closed : core.verifySucceeded = false
  · have gate : s.runtime.verifySucceeded = 0 := by
      have iff := related.gate
      rw [closed] at iff
      simpa using iff
    rw [if_pos closed, if_pos gate]
    exact ⟨_, rfl, .refused ..⟩
  · have gate : ¬ s.runtime.verifySucceeded = 0 := related.gate.1 (by simpa using closed)
    rw [if_neg closed, if_neg gate, if_neg single]
    exact related.matches_verified scan length (valid rfl)

omit related scan in
/-- An APP_CONFIRMED request that passes the checks of its fields and that the
two sides decide differently. -/
structure Divergent (request : BootProtocolFrame) (summary : BootMetadataSummary) : Prop where
  command : request.command = BootCmd.metadataAppendRecord
  length : request.payloadWords = 16
  kind : request.word 0 = recordAppConfirmed
  slot : request.word 1 = BootSlot.a
  flags : request.word 15 = 0
  reserved : (request.words 8 7).any (· ≠ 0) = false
  valid : summary.metadataValid ≠ 0
  unsettled : Unsettled request summary

/-- Both sides decide every other append request alike. -/
theorem Related.matches_append (command : request.command = BootCmd.metadataAppendRecord)
    (settled : ¬ Divergent request summary) :
    ∃ result, core.metadataAppendRecord (requestPayload request) = .ok result ∧
      Matches core result (appendVerdict request summary s) := by
  unfold appendVerdict
  by_cases attempt : request.payloadWords = 16 ∧ request.word 0 = recordBootAttempt
  · rw [if_pos attempt]
    obtain ⟨length, kind⟩ := attempt
    exact matches_checked length (.inl kind) fun _ _ reserved =>
      related.matches_attempt scan length kind reserved
  by_cases confirm : request.payloadWords = 16 ∧ request.word 0 = recordAppConfirmed
  · rw [if_neg attempt, if_pos confirm]
    obtain ⟨length, kind⟩ := confirm
    apply matches_checked length (.inr kind)
    intro slot flags reserved
    apply related.matches_confirm scan length kind reserved
    intro valid unsettled
    exact settled ⟨command, length, kind, slot, flags, reserved, valid, unsettled⟩
  · rw [if_neg attempt, if_neg confirm]
    exact related.matches_image scan attempt confirm

/-- A divergent request: neither side writes, and their answers differ. -/
theorem Related.divergent_append (divergent : Divergent request summary) :
    (∃ result v, core.metadataAppendRecord (requestPayload request) = .ok result ∧
      Matches core result v ∧ (v = .refused BootStatus.invalidState ∨ v = .kept)) ∧
    appendVerdict request summary s = .refused BootStatus.metadataInvalid := by
  obtain ⟨-, length, kind, slot, flags, reserved, valid, unsettled⟩ := divergent
  obtain ⟨⟨result, v, answer, decided, verdict⟩, refused⟩ :=
    related.unsettled_confirm scan length kind reserved valid unsettled
  have checked : (identityRequestValid request s).status = BootStatus.ok := by
    rw [identityRequestValid, if_neg (not_not_intro length), if_neg (not_not_intro slot),
      if_neg (not_not_intro flags), if_neg (by rw [reserved]; decide)]
    rfl
  have after : ∀ v : Verdict, v.after (identityRequestValid request s).status = v := fun v =>
    if_neg (not_not_intro checked)
  constructor
  · obtain ⟨result', answer', decided'⟩ := matches_checked (s := s) length (.inr kind)
      fun _ _ _ => ⟨result, answer, decided⟩
    rw [after] at decided'
    exact ⟨result', v, answer', decided', verdict⟩
  · rw [appendVerdict, if_neg (fun h => not_attempt kind h.2), if_pos ⟨length, kind⟩, after, refused]

end

end BootUpgrade

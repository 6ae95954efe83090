import BootUpgrade.Metadata.Rescan
import BootUpgrade.System.WorkingAppends

/-!
# Append and scan again

What the scan reports after a record that the port has programmed, over a
journal of any content: torn and invalid slots, older images of the same
identity, an erased slot between used ones.
-/

namespace BootUpgrade.BootFlashService

open BootMetadata FlashArray

/-- The port has been asked to program a record, and has reported success. -/
def RecordProgrammed {σ : Type} (c : LoggedCall σ) : Prop :=
  c.result = BootFlashResult.ok ∧
    ∃ address data count, c.call = .programMetadataRecord address data count

/-- The fields of the record that an append request or a confirmation asks for. -/
def appendedFields (input : ServiceInput) (runtime : BootFlashServiceRuntimeState)
    (summary : BootMetadataSummary) : BootMetadataRecord :=
  let next := summary.latestSequence + 1
  match input with
  | .command request =>
    if request.word 0 = recordBootAttempt then
      summaryRecord recordBootAttempt next summary (summary.bootAttemptCount + 1)
    else if request.word 0 = recordAppConfirmed then
      summaryRecord recordAppConfirmed next summary summary.bootAttemptCount
    else imageFields request runtime summary
  | _ => summaryRecord recordAppConfirmed next summary summary.bootAttemptCount

/-- The update that a record makes to the summary. -/
def updatedSummary (summary : BootMetadataSummary) (fields : BootMetadataRecord) (next : UInt16) :
    BootMetadataSummary :=
  if fields.recordType = recordImageValid then imageAppended summary fields next
  else if fields.recordType = recordBootAttempt then attemptAppended summary next
  else confirmAppended summary next

/-- The record is in the first erased slot, reads back as it was meant, and the
scan reports what it adds. -/
structure RoundTrip (before after : Memory.Words) (fields : BootMetadataRecord) : Prop where
  readBack : ∃ slot < 16, isErasedRecord (journal before slot) = true ∧
    (∀ i < slot, isErasedRecord (journal before i) = false) ∧
    validateRecord (journal after slot) = some (sealed fields) ∧
    ∀ i < 16, i ≠ slot → journal after i = journal before i
  rescan : scanLoadedRecords (journal after) 16 =
    updatedSummary (scanLoadedRecords (journal before) 16) fields
      (nextIndex (erasedSlots (journal before) 16).tail)

/-! ## The record in its slot -/

section
variable {s : FlashService FlashArray} {s₁ s' : FlashService (Logged FlashArray)}
  {summary : BootMetadataSummary} {record : RecordWords} {fields : BootMetadataRecord}

/-- The whole record is in the first erased slot. -/
def Filled (before after : Memory.Words) (record : RecordWords) : Prop :=
  ∃ slot < 16, isErasedRecord (journal before slot) = true ∧
    (∀ i < slot, isErasedRecord (journal before i) = false) ∧
    ∀ i < 16, journal after i = writeSlot (journal before) slot record i

/-- Initialization is the only call before the record. -/
theorem Prepared.quiet (h : Prepared FlashArray.port.logged (watched s) s₁) :
    ∀ c ∈ s₁.world.calls, ¬ RecordProgrammed c := by
  rintro c hc ⟨-, address, data, count, call⟩
  obtain rfl | ⟨-, flag, rfl⟩ := h
  · cases hc
  · obtain rfl : c = ⟨.init, s.world, _, _⟩ := by
      simpa [FlashPort.logged, Logged.record, watched] using hc
    cases call

theorem recordCall_filled (scan : scanLoadedRecords (journal s.world.words) 16 = summary)
    (ready : SlotReady summary) (prepared : Prepared FlashArray.port.logged (watched s) s₁)
    (done : (recordCall FlashArray.port.logged summary record s₁).result = BootFlashResult.ok) :
    Filled s.world.words
      (recordCall FlashArray.port.logged summary record s₁).world.world.words record := by
  rw [← scan] at ready
  obtain ⟨slot, hs, address, erased, first⟩ := nextRecordAddress_spec ready
  rw [scan] at address
  obtain ⟨units, le, words, whole⟩ := programMetadataRecord_words
    (recordInfo (nextRecordAddress summary)) s₁.world.world (nextRecordAddress summary)
    record.toList 64
  have all : units = 8 := whole done
  rw [all, address, prepared.words.1] at words
  refine ⟨slot, hs, erased, first, ?_⟩
  intro i hi
  have programmed := journal_program hs erased record (Nat.le_refl 8) hi
  rw [tornRecord_eq record (Nat.le_refl 8), ← words] at programmed
  exact programmed

/-- The slot has been found and the port has programmed the record: the handler goes on to its
check. -/
theorem append_programmed (scan : scanLoadedRecords (journal s.world.words) 16 = summary)
    (record : FlashService (Logged FlashArray) → RecordWords)
    {rest : FlashService (Logged FlashArray) → Outcome (Logged FlashArray)}
    (programmed : ∃ c ∈ (andThen (metadataRecordAddress summary (watched s)) fun s' =>
        andThen (programMetadataRecord FlashArray.port.logged (nextRecordAddress summary)
          (record s') s') rest).service.world.calls, RecordProgrammed c) :
    ∃ s', Filled s.world.words s'.world.world.words (record (watched s)) ∧
      (andThen (metadataRecordAddress summary (watched s)) fun s' =>
        andThen (programMetadataRecord FlashArray.port.logged (nextRecordAddress summary)
          (record s') s') rest) = rest s' := by
  by_cases found : (metadataRecordAddress summary (watched s)).status = BootStatus.ok
  case neg =>
    rw [andThen_refused found, metadataRecordAddress_service] at programmed
    obtain ⟨c, hc, -⟩ := programmed
    cases hc
  have ready := metadataRecordAddress_ok found
  rw [andThen_of_ok found, metadataRecordAddress_service] at programmed ⊢
  generalize record (watched s) = record at programmed ⊢
  have prepared := ensureFlash_prepared FlashArray.port.logged (watched s) BootErr.opProgram
    BootStatus.metadataWriteFailed
  unfold programMetadataRecord at programmed ⊢
  generalize ensureFlash FlashArray.port.logged BootErr.opProgram BootStatus.metadataWriteFailed
    (watched s) = ensured at prepared programmed ⊢
  by_cases ensuredOk : ensured.status = BootStatus.ok
  case neg =>
    rw [andThen_refused ensuredOk, andThen_refused ensuredOk] at programmed
    obtain ⟨c, hc, done⟩ := programmed
    exact absurd done (prepared.quiet c hc)
  rw [andThen_of_ok ensuredOk] at programmed ⊢
  generalize ensured.service = s₁ at prepared programmed ⊢
  generalize made : FlashArray.port.logged.programMetadataRecord (nextRecordAddress summary)
    record.toList BootMetadata.recordWords.toUInt16 _ s₁.world = call at programmed ⊢
  have made : recordCall FlashArray.port.logged summary record s₁ = call := made
  dsimp only at programmed ⊢
  by_cases done : call.result = BootFlashResult.ok
  · rw [if_neg (not_not_intro done), andThen_of_ok rfl]
    have filled := (@recordCall_filled _ _ _ record) scan ready prepared
    rw [made] at filled
    exact ⟨{ s₁ with world := call.world }, filled done, rfl⟩
  · have failed : BootStatus.metadataWriteFailed ≠ BootStatus.ok := by decide
    rw [if_pos done, andThen_refused failed] at programmed
    obtain ⟨c, hc, recorded⟩ := programmed
    obtain ⟨r, hr, world⟩ := recordCall_logged summary record s₁
    have result : call.result = r.result := by
      rw [← made, hr]
      rfl
    rw [made] at world
    have logged : c ∈ call.world.calls := hc
    rw [world] at logged
    rcases List.mem_append.1 logged with before | last
    · exact absurd recorded (prepared.quiet c before)
    · rw [List.mem_singleton.1 last] at recorded
      exact absurd (result.trans recorded.1) done

theorem Filled.roundTrip {before after : Memory.Words} (filled : Filled before after (sealRecord fields))
    (hv : validateRecord (sealRecord fields) = some (sealed fields))
    (single : hasDuplicate (validRecords (journal before) 16) = false)
    (newer : Newer (sealed fields) (validRecords (journal before) 16))
    (update : ∀ next, summarize (slotUsed (slotCounts (journal before) 16) next)
        (validRecords (journal before) 16 ++ [sealed fields]) =
      updatedSummary (scanLoadedRecords (journal before) 16) fields next) :
    RoundTrip before after fields := by
  obtain ⟨slot, hs, erased, first, whole⟩ := filled
  constructor
  · refine ⟨slot, hs, erased, first, ?_, ?_⟩
    · rw [whole slot hs, writeSlot_self]
      exact hv
    · intro i hi other
      rw [whole i hi, writeSlot_ne other]
  · rw [scan_congr whole, scan_filled hs erased first hv single newer]
    exact update _

/-! ## The handlers -/

/-- The request has been answered OK, and its record is in the journal. -/
structure Appended (s : FlashService FlashArray) (o : Outcome (Logged FlashArray))
    (fields : BootMetadataRecord) : Prop where
  answer : o.status = BootStatus.ok
  roundTrip : RoundTrip s.world.words o.service.world.world.words fields

/-- A refused request has programmed nothing. -/
theorem not_programmed_fail {status operation stage : UInt16} {address lengthWords : UInt32}
    (programmed : ∃ c ∈ (fail (watched s) status operation stage address
      lengthWords).service.world.calls, RecordProgrammed c) : False := by
  obtain ⟨c, hc, -⟩ := programmed
  cases hc

theorem not_programmed_succeed
    (programmed : ∃ c ∈ (succeed (watched s)).service.world.calls, RecordProgrammed c) : False := by
  obtain ⟨c, hc, -⟩ := programmed
  cases hc

variable (scan : scanLoadedRecords (journal s.world.words) 16 = summary)
  (bounded : summary.latestSequence ≠ 0xFFFFFFFF)
include scan

theorem scan_summarize : summarize (slotCounts (journal s.world.words) 16)
    (validRecords (journal s.world.words) 16) = summary := by
  rw [← scan, scanLoadedRecords_eq _ (Nat.le_refl 16)]

theorem scan_distinct (single : summary.state ≠ .duplicateSequence) :
    hasDuplicate (validRecords (journal s.world.words) 16) = false := by
  rw [← scan_summarize scan, ne_eq, summarize_state] at single
  exact eq_false_of_ne_true single

include bounded

theorem scan_newer (sequence : fields.sequence = summary.latestSequence + 1) :
    Newer (sealed fields) (validRecords (journal s.world.words) 16) := by
  intro v hv
  rw [sealed, withRecordCrc_sequence, sequence]
  rw [← scan] at bounded ⊢
  exact next_newer bounded v hv

theorem Filled.image {after : Memory.Words} (kind : fields.recordType = recordImageValid)
    (sequence : fields.sequence = summary.latestSequence + 1)
    (single : summary.state ≠ .duplicateSequence)
    (hv : validateRecord (sealRecord fields) = some (sealed fields))
    (filled : Filled s.world.words after (sealRecord fields)) :
    RoundTrip s.world.words after fields := by
  have distinct := scan_distinct scan single
  have newer := scan_newer scan bounded sequence
  have total := scan_summarize scan
  have kind' : (sealed fields).recordType = recordImageValid := by
    rw [sealed, withRecordCrc_recordType, kind]
  have numbered : (sealed fields).sequence =
      (summarize (slotCounts (journal s.world.words) 16)
        (validRecords (journal s.world.words) 16)).latestSequence + 1 := by
    rw [total, sealed, withRecordCrc_sequence, sequence]
  apply filled.roundTrip hv distinct newer
  intro next
  have updated := summarize_image newer rfl numbered next distinct kind'
  rw [total, sealed, imageAppended_withRecordCrc] at updated
  rw [scan, updatedSummary, if_pos kind, sealed, updated]

theorem Filled.followUp {kind count : UInt16} {after : Memory.Words}
    (follows : kind = recordBootAttempt ∨ kind = recordAppConfirmed)
    (valid : summary.metadataValid ≠ 0)
    (filled : Filled s.world.words after
      (sealRecord (summaryRecord kind (summary.latestSequence + 1) summary count))) :
    RoundTrip s.world.words after
      (summaryRecord kind (summary.latestSequence + 1) summary count) := by
  have hk : isRecordTypeValid kind = true := by
    obtain rfl | rfl := follows <;> decide
  have other : kind ≠ recordImageValid := by
    obtain rfl | rfl := follows
    · exact followUp_ne_image.1
    · exact followUp_ne_image.2
  have total := scan_summarize scan
  have next : ∀ v ∈ validRecords (journal s.world.words) 16,
      v.sequence < (scanLoadedRecords (journal s.world.words) 16).latestSequence + 1 := by
    rw [← scan] at bounded
    exact next_newer bounded
  obtain ⟨image, selected, reports, hv, binds⟩ := followUp_spec next (by rw [scan]; exact valid)
    kind hk count
  have single : hasDuplicate (validRecords (journal s.world.words) 16) = false :=
    (summarize_metadataValid rfl (by rw [total]; exact valid)).1
  rw [scan] at reports hv binds
  have sequence : (summaryRecord kind (summary.latestSequence + 1) summary count).sequence =
      summary.latestSequence + 1 := rfl
  have kind_eq : (summaryRecord kind (summary.latestSequence + 1) summary count).recordType = kind :=
    rfl
  generalize summaryRecord kind (summary.latestSequence + 1) summary count = fields
    at hv binds filled sequence kind_eq ⊢
  have newer := scan_newer scan bounded sequence
  have numbered : (sealed fields).sequence =
      (summarize (slotCounts (journal s.world.words) 16)
        (validRecords (journal s.world.words) 16)).latestSequence + 1 := by
    rw [total, sealed, withRecordCrc_sequence, sequence]
  have kind' : (sealed fields).recordType = kind := by
    rw [sealed, withRecordCrc_recordType, kind_eq]
  apply filled.roundTrip hv single newer
  intro next
  rw [scan, updatedSummary, kind_eq, if_neg other]
  obtain rfl | rfl := follows
  · have updated := summarize_attempt newer rfl numbered next single kind' selected binds
    rw [total] at updated
    rw [if_pos rfl, updated]
  · have updated := summarize_confirmed newer rfl numbered next single kind' selected binds
    rw [total] at updated
    rw [if_neg (by decide), updated]

omit scan bounded in
theorem scanJournal_logged (s' : FlashService (Logged FlashArray)) :
    scanJournal FlashArray.port.logged s' = scanLoadedRecords (journal s'.world.world.words) 16 := rfl

omit bounded in
/-- The scan of a journal that a record went into. -/
theorem RoundTrip.scanJournal (trip : RoundTrip s.world.words s'.world.world.words fields) :
    ∃ next, scanJournal FlashArray.port.logged s' = updatedSummary summary fields next := by
  rw [scanJournal_logged, trip.rescan, scan]
  exact ⟨_, rfl⟩

theorem handleBootAttemptAppend_appended {request : BootProtocolFrame}
    (programmed : ∃ c ∈ (handleBootAttemptAppend FlashArray.port.logged request
      (watched s)).service.world.calls, RecordProgrammed c) :
    Appended s (handleBootAttemptAppend FlashArray.port.logged request (watched s))
      (summaryRecord recordBootAttempt (summary.latestSequence + 1) summary
        (summary.bootAttemptCount + 1)) := by
  unfold handleBootAttemptAppend at programmed ⊢
  by_cases checked : (identityRequestValid request (watched s)).status = BootStatus.ok
  case neg =>
    rw [andThen_refused checked, identityRequestValid_service] at programmed
    exact absurd programmed not_programmed_succeed
  rw [andThen_of_ok checked, identityRequestValid_service] at programmed ⊢
  dsimp only at programmed ⊢
  have same : scanJournal FlashArray.port.logged (watched s) = summary := scan
  rw [same] at programmed ⊢
  by_cases invalid : summary.metadataValid = 0 ∨ summary.state = .duplicateSequence
  · rw [if_pos invalid] at programmed
    exact absurd programmed not_programmed_fail
  rw [if_neg invalid] at programmed ⊢
  by_cases confirmed : summary.appConfirmed ≠ 0
  · rw [if_pos confirmed] at programmed
    exact absurd programmed not_programmed_succeed
  rw [if_neg confirmed] at programmed ⊢
  by_cases spent : summary.bootAttemptCount ≥ summary.bootAttemptLimit
  · rw [if_pos spent] at programmed
    exact absurd programmed not_programmed_fail
  rw [if_neg spent] at programmed ⊢
  by_cases other : request.u32 2 ≠ summary.entryPoint ∨ request.u32 4 ≠ summary.imageSizeWords ∨
      request.u32 6 ≠ summary.imageCrc32
  · rw [if_pos other] at programmed
    exact absurd programmed not_programmed_fail
  rw [if_neg other] at programmed ⊢
  obtain ⟨s', filled, goes⟩ := append_programmed scan (fun _ => buildBootAttemptRecord
    (summary.latestSequence + 1) summary (summary.bootAttemptCount + 1)) programmed
  obtain ⟨valid, -⟩ := not_or.1 invalid
  have trip := Filled.followUp scan bounded (.inl rfl) valid filled
  obtain ⟨next, again⟩ := trip.scanJournal scan
  have updated : updatedSummary summary (summaryRecord recordBootAttempt
      (summary.latestSequence + 1) summary (summary.bootAttemptCount + 1)) next =
      attemptAppended summary next := rfl
  rw [updated] at again
  have passed : ¬ ((scanJournal FlashArray.port.logged s').metadataValid = 0 ∨
      (scanJournal FlashArray.port.logged s').bootAttemptCount ≠ summary.bootAttemptCount + 1) := by
    rw [again, not_or]
    exact ⟨valid, not_not_intro rfl⟩
  rw [goes, if_neg passed]
  exact ⟨rfl, trip⟩

theorem confirmJournal_appended {expected : Option ExpectedIdentity}
    (programmed : ∃ c ∈ (confirmJournal FlashArray.port.logged expected
      (watched s)).service.world.calls, RecordProgrammed c) :
    Appended s (confirmJournal FlashArray.port.logged expected (watched s))
      (summaryRecord recordAppConfirmed (summary.latestSequence + 1) summary
        summary.bootAttemptCount) := by
  unfold confirmJournal at programmed ⊢
  by_cases closed : (watched s).runtime.initialized = 0
  · rw [if_pos closed] at programmed
    exact absurd programmed not_programmed_fail
  rw [if_neg closed] at programmed ⊢
  dsimp only at programmed ⊢
  have same : scanJournal FlashArray.port.logged (watched s) = summary := scan
  rw [same] at programmed ⊢
  by_cases invalid : summary.metadataValid = 0 ∨ summary.state = .duplicateSequence ∨
      summary.hasImageValid = 0
  · rw [if_pos invalid] at programmed
    exact absurd programmed not_programmed_fail
  rw [if_neg invalid] at programmed ⊢
  by_cases other : ∃ e ∈ expected, e.differs summary
  · rw [if_pos other] at programmed
    exact absurd programmed not_programmed_fail
  rw [if_neg other] at programmed ⊢
  by_cases unattempted : summary.bootAttemptCount = 0
  · rw [if_pos unattempted] at programmed
    exact absurd programmed not_programmed_fail
  rw [if_neg unattempted] at programmed ⊢
  by_cases confirmed : summary.appConfirmed ≠ 0
  · rw [if_pos confirmed] at programmed
    exact absurd programmed not_programmed_succeed
  rw [if_neg confirmed] at programmed ⊢
  obtain ⟨s', filled, goes⟩ := append_programmed scan (fun _ => buildAppConfirmedRecord
    (summary.latestSequence + 1) summary) programmed
  simp only [not_or] at invalid
  obtain ⟨valid, single, image⟩ := invalid
  have trip := Filled.followUp scan bounded (.inr rfl) valid filled
  obtain ⟨next, again⟩ := trip.scanJournal scan
  have updated : updatedSummary summary (summaryRecord recordAppConfirmed
      (summary.latestSequence + 1) summary summary.bootAttemptCount) next =
      confirmAppended summary next := rfl
  rw [updated] at again
  have passed : ¬ ((scanJournal FlashArray.port.logged s').metadataValid = 0 ∨
      (scanJournal FlashArray.port.logged s').state = .duplicateSequence ∨
      (scanJournal FlashArray.port.logged s').hasImageValid = 0 ∨
      (scanJournal FlashArray.port.logged s').imageValidSequence ≠ summary.imageValidSequence ∨
      (scanJournal FlashArray.port.logged s').entryPoint ≠ summary.entryPoint ∨
      (scanJournal FlashArray.port.logged s').imageSizeWords ≠ summary.imageSizeWords ∨
      (scanJournal FlashArray.port.logged s').imageCrc32 ≠ summary.imageCrc32 ∨
      (scanJournal FlashArray.port.logged s').appConfirmed = 0) := by
    rw [again]
    simp [confirmAppended, recordAppended, valid, single, image]
  rw [goes, if_neg passed]
  exact ⟨rfl, trip⟩

theorem handleImageValidAppend_appended {request : BootProtocolFrame}
    (programmed : ∃ c ∈ (handleImageValidAppend FlashArray.port.logged request
      (watched s)).service.world.calls, RecordProgrammed c) :
    request.word 0 = recordImageValid ∧
    Appended s (handleImageValidAppend FlashArray.port.logged request (watched s))
      (imageFields request s.runtime summary) := by
  unfold handleImageValidAppend at programmed ⊢
  by_cases checked : (metadataRequestValid request (watched s)).status = BootStatus.ok
  case neg =>
    rw [andThen_refused checked, metadataRequestValid_service] at programmed
    exact absurd programmed not_programmed_succeed
  have valid := metadataRequestValid_ok checked
  rw [andThen_of_ok checked, metadataRequestValid_service] at programmed ⊢
  dsimp only at programmed ⊢
  by_cases closed : (watched s).runtime.verifySucceeded = 0
  · rw [if_pos closed] at programmed
    exact absurd programmed not_programmed_fail
  have same : scanJournal FlashArray.port.logged (watched s) = summary := scan
  rw [if_neg closed, same] at programmed ⊢
  by_cases duplicate : summary.state = .duplicateSequence
  · rw [if_pos duplicate] at programmed
    exact absurd programmed not_programmed_fail
  rw [if_neg duplicate] at programmed ⊢
  obtain ⟨s', filled, goes⟩ := append_programmed scan
    (fun s' => imageRecord request s'.runtime summary) programmed
  have sequence : (imageFields request s.runtime summary).sequence = summary.latestSequence + 1 := by
    have next := imageSequence_scan (journal s.world.words)
    rw [scan] at next
    exact next
  have trip : RoundTrip s.world.words s'.world.world.words (imageFields request s.runtime summary) :=
    Filled.image scan bounded rfl sequence duplicate (validateRecord_imageRecord valid s.runtime summary)
      filled
  obtain ⟨next, again⟩ := trip.scanJournal scan
  have updated : updatedSummary summary (imageFields request s.runtime summary) next =
      imageAppended summary (imageFields request s.runtime summary) next := rfl
  rw [updated] at again
  have passed : ¬ ((scanJournal FlashArray.port.logged s').metadataValid = 0 ∨
      (scanJournal FlashArray.port.logged s').imageValidSequence ≠ imageSequence summary ∨
      (scanJournal FlashArray.port.logged s').entryPoint ≠ request.u32 2 ∨
      (scanJournal FlashArray.port.logged s').imageCrc32 ≠ request.u32 6) := by
    rw [again]
    simp [imageAppended, recordAppended, copyImageToSummary, imageFields]
  rw [goes, if_neg passed]
  exact ⟨valid.kind, rfl, trip⟩

end

/-! ## Every append -/

/-- METADATA_APPEND_RECORD and `BootFlashService_ConfirmCurrentImage`. -/
def AppendInput : ServiceInput → Prop
  | .command request => request.command = BootCmd.metadataAppendRecord
  | .confirmCurrentImage => True
  | .bootInit _ _ _ => False

theorem handleMetadataAppendRecord_appended {s : FlashService FlashArray}
    {request : BootProtocolFrame} {summary : BootMetadataSummary}
    (scan : scanLoadedRecords (journal s.world.words) 16 = summary)
    (bounded : summary.latestSequence ≠ 0xFFFFFFFF)
    (programmed : ∃ c ∈ (handleMetadataAppendRecord FlashArray.port.logged request
      (watched s)).service.world.calls, RecordProgrammed c) :
    Appended s (handleMetadataAppendRecord FlashArray.port.logged request (watched s))
      (appendedFields (.command request) s.runtime summary) := by
  unfold handleMetadataAppendRecord at programmed ⊢
  unfold appendedFields
  by_cases attempt : request.payloadWords = 16 ∧ request.word 0 = recordBootAttempt
  · rw [if_pos attempt] at programmed ⊢
    dsimp only
    rw [if_pos attempt.2]
    exact handleBootAttemptAppend_appended scan bounded programmed
  rw [if_neg attempt] at programmed ⊢
  by_cases confirmed : request.payloadWords = 16 ∧ request.word 0 = recordAppConfirmed
  · have kind : request.word 0 ≠ recordBootAttempt := by
      rw [confirmed.2]
      decide
    rw [if_pos confirmed] at programmed ⊢
    dsimp only
    rw [if_neg kind, if_pos confirmed.2]
    unfold handleAppConfirmedAppend at programmed ⊢
    by_cases checked : (identityRequestValid request (watched s)).status = BootStatus.ok
    case neg =>
      rw [andThen_refused checked, identityRequestValid_service] at programmed
      exact absurd programmed not_programmed_succeed
    rw [andThen_of_ok checked, identityRequestValid_service] at programmed ⊢
    exact confirmJournal_appended scan bounded programmed
  · rw [if_neg confirmed] at programmed ⊢
    obtain ⟨kind, appended⟩ := handleImageValidAppend_appended scan bounded programmed
    dsimp only
    rw [kind, if_neg (by decide), if_neg (by decide)]
    exact appended

/-- A record that is programmed reads back, passes the handler's own check and makes the next scan
report what it adds. -/
theorem append_rescan (s : FlashService FlashArray) (input : ServiceInput) (append : AppendInput input)
    (bounded : (scanLoadedRecords (journal s.world.words) 16).latestSequence ≠ 0xFFFFFFFF)
    (programmed : ∃ c ∈ ((serviceMachine FlashArray.port).event s input).output.calls,
      RecordProgrammed c) :
    ((serviceMachine FlashArray.port).event s input).output.status = BootStatus.ok ∧
    RoundTrip s.world.words ((serviceMachine FlashArray.port).event s input).after.world.words
      (appendedFields input s.runtime (scanLoadedRecords (journal s.world.words) 16)) := by
  cases input with
  | bootInit => exact absurd append not_false
  | confirmCurrentImage =>
    have done := confirmJournal_appended rfl bounded programmed
    exact ⟨done.answer, done.roundTrip⟩
  | command request =>
    have command : request.command = BootCmd.metadataAppendRecord := append
    have programmed : ∃ c ∈ (bootHandleCommand FlashArray.port.logged request 0 .clear
      (watched s)).service.world.calls, RecordProgrammed c := programmed
    change (bootHandleCommand FlashArray.port.logged request 0 .clear (watched s)).status = _ ∧
      RoundTrip _ (bootHandleCommand FlashArray.port.logged request 0 .clear
        (watched s)).service.world.world.words _
    by_cases closed : (watched s).runtime.initialized = 0
    · rw [bootHandleCommand, if_pos closed] at programmed
      obtain ⟨c, hc, -⟩ := programmed
      cases hc
    rw [bootHandleCommand_of_initialized closed, dispatch_append command] at programmed ⊢
    have done := handleMetadataAppendRecord_appended rfl bounded programmed
    exact ⟨done.answer, done.roundTrip⟩

/-- Where every command succeeds, a free slot and the open gate let an image be programmed. -/
theorem image_programmed {s : FlashService FlashArray} {request : BootProtocolFrame}
    {summary : BootMetadataSummary} (working : Working s.world)
    (scan : scanLoadedRecords (journal s.world.words) 16 = summary)
    (free : summary.nextRecordIndex ≠ invalidIndex) (single : summary.state ≠ .duplicateSequence)
    (initialized : s.runtime.initialized ≠ 0) (prepared : s.runtime.flashInitialized ≠ 0)
    (gate : s.runtime.verifySucceeded ≠ 0) (command : request.command = BootCmd.metadataAppendRecord)
    (kind : request.word 0 = recordImageValid)
    (checked : (metadataRequestValid request (watched s)).status = BootStatus.ok) :
    ∃ c ∈ ((serviceMachine FlashArray.port).event s (.command request)).output.calls,
      RecordProgrammed c := by
  change ∃ c ∈ (bootHandleCommand FlashArray.port.logged request 0 .clear
    (watched s)).service.world.calls, RecordProgrammed c
  have initialized : (watched s).runtime.initialized ≠ 0 := initialized
  have gate : (watched s).runtime.verifySucceeded ≠ 0 := gate
  have prepared : (watched s).runtime.flashInitialized ≠ 0 := prepared
  have same : scanJournal FlashArray.port.logged (watched s) = summary := scan
  rw [bootHandleCommand_of_initialized initialized, dispatch_append command,
    handleMetadataAppendRecord, if_neg (fun h => followUp_ne_image.1 (h.2.symm.trans kind)),
    if_neg (fun h => followUp_ne_image.2 (h.2.symm.trans kind)), handleImageValidAppend,
    andThen_of_ok checked, metadataRequestValid_service]
  dsimp only
  rw [if_neg gate, same, if_neg single, metadataRecordAddress_free scan.symm free,
    andThen_of_ok rfl]
  generalize imageRecord request (succeed (watched s)).service.runtime summary = record
  have ensured : ensureFlash FlashArray.port.logged BootErr.opProgram BootStatus.metadataWriteFailed
      (watched s) = succeed (watched s) := if_pos prepared
  have free' := free
  rw [← scan] at free'
  obtain ⟨slot, hs, index, -⟩ := nextRecordIndex_spec free'
  rw [scan] at index
  have address : (nextRecordAddress summary).toNat = slotAddress slot :=
    nextRecordAddress_index hs index
  obtain ⟨ok, -⟩ := programMetadataRecord_working working (recordInfo (nextRecordAddress summary))
    hs address record
  obtain ⟨r, hr, world⟩ := recordCall_logged summary record (watched s)
  rw [show r.result = BootFlashResult.ok from hr ▸ ok] at world
  have recorded : ⟨.programMetadataRecord (nextRecordAddress summary) record.toList 64, s.world,
      BootFlashResult.ok, r.world⟩ ∈
        (recordCall FlashArray.port.logged summary record (watched s)).world.calls := by
    rw [world]
    exact List.mem_singleton.2 rfl
  have result : (recordCall FlashArray.port.logged summary record (watched s)).result =
      BootFlashResult.ok := ok
  have programmed : programMetadataRecord FlashArray.port.logged (nextRecordAddress summary) record
      (watched s) = succeed { watched s with
        world := (recordCall FlashArray.port.logged summary record (watched s)).world } := by
    rw [programMetadataRecord, ensured, andThen_of_ok rfl]
    exact if_neg (not_not_intro result)
  rw [show (succeed (watched s)).service = watched s from rfl, programmed, andThen_of_ok rfl]
  refine ⟨⟨.programMetadataRecord (nextRecordAddress summary) record.toList 64, s.world,
    BootFlashResult.ok, r.world⟩, ?_, rfl, _, _, _, rfl⟩
  dsimp only
  split
  · exact recorded
  · exact recorded

/-- A service that has verified an image, over an erased journal. -/
def verifiedService : FlashService FlashArray :=
  ⟨⟨.reset, 1, 1, 1, BootDevice.f28377d, BootDevice.cpu1, 248⟩,
    ⟨fun _ => erasedWord, 0, fun _ => .success⟩⟩

def imageRequest : BootProtocolFrame :=
  .ofWords BootCmd.metadataAppendRecord 4
    [recordImageValid, BootSlot.a, 0x2400, 0x8, 8, 0, 0x1234, 0x5678, 1, 0, 0, 1, 0, 0x2408, 0x8, 0]
    imageWords_length

theorem append_rescan_image :
    ((serviceMachine FlashArray.port).event verifiedService (.command imageRequest)).output.status =
      BootStatus.ok ∧
    RoundTrip verifiedService.world.words
      ((serviceMachine FlashArray.port).event verifiedService
        (.command imageRequest)).after.world.words
      (appendedFields (.command imageRequest) verifiedService.runtime
        (scanLoadedRecords (journal verifiedService.world.words) 16)) := by
  have blank : JournalInvariant (journal verifiedService.world.words) :=
    journalInvariant_blank fun i hi => (journal_erased hi).2 fun k hk => rfl
  have sequence : (scanLoadedRecords (journal verifiedService.world.words) 16).latestSequence ≠
      0xFFFFFFFF := by
    decide +kernel
  have free : (scanLoadedRecords (journal verifiedService.world.words) 16).nextRecordIndex ≠
      invalidIndex := by
    decide +kernel
  have checked : (metadataRequestValid imageRequest (watched verifiedService)).status =
      BootStatus.ok := by
    decide +kernel
  apply append_rescan verifiedService (.command imageRequest) rfl sequence
  exact image_programmed (fun _ => rfl) rfl free blank.scan_single (by decide) (by decide)
    (by decide) rfl (BootProtocolFrame.word_ofWords BootCmd.metadataAppendRecord 4 _ _ 0) checked

end BootUpgrade.BootFlashService

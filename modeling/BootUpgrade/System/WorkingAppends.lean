import BootUpgrade.System.IdentityBinding
import BootUpgrade.System.JournalRun

/-!
# Appends to a journal whose Flash works

When every Flash command succeeds, an append request is decided by the request,
the verify gate and the scanned journal alone: it is refused, or it has nothing
to do, or one record goes into the first erased slot.
-/

namespace BootUpgrade

open BootMetadata

namespace FlashArray

/-- Every command succeeds. -/
def Working (w : FlashArray) : Prop := ∀ n, w.outcomes n = .success

theorem Working.advance {w : FlashArray} (h : Working w) : Working w.advance := fun n => h (n + 1)

section
variable {w : FlashArray} (working : Working w) (info : BootFlashErrorInfo)
include working

theorem Working.takesEffect : (w.outcomes 0).takesEffect = true := by
  rw [working 0]
  rfl

theorem init_working : (port.init info w).result = BootFlashResult.ok ∧
    (port.init info w).world = w.advance.advance := by
  have first : (w.outcomes 0).apiStatus = Fapi.statusSuccess := by rw [working 0]; rfl
  have second : (w.outcomes 1).apiStatus = Fapi.statusSuccess := by rw [working 1]; rfl
  simp [port, F28377D.port, F28377D.init, fapi, FlashArray.advance, first, second]

theorem program128Bits_working (address : UInt32) (data : List UInt16) :
    let r := F28377D.program128Bits fapi address data info w
    r.result = BootFlashResult.ok ∧ Working r.world := by
  have api : (w.outcomes 0).apiStatus = Fapi.statusSuccess := by rw [working 0]; rfl
  have fsm : (w.outcomes 0).fsmStatus = 0 := by rw [working 0]; rfl
  unfold F28377D.program128Bits
  dsimp only [fapi, command, FlashArray.advance]
  rw [if_neg (by simp [api, fsm])]
  exact ⟨rfl, fun n => working (n + 1)⟩

omit working info in
theorem programLoop_working (units : Nat) (address : UInt32) (data : List UInt16)
    (info : BootFlashErrorInfo) (w : FlashArray) (working : Working w) :
    let r := F28377D.programLoop fapi units address data info w
    r.result = BootFlashResult.ok ∧ Working r.world := by
  induction units generalizing address data info w with
  | zero => exact ⟨rfl, working⟩
  | succ units ih =>
    obtain ⟨ok, next⟩ := program128Bits_working working info address (data.take 8)
    unfold F28377D.programLoop
    dsimp only
    rw [if_neg (not_not_intro ok)]
    exact ih _ _ _ _ next

/-- A record goes into its slot as a whole. -/
theorem programMetadataRecord_working {slot : Nat} (hs : slot < 16) {address : UInt32}
    (ha : address.toNat = slotAddress slot) (record : RecordWords) :
    let r := port.programMetadataRecord address record.toList 64 info w
    r.result = BootFlashResult.ok ∧ Working r.world ∧
      r.world.words = programWords w.words (slotAddress slot) (record.toList.take 64) := by
  intro r
  unfold slotAddress at ha
  have range : ¬ ((64 : UInt16) ≠ 64 ∨ address % 64 ≠ 0 ∨ address < F28377D.slotAMetadataStart ∨
      address + (64 : UInt16).toUInt32 > F28377D.slotAMetadataEnd ∨
      address + (64 : UInt16).toUInt32 < address) := by
    have sum : (address + (64 : UInt16).toUInt32).toNat = address.toNat + 64 :=
      Words.toNat_add_of_lt (by simp only [UInt16.toNat_toUInt32, UInt16.reduceToNat]; omega)
    have start : F28377D.slotAMetadataStart.toNat = 0x082000 := rfl
    have stop : F28377D.slotAMetadataEnd.toNat = 0x082400 := rfl
    have unit : (64 : UInt32).toNat = 64 := rfl
    simp only [ne_eq, not_true, false_or, not_or, Decidable.not_not, gt_iff_lt,
      UInt32.lt_iff_toNat_lt, sum, start, stop, ← UInt32.toNat_inj, UInt32.toNat_mod, unit,
      UInt32.toNat_zero]
    omega
  have body : r = F28377D.programBlock fapi address record.toList 64 info w := if_neg range
  have run := programLoop_working 8 address record.toList info w working
  obtain ⟨done, -, words, all⟩ := programMetadataRecord_words info w address record.toList 64
  have ok : r.result = BootFlashResult.ok := by
    rw [body]
    exact run.1
  refine ⟨ok, by rw [body]; exact run.2, ?_⟩
  have eight := all ok
  rw [eight, ha] at words
  exact words

end

end FlashArray

namespace BootFlashService

open FlashArray

/-! ## What a request comes to -/

/-- The decision on an append request. -/
inductive Verdict where
  | refused (status : UInt16)
  | kept
  | append (record : RecordWords)
  deriving DecidableEq, Repr

namespace Verdict

def status : Verdict → UInt16
  | refused status => status
  | kept | append _ => BootStatus.ok

/-- The verdict after the checks of the request. -/
def after (status : UInt16) (verdict : Verdict) : Verdict :=
  if status ≠ BootStatus.ok then refused status else verdict

/-- The record, if the journal has a slot for it. -/
def appendTo (summary : BootMetadataSummary) (record : RecordWords) : Verdict :=
  if summary.nextRecordIndex = invalidIndex then refused BootStatus.metadataFull
  else append record

end Verdict

def attemptVerdict (request : BootProtocolFrame) (summary : BootMetadataSummary) : Verdict :=
  if summary.metadataValid = 0 ∨ summary.state = .duplicateSequence then
    .refused BootStatus.metadataInvalid
  else if summary.appConfirmed ≠ 0 then .kept
  else if summary.bootAttemptCount ≥ summary.bootAttemptLimit then
    .refused BootStatus.attemptLimitReached
  else if (expectedIdentity request).differs summary then .refused BootStatus.metadataInvalid
  else .appendTo summary
    (buildBootAttemptRecord (summary.latestSequence + 1) summary (summary.bootAttemptCount + 1))

def confirmVerdict (request : BootProtocolFrame) (summary : BootMetadataSummary) : Verdict :=
  if summary.metadataValid = 0 ∨ summary.state = .duplicateSequence ∨
      summary.hasImageValid = 0 then .refused BootStatus.metadataInvalid
  else if (expectedIdentity request).differs summary then .refused BootStatus.metadataInvalid
  else if summary.bootAttemptCount = 0 then .refused BootStatus.metadataInvalid
  else if summary.appConfirmed ≠ 0 then .kept
  else .appendTo summary (buildAppConfirmedRecord (summary.latestSequence + 1) summary)

def imageVerdict (request : BootProtocolFrame) (runtime : BootFlashServiceRuntimeState)
    (summary : BootMetadataSummary) : Verdict :=
  if runtime.verifySucceeded = 0 then .refused BootStatus.invalidState
  else if summary.state = .duplicateSequence then .refused BootStatus.metadataInvalid
  else .appendTo summary (imageRecord request runtime summary)

variable {σ : Type}

/-- The verdict on a METADATA_APPEND_RECORD request over a scanned journal. -/
def appendVerdict (request : BootProtocolFrame) (summary : BootMetadataSummary)
    (s : FlashService σ) : Verdict :=
  if request.payloadWords = 16 ∧ request.word 0 = recordBootAttempt then
    .after (identityRequestValid request s).status (attemptVerdict request summary)
  else if request.payloadWords = 16 ∧ request.word 0 = recordAppConfirmed then
    .after (identityRequestValid request s).status (confirmVerdict request summary)
  else .after (metadataRequestValid request s).status (imageVerdict request s.runtime summary)

/-- `record` has gone into the first erased slot, and nothing else has changed
but the Flash initialization. -/
structure Wrote (s s' : FlashService FlashArray) (record : RecordWords) : Prop where
  working : Working s'.world
  slot : ∃ slot < 16, isErasedRecord (journal s.world.words slot) = true ∧
    (∀ i < slot, isErasedRecord (journal s.world.words i) = false) ∧
    ∀ i < 16, journal s'.world.words i = writeSlot (journal s.world.words) slot record i
  runtime : ∃ flag, s'.runtime = { s.runtime with flashInitialized := flag }

/-- The outcome is what the verdict says; an IMAGE_VALID record closes the verify gate. -/
inductive Settles (s : FlashService FlashArray) (o : Outcome FlashArray) : Verdict → Prop
  | refused (status : UInt16) (failed : status ≠ BootStatus.ok) (answer : o.status = status)
      (service : o.service = s) : Settles s o (.refused status)
  | kept (answer : o.status = BootStatus.ok) (service : o.service = s) : Settles s o .kept
  | append (record : RecordWords) (written : FlashService FlashArray)
      (wrote : Wrote s written record) (answer : o.status = BootStatus.ok)
      (service : o.service =
        if (parseRecord record).recordType = recordImageValid then setVerifySucceeded written 0 else written) :
      Settles s o (.append record)

section
variable {s : FlashService FlashArray} {request : BootProtocolFrame} {summary : BootMetadataSummary}
  {record : RecordWords}

theorem Settles.status {o : Outcome FlashArray} {v : Verdict} (h : Settles s o v) :
    o.status = v.status := by
  cases h with
  | refused _ _ answer => exact answer
  | kept answer => exact answer
  | append _ _ _ answer => exact answer

theorem Settles.appended {o : Outcome FlashArray} (h : Settles s o (.append record)) :
    ∃ written, Wrote s written record ∧ o.status = BootStatus.ok ∧ o.service =
      if (parseRecord record).recordType = recordImageValid then setVerifySucceeded written 0 else written := by
  cases h with
  | append _ written wrote answer service => exact ⟨written, wrote, answer, service⟩

theorem settles_fail {status operation stage : UInt16} {address lengthWords : UInt32}
    (failed : status ≠ BootStatus.ok) :
    Settles s (fail s status operation stage address lengthWords) (.refused status) :=
  .refused status failed rfl rfl

theorem settles_succeed : Settles s (succeed s) .kept := .kept rfl rfl

theorem settles_after {o : Outcome FlashArray} {rest : FlashService FlashArray → Outcome FlashArray}
    {v : Verdict} (same : o.service = s) (go : Settles s (rest s) v) :
    Settles s (andThen o rest) (v.after o.status) := by
  unfold andThen Verdict.after
  by_cases failed : o.status ≠ BootStatus.ok
  · rw [if_pos failed, if_pos failed]
    exact .refused _ failed rfl same
  · rw [if_neg failed, if_neg failed, same]
    exact go

theorem ensureFlash_working (working : Working s.world) (operation failedStatus : UInt16) :
    ∃ flag w, ensureFlash FlashArray.port operation failedStatus s =
        succeed { runtime := { s.runtime with flashInitialized := flag }, world := w } ∧
      Working w ∧ w.words = s.world.words := by
  unfold ensureFlash
  by_cases ready : s.runtime.flashInitialized ≠ 0
  · rw [if_pos ready]
    exact ⟨s.runtime.flashInitialized, s.world, rfl, working, rfl⟩
  · obtain ⟨ok, world⟩ := init_working working .zero
    have mapped : ∀ failed bad, mapResult BootFlashResult.ok failed bad = BootStatus.ok :=
      fun _ _ => rfl
    rw [if_neg ready]
    dsimp only
    rw [ok, mapped, if_neg (not_not_intro rfl), world]
    exact ⟨1, _, rfl, working.advance.advance, rfl⟩

/-- The record that a handler programs into the slot its scan has found. -/
theorem programMetadataRecord_wrote (working : Working s.world)
    (scan : summary = scanLoadedRecords (journal s.world.words) 16)
    (free : summary.nextRecordIndex ≠ invalidIndex) (record : RecordWords) :
    let o := programMetadataRecord FlashArray.port (nextRecordAddress summary) record s
    o.status = BootStatus.ok ∧ Wrote s o.service record := by
  intro o
  obtain ⟨slot, hs, index, erased, first⟩ := nextRecordIndex_spec (scan ▸ free)
  rw [← scan] at index
  have address : (nextRecordAddress summary).toNat = slotAddress slot :=
    nextRecordAddress_index hs index
  obtain ⟨flag, w, ensured, live, same⟩ := ensureFlash_working working BootErr.opProgram
    BootStatus.metadataWriteFailed
  obtain ⟨ok, live', words⟩ := programMetadataRecord_working live
    (recordInfo (nextRecordAddress summary)) hs address record
  have whole : ∀ i < 16, journal (programWords s.world.words (slotAddress slot)
      (record.toList.take 64)) i = writeSlot (journal s.world.words) slot record i := by
    intro i hi
    have programmed := journal_program hs erased record (Nat.le_refl 8) hi
    rw [tornRecord_eq record (Nat.le_refl 8)] at programmed
    exact programmed
  have body : o = succeed ⟨{ s.runtime with flashInitialized := flag },
      (FlashArray.port.programMetadataRecord (nextRecordAddress summary) record.toList 64
        (recordInfo (nextRecordAddress summary)) w).world⟩ := by
    show programMetadataRecord FlashArray.port (nextRecordAddress summary) record s = _
    rw [programMetadataRecord, ensured, andThen_of_ok rfl]
    exact if_neg (not_not_intro ok)
  rw [body]
  refine ⟨rfl, live', ⟨slot, hs, erased, first, ?_⟩, flag, rfl⟩
  intro i hi
  show journal (FlashArray.port.programMetadataRecord _ _ _ _ w).world.words i = _
  rw [← whole i hi, ← same]
  exact congrArg (journal · i) words

/-! ## The journal a handler reads back -/

section
variable {s' : FlashService FlashArray} {r : BootMetadataRecord} {asked : Option BootProtocolFrame}
  (inv : JournalInvariant (journal s.world.words)) (wrote : Wrote s s' record)
  (appends : Appends asked s (scanLoadedRecords (journal s.world.words) 16) record)
include inv wrote

/-- The record is the last valid one of the written journal. -/
theorem Wrote.validRecords (hv : validateRecord record = some r) :
    validRecords (journal s'.world.words) 16 = validRecords (journal s.world.words) 16 ++ [r] := by
  obtain ⟨slot, hs, erased, -, whole⟩ := wrote.slot
  rw [← validRecords_append hs (inv.erased_tail erased hs) hv]
  apply validRecords_congr
  intro i hi
  rw [whole i hi]

include appends

theorem Wrote.invariant : JournalInvariant (journal s'.world.words) := by
  obtain ⟨slot, hs, erased, first, whole⟩ := wrote.slot
  exact journalInvariant_congr (fun i hi => (whole i hi).symm)
    (appends.invariant inv hs erased first)

/-- The scan of the written journal. -/
theorem Wrote.scan {image : BootMetadataRecord} (hv : validateRecord record = some r)
    (selected : currentImage (BootMetadata.validRecords (journal s.world.words) 16 ++ [r]) = some image) :
    ∃ counts, scanLoadedRecords (journal s'.world.words) 16 =
      selectedSummary counts (BootMetadata.validRecords (journal s.world.words) 16 ++ [r]) image := by
  have single := (wrote.invariant inv appends).single
  rw [scanLoadedRecords_eq _ (Nat.le_refl 16)]
  rw [wrote.validRecords inv hv] at single ⊢
  exact ⟨_, summarize_selected single selected⟩

end

/-- A written IMAGE_VALID record is the current image of the journal. -/
theorem Wrote.scan_image {s' : FlashService FlashArray}
    (inv : JournalInvariant (journal s.world.words))
    (scan : scanLoadedRecords (journal s.world.words) 16 = summary)
    (valid : ImageRequest request) (gate : s.runtime.verifySucceeded ≠ 0)
    (single : summary.state ≠ .duplicateSequence)
    (wrote : Wrote s s' (imageRecord request s.runtime summary)) :
    let image := sealed (imageFields request s.runtime summary)
    ∃ counts, Newer image (BootMetadata.validRecords (journal s.world.words) 16) ∧
      scanLoadedRecords (journal s'.world.words) 16 =
        selectedSummary counts (BootMetadata.validRecords (journal s.world.words) 16 ++ [image])
          image := by
  intro image
  have appends : Appends (some request) s (scanLoadedRecords (journal s.world.words) 16)
      (imageRecord request s.runtime summary) := by
    rw [scan]
    exact .imageValid request rfl valid gate single
  have newer := inv.next_sequence.1
  have sequence : image.sequence =
      (scanLoadedRecords (journal s.world.words) 16).latestSequence + 1 := by
    rw [(sealed_imageFields request s.runtime summary).2.1, ← imageSequence_scan, scan]
  rw [← sequence] at newer
  obtain ⟨counts, written⟩ := wrote.scan inv appends
    (validateRecord_imageRecord valid s.runtime summary) (currentImage_append_image rfl newer)
  exact ⟨counts, newer, written⟩

/-! ## The handlers -/

theorem metadataRecordAddress_free {s : FlashService σ} {load : Nat → RecordWords}
    (scan : summary = scanLoadedRecords load 16) (free : summary.nextRecordIndex ≠ invalidIndex) :
    metadataRecordAddress summary s = succeed s := by
  obtain ⟨slot, hs, index, -⟩ := nextRecordIndex_spec (scan ▸ free)
  rw [← scan] at index
  have address := nextRecordAddress_index hs index
  unfold slotAddress at address
  have unit : recordWords.toNat = 64 := rfl
  have start : slotAStart.toNat = 0x082000 := rfl
  have stop : slotAAppStart.toNat = 0x082400 := rfl
  have range : ¬ (nextRecordAddress summary % recordWords ≠ 0 ∨
      nextRecordAddress summary < slotAStart ∨
      nextRecordAddress summary + recordWords > slotAAppStart) := by
    have sum : (nextRecordAddress summary + recordWords).toNat =
        (nextRecordAddress summary).toNat + 64 := Words.toNat_add_of_lt (by omega)
    simp only [ne_eq, not_or, Decidable.not_not, gt_iff_lt, UInt32.lt_iff_toNat_lt, sum, start, stop,
      ← UInt32.toNat_inj, UInt32.toNat_mod, unit, UInt32.toNat_zero]
    omega
  rw [metadataRecordAddress, if_neg free]
  exact if_neg range

/-- Finding the slot, programming the record and a check of the written journal that it passes. -/
theorem settles_appendTo (working : Working s.world)
    (scan : summary = scanLoadedRecords (journal s.world.words) 16)
    (record : FlashService FlashArray → RecordWords)
    {rest : FlashService FlashArray → Outcome FlashArray}
    (check : ∀ s', Wrote s s' (record s) → rest s' = succeed
      (if (parseRecord (record s)).recordType = recordImageValid then setVerifySucceeded s' 0 else s')) :
    Settles s
      (andThen (metadataRecordAddress summary s) fun s' =>
        andThen (programMetadataRecord FlashArray.port (nextRecordAddress summary) (record s') s')
          rest)
      (.appendTo summary (record s)) := by
  unfold Verdict.appendTo
  by_cases free : summary.nextRecordIndex = invalidIndex
  · have full : metadataRecordAddress summary s =
        fail s BootStatus.metadataFull BootErr.opProgram BootErr.stageState 0 0 := if_pos free
    rw [if_pos free, full]
    exact settles_fail (by decide)
  · obtain ⟨ok, wrote⟩ := programMetadataRecord_wrote working scan free (record s)
    rw [if_neg free, metadataRecordAddress_free scan free, andThen_of_ok rfl]
    dsimp only [succeed]
    rw [andThen_of_ok ok, check _ wrote]
    exact .append _ _ wrote rfl rfl

variable (working : Working s.world) (inv : JournalInvariant (journal s.world.words))
include working inv

theorem handleImageValidAppend_settles :
    Settles s (handleImageValidAppend FlashArray.port request s)
      (.after (metadataRequestValid request s).status
        (imageVerdict request s.runtime (scanLoadedRecords (journal s.world.words) 16))) := by
  by_cases refused : (metadataRequestValid request s).status ≠ BootStatus.ok
  · unfold handleImageValidAppend andThen Verdict.after
    rw [if_pos refused, if_pos refused]
    exact .refused _ refused rfl metadataRequestValid_service
  have valid := metadataRequestValid_ok (Decidable.not_not.1 refused)
  apply settles_after metadataRequestValid_service
  generalize scan : scanLoadedRecords (journal s.world.words) 16 = summary
  have same : scanJournal FlashArray.port s = summary := scan
  unfold imageVerdict
  dsimp only
  by_cases closed : s.runtime.verifySucceeded = 0
  · rw [if_pos closed, if_pos closed]
    exact settles_fail (by decide)
  rw [if_neg closed, if_neg closed, same]
  by_cases duplicate : summary.state = .duplicateSequence
  · rw [if_pos duplicate, if_pos duplicate]
    exact settles_fail (by decide)
  rw [if_neg duplicate, if_neg duplicate]
  apply settles_appendTo working scan.symm fun s' => imageRecord request s'.runtime summary
  intro s' wrote
  have appends : Appends (some request) s (scanLoadedRecords (journal s.world.words) 16)
      (imageRecord request s.runtime summary) := by
    rw [scan]
    exact .imageValid request rfl valid closed duplicate
  obtain ⟨counts, -, written⟩ := wrote.scan_image inv scan valid closed duplicate
  have again : scanJournal FlashArray.port s' = _ := written
  have passed : ¬ ((scanJournal FlashArray.port s').metadataValid = 0 ∨
      (scanJournal FlashArray.port s').imageValidSequence ≠ imageSequence summary ∨
      (scanJournal FlashArray.port s').entryPoint ≠ request.u32 2 ∨
      (scanJournal FlashArray.port s').imageCrc32 ≠ request.u32 6) := by
    rw [again]
    simp [selectedSummary, bound, copyImageToSummary, sealed, withRecordCrc, imageFields]
  have kind : (parseRecord (imageRecord request s.runtime summary)).recordType =
      recordImageValid := record_kind (imageFields request s.runtime summary)
  rw [if_neg passed, if_pos kind]

theorem handleBootAttemptAppend_settles :
    Settles s (handleBootAttemptAppend FlashArray.port request s)
      (.after (identityRequestValid request s).status
        (attemptVerdict request (scanLoadedRecords (journal s.world.words) 16))) := by
  apply settles_after identityRequestValid_service
  generalize scan : scanLoadedRecords (journal s.world.words) 16 = summary
  have same : scanJournal FlashArray.port s = summary := scan
  unfold attemptVerdict
  dsimp only
  rw [same]
  by_cases invalid : summary.metadataValid = 0 ∨ summary.state = .duplicateSequence
  · rw [if_pos invalid, if_pos invalid]
    exact settles_fail (by decide)
  rw [if_neg invalid, if_neg invalid]
  by_cases confirmed : summary.appConfirmed ≠ 0
  · rw [if_pos confirmed, if_pos confirmed]
    exact settles_succeed
  rw [if_neg confirmed, if_neg confirmed]
  by_cases spent : summary.bootAttemptCount ≥ summary.bootAttemptLimit
  · rw [if_pos spent, if_pos spent]
    exact settles_fail (by decide)
  rw [if_neg spent, if_neg spent]
  by_cases other : (expectedIdentity request).differs summary
  · rw [if_pos other]
    refine iteInduction (motive := fun o => Settles s o _) (fun _ => settles_fail (by decide)) ?_
    exact fun agree => absurd other agree
  rw [if_neg other]
  refine iteInduction (motive := fun o => Settles s o _) (fun differs => absurd differs other) ?_
  intro _
  obtain ⟨valid, single⟩ := not_or.1 invalid
  have appends : Appends (some request) s (scanLoadedRecords (journal s.world.words) 16)
      (buildBootAttemptRecord (summary.latestSequence + 1) summary
        (summary.bootAttemptCount + 1)) := by
    rw [scan]
    exact .bootAttempt valid single (Decidable.not_not.1 confirmed) (UInt16.not_le.1 spent)
  apply settles_appendTo working scan.symm fun _ => buildBootAttemptRecord
    (summary.latestSequence + 1) summary (summary.bootAttemptCount + 1)
  intro s' wrote
  obtain ⟨image, selected, reports, hv, hb⟩ := followUp_spec inv.next_sequence.1 (by rw [scan]; exact valid)
    recordBootAttempt (by decide) (summary.bootAttemptCount + 1)
  rw [scan] at reports hv hb
  have kept := (@currentImage_append_other (validRecords (journal s.world.words) 16))
    (r := sealed (summaryRecord recordBootAttempt (summary.latestSequence + 1) summary
      (summary.bootAttemptCount + 1))) followUp_ne_image.1
  rw [selected] at kept
  obtain ⟨counts, written⟩ := wrote.scan inv appends hv kept
  have again : scanJournal FlashArray.port s' = _ := written
  have count : (scanJournal FlashArray.port s').bootAttemptCount = summary.bootAttemptCount + 1 := by
    rw [again, selected_bootAttemptCount, attempts_append, if_pos ⟨hb, rfl⟩, reports,
      selected_bootAttemptCount, UInt16.ofNat_add]
    rfl
  have valid' : (scanJournal FlashArray.port s').metadataValid ≠ 0 := by
    rw [again]
    exact (by decide : (1 : UInt16) ≠ 0)
  have kind : (parseRecord (buildBootAttemptRecord (summary.latestSequence + 1) summary
      (summary.bootAttemptCount + 1))).recordType ≠ recordImageValid := by
    rw [buildBootAttemptRecord, record_kind]
    exact followUp_ne_image.1
  rw [if_neg (not_or.2 ⟨valid', not_not_intro count⟩), if_neg kind]

theorem handleAppConfirmedAppend_settles (initialized : s.runtime.initialized ≠ 0) :
    Settles s (handleAppConfirmedAppend FlashArray.port request s)
      (.after (identityRequestValid request s).status
        (confirmVerdict request (scanLoadedRecords (journal s.world.words) 16))) := by
  apply settles_after identityRequestValid_service
  generalize scan : scanLoadedRecords (journal s.world.words) 16 = summary
  have same : scanJournal FlashArray.port s = summary := scan
  unfold confirmJournal confirmVerdict
  dsimp only
  rw [if_neg initialized, same]
  by_cases invalid : summary.metadataValid = 0 ∨ summary.state = .duplicateSequence ∨
      summary.hasImageValid = 0
  · rw [if_pos invalid, if_pos invalid]
    exact settles_fail (by decide)
  rw [if_neg invalid, if_neg invalid]
  by_cases other : (expectedIdentity request).differs summary
  · rw [if_pos other]
    refine iteInduction (motive := fun o => Settles s o _) (fun _ => settles_fail (by decide)) ?_
    exact fun agree => absurd ⟨_, rfl, other⟩ agree
  rw [if_neg other]
  refine iteInduction (motive := fun o => Settles s o _) ?_ fun _ => ?_
  · rintro ⟨_, ⟨⟩, differs⟩
    exact absurd differs other
  by_cases unattempted : summary.bootAttemptCount = 0
  · rw [if_pos unattempted, if_pos unattempted]
    exact settles_fail (by decide)
  rw [if_neg unattempted, if_neg unattempted]
  by_cases confirmed : summary.appConfirmed ≠ 0
  · rw [if_pos confirmed, if_pos confirmed]
    exact settles_succeed
  rw [if_neg confirmed, if_neg confirmed]
  simp only [not_or] at invalid
  obtain ⟨valid, single, image'⟩ := invalid
  have appends : Appends (some request) s (scanLoadedRecords (journal s.world.words) 16)
      (buildAppConfirmedRecord (summary.latestSequence + 1) summary) := by
    rw [scan]
    exact .appConfirmed valid single image' unattempted (Decidable.not_not.1 confirmed)
  apply settles_appendTo working scan.symm fun _ => buildAppConfirmedRecord
    (summary.latestSequence + 1) summary
  intro s' wrote
  obtain ⟨image, selected, reports, hv, hb⟩ := followUp_spec inv.next_sequence.1 (by rw [scan]; exact valid)
    recordAppConfirmed (by decide) summary.bootAttemptCount
  rw [scan] at reports hv hb
  have kept := (@currentImage_append_other (validRecords (journal s.world.words) 16))
    (r := sealed (summaryRecord recordAppConfirmed (summary.latestSequence + 1) summary
      summary.bootAttemptCount)) followUp_ne_image.2
  rw [selected] at kept
  obtain ⟨counts, written⟩ := wrote.scan inv appends hv kept
  have again : scanJournal FlashArray.port s' = _ := written
  have last := confirmations_append image (validRecords (journal s.world.words) 16)
    (sealed (summaryRecord recordAppConfirmed (summary.latestSequence + 1) summary
      summary.bootAttemptCount))
  rw [if_pos ⟨hb, rfl⟩] at last
  have sequence : summary.imageValidSequence = image.sequence := by rw [reports]; rfl
  have entry : summary.entryPoint = image.entryPoint := by rw [reports]; rfl
  have size : summary.imageSizeWords = image.imageSizeWords := by rw [reports]; rfl
  have crc : summary.imageCrc32 = image.imageCrc32 := by rw [reports]; rfl
  have passed : ¬ ((scanJournal FlashArray.port s').metadataValid = 0 ∨
      (scanJournal FlashArray.port s').state = .duplicateSequence ∨
      (scanJournal FlashArray.port s').hasImageValid = 0 ∨
      (scanJournal FlashArray.port s').imageValidSequence ≠ summary.imageValidSequence ∨
      (scanJournal FlashArray.port s').entryPoint ≠ summary.entryPoint ∨
      (scanJournal FlashArray.port s').imageSizeWords ≠ summary.imageSizeWords ∨
      (scanJournal FlashArray.port s').imageCrc32 ≠ summary.imageCrc32 ∨
      (scanJournal FlashArray.port s').appConfirmed = 0) := by
    rw [again]
    simp [selectedSummary, bound, copyImageToSummary, last, sequence, entry, size, crc]
  have kind : (parseRecord (buildAppConfirmedRecord (summary.latestSequence + 1) summary)).recordType ≠
      recordImageValid := by
    rw [buildAppConfirmedRecord, record_kind]
    exact followUp_ne_image.2
  rw [if_neg passed, if_neg kind]

omit working inv in
/-- An append comes from a request that has passed every check. -/
theorem appendVerdict_appends (h : appendVerdict request summary s = .append record) :
    Appends (some request) s summary record := by
  unfold appendVerdict Verdict.after at h
  split at h
  · split at h
    · cases h
    unfold attemptVerdict Verdict.appendTo at h
    split at h
    · cases h
    rename_i valid
    split at h
    · cases h
    rename_i confirmed
    split at h
    · cases h
    rename_i left
    split at h
    · cases h
    split at h
    · cases h
    obtain ⟨valid, single⟩ := not_or.1 valid
    rw [← Verdict.append.inj h]
    exact .bootAttempt valid single (Decidable.not_not.1 confirmed) (UInt16.not_le.1 left)
  split at h
  · split at h
    · cases h
    unfold confirmVerdict Verdict.appendTo at h
    split at h
    · cases h
    rename_i valid
    split at h
    · cases h
    split at h
    · cases h
    rename_i attempted
    split at h
    · cases h
    rename_i confirmed
    split at h
    · cases h
    simp only [not_or] at valid
    obtain ⟨valid, single, image⟩ := valid
    rw [← Verdict.append.inj h]
    exact .appConfirmed valid single image attempted (Decidable.not_not.1 confirmed)
  · split at h
    · cases h
    rename_i checked
    unfold imageVerdict Verdict.appendTo at h
    split at h
    · cases h
    rename_i gate
    split at h
    · cases h
    rename_i single
    split at h
    · cases h
    rw [← Verdict.append.inj h]
    exact .imageValid request rfl (metadataRequestValid_ok (Decidable.not_not.1 checked)) gate single

/-- Every append request on a Flash that works comes to its verdict. -/
theorem handleMetadataAppendRecord_settles (initialized : s.runtime.initialized ≠ 0) :
    Settles s (handleMetadataAppendRecord FlashArray.port request s)
      (appendVerdict request (scanLoadedRecords (journal s.world.words) 16) s) := by
  unfold handleMetadataAppendRecord appendVerdict
  split
  · exact handleBootAttemptAppend_settles working inv
  split
  · exact handleAppConfirmedAppend_settles working inv initialized
  · exact handleImageValidAppend_settles working inv

end

end BootFlashService

end BootUpgrade

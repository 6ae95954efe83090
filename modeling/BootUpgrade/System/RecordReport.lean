import BootUpgrade.Gui.MetadataReadback
import BootUpgrade.System.FlashUpgrade

/-!
# What the host reports of a metadata write

The host, the service, the scan and the readback each decide about the same journal.
On a device with the service attached and a Flash that works they agree: the write is
reported exactly when the journal has gained the record, and otherwise the journal is
as before and the reason given holds of it.
-/

namespace BootUpgrade.RecordReport

open FlashArray BootMetadata BootAlgorithm HostImages HostWorkflow HostClient HostOperations
  HostProtocol TransferKind Dialogue RamLoading BootFlashService AttachedService RecordAppend
  RuntimeBackend

/-! ## What the host foresees -/

/-- What a scan says of the journal when it says that the metadata is valid. -/
structure Consistent (summary : BootMetadataSummary) : Prop where
  state : summary.metadataValid ≠ 0 → summary.state = .valid
  image : summary.metadataValid ≠ 0 → summary.hasImageValid = 1
  limit : summary.metadataValid ≠ 0 →
    ¬ (summary.bootAttemptLimit = 0 ∨ summary.bootAttemptLimit > 3)

theorem consistent_scan (load : Nat → RecordWords) : Consistent (scanLoadedRecords load 16) := by
  constructor <;> intro valid <;> obtain ⟨image, selected, summary⟩ := scan_selected valid <;>
    rw [summary]
  · rfl
  · rfl
  · obtain ⟨-, fields⟩ := currentImage_valid selected
    rw [selected_bootAttemptLimit]
    intro outside
    have outside : image.bootAttemptLimit = 0 ∨ image.bootAttemptLimit > bootAttemptLimit := outside
    unfold areAppFieldsValid at fields
    simp [outside] at fields

section
variable {summary : BootMetadataSummary}

theorem hostState_valid : metadataState (hostSummary summary) = .valid ↔
    summary.state = .valid ∧ summary.metadataValid ≠ 0 := by
  unfold metadataState hostSummary stateWord
  dsimp only
  cases summary.state with
  | valid => simp
  | empty =>
    simp only [if_true, reduceCtorEq, false_and, iff_false]
    split
    · exact fun same => by cases same
    · rw [if_neg fun h => absurd h.1 (by decide)]
      exact fun same => by cases same
  | invalid => simp
  | duplicateSequence => simp

variable (consistent : Consistent summary)
include consistent

/-- The metadata is valid to the host when it is usable to the service. -/
theorem hostState_usable : metadataState (hostSummary summary) = .valid ↔
    ¬ (summary.metadataValid = 0 ∨ summary.state = .duplicateSequence) := by
  rw [hostState_valid, not_or]
  constructor
  · rintro ⟨state, valid⟩
    refine ⟨valid, ?_⟩
    rw [state]
    decide
  · rintro ⟨valid, -⟩
    exact ⟨consistent.state valid, valid⟩

theorem attempt_foreseen : appendRefusal .bootAttempt (hostSummary summary) = none ↔
    ¬ (summary.metadataValid = 0 ∨ summary.state = .duplicateSequence) ∧
      summary.appConfirmed = 0 ∧ ¬ summary.bootAttemptCount ≥ summary.bootAttemptLimit := by
  have three : (3 : UInt16).toNat = 3 := rfl
  rw [← hostState_usable consistent]
  unfold appendRefusal
  cases host : metadataState (hostSummary summary) with
  | empty => simp
  | invalid => simp
  | valid =>
    have limit := consistent.limit (hostState_valid.1 host).2
    obtain ⟨-, most⟩ := not_or.1 limit
    have most := UInt16.le_iff_toNat_le.1 (UInt16.not_lt.1 most)
    have few : ¬ summary.bootAttemptCount ≥ summary.bootAttemptLimit →
        summary.bootAttemptCount < 3 := by
      simp only [ge_iff_le, UInt16.le_iff_toNat_le, UInt16.lt_iff_toNat_lt, three] at most ⊢
      omega
    dsimp only [hostSummary]
    by_cases confirmed : summary.appConfirmed = 0
    · by_cases spent : summary.bootAttemptCount ≥ summary.bootAttemptLimit
      · simp [limit, confirmed, spent]
      · simp [limit, confirmed, spent, few spent]
    · simp [limit, confirmed]

theorem confirm_foreseen : appendRefusal .appConfirmed (hostSummary summary) = none ↔
    ¬ (summary.metadataValid = 0 ∨ summary.state = .duplicateSequence ∨
        summary.hasImageValid = 0) ∧
      summary.bootAttemptCount ≠ 0 ∧ summary.appConfirmed = 0 := by
  have usable : ¬ (summary.metadataValid = 0 ∨ summary.state = .duplicateSequence ∨
      summary.hasImageValid = 0) ↔
        ¬ (summary.metadataValid = 0 ∨ summary.state = .duplicateSequence) := by
    simp only [not_or]
    constructor
    · exact fun h => ⟨h.1, h.2.1⟩
    · rintro ⟨valid, single⟩
      refine ⟨valid, single, ?_⟩
      rw [consistent.image valid]
      decide
  rw [usable, ← hostState_usable consistent]
  unfold appendRefusal
  cases host : metadataState (hostSummary summary) with
  | empty => simp
  | invalid => simp
  | valid =>
    dsimp only [hostSummary]
    by_cases confirmed : summary.appConfirmed = 0
    · by_cases unattempted : summary.bootAttemptCount = 0
      · simp [confirmed, unattempted]
      · simp [confirmed, unattempted]
    · simp [confirmed]

end

/-! ## What the service decides -/

section
variable {σ : Type} {request : BootProtocolFrame} {summary : BootMetadataSummary}
  {written : RecordWords} {s : FlashService σ}

theorem attemptVerdict_append (h : attemptVerdict request summary = .append written) :
    ¬ (summary.metadataValid = 0 ∨ summary.state = .duplicateSequence) ∧
      summary.appConfirmed = 0 ∧ ¬ summary.bootAttemptCount ≥ summary.bootAttemptLimit := by
  unfold attemptVerdict at h
  split at h
  · cases h
  rename_i usable
  split at h
  · cases h
  rename_i confirmed
  split at h
  · cases h
  rename_i left
  exact ⟨usable, Decidable.not_not.1 confirmed, left⟩

theorem confirmVerdict_append (h : confirmVerdict request summary = .append written) :
    ¬ (summary.metadataValid = 0 ∨ summary.state = .duplicateSequence ∨
        summary.hasImageValid = 0) ∧
      summary.bootAttemptCount ≠ 0 ∧ summary.appConfirmed = 0 := by
  unfold confirmVerdict at h
  split at h
  · cases h
  rename_i usable
  split at h
  · cases h
  split at h
  · cases h
  rename_i attempted
  split at h
  · cases h
  rename_i confirmed
  exact ⟨usable, attempted, Decidable.not_not.1 confirmed⟩

theorem after_append {status : UInt16} {verdict : Verdict} (h : verdict.after status = .append written) :
    status = BootStatus.ok ∧ verdict = .append written := by
  unfold Verdict.after at h
  split at h
  · cases h
  · rename_i ok
    exact ⟨Decidable.not_not.1 ok, h⟩

/-- What the service appends after an image is what the host would have asked for. -/
theorem followUp_asked {record : HostRecordType} (consistent : Consistent summary)
    (follows : record ≠ .imageValid) (kind : request.word 0 = UInt16.ofNat record.code)
    (h : appendVerdict request summary s = .append written) :
    appendRefusal record (hostSummary summary) = none := by
  have other : request.word 0 ≠ recordImageValid := by
    rw [kind]
    cases record with
    | imageValid => exact absurd rfl follows
    | bootAttempt => exact followUp_ne_image.1
    | appConfirmed => exact followUp_ne_image.2
  unfold appendVerdict at h
  split at h
  · rename_i asked
    cases record with
    | imageValid => exact absurd rfl follows
    | bootAttempt =>
      exact (attempt_foreseen consistent).2 (attemptVerdict_append (after_append h).2)
    | appConfirmed => exact absurd (kind.symm.trans asked.2) (by decide)
  split at h
  · rename_i asked
    cases record with
    | imageValid => exact absurd rfl follows
    | bootAttempt => exact absurd (kind.symm.trans asked.2) (by decide)
    | appConfirmed =>
      exact (confirm_foreseen consistent).2 (confirmVerdict_append (after_append h).2)
  · exact absurd (metadataRequestValid_ok (after_append h).1).kind other

end

/-! ## What the host asks for -/

section
variable {record : HostRecordType} {identity : ImageIdentity} {summary : BootMetadataSummary}

variable (record identity) in
theorem recordFrame_kind : (recordFrame record identity).word 0 = UInt16.ofNat record.code := by
  rw [recordFrame_word]
  rfl

/-- A request without an application end is one for a record that follows an image. -/
theorem identityRequestValid_recordFrame {σ : Type} (record : HostRecordType) (s : FlashService σ) (none : identity.appEnd = 0) :
    (identityRequestValid (recordFrame record identity) s).status = BootStatus.ok := by
  have slot : (recordFrame record identity).word 1 = BootSlot.a :=
    recordFrame_word record identity 1
  have flags : (recordFrame record identity).word 15 = 0 :=
    recordFrame_word record identity 15
  have blank : ((recordFrame record identity).words 8 7).any (· ≠ 0) = false := by
    rw [recordFrame, words_requestFrame recordRequest_fits (show 8 + 7 ≤ 16 by decide)]
    show (((recordPayload record identity).map UInt16.ofNat).drop 8 |>.take 7).any _ = false
    unfold recordPayload
    rw [none]
    rfl
  unfold identityRequestValid
  rw [if_neg (not_not_intro (recordFrame_payload record identity)), if_neg (not_not_intro slot),
    if_neg (not_not_intro flags), blank, if_neg Bool.false_ne_true]
  rfl

/-- The request names the current image. -/
theorem asked_current (record : HostRecordType) (summary : BootMetadataSummary) : ¬ (expectedIdentity
    (recordFrame record (askedIdentity none (hostSummary summary)))).differs summary := by
  have sendable : Sendable (askedIdentity none (hostSummary summary)) :=
    sendable_asked (fun _ none => by cases none) _
  have entry := recordFrame_entry record sendable
  have size := recordFrame_size record sendable
  have crc := recordFrame_crc record (askedIdentity none (hostSummary summary))
  rintro (differs | differs | differs)
  · exact differs (UInt32.toNat_inj.1 entry)
  · exact differs (UInt32.toNat_inj.1 size)
  · exact differs crc

/-- The record that the service appends for the host after an image. -/
def followUpFields (record : HostRecordType) (summary : BootMetadataSummary) : BootMetadataRecord :=
  summaryRecord (UInt16.ofNat record.code) (summary.latestSequence + 1) summary
    (if record = .bootAttempt then summary.bootAttemptCount + 1 else summary.bootAttemptCount)

/-- What the host asks for after an image, the service appends when its journal has a free slot. -/
theorem followUp_foreseen {σ : Type} {s : FlashService σ} (consistent : Consistent summary)
    (follows : record ≠ .imageValid) (asks : appendRefusal record (hostSummary summary) = none) :
    appendVerdict (recordFrame record (askedIdentity none (hostSummary summary))) summary s =
      .appendTo summary (sealRecord (followUpFields record summary)) := by
  have checked := identityRequestValid_recordFrame record s
    (show (askedIdentity none (hostSummary summary)).appEnd = 0 from rfl)
  have kind := recordFrame_kind record (askedIdentity none (hostSummary summary))
  have current := asked_current record summary
  have length := recordFrame_payload record (askedIdentity none (hostSummary summary))
  generalize recordFrame record (askedIdentity none (hostSummary summary)) = request at *
  cases record with
  | imageValid => exact absurd rfl follows
  | bootAttempt =>
    obtain ⟨usable, confirmed, left⟩ := (attempt_foreseen consistent).1 asks
    rw [appendVerdict, if_pos ⟨length, kind⟩, Verdict.after, if_neg (not_not_intro checked),
      attemptVerdict, if_neg usable, if_neg (not_not_intro confirmed), if_neg left, if_neg current]
    rfl
  | appConfirmed =>
    obtain ⟨usable, attempted, confirmed⟩ := (confirm_foreseen consistent).1 asks
    have other : ¬ (request.payloadWords = 16 ∧ request.word 0 = recordBootAttempt) :=
      fun h => absurd (kind.symm.trans h.2) (by decide)
    rw [appendVerdict, if_neg other, if_pos ⟨length, kind⟩, Verdict.after,
      if_neg (not_not_intro checked), confirmVerdict, if_neg usable, if_neg current, if_neg attempted,
      if_neg (not_not_intro confirmed)]
    rfl

end

/-! ## The append -/

/-- The appends that the backend admits: the image of a verify, or a record after an image. -/
inductive Asks (s : FlashService FlashArray) : HostRecordType → Option ImageIdentity → Prop
  | imageValid {identity : ImageIdentity} (recordable : Recordable identity)
      (verified : s.runtime.verifySucceeded ≠ 0) : Asks s .imageValid (some identity)
  | bootAttempt : Asks s .bootAttempt none
  | appConfirmed : Asks s .appConfirmed none

/-- The record that is asked for. -/
def askedFields (s : FlashService FlashArray) (record : HostRecordType) (image : Option ImageIdentity) :
    BootMetadataRecord :=
  match record, image with
  | .imageValid, some identity => recordedImage identity s
  | record, _ => followUpFields record (scanJournal FlashArray.port s)

theorem consistent_journal (s : FlashService FlashArray) : Consistent (scanJournal FlashArray.port s) := by
  rw [scanJournal_array]
  exact consistent_scan _

/-- The host asks for an image only in an empty journal. -/
theorem image_foreseen {summary : BootMetadataSummary}
    (foreseen : appendRefusal .imageValid (hostSummary summary) = none) :
    summary.state ≠ .duplicateSequence := by
  intro duplicate
  have invalid : metadataState (hostSummary summary) = .invalid := by
    rw [metadataState, hostSummary, duplicate]
    simp [stateWord]
  unfold appendRefusal at foreseen
  rw [invalid] at foreseen
  cases foreseen

section
variable {s : FlashService FlashArray} {record : HostRecordType} {image : Option ImageIdentity}
  (asks : Asks s record image)
include asks

theorem Asks.sendable : ∀ identity ∈ image, Sendable identity := by
  intro identity mem
  cases asks with
  | imageValid recordable =>
    cases mem
    exact recordable.sendable
  | bootAttempt => cases mem
  | appConfirmed => cases mem

variable (inv : JournalInvariant (journal s.world.words))
  (foreseen : appendRefusal record (hostSummary (scanJournal FlashArray.port s)) = none)
include foreseen

/-- The service decides for what the host asks for when its journal has a free slot. -/
theorem Asks.verdict :
    appendVerdict (recordFrame record (askedIdentity image
        (hostSummary (scanJournal FlashArray.port s)))) (scanJournal FlashArray.port s) s =
      .appendTo (scanJournal FlashArray.port s) (sealRecord (askedFields s record image)) := by
  have consistent := consistent_journal s
  cases asks with
  | imageValid recordable verified =>
    exact appendVerdict_image recordable verified (image_foreseen foreseen)
  | bootAttempt => exact followUp_foreseen consistent (by decide) foreseen
  | appConfirmed => exact followUp_foreseen consistent (by decide) foreseen

include inv

theorem Asks.trip (m : Memory.Words)
    (filled : Filled s.world.words m (sealRecord (askedFields s record image))) :
    RoundTrip s.world.words m (askedFields s record image) := by
  have scan := scanJournal_array s
  have consistent := consistent_journal s
  have bounded : (scanJournal FlashArray.port s).latestSequence ≠ 0xFFFFFFFF := by
    rw [scan]
    exact latest_bounded inv
  cases asks with
  | imageValid recordable =>
    exact image_trip recordable (image_foreseen foreseen) inv m filled
  | bootAttempt =>
    obtain ⟨usable, -⟩ := (attempt_foreseen consistent).1 foreseen
    exact filled.followUp scan.symm bounded (.inl rfl) fun none => usable (.inl none)
  | appConfirmed =>
    obtain ⟨usable, -⟩ := (confirm_foreseen consistent).1 foreseen
    exact filled.followUp scan.symm bounded (.inr rfl) fun none => usable (.inl none)

end

section
variable {ctx : FlashOperationContext} {s s' : FlashService FlashArray} {record : HostRecordType}
  {image : Option ImageIdentity} {summary : MetadataAppend} (free : Uninterrupted ctx)
  (long : 16 ≤ ctx.maxPayloadWords) (working : Working s.world)
  (initialized : s.runtime.initialized ≠ 0) (inv : JournalInvariant (journal s.world.words))
  (asks : Asks s record image)
include free long working initialized inv asks

/-- An append that completes has found a reason not to write, or has written its record. -/
theorem append_decided
    (completes : Completes (attachedServer FlashArray.port) (appendRecord ctx record image) s summary s') :
    (appendRefusal record (hostSummary (scanJournal FlashArray.port s)) = some summary ∧ s' = s) ∨
      (appendRefusal record (hostSummary (scanJournal FlashArray.port s)) = none ∧
        summary = ⟨true, false, none⟩ ∧ Recorded s s' (askedFields s record image) ∧
        JournalMove s (journal s'.world.words)) := by
  rw [appendRecord_completes free long asks.sendable] at completes
  cases foreseen : appendRefusal record (hostSummary (scanJournal FlashArray.port s)) with
  | some refusal =>
    rw [foreseen] at completes
    obtain ⟨rfl, same⟩ := completes
    exact .inl ⟨rfl, same⟩
  | none =>
    rw [foreseen] at completes
    obtain ⟨accepted, rfl, rfl⟩ := completes
    have verdict := asks.verdict foreseen
    by_cases full : (scanJournal FlashArray.port s).nextRecordIndex = invalidIndex
    · rw [Verdict.appendTo, if_pos full, scanJournal_array s] at verdict
      exact absurd accepted (append_refused working initialized inv (by decide) verdict)
    · rw [Verdict.appendTo, if_neg full] at verdict
      have trip := asks.trip inv foreseen
      generalize askedFields s record image = fields at verdict trip ⊢
      exact .inr ⟨rfl, rfl, (append_accepted working initialized inv verdict trip).2,
        command_move (recordFrame record _) 0 .clear⟩

/-- It completes unless there is something to write and no slot for it. -/
theorem append_completes_iff :
    (∃ summary s', Completes (attachedServer FlashArray.port) (appendRecord ctx record image) s
        summary s') ↔
      (appendRefusal record (hostSummary (scanJournal FlashArray.port s)) = none →
        (scanJournal FlashArray.port s).nextRecordIndex ≠ invalidIndex) := by
  simp only [appendRecord_completes free long asks.sendable]
  cases foreseen : appendRefusal record (hostSummary (scanJournal FlashArray.port s)) with
  | some refusal => simp
  | none =>
    have verdict := asks.verdict foreseen
    have trip := asks.trip inv foreseen
    generalize askedFields s record image = fields at verdict trip
    constructor
    · rintro ⟨_, _, accepted, -⟩ - full
      rw [Verdict.appendTo, if_pos full, scanJournal_array s] at verdict
      exact append_refused working initialized inv (by decide) verdict accepted
    · intro room
      rw [Verdict.appendTo, if_neg (room rfl)] at verdict
      exact ⟨_, _, (append_accepted working initialized inv verdict trip).1, rfl, rfl⟩

end

/-! ## The readback -/

/-- What the scan of the device's journal says of its image. -/
structure DeviceSummary (summary : BootMetadataSummary) : Prop extends Consistent summary where
  entryPoint : summary.metadataValid ≠ 0 → summary.entryPoint ≠ 0
  imageSizeWords : summary.metadataValid ≠ 0 → summary.imageSizeWords ≠ 0
  targetDeviceId : summary.metadataValid ≠ 0 → summary.targetDeviceId = BootDevice.f28377d
  targetCpuId : summary.metadataValid ≠ 0 → summary.targetCpuId = BootDevice.cpu1

theorem deviceSummary_scan {load : Nat → RecordWords} (device : DeviceJournal load) :
    DeviceSummary (scanLoadedRecords load 16) := by
  refine ⟨consistent_scan load, ?_, ?_, ?_, ?_⟩ <;> intro valid <;>
    obtain ⟨image, selected, summary⟩ := scan_selected valid <;>
    have own := device.current image selected <;> rw [summary]
  · exact own.entryPoint
  · exact own.imageSizeWords
  · exact own.targetDeviceId
  · exact own.targetCpuId

theorem metadataState_valid {raw : MetadataSummary} :
    metadataState raw = .valid ↔ raw.metadataValid ≠ 0 ∧ raw.state = MetadataScanState.valid := by
  unfold metadataState MetadataScanState.valid
  by_cases valid : raw.metadataValid = 0
  · simp only [valid, true_and, ne_eq, not_true_eq_false, and_false, if_false, false_and, iff_false]
    split <;> simp
  · by_cases one : raw.state = 1
    · simp [valid, one]
    · simp [valid, one]

/-- The snapshot of what the device of the client says. -/
structure Snapshot (summary : BootMetadataSummary) (snapshot : MetadataStatusSnapshot) : Prop where
  metadataValid : snapshot.metadataValid = true ↔ metadataState (hostSummary summary) = .valid
  imageValid : snapshot.imageValid = true ↔
    metadataState (hostSummary summary) = .valid ∧ summary.imageCrc32 ≠ 0
  appConfirmed : snapshot.appConfirmed = true ↔
    metadataState (hostSummary summary) = .valid ∧ summary.imageCrc32 ≠ 0 ∧ summary.appConfirmed ≠ 0

/-- The GUI reads the summary of the device as the summary of an image of its own, unless the CRC of
the image is zero. -/
theorem snapshot_of {summary : BootMetadataSummary} {snapshot : MetadataStatusSnapshot}
    {info : DeviceInfo} {map : Option TargetMemoryMap} (device : DeviceSummary summary)
    (deviceId : info.deviceId = BootDevice.f28377d) (cpuId : info.cpuId = BootDevice.cpu1)
    (derived : metadataSnapshot (some info) map (hostSummary summary) = some snapshot) :
    Snapshot summary snapshot := by
  have same := Option.some.inj derived
  by_cases valid : metadataState (hostSummary summary) = .valid
  · obtain ⟨some, state⟩ := metadataState_valid.1 valid
    have entry : (hostSummary summary).entryPoint ≠ 0 := device.entryPoint some
    have size : (hostSummary summary).imageSizeWords ≠ 0 := device.imageSizeWords some
    have target : (hostSummary summary).targetDeviceId = info.deviceId :=
      (device.targetDeviceId some).trans deviceId.symm
    have cpu : (hostSummary summary).targetCpuId = info.cpuId :=
      (device.targetCpuId some).trans cpuId.symm
    have crc : (hostSummary summary).imageCrc32 = summary.imageCrc32 := rfl
    have confirmed : (hostSummary summary).appConfirmed = summary.appConfirmed := rfl
    rw [← same]
    constructor <;> simp [valid, some, state, entry, size, target, cpu, crc, confirmed]
  · have other : ((hostSummary summary).metadataValid != 0 &&
        (hostSummary summary).state == MetadataScanState.valid) = false := by
      rw [Bool.eq_false_iff]
      intro both
      rw [Bool.and_eq_true, bne_iff_ne, beq_iff_eq] at both
      exact valid (metadataState_valid.2 both)
    rw [← same]
    constructor <;> simp [valid, other]

section
variable {summary : BootMetadataSummary} {snapshot : MetadataStatusSnapshot}
  (snapped : Snapshot summary snapshot)
include snapped

theorem imageMatches_iff {source : ImageIdentity} :
    imageMatches (hostSummary summary) source snapshot = true ↔
      metadataState (hostSummary summary) = .valid ∧ summary.imageCrc32 ≠ 0 ∧
        summary.entryPoint.toNat = source.entryPoint ∧
        summary.imageSizeWords.toNat = source.imageSizeWords ∧
        summary.imageCrc32 = source.imageCrc32 := by
  simp only [imageMatches, hostSummary, Bool.and_eq_true, beq_iff_eq, snapped.metadataValid,
    snapped.imageValid]
  constructor
  · rintro ⟨⟨⟨⟨valid, -, crc⟩, entry⟩, size⟩, same⟩
    exact ⟨valid, crc, entry, size, same⟩
  · rintro ⟨valid, crc, entry, size, same⟩
    exact ⟨⟨⟨⟨valid, valid, crc⟩, entry⟩, size⟩, same⟩

omit snapped in
theorem min_spent {count limit : UInt16} (spent : count ≥ limit ∨ count ≥ 3) : count ≥ min limit 3 := by
  show (if limit ≤ 3 then limit else 3) ≤ count
  simp only [ge_iff_le, UInt16.le_iff_toNat_le] at spent ⊢
  split <;> omega

/-- The reasons that the readback finds without an image. -/
def Imageless (primary : MetadataAppend) : Prop :=
  primary.reason = some "METADATA_INVALID" ∨ primary.reason = some "IMAGE_VALID_REQUIRED"

/-- What the host has refused to write, the readback finds, with a zero CRC of the image for the
one exception. -/
theorem readback_refused {record : HostRecordType} {image : Option ImageIdentity}
    {primary : MetadataAppend} (consistent : Consistent summary)
    (own : record ≠ .imageValid → image = none)
    (refuses : appendRefusal record (hostSummary summary) = some primary) :
    metadataReadbackMatches record primary (hostSummary summary) image snapshot
        (hostSummary summary) = true ↔
      Imageless primary ∨ summary.imageCrc32 ≠ 0 := by
  unfold appendRefusal at refuses
  have matched : metadataState (hostSummary summary) = .valid →
      (imageMatches (hostSummary summary) (readbackSource none (hostSummary summary)) snapshot = true ↔
        summary.imageCrc32 ≠ 0) := by
    intro valid
    rw [imageMatches_iff snapped]
    exact ⟨fun h => h.2.1, fun crc => ⟨valid, crc, rfl, rfl, rfl⟩⟩
  have found := snapped.metadataValid
  have pictured := snapped.imageValid
  have confirms := snapped.appConfirmed
  cases state : metadataState (hostSummary summary) with
  | empty =>
    simp only [state, reduceCtorEq, false_and, iff_false, Bool.not_eq_true] at found pictured
    cases record with
    | imageValid => simp [state] at refuses
    | bootAttempt | appConfirmed =>
      simp only [state, Option.some.injEq] at refuses
      simp [← refuses, metadataReadbackMatches, Imageless, pictured]
  | invalid =>
    simp only [state, reduceCtorEq, iff_false, Bool.not_eq_true] at found
    cases record <;> simp only [state, Option.some.injEq] at refuses <;>
      simp [← refuses, metadataReadbackMatches, Imageless, found]
  | valid =>
    have matched := matched state
    simp only [state, true_and, iff_true] at found pictured confirms
    cases record with
    | imageValid =>
      simp only [state, Option.some.injEq] at refuses
      simp [← refuses, metadataReadbackMatches, Imageless, found, pictured]
    | bootAttempt =>
      rw [own (by decide)]
      simp only [state] at refuses
      split at refuses
      · rename_i outside
        exact absurd outside (consistent.limit (hostState_valid.1 state).2)
      split at refuses
      · rename_i confirmed
        simp only [Option.some.injEq] at refuses
        have confirmed : summary.appConfirmed ≠ 0 := confirmed
        simp [← refuses, metadataReadbackMatches, Imageless, matched, confirms, confirmed]
      split at refuses
      · rename_i spent
        have spent := min_spent spent
        simp only [Option.some.injEq] at refuses
        simp only [← refuses, metadataReadbackMatches, Imageless, spent]
        simp [matched]
      · cases refuses
    | appConfirmed =>
      rw [own (by decide)]
      simp only [state] at refuses
      split at refuses
      · rename_i confirmed
        simp only [Option.some.injEq] at refuses
        have confirmed : summary.appConfirmed ≠ 0 := confirmed
        simp [← refuses, metadataReadbackMatches, Imageless, matched, confirms, confirmed]
      · split at refuses
        · rename_i none
          simp only [Option.some.injEq] at refuses
          simp [← refuses, metadataReadbackMatches, Imageless, matched, none]
        · cases refuses

end

theorem updated_attempt (before summary : BootMetadataSummary) (next : UInt16) :
    updatedSummary before (followUpFields .bootAttempt summary) next = attemptAppended before next := by
  have other : ¬ (followUpFields .bootAttempt summary).recordType = recordImageValid :=
    followUp_ne_image.1
  rw [updatedSummary, if_neg other]
  exact if_pos rfl

theorem updated_confirmed (before summary : BootMetadataSummary) (next : UInt16) :
    updatedSummary before (followUpFields .appConfirmed summary) next = confirmAppended before next := by
  have other : ¬ (followUpFields .appConfirmed summary).recordType = recordImageValid :=
    followUp_ne_image.2
  have kind : ¬ recordAppConfirmed = recordBootAttempt := by decide
  rw [updatedSummary, if_neg other]
  exact if_neg kind

/-- What the host has written, the readback finds, with a zero CRC of the image for the one
exception. -/
theorem readback_written {s : FlashService FlashArray} {record : HostRecordType}
    {image : Option ImageIdentity} {after : BootMetadataSummary} {next : UInt16}
    {snapshot : MetadataStatusSnapshot} (asks : Asks s record image)
    (foreseen : appendRefusal record (hostSummary (scanJournal FlashArray.port s)) = none)
    (rescan : after = updatedSummary (scanJournal FlashArray.port s) (askedFields s record image) next)
    (consistent : Consistent after) (snapped : Snapshot after snapshot) :
    metadataReadbackMatches record ⟨true, false, none⟩ (hostSummary after) image snapshot
        (hostSummary (scanJournal FlashArray.port s)) = true ↔ after.imageCrc32 ≠ 0 := by
  have before := consistent_journal s
  have valid (some : after.metadataValid ≠ 0) : metadataState (hostSummary after) = .valid :=
    hostState_valid.2 ⟨consistent.state some, some⟩
  generalize scanJournal FlashArray.port s = summary at *
  cases asks with
  | imageValid recordable =>
    rename_i identity _
    obtain ⟨named, -⟩ := @image_named identity recordable s summary next
    have same : after = updatedSummary summary (recordedImage identity s) next := rescan
    rw [← same, compareImageIdentityWithMetadata_same] at named
    obtain ⟨some, entry, size, crc⟩ := named
    simp only [metadataReadbackMatches, if_true]
    rw [imageMatches_iff snapped]
    exact ⟨fun h => h.2.1, fun nonzero => ⟨valid some, nonzero, entry.symm, size.symm, crc.symm⟩⟩
  | bootAttempt =>
    obtain ⟨usable, -, left⟩ := (attempt_foreseen before).1 foreseen
    have same : after = attemptAppended summary next := rescan.trans (updated_attempt ..)
    have some : after.metadataValid ≠ 0 := by
      rw [same]
      exact fun none => usable (.inl none)
    have counted : after.bootAttemptCount.toNat = summary.bootAttemptCount.toNat + 1 := by
      have count : after.bootAttemptCount = summary.bootAttemptCount + 1 := by
        rw [same]
        rfl
      have below := UInt16.lt_iff_toNat_lt.1 (UInt16.not_le.1 left)
      have limit := summary.bootAttemptLimit.toNat_lt
      rw [count, UInt16.toNat_add, UInt16.toNat_one]
      omega
    have matched : imageMatches (hostSummary after) (readbackSource none (hostSummary summary)) snapshot =
        true ↔ after.imageCrc32 ≠ 0 := by
      rw [imageMatches_iff snapped]
      refine ⟨fun h => h.2.1, fun nonzero => ⟨valid some, nonzero, ?_, ?_, ?_⟩⟩ <;> rw [same] <;> rfl
    have count : (hostSummary after).bootAttemptCount.toNat =
        (hostSummary summary).bootAttemptCount.toNat + 1 := counted
    simp [metadataReadbackMatches, matched, count]
  | appConfirmed =>
    obtain ⟨usable, -⟩ := (confirm_foreseen before).1 foreseen
    have same : after = confirmAppended summary next := rescan.trans (updated_confirmed ..)
    have some : after.metadataValid ≠ 0 := by
      rw [same]
      exact fun none => usable (.inl none)
    have matched : imageMatches (hostSummary after) (readbackSource none (hostSummary summary)) snapshot =
        true ↔ after.imageCrc32 ≠ 0 := by
      rw [imageMatches_iff snapped]
      refine ⟨fun h => h.2.1, fun nonzero => ⟨valid some, nonzero, ?_, ?_, ?_⟩⟩ <;> rw [same] <;> rfl
    have confirmed : (hostSummary after).appConfirmed = 1 := by
      rw [same]
      rfl
    simp [metadataReadbackMatches, matched, confirmed]

/-! ## The report -/

/-- The metadata operations of the host, with what they ask for. -/
inductive AppendOperation (ctx : FlashOperationContext) :
    HostRecordType → Option ImageIdentity → HostDialogue (OperationResult MetadataAppend) → Prop
  | imageValid (image : PreparedFlashImage) :
    AppendOperation ctx .imageValid (some image.identity) (appendImageValid ctx image)
  | bootAttempt : AppendOperation ctx .bootAttempt none (appendBootAttempt ctx)
  | appConfirmed : AppendOperation ctx .appConfirmed none (appendAppConfirmed ctx)

theorem AppendOperation.eq {ctx : FlashOperationContext} {record : HostRecordType}
    {image : Option ImageIdentity} {operation : HostDialogue (OperationResult MetadataAppend)}
    (asks : AppendOperation ctx record image operation) :
    operation = withService ctx (cancelledFirst "NONE" none_mem) (.ok ()) none
      (appendRecord ctx record image) := by
  cases asks <;> rfl

/-- What is reported of an append is what has become of the service and its journal. -/
structure Reported (info : DeviceInfo) (record : HostRecordType) (image : Option ImageIdentity)
    (s s' : FlashService FlashArray) (summary : MetadataAppend) : Prop where
  written : summary.written = true → Recorded s s' (askedFields s record image)
  unwritten : summary.written = false → s' = s
  needless : summary.written = false → record ≠ .imageValid →
    ∀ request record', request.word 0 = UInt16.ofNat record.code →
      appendVerdict request (scanJournal FlashArray.port s) s ≠ .append record'
  readback : ∀ map snapshot,
    metadataSnapshot (some info) map (hostSummary (scanJournal FlashArray.port s')) = some snapshot →
      (metadataReadbackMatches record summary (hostSummary (scanJournal FlashArray.port s')) image
          snapshot (hostSummary (scanJournal FlashArray.port s)) = true ↔
        Imageless summary ∨ (scanJournal FlashArray.port s').imageCrc32 ≠ 0)

theorem deviceSummary_journal {s : FlashService FlashArray} (device : DeviceJournal (journal s.world.words)) :
    DeviceSummary (scanJournal FlashArray.port s) := by
  rw [scanJournal_array]
  exact deviceSummary_scan device

theorem appendRefusal_unwritten {record : HostRecordType} {current : MetadataSummary}
    {summary : MetadataAppend} (refuses : appendRefusal record current = some summary) :
    summary.written = false := by
  unfold appendRefusal at refuses
  split at refuses <;> grind

section
variable {ctx : FlashOperationContext} {s s' : FlashService FlashArray} {record : HostRecordType}
  {image : Option ImageIdentity} {summary : MetadataAppend} {info : DeviceInfo}

/-- Every append that completes is reported as it is. -/
theorem append_reports (free : Uninterrupted ctx) (long : 16 ≤ ctx.maxPayloadWords)
    (working : Working s.world) (initialized : s.runtime.initialized ≠ 0) (knows : KnowsDevice s.runtime)
    (device : DeviceJournal (journal s.world.words)) (deviceId : info.deviceId = BootDevice.f28377d)
    (cpuId : info.cpuId = BootDevice.cpu1) (asks : Asks s record image)
    (completes : Completes (attachedServer FlashArray.port) (appendRecord ctx record image) s summary s') :
    Reported info record image s s' summary := by
  have own : record ≠ .imageValid → image = none := by
    intro follows
    cases asks with
    | imageValid => exact absurd rfl follows
    | bootAttempt | appConfirmed => rfl
  rcases append_decided free long working initialized device.invariant asks completes with
    ⟨refuses, rfl⟩ | ⟨foreseen, rfl, recorded, moved⟩
  · have unwritten := appendRefusal_unwritten refuses
    have consistent := consistent_journal s'
    refine ⟨fun written => ?_, fun _ => rfl, fun _ follows request record' kind appends => ?_, ?_⟩
    · rw [unwritten] at written
      cases written
    · rw [followUp_asked consistent follows kind appends] at refuses
      cases refuses
    · intro map snapshot derived
      exact readback_refused (snapshot_of (deviceSummary_journal device) deviceId cpuId derived)
        consistent own refuses
  · have device' := deviceSummary_journal (device.move knows moved)
    refine ⟨fun _ => recorded, ?_, ?_, ?_⟩
    · intro unwritten
      cases unwritten
    · intro unwritten
      cases unwritten
    · intro map snapshot derived
      have rescan := (scanJournal_array s').trans recorded.roundTrip.rescan
      rw [← scanJournal_array s] at rescan
      rw [readback_written asks foreseen rescan device'.toConsistent
        (snapshot_of device' deviceId cpuId derived)]
      simp [Imageless]

variable {features : BootFeatures} {c : Core (FlashService FlashArray)}
  {operation : HostDialogue (OperationResult MetadataAppend)}

end

/-- The attached device over an erased Flash, after a verify. -/
def verifiedCore : Core (FlashService FlashArray) where
  algorithm := FlashUpgrade.attachedCore.algorithm
  world := ⟨fun _ => erasedWord, verifiedService⟩

end BootUpgrade.RecordReport

import BootUpgrade.System.FlashTransfer
import BootUpgrade.System.JournalMoves
import BootUpgrade.System.Rescan

/-!
# A metadata append of the host

The host reads the summary of the journal, decides whether there is something to
write, and asks for the record. On a journal that the service keeps and a Flash that
works, its decision is the one of the service: what it asks for is refused for want
of a free slot only, and what it does not ask for would not have been written.
-/

namespace BootUpgrade.RecordAppend

open FlashArray BootMetadata HostImages HostWorkflow HostClient HostOperations TransferKind Dialogue
  RamLoading BootFlashService AttachedService

/-! ## The service -/

section
variable {s s₁ s' : FlashService FlashArray} {summary : BootMetadataSummary}

theorem latest_bounded {load : Nat → RecordWords} (inv : JournalInvariant load) :
    (scanLoadedRecords load 16).latestSequence ≠ 0xFFFFFFFF := by
  obtain ⟨newer, -⟩ := inv.next_sequence
  intro last
  have latest := scan_latestSequence load
  cases newest : Selection.newest seqKey (validRecords load 16) with
  | none =>
    rw [newest, last] at latest
    exact absurd latest (by decide)
  | some b =>
    obtain ⟨mem, -⟩ := Selection.newest_spec seqKey newest
    have below := newer b mem
    rw [last] at below
    exact UInt32.not_lt_zero below

/-- A record goes into the journal alone. -/
theorem recordCall_outside (prepared : Prepared FlashArray.port s s₁)
    (scan : summary = scanLoadedRecords (journal s.world.words) 16) (ready : SlotReady summary)
    (record : RecordWords) {a : Nat} (outside : a < 0x082000 ∨ 0x082400 ≤ a) :
    (recordCall FlashArray.port summary record s₁).world.words a = s.world.words a := by
  obtain ⟨slot, hs, address, -⟩ := nextRecordAddress_spec (scan ▸ ready)
  rw [← scan] at address
  obtain ⟨done, le, words, -⟩ := programMetadataRecord_words
    (recordInfo (nextRecordAddress summary)) s₁.world (nextRecordAddress summary) record.toList 64
  have programmed : (recordCall FlashArray.port summary record s₁).world.words = _ := words
  have short : (record.toList.take (8 * done)).length ≤ 64 := by
    rw [List.length_take, Vector.length_toList]
    omega
  unfold slotAddress at address
  rw [programmed, prepared.kept]
  exact programWords_outside (by omega)

theorem append_outside {asked : Option BootProtocolFrame} {status : UInt16}
    (step : AppendStep FlashArray.port asked s status s') {a : Nat}
    (outside : a < 0x082000 ∨ 0x082400 ≤ a) : s'.world.words a = s.world.words a := by
  cases step with
  | untouched => rfl
  | unprepared _ prepared => rw [prepared.kept]
  | @written status s₁ record appends slot prepared =>
    have kept := recordCall_outside prepared (scanJournal_array s) slot record outside
    generalize recordCall FlashArray.port (scanJournal FlashArray.port s) _ _ = r at kept ⊢
    exact kept
  | @imageWritten s₁ record appends slot prepared programmed =>
    have kept := recordCall_outside prepared (scanJournal_array s) slot record outside
    generalize recordCall FlashArray.port (scanJournal FlashArray.port s) _ _ = r at kept ⊢
    exact kept

/-- The service with one record more in its journal. -/
structure Recorded (s s' : FlashService FlashArray) (fields : BootMetadataRecord) : Prop where
  working : Working s'.world
  roundTrip : RoundTrip s.world.words s'.world.words fields
  outside : ∀ a, a < 0x082000 ∨ 0x082400 ≤ a → s'.world.words a = s.world.words a
  runtime : ∃ flag, s'.runtime = { s.runtime with
    flashInitialized := flag
    verifySucceeded :=
      if fields.recordType = recordImageValid then 0 else s.runtime.verifySucceeded }

variable {request : BootProtocolFrame} {fields : BootMetadataRecord} (working : Working s.world)
  (initialized : s.runtime.initialized ≠ 0) (inv : JournalInvariant (journal s.world.words))
  (verdict : appendVerdict request (scanLoadedRecords (journal s.world.words) 16) s =
    .append (sealRecord fields))
  (trip : ∀ after, Filled s.world.words after (sealRecord fields) →
    RoundTrip s.world.words after fields)
include working initialized inv verdict trip

/-- A record that the service appends is in its journal. -/
theorem handleMetadataAppendRecord_recorded :
    let o := handleMetadataAppendRecord FlashArray.port request s
    o.status = BootStatus.ok ∧ Recorded s o.service fields := by
  intro o
  have settles : Settles s (handleMetadataAppendRecord FlashArray.port request s) _ :=
    handleMetadataAppendRecord_settles working inv initialized
  rw [verdict] at settles
  obtain ⟨written, wrote, answer, service⟩ := settles.appended
  have outside : ∀ a, a < 0x082000 ∨ 0x082400 ≤ a → o.service.world.words a = s.world.words a :=
    fun a h => append_outside handleMetadataAppendRecord_step h
  obtain ⟨flag, runtime⟩ := wrote.runtime
  rw [record_kind] at service
  refine ⟨answer, ?_, ?_, outside, flag, ?_⟩
  · show Working (handleMetadataAppendRecord FlashArray.port request s).service.world
    rw [service]
    split <;> exact wrote.working
  · show RoundTrip s.world.words
      (handleMetadataAppendRecord FlashArray.port request s).service.world.words fields
    rw [service]
    apply trip
    split <;> exact wrote.slot
  · show (handleMetadataAppendRecord FlashArray.port request s).service.runtime = _
    rw [service]
    split
    · show (setVerifySucceeded written 0).runtime = _
      rw [setVerifySucceeded, runtime]
    · exact runtime

end

/-! ## The request -/

def recordPayload (record : HostRecordType) (identity : ImageIdentity) : List Nat :=
  [record.code, 1] ++ lowHigh identity.entryPoint ++ lowHigh identity.imageSizeWords ++
    lowHigh identity.imageCrc32.toNat ++ [0, 0, 0, 0, 0] ++ lowHigh identity.appEnd ++ [0]

def recordRequest (record : HostRecordType) (identity : ImageIdentity) : HostRequest :=
  hostRequest BootCmd.metadataAppendRecord (recordPayload record identity)

def recordFrame (record : HostRecordType) (identity : ImageIdentity) : BootProtocolFrame :=
  requestFrame (recordRequest record identity)

/-- The values of the identity fit the request. -/
structure Sendable (identity : ImageIdentity) : Prop where
  entryPoint : identity.entryPoint ≤ 0xFFFFFFFF
  imageSizeWords : identity.imageSizeWords ≤ 0xFFFFFFFF
  appEnd : identity.appEnd ≤ 0xFFFFFFFF

section
variable {record : HostRecordType} {identity : ImageIdentity}

theorem recordRequest_fits : (recordRequest record identity).payload.length ≤ 256 :=
  show 16 ≤ 256 by decide

variable (record identity) in
theorem recordFrame_payload : (recordFrame record identity).payloadWords = 16 := by
  rw [recordFrame, payloadWords_requestFrame recordRequest_fits]
  rfl

variable (record identity) in
theorem recordFrame_word (index : Nat) : (recordFrame record identity).word index =
    (((recordPayload record identity).map UInt16.ofNat).getD index 0) :=
  word_requestFrame recordRequest_fits index

variable (sendable : Sendable identity)
include sendable

variable (record) in
theorem recordFrame_entry : ((recordFrame record identity).u32 2).toNat = identity.entryPoint := by
  rw [recordFrame, u32_requestFrame recordRequest_fits]
  exact joinU32_lowHigh sendable.entryPoint

variable (record) in
theorem recordFrame_size : ((recordFrame record identity).u32 4).toNat = identity.imageSizeWords := by
  rw [recordFrame, u32_requestFrame recordRequest_fits]
  exact joinU32_lowHigh sendable.imageSizeWords

variable (record identity) in
omit sendable in
theorem recordFrame_crc : (recordFrame record identity).u32 6 = identity.imageCrc32 := by
  have small := identity.imageCrc32.toNat_lt
  rw [← UInt32.toNat_inj, recordFrame, u32_requestFrame recordRequest_fits]
  exact joinU32_lowHigh (by omega)

variable (record) in
theorem recordFrame_appEnd : ((recordFrame record identity).u32 13).toNat = identity.appEnd := by
  rw [recordFrame, u32_requestFrame recordRequest_fits]
  exact joinU32_lowHigh sendable.appEnd

theorem recordPayload_encodable {limit : Nat} (long : 16 ≤ limit) :
    Encodable limit (recordPayload record identity) := by
  have small := identity.imageCrc32.toNat_lt
  refine ⟨long, ?_⟩
  intro word mem
  simp only [recordPayload, List.mem_append, List.mem_cons, List.not_mem_nil, or_false] at mem
  rcases mem with (((((((rfl | rfl) | mem) | mem) | mem) | mem) | mem) | rfl)
  · cases record <;> decide
  · decide
  · exact lowHigh_le sendable.entryPoint word mem
  · exact lowHigh_le sendable.imageSizeWords word mem
  · exact lowHigh_le (by omega) word mem
  · rcases mem with rfl | rfl | rfl | rfl | rfl <;> decide
  · exact lowHigh_le sendable.appEnd word mem
  · decide

variable {ctx : FlashOperationContext} (long : 16 ≤ ctx.maxPayloadWords)
include long

theorem metadataAppendRecord_succeeds {S : Type} {server : HostServer S} {s : S} {post : Unit → S → Prop} :
    Succeeds server (metadataAppendRecord ctx record identity.entryPoint identity.imageSizeWords
        identity.imageCrc32.toNat identity.appEnd) s post ↔
      Accepts server s (recordRequest record identity) ∧
        post () (server s (recordRequest record identity)).2 := by
  have small := identity.imageCrc32.toNat_lt
  have payload : (do return [record.code, 1] ++ (← splitU32 identity.entryPoint) ++
      (← splitU32 identity.imageSizeWords) ++ (← splitU32 identity.imageCrc32.toNat) ++
      [0, 0, 0, 0, 0] ++ (← splitU32 identity.appEnd) ++ [0] : Except HostError (List Nat)) =
        .ok (recordPayload record identity) := by
    rw [splitU32_ok sendable.entryPoint, splitU32_ok sendable.imageSizeWords,
      splitU32_ok sendable.appEnd, splitU32_ok (by omega)]
    rfl
  unfold metadataAppendRecord
  rw [payload]
  exact succeeds_transact_unit (recordPayload_encodable sendable long)

omit sendable long in
/-- The host reads what the service finds in its journal. -/
theorem readMetadataSummary_succeeds {σ : Type} {port : FlashPort σ} {s : FlashService σ}
    {post : MetadataSummary → FlashService σ → Prop} :
    Succeeds (attachedServer port) (readMetadataSummary ctx) s post ↔
      post (hostSummary (scanJournal port s)) s := by
  have encodable : Encodable ctx.maxPayloadWords [] := ⟨Nat.zero_le _, fun _ none => by cases none⟩
  have fits : (hostRequest BootCmd.getMetadataSummary []).payload.length ≤ 256 := Nat.zero_le _
  have answer : attachedServer port s (hostRequest BootCmd.getMetadataSummary []) =
      (.ok ⟨BootStatus.ok, summaryToPayload (scanJournal port s)⟩, s) := by
    rw [attachedServer, if_pos ⟨fits, rfl⟩, if_neg]
    rw [payloadWords_requestFrame fits]
    exact not_not_intro rfl
  have read := fromWords_summaryToPayload (scanJournal port s)
  unfold readMetadataSummary
  rw [succeeds_bind_iff, succeeds_transact encodable, answer]
  generalize summaryToPayload (scanJournal port s) = words at read
  generalize hostSummary (scanJournal port s) = summary at read
  constructor
  · rintro ⟨a, same, -, found⟩
    cases same
    rw [succeeds_lift_iff, read] at found
    obtain ⟨_, same, h⟩ := found
    cases same
    exact h
  · intro h
    exact ⟨_, rfl, rfl, succeeds_lift read h⟩

end

/-! ## The operation -/

/-- The identity that the host asks a record for: the image, or the one it has read. -/
def askedIdentity (image : Option ImageIdentity) (current : MetadataSummary) : ImageIdentity :=
  image.getD ⟨current.entryPoint.toNat, current.imageSizeWords.toNat, current.imageCrc32, 0⟩

section
variable {ctx : FlashOperationContext} {σ : Type} {port : FlashPort σ} {s s' : FlashService σ}
  {record : HostRecordType} {image : Option ImageIdentity} {summary : MetadataAppend}

theorem sendable_asked (sendable : ∀ identity ∈ image, Sendable identity) (current : MetadataSummary) :
    Sendable (askedIdentity image current) := by
  have entry := current.entryPoint.toNat_lt
  have size := current.imageSizeWords.toNat_lt
  cases image with
  | none => exact ⟨Nat.le_of_lt_succ entry, Nat.le_of_lt_succ size, Nat.zero_le _⟩
  | some identity => exact sendable identity rfl

variable (free : Uninterrupted ctx) (long : 16 ≤ ctx.maxPayloadWords)
  (sendable : ∀ identity ∈ image, Sendable identity)
include free long sendable

/-- The host finds nothing to write, or it asks for the record. -/
theorem appendRecord_completes :
    Completes (attachedServer port) (appendRecord ctx record image) s summary s' ↔
      match appendRefusal record (hostSummary (scanJournal port s)) with
      | some refusal => summary = refusal ∧ s' = s
      | none =>
        let request := recordRequest record (askedIdentity image (hostSummary (scanJournal port s)))
        Accepts (attachedServer port) s request ∧ summary = ⟨true, false, none⟩ ∧
          s' = (attachedServer port s request).2 := by
  have written (identity : ImageIdentity) (sendable : Sendable identity) :
      Succeeds (attachedServer port)
          ((metadataAppendRecord ctx record identity.entryPoint identity.imageSizeWords
            identity.imageCrc32.toNat identity.appEnd).bind
              fun _ => done (OperationResult.succeeded (⟨true, false, none⟩ : MetadataAppend))) s
          (fun result u => result = OperationResult.succeeded summary ∧ u = s') ↔
        Accepts (attachedServer port) s (recordRequest record identity) ∧
          summary = ⟨true, false, none⟩ ∧
          s' = (attachedServer port s (recordRequest record identity)).2 := by
    rw [succeeds_bind_iff, metadataAppendRecord_succeeds sendable long, succeeds_done_iff]
    apply and_congr_right
    intro _
    constructor
    · rintro ⟨same, left⟩
      exact ⟨(OperationResult.succeeded.inj same).symm, left.symm⟩
    · rintro ⟨rfl, rfl⟩
      exact ⟨rfl, rfl⟩
  unfold Completes appendRecord
  simp only [free.polls, Bool.false_eq_true, if_false]
  rw [succeeds_bind_iff, readMetadataSummary_succeeds]
  generalize hostSummary (scanJournal port s) = current
  cases refuses : appendRefusal record current with
  | some refusal =>
    rw [succeeds_done_iff]
    constructor
    · rintro ⟨same, rfl⟩
      exact ⟨(OperationResult.succeeded.inj same).symm, rfl⟩
    · rintro ⟨rfl, rfl⟩
      exact ⟨rfl, rfl⟩
  | none =>
    have asks := sendable_asked sendable current
    cases image with
    | none => exact written _ asks
    | some identity => exact written _ asks

end

/-! ## What the service does with it -/

theorem metadataAppendRecord_ne : BootCmd.metadataAppendRecord ≠ BootCmd.getMetadataSummary := by
  decide

section
variable {s : FlashService FlashArray} {record : HostRecordType} {identity : ImageIdentity}
  {fields : BootMetadataRecord} {status : UInt16} (working : Working s.world)
  (initialized : s.runtime.initialized ≠ 0) (inv : JournalInvariant (journal s.world.words))
include working initialized inv

/-- The service takes the record that it decides to append. -/
theorem append_accepted
    (verdict : appendVerdict (recordFrame record identity) (scanLoadedRecords (journal s.world.words) 16)
      s = .append (sealRecord fields))
    (trip : ∀ after, Filled s.world.words after (sealRecord fields) →
      RoundTrip s.world.words after fields) :
    Accepts (attachedServer FlashArray.port) s (recordRequest record identity) ∧
      Recorded s (attachedServer FlashArray.port s (recordRequest record identity)).2 fields := by
  have other : (recordRequest record identity).command ≠ BootCmd.getMetadataSummary :=
    metadataAppendRecord_ne
  obtain ⟨ok, recorded⟩ := handleMetadataAppendRecord_recorded working initialized inv verdict trip
  rw [FlashTransfer.accepts_iff initialized recordRequest_fits other,
    FlashTransfer.attachedServer_after initialized recordRequest_fits other, dispatch_append rfl]
  exact ⟨ok, recorded⟩

theorem append_refused (bad : status ≠ BootStatus.ok)
    (verdict : appendVerdict (recordFrame record identity) (scanLoadedRecords (journal s.world.words) 16)
      s = .refused status) :
    ¬ Accepts (attachedServer FlashArray.port) s (recordRequest record identity) := by
  have other : (recordRequest record identity).command ≠ BootCmd.getMetadataSummary :=
    metadataAppendRecord_ne
  have settles : Settles s (handleMetadataAppendRecord FlashArray.port (recordFrame record identity) s)
      _ := handleMetadataAppendRecord_settles working inv initialized
  rw [verdict] at settles
  have answer : (dispatch FlashArray.port (recordFrame record identity) s).status = status := by
    rw [dispatch_append rfl]
    exact settles.status
  rw [FlashTransfer.accepts_iff initialized recordRequest_fits other]
  exact fun ok => bad (answer.symm.trans ok)

end

/-! ## The record of an image -/

/-- The identity is one that the service records. -/
structure Recordable (identity : ImageIdentity) : Prop where
  entry : 0x082400 ≤ identity.entryPoint ∧ identity.entryPoint < 0x0C0000
  entryUnit : identity.entryPoint % 8 = 0
  size : 0 < identity.imageSizeWords ∧ identity.imageSizeWords ≤ 0xFFFFFFFF
  appEnd : 0x082400 < identity.appEnd ∧ identity.appEnd ≤ 0x0C0000

section
variable {identity : ImageIdentity} (recordable : Recordable identity)
include recordable

theorem Recordable.sendable : Sendable identity := by
  obtain ⟨⟨-, entry⟩, -, ⟨-, size⟩, -, stop⟩ := recordable
  exact ⟨by omega, size, by omega⟩

/-- The request passes every check. -/
theorem imageRequest_recordable : ImageRequest (recordFrame .imageValid identity) := by
  obtain ⟨⟨first, last⟩, unit, ⟨some, -⟩, after, stop⟩ := id recordable
  have start : slotAAppStart.toNat = 0x082400 := rfl
  have ending : slotAAppEnd.toNat = 0x0C0000 := rfl
  have entry := recordFrame_entry .imageValid recordable.sendable
  have size := recordFrame_size .imageValid recordable.sendable
  have appEnd := recordFrame_appEnd .imageValid recordable.sendable
  constructor
  · exact recordFrame_payload .imageValid identity
  · exact recordFrame_word .imageValid identity 0
  · intro none
    rw [none] at size
    exact absurd size (Nat.ne_of_lt some)
  · rw [UInt32.le_iff_toNat_le]
    omega
  · rw [UInt32.lt_iff_toNat_lt]
    omega
  · rw [← UInt32.toNat_inj, UInt32.toNat_mod, entry]
    exact unit
  · rw [UInt32.lt_iff_toNat_lt]
    omega
  · rw [UInt32.le_iff_toNat_le]
    omega

theorem metadataRequestValid_recordable {σ : Type} (s : FlashService σ) :
    (metadataRequestValid (recordFrame .imageValid identity) s).status = BootStatus.ok := by
  obtain ⟨length, kind, size, start, stop, unit, first, last⟩ := imageRequest_recordable recordable
  have slot : (recordFrame .imageValid identity).word 1 = BootSlot.a :=
    recordFrame_word .imageValid identity 1
  have flags : (recordFrame .imageValid identity).word 15 = 0 :=
    recordFrame_word .imageValid identity 15
  have inside : ¬ ((recordFrame .imageValid identity).u32 2 < slotAAppStart ∨
      (recordFrame .imageValid identity).u32 2 ≥ slotAAppEnd ∨
      (recordFrame .imageValid identity).u32 2 % 8 ≠ 0 ∨
      (recordFrame .imageValid identity).u32 13 ≤ slotAAppStart ∨
      (recordFrame .imageValid identity).u32 13 > slotAAppEnd) := by
    simp only [not_or, ge_iff_le, gt_iff_lt, UInt32.not_le, UInt32.not_lt, ne_eq,
      Decidable.not_not]
    exact ⟨start, stop, unit, first, last⟩
  unfold metadataRequestValid
  dsimp only
  rw [if_neg (not_not_intro length), if_neg (not_not_intro kind), if_neg (not_not_intro slot),
    if_neg (not_not_intro flags), if_neg size, if_neg inside]
  rfl

/-- The fields of the record. -/
def recordedImage (identity : ImageIdentity) (s : FlashService FlashArray) : BootMetadataRecord :=
  imageFields (recordFrame .imageValid identity) s.runtime (scanJournal FlashArray.port s)

variable {s : FlashService FlashArray} (gate : s.runtime.verifySucceeded ≠ 0)
  (single : (scanJournal FlashArray.port s).state ≠ .duplicateSequence)
include gate single

/-- The service decides for the record when its journal has a free slot. -/
theorem appendVerdict_image :
    appendVerdict (recordFrame .imageValid identity) (scanJournal FlashArray.port s) s =
      .appendTo (scanJournal FlashArray.port s) (sealRecord (recordedImage identity s)) := by
  have valid := metadataRequestValid_recordable recordable s
  have kind := (imageRequest_recordable recordable).kind
  have other : ∀ code, code ≠ recordImageValid →
      ¬ ((recordFrame .imageValid identity).payloadWords = 16 ∧
        (recordFrame .imageValid identity).word 0 = code) :=
    fun code ne asked => ne (asked.2.symm.trans kind)
  rw [appendVerdict, if_neg (other _ followUp_ne_image.1), if_neg (other _ followUp_ne_image.2),
    Verdict.after, if_neg (not_not_intro valid), imageVerdict, if_neg gate, if_neg single]
  rfl

omit recordable gate single in
theorem imageFields_kind (request : BootProtocolFrame) (runtime : BootFlashServiceRuntimeState)
    (summary : BootMetadataSummary) :
    (imageFields request runtime summary).recordType = recordImageValid ∧
      (imageFields request runtime summary).sequence = imageSequence summary := ⟨rfl, rfl⟩

omit recordable gate single in
/-- The summary says what the record of the request does. -/
theorem image_updated (request : BootProtocolFrame) (runtime : BootFlashServiceRuntimeState)
    (summary before : BootMetadataSummary) (next : UInt16) :
    let after := updatedSummary before (imageFields request runtime summary) next
    (after.metadataValid = 1 ∧ after.bootAttemptCount = 0 ∧ after.appConfirmed = 0) ∧
      after.entryPoint = request.u32 2 ∧ after.imageSizeWords = request.u32 4 ∧
      after.imageCrc32 = request.u32 6 := by
  intro after
  have image : after = imageAppended before (imageFields request runtime summary) next := if_pos rfl
  rw [image]
  exact ⟨⟨rfl, rfl, rfl⟩, rfl, rfl, rfl⟩

omit gate in
/-- The record reads back when it fills its slot. -/
theorem image_trip (inv : JournalInvariant (journal s.world.words)) (m : Memory.Words)
    (filled : Filled s.world.words m (sealRecord (recordedImage identity s))) :
    RoundTrip s.world.words m (recordedImage identity s) := by
  have scan := scanJournal_array s
  obtain ⟨kind, numbered⟩ := imageFields_kind (recordFrame .imageValid identity) s.runtime
    (scanJournal FlashArray.port s)
  have readsBack := validateRecord_imageRecord (imageRequest_recordable recordable) s.runtime
    (scanJournal FlashArray.port s)
  have sequence : (recordedImage identity s).sequence =
      (scanJournal FlashArray.port s).latestSequence + 1 := by
    refine numbered.trans ?_
    rw [scan]
    exact imageSequence_scan _
  have bounded : (scanJournal FlashArray.port s).latestSequence ≠ 0xFFFFFFFF := by
    rw [scan]
    exact latest_bounded inv
  exact filled.image scan.symm bounded kind sequence single readsBack

omit gate single in
/-- The summary after the record names the identity. -/
theorem image_named {before : BootMetadataSummary} {next : UInt16} :
    let after := updatedSummary before (recordedImage identity s) next
    compareImageIdentityWithMetadata identity (hostSummary after) = ⟨true, true, [], none⟩ ∧
      after.bootAttemptCount = 0 ∧ after.appConfirmed = 0 := by
  intro after
  obtain ⟨⟨valid, attempts, confirmed⟩, entry, size, crc⟩ := image_updated
    (recordFrame .imageValid identity) s.runtime (scanJournal FlashArray.port s) before next
  refine ⟨?_, attempts, confirmed⟩
  rw [compareImageIdentityWithMetadata_same]
  dsimp only [hostSummary, after, recordedImage]
  rw [valid, entry, size, crc, recordFrame_entry .imageValid recordable.sendable,
    recordFrame_size .imageValid recordable.sendable, recordFrame_crc]
  exact ⟨by decide, rfl, rfl, rfl⟩

/-- The service takes the record of an image it has verified, and then finds the image. -/
theorem image_appended (working : Working s.world) (initialized : s.runtime.initialized ≠ 0)
    (inv : JournalInvariant (journal s.world.words))
    (room : (scanJournal FlashArray.port s).nextRecordIndex ≠ invalidIndex) :
    let after := (attachedServer FlashArray.port s (recordRequest .imageValid identity)).2
    Accepts (attachedServer FlashArray.port) s (recordRequest .imageValid identity) ∧
      Recorded s after (recordedImage identity s) ∧
      compareImageIdentityWithMetadata identity (hostSummary (scanJournal FlashArray.port after)) =
        ⟨true, true, [], none⟩ ∧
      (scanJournal FlashArray.port after).bootAttemptCount = 0 ∧
      (scanJournal FlashArray.port after).appConfirmed = 0 := by
  intro after
  have verdict := appendVerdict_image recordable gate single
  rw [Verdict.appendTo, if_neg room, scanJournal_array s] at verdict
  obtain ⟨accepted, recorded⟩ := append_accepted working initialized inv verdict
    (image_trip recordable single inv)
  have rescan : scanJournal FlashArray.port after = _ :=
    (scanJournal_array after).trans recorded.roundTrip.rescan
  refine ⟨accepted, recorded, ?_⟩
  rw [rescan]
  exact image_named recordable

end

/-! ## The empty journal -/

section
variable {m : Memory.Words} (blank : ∀ a, 0x082000 ≤ a → a < 0x082400 → m a = erasedWord)
include blank

theorem blank_records {i : Nat} (hi : i < 16) : isErasedRecord (journal m i) = true := by
  rw [journal_erased hi]
  intro k hk
  apply blank <;> unfold slotAddress <;> omega

theorem scan_blank :
    scanLoadedRecords (journal m) 16 = scanLoadedRecords (fun _ => Vector.replicate 64 erasedWord) 16 := by
  apply scan_congr
  intro i hi
  apply Vector.ext
  intro k hk
  rw [journal_getElem m hi hk, Vector.getElem_replicate]
  apply blank <;> unfold slotAddress <;> omega

end

/-- The host and the service find room for an image in an empty journal. -/
theorem blank_admits :
    let summary := scanLoadedRecords (fun _ => Vector.replicate 64 erasedWord) 16
    summary.nextRecordIndex ≠ invalidIndex ∧ summary.state ≠ .duplicateSequence ∧
      appendRefusal .imageValid (hostSummary summary) = none := by
  decide +kernel

end BootUpgrade.RecordAppend

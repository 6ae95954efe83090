import BootUpgrade.FlashService.Service

/-!
# What one call of the service can do

`Step` lists the outcomes of a request, one constructor for each way through
the handlers that differs in its effect. `bootHandleCommand_step` says that
there are no others; every invariant of the service is a case analysis of
`Step`.
-/

namespace BootUpgrade.BootFlashService

variable {σ : Type} (port : FlashPort σ)

/-- `s₁` is `s` after `BootFlashService_EnsureFlash`. -/
def Prepared (s s₁ : FlashService σ) : Prop :=
  s₁ = s ∨ s.runtime.flashInitialized = 0 ∧ ∃ flag,
    s₁ = { runtime := { s.runtime with flashInitialized := flag },
           world := (port.init .zero s.world).world }

/-- The error info an address check of a data packet starts from. -/
def dataInfo (request : BootProtocolFrame) (operation : BootFlashOperation) :
    BootFlashErrorInfo :=
  { BootFlashErrorInfo.zero with
    operation, address := request.u32 0, lengthWords := (request.word 2).toUInt32 }

/-- The address check of a data packet. -/
def dataCheck (request : BootProtocolFrame) (operation : BootFlashOperation) :
    BootFlashResult × BootFlashErrorInfo :=
  port.checkAddress (request.u32 0) (request.word 2).toUInt32 operation
    (dataInfo request operation)

/-- A data packet has passed every check, the port's address check included. -/
structure DataReady (request : BootProtocolFrame) (operation : SessionOperation)
    (flashOperation : BootFlashOperation) (s : FlashService σ) : Prop where
  session : s.runtime.session.operation = operation
  length : request.payloadWords = (5 : UInt16) + request.word 2
  header : 5 ≤ request.payloadWords
  nonempty : request.word 2 ≠ 0
  units : request.word 2 % 8 = 0
  bounded : request.word 2 ≤ s.runtime.maxDataWords
  index : request.u32 3 = s.runtime.session.expectedBlockIndex
  packets : s.runtime.session.processedPacketCount < s.runtime.session.expectedPacketCount
  total : (request.word 2).toUInt32 ≤
    s.runtime.session.expectedTotalWords - s.runtime.session.processedTotalWords
  address : (dataCheck port request flashOperation).1 = BootFlashResult.ok

/-- The session an accepted BEGIN opens. -/
def begunSession (request : BootProtocolFrame) (operation : SessionOperation) :
    BootFlashServiceSession where
  operation := operation
  target := BootTarget.flashApp
  expectedPacketCount := (request.word 1).toUInt32
  processedPacketCount := 0
  expectedTotalWords := request.u32 2
  processedTotalWords := 0
  expectedBlockIndex := 0
  entryPoint := request.u32 4

/-- The error info an erase starts from. -/
def eraseInfo (sectorMask : UInt32) : BootFlashErrorInfo :=
  { BootFlashErrorInfo.zero with operation := .erase, extra := sectorMask }

/-- The error info a record program starts from. -/
def recordInfo (recordAddress : UInt32) : BootFlashErrorInfo :=
  { BootFlashErrorInfo.zero with
    operation := .program, address := recordAddress, lengthWords := BootMetadata.recordWords }

/-- The identity an IMAGE_VALID request may carry. -/
structure ImageRequest (request : BootProtocolFrame) : Prop where
  length : request.payloadWords = 16
  kind : request.word 0 = BootMetadata.recordImageValid
  size : request.u32 4 ≠ 0
  entryStart : BootMetadata.slotAAppStart ≤ request.u32 2
  entryEnd : request.u32 2 < BootMetadata.slotAAppEnd
  entryAligned : request.u32 2 % 8 = 0
  endStart : BootMetadata.slotAAppStart < request.u32 13
  endEnd : request.u32 13 ≤ BootMetadata.slotAAppEnd

/-- The service has decided to append `record` to the journal it has scanned
as `summary`; `asked` is the request, if there was one. -/
inductive Appends (asked : Option BootProtocolFrame) (s : FlashService σ)
    (summary : BootMetadataSummary) : BootMetadata.RecordWords → Prop
  | imageValid (request : BootProtocolFrame) (same : asked = some request)
      (valid : ImageRequest request)
      (gate : s.runtime.verifySucceeded ≠ 0) (single : summary.state ≠ .duplicateSequence) :
      Appends asked s summary (imageRecord request s.runtime summary)
  | bootAttempt (valid : summary.metadataValid ≠ 0) (single : summary.state ≠ .duplicateSequence)
      (unconfirmed : summary.appConfirmed = 0)
      (left : summary.bootAttemptCount < summary.bootAttemptLimit) :
      Appends asked s summary
        (BootMetadata.buildBootAttemptRecord (summary.latestSequence + 1) summary
          (summary.bootAttemptCount + 1))
  | appConfirmed (valid : summary.metadataValid ≠ 0) (single : summary.state ≠ .duplicateSequence)
      (image : summary.hasImageValid ≠ 0) (attempted : summary.bootAttemptCount ≠ 0)
      (unconfirmed : summary.appConfirmed = 0) :
      Appends asked s summary
        (BootMetadata.buildAppConfirmedRecord (summary.latestSequence + 1) summary)

/-- `next_record_index` names a slot of the journal. -/
structure SlotReady (summary : BootMetadataSummary) : Prop where
  free : summary.nextRecordIndex ≠ BootMetadata.invalidIndex
  aligned : nextRecordAddress summary % BootMetadata.recordWords = 0
  start : BootMetadata.slotAStart ≤ nextRecordAddress summary
  stop : nextRecordAddress summary + BootMetadata.recordWords ≤ BootMetadata.slotAAppStart

/-- The call that programs `record` into the next slot. -/
def recordCall (summary : BootMetadataSummary) (record : BootMetadata.RecordWords)
    (s : FlashService σ) : PortReturn σ :=
  port.programMetadataRecord (nextRecordAddress summary) record.toList
    BootMetadata.recordWords.toUInt16 (recordInfo (nextRecordAddress summary)) s.world

/-- What a journal append can do: nothing, or initialize the Flash in vain, or
program one record; an accepted IMAGE_VALID also closes the verify gate. -/
inductive AppendStep (asked : Option BootProtocolFrame) (s : FlashService σ) :
    UInt16 → FlashService σ → Prop
  | untouched {status : UInt16} : AppendStep asked s status s
  | unprepared {status : UInt16} {s₁ : FlashService σ} (refused : status ≠ BootStatus.ok)
      (prepared : Prepared port s s₁) : AppendStep asked s status s₁
  | written {status : UInt16} {s₁ : FlashService σ} {record : BootMetadata.RecordWords}
      (appends : Appends asked s (scanJournal port s) record) (slot : SlotReady (scanJournal port s))
      (prepared : Prepared port s s₁) :
      AppendStep asked s status
        { s₁ with world := (recordCall port (scanJournal port s) record s₁).world }
  | imageWritten {s₁ : FlashService σ} {record : BootMetadata.RecordWords}
      (appends : Appends asked s (scanJournal port s) record) (slot : SlotReady (scanJournal port s))
      (prepared : Prepared port s s₁)
      (programmed : (recordCall port (scanJournal port s) record s₁).result = BootFlashResult.ok) :
      AppendStep asked s BootStatus.ok
        (setVerifySucceeded
          { s₁ with world := (recordCall port (scanJournal port s) record s₁).world } 0)

/-- What a request can do. -/
inductive Step (request : BootProtocolFrame) (s : FlashService σ) :
    UInt16 → FlashService σ → Prop
  | refused {status : UInt16} (refused : status ≠ BootStatus.ok) : Step request s status s
  | unprepared {status : UInt16} {s₁ : FlashService σ} (refused : status ≠ BootStatus.ok)
      (prepared : Prepared port s s₁) : Step request s status s₁
  | aborted {status : UInt16} (refused : status ≠ BootStatus.ok) :
      Step request s status (resetSession s)
  | erased {s₁ : FlashService σ} (command : request.command = BootCmd.erase)
      (mask : request.u32 0 ≠ 0) (prepared : Prepared port s s₁)
      (done : (port.eraseBySectorMask (request.u32 0) (eraseInfo (request.u32 0)) s₁.world).result =
        BootFlashResult.ok) :
      Step request s BootStatus.ok
        (setVerifySucceeded
          (resetSession
            { s₁ with
              world := (port.eraseBySectorMask (request.u32 0) (eraseInfo (request.u32 0))
                s₁.world).world }) 0)
  | eraseFailed {status : UInt16} {s₁ : FlashService σ} (command : request.command = BootCmd.erase)
      (refused : status ≠ BootStatus.ok) (mask : request.u32 0 ≠ 0) (prepared : Prepared port s s₁)
      (failed : (port.eraseBySectorMask (request.u32 0) (eraseInfo (request.u32 0))
        s₁.world).result ≠ BootFlashResult.ok) :
      Step request s status
        { s₁ with
          world := (port.eraseBySectorMask (request.u32 0) (eraseInfo (request.u32 0))
            s₁.world).world }
  | begun {s₁ : FlashService σ} (operation : SessionOperation)
      (command : request.command =
        if operation = .program then BootCmd.programBegin else BootCmd.verifyBegin)
      (operation_ne : operation ≠ .none) (idle : s.runtime.session.operation = .none)
      (length : request.payloadWords = 9)
      (packets : request.word 1 ≠ 0) (words : request.u32 2 ≠ 0)
      (prepared : Prepared port s s₁) :
      Step request s BootStatus.ok
        { s₁ with runtime.session := begunSession request operation }
  | programmed (command : request.command = BootCmd.programData)
      (ready : DataReady port request .program .program s)
      (done : (port.programBlock (request.u32 0) (request.words 5 (request.word 2).toNat)
        (request.word 2) (dataCheck port request .program).2 s.world).result =
        BootFlashResult.ok) :
      Step request s BootStatus.ok
        (setVerifySucceeded
          { s with
            world := (port.programBlock (request.u32 0)
              (request.words 5 (request.word 2).toNat) (request.word 2)
              (dataCheck port request .program).2 s.world).world
            runtime.session := countPacket s.runtime.session (request.word 2) } 0)
  | programFailed {status : UInt16} (command : request.command = BootCmd.programData)
      (refused : status ≠ BootStatus.ok) (ready : DataReady port request .program .program s)
      (failed : (port.programBlock (request.u32 0) (request.words 5 (request.word 2).toNat)
        (request.word 2) (dataCheck port request .program).2 s.world).result ≠
        BootFlashResult.ok) :
      Step request s status
        (resetSession
          { s with
            world := (port.programBlock (request.u32 0)
              (request.words 5 (request.word 2).toNat) (request.word 2)
              (dataCheck port request .program).2 s.world).world })
  | verified (command : request.command = BootCmd.verifyData)
      (ready : DataReady port request .verify .verify s)
      (done : (port.verifyBlock (request.u32 0) (request.words 5 (request.word 2).toNat)
        (request.word 2) (dataCheck port request .verify).2 s.world).result =
        BootFlashResult.ok) :
      Step request s BootStatus.ok
        { s with
          world := (port.verifyBlock (request.u32 0)
            (request.words 5 (request.word 2).toNat) (request.word 2)
            (dataCheck port request .verify).2 s.world).world
          runtime.session := countPacket s.runtime.session (request.word 2) }
  | verifyFailed {status : UInt16} (command : request.command = BootCmd.verifyData)
      (refused : status ≠ BootStatus.ok) (ready : DataReady port request .verify .verify s) :
      Step request s status
        (resetSession
          { s with
            world := (port.verifyBlock (request.u32 0)
              (request.words 5 (request.word 2).toNat) (request.word 2)
              (dataCheck port request .verify).2 s.world).world })
  | ended (operation : SessionOperation)
      (command : request.command =
        if operation = .program then BootCmd.programEnd else BootCmd.verifyEnd)
      (operation_ne : operation ≠ .none) (session : s.runtime.session.operation = operation)
      (counts : countsMatch request s.runtime.session) :
      Step request s BootStatus.ok
        (if operation = .verify then setVerifySucceeded (resetSession s) 1 else resetSession s)
  | append {status : UInt16} {s' : FlashService σ}
      (command : request.command = BootCmd.metadataAppendRecord)
      (append : AppendStep port (some request) s status s') : Step request s status s'

/-! ## The helpers -/

theorem mapResult_eq_ok {result : BootFlashResult} {failedStatus badAddressStatus : UInt16}
    (hf : failedStatus ≠ BootStatus.ok) (hb : badAddressStatus ≠ BootStatus.ok) :
    mapResult result failedStatus badAddressStatus = BootStatus.ok ↔ result = BootFlashResult.ok := by
  have unsupported : BootStatus.unsupportedFeature ≠ BootStatus.ok := by decide
  unfold mapResult
  split
  · simp_all
  split
  · simp_all
  split <;> simp_all

theorem andThen_cases {o : Outcome σ} {rest : FlashService σ → Outcome σ}
    {P : UInt16 → FlashService σ → Prop} (stop : o.status ≠ BootStatus.ok → P o.status o.service)
    (go : o.status = BootStatus.ok → P (rest o.service).status (rest o.service).service) :
    P (andThen o rest).status (andThen o rest).service := by
  unfold andThen
  split
  · exact stop ‹_›
  · exact go (Decidable.not_not.1 ‹_›)

theorem andThen_of_ok {o : Outcome σ} {rest : FlashService σ → Outcome σ}
    (h : o.status = BootStatus.ok) : andThen o rest = rest o.service := by
  rw [andThen, if_neg (not_not_intro h)]

theorem andThen_refused {o : Outcome σ} {rest : FlashService σ → Outcome σ}
    (refused : o.status ≠ BootStatus.ok) : andThen o rest = o := if_pos refused

theorem andThen_ok {o : Outcome σ} {rest : FlashService σ → Outcome σ}
    (h : (andThen o rest).status = BootStatus.ok) :
    o.status = BootStatus.ok ∧ (rest o.service).status = BootStatus.ok := by
  by_cases ho : o.status = BootStatus.ok
  · rw [andThen_of_ok ho] at h
    exact ⟨ho, h⟩
  · rw [andThen, if_pos ho] at h
    exact absurd h ho

variable {port} {request : BootProtocolFrame} {s : FlashService σ}

/-- As `andThen_cases`, for a check that leaves the service as it is. -/
theorem andThen_check {o : Outcome σ} {rest : FlashService σ → Outcome σ}
    {P : UInt16 → FlashService σ → Prop} (hs : o.service = s) (stop : ∀ status, P status s)
    (go : o.status = BootStatus.ok → P (rest s).status (rest s).service) :
    P (andThen o rest).status (andThen o rest).service := by
  subst hs
  exact andThen_cases (fun _ => stop _) go

/-- A request check either fails and leaves the service as it is, or passes. -/
theorem identityRequestValid_service : (identityRequestValid request s).service = s := by
  unfold identityRequestValid
  repeat' split
  all_goals rfl

theorem metadataRecordAddress_service {summary : BootMetadataSummary} :
    (metadataRecordAddress summary s).service = s := by
  unfold metadataRecordAddress
  split
  · rfl
  · dsimp only
    split <;> rfl

theorem metadataRecordAddress_ok {summary : BootMetadataSummary}
    (h : (metadataRecordAddress summary s).status = BootStatus.ok) : SlotReady summary := by
  unfold metadataRecordAddress at h
  split at h
  · exact absurd h (by simp [fail, BootStatus.metadataFull, BootStatus.ok])
  · rename_i free
    dsimp only at h
    split at h
    · exact absurd h (by simp [fail, BootStatus.badAddress, BootStatus.ok])
    · rename_i range
      simp only [not_or, ne_eq, Decidable.not_not, UInt32.not_lt, gt_iff_lt] at range
      exact ⟨free, range.1, range.2.1, range.2.2⟩

theorem metadataRequestValid_service : (metadataRequestValid request s).service = s := by
  unfold metadataRequestValid
  dsimp only
  repeat' split
  all_goals rfl

theorem metadataRequestValid_ok (h : (metadataRequestValid request s).status = BootStatus.ok) :
    ImageRequest request := by
  unfold metadataRequestValid at h
  dsimp only at h
  split at h; · exact absurd h (by simp [fail, BootStatus.badPayloadLength, BootStatus.ok])
  split at h; · exact absurd h (by simp [fail, BootStatus.unsupportedFeature, BootStatus.ok])
  split at h; · exact absurd h (by simp [fail, BootStatus.unsupportedFeature, BootStatus.ok])
  split at h; · exact absurd h (by simp [fail, BootStatus.badFlags, BootStatus.ok])
  split at h; · exact absurd h (by simp [fail, BootStatus.badWordCount, BootStatus.ok])
  split at h; · exact absurd h (by simp [fail, BootStatus.badAddress, BootStatus.ok])
  simp_all only [not_or, ne_eq, Decidable.not_not, UInt32.not_lt, UInt32.not_le, gt_iff_lt, ge_iff_le]
  constructor <;> simp_all

variable (port s) in
theorem ensureFlash_prepared (operation failedStatus : UInt16) :
    Prepared port s (ensureFlash port operation failedStatus s).service := by
  unfold ensureFlash
  split
  · exact .inl rfl
  · rename_i idle
    have idle : s.runtime.flashInitialized = 0 := Decidable.not_not.1 idle
    dsimp only
    split
    · refine .inr ⟨idle, s.runtime.flashInitialized, rfl⟩
    · exact .inr ⟨idle, 1, rfl⟩

variable (port s) in
theorem Prepared.refl : Prepared port s s := .inl rfl

theorem Prepared.session {s₁ : FlashService σ} (h : Prepared port s s₁) :
    s₁.runtime.session = s.runtime.session := by
  obtain rfl | ⟨-, flag, rfl⟩ := h <;> rfl

theorem Prepared.verifySucceeded {s₁ : FlashService σ} (h : Prepared port s s₁) :
    s₁.runtime.verifySucceeded = s.runtime.verifySucceeded := by
  obtain rfl | ⟨-, flag, rfl⟩ := h <;> rfl

theorem Prepared.serviceInitialized {s₁ : FlashService σ} (h : Prepared port s s₁) :
    s₁.runtime.initialized = s.runtime.initialized := by
  obtain rfl | ⟨-, flag, rfl⟩ := h <;> rfl

/-! ## The handlers -/

theorem fail_step {status operation stage : UInt16} {address lengthWords : UInt32}
    (h : status ≠ BootStatus.ok) :
    Step port request s (fail s status operation stage address lengthWords).status
      (fail s status operation stage address lengthWords).service :=
  .refused h

theorem fail_resetSession_step {status operation stage : UInt16} {address lengthWords : UInt32}
    (h : status ≠ BootStatus.ok) :
    Step port request s (fail (resetSession s) status operation stage address lengthWords).status
      (fail (resetSession s) status operation stage address lengthWords).service :=
  .aborted h

theorem handleErase_step (command : request.command = BootCmd.erase) :
    Step port request s (handleErase port request s).status (handleErase port request s).service := by
  unfold handleErase
  split
  · exact fail_step (by decide)
  split
  · exact fail_step (by decide)
  dsimp only
  split
  · exact fail_step (by decide)
  rename_i mask
  refine andThen_cases (P := Step port request s) (fun h => .unprepared h (ensureFlash_prepared ..)) fun _ => ?_
  have prepared := ensureFlash_prepared port s BootErr.opErase BootStatus.eraseFailed
  generalize (ensureFlash port BootErr.opErase BootStatus.eraseFailed s).service = s₁ at prepared
  split
  · rename_i failed
    exact .eraseFailed command failed mask prepared
      fun h => failed ((mapResult_eq_ok (by decide) (by decide)).2 h)
  · rename_i done
    exact .erased command mask prepared
      ((mapResult_eq_ok (by decide) (by decide)).1 (Decidable.not_not.1 done))

theorem handleBegin_step {operation : SessionOperation} {errorOperation failedStatus : UInt16}
    (command : request.command =
      if operation = .program then BootCmd.programBegin else BootCmd.verifyBegin)
    (operation_ne : operation ≠ .none) :
    Step port request s (handleBegin port request operation errorOperation failedStatus s).status
      (handleBegin port request operation errorOperation failedStatus s).service := by
  unfold handleBegin
  split
  · exact fail_step (by decide)
  rename_i idle
  split
  · exact fail_step (by decide)
  rename_i length
  split
  · exact fail_step (by decide)
  dsimp only
  split
  · exact fail_step (by decide)
  rename_i words
  refine andThen_cases (P := Step port request s) (fun h => .unprepared h (ensureFlash_prepared ..)) fun _ => ?_
  have prepared := ensureFlash_prepared port s errorOperation failedStatus
  simp only [not_or] at words
  exact .begun operation command operation_ne (Decidable.not_not.1 idle) (Decidable.not_not.1 length)
    words.1 words.2 prepared

/-- How a data packet can end. -/
def DataStep (port : FlashPort σ) (request : BootProtocolFrame) (operation : SessionOperation)
    (flashOperation : BootFlashOperation) (s : FlashService σ) (o : Outcome σ) : Prop :=
  let call := dataCall port request operation (request.u32 0) (request.word 2)
    (dataCheck port request flashOperation).2 s.world
  let counted : FlashService σ :=
    { s with
      world := call.world
      runtime.session := countPacket s.runtime.session (request.word 2) }
  (o.status ≠ BootStatus.ok ∧ (o.service = s ∨ o.service = resetSession s)) ∨
    DataReady port request operation flashOperation s ∧
      (o.status ≠ BootStatus.ok ∧ call.result ≠ BootFlashResult.ok ∧
          o.service = resetSession { s with world := call.world } ∨
        o.status = BootStatus.ok ∧ call.result = BootFlashResult.ok ∧
          o.service = if operation = .program then setVerifySucceeded counted 0 else counted)

theorem fail_dataStep {operation : SessionOperation} {flashOperation : BootFlashOperation}
    {s' : FlashService σ} {status errorOperation stage : UInt16} {address lengthWords : UInt32}
    (h : status ≠ BootStatus.ok) (hs : s' = s ∨ s' = resetSession s) :
    DataStep port request operation flashOperation s
      (fail s' status errorOperation stage address lengthWords) :=
  .inl ⟨h, hs⟩

theorem handleData_dataStep {operation : SessionOperation} {errorOperation failedStatus : UInt16}
    {flashOperation : BootFlashOperation} (hf : failedStatus ≠ BootStatus.ok) :
    DataStep port request operation flashOperation s
      (handleData port request operation errorOperation flashOperation failedStatus s) := by
  let Q := DataStep port request operation flashOperation s
  have range : BootStatus.addressOutOfRange ≠ BootStatus.ok := by decide
  unfold handleData
  refine iteInduction (motive := Q) (fun _ => fail_dataStep (by decide) (.inl rfl)) fun _ => ?_
  refine iteInduction (motive := Q) (fun _ => fail_dataStep (by decide) (.inl rfl))
    fun session => ?_
  refine iteInduction (motive := Q) (fun _ => fail_dataStep (by decide) (.inr rfl))
    fun header => ?_
  refine iteInduction (motive := Q) (fun _ => fail_dataStep (by decide) (.inr rfl))
    fun length => ?_
  refine iteInduction (motive := Q) (fun _ => fail_dataStep (by decide) (.inr rfl))
    fun words => ?_
  refine iteInduction (motive := Q) (fun _ => .inl ⟨?_, .inr rfl⟩) fun index => ?_
  · show BootStatus.blockIndexError ≠ BootStatus.ok
    decide
  refine iteInduction (motive := Q) (fun _ => fail_dataStep (by decide) (.inr rfl))
    fun counts => ?_
  refine iteInduction (motive := Q) (fun check => .inl ⟨check, .inr rfl⟩) fun check => ?_
  simp only [ne_eq, Decidable.not_not] at session length index check
  simp only [UInt16.not_lt] at header
  simp only [not_or, ne_eq, Decidable.not_not, gt_iff_lt, UInt16.not_lt] at words
  simp only [not_or, gt_iff_lt, ge_iff_le, UInt32.not_lt, UInt32.not_le] at counts
  rw [mapResult_eq_ok hf range] at check
  have ready : DataReady port request operation flashOperation s :=
    ⟨session, length, header, words.1, words.2.1, words.2.2, index, counts.1, counts.2, check⟩
  refine iteInduction (motive := Q) (fun failed => .inr ⟨ready, .inl ⟨failed, ?_, rfl⟩⟩)
    fun done => .inr ⟨ready, .inr ⟨rfl, ?_, rfl⟩⟩
  · exact fun h => failed ((mapResult_eq_ok hf range).2 h)
  · exact (mapResult_eq_ok hf range).1 (Decidable.not_not.1 done)

theorem handleProgramData_step (command : request.command = BootCmd.programData) :
    let o := handleData port request .program BootErr.opProgram .program BootStatus.programFailed s
    Step port request s o.status o.service := by
  intro o
  have data : DataStep port request .program .program s o := handleData_dataStep (by decide)
  obtain ⟨refused, h | h⟩ | ⟨ready, ⟨refused, failed, h⟩ | ⟨done, success, h⟩⟩ := data <;> rw [h]
  · exact .refused refused
  · exact .aborted refused
  · exact .programFailed command refused ready failed
  · rw [done]
    exact .programmed command ready success

theorem handleVerifyData_step (command : request.command = BootCmd.verifyData) :
    let o := handleData port request .verify BootErr.opVerify .verify BootStatus.verifyFailed s
    Step port request s o.status o.service := by
  intro o
  have data : DataStep port request .verify .verify s o := handleData_dataStep (by decide)
  obtain ⟨refused, h | h⟩ | ⟨ready, ⟨refused, -, h⟩ | ⟨done, success, h⟩⟩ := data <;> rw [h]
  · exact .refused refused
  · exact .aborted refused
  · exact .verifyFailed command refused ready
  · rw [done]
    exact .verified command ready success

theorem handleEnd_step {operation : SessionOperation} {errorOperation : UInt16}
    (command : request.command =
      if operation = .program then BootCmd.programEnd else BootCmd.verifyEnd)
    (operation_ne : operation ≠ .none) :
    Step port request s (handleEnd request operation errorOperation s).status
      (handleEnd request operation errorOperation s).service := by
  unfold handleEnd
  dsimp only
  split
  · exact fail_step (by decide)
  split
  · exact fail_step (by decide)
  rename_i session
  split
  · exact fail_resetSession_step (by decide)
  split
  · exact fail_resetSession_step (by decide)
  rename_i counts
  exact .ended operation command operation_ne (Decidable.not_not.1 session)
    (Decidable.not_not.1 counts)

/-! ## Journal appends -/

variable (port s) in
theorem programMetadataRecord_cases (summary : BootMetadataSummary)
    (record : BootMetadata.RecordWords) :
    let o := programMetadataRecord port (nextRecordAddress summary) record s
    o.status ≠ BootStatus.ok ∧ Prepared port s o.service ∨
      ∃ s₁, Prepared port s s₁ ∧
        o.service = { s₁ with world := (recordCall port summary record s₁).world } ∧
        (o.status = BootStatus.ok →
          (recordCall port summary record s₁).result = BootFlashResult.ok) := by
  intro o
  have prepared := ensureFlash_prepared port s BootErr.opProgram
    BootStatus.metadataWriteFailed
  let Q := fun status service => status ≠ BootStatus.ok ∧ Prepared port s service ∨
    ∃ s₁, Prepared port s s₁ ∧
      service = { s₁ with world := (recordCall port summary record s₁).world } ∧
      (status = BootStatus.ok → (recordCall port summary record s₁).result = BootFlashResult.ok)
  refine andThen_cases (P := Q) (fun h => .inl ⟨h, prepared⟩) fun _ => .inr ⟨_, prepared, ?_⟩
  generalize (ensureFlash port BootErr.opProgram BootStatus.metadataWriteFailed s).service = s₁
  refine iteInduction (motive := fun o : Outcome σ => o.service = _ ∧ (o.status = _ → _))
    (fun _ => ⟨rfl, fun h => ?_⟩) fun done => ⟨rfl, fun _ => Decidable.not_not.1 done⟩
  exact absurd h (show BootStatus.metadataWriteFailed ≠ BootStatus.ok by decide)

/-- Finding the slot, programming the record and the handler's check of the
written journal. -/
theorem appendRecord_step {asked : Option BootProtocolFrame}
    (record : FlashService σ → BootMetadata.RecordWords)
    (appends : Appends asked s (scanJournal port s) (record s)) {rest : FlashService σ → Outcome σ}
    (check : ∀ s₁, Prepared port s s₁ → SlotReady (scanJournal port s) →
      (recordCall port (scanJournal port s) (record s) s₁).result = BootFlashResult.ok →
      let written := { s₁ with world := (recordCall port (scanJournal port s) (record s) s₁).world }
      AppendStep port asked s (rest written).status (rest written).service) :
    let o := andThen (metadataRecordAddress (scanJournal port s) s) fun s' =>
      andThen (programMetadataRecord port (nextRecordAddress (scanJournal port s)) (record s') s')
        rest
    AppendStep port asked s o.status o.service := by
  refine andThen_check (P := AppendStep port asked s) metadataRecordAddress_service
    (fun _ => .untouched) fun h => ?_
  have slot := metadataRecordAddress_ok h
  rcases programMetadataRecord_cases port s (scanJournal port s) (record s) with ⟨refused, prepared⟩ | ⟨s₁, prepared, service, done⟩
  · exact andThen_cases (P := AppendStep port asked s) (fun _ => .unprepared refused prepared)
      fun h => absurd h refused
  · refine andThen_cases (P := AppendStep port asked s) (fun _ => ?_) fun h => ?_
    · rw [service]
      exact .written appends slot prepared
    · rw [service]
      exact check s₁ prepared slot (done h)

theorem handleBootAttemptAppend_step :
    let o := handleBootAttemptAppend port request s
    AppendStep port (some request) s o.status o.service := by
  let Q := fun o : Outcome σ => AppendStep port (some request) s o.status o.service
  refine andThen_check (P := AppendStep port (some request) s) identityRequestValid_service
    (fun _ => .untouched) fun _ => ?_
  refine iteInduction (motive := Q) (fun _ => .untouched) fun valid => ?_
  refine iteInduction (motive := Q) (fun _ => .untouched) fun unconfirmed => ?_
  refine iteInduction (motive := Q) (fun _ => .untouched) fun left => ?_
  refine iteInduction (motive := Q) (fun _ => .untouched) fun _ => ?_
  simp only [not_or] at valid
  have appends : Appends (some request) s (scanJournal port s) _ :=
    .bootAttempt valid.1 valid.2 (Decidable.not_not.1 unconfirmed) (UInt16.not_le.1 left)
  refine appendRecord_step (fun _ => _) appends fun s₁ prepared slot _ => ?_
  refine iteInduction (motive := Q) ?_ ?_ <;> exact fun _ => .written appends slot prepared

theorem confirmJournal_step {asked : Option BootProtocolFrame}
    {expected : Option ExpectedIdentity} :
    let o := confirmJournal port expected s
    AppendStep port asked s o.status o.service := by
  let Q := fun o : Outcome σ => AppendStep port asked s o.status o.service
  refine iteInduction (motive := Q) (fun _ => .untouched) fun _ => ?_
  refine iteInduction (motive := Q) (fun _ => .untouched) fun valid => ?_
  refine iteInduction (motive := Q) (fun _ => .untouched) fun _ => ?_
  refine iteInduction (motive := Q) (fun _ => .untouched) fun attempted => ?_
  refine iteInduction (motive := Q) (fun _ => .untouched) fun unconfirmed => ?_
  simp only [not_or] at valid
  have appends : Appends asked s (scanJournal port s) _ :=
    .appConfirmed valid.1 valid.2.1 valid.2.2 attempted (Decidable.not_not.1 unconfirmed)
  refine appendRecord_step (fun _ => BootMetadata.buildAppConfirmedRecord
    ((scanJournal port s).latestSequence + 1) (scanJournal port s)) appends fun s₁ prepared slot _ => ?_
  refine iteInduction (motive := Q) ?_ ?_ <;> exact fun _ => .written appends slot prepared

theorem handleAppConfirmedAppend_step :
    let o := handleAppConfirmedAppend port request s
    AppendStep port (some request) s o.status o.service := by
  refine andThen_check (P := AppendStep port (some request) s) identityRequestValid_service
    (fun _ => .untouched) fun _ => ?_
  exact confirmJournal_step

theorem handleImageValidAppend_step :
    let o := handleImageValidAppend port request s
    AppendStep port (some request) s o.status o.service := by
  let Q := fun o : Outcome σ => AppendStep port (some request) s o.status o.service
  refine andThen_check (P := AppendStep port (some request) s) metadataRequestValid_service
    (fun _ => .untouched) fun h => ?_
  have valid := metadataRequestValid_ok h
  refine iteInduction (motive := Q) (fun _ => .untouched) fun gate => ?_
  refine iteInduction (motive := Q) (fun _ => .untouched) fun single => ?_
  have appends : Appends (some request) s (scanJournal port s) _ :=
    .imageValid request rfl valid gate single
  refine appendRecord_step (fun s' => imageRecord request s'.runtime (scanJournal port s)) appends
    fun s₁ prepared slot programmed => ?_
  exact iteInduction (motive := Q) (fun _ => .written appends slot prepared)
    fun _ => .imageWritten appends slot prepared programmed

theorem handleMetadataAppendRecord_step :
    let o := handleMetadataAppendRecord port request s
    AppendStep port (some request) s o.status o.service := by
  let Q := fun o : Outcome σ => AppendStep port (some request) s o.status o.service
  refine iteInduction (motive := Q) (fun _ => handleBootAttemptAppend_step) fun _ => ?_
  refine iteInduction (motive := Q) (fun _ => handleAppConfirmedAppend_step) fun _ => ?_
  exact handleImageValidAppend_step

/-- An accepted IMAGE_VALID request found the gate open, programmed the record
of its own values and found it selected by the scan that followed. -/
structure ImageAccepted (port : FlashPort σ) (request : BootProtocolFrame)
    (s s' : FlashService σ) : Prop where
  valid : ImageRequest request
  gate : s.runtime.verifySucceeded ≠ 0
  slot : SlotReady (scanJournal port s)
  programmed : ∃ s₁, Prepared port s s₁ ∧
    let call := recordCall port (scanJournal port s)
      (imageRecord request s.runtime (scanJournal port s)) s₁
    call.result = BootFlashResult.ok ∧
    s' = setVerifySucceeded { s₁ with world := call.world } 0
  selected : (scanJournal port s').metadataValid ≠ 0
  sequence : (scanJournal port s').imageValidSequence = imageSequence (scanJournal port s)
  entryPoint : (scanJournal port s').entryPoint = request.u32 2
  imageCrc32 : (scanJournal port s').imageCrc32 = request.u32 6

theorem handleImageValidAppend_ok
    (h : (handleImageValidAppend port request s).status = BootStatus.ok) :
    ImageAccepted port request s (handleImageValidAppend port request s).service := by
  unfold handleImageValidAppend at h ⊢
  obtain ⟨valid, h⟩ := andThen_ok h
  rw [andThen_of_ok valid, metadataRequestValid_service]
  rw [metadataRequestValid_service] at h
  have gate : s.runtime.verifySucceeded ≠ 0 := fun closed => by
    rw [if_pos closed] at h
    exact absurd h (show BootStatus.invalidState ≠ BootStatus.ok by decide)
  have single : (scanJournal port s).state ≠ .duplicateSequence := fun duplicate => by
    rw [if_neg gate, if_pos duplicate] at h
    exact absurd h (show BootStatus.metadataInvalid ≠ BootStatus.ok by decide)
  rw [if_neg gate, if_neg single] at h ⊢
  obtain ⟨address, h⟩ := andThen_ok h
  rw [andThen_of_ok address, metadataRecordAddress_service]
  rw [metadataRecordAddress_service] at h
  obtain ⟨record, h⟩ := andThen_ok h
  rw [andThen_of_ok record]
  rcases programMetadataRecord_cases port s (scanJournal port s)
    (imageRecord request s.runtime (scanJournal port s)) with
    ⟨refused, -⟩ | ⟨s₁, prepared, service, done⟩
  · exact absurd record refused
  rw [service] at h ⊢
  have programmed := done record
  generalize hw : { s₁ with
    world := (recordCall port (scanJournal port s)
      (imageRecord request s.runtime (scanJournal port s)) s₁).world } = written at h ⊢
  by_cases rejected : (scanJournal port written).metadataValid = 0 ∨
      (scanJournal port written).imageValidSequence ≠ imageSequence (scanJournal port s) ∨
      (scanJournal port written).entryPoint ≠ request.u32 2 ∨
      (scanJournal port written).imageCrc32 ≠ request.u32 6
  · rw [if_pos rejected] at h
    exact absurd h (show BootStatus.metadataWriteFailed ≠ BootStatus.ok by decide)
  · rw [if_neg rejected]
    simp only [not_or, ne_eq, Decidable.not_not] at rejected
    obtain ⟨selected, sequence, entry, crc⟩ := rejected
    exact ⟨metadataRequestValid_ok valid, gate, metadataRecordAddress_ok address,
      ⟨s₁, prepared, programmed, by rw [← hw]; rfl⟩, selected, sequence, entry, crc⟩

/-! ## All requests -/

theorem dispatch_step :
    Step port request s (dispatch port request s).status (dispatch port request s).service := by
  unfold dispatch
  let Q := fun o : Outcome σ => Step port request s o.status o.service
  refine iteInduction (motive := Q) handleErase_step fun _ => ?_
  refine iteInduction (motive := Q) (fun h => handleBegin_step (by simpa using h) (by decide))
    fun _ => ?_
  refine iteInduction (motive := Q) handleProgramData_step fun _ => ?_
  refine iteInduction (motive := Q) (fun h => handleEnd_step (by simpa using h) (by decide))
    fun _ => ?_
  refine iteInduction (motive := Q) (fun h => handleBegin_step (by simpa using h) (by decide))
    fun _ => ?_
  refine iteInduction (motive := Q) handleVerifyData_step fun _ => ?_
  refine iteInduction (motive := Q) (fun h => handleEnd_step (by simpa using h) (by decide))
    fun _ => ?_
  refine iteInduction (motive := Q) (fun h => .append h handleMetadataAppendRecord_step)
    fun _ => ?_
  exact .refused (show BootStatus.unsupportedCommand ≠ BootStatus.ok by decide)

theorem dispatch_append (command : request.command = BootCmd.metadataAppendRecord) :
    dispatch port request s = handleMetadataAppendRecord port request s := by
  unfold dispatch
  rw [command, if_neg (by decide), if_neg (by decide), if_neg (by decide), if_neg (by decide),
    if_neg (by decide), if_neg (by decide), if_neg (by decide), if_pos rfl]

theorem bootHandleCommand_of_initialized {words : UInt16} {error : BootErrorDetail}
    (h : s.runtime.initialized ≠ 0) :
    bootHandleCommand port request words error s =
      { dispatch port request s with responsePayloadWords := 0 } := by
  rw [bootHandleCommand, if_neg h]

/-- What an accepted IMAGE_VALID request implies. -/
theorem bootHandleCommand_imageValid {words : UInt16} {error : BootErrorDetail}
    (command : request.command = BootCmd.metadataAppendRecord)
    (kind : request.word 0 = BootMetadata.recordImageValid)
    (accepted : (bootHandleCommand port request words error s).status = BootStatus.ok) :
    ImageAccepted port request s (bootHandleCommand port request words error s).service := by
  by_cases initialized : s.runtime.initialized = 0
  · rw [bootHandleCommand, if_pos initialized] at accepted
    exact absurd accepted (show BootStatus.invalidState ≠ BootStatus.ok by decide)
  · have imageKind : handleMetadataAppendRecord port request s =
        handleImageValidAppend port request s := by
      rw [handleMetadataAppendRecord, if_neg, if_neg]
      · rw [kind]; exact fun h => absurd h.2 (by decide)
      · rw [kind]; exact fun h => absurd h.2 (by decide)
    rw [bootHandleCommand_of_initialized initialized, dispatch_append command, imageKind]
      at accepted ⊢
    exact handleImageValidAppend_ok accepted

/-- Every request does one of the things `Step` lists. -/
theorem bootHandleCommand_step (words : UInt16) (error : BootErrorDetail) :
    let o := bootHandleCommand port request words error s
    Step port request s o.status o.service := by
  let Q := fun o : CommandReturn σ => Step port request s o.status o.service
  refine iteInduction (motive := Q) (fun _ => .refused ?_) fun _ => dispatch_step
  exact (show BootStatus.invalidState ≠ BootStatus.ok by decide)

end BootUpgrade.BootFlashService

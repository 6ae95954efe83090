import BootUpgrade.FlashService.SessionCounts

/-!
# When a session request is accepted

A BEGIN, a DATA and an END request are accepted exactly when every check of the
service passes and the port does what it is asked. What an accepted request leaves
is then determined.
-/

namespace BootUpgrade.BootFlashService

variable {σ : Type} {port : FlashPort σ} {s : FlashService σ} {request : BootProtocolFrame}
  {operation : SessionOperation}

/-- The operation as the port knows it. -/
def flashOperation (operation : SessionOperation) : BootFlashOperation :=
  if operation = .program then .program else .verify

def failedStatus (operation : SessionOperation) : UInt16 :=
  if operation = .program then BootStatus.programFailed else BootStatus.verifyFailed

theorem failedStatus_ne (operation : SessionOperation) : failedStatus operation ≠ BootStatus.ok := by
  unfold failedStatus
  split <;> decide

theorem dispatch_beginCommand (ne : operation ≠ .none)
    (command : request.command = beginCommand operation) :
    dispatch port request s =
      handleBegin port request operation (errorOperation operation) (failedStatus operation) s := by
  unfold dispatch
  rw [command]
  cases operation with
  | none => exact absurd rfl ne
  | program =>
    rw [if_neg (by decide)]
    exact if_pos rfl
  | verify =>
    rw [if_neg (by decide), if_neg (by decide), if_neg (by decide), if_neg (by decide)]
    exact if_pos rfl

theorem dispatch_dataCommand (ne : operation ≠ .none)
    (command : request.command = dataCommand operation) :
    dispatch port request s =
      handleData port request operation (errorOperation operation) (flashOperation operation)
        (failedStatus operation) s := by
  unfold dispatch
  rw [command]
  cases operation with
  | none => exact absurd rfl ne
  | program =>
    rw [if_neg (by decide), if_neg (by decide)]
    exact if_pos rfl
  | verify =>
    rw [if_neg (by decide), if_neg (by decide), if_neg (by decide), if_neg (by decide),
      if_neg (by decide)]
    exact if_pos rfl

/-! ## BEGIN -/

/-- A BEGIN that passes the checks of the service. -/
structure BeginReady (request : BootProtocolFrame) (s : FlashService σ) : Prop where
  idle : s.runtime.session.operation = .none
  length : request.payloadWords = 9
  target : request.word 0 = BootTarget.flashApp
  packets : request.word 1 ≠ 0
  words : request.u32 2 ≠ 0

/-- The service with the session that the BEGIN opens. -/
def begun (request : BootProtocolFrame) (operation : SessionOperation) (s : FlashService σ) :
    FlashService σ :=
  { s with runtime.session := begunSession request operation }

theorem handleBegin_ok {errorOperation failedStatus : UInt16} (ready : BeginReady request s)
    (prepared : (ensureFlash port errorOperation failedStatus s).status = BootStatus.ok) :
    handleBegin port request operation errorOperation failedStatus s =
      succeed (begun request operation (ensureFlash port errorOperation failedStatus s).service) := by
  have words : ¬ (request.word 1 = 0 ∨ request.u32 2 = 0) := not_or.2 ⟨ready.packets, ready.words⟩
  unfold handleBegin
  rw [if_neg (not_not_intro ready.idle), if_neg (not_not_intro ready.length),
    if_neg (not_not_intro ready.target)]
  dsimp only
  rw [if_neg words, andThen_of_ok prepared]
  rfl

/-- A BEGIN is accepted when the service is ready for it and the port can be prepared. -/
theorem handleBegin_ok_iff {errorOperation failedStatus : UInt16} :
    (handleBegin port request operation errorOperation failedStatus s).status = BootStatus.ok ↔
      BeginReady request s ∧
        (ensureFlash port errorOperation failedStatus s).status = BootStatus.ok := by
  constructor
  · intro accepted
    unfold handleBegin at accepted
    split at accepted
    · exact absurd accepted (show BootStatus.busy ≠ BootStatus.ok by decide)
    rename_i idle
    split at accepted
    · exact absurd accepted (show BootStatus.badPayloadLength ≠ BootStatus.ok by decide)
    rename_i length
    split at accepted
    · exact absurd accepted (show BootStatus.targetMismatch ≠ BootStatus.ok by decide)
    rename_i target
    dsimp only at accepted
    split at accepted
    · exact absurd accepted (show BootStatus.badWordCount ≠ BootStatus.ok by decide)
    rename_i words
    obtain ⟨packets, words⟩ := not_or.1 words
    exact ⟨⟨Decidable.not_not.1 idle, Decidable.not_not.1 length, Decidable.not_not.1 target,
      packets, words⟩, (andThen_ok accepted).1⟩
  · rintro ⟨ready, prepared⟩
    rw [handleBegin_ok ready prepared]
    rfl

/-! ## DATA -/

/-- The service after an accepted packet. -/
def received (port : FlashPort σ) (request : BootProtocolFrame) (operation : SessionOperation)
    (s : FlashService σ) : FlashService σ :=
  let call := dataCall port request operation (request.u32 0) (request.word 2)
    (dataCheck port request (flashOperation operation)).2 s.world
  let counted : FlashService σ :=
    { s with
      world := call.world
      runtime.session := countPacket s.runtime.session (request.word 2) }
  if operation = .program then setVerifySucceeded counted 0 else counted

theorem handleData_failed (port : FlashPort σ) (request : BootProtocolFrame)
    (errorOperation : UInt16) (operation : SessionOperation) (s : FlashService σ) :
    DataStep port request operation (flashOperation operation) s
      (handleData port request operation errorOperation (flashOperation operation)
        (failedStatus operation) s) :=
  handleData_dataStep (failedStatus_ne operation)

/-- A packet is accepted when the service is ready for it and the port takes it. -/
theorem handleData_ok_iff {errorOperation : UInt16} (ne : operation ≠ .none) :
    (handleData port request operation errorOperation (flashOperation operation)
        (failedStatus operation) s).status = BootStatus.ok ↔
      DataReady port request operation (flashOperation operation) s ∧
        (dataCall port request operation (request.u32 0) (request.word 2)
          (dataCheck port request (flashOperation operation)).2 s.world).result =
            BootFlashResult.ok := by
  have range : BootStatus.addressOutOfRange ≠ BootStatus.ok := by decide
  constructor
  · intro accepted
    have data := handleData_failed port request errorOperation operation s
    obtain ⟨refused, -⟩ | ⟨ready, ⟨refused, -⟩ | ⟨-, done, -⟩⟩ := data
    · exact absurd accepted refused
    · exact absurd accepted refused
    · exact ⟨ready, done⟩
  · rintro ⟨ready, done⟩
    have opened : s.runtime.session.operation ≠ .none := fun h => ne (ready.session.symm.trans h)
    have units : ¬ (request.word 2 = 0 ∨ request.word 2 % 8 ≠ 0 ∨
        request.word 2 > s.runtime.maxDataWords) := by
      rw [not_or, not_or]
      exact ⟨ready.nonempty, not_not_intro ready.units, UInt16.not_lt.2 ready.bounded⟩
    have counts : ¬ (s.runtime.session.processedPacketCount ≥ s.runtime.session.expectedPacketCount ∨
        (request.word 2).toUInt32 >
          s.runtime.session.expectedTotalWords - s.runtime.session.processedTotalWords) := by
      rw [not_or]
      exact ⟨UInt32.not_le.2 ready.packets, UInt32.not_lt.2 ready.total⟩
    have checked : mapResult (dataCheck port request (flashOperation operation)).1
        (failedStatus operation) BootStatus.addressOutOfRange = BootStatus.ok :=
      (mapResult_eq_ok (failedStatus_ne operation) range).2 ready.address
    have taken := (mapResult_eq_ok (failedStatus_ne operation) range).2 done
    unfold handleData
    rw [if_neg opened, if_neg (not_not_intro ready.session), if_neg (UInt16.not_lt.2 ready.header)]
    dsimp only
    rw [if_neg (not_not_intro ready.length), if_neg units, if_neg (not_not_intro ready.index),
      if_neg counts]
    change Outcome.status (ite (mapResult (dataCheck port request (flashOperation operation)).1
      (failedStatus operation) BootStatus.addressOutOfRange ≠ BootStatus.ok) _ _) = _
    rw [if_neg (not_not_intro checked)]
    change Outcome.status (ite (mapResult (dataCall port request operation (request.u32 0)
      (request.word 2) (dataCheck port request (flashOperation operation)).2 s.world).result
      (failedStatus operation) BootStatus.addressOutOfRange ≠ BootStatus.ok) _ _) = _
    rw [if_neg (not_not_intro taken)]
    rfl

theorem handleData_ok {errorOperation : UInt16}
    (accepted : (handleData port request operation errorOperation (flashOperation operation)
        (failedStatus operation) s).status = BootStatus.ok) :
    (handleData port request operation errorOperation (flashOperation operation)
      (failedStatus operation) s).service = received port request operation s := by
  have data := handleData_failed port request errorOperation operation s
  obtain ⟨refused, -⟩ | ⟨ready, ⟨refused, -⟩ | ⟨-, done, service⟩⟩ := data
  · exact absurd accepted refused
  · exact absurd accepted refused
  · exact service

/-! ## END -/

/-- The service after an accepted END. -/
def ended (operation : SessionOperation) (s : FlashService σ) : FlashService σ :=
  if operation = .verify then setVerifySucceeded (resetSession s) 1 else resetSession s

theorem handleEnd_ok {errorOperation : UInt16} (ne : operation ≠ .none)
    (accepted : (handleEnd request operation errorOperation s).status = BootStatus.ok) :
    (handleEnd request operation errorOperation s).service = ended operation s := by
  obtain ⟨active, length, counts⟩ := (handleEnd_ok_iff ne).1 accepted
  have opened : s.runtime.session.operation ≠ .none := fun h => ne (active.symm.trans h)
  unfold handleEnd
  dsimp only
  rw [if_neg opened, if_neg (not_not_intro active), if_neg (not_not_intro length),
    if_neg (not_not_intro counts)]
  rfl

end BootUpgrade.BootFlashService

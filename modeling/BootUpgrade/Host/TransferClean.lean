import BootUpgrade.Host.TransferSession
import BootUpgrade.FlashService.SessionCounts
import BootUpgrade.Core.LoadedWords

/-!
# The device after a transfer

The Flash service and the bootloader core follow the rules that a transfer
relies on, so a Program, a Verify and a RAM load leave them without an open
session. The result of a Program marks the Flash as partial after every
cancellation but the one that comes before the first packet, one that is
noticed only when all packets are written included.
-/

namespace BootUpgrade

namespace TransferKind

open HostWorkflow HostClient

variable {σ : Type}

/-- The request frame as the device receives it. -/
def frameOf (q : HostRequest) (fits : q.payload.length ≤ 256) : BootProtocolFrame :=
  .ofWords q.command 1 q.payload fits

theorem word_payload (q : HostRequest) (fits : q.payload.length ≤ 256) (index : Nat) :
    (frameOf q fits).word index = q.payload.getD index 0 :=
  BootProtocolFrame.word_ofWords _ _ _ fits index

/-- The Flash service behind an attached core. A frame that does not fit the
buffer of the device gets no response. -/
def flashServer (port : FlashPort σ) : HostServer (FlashService σ) := fun s q =>
  if fits : q.payload.length ≤ 256 then
    let o := BootFlashService.bootHandleCommand port (frameOf q fits) 0 .clear s
    (.ok ⟨o.status, []⟩, o.service)
  else (.error .transportTimeoutError, s)

/-- The bootloader core. -/
def coreServer (features : BootFeatures) (code : ServiceCode σ) : HostServer (Core σ) := fun c q =>
  if fits : q.payload.length ≤ 256 then
    let r := BootAlgorithm.processOne (frameOf q fits) features code .ok c
    (.ok ⟨r.response.status, r.response.payload⟩, r.core)
  else (.error .transportTimeoutError, c)

/-! ## The Flash service -/

section
open BootFlashService

variable {port : FlashPort σ} {s : FlashService σ} {operation : SessionOperation}
  {request : BootProtocolFrame}

theorem mapResult_ne_busy {result : BootFlashResult} {failedStatus : UInt16}
    (h : failedStatus ≠ BootStatus.busy) :
    mapResult result failedStatus BootStatus.badAddress ≠ BootStatus.busy := by
  unfold mapResult
  split
  · decide
  split
  · decide
  split
  · decide
  · exact h

theorem ensureFlash_ne_busy {errorOperation failedStatus : UInt16}
    (h : failedStatus ≠ BootStatus.busy) :
    (ensureFlash port errorOperation failedStatus s).status ≠ BootStatus.busy := by
  unfold ensureFlash
  split
  · exact show BootStatus.ok ≠ BootStatus.busy by decide
  dsimp only
  split
  · exact mapResult_ne_busy h
  · exact show BootStatus.ok ≠ BootStatus.busy by decide

/-- A BEGIN without an open session is not refused as busy. -/
theorem handleBegin_ne_busy {errorOperation failedStatus : UInt16}
    (closed : s.runtime.session.operation = .none) (h : failedStatus ≠ BootStatus.busy) :
    (handleBegin port request operation errorOperation failedStatus s).status ≠ BootStatus.busy := by
  let motive (o : Outcome σ) : Prop := o.status ≠ BootStatus.busy
  apply iteInduction (motive := motive)
  · exact fun active => absurd closed active
  intro _
  apply iteInduction (motive := motive)
  · exact fun _ => show BootStatus.badPayloadLength ≠ BootStatus.busy by decide
  intro _
  apply iteInduction (motive := motive)
  · exact fun _ => show BootStatus.targetMismatch ≠ BootStatus.busy by decide
  intro _
  apply iteInduction (motive := motive)
  · exact fun _ => show BootStatus.badWordCount ≠ BootStatus.busy by decide
  intro _
  apply andThen_cases (P := fun status _ => status ≠ BootStatus.busy)
  · exact fun _ => ensureFlash_ne_busy h
  · exact fun _ => show BootStatus.ok ≠ BootStatus.busy by decide

theorem begin_ne_busy (ne : operation ≠ .none)
    (command : request.command = BootFlashService.beginCommand operation)
    (closed : s.runtime.session.operation = .none) :
    (bootHandleCommand port request 0 .clear s).status ≠ BootStatus.busy := by
  by_cases zero : s.runtime.initialized = 0
  · rw [(bootHandleCommand_uninitialized zero).1]
    decide
  show (bootHandleCommand port request 0 .clear s).toOutcome.status ≠ BootStatus.busy
  rw [bootHandleCommand_dispatch zero]
  obtain ⟨failedStatus, failed, dispatched⟩ := @dispatch_begin _ port s request _ ne command
  rw [dispatched]
  apply handleBegin_ne_busy closed
  rcases failed with rfl | rfl <;> decide

/-- A rejected request opens no session. -/
theorem rejected_closed (closed : s.runtime.session.operation = .none) {status : UInt16}
    {s' : FlashService σ} (step : Step port request s status s') (rejected : status ≠ BootStatus.ok) :
    s'.runtime.session.operation = .none := by
  cases step with
  | refused => exact closed
  | unprepared _ prepared | eraseFailed _ _ _ prepared => rw [prepared.session, closed]
  | aborted | programFailed | verifyFailed => rfl
  | erased | begun | programmed | verified | ended => exact absurd rfl rejected
  | append _ append =>
    cases append with
    | untouched => exact closed
    | unprepared _ prepared | written _ _ prepared => rw [← closed, ← prepared.session]
    | imageWritten => exact absurd rfl rejected

theorem begin_accepted (ne : operation ≠ .none)
    (command : request.command = BootFlashService.beginCommand operation) {s' : FlashService σ}
    (step : Step port request s BootStatus.ok s') :
    s'.runtime.session.operation = operation ∧
      s'.runtime.initialized = s.runtime.initialized ∧ request.word 1 ≠ 0 := by
  have other (k : UInt16) (h : request.command = k)
      (apart : ∀ operation, BootFlashService.beginCommand operation ≠ k) : False :=
    apart operation (command.symm.trans h)
  generalize hs : BootStatus.ok = status at step
  cases step with
  | refused refused | aborted refused => exact absurd hs.symm refused
  | unprepared refused => exact absurd hs.symm refused
  | erased command => exact (other _ command (by intro o; cases o <;> decide)).elim
  | eraseFailed _ refused => exact absurd hs.symm refused
  | begun operation' command' operation_ne idle length packets words prepared =>
    obtain rfl := beginCommand_inj ne operation_ne (command.symm.trans command')
    exact ⟨rfl, prepared.serviceInitialized, packets⟩
  | programmed command => exact (other _ command (by intro o; cases o <;> decide)).elim
  | programFailed _ refused | verifyFailed _ refused => exact absurd hs.symm refused
  | verified command => exact (other _ command (by intro o; cases o <;> decide)).elim
  | ended operation' command =>
    exact (other _ command (by intro o; cases o <;> cases operation' <;> decide)).elim
  | append command => exact (other _ command (by intro o; cases o <;> decide)).elim

theorem data_accepted
    (command : request.command = BootFlashService.dataCommand operation) {s' : FlashService σ}
    (step : Step port request s BootStatus.ok s') :
    s'.runtime.session.operation = s.runtime.session.operation ∧
      s'.runtime.initialized = s.runtime.initialized ∧ request.word 2 ≠ 0 := by
  have other (k : UInt16) (h : request.command = k)
      (apart : ∀ operation, BootFlashService.dataCommand operation ≠ k) : False :=
    apart operation (command.symm.trans h)
  generalize hs : BootStatus.ok = status at step
  cases step with
  | refused refused | aborted refused => exact absurd hs.symm refused
  | unprepared refused => exact absurd hs.symm refused
  | erased command => exact (other _ command (by intro o; cases o <;> decide)).elim
  | eraseFailed _ refused => exact absurd hs.symm refused
  | begun operation' command =>
    exact (other _ command (by intro o; cases o <;> cases operation' <;> decide)).elim
  | programmed _ ready | verified _ ready => exact ⟨rfl, rfl, ready.nonempty⟩
  | programFailed _ refused | verifyFailed _ refused => exact absurd hs.symm refused
  | ended operation' command =>
    exact (other _ command (by intro o; cases o <;> cases operation' <;> decide)).elim
  | append command => exact (other _ command (by intro o; cases o <;> decide)).elim

/-- An END for the open session closes it. -/
theorem handleEnd_closes {errorOperation : UInt16} (ne : operation ≠ .none)
    (active : s.runtime.session.operation = operation) :
    (handleEnd request operation errorOperation s).service.runtime.session.operation = .none := by
  let motive (o : Outcome σ) : Prop := o.service.runtime.session.operation = .none
  apply iteInduction (motive := motive)
  · exact fun closed => absurd (active.symm.trans closed) ne
  intro _
  apply iteInduction (motive := motive)
  · exact fun other => absurd active other
  intro _
  apply iteInduction (motive := motive)
  · exact fun _ => rfl
  intro _
  apply iteInduction (motive := motive)
  · exact fun _ => rfl
  intro _
  show (if _ then _ else _ : FlashService σ).runtime.session.operation = .none
  split <;> rfl

/-- The rules for a kind of transfer that uses the commands of an operation. -/
theorem flash_rules {kind : TransferKind} (ne : operation ≠ .none)
    (begins : kind.beginCommand = BootFlashService.beginCommand operation)
    (data : kind.dataCommand = BootFlashService.dataCommand operation)
    (ends : kind.endCommand = BootFlashService.endCommand operation) :
    SessionRules (flashServer port) kind (fun s => s.runtime.session.operation = .none)
      (fun s => s.runtime.session.operation = operation ∧ s.runtime.initialized ≠ 0) := by
  have served {s : FlashService σ} {q : HostRequest} {a : HostAnswer}
      (answer : (flashServer port s q).1 = .ok a) : ∃ fits : q.payload.length ≤ 256,
      a.status = (bootHandleCommand port (frameOf q fits) 0 .clear s).status ∧
      (flashServer port s q).2 = (bootHandleCommand port (frameOf q fits) 0 .clear s).service := by
    unfold flashServer at answer ⊢
    split at answer
    · rename_i fits
      rw [dif_pos fits]
      cases answer
      exact ⟨fits, rfl, rfl⟩
    · cases answer
  constructor
  · intro s q fits
    unfold flashServer
    rw [dif_pos fits]
    exact ⟨_, rfl⟩
  · intro s q a command closed answer
    obtain ⟨fits, status, state⟩ := served answer
    have command : (frameOf q fits).command = BootFlashService.beginCommand operation :=
      command.trans begins
    have step := @bootHandleCommand_step _ port (frameOf q fits) s 0 .clear
    rw [status, state]
    refine ⟨begin_ne_busy ne command closed, ?_, fun rejected => rejected_closed closed step rejected⟩
    intro accepted
    have initialized : s.runtime.initialized ≠ 0 := by
      intro zero
      rw [(bootHandleCommand_uninitialized zero).1] at accepted
      exact absurd accepted (by decide)
    dsimp only at step
    rw [accepted] at step
    obtain ⟨opened, same, count⟩ := begin_accepted ne command step
    exact ⟨⟨opened, same ▸ initialized⟩, word_payload q fits 1 ▸ count⟩
  · intro s q a command opened answer
    obtain ⟨fits, status, state⟩ := served answer
    have command : (frameOf q fits).command = BootFlashService.dataCommand operation :=
      command.trans data
    have step := @bootHandleCommand_step _ port (frameOf q fits) s 0 .clear
    rw [status, state]
    constructor
    · intro accepted
      dsimp only at step
      rw [accepted] at step
      obtain ⟨active, same, count⟩ := data_accepted command step
      exact ⟨⟨active.trans opened.1, same ▸ opened.2⟩, word_payload q fits 2 ▸ count⟩
    · intro rejected
      have same : (bootHandleCommand port (frameOf q fits) 0 .clear s).toOutcome = _ :=
        bootHandleCommand_dispatch opened.2
      obtain ⟨flashOperation, failedStatus, dispatched⟩ :=
        @dispatch_data _ port s (frameOf q fits) _ ne command
      rw [dispatched] at same
      have rejected : (bootHandleCommand port (frameOf q fits) 0 .clear s).toOutcome.status ≠
        BootStatus.ok := rejected
      show (bootHandleCommand port (frameOf q fits) 0 .clear
        s).toOutcome.service.runtime.session.operation = .none
      rw [same] at rejected ⊢
      rw [handleData_rejected ne opened.1 rejected]
      rfl
  · intro s q a command opened answer
    obtain ⟨fits, -, state⟩ := served answer
    have command : (frameOf q fits).command = BootFlashService.endCommand operation :=
      command.trans ends
    show (flashServer port s q).2.runtime.session.operation = .none
    rw [state]
    show (bootHandleCommand port (frameOf q fits) 0 .clear
      s).toOutcome.service.runtime.session.operation = .none
    rw [bootHandleCommand_dispatch opened.2, dispatch_end ne command]
    exact handleEnd_closes ne opened.1

end

/-! ## The RAM load -/

section
open BootAlgorithm

variable {features : BootFeatures} {code : ServiceCode σ} {c : Core σ} {request : BootProtocolFrame}

theorem handleRamLoadBegin_closed (closed : c.algorithm.ramLoad.active = 0) :
    let r := handleRamLoadBegin request c
    r.response.status ≠ BootStatus.busy ∧
      (r.response.status = BootStatus.ok →
        r.core.algorithm.ramLoad.active ≠ 0 ∧ request.word 1 ≠ 0) ∧
      (r.response.status ≠ BootStatus.ok → r.core.algorithm.ramLoad.active = 0) := by
  let motive (r : CoreReturn σ) : Prop := r.response.status ≠ BootStatus.busy ∧
    (r.response.status = BootStatus.ok →
      r.core.algorithm.ramLoad.active ≠ 0 ∧ request.word 1 ≠ 0) ∧
    (r.response.status ≠ BootStatus.ok → r.core.algorithm.ramLoad.active = 0)
  have refused {status operation stage : UInt16} {address lengthWords : UInt32}
      (busy : status ≠ BootStatus.busy) (ok : status ≠ BootStatus.ok) :
      motive (fail request status operation stage address lengthWords c) :=
    ⟨busy, fun h => absurd h ok, fun _ => closed⟩
  apply iteInduction (motive := motive)
  · exact fun _ => refused (by decide) (by decide)
  intro _
  apply iteInduction (motive := motive)
  · exact fun active => absurd closed active
  intro _
  apply iteInduction (motive := motive)
  · exact fun _ => refused (by decide) (by decide)
  intro _
  apply iteInduction (motive := motive)
  · exact fun _ => refused (by decide) (by decide)
  intro counts
  rw [not_or] at counts
  apply iteInduction (motive := motive)
  · exact fun _ => refused (by decide) (by decide)
  · intro _
    exact ⟨show BootStatus.ok ≠ BootStatus.busy by decide,
      fun _ => ⟨show (1 : UInt16) ≠ 0 by decide, counts.1⟩, fun h => absurd rfl h⟩

/-- A rejected packet ends the load. -/
theorem handleRamLoadData_open (opened : c.algorithm.ramLoad.active ≠ 0) :
    let r := handleRamLoadData request c
    (r.response.status = BootStatus.ok →
      r.core.algorithm.ramLoad.active ≠ 0 ∧ request.word 2 ≠ 0) ∧
    (r.response.status ≠ BootStatus.ok → r.core.algorithm.ramLoad.active = 0) := by
  let motive (r : CoreReturn σ) : Prop :=
    (r.response.status = BootStatus.ok →
      r.core.algorithm.ramLoad.active ≠ 0 ∧ request.word 2 ≠ 0) ∧
    (r.response.status ≠ BootStatus.ok → r.core.algorithm.ramLoad.active = 0)
  have refused {r : CoreReturn σ} (ok : r.response.status ≠ BootStatus.ok) :
      motive (resetRamLoad r) :=
    ⟨fun h => absurd h ok, fun _ => rfl⟩
  apply iteInduction (motive := motive)
  · exact fun closed => absurd closed opened
  intro _
  apply iteInduction (motive := motive)
  · exact fun _ => refused (show BootStatus.badPayloadLength ≠ BootStatus.ok by decide)
  intro _
  apply iteInduction (motive := motive)
  · exact fun _ => refused (show BootStatus.badPayloadLength ≠ BootStatus.ok by decide)
  intro _
  apply iteInduction (motive := motive)
  · exact fun _ => refused (show BootStatus.badWordCount ≠ BootStatus.ok by decide)
  intro nonempty
  apply iteInduction (motive := motive)
  · exact fun _ => refused (show BootStatus.blockIndexError ≠ BootStatus.ok by decide)
  intro _
  apply iteInduction (motive := motive)
  · exact fun _ => refused (show BootStatus.totalCountMismatch ≠ BootStatus.ok by decide)
  intro _
  apply iteInduction (motive := motive)
  · intro _
    apply refused
    apply iteInduction (motive := fun status : UInt16 => status ≠ BootStatus.ok)
    · exact fun _ => by decide
    · exact fun _ => by decide
  · exact fun _ => ⟨fun _ => ⟨opened, nonempty⟩, fun h => absurd rfl h⟩

theorem handleRamLoadEnd_closes (opened : c.algorithm.ramLoad.active ≠ 0) :
    (handleRamLoadEnd request c).core.algorithm.ramLoad.active = 0 := by
  let motive (r : CoreReturn σ) : Prop := r.core.algorithm.ramLoad.active = 0
  apply iteInduction (motive := motive)
  · exact fun closed => absurd closed opened
  intro _
  apply iteInduction (motive := motive)
  · exact fun _ => rfl
  intro _
  apply iteInduction (motive := motive)
  · exact fun _ => rfl
  · exact fun _ => rfl

/-- The core as a server, for a command whose case of the switch is known. -/
theorem coreServer_served {handler : BootProtocolFrame → Core σ → CoreReturn σ} {q : HostRequest}
    {a : HostAnswer}
    (dispatched : ∀ request : BootProtocolFrame, request.command = q.command →
      dispatch request features code c = handler request c)
    (answer : (coreServer features code c q).1 = .ok a) : ∃ fits : q.payload.length ≤ 256,
      a.status = (handler (frameOf q fits) c).response.status ∧
      (coreServer features code c q).2 = (handler (frameOf q fits) c).core := by
  unfold coreServer at answer ⊢
  split at answer
  · rename_i fits
    rw [dif_pos fits]
    cases answer
    refine ⟨fits, ?_⟩
    rw [processOne_dispatch ⟨rfl, rfl, rfl⟩, dispatched (frameOf q fits) rfl]
    exact ⟨rfl, rfl⟩
  · cases answer

theorem ramLoad_rules : SessionRules (coreServer features code) ramLoad
    (fun c => c.algorithm.ramLoad.active = 0) (fun c => c.algorithm.ramLoad.active ≠ 0) := by
  constructor
  · intro c q fits
    unfold coreServer
    rw [dif_pos fits]
    exact ⟨_, rfl⟩
  · intro c q a command closed answer
    obtain ⟨fits, status, state⟩ := coreServer_served
      (fun _ h => dispatch_ramLoadBegin (h.trans command)) answer
    rw [status, state]
    have begun := @handleRamLoadBegin_closed _ c (frameOf q fits) closed
    rw [word_payload] at begun
    exact begun
  · intro c q a command opened answer
    obtain ⟨fits, status, state⟩ := coreServer_served
      (fun _ h => dispatch_ramLoadData (h.trans command)) answer
    rw [status, state]
    have loaded := @handleRamLoadData_open _ c (frameOf q fits) opened
    rw [word_payload] at loaded
    exact loaded
  · intro c q a command opened answer
    obtain ⟨fits, -, state⟩ := coreServer_served
      (fun _ h => dispatch_ramLoadEnd (h.trans command)) answer
    show (coreServer features code c q).2.algorithm.ramLoad.active = 0
    rw [state]
    exact handleRamLoadEnd_closes opened

end

/-! ## What a transfer leaves -/

/-- At most one END was sent, the session is closed and a BEGIN is not refused
as busy, and the result marks the Flash as partial exactly for a Program that
was cancelled after a packet and before the last one. -/
structure LeavesClean {S : Type} (server : HostServer S) (kind : TransferKind) (Closed : S → Prop)
    (isProgram : Bool) (packets : List DataPacket)
    (ran : Dialogue.Ran HostRequest HostAnswer HostError S CancellableTransferOutcome) : Prop where
  endOnce : (ran.exchanges.filter fun x => x.1.command = kind.endCommand).length ≤ 1
  closed : Closed ran.state
  notBusy : ∀ q a, q.command = kind.beginCommand → (server ran.state q).1 = .ok a →
    a.status ≠ BootStatus.busy
  partialFlash : ∀ outcome, ran.result = .ok outcome →
    ((∃ i, outcome.cancellation = some i ∧ i.partialFlashProgrammed = true) ↔
      isProgram = true ∧ outcome.cancellation.isSome = true ∧
        0 < kind.acceptedData ran.exchanges ∧ kind.acceptedData ran.exchanges < packets.length)
  eraseBeforeRetry : ∀ outcome, ran.result = .ok outcome →
    ((∃ i, outcome.cancellation = some i ∧ i.eraseBeforeRetryRequired = true) ↔
      isProgram = true ∧ outcome.cancellation.isSome = true ∧
        0 < kind.acceptedData ran.exchanges ∧ kind.acceptedData ran.exchanges < packets.length)

/-- The device accepts the whole transfer, and the first read of the token that
finds a request is one of the two after the last packet. -/
structure CompletesAfterCancel {S : Type} (server : HostServer S) (kind : TransferKind) (s : S)
    (limit entryPoint imageCrc32 : Nat) (packets : List DataPacket) (polls : Nat → Bool) : Prop where
  device : Accepted server kind s limit entryPoint imageCrc32 packets
  early : ∀ k ≤ packets.length, polls k = false
  late : polls (packets.length + 1) = true ∨ polls (packets.length + 2) = true

section
variable {S : Type} {server : HostServer S} {kind : TransferKind} {Closed Open : S → Prop} {s : S}

/-- The flags of a result, in each of the ways a transfer can end. -/
theorem TransferEnd.flags {packets : List DataPacket} {accepted' : Prop} {polls : Nat → Bool}
    {result : Except HostError CancellableTransferOutcome} {accepted : Nat} {isProgram : Bool}
    (ends : TransferEnd kind packets accepted' polls result accepted)
    (marks : ∀ words, kind.partialFlashProgrammed words = (isProgram && words ≠ 0))
    (regular : isProgram = true → ¬ (accepted' ∧ (∀ k ≤ packets.length, polls k = false) ∧
      (polls (packets.length + 1) = true ∨ polls (packets.length + 2) = true)))
    (flag : OperationCancellationInfo → Bool)
    (marked : ∀ words i, kind.Marked words i → flag i = kind.partialFlashProgrammed words) :
    ∀ outcome, result = .ok outcome →
      ((∃ i, outcome.cancellation = some i ∧ flag i = true) ↔
        isProgram = true ∧ outcome.cancellation.isSome = true ∧ 0 < accepted ∧
          accepted < packets.length) := by
  intro outcome same
  cases ends with
  | raised => cases same
  | @cancelled outcome i words accepted info mark sent cut early =>
    cases same
    have value := marked words i mark
    rw [marks] at value
    rw [info]
    constructor
    · rintro ⟨j, hj, set⟩
      cases hj
      rw [value, Bool.and_eq_true, decide_eq_true_eq, ne_eq, sent] at set
      exact ⟨set.1, rfl, by omega, by omega⟩
    · rintro ⟨program, -, some, -⟩
      refine ⟨i, rfl, ?_⟩
      rw [value, program, Bool.true_and, decide_eq_true_eq, ne_eq, sent]
      omega
  | completed info late =>
    cases same
    rw [info]
    simp
  | completedAfterCancel info mark device words early late =>
    cases same
    have value := marked _ _ mark
    rw [marks] at value
    rw [info]
    constructor
    · rintro ⟨j, hj, set⟩
      cases hj
      rw [value, Bool.and_eq_true] at set
      exact absurd ⟨device, early, late⟩ (regular set.1)
    · rintro ⟨-, -, -, less⟩
      exact absurd less (Nat.lt_irrefl _)

theorem SessionRules.leavesClean (rules : SessionRules server kind Closed Open)
    (distinct : Distinct kind) (named : Named kind) {isProgram : Bool}
    (marks : ∀ words, kind.partialFlashProgrammed words = (isProgram && words ≠ 0))
    {limit : Nat} (entryPoint imageCrc32 : Nat) {packets : List DataPacket} (polls : Nat → Bool)
    (sendable : ∀ packet ∈ packets, Sendable limit packet) (closed : Closed s) :
    LeavesClean server kind Closed isProgram packets
        (((kind.transfer limit entryPoint imageCrc32 packets).runCancellableTransfer polls).run
          server s) ↔
      (isProgram = true → ¬ CompletesAfterCancel server kind s limit entryPoint imageCrc32 packets
        polls) := by
  have ran := rules.ends_transfer distinct named entryPoint imageCrc32 polls sendable closed
  have ending := transfer_endsWith distinct limit entryPoint imageCrc32 packets polls
  have once := ending.run server s fun q ne => ne
  unfold Dialogue.Ends at ran
  generalize ((kind.transfer limit entryPoint imageCrc32 packets).runCancellableTransfer polls).run
    server s = r at ran once ⊢
  obtain ⟨after, ends⟩ := ran
  constructor
  · rintro clean program ⟨device, early, late⟩
    generalize hr : r.result = result at ends
    generalize ha : kind.acceptedData r.exchanges = accepted at ends
    cases ends with
    | raised refused => exact refused ⟨device, early⟩
    | cancelled info marked sent cut early' =>
      obtain ⟨k, hk, requested⟩ := early'
      rw [early k hk] at requested
      cases requested
    | completed info late' =>
      rcases late with late | late
      · rw [late'.1] at late
        cases late
      · rw [late'.2] at late
        cases late
    | @completedAfterCancel outcome i info marked device words early' late' =>
      have set : i.partialFlashProgrammed = true := by
        rw [marked.partialFlash, marks, program]
        simpa using words
      have less := ((clean.partialFlash outcome hr).1 ⟨i, info, set⟩).2.2.2
      rw [ha] at less
      exact absurd less (Nat.lt_irrefl _)
  · intro regular
    have regular' : isProgram = true → ¬ (_ ∧ (∀ k ≤ packets.length, polls k = false) ∧ _) :=
      fun program h => regular program ⟨h.1, h.2.1, h.2.2⟩
    constructor
    · exact once
    · exact after
    · exact fun q a command answer => (rules.begins r.state q a command after answer).1
    · exact ends.flags marks regular' _ fun words i h => h.partialFlash
    · exact ends.flags marks regular' _ fun words i h => h.eraseBeforeRetry

end

/-! ## The three transfers -/

theorem program_distinct : Distinct program := ⟨by decide, by decide, by decide⟩

theorem verify_distinct : Distinct verify := ⟨by decide, by decide, by decide⟩

theorem ramLoad_distinct : Distinct ramLoad := ⟨by decide, by decide, by decide⟩

theorem program_named : Named program := by
  constructor
  · exact show "PROGRAM_BEGIN" ≠ "" by decide
  · exact show "PROGRAM_END" ≠ "" by decide
  · intro sent
    show (if sent ≠ 0 then "ERASE_AND_RESTART_PROGRAM" else "RESTART_PROGRAM") ∈ recoveryActions
    split <;> decide
  · intro sent
    show (if sent ≠ 0 then "RECONNECT_ERASE_AND_RESTART_PROGRAM"
      else "RECONNECT_AND_RESTART_PROGRAM") ∈ recoveryActions
    split <;> decide

theorem verify_named : Named verify :=
  ⟨by decide, by decide, fun _ => show "RESTART_VERIFY" ∈ recoveryActions by decide,
    fun _ => show "RECONNECT_AND_RESTART_VERIFY" ∈ recoveryActions by decide⟩

theorem ramLoad_named : Named ramLoad :=
  ⟨by decide, by decide, fun _ => show "RESTART_RAM_LOAD" ∈ recoveryActions by decide,
    fun _ => show "RECONNECT_AND_RESTART_RAM_LOAD" ∈ recoveryActions by decide⟩

/-- A Verify and a RAM load leave the device clean and their results tell so.
A Program does unless it completes after a cancellation. -/
theorem transfer_leaves_clean {τ : Type} (port : FlashPort σ) (s : FlashService σ)
    (features : BootFeatures) (code : ServiceCode τ) (c : Core τ)
    (limit entryPoint imageCrc32 : Nat) (packets : List DataPacket) (polls : Nat → Bool)
    (sendable : ∀ packet ∈ packets, Sendable limit packet)
    (idle : s.runtime.session.operation = .none) (inactive : c.algorithm.ramLoad.active = 0) :
    (LeavesClean (flashServer port) program (fun s => s.runtime.session.operation = .none) true
        packets
        (((program.transfer limit entryPoint imageCrc32 packets).runCancellableTransfer polls).run
          (flashServer port) s) ↔
      ¬ CompletesAfterCancel (flashServer port) program s limit entryPoint imageCrc32 packets
        polls) ∧
    LeavesClean (flashServer port) verify (fun s => s.runtime.session.operation = .none) false
      packets
      (((verify.transfer limit entryPoint imageCrc32 packets).runCancellableTransfer polls).run
        (flashServer port) s) ∧
    LeavesClean (coreServer features code) ramLoad (fun c => c.algorithm.ramLoad.active = 0) false
      packets
      (((ramLoad.transfer limit entryPoint imageCrc32 packets).runCancellableTransfer polls).run
        (coreServer features code) c) := by
  have programRules := @flash_rules _ port .program program (by decide) rfl rfl rfl
  have verifyRules := @flash_rules _ port .verify verify (by decide) rfl rfl rfl
  have loadRules : SessionRules (coreServer features code) ramLoad _ _ := ramLoad_rules
  constructor
  · have marks : ∀ words, program.partialFlashProgrammed words = (true && words ≠ 0) :=
      fun _ => rfl
    have clean := programRules.leavesClean program_distinct program_named marks entryPoint
      imageCrc32 polls sendable idle
    rw [clean]
    exact ⟨fun h => h rfl, fun h _ => h⟩
  constructor
  · apply (verifyRules.leavesClean verify_distinct verify_named (fun _ => rfl) entryPoint imageCrc32
      polls sendable idle).2
    intro verifies
    cases verifies
  · apply (loadRules.leavesClean ramLoad_distinct ramLoad_named (fun _ => rfl) entryPoint imageCrc32
      polls sendable inactive).2
    intro loads
    cases loads

section
open BootFlashService BootAlgorithm

/-- One packet of a whole unit. -/
def unitPacket : DataPacket := ⟨0x082400, List.replicate 8 0x1234, 0⟩

/-- The Program of that packet, with the token read as `polls` says. -/
def unitProgram (polls : Nat → Bool) :=
  ((program.transfer 256 0x082400 0 [unitPacket]).runCancellableTransfer polls).run
    (flashServer failingErasePort) freshService

theorem transfer_leaves_clean_unit :
    LeavesClean (flashServer failingErasePort) program
      (fun s => s.runtime.session.operation = .none) true [unitPacket]
      (unitProgram fun _ => false) := by
  have sendable : ∀ packet ∈ [unitPacket], Sendable 256 packet := by
    intro packet mem
    obtain rfl := List.mem_singleton.1 mem
    exact ⟨by decide, by decide, by decide, by decide⟩
  have clean := transfer_leaves_clean failingErasePort freshService ⟨true, false, false⟩ idleService
    cpu1Core 256 0x082400 0 [unitPacket] (fun _ => false) sendable (by decide +kernel) rfl
  apply clean.1.2
  rintro ⟨-, -, late | late⟩ <;> cases late

/-- The token is requested after the only packet: the Program completes, and
its result still asks for an erase before a retry. -/
theorem transfer_leaves_clean_late :
    ¬ LeavesClean (flashServer failingErasePort) program
      (fun s => s.runtime.session.operation = .none) true [unitPacket]
      (unitProgram fun k => k = 2) := by
  intro clean
  have marked : (unitProgram fun k => k = 2).result.toOption.any
      (fun outcome => outcome.cancellation.any (·.partialFlashProgrammed)) = true := by
    decide +kernel
  have accepted : program.acceptedData (unitProgram fun k => k = 2).exchanges = 1 := by
    decide +kernel
  have less := clean.partialFlash
  generalize (unitProgram fun k => k = 2).result = result at marked less
  cases result with
  | error error => cases marked
  | ok outcome =>
    have marked : outcome.cancellation.any (·.partialFlashProgrammed) = true := marked
    obtain ⟨i, info, set⟩ := (Option.any_eq_true _ _).1 marked
    have := ((less outcome rfl).1 ⟨i, info, set⟩).2.2.2
    rw [accepted] at this
    exact absurd this (by decide)

end

end TransferKind

end BootUpgrade

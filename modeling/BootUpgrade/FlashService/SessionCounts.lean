import BootUpgrade.FlashService.VerifyGate

/-!
# The counters of a session

PROGRAM and VERIFY share one session and its counters. The counters are those
of the packets accepted since the BEGIN of the open session, and an END is
accepted only when these are the packets the BEGIN and the END declare.
-/

namespace BootUpgrade.BootFlashService

variable {σ : Type}

def beginCommand (operation : SessionOperation) : UInt16 :=
  if operation = .program then BootCmd.programBegin else BootCmd.verifyBegin

def dataCommand (operation : SessionOperation) : UInt16 :=
  if operation = .program then BootCmd.programData else BootCmd.verifyData

def endCommand (operation : SessionOperation) : UInt16 :=
  if operation = .program then BootCmd.programEnd else BootCmd.verifyEnd

/-- The event is a request of this command, answered with OK. -/
structure AcceptedRequest (command : UInt16) (request : BootProtocolFrame)
    (ev : ServiceEvent σ) : Prop where
  input : ev.input = .command request
  command : request.command = command
  status : ev.output.status = BootStatus.ok

/-- The packet of an accepted DATA request. -/
def acceptedData (operation : SessionOperation) (ev : ServiceEvent σ) : Option BootProtocolFrame :=
  match ev.input with
  | .command request =>
    if request.command = dataCommand operation ∧ ev.output.status = BootStatus.ok then some request
    else none
  | _ => none

/-- The packets of the accepted DATA requests, in order. -/
def dataPackets (operation : SessionOperation) (h : List (ServiceEvent σ)) :
    List BootProtocolFrame :=
  h.filterMap (acceptedData operation)

/-- The sum of the word counts of the packets. -/
def wordTotal : List BootProtocolFrame → Nat
  | [] => 0
  | p :: ps => (p.word 2).toNat + wordTotal ps

theorem wordTotal_append (ps qs : List BootProtocolFrame) :
    wordTotal (ps ++ qs) = wordTotal ps + wordTotal qs := by
  induction ps with
  | nil => simp [wordTotal]
  | cons p ps ih => simp only [List.cons_append, wordTotal, ih]; omega

/-- The last BEGIN of the operation, and the packets accepted while its session
has been open. -/
def SessionOpen (operation : SessionOperation) (begin' : BootProtocolFrame)
    (ps : List BootProtocolFrame) (h : List (ServiceEvent σ)) : Prop :=
  ∃ past b since, h = past ++ b :: since ∧
    AcceptedRequest (beginCommand operation) begin' b ∧
    (∀ ev ∈ since, ev.after.runtime.session.operation = operation) ∧
    ps = dataPackets operation since

/-- The packets have the block indices 0, 1, … and the words the BEGIN declares. -/
structure Declared (begin' : BootProtocolFrame) (ps : List BootProtocolFrame) : Prop where
  indices : ps.map (fun p => (p.u32 3).toNat) = List.range (begin'.word 1).toNat
  total : wordTotal ps = (begin'.u32 2).toNat

/-- The counters of the session are those of its packets. -/
structure Counted (begin' : BootProtocolFrame) (ps : List BootProtocolFrame)
    (session : BootFlashServiceSession) : Prop where
  expectedPackets : session.expectedPacketCount = (begin'.word 1).toUInt32
  expectedWords : session.expectedTotalWords = begin'.u32 2
  index : session.expectedBlockIndex = session.processedPacketCount
  indices : ps.map (fun p => (p.u32 3).toNat) = List.range session.processedPacketCount.toNat
  total : wordTotal ps = session.processedTotalWords.toNat

/-- The processed counts stay within the declared ones. -/
structure WithinDeclared (session : BootFlashServiceSession) : Prop where
  packets : session.processedPacketCount ≤ session.expectedPacketCount
  words : session.processedTotalWords ≤ session.expectedTotalWords

/-! ## What an event does to the session -/

/-- The event is neither an accepted BEGIN nor an accepted DATA. -/
structure Uncounted (ev : ServiceEvent σ) : Prop where
  begins : ∀ operation request, ¬ AcceptedRequest (beginCommand operation) request ev
  data : ∀ operation, acceptedData operation ev = none

inductive SessionStep (ev : ServiceEvent σ) : Prop
  | kept (uncounted : Uncounted ev)
      (session : ev.after.runtime.session = ev.before.runtime.session)
      (initialized : ev.after.runtime.initialized = ev.before.runtime.initialized)
  | closed (uncounted : Uncounted ev) (session : ev.after.runtime.session = .reset)
  | begun (operation : SessionOperation) (request : BootProtocolFrame)
      (operation_ne : operation ≠ .none)
      (accepted : AcceptedRequest (beginCommand operation) request ev)
      (idle : ev.before.runtime.session.operation = .none)
      (session : ev.after.runtime.session = begunSession request operation)
      (initialized : ev.after.runtime.initialized ≠ 0)
  | counted (operation : SessionOperation) (request : BootProtocolFrame)
      (operation_ne : operation ≠ .none)
      (accepted : AcceptedRequest (dataCommand operation) request ev)
      (active : ev.before.runtime.session.operation = operation)
      (index : request.u32 3 = ev.before.runtime.session.expectedBlockIndex)
      (packets : ev.before.runtime.session.processedPacketCount <
        ev.before.runtime.session.expectedPacketCount)
      (words : (request.word 2).toUInt32 ≤
        ev.before.runtime.session.expectedTotalWords -
          ev.before.runtime.session.processedTotalWords)
      (session : ev.after.runtime.session =
        countPacket ev.before.runtime.session (request.word 2))
      (initialized : ev.after.runtime.initialized = ev.before.runtime.initialized)

theorem beginCommand_ne_dataCommand (a b : SessionOperation) : beginCommand a ≠ dataCommand b := by
  cases a <;> cases b <;> decide

theorem uncounted_request {ev : ServiceEvent σ} {request : BootProtocolFrame}
    (input : ev.input = .command request)
    (other : ev.output.status = BootStatus.ok → ∀ operation,
      request.command ≠ beginCommand operation ∧ request.command ≠ dataCommand operation) :
    Uncounted ev := by
  constructor
  · rintro operation request' ⟨input', command, status⟩
    rw [input] at input'
    cases input'
    exact (other status operation).1 command
  · intro operation
    rw [acceptedData, input]
    exact if_neg fun h => (other h.2 operation).2 h.1

theorem uncounted_input {ev : ServiceEvent σ} (input : ∀ request, ev.input ≠ .command request) :
    Uncounted ev := by
  constructor
  · rintro operation request ⟨input', -, -⟩
    exact input request input'
  · intro operation
    unfold acceptedData
    split
    · rename_i request input'
      exact absurd input' (input request)
    · rfl

section
variable {port : FlashPort σ} {s : FlashService σ} {s' : FlashService (Logged σ)}
  {status : UInt16} {error : BootErrorDetail} {request : BootProtocolFrame}

theorem appendStep_session {asked : Option BootProtocolFrame}
    (h : AppendStep port.logged asked (watched s) status s') :
    s'.runtime.session = s.runtime.session ∧ s'.runtime.initialized = s.runtime.initialized := by
  cases h with
  | untouched => exact ⟨rfl, rfl⟩
  | unprepared _ prepared => exact ⟨prepared.session, prepared.serviceInitialized⟩
  | written _ _ prepared => exact ⟨prepared.session, prepared.serviceInitialized⟩
  | imageWritten _ _ prepared _ => exact ⟨prepared.session, prepared.serviceInitialized⟩

theorem sessionStep_of_step (initialized : status = BootStatus.ok → s.runtime.initialized ≠ 0)
    (h : Step port.logged request (watched s) status s') :
    SessionStep (eventOf s (.command request) status error s') := by
  have refusal (refused : status ≠ BootStatus.ok) {s' : FlashService (Logged σ)} :
      Uncounted (eventOf s (.command request) status error s') :=
    uncounted_request rfl fun ok => absurd ok refused
  have other {status : UInt16} {s' : FlashService (Logged σ)}
      (ne : ∀ operation, request.command ≠ beginCommand operation ∧
        request.command ≠ dataCommand operation) :
      Uncounted (eventOf s (.command request) status error s') :=
    uncounted_request rfl fun _ => ne
  cases h with
  | refused refused => exact .kept (refusal refused) rfl rfl
  | unprepared refused prepared =>
    exact .kept (refusal refused) prepared.session prepared.serviceInitialized
  | aborted refused => exact .closed (refusal refused) rfl
  | erased command mask prepared done =>
    apply SessionStep.closed (other ?_) rfl
    intro operation
    rw [command]
    cases operation <;> decide
  | eraseFailed command refused mask prepared failed =>
    exact .kept (refusal refused) prepared.session prepared.serviceInitialized
  | begun operation command operation_ne idle length packets words prepared =>
    apply SessionStep.begun operation request operation_ne ⟨rfl, command, rfl⟩ idle rfl
    have same := prepared.serviceInitialized
    have nonzero := initialized rfl
    rw [← show (watched s).runtime.initialized = s.runtime.initialized from rfl, ← same] at nonzero
    exact nonzero
  | programmed command ready done =>
    exact .counted .program request (by decide) ⟨rfl, command, rfl⟩ ready.session ready.index
      ready.packets ready.total rfl rfl
  | programFailed command refused ready failed => exact .closed (refusal refused) rfl
  | verified command ready done =>
    exact .counted .verify request (by decide) ⟨rfl, command, rfl⟩ ready.session ready.index
      ready.packets ready.total rfl rfl
  | verifyFailed command refused ready => exact .closed (refusal refused) rfl
  | ended operation command operation_ne session counts =>
    apply SessionStep.closed (other ?_)
    · cases operation <;> rfl
    · intro other
      rw [command]
      cases operation <;> cases other <;> decide
  | append command append =>
    obtain ⟨session, initialized⟩ := appendStep_session append
    apply SessionStep.kept (other ?_) session initialized
    intro operation
    rw [command]
    cases operation <;> decide

end

theorem sessionStep_event (port : FlashPort σ) (s : FlashService σ) (input : ServiceInput) :
    SessionStep ((serviceMachine port).event s input) := by
  cases input with
  | bootInit deviceId cpuId maxDataWords =>
    apply SessionStep.closed (uncounted_input ?_)
    · exact (bootInit_closed deviceId cpuId maxDataWords s).1
    · intro request input
      cases input
  | command request =>
    apply sessionStep_of_step ?_ (bootHandleCommand_step 0 .clear)
    intro accepted uninitialized
    have zero : (watched s).runtime.initialized = 0 := uninitialized
    rw [bootHandleCommand, if_pos zero] at accepted
    exact absurd accepted (show BootStatus.invalidState ≠ BootStatus.ok by decide)
  | confirmCurrentImage =>
    obtain ⟨session, initialized⟩ :=
      @appendStep_session _ port s _ _ none confirmJournal_step
    apply SessionStep.kept (uncounted_input ?_) session initialized
    intro request input
    cases input

/-! ## The counters over a run -/

section
variable {h : List (ServiceEvent σ)} {ev : ServiceEvent σ} {operation : SessionOperation}
  {begin' request : BootProtocolFrame} {ps : List BootProtocolFrame}

theorem dataPackets_snoc : dataPackets operation (h ++ [ev]) =
    dataPackets operation h ++ (acceptedData operation ev).toList := by
  rw [dataPackets, List.filterMap_append, List.filterMap_cons, List.filterMap_nil]
  cases acceptedData operation ev <;> rfl

theorem acceptedData_accepted (accepted : AcceptedRequest (dataCommand operation) request ev) :
    acceptedData operation ev = some request := by
  rw [acceptedData, accepted.input]
  exact if_pos ⟨accepted.command, accepted.status⟩

theorem beginCommand_inj {a b : SessionOperation} (ha : a ≠ .none) (hb : b ≠ .none)
    (h : beginCommand a = beginCommand b) : a = b := by
  cases a <;> cases b <;> first | rfl | exact absurd rfl ‹_› | exact absurd h (by decide)

/-- The last event has opened the session or has left it open. -/
theorem sessionOpen_snoc (hs : SessionOpen operation begin' ps (h ++ [ev])) :
    AcceptedRequest (beginCommand operation) begin' ev ∧ ps = [] ∨
      ∃ qs, SessionOpen operation begin' qs h ∧
        ev.after.runtime.session.operation = operation ∧
        ps = qs ++ (acceptedData operation ev).toList := by
  obtain ⟨past, b, since, split, begun, stays, rfl⟩ := hs
  rcases List.eq_nil_or_concat since with rfl | ⟨earlier, last, rfl⟩
  · obtain ⟨-, tail⟩ := List.append_inj' split rfl
    obtain rfl : ev = b := by simpa using tail
    exact .inl ⟨begun, rfl⟩
  · rw [List.concat_eq_append] at *
    rw [← List.cons_append, ← List.append_assoc] at split
    obtain ⟨before, tail⟩ := List.append_inj' split rfl
    obtain rfl : ev = last := by simpa using tail
    refine .inr ⟨_, ⟨past, b, earlier, before, begun, ?_, rfl⟩, stays ev (by simp), dataPackets_snoc⟩
    intro x hx
    exact stays x (List.mem_append_left _ hx)

theorem SessionOpen.lasts (hs : SessionOpen operation begin' ps h)
    (stays : ev.after.runtime.session.operation = operation) :
    SessionOpen operation begin' (ps ++ (acceptedData operation ev).toList) (h ++ [ev]) := by
  obtain ⟨past, b, since, rfl, begun, open', rfl⟩ := hs
  refine ⟨past, b, since ++ [ev], by simp, begun, ?_, dataPackets_snoc.symm⟩
  intro x hx
  rcases List.mem_append.1 hx with hx | hx
  · exact open' x hx
  · rw [List.mem_singleton.1 hx]
    exact stays

theorem Counted.begun (request : BootProtocolFrame) (operation : SessionOperation) :
    Counted request [] (begunSession request operation) := by
  constructor <;> rfl

/-- The counters of an accepted packet do not wrap. -/
theorem countPacket_within {session : BootFlashServiceSession} (within : WithinDeclared session)
    (packets : session.processedPacketCount < session.expectedPacketCount)
    (words : (request.word 2).toUInt32 ≤
      session.expectedTotalWords - session.processedTotalWords) :
    (session.processedPacketCount + 1).toNat = session.processedPacketCount.toNat + 1 ∧
      (session.processedTotalWords + (request.word 2).toUInt32).toNat =
        session.processedTotalWords.toNat + (request.word 2).toNat ∧
      WithinDeclared (countPacket session (request.word 2)) := by
  have packets := UInt32.lt_iff_toNat_lt.1 packets
  have words := UInt32.le_iff_toNat_le.1 words
  have expected := session.expectedPacketCount.toNat_lt
  have total := session.expectedTotalWords.toNat_lt
  have one : (1 : UInt32).toNat = 1 := rfl
  have within := UInt32.le_iff_toNat_le.1 within.words
  rw [UInt32.toNat_sub_of_le _ _ (UInt32.le_iff_toNat_le.2 within), UInt16.toNat_toUInt32] at words
  have next : (session.processedPacketCount + 1).toNat = session.processedPacketCount.toNat + 1 := by
    rw [Words.toNat_add_of_lt (by omega), one]
  have sum : (session.processedTotalWords + (request.word 2).toUInt32).toNat =
      session.processedTotalWords.toNat + (request.word 2).toNat := by
    rw [Words.toNat_add_of_lt (by rw [UInt16.toNat_toUInt32]; omega), UInt16.toNat_toUInt32]
  refine ⟨next, sum, ?_, ?_⟩
  · show session.processedPacketCount + 1 ≤ session.expectedPacketCount
    rw [UInt32.le_iff_toNat_le, next]
    omega
  · show session.processedTotalWords + (request.word 2).toUInt32 ≤ session.expectedTotalWords
    rw [UInt32.le_iff_toNat_le, sum]
    omega

theorem Counted.counts {session : BootFlashServiceSession} (counted : Counted begin' ps session)
    (within : WithinDeclared session) (index : request.u32 3 = session.expectedBlockIndex)
    (packets : session.processedPacketCount < session.expectedPacketCount)
    (words : (request.word 2).toUInt32 ≤
      session.expectedTotalWords - session.processedTotalWords) :
    Counted begin' (ps ++ [request]) (countPacket session (request.word 2)) := by
  obtain ⟨next, sum, -⟩ := countPacket_within within packets words
  constructor
  · exact counted.expectedPackets
  · exact counted.expectedWords
  · show session.expectedBlockIndex + 1 = session.processedPacketCount + 1
    rw [counted.index]
  · show _ = List.range (session.processedPacketCount + 1).toNat
    rw [List.map_append, counted.indices, next, List.range_succ, List.map_singleton, index,
      counted.index]
  · show _ = (session.processedTotalWords + (request.word 2).toUInt32).toNat
    rw [wordTotal_append, counted.total, sum]
    rfl

end

/-- What the history says about the session. -/
structure SessionInvariant (h : List (ServiceEvent σ)) (s : FlashService σ) : Prop where
  within : WithinDeclared s.runtime.session
  opened : ∀ operation, operation ≠ .none → s.runtime.session.operation = operation →
    ∃ begin' ps, SessionOpen operation begin' ps h
  counted : ∀ operation begin' ps, operation ≠ .none → SessionOpen operation begin' ps h →
    s.runtime.session.operation = operation ∧ s.runtime.initialized ≠ 0 ∧
      Counted begin' ps s.runtime.session

theorem SessionInvariant.step {h : List (ServiceEvent σ)} {ev : ServiceEvent σ}
    (inv : SessionInvariant h ev.before) (step : SessionStep ev) :
    SessionInvariant (h ++ [ev]) ev.after := by
  cases step with
  | kept uncounted session initialized =>
    constructor
    · rw [session]
      exact inv.within
    · intro operation ne active
      obtain ⟨begin', ps, opened⟩ := inv.opened operation ne (session ▸ active)
      exact ⟨begin', _, opened.lasts active⟩
    · intro operation begin' ps ne opened
      rw [session, initialized]
      rcases sessionOpen_snoc opened with ⟨accepted, -⟩ | ⟨qs, before, -, rfl⟩
      · exact absurd accepted (uncounted.begins operation begin')
      · rw [uncounted.data operation, Option.toList_none, List.append_nil]
        exact inv.counted operation begin' qs ne before
  | closed uncounted session =>
    constructor
    · rw [session]
      exact ⟨UInt32.le_refl 0, UInt32.le_refl 0⟩
    · intro operation ne active
      rw [session] at active
      exact absurd active.symm ne
    · intro operation begin' ps ne opened
      rcases sessionOpen_snoc opened with ⟨accepted, -⟩ | ⟨qs, before, active, rfl⟩
      · exact absurd accepted (uncounted.begins operation begin')
      · rw [session] at active
        exact absurd active.symm ne
  | begun operation request operation_ne accepted idle session initialized =>
    constructor
    · rw [session]
      exact ⟨UInt32.zero_le, UInt32.zero_le⟩
    · intro operation' ne active
      rw [session] at active
      obtain rfl : operation = operation' := active
      exact ⟨request, [], h, ev, [], rfl, accepted, by simp, rfl⟩
    · intro operation' begin' ps ne opened
      rcases sessionOpen_snoc opened with ⟨accepted', rfl⟩ | ⟨qs, before, -, -⟩
      · have same := accepted.input.symm.trans accepted'.input
        cases same
        obtain rfl := beginCommand_inj ne operation_ne
          (accepted'.command.symm.trans accepted.command)
        rw [session]
        exact ⟨rfl, initialized, .begun request operation'⟩
      · have active := (inv.counted operation' begin' qs ne before).1
        rw [idle] at active
        exact absurd active.symm ne
  | counted operation request operation_ne accepted active index packets words session initialized =>
    have stays : ev.after.runtime.session.operation = operation := by
      rw [session]
      exact active
    constructor
    · rw [session]
      exact (countPacket_within inv.within packets words).2.2
    · intro operation' ne active'
      obtain rfl := stays.symm.trans active'
      obtain ⟨begin', ps, opened⟩ := inv.opened operation ne active
      exact ⟨begin', _, opened.lasts stays⟩
    · intro operation' begin' ps ne opened
      rcases sessionOpen_snoc opened with ⟨accepted', -⟩ | ⟨qs, before, -, rfl⟩
      · have same := accepted.input.symm.trans accepted'.input
        cases same
        exact absurd (accepted'.command.symm.trans accepted.command)
          (beginCommand_ne_dataCommand operation' operation)
      · obtain ⟨active', nonzero, counted⟩ := inv.counted operation' begin' qs ne before
        obtain rfl := active.symm.trans active'
        rw [session, initialized, acceptedData_accepted accepted]
        exact ⟨active, nonzero, counted.counts inv.within index packets words⟩

theorem sessionInvariant_run (port : FlashPort σ) {s₀ : FlashService σ}
    (fresh : s₀.runtime.session = .reset) (inputs : List ServiceInput) :
    SessionInvariant ((serviceMachine port).history s₀ inputs)
      ((serviceMachine port).run s₀ inputs) := by
  apply (serviceMachine port).history_induction s₀ SessionInvariant
  · constructor
    · rw [fresh]
      exact ⟨UInt32.le_refl 0, UInt32.le_refl 0⟩
    · intro operation ne active
      rw [fresh] at active
      exact absurd active.symm ne
    · rintro operation begin' ps - ⟨past, b, since, split, -⟩
      cases past <;> cases split
  · intro h s input inv
    exact inv.step (sessionStep_event port s input)

/-! ## DATA and END requests -/

section
variable {port : FlashPort σ} {s : FlashService σ} {request : BootProtocolFrame}
  {operation : SessionOperation}

def errorOperation (operation : SessionOperation) : UInt16 :=
  if operation = .program then BootErr.opProgram else BootErr.opVerify

theorem dispatch_end (ne : operation ≠ .none) (command : request.command = endCommand operation) :
    dispatch port request s = handleEnd request operation (errorOperation operation) s := by
  unfold dispatch
  rw [command]
  cases operation with
  | none => exact absurd rfl ne
  | program =>
    rw [if_neg (by decide), if_neg (by decide), if_neg (by decide)]
    exact if_pos rfl
  | verify =>
    rw [if_neg (by decide), if_neg (by decide), if_neg (by decide), if_neg (by decide),
      if_neg (by decide), if_neg (by decide)]
    exact if_pos rfl

theorem dispatch_begin (ne : operation ≠ .none)
    (command : request.command = beginCommand operation) :
    ∃ failedStatus, (failedStatus = BootStatus.programFailed ∨ failedStatus = BootStatus.verifyFailed) ∧
      dispatch port request s =
        handleBegin port request operation (errorOperation operation) failedStatus s := by
  unfold dispatch
  rw [command]
  cases operation with
  | none => exact absurd rfl ne
  | program =>
    refine ⟨BootStatus.programFailed, .inl rfl, ?_⟩
    rw [if_neg (by decide)]
    exact if_pos rfl
  | verify =>
    refine ⟨BootStatus.verifyFailed, .inr rfl, ?_⟩
    rw [if_neg (by decide), if_neg (by decide), if_neg (by decide), if_neg (by decide)]
    exact if_pos rfl

/-- The arguments of `BootFlashService_HandleData` for each of the two operations. -/
theorem dispatch_data (ne : operation ≠ .none) (command : request.command = dataCommand operation) :
    ∃ flashOperation failedStatus, dispatch port request s =
      handleData port request operation (errorOperation operation) flashOperation failedStatus s := by
  unfold dispatch
  rw [command]
  cases operation with
  | none => exact absurd rfl ne
  | program =>
    refine ⟨.program, BootStatus.programFailed, ?_⟩
    rw [if_neg (by decide), if_neg (by decide)]
    exact if_pos rfl
  | verify =>
    refine ⟨.verify, BootStatus.verifyFailed, ?_⟩
    rw [if_neg (by decide), if_neg (by decide), if_neg (by decide), if_neg (by decide),
      if_neg (by decide)]
    exact if_pos rfl

theorem handleEnd_ok_iff {errorOperation : UInt16} (ne : operation ≠ .none) :
    (handleEnd request operation errorOperation s).status = BootStatus.ok ↔
      s.runtime.session.operation = operation ∧ request.payloadWords = 6 ∧
        countsMatch request s.runtime.session := by
  let motive (o : Outcome σ) : Prop := o.status = BootStatus.ok ↔
    s.runtime.session.operation = operation ∧ request.payloadWords = 6 ∧
      countsMatch request s.runtime.session
  have refused {o : Outcome σ} (status : o.status ≠ BootStatus.ok)
      (fails : ¬ (s.runtime.session.operation = operation ∧ request.payloadWords = 6 ∧
        countsMatch request s.runtime.session)) : motive o :=
    iff_of_false status fails
  apply iteInduction (motive := motive)
  · intro closed
    apply refused (show BootStatus.missingBegin ≠ BootStatus.ok by decide)
    rintro ⟨active, -, -⟩
    exact ne (active.symm.trans closed)
  intro _
  apply iteInduction (motive := motive)
  · intro other
    apply refused (show BootStatus.unexpectedEnd ≠ BootStatus.ok by decide)
    exact fun h => other h.1
  intro active
  apply iteInduction (motive := motive)
  · intro length
    apply refused (show BootStatus.badPayloadLength ≠ BootStatus.ok by decide)
    exact fun h => length h.2.1
  intro length
  apply iteInduction (motive := motive)
  · intro counts
    apply refused (show BootStatus.totalCountMismatch ≠ BootStatus.ok by decide)
    exact fun h => counts h.2.2
  intro counts
  apply iff_of_true rfl
  exact ⟨Decidable.not_not.1 active, Decidable.not_not.1 length, Decidable.not_not.1 counts⟩

/-- A request for the other operation, or without a session, leaves the service alone. -/
theorem handleEnd_other {errorOperation : UInt16} (other : s.runtime.session.operation ≠ operation) :
    (handleEnd request operation errorOperation s).service = s := by
  apply iteInduction (motive := fun o : Outcome σ => o.service = s)
  · exact fun _ => rfl
  intro _
  apply iteInduction (motive := fun o : Outcome σ => o.service = s)
  · exact fun _ => rfl
  · exact fun active => absurd (Decidable.not_not.1 active) other

theorem handleData_other {errorOperation failedStatus : UInt16} {flashOperation : BootFlashOperation}
    (other : s.runtime.session.operation ≠ operation) :
    (handleData port request operation errorOperation flashOperation failedStatus s).service = s := by
  apply iteInduction (motive := fun o : Outcome σ => o.service = s)
  · exact fun _ => rfl
  intro _
  apply iteInduction (motive := fun o : Outcome σ => o.service = s)
  · exact fun _ => rfl
  · exact fun active => absurd (Decidable.not_not.1 active) other

/-- A packet of the open session is counted, or the session is closed. -/
theorem handleData_rejected {errorOperation failedStatus : UInt16}
    {flashOperation : BootFlashOperation} (ne : operation ≠ .none)
    (active : s.runtime.session.operation = operation)
    (rejected : (handleData port request operation errorOperation flashOperation failedStatus
      s).status ≠ BootStatus.ok) :
    (handleData port request operation errorOperation flashOperation failedStatus
      s).service.runtime.session = .reset := by
  revert rejected
  let motive (o : Outcome σ) : Prop :=
    o.status ≠ BootStatus.ok → o.service.runtime.session = .reset
  apply iteInduction (motive := motive)
  · exact fun closed => absurd (active.symm.trans closed) ne
  intro _
  apply iteInduction (motive := motive)
  · exact fun other => absurd active other
  intro _
  apply iteInduction (motive := motive)
  · exact fun _ _ => rfl
  intro _
  apply iteInduction (motive := motive)
  · exact fun _ _ => rfl
  intro _
  apply iteInduction (motive := motive)
  · exact fun _ _ => rfl
  intro _
  apply iteInduction (motive := motive)
  · exact fun _ _ => rfl
  intro _
  apply iteInduction (motive := motive)
  · exact fun _ _ => rfl
  intro _
  apply iteInduction (motive := motive)
  · exact fun _ _ => rfl
  intro _
  apply iteInduction (motive := motive)
  · exact fun _ _ => rfl
  · exact fun _ rejected => absurd rfl rejected

end

/-! ## Every reachable state -/

theorem bootHandleCommand_dispatch {port : FlashPort σ} {s : FlashService σ}
    {request : BootProtocolFrame} (initialized : s.runtime.initialized ≠ 0) :
    (bootHandleCommand port request 0 .clear s).toOutcome = dispatch port request s := by
  rw [bootHandleCommand_of_initialized initialized]

theorem bootHandleCommand_uninitialized {port : FlashPort σ} {s : FlashService σ}
    {request : BootProtocolFrame} (uninitialized : s.runtime.initialized = 0) :
    (bootHandleCommand port request 0 .clear s).status = BootStatus.invalidState ∧
      (bootHandleCommand port request 0 .clear s).service = s := by
  rw [bootHandleCommand, if_pos uninitialized]
  exact ⟨rfl, rfl⟩

section
variable {port : FlashPort σ} {h : List (ServiceEvent σ)} {s : FlashService σ}
  {request : BootProtocolFrame} {operation : SessionOperation}

/-- The counters match those of an END request exactly when the packets of the
session are the declared ones. -/
theorem countsMatch_iff {begin' : BootProtocolFrame} {ps : List BootProtocolFrame}
    {session : BootFlashServiceSession} (counted : Counted begin' ps session) :
    countsMatch request session ↔ Declared begin' ps ∧
      request.u32 0 = (begin'.word 1).toUInt32 ∧ request.u32 2 = begin'.u32 2 := by
  constructor
  · rintro ⟨expected, processed, total, processedTotal⟩
    refine ⟨⟨?_, ?_⟩, expected.trans counted.expectedPackets, total.trans counted.expectedWords⟩
    · rw [counted.indices, ← processed, expected, counted.expectedPackets, UInt16.toNat_toUInt32]
    · rw [counted.total, ← processedTotal, total, counted.expectedWords]
  · rintro ⟨⟨indices, total⟩, packets, words⟩
    have processed := congrArg List.length (counted.indices.symm.trans indices)
    rw [List.length_range, List.length_range, ← UInt16.toNat_toUInt32] at processed
    have processedTotal := counted.total.symm.trans total
    rw [UInt32.toNat_inj] at processed processedTotal
    exact ⟨packets.trans counted.expectedPackets.symm, packets.trans processed.symm,
      words.trans counted.expectedWords.symm, words.trans processedTotal.symm⟩

theorem SessionInvariant.initialized (inv : SessionInvariant h s) (ne : operation ≠ .none)
    (active : s.runtime.session.operation = operation) : s.runtime.initialized ≠ 0 := by
  obtain ⟨begin', ps, opened⟩ := inv.opened operation ne active
  exact (inv.counted operation begin' ps ne opened).2.1

theorem SessionInvariant.end_iff (inv : SessionInvariant h s) (ne : operation ≠ .none)
    (command : request.command = endCommand operation) :
    ((serviceMachine port).step s (.command request)).1.status = BootStatus.ok ↔
      request.payloadWords = 6 ∧ ∃ begin' ps, SessionOpen operation begin' ps h ∧
        Declared begin' ps ∧ request.u32 0 = (begin'.word 1).toUInt32 ∧
        request.u32 2 = begin'.u32 2 := by
  show (bootHandleCommand port.logged request 0 .clear (watched s)).toOutcome.status = _ ↔ _
  by_cases zero : (watched s).runtime.initialized = 0
  · rw [(bootHandleCommand_uninitialized zero).1]
    apply iff_of_false (by decide)
    rintro ⟨-, begin', ps, opened, -⟩
    exact (inv.counted operation begin' ps ne opened).2.1 zero
  rw [bootHandleCommand_dispatch zero, dispatch_end ne command, handleEnd_ok_iff ne]
  constructor
  · rintro ⟨active, length, counts⟩
    obtain ⟨begin', ps, opened⟩ := inv.opened operation ne active
    have counted := (inv.counted operation begin' ps ne opened).2.2
    exact ⟨length, begin', ps, opened, (countsMatch_iff counted).1 counts⟩
  · rintro ⟨length, begin', ps, opened, declared⟩
    obtain ⟨active, -, counted⟩ := inv.counted operation begin' ps ne opened
    exact ⟨active, length, (countsMatch_iff counted).2 declared⟩

theorem step_other (ne : operation ≠ .none)
    (command : request.command = dataCommand operation ∨ request.command = endCommand operation)
    (other : s.runtime.session.operation ≠ operation) :
    ((serviceMachine port).step s (.command request)).2.runtime.session = s.runtime.session := by
  show (bootHandleCommand port.logged request 0 .clear (watched s)).toOutcome.service.runtime.session
    = (watched s).runtime.session
  have other : (watched s).runtime.session.operation ≠ operation := other
  by_cases zero : (watched s).runtime.initialized = 0
  · rw [(bootHandleCommand_uninitialized zero).2]
  rw [bootHandleCommand_dispatch zero]
  rcases command with command | command
  · obtain ⟨flashOperation, failedStatus, dispatched⟩ :=
      @dispatch_data _ port.logged (watched s) request _ ne command
    rw [dispatched, handleData_other other]
  · rw [dispatch_end ne command, handleEnd_other other]

theorem SessionInvariant.rejected_data (inv : SessionInvariant h s) (ne : operation ≠ .none)
    (command : request.command = dataCommand operation)
    (active : s.runtime.session.operation = operation)
    (rejected : ((serviceMachine port).step s (.command request)).1.status ≠ BootStatus.ok) :
    ((serviceMachine port).step s (.command request)).2.runtime.session.operation = .none := by
  have initialized : (watched s).runtime.initialized ≠ 0 := inv.initialized ne active
  have active : (watched s).runtime.session.operation = operation := active
  obtain ⟨flashOperation, failedStatus, dispatched⟩ :=
    @dispatch_data _ port.logged (watched s) request _ ne command
  have same := @bootHandleCommand_dispatch _ port.logged (watched s) request initialized
  rw [dispatched] at same
  have rejected : (bootHandleCommand port.logged request 0 .clear
    (watched s)).toOutcome.status ≠ BootStatus.ok := rejected
  show (bootHandleCommand port.logged request 0 .clear
    (watched s)).toOutcome.service.runtime.session.operation = .none
  rw [same] at rejected ⊢
  rw [handleData_rejected ne active rejected]
  rfl

end

/-- In every state of every run the counts stay within the declared ones; an
END is accepted exactly for a complete session; a DATA or END for another
operation leaves the session alone; and a rejected DATA closes its session. -/
theorem session_counting (port : FlashPort σ) (s₀ : FlashService σ)
    (fresh : s₀.runtime.session = .reset) (inputs : List ServiceInput) :
    let m := serviceMachine port
    let h := m.history s₀ inputs
    let s := m.run s₀ inputs
    WithinDeclared s.runtime.session ∧
    ∀ operation, operation ≠ .none → ∀ request,
      (request.command = endCommand operation →
        ((m.step s (.command request)).1.status = BootStatus.ok ↔
          request.payloadWords = 6 ∧ ∃ begin' ps, SessionOpen operation begin' ps h ∧
            Declared begin' ps ∧ request.u32 0 = (begin'.word 1).toUInt32 ∧
            request.u32 2 = begin'.u32 2)) ∧
      (request.command = dataCommand operation ∨ request.command = endCommand operation →
        s.runtime.session.operation ≠ operation →
        (m.step s (.command request)).2.runtime.session = s.runtime.session) ∧
      (request.command = dataCommand operation → s.runtime.session.operation = operation →
        (m.step s (.command request)).1.status ≠ BootStatus.ok →
        (m.step s (.command request)).2.runtime.session.operation = .none) := by
  intro m h s
  have inv : SessionInvariant h s := sessionInvariant_run port fresh inputs
  refine ⟨inv.within, ?_⟩
  intro operation ne request
  refine ⟨fun command => inv.end_iff ne command, fun command other => ?_, ?_⟩
  · exact step_other ne command other
  · exact fun command active rejected => inv.rejected_data ne command active rejected

/-- The END of the verified unit is accepted, and so for the one declared packet. -/
theorem session_counting_verified :
    ∃ begin' ps, SessionOpen .verify begin' ps
        ((serviceMachine failingErasePort).history freshService (verifyRequests.take 2)) ∧
      Declared begin' ps := by
  have counting := session_counting failingErasePort freshService rfl (verifyRequests.take 2)
  obtain ⟨-, begin', ps, opened, declared, -⟩ := ((counting.2 .verify (by decide)
    (.ofWords BootCmd.verifyEnd 3 [1, 0, 8, 0, 0, 0])).1 rfl).1 (by decide +kernel)
  exact ⟨begin', ps, opened, declared⟩

end BootUpgrade.BootFlashService

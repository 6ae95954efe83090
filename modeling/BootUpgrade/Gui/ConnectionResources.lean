import BootUpgrade.Gui.Connecting
import BootUpgrade.Lib.Runs

/-!
# The resources of the connection

Which transports the backend has opened and not closed, read off the record of its
actions, and what holds them. `Resting` and `Connected` are the states between two
entries; every exit of an entry ends in one of them.
-/

namespace BootUpgrade.RuntimeBackend

open Procedure

/-! ## Open transports -/

/-- The transports that are open behind one more action. -/
def openBehind (opened : List Nat) : BackendAction → List Nat
  | .opened transport => transport :: opened
  | .closing resource true => opened.filter (· ≠ resource.transportOf)
  | _ => opened

/-- The transports that have been opened and not been closed successfully since. -/
def unclosed (actions : List BackendAction) : List Nat := actions.foldl openBehind []

/-- No transport was opened while another one was open. -/
def OpenedAlone (actions : List BackendAction) : Prop :=
  ∀ past transport later, actions = past ++ .opened transport :: later → unclosed past = []

section
variable {actions : List BackendAction} {action : BackendAction}

theorem unclosed_append : unclosed (actions ++ [action]) = openBehind (unclosed actions) action := by
  rw [unclosed, List.foldl_append]
  rfl

theorem openedAlone_append (h : OpenedAlone actions)
    (alone : ∀ transport, action = .opened transport → unclosed actions = []) :
    OpenedAlone (actions ++ [action]) := by
  intro past transport later split
  rcases List.eq_nil_or_concat later with rfl | ⟨init, last, rfl⟩
  · obtain ⟨rfl, tail⟩ := List.append_inj' split rfl
    exact alone transport (by simpa using tail)
  · rw [List.concat_eq_append, ← List.cons_append, ← List.append_assoc] at split
    exact h past transport init (List.append_inj' split rfl).1

theorem openedAlone_past {past : List BackendAction} (h : OpenedAlone actions)
    (before : past <+: actions) : OpenedAlone past := by
  obtain ⟨later, rfl⟩ := before
  intro p t l split
  exact h p t (l ++ later) (by rw [split]; simp)

/-- At any time one transport is open at most. -/
theorem openedAlone_length (h : OpenedAlone actions) : (unclosed actions).length ≤ 1 := by
  have upTo : ∀ n, ∀ past, past.length = n → OpenedAlone past → (unclosed past).length ≤ 1 := by
    intro n
    induction n with
    | zero =>
      intro past empty _
      rw [List.eq_nil_of_length_eq_zero empty]
      simp [unclosed]
    | succ n ih =>
      intro past length alone
      rcases List.eq_nil_or_concat past with rfl | ⟨init, last, rfl⟩
      · cases length
      rw [List.concat_eq_append] at length alone ⊢
      have shorter := ih init (by simpa using length)
        (openedAlone_past alone (List.prefix_append _ _))
      rw [unclosed_append]
      cases last with
      | opened transport =>
        have none := alone init transport [] rfl
        simp [openBehind, none]
      | closing resource closed =>
        cases closed with
        | true => exact Nat.le_trans (List.length_filter_le ..) shorter
        | false => exact shorter
      | dispatched event => exact shorter
      | called call => exact shorter
  exact upTo _ actions rfl h

end

/-! ## The states between two entries -/

/-- A transport that is open is `number`. -/
def OpenOnly (number : Nat) (b : RuntimeBackend) : Prop :=
  unclosed b.actions = [] ∨ unclosed b.actions = [number]

/-- The backend owns no connection. -/
structure Unowned (b : RuntimeBackend) : Prop where
  session : b.session = none
  transport : b.transport = none
  connection : b.store.connection = none

/-- The transport that may be open is the one that is pending. -/
def Pended (b : RuntimeBackend) : Prop :=
  unclosed b.actions = [] ∨
    ∃ resource, b.pendingClose = some resource ∧ unclosed b.actions = [resource.transportOf]

/-- Nothing is connected. -/
structure Resting (b : RuntimeBackend) : Prop where
  unowned : Unowned b
  alone : OpenedAlone b.actions
  pended : Pended b

/-- A session is active; it is pending if a close of it has failed. -/
structure Connected (owner : Session) (b : RuntimeBackend) : Prop where
  session : b.session = some owner
  transport : b.transport = some owner.transport
  connection : b.store.connection.isSome = true
  pending : b.pendingClose = none ∨ b.pendingClose = some (.session owner)
  alone : OpenedAlone b.actions
  opened : OpenOnly owner.transport b

theorem resting_new : Resting .new := by
  refine ⟨⟨rfl, rfl, rfl⟩, ?_, .inl rfl⟩
  intro past transport later split
  cases past <;> cases split

/-! ## The parts of the entries -/

/-- The fields of the connection are as they were. -/
structure SameConnection (b b' : RuntimeBackend) : Prop where
  session : b'.session = b.session
  transport : b'.transport = b.transport
  store : b'.store = b.store

theorem SameConnection.unowned {b b' : RuntimeBackend} (same : SameConnection b b')
    (h : Unowned b) : Unowned b' :=
  ⟨same.session.trans h.session, same.transport.trans h.transport,
    (congrArg (·.connection) same.store).trans h.connection⟩

/-- The transport `number` that a connect has made may be open. -/
structure Working (number : Nat) (b : RuntimeBackend) : Prop where
  alone : OpenedAlone b.actions
  opened : OpenOnly number b

/-- What a cleanup leaves. -/
structure Cleaned (number : Nat) (b : RuntimeBackend) (errors : List String)
    (b' : RuntimeBackend) : Prop where
  same : SameConnection b b'
  working : Working number b'
  pended : Pended b'
  released : errors = [] → b'.pendingClose = none

section
variable {number : Nat} {actions : List BackendAction}

theorem openedAlone_closing (h : OpenedAlone actions) (resource : Resource) (closed : Bool) :
    OpenedAlone (actions ++ [.closing resource closed]) :=
  openedAlone_append h (by simp)

theorem unclosed_closed (resource : Resource)
    (h : unclosed actions = [] ∨ unclosed actions = [resource.transportOf]) :
    unclosed (actions ++ [.closing resource true]) = [] := by
  rw [unclosed_append]
  rcases h with h | h <;> simp [h, openBehind]

theorem unclosed_failed (resource : Resource) :
    unclosed (actions ++ [.closing resource false]) = unclosed actions := by
  rw [unclosed_append]
  rfl

end

section
variable {b : RuntimeBackend}

/-- The cleanup of a session over its transport. -/
theorem cleanupPartial_ends {session : Session} (h : Working session.transport b)
    (answer : CleanupAnswer) :
    Ends (cleanupPartial (some session) (some session.transport) answer) b fun result b' =>
      ∃ errors, result = .ok errors ∧ Cleaned session.transport b errors b' := by
  obtain ⟨closeSession, closeTransport⟩ := answer
  have alone := openedAlone_closing h.alone
  cases closeSession with
  | ok done =>
    have none := unclosed_closed (.session session) h.opened
    exact ⟨[], rfl, ⟨rfl, rfl, rfl⟩, ⟨alone _ _, .inl none⟩, .inl none, fun _ => rfl⟩
  | error message =>
    have behind : unclosed (b.actions ++ [.closing (.session session) false]) = [] ∨
        unclosed (b.actions ++ [.closing (.session session) false]) = [session.transport] := by
      rw [unclosed_failed]
      exact h.opened
    have twice := openedAlone_closing (alone (.session session) false) (.transport session.transport)
    cases closeTransport with
    | ok done =>
      have none := unclosed_closed (.transport session.transport) behind
      exact ⟨["session: " ++ message], rfl, ⟨rfl, rfl, rfl⟩, ⟨twice _, .inl none⟩, .inl none, by simp⟩
    | error message' =>
      have same := (@unclosed_failed (b.actions ++ [.closing (.session session) false]))
        (.transport session.transport)
      refine ⟨["session: " ++ message, "transport: " ++ message'], rfl, ⟨rfl, rfl, rfl⟩,
        ⟨twice _, behind.imp same.trans same.trans⟩, behind.imp same.trans ?_, by simp⟩
      exact fun one => ⟨.transport session.transport, rfl, same.trans one⟩

/-- The cleanup of a transport that no session has been made over. -/
theorem cleanupTransport_ends {number : Nat} (alone : OpenedAlone b.actions)
    (closed : unclosed b.actions = []) (answer : CleanupAnswer) :
    Ends (cleanupPartial none (some number) answer) b fun result b' =>
      ∃ errors, result = .ok errors ∧ Cleaned number b errors b' := by
  obtain ⟨-, closeTransport⟩ := answer
  have tried := openedAlone_closing alone (.transport number)
  cases closeTransport with
  | ok done =>
    have none := unclosed_closed (.transport number) (.inl closed)
    exact ⟨[], rfl, ⟨rfl, rfl, rfl⟩, ⟨tried _, .inl none⟩, .inl none, fun _ => rfl⟩
  | error message =>
    have none := (unclosed_failed (.transport number)).trans closed
    exact ⟨["transport: " ++ message], rfl, ⟨rfl, rfl, rfl⟩, ⟨tried _, .inl none⟩, .inl none,
      by simp⟩

theorem unclosed_dispatched (b : RuntimeBackend) (event : DomainEvent) :
    unclosed (b.actions ++ [.dispatched event]) = unclosed b.actions := by
  rw [unclosed_append]
  rfl

/-- Nothing is closed or opened, and nothing is pending that was not. -/
structure Quiet (b b' : RuntimeBackend) : Prop where
  pendingClose : b'.pendingClose = b.pendingClose
  unclosed : unclosed b'.actions = unclosed b.actions
  alone : OpenedAlone b.actions → OpenedAlone b'.actions

theorem Quiet.trans {b₁ b₂ b₃ : RuntimeBackend} (h : Quiet b₁ b₂) (h' : Quiet b₂ b₃) : Quiet b₁ b₃ :=
  ⟨h'.pendingClose.trans h.pendingClose, h'.unclosed.trans h.unclosed, h'.alone ∘ h.alone⟩

theorem quiet_dispatch (event : DomainEvent) : Within Quiet (dispatch event) := fun b =>
  ⟨rfl, unclosed_dispatched b event, fun alone => openedAlone_append alone (by simp)⟩

theorem dispatchClosed_ends (b : RuntimeBackend) :
    Ends (dispatchClosed b.store.connection) b fun result b' =>
      result = .ok () ∧ b'.store.connection = none ∧ Quiet b b' := by
  cases active : b.store.connection with
  | none => exact ⟨rfl, active, rfl, rfl, id⟩
  | some connection =>
    obtain ⟨committed, ok, gone⟩ := step_closed active
    have quiet := quiet_dispatch (.connectionClosed connection.connectionId connection.generation) b
    refine ⟨?_, gone, quiet⟩
    simp only [dispatchClosed, dispatch, ok]

/-- `_clear_active` never raises. -/
theorem clearActive_ends (b : RuntimeBackend) :
    Ends clearActive b fun result b' => result = .ok () ∧ Unowned b' ∧ Quiet b b' := by
  apply ends_update_bind
  apply ends_read_bind
  apply ends_bind (dispatchClosed_ends _)
  · rintro error b' ⟨failed, -⟩
    cases failed
  rintro _ b' ⟨-, gone, quiet⟩
  exact ends_update ⟨rfl, ⟨rfl, rfl, gone⟩, quiet.pendingClose, quiet.unclosed, quiet.alone⟩

/-! ## The exits of a connect -/

/-- How an entry ends: its session is active, or nothing is connected. -/
inductive Landed : Except BackendError ConnectionOutcome → RuntimeBackend → Prop where
  | connected {b : RuntimeBackend} (info : ConnectionInfo) (session : Session)
    (active : Connected session b) (none : b.pendingClose = none) :
    Landed (.ok (.connected info)) b
  | closed {b : RuntimeBackend} (rest : Resting b) (none : b.pendingClose = none) :
    Landed (.ok .closed) b
  | cancelled {b : RuntimeBackend} (rest : Resting b) (none : b.pendingClose = none) :
    Landed (.ok .cancelled) b
  | failed {b : RuntimeBackend} (code message : String) (rest : Resting b) :
    Landed (.ok (.failed code message b.pendingClose.isSome)) b
  | raised {b : RuntimeBackend} (error : BackendError) (rest : Resting b) : Landed (.error error) b

theorem Quiet.working {b b' : RuntimeBackend} (h : Quiet b b') {number : Nat}
    (working : Working number b) : Working number b' :=
  ⟨h.alone working.alone, working.opened.imp h.unclosed.trans h.unclosed.trans⟩

theorem Quiet.pended {b b' : RuntimeBackend} (h : Quiet b b') (pended : Pended b) : Pended b' := by
  rcases pended with none | ⟨resource, pending, one⟩
  · exact .inl (h.unclosed.trans none)
  · exact .inr ⟨resource, h.pendingClose.trans pending, h.unclosed.trans one⟩

/-- A cleanup and a `_clear_active` leave nothing connected. -/
theorem Cleaned.resting {b b₁ b₂ : RuntimeBackend} {number : Nat} {errors : List String}
    (cleaned : Cleaned number b errors b₁) (unowned : Unowned b₂) (quiet : Quiet b₁ b₂) :
    Resting b₂ :=
  ⟨unowned, quiet.alone cleaned.working.alone, quiet.pended cleaned.pended⟩

theorem connectFailed_ends {b : RuntimeBackend} (rest : Resting b) (code message : String)
    (built : Except RuntimeFailure Unit) :
    Ends (connectFailed code message built) b fun result b' => b' = b ∧ Landed result b := by
  apply ends_check_bind
  · exact fun error _ => ⟨rfl, .raised error rest⟩
  intro _ _
  apply ends_read_bind
  exact ends_pure ⟨rfl, .failed code message rest⟩

section
variable {b : RuntimeBackend} {session : Session} (answers : ConnectAnswers)

/-- A cleanup followed by `_clear_active`, whatever comes behind them. -/
theorem cleanup_ends {α : Type} (h : Working session.transport b) (answer : CleanupAnswer)
    {rest : List String → BackendProcedure α} {post : Except BackendError α → RuntimeBackend → Prop}
    (behind : ∀ errors b', Resting b' → Working session.transport b' →
      (errors = [] → b'.pendingClose = none) → Ends (rest errors) b' post) :
    Ends (do
      let errors ← cleanupPartial (some session) (some session.transport) answer
      clearActive
      rest errors) b post := by
  apply ends_bind (cleanupPartial_ends h answer)
  · rintro error b' ⟨_, failed, -⟩
    cases failed
  rintro errors b₁ ⟨_, ⟨⟩, cleaned⟩
  apply ends_bind (clearActive_ends b₁)
  · rintro error b' ⟨failed, -⟩
    cases failed
  rintro _ b₂ ⟨-, unowned, quiet⟩
  exact behind errors b₂ (cleaned.resting unowned quiet) (quiet.working cleaned.working)
    fun empty => quiet.pendingClose.trans (cleaned.released empty)

theorem connectFailure_ends (h : Working session.transport b) (code message : String) :
    Ends (connectFailure answers session session.transport code message) b fun result b' =>
      Landed result b' ∧ Working session.transport b' := by
  apply cleanup_ends h
  intro errors b' rest working _
  apply (connectFailed_ends rest code message _).mono
  rintro result _ ⟨rfl, landed⟩
  exact ⟨landed, working⟩

theorem cancelOpenConnection_ends (h : Working session.transport b) :
    Ends (cancelOpenConnection answers session session.transport) b fun result b' =>
      Landed result b' ∧ Working session.transport b' := by
  apply cleanup_ends h
  intro errors b' rest working released
  split
  · rename_i empty
    apply ends_check_bind
    · exact fun error _ => ⟨.raised error rest, working⟩
    · exact fun _ _ => ends_pure ⟨.cancelled rest (released (by simpa using empty)), working⟩
  · apply (connectFailed_ends rest _ _ _).mono
    rintro result _ ⟨rfl, landed⟩
    exact ⟨landed, working⟩

/-- What a `try` leaves: its result, or an exception with a transport that may be open. -/
def Tried (session : Session) (result : Except BackendError ConnectionOutcome)
    (b : RuntimeBackend) : Prop :=
  (∃ outcome, result = .ok outcome ∧ Landed result b) ∨
    ((∃ error, result = .error error) ∧ Working session.transport b)

theorem Landed.tried {result : Except BackendError ConnectionOutcome}
    (h : Landed result b) (working : Working session.transport b) : Tried session result b := by
  cases result with
  | ok outcome => exact .inl ⟨outcome, rfl, h⟩
  | error error => exact .inr ⟨⟨error, rfl⟩, working⟩

theorem dispatchOpened_ends (info : ConnectionInfo) :
    Ends (dispatchOpened info) b fun result b' => Quiet b b' ∧
      b'.session = b.session ∧ b'.transport = b.transport ∧
      (result = .ok () → b'.store.connection.isSome = true) := by
  unfold dispatchOpened
  split
  · rename_i named
    refine ⟨quiet_dispatch _ b, rfl, rfl, ?_⟩
    intro ok
    rcases step_cases b.store (.connectionOpened info named) with ⟨-, error, raised⟩ | ⟨_, -, done⟩
    · simp [dispatch, raised] at ok
    · have opened := done.connection
      show ((runtimeStore.step b.store (.connectionOpened info named)).2.connection).isSome = true
      cases opened with
      | opened _ present _ => rw [present]; rfl
      | kept opened _ _ _ => exact absurd rfl (opened _ _)
  · exact ends_raise ⟨⟨rfl, rfl, id⟩, rfl, rfl, by simp⟩

theorem activate_ends (h : Working session.transport b) (none : b.pendingClose = none)
    (profile : TargetProfile) (deviceCpuId : Nat) (info : ConnectionInfo) :
    Ends (activate answers session session.transport profile deviceCpuId info) b
      (Tried session) := by
  apply ends_update_bind
  apply ends_bind (dispatchOpened_ends info)
  · rintro error b' ⟨quiet, -⟩
    exact .inr ⟨⟨error, rfl⟩, quiet.working ⟨h.alone, h.opened⟩⟩
  rintro _ b' ⟨quiet, owner, transport, opened⟩
  have working : Working session.transport b' := quiet.working ⟨h.alone, h.opened⟩
  apply ends_check_bind
  · exact fun error _ => .inr ⟨⟨error, rfl⟩, working⟩
  intro _ _
  apply ends_update_bind
  have pending : b'.pendingClose = .none := quiet.pendingClose.trans none
  exact ends_pure (.inl ⟨_, rfl, .connected info session
    ⟨owner, transport, opened rfl, .inl pending, working.alone, working.opened⟩ pending⟩)

theorem identifyTarget_ends (h : Working session.transport b) (none : b.pendingClose = none) :
    Ends (identifyTarget answers session session.transport) b (Tried session) := by
  have raises : ∀ error : BackendError, Tried session (.error error) b := fun error =>
    .inr ⟨⟨error, rfl⟩, h⟩
  apply ends_check_bind
  · exact fun error _ => raises error
  intro _ _
  cases answers.discovery with
  | raised failure => exact ends_raise (raises _)
  | failed code message =>
    exact (connectFailure_ends answers h code message).mono fun _ _ settled =>
      settled.1.tried settled.2
  | discovered profile deviceCpuId info =>
    apply ends_check_bind
    · exact fun error _ => raises error
    intro info _
    apply ends_check_bind
    · exact fun error _ => raises error
    intro _ _
    split
    · exact (cancelOpenConnection_ends answers h).mono fun _ _ settled => settled.1.tried settled.2
    · apply ends_check_bind
      · exact fun error _ => raises error
      · exact fun _ _ => activate_ends answers h none profile deviceCpuId info

theorem identify_ends (h : Working session.transport b) (none : b.pendingClose = none) :
    Ends (identify answers session session.transport) b Landed := by
  apply ends_bind ((@ends_attempt _ _ _ _ _ fun caught b' => ∃ result, caught = .ok result ∧
    Tried session result b')
      ((identifyTarget_ends answers h none).mono fun result b' tried => ⟨result, rfl, tried⟩))
  · rintro error b' ⟨_, failed, -⟩
    cases failed
  rintro _ b' ⟨result, ⟨⟩, tried⟩
  rcases tried with ⟨outcome, rfl, landed⟩ | ⟨⟨error, rfl⟩, working⟩
  · exact ends_pure landed
  · apply ends_bind (clearActive_ends b')
    · rintro _ _ ⟨failed, -⟩
      cases failed
    rintro _ b₁ ⟨-, unowned, quiet⟩
    apply ends_bind (cleanupPartial_ends (quiet.working working) answers.lastCleanup)
    · rintro _ _ ⟨_, failed, -⟩
      cases failed
    rintro _ b₂ ⟨errors, ⟨⟩, cleaned⟩
    exact ends_raise (.raised error
      ⟨cleaned.same.unowned unowned, cleaned.working.alone, cleaned.pended⟩)

theorem openFailure_ends (h : Working session.transport b) (exception : ConnectException) :
    Ends (openFailure answers session session.transport exception) b Landed := by
  cases exception with
  | transportTimeout message =>
    exact (connectFailure_ends answers h _ _).mono fun _ _ settled => settled.1
  | transportError message =>
    exact (connectFailure_ends answers h _ _).mono fun _ _ settled => settled.1
  | osError message =>
    exact (connectFailure_ends answers h _ _).mono fun _ _ settled => settled.1
  | other failure =>
    apply cleanup_ends h
    exact fun errors b' rest _ _ => ends_raise (.raised _ rest)

end

/-- The state in which a connect makes its transport: nothing is open or pending. -/
structure Free (b : RuntimeBackend) : Prop where
  unowned : Unowned b
  alone : OpenedAlone b.actions
  none : b.pendingClose = none
  closed : unclosed b.actions = []

theorem Free.resting {b : RuntimeBackend} (h : Free b) : Resting b :=
  ⟨h.unowned, h.alone, .inl h.closed⟩

/-- Only the transport of the session can be open behind its opening. -/
theorem openTransport_ends {b : RuntimeBackend} (h : Free b) (answers : ConnectAnswers)
    (session : Session) :
    Ends (openTransport answers session) b fun result b' => result = .ok () ∧
      SameConnection b b' ∧ b'.pendingClose = none ∧ Working session.transport b' ∧
      (answers.opening.leavesOpen = false → unclosed b'.actions = []) := by
  unfold openTransport
  split
  · rename_i leaves
    have one : unclosed (b.actions ++ [.opened session.transport]) = [session.transport] := by
      rw [unclosed_append, h.closed]
      rfl
    refine ends_update ⟨rfl, ⟨rfl, rfl, rfl⟩, h.none, ⟨?_, .inr one⟩, by simp [leaves]⟩
    exact openedAlone_append h.alone fun _ _ => h.closed
  · exact ends_pure ⟨rfl, ⟨rfl, rfl, rfl⟩, h.none, ⟨h.alone, .inl h.closed⟩, fun _ => h.closed⟩

theorem openSession_ends {b : RuntimeBackend} (h : Free b) (answers : ConnectAnswers)
    (session : Session) :
    Ends (openSession answers session session.transport) b Landed := by
  apply ends_bind (openTransport_ends h answers session)
  · rintro error b' ⟨failed, -⟩
    cases failed
  rintro _ b' ⟨-, same, none, working, released⟩
  cases opening : answers.opening.result with
  | error exception => exact openFailure_ends answers working exception
  | ok status =>
    cases status with
    | cancelled =>
      have closed := released (answers.opening.released opening)
      apply ends_bind (clearActive_ends b')
      · rintro error b'' ⟨failed, -⟩
        cases failed
      rintro _ b'' ⟨-, unowned, quiet⟩
      have rest : Resting b'' :=
        ⟨unowned, quiet.alone working.alone, .inl (quiet.unclosed.trans closed)⟩
      cases answers.cancelledBuilt with
      | error exception => exact openFailure_ends answers (quiet.working working) exception
      | ok _ => exact ends_pure (.cancelled rest (quiet.pendingClose.trans none))
    | opened =>
      cases answers.connectCompleted with
      | error exception => exact openFailure_ends answers working exception
      | ok _ =>
        dsimp only
        split
        · exact (cancelOpenConnection_ends answers working).mono fun _ _ settled => settled.1
        · exact identify_ends answers working none

theorem nothing_ends {b : RuntimeBackend} (h : Free b) (answer : CleanupAnswer) :
    Ends (cleanupPartial none none answer) b fun result b' => result = .ok [] ∧ Free b' :=
  ⟨rfl, ⟨h.unowned.session, h.unowned.transport, h.unowned.connection⟩, h.alone, rfl, h.closed⟩

/-- The construction leaves a session over a new transport, or nothing. -/
theorem construct_ends {b : RuntimeBackend} (h : Free b) (answers : ConnectAnswers) :
    Ends (construct answers) b fun result b' =>
      (∃ exposed, result = .ok (⟨b.nextTransport, exposed⟩, b.nextTransport) ∧ Free b') ∨
        (∃ error, result = .error error) ∧ Resting b' := by
  unfold construct
  cases answers.transport with
  | error failure =>
    apply ends_bind (nothing_ends h answers.cleanup)
    · rintro error b' ⟨failed, -⟩
      cases failed
    rintro _ b₁ ⟨-, free⟩
    apply ends_bind (clearActive_ends b₁)
    · rintro error b' ⟨failed, -⟩
      cases failed
    rintro _ b₂ ⟨-, unowned, quiet⟩
    exact ends_raise (.inr
      ⟨⟨_, rfl⟩, unowned, quiet.alone free.alone, quiet.pended free.resting.pended⟩)
  | ok _ =>
    apply ends_read_bind
    apply ends_update_bind
    have made : Free { b with nextTransport := b.nextTransport + 1 } :=
      ⟨⟨h.unowned.session, h.unowned.transport, h.unowned.connection⟩, h.alone, h.none, h.closed⟩
    cases answers.session with
    | error failure =>
      apply ends_bind (cleanupTransport_ends made.alone made.closed
        answers.cleanup)
      · rintro error b' ⟨_, failed, -⟩
        cases failed
      rintro _ b₁ ⟨errors, ⟨⟩, cleaned⟩
      apply ends_bind (clearActive_ends b₁)
      · rintro error b' ⟨failed, -⟩
        cases failed
      rintro _ b₂ ⟨-, unowned, quiet⟩
      exact ends_raise (.inr ⟨⟨_, rfl⟩, cleaned.resting unowned quiet⟩)
    | ok exposed => exact ends_pure (.inl ⟨exposed, rfl, made⟩)

theorem startConnection_ends {b : RuntimeBackend} (h : Free b) (answers : ConnectAnswers) :
    Ends (startConnection answers) b Landed := by
  apply ends_bind (construct_ends h answers)
  · rintro error b' (⟨_, failed, -⟩ | ⟨-, rest⟩)
    · cases failed
    · exact .raised error rest
  rintro made b' (⟨exposed, built, free⟩ | ⟨⟨_, failed⟩, -⟩)
  · cases built
    apply ends_check_bind
    · exact fun error _ => .raised error free.resting
    · exact fun _ _ => openSession_ends free answers ⟨b.nextTransport, exposed⟩
  · cases failed

/-- A successful close of the pending resource leaves nothing open. -/
theorem Resting.free {b : RuntimeBackend} (h : Resting b) {resource : Resource}
    (pending : b.pendingClose = some resource) :
    OpenedAlone (b.actions ++ [.closing resource true]) ∧
      unclosed (b.actions ++ [.closing resource true]) = [] := by
  refine ⟨openedAlone_closing h.alone _ _, unclosed_closed _ ?_⟩
  rcases h.pended with none | ⟨other, is, one⟩
  · exact .inl none
  · rw [pending] at is
    cases is
    exact .inr one

theorem Resting.not_owned {b : RuntimeBackend} (h : Resting b) :
    (b.session.isSome || b.transport.isSome) = false := by
  rw [h.unowned.session, h.unowned.transport]
  rfl

theorem closeResource_ends (b : RuntimeBackend) (resource : Resource) (closed : Except String Unit) :
    Ends (closeResource resource closed) b fun result b' => result = .ok closed ∧
      b' = { b with actions := b.actions ++ [.closing resource closed.isOk] } :=
  ⟨rfl, rfl⟩

theorem Resting.close_failed {b : RuntimeBackend} (h : Resting b) (resource : Resource) :
    Resting { b with actions := b.actions ++ [.closing resource false] } := by
  refine ⟨⟨h.unowned.session, h.unowned.transport, h.unowned.connection⟩,
    openedAlone_closing h.alone _ _, ?_⟩
  unfold Pended
  rw [unclosed_failed]
  exact h.pended

/-- A connect of a backend that owns no connection. -/
theorem connect_ends {b : RuntimeBackend} (h : Resting b) (answers : ConnectAnswers) :
    Ends (connect answers) b Landed := by
  unfold connect
  cases answers.settings with
  | error message =>
    apply (connectFailed_ends h _ _ _).mono
    rintro result _ ⟨rfl, landed⟩
    exact landed
  | ok _ =>
    apply ends_read_bind
    rw [h.not_owned]
    apply ends_check_bind
    · exact fun error _ => .raised error h
    intro _ _
    apply ends_read_bind
    cases pending : b.pendingClose with
    | none =>
      have closed : unclosed b.actions = [] := by
        rcases h.pended with none | ⟨_, is, -⟩
        · exact none
        · rw [pending] at is
          cases is
      exact startConnection_ends ⟨h.unowned, h.alone, pending, closed⟩ answers
    | some resource =>
      cases tried : answers.pendingClosed with
      | error message =>
        apply ends_bind (closeResource_ends b resource (.error message))
        · rintro error b' ⟨failed, -⟩
          cases failed
        rintro _ b' ⟨⟨⟩, rfl⟩
        have failed : Landed (.ok (.failed "SERIAL_CLOSE_FAILED" message b.pendingClose.isSome))
            { b with actions := b.actions ++ [.closing resource false] } :=
          .failed _ _ (h.close_failed resource)
        have left : b.pendingClose.isSome = true := by rw [pending]; rfl
        rw [left] at failed
        exact ends_pure failed
      | ok _ =>
        obtain ⟨alone, closed⟩ := h.free pending
        apply ends_bind (closeResource_ends b resource (.ok ()))
        · rintro error b' ⟨failed, -⟩
          cases failed
        rintro _ b' ⟨⟨⟩, rfl⟩
        apply ends_update_bind
        apply ends_update_bind
        have free : Free { b with
            executor := none
            pendingClose := none
            actions := b.actions ++ [.closing resource true] } :=
          ⟨⟨h.unowned.session, h.unowned.transport, h.unowned.connection⟩, alone, rfl, closed⟩
        exact startConnection_ends free answers

/-- A connect of a backend that owns a session changes nothing. -/
theorem connect_owned {b : RuntimeBackend} {session : Session} (h : b.session = some session)
    (answers : ConnectAnswers) :
    Ends (connect answers) b fun result b' => b' = b ∧
      ((∃ code message pending, result = .ok (.failed code message pending)) ∨
        result = .error (.raised (.runtimeError
          "connect requested while RuntimeBackend owns a session"))) := by
  unfold connect
  cases answers.settings with
  | error message => exact ⟨rfl, .inl ⟨_, _, _, rfl⟩⟩
  | ok _ =>
    apply ends_read_bind
    rw [h]
    exact ⟨rfl, .inr rfl⟩

end

/-! ## Closing -/

/-- The states between two entries. -/
def Between (b : RuntimeBackend) : Prop := Resting b ∨ ∃ session, Connected session b

/-- How a disconnect or a shutdown ends. -/
inductive ClosedAs (answers : CloseAnswers) (b : RuntimeBackend) :
    Except BackendError ConnectionOutcome → RuntimeBackend → Prop where
  | unstarted (error : BackendError) : ClosedAs answers b (.error error) b
  | refused {b' : RuntimeBackend} (message : String) (failed : answers.closed = .error message)
    (between : Between b') (same : SameConnection b b') :
    ClosedAs answers b (.ok (.failed "SERIAL_CLOSE_FAILED" message true)) b'
  | closed {b' : RuntimeBackend} (result : Except BackendError ConnectionOutcome)
    (ends : result = .ok .closed ∨ ∃ error, result = .error error) (rest : Resting b')
    (none : b'.pendingClose = none) : ClosedAs answers b result b'

theorem Resting.ownedResource {b : RuntimeBackend} (h : Resting b) :
    ownedResource b = b.pendingClose := by
  rw [RuntimeBackend.ownedResource, h.unowned.session, h.unowned.transport]
  rfl

theorem Connected.ownedResource {b : RuntimeBackend} {session : Session} (h : Connected session b) :
    ownedResource b = some (.session session) := by
  rw [RuntimeBackend.ownedResource, h.session]
  rfl

/-- The transport that may be open is the one that a close is about. -/
theorem Between.owned {b : RuntimeBackend} (h : Between b) :
    OpenedAlone b.actions ∧ ((RuntimeBackend.ownedResource b = none ∧ unclosed b.actions = []) ∨
      ∃ resource, RuntimeBackend.ownedResource b = some resource ∧
        (unclosed b.actions = [] ∨ unclosed b.actions = [resource.transportOf])) := by
  rcases h with rest | ⟨session, active⟩
  · refine ⟨rest.alone, ?_⟩
    rw [rest.ownedResource]
    rcases rest.pended with none | ⟨resource, pending, one⟩
    · cases pending : b.pendingClose with
      | none => exact .inl ⟨rfl, none⟩
      | some resource => exact .inr ⟨resource, rfl, .inl none⟩
    · exact .inr ⟨resource, pending, .inr one⟩
  · exact ⟨active.alone, .inr ⟨_, active.ownedResource, active.opened⟩⟩

/-- A close that fails leaves its resource pending and the connection as it is. -/
theorem Between.close_failed {b : RuntimeBackend} (h : Between b) {resource : Resource}
    (owned : RuntimeBackend.ownedResource b = some resource) :
    Between { b with
      pendingClose := some resource
      actions := b.actions ++ [.closing resource false] } := by
  rcases h with rest | ⟨session, active⟩
  · left
    rw [rest.ownedResource] at owned
    rw [← owned]
    exact rest.close_failed resource
  · right
    rw [active.ownedResource] at owned
    cases owned
    refine ⟨session, active.session, active.transport, active.connection, .inr rfl,
      openedAlone_closing active.alone _ _, ?_⟩
    unfold OpenOnly
    rw [unclosed_failed]
    exact active.opened

/-- `_clear_active` and the last progress callback. -/
theorem completed_ends {b c : RuntimeBackend} (answers : CloseAnswers)
    (alone : OpenedAlone b.actions) (closed : unclosed b.actions = []) (none : b.pendingClose = none) :
    Ends (do
      clearActive
      external answers.completed
      return ConnectionOutcome.closed) b (ClosedAs answers c) := by
  apply ends_bind (clearActive_ends b)
  · rintro error b' ⟨failed, -⟩
    cases failed
  rintro _ b' ⟨-, unowned, quiet⟩
  have rest : Resting b' := ⟨unowned, quiet.alone alone, .inl (quiet.unclosed.trans closed)⟩
  have pending := quiet.pendingClose.trans none
  apply ends_check_bind
  · exact fun error _ => .closed _ (.inr ⟨error, rfl⟩) rest pending
  · exact fun _ _ => ends_pure (.closed _ (.inl rfl) rest pending)

theorem close_ends {b : RuntimeBackend} (h : Between b) (answers : CloseAnswers) :
    Ends (close answers) b (ClosedAs answers b) := by
  apply ends_check_bind
  · exact fun error _ => .unstarted error
  intro _ _
  apply ends_read_bind
  apply ends_update_bind
  obtain ⟨alone, ⟨owned, closed⟩ | ⟨resource, owned, opened⟩⟩ := h.owned
  · rw [owned]
    exact completed_ends (b := { b with pendingClose := none }) answers alone closed rfl
  · rw [owned]
    cases tried : answers.closed with
    | error message =>
      apply ends_bind (closeResource_ends _ resource (.error message))
      · rintro error b' ⟨failed, -⟩
        cases failed
      rintro _ b' ⟨⟨⟩, rfl⟩
      exact ends_pure (.refused message tried (h.close_failed owned) ⟨rfl, rfl, rfl⟩)
    | ok _ =>
      apply ends_bind (closeResource_ends _ resource (.ok ()))
      · rintro error b' ⟨failed, -⟩
        cases failed
      rintro _ b' ⟨⟨⟩, rfl⟩
      apply ends_update_bind
      exact completed_ends (b := { b with
        pendingClose := none
        actions := b.actions ++ [.closing resource true] }) answers
          (openedAlone_closing alone _ _) (unclosed_closed _ opened) rfl

/-! ## Whole runs -/

/-- The entries that open and close connections. -/
inductive ConnectionCall where
  | connect (answers : ConnectAnswers)
  | disconnect (answers : CloseAnswers)
  | shutdown (answers : CloseAnswers)

def ConnectionCall.entry : ConnectionCall → BackendProcedure ConnectionOutcome
  | .connect answers => RuntimeBackend.connect answers
  | .disconnect answers | .shutdown answers => close answers

def connectionCalls :
    Runs.Machine RuntimeBackend ConnectionCall (Except BackendError ConnectionOutcome) :=
  ⟨fun b call => call.entry b⟩

theorem Landed.between {result : Except BackendError ConnectionOutcome} {b : RuntimeBackend}
    (h : Landed result b) : Between b := by
  cases h with
  | connected info session active none => exact .inr ⟨session, active⟩
  | closed rest none => exact .inl rest
  | cancelled rest none => exact .inl rest
  | failed code message rest => exact .inl rest
  | raised error rest => exact .inl rest

theorem ClosedAs.between {answers : CloseAnswers} {b b' : RuntimeBackend}
    {result : Except BackendError ConnectionOutcome} (h : ClosedAs answers b result b')
    (before : Between b) : Between b' := by
  cases h with
  | unstarted error => exact before
  | refused message failed between same => exact between
  | closed _ ends rest none => exact .inl rest

theorem between_connect {b : RuntimeBackend} (h : Between b) (answers : ConnectAnswers) :
    Between (connect answers b).2 := by
  rcases h with rest | ⟨session, active⟩
  · exact (connect_ends rest answers).between
  · have same := (connect_owned active.session answers).1
    rw [same]
    exact .inr ⟨session, active⟩

theorem between_run (calls : List ConnectionCall) : Between (connectionCalls.run .new calls) := by
  apply connectionCalls.run_induction Between (.inl resting_new)
  intro b call h
  cases call with
  | connect answers => exact between_connect h answers
  | disconnect answers => exact (close_ends h answers).between h
  | shutdown answers => exact (close_ends h answers).between h

/-! ## What holds an open transport -/

/-- A field of the backend holds the transport. -/
inductive Holds (b : RuntimeBackend) (transport : Nat) : Prop where
  | session (owner : Session) (held : b.session = some owner) (is : owner.transport = transport)
  | transport (held : b.transport = some transport)
  | pendingClose (resource : Resource) (held : b.pendingClose = some resource)
    (is : resource.transportOf = transport)

/-- The first thing that `b'` has done behind `b` is to close the transport. -/
def Retries (b b' : RuntimeBackend) (transport : Nat) (closed : Bool) : Prop :=
  ∃ resource later, b'.actions = b.actions ++ .closing resource closed :: later ∧
    resource.transportOf = transport

section
variable {b : RuntimeBackend} {transport : Nat}

theorem Between.holds (h : Between b) (mem : transport ∈ unclosed b.actions) :
    Holds b transport := by
  rcases h with rest | ⟨session, active⟩
  · rcases rest.pended with none | ⟨resource, pending, one⟩
    · rw [none] at mem
      cases mem
    · rw [one, List.mem_singleton] at mem
      exact .pendingClose resource pending mem.symm
  · rcases active.opened with none | one
    · rw [none] at mem
      cases mem
    · rw [one, List.mem_singleton] at mem
      exact .session session active.session mem.symm

/-- What comes behind a close only adds to the record. -/
theorem retries_of_moves {resource : Resource} {closed : Bool} {b₁ b' : RuntimeBackend}
    (tried : b₁.actions = b.actions ++ [.closing resource closed])
    (moves : b₁.actions <+: b'.actions) (is : resource.transportOf = transport) :
    Retries b b' transport closed := by
  obtain ⟨later, same⟩ := moves
  refine ⟨resource, later, ?_, is⟩
  rw [← same, tried, List.append_assoc]
  rfl

/-- A close of the backend is about the transport that is open. -/
theorem Between.close_retries (h : Between b) (mem : transport ∈ unclosed b.actions)
    (answers : CloseAnswers) (started : answers.started = .ok ()) :
    Retries b (close answers b).2 transport answers.closed.isOk := by
  obtain ⟨-, ⟨-, none⟩ | ⟨resource, owned, opened⟩⟩ := h.owned
  · rw [none] at mem
    cases mem
  · have is : resource.transportOf = transport := by
      rcases opened with none | one
      · rw [none] at mem
        cases mem
      · rw [one, List.mem_singleton] at mem
        exact mem.symm
    apply (@ends_check_bind _ _ _ _ _ _ _ fun _ b' => Retries b b' transport answers.closed.isOk)
    · intro error raised
      rw [started] at raised
      cases raised
    intro _ _
    apply ends_read_bind
    apply ends_update_bind
    rw [owned]
    apply ends_bind (closeResource_ends _ resource answers.closed)
    · rintro error b' ⟨failed, -⟩
      cases failed
    rintro tried b₁ ⟨⟨⟩, rfl⟩
    cases answers.closed with
    | error message => exact ends_pure (retries_of_moves rfl (List.prefix_refl _) is)
    | ok _ =>
      apply Within.ends_mono (R := Moves)
      · exact moves_bind (moves_update (fun _ => rfl) fun _ => rfl) fun _ =>
          moves_bind moves_clearActive fun _ => moves_bind (moves_check _) fun _ => moves_pure _
      · exact fun _ b' moves => retries_of_moves rfl (Moves.actions moves) is

/-- So is a connect, unless the connection is owned. -/
theorem Between.connect_retries (h : Between b) (mem : transport ∈ unclosed b.actions)
    (answers : ConnectAnswers) (settings : answers.settings = .ok ()) :
    (b.session.isSome = true ∧ connect answers b = (.error (.raised (.runtimeError
        "connect requested while RuntimeBackend owns a session")), b)) ∨
      Retries b (connect answers b).2 transport answers.pendingClosed.isOk := by
  rcases h with rest | ⟨session, active⟩
  · right
    rcases rest.pended with none | ⟨resource, pending, one⟩
    · rw [none] at mem
      cases mem
    rw [one, List.mem_singleton] at mem
    unfold connect
    rw [settings]
    apply (@ends_read_bind _ _ _ _ _ _ _ fun _ b' => Retries b b' transport answers.pendingClosed.isOk)
    rw [rest.not_owned]
    apply ends_check_bind
    · intro error raised
      cases raised
    intro _ _
    apply ends_read_bind
    rw [pending]
    apply ends_bind (closeResource_ends b resource answers.pendingClosed)
    · rintro error b' ⟨failed, -⟩
      cases failed
    rintro tried b₁ ⟨⟨⟩, rfl⟩
    cases answers.pendingClosed with
    | error message => exact ends_pure (retries_of_moves rfl (List.prefix_refl _) mem.symm)
    | ok _ =>
      apply Within.ends_mono (R := Moves)
      · exact moves_bind (moves_update (fun _ => rfl) fun _ => rfl) fun _ =>
          moves_bind (moves_update (fun _ => rfl) fun _ => rfl) fun _ => moves_startConnection
      · exact fun _ b' moves => retries_of_moves rfl (Moves.actions moves) mem.symm
  · left
    refine ⟨by rw [active.session]; rfl, ?_⟩
    have refused : Ends (connect answers) b fun result b' => result = .error (.raised
        (.runtimeError "connect requested while RuntimeBackend owns a session")) ∧ b' = b := by
      unfold connect
      rw [settings]
      apply ends_read_bind
      rw [active.session]
      exact ⟨rfl, rfl⟩
    exact Prod.ext refused.1 refused.2

end

/-- Whatever fails: one transport is open at most, it is held, it is the first thing that
the next entry closes, and no other one is opened before that. -/
theorem no_leaked_resource (calls : List ConnectionCall) :
    let b := connectionCalls.run .new calls
    (∀ past, past <+: b.actions → (unclosed past).length ≤ 1) ∧
    OpenedAlone b.actions ∧
    ∀ transport ∈ unclosed b.actions, Holds b transport ∧
      (∀ answers : CloseAnswers, answers.started = .ok () →
        Retries b (close answers b).2 transport answers.closed.isOk) ∧
      ∀ answers : ConnectAnswers, answers.settings = .ok () →
        (b.session.isSome = true ∧ connect answers b = (.error (.raised (.runtimeError
          "connect requested while RuntimeBackend owns a session")), b)) ∨
        Retries b (connect answers b).2 transport answers.pendingClosed.isOk := by
  intro b
  have h : Between b := between_run calls
  have alone : OpenedAlone b.actions := h.owned.1
  refine ⟨fun past before => openedAlone_length (openedAlone_past alone before), alone, ?_⟩
  intro transport mem
  exact ⟨h.holds mem, h.close_retries mem, h.connect_retries mem⟩

end BootUpgrade.RuntimeBackend

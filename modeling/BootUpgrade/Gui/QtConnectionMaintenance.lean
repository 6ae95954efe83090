import BootUpgrade.Gui.ConnectionCommandExecutor

/-!
# The idle ping of a connection

`QtConnectionMaintenanceScheduler`: every slot is one step. The single-shot timer
is a flag, and the pings that the execution host has not completed yet are kept
beside the fields of the scheduler.
-/

namespace BootUpgrade

/-- The fields of `QtConnectionMaintenanceScheduler`; `timerActive` is `QTimer.isActive`. -/
structure QtConnectionMaintenanceScheduler where
  executionToken : Nat
  activeGeneration : Option Nat
  foregroundActive : Bool
  inflightGeneration : Option Nat
  requestPing : Bool
  shuttingDown : Bool
  autoPingEnabled : Bool
  timerActive : Bool
  deriving DecidableEq, Repr

/-- What `request_ping` has done: `None` and an exception, or a result. -/
inductive PingOutcome where
  | error
  | result (status : MaintenanceExecutionStatus)
  deriving DecidableEq, Repr

namespace QtConnectionMaintenanceScheduler

/-- A scheduler with its ping callback bound. -/
def new (executionToken : Nat) : QtConnectionMaintenanceScheduler where
  executionToken
  activeGeneration := none
  foregroundActive := false
  inflightGeneration := none
  requestPing := true
  shuttingDown := false
  autoPingEnabled := true
  timerActive := false

variable (s : QtConnectionMaintenanceScheduler)

def stopTimer : QtConnectionMaintenanceScheduler := { s with timerActive := false }

/-- The condition of `_restart_timer_if_idle`. -/
def isIdle : Bool :=
  !s.shuttingDown && s.autoPingEnabled && s.activeGeneration.isSome && !s.foregroundActive &&
    s.inflightGeneration.isNone

def restartTimerIfIdle : QtConnectionMaintenanceScheduler :=
  if s.isIdle then { s with timerActive := true } else s

def onConnectionOpened (generation : Nat) : QtConnectionMaintenanceScheduler :=
  if s.shuttingDown then s
  else
    { s.stopTimer with
      activeGeneration := some generation
      foregroundActive := false }.restartTimerIfIdle

def onForegroundCommandStarted (generation : Nat) : QtConnectionMaintenanceScheduler :=
  if some generation ≠ s.activeGeneration then s
  else { s with foregroundActive := true }.stopTimer

def onForegroundCommandFinished (generation : Nat) : QtConnectionMaintenanceScheduler :=
  if some generation ≠ s.activeGeneration then s
  else { s with foregroundActive := false }.restartTimerIfIdle

def onProtocolActivity (generation : Nat) : QtConnectionMaintenanceScheduler :=
  if some generation ≠ s.activeGeneration then s
  else s.stopTimer.restartTimerIfIdle

/-- The three lines by which a connection is given up. -/
def deactivate : QtConnectionMaintenanceScheduler :=
  { s.stopTimer with activeGeneration := none, foregroundActive := false }

def onConnectionClosed (generation : Nat) : QtConnectionMaintenanceScheduler :=
  if some generation ≠ s.activeGeneration then s else s.deactivate

def onAutoPingEnabledRequested (enabled : Bool) : QtConnectionMaintenanceScheduler :=
  if s.shuttingDown then { s with autoPingEnabled := false }
  else if enabled then { s with autoPingEnabled := true }.restartTimerIfIdle
  else { s with autoPingEnabled := false }.stopTimer

/-- `_on_timeout`, with the generation of the ping it submits. -/
def onTimeout : Option Nat × QtConnectionMaintenanceScheduler :=
  match s.activeGeneration with
  | none => (none, s)
  | some generation =>
    if s.shuttingDown = true ∨ s.autoPingEnabled = false ∨ s.foregroundActive = true ∨
        s.inflightGeneration.isSome = true ∨ s.requestPing = false then (none, s)
    else (some generation, { s with inflightGeneration := some generation })

def onPingCompleted (token generation : Nat) (outcome : PingOutcome) :
    QtConnectionMaintenanceScheduler :=
  if token ≠ s.executionToken then s
  else
    let landed :=
      if s.inflightGeneration = some generation then { s with inflightGeneration := none } else s
    if landed.shuttingDown = true ∨ some generation ≠ landed.activeGeneration then
      landed.restartTimerIfIdle
    else
      match outcome with
      | .error => landed.restartTimerIfIdle
      | .result .staleGeneration | .result .executorClosed => landed.deactivate
      | .result _ => landed.restartTimerIfIdle

def shutdown : QtConnectionMaintenanceScheduler :=
  { s with shuttingDown := true, autoPingEnabled := false }.deactivate

end QtConnectionMaintenanceScheduler

/-- The slots, in the order in which the event loop calls them. -/
inductive SchedulerEvent where
  | connectionOpened (generation : Nat)
  | foregroundCommandStarted (generation : Nat)
  | foregroundCommandFinished (generation : Nat)
  | protocolActivity (generation : Nat)
  | connectionClosed (generation : Nat)
  | autoPingEnabledRequested (enabled : Bool)
  | timeout
  | pingCompleted (token generation : Nat) (outcome : PingOutcome)
  | shutdown
  deriving DecidableEq, Repr

/-- The scheduler and the pings that it has submitted and that have not completed. -/
structure MaintenanceState where
  scheduler : QtConnectionMaintenanceScheduler
  pings : List Nat
  deriving DecidableEq, Repr

namespace MaintenanceState

def new (executionToken : Nat) : MaintenanceState := ⟨.new executionToken, []⟩

/-- A slot that submits nothing. -/
def update (m : MaintenanceState) (s : QtConnectionMaintenanceScheduler) :
    Option Nat × MaintenanceState :=
  (none, { m with scheduler := s })

/-- One slot, with the generation of the ping that it submits. The timer fires
only while it is active, and a ping of this scheduler completes once. -/
def step (m : MaintenanceState) : SchedulerEvent → Option Nat × MaintenanceState
  | .connectionOpened generation => m.update (m.scheduler.onConnectionOpened generation)
  | .foregroundCommandStarted generation =>
    m.update (m.scheduler.onForegroundCommandStarted generation)
  | .foregroundCommandFinished generation =>
    m.update (m.scheduler.onForegroundCommandFinished generation)
  | .protocolActivity generation => m.update (m.scheduler.onProtocolActivity generation)
  | .connectionClosed generation => m.update (m.scheduler.onConnectionClosed generation)
  | .autoPingEnabledRequested enabled => m.update (m.scheduler.onAutoPingEnabledRequested enabled)
  | .timeout =>
    if m.scheduler.timerActive then
      let fired := m.scheduler.stopTimer.onTimeout
      (fired.1, ⟨fired.2, fired.1.toList ++ m.pings⟩)
    else (none, m)
  | .pingCompleted token generation outcome =>
    if token ≠ m.scheduler.executionToken then
      m.update (m.scheduler.onPingCompleted token generation outcome)
    else if generation ∈ m.pings then
      (none, ⟨m.scheduler.onPingCompleted token generation outcome, m.pings.erase generation⟩)
    else (none, m)
  | .shutdown => m.update m.scheduler.shutdown

/-- The scheduler under any order of its slots. -/
def maintenance : Runs.Machine MaintenanceState SchedulerEvent (Option Nat) := ⟨step⟩

end MaintenanceState

/-! ## The invariant -/

namespace QtConnectionMaintenanceScheduler

/-- The timer runs exactly while the scheduler is idle. -/
def Timed (s : QtConnectionMaintenanceScheduler) : Prop := s.timerActive = s.isIdle

section
variable {s : QtConnectionMaintenanceScheduler}

/-- A restart sets the timer right wherever it does not run for nothing. -/
theorem timed_restart (h : s.timerActive = true → s.isIdle = true) : s.restartTimerIfIdle.Timed := by
  unfold restartTimerIfIdle
  cases idle : s.isIdle with
  | true =>
    have same : { s with timerActive := true }.isIdle = s.isIdle := rfl
    simp [Timed, same, idle]
  | false =>
    have stopped : s.timerActive = false := by
      cases active : s.timerActive with
      | false => rfl
      | true => rw [h active] at idle; cases idle
    simp [Timed, idle, stopped]

theorem timed_stopped (h : s.isIdle = false) : s.stopTimer.Timed := by
  have same : s.stopTimer.isIdle = s.isIdle := rfl
  exact (same.trans h).symm

theorem timed_deactivate : s.deactivate.Timed := by simp [Timed, deactivate, stopTimer, isIdle]

theorem timed_onConnectionOpened (h : s.Timed) (generation : Nat) :
    (s.onConnectionOpened generation).Timed := by
  unfold onConnectionOpened
  split
  · exact h
  · exact timed_restart (by simp [stopTimer])

theorem timed_onForegroundCommandStarted (h : s.Timed) (generation : Nat) :
    (s.onForegroundCommandStarted generation).Timed := by
  unfold onForegroundCommandStarted
  split
  · exact h
  · exact timed_stopped (by simp [isIdle])

theorem timed_onForegroundCommandFinished (h : s.Timed) (generation : Nat) :
    (s.onForegroundCommandFinished generation).Timed := by
  unfold onForegroundCommandFinished
  split
  · exact h
  · apply timed_restart
    intro active
    have idle : s.isIdle = true := h.symm.trans active
    simp_all [isIdle]

theorem timed_onProtocolActivity (h : s.Timed) (generation : Nat) :
    (s.onProtocolActivity generation).Timed := by
  unfold onProtocolActivity
  split
  · exact h
  · exact timed_restart (by simp [stopTimer])

theorem timed_onConnectionClosed (h : s.Timed) (generation : Nat) :
    (s.onConnectionClosed generation).Timed := by
  unfold onConnectionClosed
  split
  · exact h
  · exact timed_deactivate

theorem timed_onAutoPingEnabledRequested (h : s.Timed) (enabled : Bool) :
    (s.onAutoPingEnabledRequested enabled).Timed := by
  unfold onAutoPingEnabledRequested
  split
  · rename_i down
    have stopped : s.timerActive = false := by rw [h]; simp [isIdle, down]
    simp [Timed, isIdle, down, stopped]
  split
  · apply timed_restart
    intro active
    have idle : s.isIdle = true := h.symm.trans active
    simp_all [isIdle]
  · exact timed_stopped (by simp [isIdle])

/-- What a slot other than the timeout and the completion leaves alone. -/
structure Landed (s s' : QtConnectionMaintenanceScheduler) : Prop where
  inflight : s'.inflightGeneration = s.inflightGeneration
  bound : s'.requestPing = s.requestPing
  token : s'.executionToken = s.executionToken

theorem Landed.refl (s : QtConnectionMaintenanceScheduler) : Landed s s := ⟨rfl, rfl, rfl⟩

theorem Landed.restart {s' : QtConnectionMaintenanceScheduler} (h : Landed s s') :
    Landed s s'.restartTimerIfIdle := by
  unfold restartTimerIfIdle
  split
  · exact ⟨h.inflight, h.bound, h.token⟩
  · exact h

theorem landed_onConnectionOpened (generation : Nat) : Landed s (s.onConnectionOpened generation) := by
  unfold onConnectionOpened
  split
  · exact .refl s
  · exact Landed.restart ⟨rfl, rfl, rfl⟩

theorem landed_onForegroundCommandStarted (generation : Nat) :
    Landed s (s.onForegroundCommandStarted generation) := by
  unfold onForegroundCommandStarted
  split <;> constructor <;> rfl

theorem landed_onForegroundCommandFinished (generation : Nat) :
    Landed s (s.onForegroundCommandFinished generation) := by
  unfold onForegroundCommandFinished
  split
  · exact .refl s
  · exact Landed.restart ⟨rfl, rfl, rfl⟩

theorem landed_onProtocolActivity (generation : Nat) :
    Landed s (s.onProtocolActivity generation) := by
  unfold onProtocolActivity
  split
  · exact .refl s
  · exact Landed.restart ⟨rfl, rfl, rfl⟩

theorem landed_onConnectionClosed (generation : Nat) :
    Landed s (s.onConnectionClosed generation) := by
  unfold onConnectionClosed
  split <;> constructor <;> rfl

theorem landed_onAutoPingEnabledRequested (enabled : Bool) :
    Landed s (s.onAutoPingEnabledRequested enabled) := by
  unfold onAutoPingEnabledRequested
  split
  · exact ⟨rfl, rfl, rfl⟩
  split
  · exact Landed.restart ⟨rfl, rfl, rfl⟩
  · exact ⟨rfl, rfl, rfl⟩

/-- A ping that has completed leaves none behind; the timer was stopped while it ran. -/
theorem landed_onPingCompleted (h : s.Timed) {generation : Nat}
    (flight : s.inflightGeneration = some generation) (outcome : PingOutcome) :
    (s.onPingCompleted s.executionToken generation outcome).Timed ∧
      Landed { s with inflightGeneration := none }
        (s.onPingCompleted s.executionToken generation outcome) := by
  have stopped : s.timerActive = false := by rw [h]; simp [isIdle, flight]
  have restarted : { s with inflightGeneration := none }.restartTimerIfIdle.Timed ∧
      Landed { s with inflightGeneration := none }
        { s with inflightGeneration := none }.restartTimerIfIdle :=
    ⟨timed_restart (by simp [stopped]), (Landed.refl _).restart⟩
  have given : { s with inflightGeneration := none }.deactivate.Timed ∧
      Landed { s with inflightGeneration := none }
        { s with inflightGeneration := none }.deactivate :=
    ⟨timed_deactivate, rfl, rfl, rfl⟩
  simp only [onPingCompleted, flight, ne_eq, not_true_eq_false, if_false, if_true]
  split
  · exact restarted
  · split
    · exact restarted
    · exact given
    · exact given
    · exact restarted

end

end QtConnectionMaintenanceScheduler

namespace MaintenanceState

open QtConnectionMaintenanceScheduler

/-- The timer runs exactly while the scheduler is idle, and the flight it knows
of is the ping that has not completed. -/
structure Maintained (token : Nat) (m : MaintenanceState) : Prop where
  timed : m.scheduler.Timed
  flight : m.pings = m.scheduler.inflightGeneration.toList
  bound : m.scheduler.requestPing = true
  token : m.scheduler.executionToken = token

/-- A ping is submitted for the active generation, while nothing else is going on. -/
structure Submits (m : MaintenanceState) (generation : Nat) : Prop where
  active : m.scheduler.activeGeneration = some generation
  running : m.scheduler.shuttingDown = false
  enabled : m.scheduler.autoPingEnabled = true
  foreground : m.scheduler.foregroundActive = false
  alone : m.pings = []

section
variable {token : Nat} {m : MaintenanceState}

theorem maintained_new (token : Nat) : Maintained token (new token) := by
  constructor <;> rfl

theorem Maintained.update (h : Maintained token m) {s : QtConnectionMaintenanceScheduler}
    (timed : s.Timed) (landed : Landed m.scheduler s) : Maintained token (m.update s).2 :=
  ⟨timed, h.flight.trans (congrArg Option.toList landed.inflight).symm,
    landed.bound.trans h.bound, landed.token.trans h.token⟩

theorem Maintained.timeout (h : Maintained token m) :
    Maintained token (m.step .timeout).2 ∧
      ∀ generation, (m.step .timeout).1 = some generation → Submits m generation := by
  dsimp only [MaintenanceState.step]
  split
  · rename_i active
    have idle : m.scheduler.isIdle = true := h.timed.symm.trans active
    simp only [isIdle, Bool.and_eq_true, Bool.not_eq_true', Option.isNone_iff_eq_none] at idle
    obtain ⟨⟨⟨⟨running, enabled⟩, opened⟩, foreground⟩, alone⟩ := idle
    obtain ⟨generation, current⟩ := Option.isSome_iff_exists.1 opened
    have fires : m.scheduler.stopTimer.onTimeout =
        (some generation, { m.scheduler.stopTimer with inflightGeneration := some generation }) := by
      simp [onTimeout, stopTimer, current, running, enabled, foreground, alone, h.bound]
    have none : m.pings = [] := by rw [h.flight, alone]; rfl
    rw [fires]
    refine ⟨⟨?_, ?_, h.bound, h.token⟩, ?_⟩
    · simp [Timed, stopTimer, isIdle]
    · simp [none]
    · rintro _ ⟨⟩
      exact ⟨current, running, enabled, foreground, none⟩
  · exact ⟨h, by simp⟩

theorem Maintained.pingCompleted (h : Maintained token m) (given generation : Nat)
    (outcome : PingOutcome) : Maintained token (m.step (.pingCompleted given generation outcome)).2 := by
  dsimp only [MaintenanceState.step]
  split
  · rename_i other
    have ignored : m.scheduler.onPingCompleted given generation outcome = m.scheduler := by
      simp [onPingCompleted, other]
    rw [ignored]
    exact h
  split
  · rename_i own mem
    have mine : given = m.scheduler.executionToken := by simpa using own
    have flight : m.scheduler.inflightGeneration = some generation := by
      rw [h.flight] at mem
      simpa using mem
    obtain ⟨timed, landed⟩ := landed_onPingCompleted h.timed flight outcome
    have rest : m.pings.erase generation = [] := by rw [h.flight, flight]; simp
    rw [mine, rest]
    exact ⟨timed, by rw [landed.inflight]; rfl, landed.bound.trans h.bound,
      landed.token.trans h.token⟩
  · exact ⟨h.timed, h.flight, h.bound, h.token⟩

theorem Maintained.step (h : Maintained token m) (event : SchedulerEvent) :
    Maintained token (m.step event).2 ∧
      ∀ generation, (m.step event).1 = some generation → Submits m generation := by
  have silent : ∀ s, ∀ generation, (m.update s).1 = some generation → Submits m generation := by
    simp [MaintenanceState.update]
  cases event with
  | connectionOpened generation =>
    exact ⟨h.update (timed_onConnectionOpened h.timed _) (landed_onConnectionOpened _), silent _⟩
  | foregroundCommandStarted generation =>
    exact ⟨h.update (timed_onForegroundCommandStarted h.timed _)
      (landed_onForegroundCommandStarted _), silent _⟩
  | foregroundCommandFinished generation =>
    exact ⟨h.update (timed_onForegroundCommandFinished h.timed _)
      (landed_onForegroundCommandFinished _), silent _⟩
  | protocolActivity generation =>
    exact ⟨h.update (timed_onProtocolActivity h.timed _) (landed_onProtocolActivity _), silent _⟩
  | connectionClosed generation =>
    exact ⟨h.update (timed_onConnectionClosed h.timed _) (landed_onConnectionClosed _), silent _⟩
  | autoPingEnabledRequested enabled =>
    exact ⟨h.update (timed_onAutoPingEnabledRequested h.timed _)
      (landed_onAutoPingEnabledRequested _), silent _⟩
  | timeout => exact h.timeout
  | pingCompleted given generation outcome =>
    refine ⟨h.pingCompleted given generation outcome, ?_⟩
    dsimp only [MaintenanceState.step]
    split
    · exact silent _
    split <;> simp
  | shutdown => exact ⟨h.update timed_deactivate ⟨rfl, rfl, rfl⟩, silent _⟩

end

/-! ## Every order of the slots -/

section
variable {token : Nat} {m : MaintenanceState}

theorem maintained_run (h : Maintained token m) (events : List SchedulerEvent) :
    Maintained token (maintenance.run m events) := by
  induction events generalizing m with
  | nil => exact h
  | cons event events ih => exact ih (h.step event).1

theorem submits_history (h : Maintained token m) (events : List SchedulerEvent) :
    ∀ ev ∈ maintenance.history m events, ∀ generation, ev.output = some generation →
      Submits ev.before generation := by
  induction events generalizing m with
  | nil => simp [Runs.Machine.history]
  | cons event events ih =>
    intro ev hev
    rcases List.mem_cons.1 hev with rfl | hev
    · exact (h.step event).2
    · exact ih (h.step event).1 ev hev

end

/-- One ping at a time, a timer that runs exactly while nothing keeps it from
running, and no ping where one is not due. -/
theorem idle_ping (token : Nat) (events : List SchedulerEvent) :
    let m := maintenance.run (.new token) events
    m.pings.length ≤ 1 ∧
    (m.scheduler.timerActive = true ↔
      (∃ generation, m.scheduler.activeGeneration = some generation) ∧
      m.scheduler.autoPingEnabled = true ∧ m.scheduler.foregroundActive = false ∧
      m.pings = [] ∧ m.scheduler.shuttingDown = false) ∧
    ∀ ev ∈ maintenance.history (.new token) events, ∀ generation,
      ev.output = some generation → Submits ev.before generation := by
  intro m
  have h : Maintained token m := maintained_run (maintained_new token) events
  refine ⟨?_, ?_, submits_history (maintained_new token) events⟩
  · rw [h.flight]
    cases m.scheduler.inflightGeneration <;> simp
  · have quiet : m.pings = [] ↔ m.scheduler.inflightGeneration = none := by
      rw [h.flight]
      cases m.scheduler.inflightGeneration <;> simp
    rw [h.timed, quiet, ← Option.isSome_iff_exists]
    simp only [isIdle, Bool.and_eq_true, Bool.not_eq_true', Option.isNone_iff_eq_none]
    constructor
    · rintro ⟨⟨⟨⟨running, enabled⟩, opened⟩, foreground⟩, alone⟩
      exact ⟨opened, enabled, foreground, alone, running⟩
    · rintro ⟨opened, enabled, foreground, alone, running⟩
      exact ⟨⟨⟨⟨running, enabled⟩, opened⟩, foreground⟩, alone⟩

end MaintenanceState

end BootUpgrade

import BootUpgrade.Lib.Runs

/-!
# The command lease of a connection

`ConnectionCommandExecutor` serializes the actions of foreground callers and of
maintenance on one session. Every section that holds its condition is one step;
the calls that are inside the two `execute` methods are kept beside it.
-/

namespace BootUpgrade

/-- `MaintenanceExecutionStatus`. -/
inductive MaintenanceExecutionStatus where
  | executed
  | skippedBusy
  | staleGeneration
  | executorClosed
  deriving DecidableEq, Repr

inductive ExecutorError where
  | connectionExecutorClosed
  | staleConnectionGeneration
  deriving DecidableEq, Repr

/-- The fields of `ConnectionCommandExecutor`; the session is not looked at. -/
structure ConnectionCommandExecutor where
  generation : Nat
  active : Bool
  foregroundWaiters : Int
  valid : Bool
  deriving DecidableEq, Repr

/-- How a section that holds the condition ends for the call it belongs to. -/
inductive SectionEnd where
  /-- The condition is released in `wait`. -/
  | waiting
  /-- The lease is taken: the action starts. -/
  | leased
  | raised (error : ExecutorError)
  | refused (status : MaintenanceExecutionStatus)
  deriving DecidableEq, Repr

namespace ConnectionCommandExecutor

def new (generation : Nat) : ConnectionCommandExecutor := ⟨generation, false, 0, true⟩

def isValid (e : ConnectionCommandExecutor) : Bool := e.valid

/-- `_raise_if_unavailable`. -/
def raiseIfUnavailable (e : ConnectionCommandExecutor) (generation : Nat) : Option ExecutorError :=
  if e.valid = false then some .connectionExecutorClosed
  else if generation ≠ e.generation then some .staleConnectionGeneration
  else none

/-- The `finally` of the wait. -/
def leaveWaiting (e : ConnectionCommandExecutor) : ConnectionCommandExecutor :=
  { e with foregroundWaiters := e.foregroundWaiters - 1 }

/-- The test of the `while`, up to the next `wait` or the end of the section. -/
def awaitLease (e : ConnectionCommandExecutor) : SectionEnd × ConnectionCommandExecutor :=
  if e.active then (.waiting, e) else (.leased, { e with active := true }.leaveWaiting)

/-- The first section of `execute_foreground`. -/
def executeForeground (e : ConnectionCommandExecutor) (generation : Nat) :
    SectionEnd × ConnectionCommandExecutor :=
  match e.raiseIfUnavailable generation with
  | some error => (.raised error, e)
  | none => { e with foregroundWaiters := e.foregroundWaiters + 1 }.awaitLease

/-- The section that begins when `wait` returns. -/
def wake (e : ConnectionCommandExecutor) (generation : Nat) :
    SectionEnd × ConnectionCommandExecutor :=
  match e.raiseIfUnavailable generation with
  | some error => (.raised error, e.leaveWaiting)
  | none => e.awaitLease

/-- The first section of `try_execute_maintenance`. -/
def tryExecuteMaintenance (e : ConnectionCommandExecutor) (generation : Nat) :
    SectionEnd × ConnectionCommandExecutor :=
  if e.valid = false then (.refused .executorClosed, e)
  else if generation ≠ e.generation then (.refused .staleGeneration, e)
  else if e.active = true ∨ e.foregroundWaiters ≠ 0 then (.refused .skippedBusy, e)
  else (.leased, { e with active := true })

/-- The `finally` of the action, in both methods. -/
def releaseLease (e : ConnectionCommandExecutor) : ConnectionCommandExecutor :=
  { e with active := false }

def invalidate (e : ConnectionCommandExecutor) : ConnectionCommandExecutor :=
  { e with valid := false }

end ConnectionCommandExecutor

/-! ## The calls -/

inductive LeaseKind where
  | foreground
  | maintenance
  deriving DecidableEq, Repr

/-- A call of one of the `execute` methods; calls are told apart by their number. -/
structure LeaseCall where
  number : Nat
  kind : LeaseKind
  generation : Nat
  deriving DecidableEq, Repr

/-- The executor, the calls in `wait` and the calls whose action runs. -/
structure LeaseState where
  executor : ConnectionCommandExecutor
  waiting : List LeaseCall
  running : List LeaseCall
  nextCall : Nat
  deriving DecidableEq, Repr

/-- The sections, in the order in which they take the condition. -/
inductive LeaseEvent where
  | executeForeground (generation : Nat)
  /-- `wait` returns, woken by a notification or not. -/
  | wake (call : LeaseCall)
  /-- `wait` raises. -/
  | interrupt (call : LeaseCall)
  | tryExecuteMaintenance (generation : Nat)
  /-- The action returns or raises. -/
  | complete (call : LeaseCall) (raised : Bool)
  | invalidate
  deriving DecidableEq, Repr

inductive LeaseOutput where
  | waits (call : LeaseCall)
  | started (call : LeaseCall)
  | raised (call : LeaseCall) (error : ExecutorError)
  | refused (call : LeaseCall) (status : MaintenanceExecutionStatus)
  | interrupted (call : LeaseCall)
  | finished (call : LeaseCall) (raised : Bool)
  | invalidated
  /-- The event names a call that is not there. -/
  | ignored
  deriving DecidableEq, Repr

namespace LeaseState

def new (generation : Nat) : LeaseState := ⟨.new generation, [], [], 0⟩

/-- The call where its section leaves it. -/
def settle (s : LeaseState) (call : LeaseCall) : SectionEnd → LeaseOutput × LeaseState
  | .waiting => (.waits call, { s with waiting := call :: s.waiting })
  | .leased => (.started call, { s with running := call :: s.running })
  | .raised error => (.raised call error, s)
  | .refused status => (.refused call status, s)

/-- A new call, with how its first section ends. -/
def enter (s : LeaseState) (kind : LeaseKind) (generation : Nat)
    (first : SectionEnd × ConnectionCommandExecutor) : LeaseOutput × LeaseState :=
  { s with executor := first.2, nextCall := s.nextCall + 1 }.settle
    ⟨s.nextCall, kind, generation⟩ first.1

def step (s : LeaseState) : LeaseEvent → LeaseOutput × LeaseState
  | .executeForeground generation =>
    s.enter .foreground generation (s.executor.executeForeground generation)
  | .wake call =>
    if call ∈ s.waiting then
      let woken := s.executor.wake call.generation
      { s with executor := woken.2, waiting := s.waiting.erase call }.settle call woken.1
    else (.ignored, s)
  | .interrupt call =>
    if call ∈ s.waiting then
      (.interrupted call,
        { s with executor := s.executor.leaveWaiting, waiting := s.waiting.erase call })
    else (.ignored, s)
  | .tryExecuteMaintenance generation =>
    s.enter .maintenance generation (s.executor.tryExecuteMaintenance generation)
  | .complete call raised =>
    if call ∈ s.running then
      (.finished call raised,
        { s with executor := s.executor.releaseLease, running := s.running.erase call })
    else (.ignored, s)
  | .invalidate => (.invalidated, { s with executor := s.executor.invalidate })

/-- The executor of a connection, entered by any callers in any order. -/
def lease : Runs.Machine LeaseState LeaseEvent LeaseOutput := ⟨step⟩

/-! ## The invariant -/

/-- The flag and the counter of the executor say what the calls do. -/
structure Leased (generation : Nat) (s : LeaseState) : Prop where
  alone : s.running.length ≤ 1
  active : s.executor.active = true ↔ s.running ≠ []
  waiters : s.executor.foregroundWaiters = s.waiting.length
  foreground : ∀ call ∈ s.waiting, call.kind = .foreground
  generation : s.executor.generation = generation

theorem leased_new (generation : Nat) : Leased generation (new generation) := by
  constructor <;> simp [new, ConnectionCommandExecutor.new]

/-- What a section does to a call that enters or wakes, and to the executor that
`waiters` other callers wait for. -/
inductive Sectioned (e : ConnectionCommandExecutor) (call : LeaseCall) (waiters : Int) :
    SectionEnd × ConnectionCommandExecutor → Prop where
  | waiting (kind : call.kind = .foreground) :
    Sectioned e call waiters (.waiting, { e with foregroundWaiters := waiters + 1 })
  | leased (valid : e.valid = true) (same : call.generation = e.generation)
    (free : e.active = false) (yields : call.kind = .maintenance → waiters = 0) :
    Sectioned e call waiters (.leased, { e with active := true, foregroundWaiters := waiters })
  | raised (error : ExecutorError) :
    Sectioned e call waiters (.raised error, { e with foregroundWaiters := waiters })
  | refused (status : MaintenanceExecutionStatus) :
    Sectioned e call waiters (.refused status, { e with foregroundWaiters := waiters })

section
variable {e : ConnectionCommandExecutor} {call : LeaseCall}

theorem raiseIfUnavailable_eq_none {generation : Nat} :
    e.raiseIfUnavailable generation = none ↔ e.valid = true ∧ generation = e.generation := by
  unfold ConnectionCommandExecutor.raiseIfUnavailable
  cases e.valid <;> by_cases same : generation = e.generation <;> simp [same]

/-- The test of the `while`, with the caller among the waiters. -/
theorem awaitLease_sectioned (kind : call.kind = .foreground) (waiters : Int)
    (accepted : e.raiseIfUnavailable call.generation = none) :
    Sectioned e call waiters { e with foregroundWaiters := waiters + 1 }.awaitLease := by
  obtain ⟨valid, same⟩ := raiseIfUnavailable_eq_none.1 accepted
  unfold ConnectionCommandExecutor.awaitLease
  split
  · exact .waiting kind
  · rename_i busy
    have free : e.active = false := by simpa using busy
    have yields : call.kind = .maintenance → waiters = 0 := by
      intro other
      rw [kind] at other
      cases other
    rw [ConnectionCommandExecutor.leaveWaiting]
    simp only [Int.add_sub_cancel]
    exact .leased valid same free yields

theorem executeForeground_sectioned (kind : call.kind = .foreground) :
    Sectioned e call e.foregroundWaiters (e.executeForeground call.generation) := by
  unfold ConnectionCommandExecutor.executeForeground
  split
  · exact .raised _
  · exact awaitLease_sectioned kind _ (by assumption)

theorem wake_sectioned (kind : call.kind = .foreground) :
    Sectioned e call (e.foregroundWaiters - 1) (e.wake call.generation) := by
  unfold ConnectionCommandExecutor.wake
  split
  · exact .raised _
  · have woken := awaitLease_sectioned kind (e.foregroundWaiters - 1) (by assumption)
    rwa [Int.sub_add_cancel] at woken

theorem tryExecuteMaintenance_sectioned :
    Sectioned e call e.foregroundWaiters (e.tryExecuteMaintenance call.generation) := by
  unfold ConnectionCommandExecutor.tryExecuteMaintenance
  split
  · exact .refused _
  split
  · exact .refused _
  split
  · exact .refused _
  · rename_i valid same idle
    obtain ⟨free, none⟩ := not_or.1 idle
    exact .leased (by simpa using valid) (by simpa using same) (by simpa using free)
      fun _ => by simpa using none

end

/-- An action starts alone, on a valid executor of its generation, and one of
maintenance starts while no caller waits. -/
structure Starts (s : LeaseState) (call : LeaseCall) : Prop where
  alone : s.running = []
  valid : s.executor.valid = true
  generation : call.generation = s.executor.generation
  yields : call.kind = .maintenance → s.waiting = []

/-- What one step keeps and what it may start. -/
structure Kept (generation : Nat) (s : LeaseState) (after : LeaseOutput × LeaseState) :
    Prop where
  leased : Leased generation after.2
  starts : ∀ call, after.1 = .started call → Starts s call
  valid : after.2.executor.valid = true → s.executor.valid = true

section
variable {generation : Nat} {s : LeaseState}

theorem Leased.idle (h : Leased generation s) (free : s.executor.active = false) :
    s.running = [] := by
  cases hr : s.running with
  | nil => rfl
  | cons call calls =>
    have busy := h.active.2 (by simp [hr])
    rw [free] at busy
    cases busy

/-- A section of a call, with the other calls that wait. -/
theorem Leased.settle (h : Leased generation s) {call : LeaseCall} {others : List LeaseCall}
    {ended : SectionEnd × ConnectionCommandExecutor} (next : Nat)
    (hs : Sectioned s.executor call others.length ended)
    (foreground : ∀ c ∈ others, c.kind = .foreground)
    (yields : call.kind = .maintenance → s.waiting = others) :
    Kept generation s
      ({ s with executor := ended.2, waiting := others, nextCall := next }.settle call ended.1) := by
  cases hs with
  | waiting kind =>
    have known : ∀ c ∈ call :: others, c.kind = .foreground := by
      simpa using ⟨kind, foreground⟩
    exact ⟨⟨h.alone, h.active, by simp [LeaseState.settle], known, h.generation⟩,
      by simp [LeaseState.settle], id⟩
  | leased valid same free maintenance =>
    have idle := h.idle free
    constructor
    · constructor
      · simp [LeaseState.settle, idle]
      · simp [LeaseState.settle]
      · rfl
      · exact foreground
      · exact h.generation
    · rintro c started
      simp only [LeaseState.settle, LeaseOutput.started.injEq] at started
      subst started
      refine ⟨idle, valid, same, fun kind => ?_⟩
      have none := maintenance kind
      rw [yields kind]
      simpa using none
    · exact fun _ => valid
  | raised error =>
    exact ⟨⟨h.alone, h.active, rfl, foreground, h.generation⟩, by simp [LeaseState.settle], id⟩
  | refused status =>
    exact ⟨⟨h.alone, h.active, rfl, foreground, h.generation⟩, by simp [LeaseState.settle], id⟩

/-! ## One step -/

theorem Leased.enter (h : Leased generation s) (kind : LeaseKind) (given : Nat)
    (first : SectionEnd × ConnectionCommandExecutor)
    (hs : Sectioned s.executor ⟨s.nextCall, kind, given⟩ s.executor.foregroundWaiters first) :
    Kept generation s (s.enter kind given first) := by
  rw [h.waiters] at hs
  exact h.settle (s.nextCall + 1) hs h.foreground fun _ => rfl

theorem length_erase {calls : List LeaseCall} {call : LeaseCall} (h : call ∈ calls) :
    ((calls.erase call).length : Int) = calls.length - 1 := by
  have long := List.length_pos_of_mem h
  rw [List.length_erase_of_mem h]
  omega

theorem Leased.wake (h : Leased generation s) (call : LeaseCall) :
    Kept generation s (s.step (.wake call)) := by
  dsimp only [LeaseState.step]
  split
  · rename_i waits
    have kind := h.foreground call waits
    have hs := wake_sectioned (e := s.executor) kind
    rw [h.waiters, ← length_erase waits] at hs
    have others : ∀ c ∈ s.waiting.erase call, c.kind = .foreground := fun c hc =>
      h.foreground c (List.mem_of_mem_erase hc)
    apply h.settle s.nextCall hs others
    intro other
    rw [kind] at other
    cases other
  · exact ⟨h, by simp, id⟩

theorem Leased.interrupt (h : Leased generation s) (call : LeaseCall) :
    Kept generation s (s.step (.interrupt call)) := by
  dsimp only [LeaseState.step]
  split
  · rename_i waits
    refine ⟨⟨h.alone, h.active, ?_, ?_, h.generation⟩, by simp, id⟩
    · rw [length_erase waits, ← h.waiters]
      rfl
    · exact fun c hc => h.foreground c (List.mem_of_mem_erase hc)
  · exact ⟨h, by simp, id⟩

theorem Leased.complete (h : Leased generation s) (call : LeaseCall) (raised : Bool) :
    Kept generation s (s.step (.complete call raised)) := by
  dsimp only [LeaseState.step]
  split
  · rename_i runs
    have last : s.running.erase call = [] := by
      apply List.eq_nil_of_length_eq_zero
      have long := List.length_pos_of_mem runs
      have alone := h.alone
      rw [List.length_erase_of_mem runs]
      omega
    refine ⟨⟨?_, ?_, h.waiters, h.foreground, h.generation⟩, by simp, id⟩ <;>
      simp [last, ConnectionCommandExecutor.releaseLease]
  · exact ⟨h, by simp, id⟩

theorem Leased.step (h : Leased generation s) (event : LeaseEvent) :
    Kept generation s (s.step event) := by
  cases event with
  | executeForeground given => exact h.enter _ _ _ (executeForeground_sectioned rfl)
  | wake call => exact h.wake call
  | interrupt call => exact h.interrupt call
  | tryExecuteMaintenance given => exact h.enter _ _ _ tryExecuteMaintenance_sectioned
  | complete call raised => exact h.complete call raised
  | invalidate => exact ⟨⟨h.alone, h.active, h.waiters, h.foreground, h.generation⟩,
      by simp [LeaseState.step], by simp [LeaseState.step, ConnectionCommandExecutor.invalidate]⟩

end

/-! ## Every interleaving -/

section
variable {generation : Nat} {s : LeaseState}

theorem leased_run (h : Leased generation s) (events : List LeaseEvent) :
    Leased generation (lease.run s events) := by
  induction events generalizing s with
  | nil => exact h
  | cons event events ih => exact ih (h.step event).leased

theorem starts_history (h : Leased generation s) (events : List LeaseEvent) :
    ∀ ev ∈ lease.history s events, ∀ call, ev.output = .started call → Starts ev.before call := by
  induction events generalizing s with
  | nil => simp [Runs.Machine.history]
  | cons event events ih =>
    intro ev hev
    rcases List.mem_cons.1 hev with rfl | hev
    · exact (h.step event).starts
    · exact ih (h.step event).leased ev hev

/-- An executor that has been invalidated starts nothing. -/
theorem invalid_history (h : Leased generation s) (invalid : s.executor.valid = false)
    (events : List LeaseEvent) :
    ∀ ev ∈ lease.history s events, ∀ call, ev.output ≠ .started call := by
  induction events generalizing s with
  | nil => simp [Runs.Machine.history]
  | cons event events ih =>
    have kept := h.step event
    have stays : (s.step event).2.executor.valid = false := by
      cases valid : (s.step event).2.executor.valid with
      | false => rfl
      | true => rw [kept.valid valid] at invalid; cases invalid
    intro ev hev call started
    rcases List.mem_cons.1 hev with rfl | hev
    · have valid := (kept.starts call started).valid
      rw [invalid] at valid
      cases valid
    · exact ih kept.leased stays ev hev call started

end

/-- Whatever the callers do: one action at a time, the flag and the counter say
what the calls do, maintenance starts only while nobody waits, and nothing
starts after an invalidation. -/
theorem connection_lease (generation : Nat) (events : List LeaseEvent) :
    let s := lease.run (.new generation) events
    let history := lease.history (.new generation) events
    s.running.length ≤ 1 ∧
    (s.executor.active = true ↔ s.running ≠ []) ∧
    s.executor.foregroundWaiters = s.waiting.length ∧
    (∀ ev ∈ history, ∀ call, ev.output = .started call → Starts ev.before call) ∧
    ∀ past invalidation later, history = past ++ invalidation :: later →
      invalidation.input = .invalidate → ∀ ev ∈ later, ∀ call, ev.output ≠ .started call := by
  intro s history
  have leased := leased_run (leased_new generation) events
  refine ⟨leased.alone, leased.active, leased.waiters, starts_history (leased_new generation) events,
    ?_⟩
  intro past invalidation later split invalidate
  obtain ⟨before, after, -, here, rfl, -⟩ := lease.history_split split
  have reached := (leased_run (leased_new generation) before).step .invalidate
  rw [invalidate] at here
  have invalidated : invalidation.after.executor.valid = false := by rw [here]; rfl
  have kept : Leased generation invalidation.after := by
    rw [here]
    exact reached.leased
  exact invalid_history kept invalidated after

end LeaseState

end BootUpgrade

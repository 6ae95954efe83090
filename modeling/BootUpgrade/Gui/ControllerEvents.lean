import BootUpgrade.Lib.Runs
import BootUpgrade.Gui.Controller

/-!
# What an event does to the controller

The calls that the controller handles one at a time, as the inputs of a machine, and
what its procedures leave:

* `Becomes`: what is left of a controller, by its active task, the fields of its
  snapshot and the results that it has reported since;
* `Held`: what is true of the active task between two events;
* `Effect`: the task that an event is about is active afterwards or has its result
  reported.
-/

namespace BootUpgrade

open Runs

/-- A call of the controller in its own thread, or the fatal error that one from another
thread has queued. -/
inductive ControllerEvent where
  | requestConnect (createPlan : TaskId → PlanAnswer) (worker : WorkerAnswers)
  | requestTask (createPlan : TaskId → PlanAnswer) (worker : WorkerAnswers)
  | requestDisconnect (createPlan : TaskId → PlanAnswer) (worker : WorkerAnswers)
  | requestApplicationClose (worker : WorkerAnswers)
  | requestCancel (taskId : TaskId)
  | respondTaskAction (taskId : TaskId) (action : TaskDialogAction) (worker : WorkerAnswers)
  | progress (message : Option WorkerProgressMessage)
  | result (message : Option WorkerResultMessage) (worker : WorkerAnswers)
  | threadFinished (generation : Int) (worker : WorkerAnswers)
  | wrongThread (taskId : Option TaskId)

inductive ControllerAnswer where
  | admission (admission : RequestAdmission)
  | close (result : ApplicationCloseResult)
  | action (answer : ActionAnswer)
  | handled

/-- The task of an accepted request. -/
def RequestAdmission.acceptedId : RequestAdmission → Option TaskId
  | accepted taskId => some taskId
  | _ => none

def ApplicationCloseResult.acceptedId : ApplicationCloseResult → Option TaskId
  | shutdownStarted taskId => some taskId
  | _ => none

def ControllerAnswer.acceptedId : ControllerAnswer → Option TaskId
  | admission answer => answer.acceptedId
  | close answer => answer.acceptedId
  | _ => none

namespace GuiController

open Procedure

def handle : ControllerEvent → ControllerProcedure ControllerAnswer
  | .requestConnect createPlan worker => return .admission (← requestConnect createPlan worker)
  | .requestTask createPlan worker => return .admission (← requestTask createPlan worker)
  | .requestDisconnect createPlan worker => return .admission (← requestDisconnect createPlan worker)
  | .requestApplicationClose worker => return .close (← requestApplicationClose worker)
  | .requestCancel taskId => return .action (← requestCancel taskId)
  | .respondTaskAction taskId action worker =>
    return .action (← respondTaskAction taskId action worker)
  | .progress message => do
    onProgress message
    return .handled
  | .result message worker => do
    onResult message worker
    return .handled
  | .threadFinished generation worker => do
    onThreadFinished generation worker
    return .handled
  | .wrongThread taskId => do
    enterFatal (wrongThread taskId)
    return .handled

/-- The controller as a machine; an exception leaves what has been done. -/
def machine : Machine GuiController ControllerEvent (Except String ControllerAnswer) where
  step c event := handle event c

/-! ## What has been reported -/

def reported : ControllerSignal → Option TaskExecutionResult
  | .taskFinished result => some result
  | _ => none

/-- The results that have been reported, in their order. -/
def finished (c : GuiController) : List TaskExecutionResult := c.signals.filterMap reported

def finishedIds (c : GuiController) : List TaskId := (finished c).map (·.taskId)

/-- The state that is left, with the results that have been reported since. -/
structure Becomes (c c' : GuiController) (active : Option ActiveTask) (s : SnapshotFields)
    (news : List TaskExecutionResult) : Prop where
  active : c'.active = active
  snapshot : c'.snapshot.1 = s
  next : c'.nextTaskId = c.nextTaskId
  finished : finished c' = finished c ++ news

theorem Becomes.same {c : GuiController} {a : Option ActiveTask} (active : c.active = a) :
    Becomes c c a c.snapshot.1 [] :=
  ⟨active, rfl, rfl, (List.append_nil _).symm⟩

theorem Becomes.setActive (c : GuiController) (a : Option ActiveTask) :
    Becomes c { c with active := a } a c.snapshot.1 [] :=
  ⟨rfl, rfl, rfl, (List.append_nil _).symm⟩

theorem Becomes.trans {c₁ c₂ c₃ : GuiController} {a₂ a₃ : Option ActiveTask} {s₂ s₃ : SnapshotFields}
    {news more : List TaskExecutionResult} (first : Becomes c₁ c₂ a₂ s₂ news)
    (second : Becomes c₂ c₃ a₃ s₃ more) : Becomes c₁ c₃ a₃ s₃ (news ++ more) where
  active := second.active
  snapshot := second.snapshot
  next := second.next.trans first.next
  finished := by rw [second.finished, first.finished, List.append_assoc]

/-! ## Small steps -/

section
variable {β : Type} {c : GuiController} {post : Except String β → GuiController → Prop}

theorem ends_emit {signal : ControllerSignal} {f : Unit → ControllerProcedure β}
    (silent : reported signal = none)
    (rest : ∀ c', Becomes c c' c.active c.snapshot.1 [] → Ends (f ()) c' post) :
    Ends (emit signal >>= f) c post := by
  apply ends_update_bind
  apply rest
  exact ⟨rfl, rfl, rfl, by simp [finished, silent]⟩

theorem emit_ends {signal : ControllerSignal} (silent : reported signal = none) :
    Ends (emit signal) c fun result c' =>
      result = .ok () ∧ Becomes c c' c.active c.snapshot.1 [] := by
  apply ends_update
  refine ⟨rfl, rfl, rfl, rfl, ?_⟩
  simp [finished, silent]

theorem setTaskState_ends {a : ActiveTask} {changes : TaskState → TaskState}
    (valid : (changes a.state).Valid) :
    Ends (setTaskState a changes) c fun result c' =>
      result = .ok { a with state := changes a.state } ∧
      c' = { c with active := some { a with state := changes a.state } } := by
  apply ends_update_bind
  apply ends_check_bind
  · intro error raised
    rw [TaskState.check_valid valid] at raised
    cases raised
  · intro state passed
    rw [TaskState.check_valid valid] at passed
    cases passed
    exact ends_update_bind (ends_pure ⟨rfl, rfl⟩)

theorem ends_setTaskState {a : ActiveTask} {changes : TaskState → TaskState}
    {f : ActiveTask → ControllerProcedure β} (valid : (changes a.state).Valid)
    (rest : Ends (f { a with state := changes a.state })
      { c with active := some { a with state := changes a.state } } post) :
    Ends (setTaskState a changes >>= f) c post := by
  apply ends_bind_ok (setTaskState_ends valid)
  rintro _ rfl
  exact rest

theorem publishSnapshot_ends {new : RuntimeSnapshot} {before : List ControllerSignal}
    (silent : before.filterMap reported = []) :
    Ends (publishSnapshot new before) c fun result c' =>
      result = .ok () ∧ Becomes c c' c.active new.1 [] := by
  apply ends_update
  refine ⟨rfl, rfl, rfl, rfl, ?_⟩
  simp only [finished, List.filterMap_append, silent, List.append_nil]
  split <;> simp [reported]

theorem setSnapshot_ends {changes : SnapshotFields → SnapshotFields}
    (valid : (changes c.snapshot.1).Valid) :
    Ends (setSnapshot changes) c fun result c' =>
      result = .ok () ∧ Becomes c c' c.active (changes c.snapshot.1) [] := by
  apply ends_check_bind
  · intro error raised
    rw [RuntimeSnapshot.replace_valid valid] at raised
    cases raised
  · intro new passed
    rw [RuntimeSnapshot.replace_valid valid] at passed
    cases passed
    exact publishSnapshot_ends rfl

theorem ends_setSnapshot {changes : SnapshotFields → SnapshotFields}
    {f : Unit → ControllerProcedure β} (valid : (changes c.snapshot.1).Valid)
    (rest : ∀ c', Becomes c c' c.active (changes c.snapshot.1) [] → Ends (f ()) c' post) :
    Ends (setSnapshot changes >>= f) c post :=
  ends_bind_ok (setSnapshot_ends valid) rest

theorem setSnapshot_invalid {changes : SnapshotFields → SnapshotFields}
    (invalid : ¬ (changes c.snapshot.1).Valid) :
    Ends (setSnapshot changes) c fun answer c' => (∃ message, answer = .error message) ∧ c' = c := by
  obtain ⟨message, failed⟩ := RuntimeSnapshot.replace_invalid invalid
  apply ends_check_bind
  · intro error raised
    exact ⟨⟨error, rfl⟩, rfl⟩
  · intro new passed
    rw [failed] at passed
    cases passed

/-- The end of a task, when its last state and the snapshot pass their checks. -/
theorem finish_ends {a : ActiveTask} {result : TaskExecutionResult} {error : Option GuiRuntimeError}
    {autoCloseDelayMs : Option Nat} {changes : SnapshotFields → SnapshotFields}
    (plan : a.state.plan.taskId = a.state.taskId) (own : result.taskId = a.state.taskId)
    (matching : ∀ e, error = some e → e.taskId = none ∨ e.taskId = some a.state.taskId)
    (valid : (changes c.snapshot.1).Valid) :
    Ends (finish a result error autoCloseDelayMs changes) c fun answer c' =>
      answer = .ok () ∧ Becomes c c' none (changes c.snapshot.1) [result] := by
  have passes : TaskState.Valid { a.state with
      phase := .finished
      dispositionState := .complete
      availableActions := []
      closeAllowed := true
      autoCloseDelayMs
      result := some result
      error } := ⟨plan, by rintro _ ⟨⟩; exact own, matching⟩
  apply ends_check_bind
  · intro message raised
    rw [TaskState.check_valid passes] at raised
    cases raised
  intro final passed
  apply ends_update_bind
  apply ends_check_bind
  · intro message raised
    rw [RuntimeSnapshot.replace_valid valid] at raised
    cases raised
  intro new passed
  rw [RuntimeSnapshot.replace_valid valid] at passed
  cases passed
  apply ends_bind_ok (publishSnapshot_ends rfl)
  intro c₁ published
  apply ends_update
  refine ⟨rfl, published.active, published.snapshot, published.next, ?_⟩
  have before := published.finished
  simp only [finished, List.append_nil] at before
  simp [finished, before, reported]

theorem complete_ends {a : ActiveTask} {result : TaskExecutionResult} {state : RuntimeState}
    {changes : SnapshotFields → SnapshotFields} (active : c.active = some a)
    (task : a.state.taskId = a.taskId) (plan : a.state.plan.taskId = a.state.taskId)
    (own : result.taskId = a.taskId)
    (valid : (changes { c.snapshot.1 with
      state
      activeTaskId := none
      disconnectDecisionPending := false }).Valid) :
    Ends (complete result state changes) c fun answer c' =>
      answer = .ok () ∧ Becomes c c' none (changes { c.snapshot.1 with
        state
        activeTaskId := none
        disconnectDecisionPending := false }) [result] := by
  apply ends_check_bind
  · intro error raised
    simp [active] at raised
  · intro present is
    simp only [active, Except.ok.injEq] at is
    subst is
    apply finish_ends plan (own.trans task.symm) _ valid
    intro error present
    rw [task, ← own]
    exact result.error_task error present

end

/-! ## Between two events -/

/-- An error that a result of the task may carry. -/
def Matches (error : GuiRuntimeError) (a : ActiveTask) : Prop :=
  error.taskId = none ∨ error.taskId = some a.taskId

instance (error : GuiRuntimeError) (a : ActiveTask) : Decidable (Matches error a) :=
  inferInstanceAs (Decidable (_ ∨ _))

/-- What is true of the active task, with the fields of the snapshot, between two events. -/
structure Held (a : ActiveTask) (s : SnapshotFields) : Prop where
  named : s.activeTaskId = some a.taskId
  connected : s.state ≠ .connected
  disconnected : s.state ≠ .disconnected
  task : a.state.taskId = a.taskId
  valid : a.state.Valid
  result : ∀ result, a.result = some result → result.taskId = a.taskId
  received : a.resultReceived = true → a.result.isSome = true
  primary : ∀ result, a.primaryResult = some result → result.taskId = a.taskId
  released : a.kind = .internalDisconnect → a.primaryResult.isSome = true
  connection : a.kind = .task →
    (a.origin = .disconnected ∧ a.plan.connectionRequirement = .none ∧ s.connectionInfo = none ∧
      s.activeTargetKey = none ∧ s.connectionSuspect = false) ∨
    (a.origin = .connected ∧ s.connectionInfo.isSome = true ∧ s.activeTargetKey.isSome = true)
  decision : s.disconnectDecisionPending = true → a.kind = .task ∧ a.origin = .connected ∧
    a.primaryResult.isSome = true ∧ a.threadFinished = true
  choices : .keepConnection ∈ a.state.availableActions ∨ .disconnect ∈ a.state.availableActions →
    s.disconnectDecisionPending = true
  retry : .retryCleanup ∈ a.state.availableActions →
    s.disconnectDecisionPending = false ∧ a.threadFinished = true
  thread : a.thread = !a.threadFinished
  started : a.thread = true → a.threadStarted = true
  fatal : ∀ error, a.fatalError = some error → error.disposition = .runtimeFatal
  fatalResult : ∀ result, a.fatalResult = some result → result.status = .failed

/-- The fatal error of a task is the error of the snapshot until its thread has exited. -/
def Steady (a : ActiveTask) (s : SnapshotFields) : Prop :=
  ∀ error, a.fatalError = some error →
    s.state = .error ∧ s.lastError = some error ∧ Matches error a ∧ a.threadFinished = false

/-- The task that an event is about is active afterwards, or its one result has been
reported. -/
inductive Effect (calm : Prop) (owner : Option TaskId) (c c' : GuiController) : Prop where
  | active {a : ActiveTask} {s : SnapshotFields} (becomes : Becomes c c' (some a) s [])
    (held : Held a s) (steady : calm → Steady a s) (same : owner = some a.taskId)
  | finished {result : TaskExecutionResult} {s : SnapshotFields}
    (becomes : Becomes c c' none s [result]) (unnamed : s.activeTaskId = none)
    (same : owner = some result.taskId)
  | idle {s : SnapshotFields} (becomes : Becomes c c' none s []) (unnamed : s.activeTaskId = none)
    (nobody : owner = none)

/-- A fatal error has made the snapshot its own, and a task that is still active waits for
its thread to exit. -/
structure Landed (error : GuiRuntimeError) (c c' : GuiController) : Prop where
  state : c'.snapshot.1.state = .error
  lastError : c'.snapshot.1.lastError = some error
  waiting : ∀ a, c'.active = some a → a.fatalError = some error ∧ a.thread = true
  failed : ∃ news : Option TaskExecutionResult, finished c' = finished c ++ news.toList ∧
    ∀ result, news = some result → result.status = .failed

/-- What comes of a procedure that a fatal error, if there is one, ends. -/
structure Lands {α : Type} (calm : Prop) (owner : Option TaskId) (fault : Option GuiRuntimeError)
    (c : GuiController) (result : Except String α) (c' : GuiController) : Prop where
  effect : Effect calm owner c c'
  quiet : calm → ∃ value, result = .ok value
  landed : calm → ∀ error, fault = some error → Landed error c c'

theorem Effect.after {calm : Prop} {owner : Option TaskId} {c₁ c₂ c₃ : GuiController}
    {a : Option ActiveTask} {s : SnapshotFields} (first : Becomes c₁ c₂ a s [])
    (effect : Effect calm owner c₂ c₃) : Effect calm owner c₁ c₃ := by
  cases effect with
  | active becomes held steady same => exact .active (first.trans becomes) held steady same
  | finished becomes unnamed same => exact .finished (first.trans becomes) unnamed same
  | idle becomes unnamed nobody => exact .idle (first.trans becomes) unnamed nobody

theorem Landed.after {error : GuiRuntimeError} {c₁ c₂ c₃ : GuiController}
    {a : Option ActiveTask} {s : SnapshotFields} (first : Becomes c₁ c₂ a s [])
    (landed : Landed error c₂ c₃) : Landed error c₁ c₃ where
  state := landed.state
  lastError := landed.lastError
  waiting := landed.waiting
  failed := by
    obtain ⟨news, is, failed⟩ := landed.failed
    refine ⟨news, ?_, failed⟩
    rw [is, first.finished, List.append_nil]

theorem Lands.after {α : Type} {calm : Prop} {owner : Option TaskId} {fault : Option GuiRuntimeError}
    {c₁ c₂ c₃ : GuiController} {a : Option ActiveTask} {s : SnapshotFields} {result : Except String α}
    (first : Becomes c₁ c₂ a s []) (lands : Lands calm owner fault c₂ result c₃) :
    Lands calm owner fault c₁ result c₃ where
  effect := lands.effect.after first
  quiet := lands.quiet
  landed := fun h error is => (lands.landed h error is).after first

/-- A procedure after which the task is still active, without a fault. -/
theorem lands_active {α : Type} {calm : Prop} {c c' : GuiController} {a : ActiveTask}
    {s : SnapshotFields} {taskId : TaskId} {value : α} (becomes : Becomes c c' (some a) s [])
    (same : taskId = a.taskId) (held : Held a s) (steady : calm → Steady a s) :
    Lands calm (some taskId) none c (.ok value) c' where
  effect := .active becomes held steady (congrArg some same)
  quiet := fun _ => ⟨value, rfl⟩
  landed := by rintro _ _ ⟨⟩

theorem lands_finished {α : Type} {calm : Prop} {c c' : GuiController} {result : TaskExecutionResult}
    {s : SnapshotFields} {value : α} (becomes : Becomes c c' none s [result])
    (unnamed : s.activeTaskId = none) :
    Lands calm (some result.taskId) none c (.ok value) c' where
  effect := .finished becomes unnamed rfl
  quiet := fun _ => ⟨value, rfl⟩
  landed := by rintro _ _ ⟨⟩

/-! ## The fatal path -/

theorem valid_error {s : SnapshotFields} {error : GuiRuntimeError} {activeTaskId : Option TaskId}
    (valid : s.Valid) (fatal : error.disposition = .runtimeFatal)
    (decided : s.disconnectDecisionPending = false) :
    (errorFields error activeTaskId s).Valid where
  inactive := by simp [errorFields]
  disconnected := by simp [errorFields]
  connected := by simp [errorFields]
  target := valid.target
  cleanup := valid.cleanup
  error := fun _ => ⟨error, rfl, fatal⟩
  decision := by simp [errorFields, decided]

/-- An error state cannot wait for a decision. -/
theorem not_valid_error {s : SnapshotFields} {error : GuiRuntimeError} {activeTaskId : Option TaskId}
    (pending : s.disconnectDecisionPending = true) : ¬ (errorFields error activeTaskId s).Valid := by
  intro valid
  have busy := (valid.decision pending).1
  cases busy

theorem fatalFailure_matches {a : ActiveTask} {error : GuiRuntimeError} (matching : Matches error a) :
    ∃ result, fatalFailure a error = .ok result ∧ result.taskId = a.taskId ∧
      result.status = .failed := by
  unfold Matches at matching
  exact ⟨_, dif_pos matching, rfl, rfl⟩

theorem fatalFailure_mismatch {a : ActiveTask} {error : GuiRuntimeError}
    (mismatch : ¬ Matches error a) : fatalFailure a error = .error "task id mismatch" := by
  unfold Matches at mismatch
  exact dif_neg mismatch

theorem fatalReport_ends {c : GuiController} {a : ActiveTask} {error : GuiRuntimeError}
    (failed : ∀ result, a.fatalResult = some result → result.status = .failed) :
    Ends (fatalReport a error) c fun answer c' => c' = c ∧
      (∀ result, answer = .ok result → result.taskId = a.taskId ∧ result.status = .failed) ∧
      (Matches error a → ∃ result, answer = .ok result) := by
  have made : Ends (check fun _ => fatalFailure a error) c fun answer c' => c' = c ∧
      (∀ result, answer = .ok result → result.taskId = a.taskId ∧ result.status = .failed) ∧
      (Matches error a → ∃ result, answer = .ok result) := by
    apply ends_check
    refine ⟨rfl, ?_, ?_⟩
    · intro result is
      by_cases matching : Matches error a
      · obtain ⟨_, made, own, status⟩ := fatalFailure_matches matching
        rw [made] at is
        cases is
        exact ⟨own, status⟩
      · rw [fatalFailure_mismatch matching] at is
        cases is
    · intro matching
      obtain ⟨result, made, _⟩ := fatalFailure_matches matching
      exact ⟨result, made⟩
  unfold fatalReport
  cases present : a.fatalResult.filter (·.taskId = a.taskId) with
  | none => exact made
  | some result =>
    simp only [Option.filter_eq_some_iff, decide_eq_true_eq] at present
    refine ends_pure ⟨rfl, ?_, fun _ => ⟨result, rfl⟩⟩
    rintro _ ⟨⟩
    exact ⟨present.2, failed result present.1⟩

/-- The end of a task raises before anything is done when the error is of another task. -/
theorem finish_mismatch {c : GuiController} {a : ActiveTask} {result : TaskExecutionResult}
    {error : GuiRuntimeError} {autoCloseDelayMs : Option Nat}
    {changes : SnapshotFields → SnapshotFields} (task : a.state.taskId = a.taskId)
    (mismatch : ¬ Matches error a) :
    Ends (finish a result (some error) autoCloseDelayMs changes) c fun _ c' => c' = c := by
  apply ends_check_bind
  · intro message raised
    rfl
  · intro final passed
    have matching := (TaskState.valid_of_check passed).1.error error rfl
    rw [task] at matching
    exact absurd matching mismatch

/-- A task that has exited ends with its fatal error, if that is one of its own. -/
theorem finalizeFatal_ends {c : GuiController} {a : ActiveTask} {error : GuiRuntimeError}
    (active : c.active = some a) (task : a.state.taskId = a.taskId)
    (plan : a.state.plan.taskId = a.state.taskId)
    (failed : ∀ result, a.fatalResult = some result → result.status = .failed)
    (latched : a.fatalError = some error) (thread : a.thread = false)
    (fatal : error.disposition = .runtimeFatal)
    (decided : c.snapshot.1.disconnectDecisionPending = false) :
    Ends finalizeFatal c fun answer c' =>
      (answer = .ok () ∧ ∃ result, result.taskId = a.taskId ∧ result.status = .failed ∧
        Becomes c c' none (errorFields error none c.snapshot.1) [result]) ∨
      (¬ Matches error a ∧ c' = c) := by
  unfold finalizeFatal
  apply ends_read_bind
  simp only [active, latched, thread, Bool.false_eq_true, if_false]
  apply ends_bind (fatalReport_ends failed)
  · rintro message _ ⟨rfl, _, made⟩
    refine .inr ⟨fun matching => ?_, rfl⟩
    obtain ⟨_, is⟩ := made matching
    cases is
  · rintro result _ ⟨rfl, own, _⟩
    obtain ⟨own, status⟩ := own result rfl
    by_cases matching : Matches error a
    case neg =>
      apply (finish_mismatch task matching).mono
      intro answer c' is
      exact .inr ⟨matching, is⟩
    · have finishes : ∀ e, some error = some e → e.taskId = none ∨ e.taskId = some a.state.taskId := by
        rintro _ ⟨⟩
        rw [task]
        exact matching
      apply (finish_ends plan (own.trans task.symm) finishes (valid_error (RuntimeSnapshot.valid _) fatal decided)).mono
      rintro answer c' ⟨is, becomes⟩
      exact .inl ⟨is, result, own, status, becomes⟩

section
variable {calm : Prop} {c : GuiController} {a : ActiveTask} {error : GuiRuntimeError}

/-- A fault without an active task. -/
theorem enterFatal_idle (active : c.active = none) (unnamed : c.snapshot.1.activeTaskId = none)
    (fatal : error.disposition = .runtimeFatal) :
    Ends (enterFatal error) c (Lands calm none (some error) c) := by
  have decided : c.snapshot.1.disconnectDecisionPending = false := by
    cases pending : c.snapshot.1.disconnectDecisionPending with
    | false => rfl
    | true =>
      have named := (c.snapshot.valid.decision pending).2.2
      simp [unnamed] at named
  unfold enterFatal
  apply ends_read_bind
  simp only [active]
  apply ends_setSnapshot (valid_error c.snapshot.valid fatal decided)
  intro c₁ published
  apply (emit_ends rfl).mono
  rintro answer c' ⟨rfl, emitted⟩
  have becomes := published.trans emitted
  simp only [published.active, active, published.snapshot, List.append_nil] at becomes
  exact {
    effect := .idle becomes rfl rfl
    quiet := fun _ => ⟨(), rfl⟩
    landed := by
      rintro _ _ ⟨⟩
      refine ⟨?_, ?_, ?_, none, becomes.finished, by simp⟩
      · rw [becomes.snapshot]
        rfl
      · rw [becomes.snapshot]
        rfl
      · simp [becomes.active] }

/-- The first fatal error of a task is the one that counts. -/
theorem enterFatal_latched (active : c.active = some a) (latched : a.fatalError.isSome = true) :
    Ends (enterFatal error) c fun answer c' => answer = .ok () ∧ c' = c := by
  unfold enterFatal
  apply ends_read_bind
  simp only [active, latched, if_true]
  exact ends_pure ⟨rfl, rfl⟩

theorem Held.latch {s : SnapshotFields} (held : Held a s) (fatal : error.disposition = .runtimeFatal) :
    Held { a with fatalError := some error } s :=
  { held with
    fatal := by
      rintro _ ⟨⟩
      exact fatal }

theorem Held.errorFields {s : SnapshotFields} (held : Held a s) :
    Held a (errorFields error (some a.taskId) s) :=
  { held with
    named := rfl
    connected := by simp [GuiController.errorFields]
    disconnected := by simp [GuiController.errorFields] }

/-- A fault of the active task. The task ends if its thread has exited, and waits for it
otherwise. -/
theorem enterFatal_held (active : c.active = some a) (held : Held a c.snapshot.1)
    (fatal : error.disposition = .runtimeFatal) (unlatched : a.fatalError = none)
    (ready : calm → c.snapshot.1.disconnectDecisionPending = false ∧ Matches error a) :
    Ends (enterFatal error) c (Lands calm (some a.taskId) (some error) c) := by
  unfold enterFatal
  apply ends_read_bind
  simp only [active, unlatched, Option.isSome_none, Bool.false_eq_true, if_false]
  apply ends_update_bind
  cases decided : c.snapshot.1.disconnectDecisionPending with
  | true =>
    have upset : ¬ calm := fun h => by simp [(ready h).1] at decided
    apply ends_bind (setSnapshot_invalid ?_)
    · rintro message _ ⟨_, rfl⟩
      exact {
        effect := .active (.setActive c _) (held.latch fatal) (fun h => absurd h upset) rfl
        quiet := fun h => absurd h upset
        landed := fun h => absurd h upset }
    · rintro _ _ ⟨⟨_, ⟨⟩⟩, _⟩
    · exact not_valid_error decided
  | false =>
    apply ends_setSnapshot
    · exact valid_error c.snapshot.valid fatal decided
    intro c₁ published
    apply ends_emit rfl
    intro c₂ emitted
    have becomes := ((Becomes.setActive c _).trans published).trans emitted
    simp only [published.active, published.snapshot, List.append_nil] at becomes
    have latched := (@Held.errorFields _ error) (held.latch fatal)
    cases exited : a.threadFinished with
    | true =>
      have thread : a.thread = false := by simp [held.thread, exited]
      simp only [Bool.true_or, if_true]
      have ends := finalizeFatal_ends becomes.active latched.task latched.valid.plan latched.fatalResult
        rfl thread fatal (by rw [becomes.snapshot]; exact decided)
      apply ends.mono
      rintro answer c' (⟨rfl, result, own, status, ended⟩ | ⟨mismatch, rfl⟩)
      · have ended := becomes.trans ended
        simp only [List.nil_append] at ended
        exact {
          effect := .finished ended rfl (congrArg some own.symm)
          quiet := fun _ => ⟨(), rfl⟩
          landed := by
            rintro _ _ ⟨⟩
            refine ⟨?_, ?_, ?_, some result, ended.finished, by rintro _ ⟨⟩; exact status⟩
            · rw [ended.snapshot]
              rfl
            · rw [ended.snapshot]
              rfl
            · simp [ended.active] }
      · have upset : ¬ calm := fun h => mismatch (ready h).2
        exact {
          effect := .active becomes latched (fun h => absurd h upset) rfl
          quiet := fun h => absurd h upset
          landed := fun h => absurd h upset }
    | false =>
      have thread : a.thread = true := by simp [held.thread, exited]
      simp only [held.started thread, Bool.not_true, Bool.or_self, Bool.false_eq_true, if_false]
      apply ends_pure
      exact {
        effect := .active becomes latched
          (by rintro h _ ⟨⟩; exact ⟨rfl, rfl, (ready h).2, exited⟩) rfl
        quiet := fun _ => ⟨(), rfl⟩
        landed := by
          rintro _ _ ⟨⟩
          refine ⟨?_, ?_, ?_, none, by simpa using becomes.finished, by simp⟩
          · rw [becomes.snapshot]
            rfl
          · rw [becomes.snapshot]
            rfl
          · intro a' active'
            rw [becomes.active] at active'
            cases active'
            exact ⟨rfl, thread⟩ }

/-- `_fatal` while a task is active. -/
theorem fatal_held {code : String} (active : c.active = some a) (held : Held a c.snapshot.1)
    (unlatched : a.fatalError = none)
    (ready : calm → c.snapshot.1.disconnectDecisionPending = false) :
    Ends (fatal code) c (Lands calm (some a.taskId) (some (makeFatal code (some a.taskId))) c) := by
  unfold fatal
  apply ends_read_bind
  rw [active]
  exact enterFatal_held active held rfl unlatched fun h => ⟨ready h, .inr rfl⟩

theorem Effect.weaken {owner : Option TaskId} {c' : GuiController} (effect : Effect True owner c c') :
    Effect calm owner c c' := by
  cases effect with
  | active becomes held steady same => exact .active becomes held (fun _ => steady trivial) same
  | finished becomes unnamed same => exact .finished becomes unnamed same
  | idle becomes unnamed nobody => exact .idle becomes unnamed nobody

/-- A fault that names the active task, when no decision is pending, never raises. -/
theorem enterFatal_own {code : String} (active : c.active = some a) (held : Held a c.snapshot.1)
    (decided : c.snapshot.1.disconnectDecisionPending = false)
    (unlatched : calm → a.fatalError = none) :
    Ends (enterFatal (makeFatal code (some a.taskId))) c fun answer c' => answer = .ok () ∧
      Lands calm (some a.taskId) (some (makeFatal code (some a.taskId))) c answer c' := by
  cases latched : a.fatalError with
  | some error =>
    have upset : ¬ calm := fun h => by simp [unlatched h] at latched
    apply (enterFatal_latched active (by simp [latched])).mono
    rintro answer c' ⟨rfl, rfl⟩
    refine ⟨rfl, ?_, fun _ => ⟨(), rfl⟩, fun h => absurd h upset⟩
    exact .active (.same active) held (fun h => absurd h upset) rfl
  | none =>
    have lands := (@enterFatal_held True _ _ (makeFatal code (some a.taskId))) active held
      rfl latched fun _ => ⟨decided, .inr rfl⟩
    apply lands.mono
    intro answer c' lands
    obtain ⟨⟨⟩, is⟩ := lands.quiet trivial
    exact ⟨is, lands.effect.weaken, fun _ => ⟨(), is⟩, fun _ => lands.landed trivial⟩

/-! ## Generations -/

theorem Held.discarded {s : SnapshotFields} (held : Held a s) : Held (discarded a) s :=
  { held with
    decision := fun pending => by
      obtain ⟨kind, origin, primary, _⟩ := held.decision pending
      exact ⟨kind, origin, primary, rfl⟩
    retry := fun offered => ⟨(held.retry offered).1, rfl⟩
    thread := rfl
    started := by simp [GuiController.discarded] }

theorem Held.reset {s : SnapshotFields} (held : Held (GuiController.discarded a) s) :
    Held (GuiController.discarded (reset a)) s :=
  { held with
    result := by simp [GuiController.discarded, GuiController.reset]
    received := by simp [GuiController.discarded, GuiController.reset] }

/-- The task with its worker running. -/
def launched (a : ActiveTask) : ActiveTask :=
  { a with
    threadStarted := true
    state := { a.state with phase := .running } }

theorem Held.launched {s : SnapshotFields} (held : Held (GuiController.discarded a) s)
    (thread : a.thread = true) (running : a.threadFinished = false)
    (actions : a.state.availableActions = []) (decided : s.disconnectDecisionPending = false) :
    Held (launched a) s :=
  { held with
    valid := ⟨held.valid.plan, held.valid.result, held.valid.error⟩
    decision := by simp [decided]
    retry := by simp [GuiController.launched, actions]
    thread := by simp [GuiController.launched, thread, running]
    started := fun _ => rfl }

/-- `_submit_generation`: the worker runs, or the task ends with a fault. -/
theorem submitGeneration_lands {started : Bool} (active : c.active = some a)
    (thread : a.thread = true) (running : a.threadFinished = false)
    (held : Held (discarded a) c.snapshot.1) (actions : a.state.availableActions = [])
    (decided : c.snapshot.1.disconnectDecisionPending = false)
    (unlatched : calm → a.fatalError = none) :
    Ends (submitGeneration started) c fun answer c' => answer = .ok () ∧
      Lands calm (some a.taskId)
        (if started then none else some (makeFatal "QTHREAD_START_FAILED" (some a.taskId)))
        c answer c' := by
  unfold submitGeneration
  apply ends_check_bind
  · intro error raised
    simp [active] at raised
  intro present is
  simp only [active, Except.ok.injEq] at is
  subst is
  cases started with
  | true =>
    apply ends_setTaskState
    · exact ⟨held.valid.plan, held.valid.result, held.valid.error⟩
    apply (emit_ends rfl).mono
    rintro answer c' ⟨rfl, emitted⟩
    have becomes : Becomes c c' (some (launched a)) c.snapshot.1 [] :=
      (Becomes.setActive c (some (launched a))).trans emitted
    refine ⟨rfl, lands_active becomes rfl (held.launched thread running actions decided) ?_⟩
    intro h error latched
    rw [show (launched a).fatalError = a.fatalError from rfl, unlatched h] at latched
    cases latched
  | false =>
    apply ends_update_bind
    have becomes : Becomes c { c with active := c.active.map discarded } (some (discarded a))
        c.snapshot.1 [] := by
      rw [active]
      exact Becomes.setActive c _
    apply (enterFatal_own (a := discarded a) becomes.active held decided unlatched).mono
    rintro answer c' ⟨is, lands⟩
    exact ⟨is, lands.after becomes⟩

/-- The fault of a generation that does not start. -/
def generationFault (taskId : TaskId) (worker : WorkerAnswers) : Option GuiRuntimeError :=
  if worker.prepared = false then some (makeFatal "WORKER_STARTUP_FAILED" (some taskId))
  else if worker.started = false then some (makeFatal "QTHREAD_START_FAILED" (some taskId))
  else none

theorem prepareGeneration_ends {prepared : Bool} (active : c.active = some a) :
    Ends (prepareGeneration prepared) c fun answer c' =>
      if prepared then answer = .ok () ∧ c' = { c with active := some { reset a with thread := true } }
      else (∃ message, answer = .error message) ∧ c' = { c with active := some (reset a) } := by
  unfold prepareGeneration
  apply ends_check_bind
  · intro error raised
    simp [active] at raised
  intro present is
  simp only [active, Except.ok.injEq] at is
  subst is
  apply ends_update_bind
  cases prepared with
  | true => exact ends_update ⟨rfl, rfl⟩
  | false => exact ends_raise ⟨⟨_, rfl⟩, rfl⟩

/-- `_run_generation`: the next worker of the task runs, or the task ends with a fault. -/
theorem runGeneration_lands {worker : WorkerAnswers} (active : c.active = some a)
    (held : Held (discarded a) c.snapshot.1) (actions : a.state.availableActions = [])
    (decided : c.snapshot.1.disconnectDecisionPending = false)
    (unlatched : calm → a.fatalError = none) :
    Ends (runGeneration worker) c fun answer c' => answer = .ok () ∧
      Lands calm (some a.taskId) (generationFault a.taskId worker) c answer c' := by
  have submits : Ends (do
      prepareGeneration worker.prepared
      submitGeneration worker.started) c fun answer c' =>
      if worker.prepared then answer = .ok () ∧
        Lands calm (some a.taskId) (generationFault a.taskId worker) c answer c'
      else (∃ message, answer = .error message) ∧ c' = { c with active := some (reset a) } := by
    apply ends_bind (prepareGeneration_ends active)
    · intro message c' is
      cases prepared : worker.prepared with
      | true => simp [prepared] at is
      | false =>
        simp only [prepared, Bool.false_eq_true, if_false] at is ⊢
        exact is
    · intro _ c' is
      cases prepared : worker.prepared with
      | false => simp [prepared] at is
      | true =>
        simp only [prepared, if_true] at is ⊢
        obtain ⟨_, rfl⟩ := is
        have lands := (@submitGeneration_lands calm
          { c with active := some { reset a with thread := true } } _ worker.started)
          rfl rfl rfl held.reset actions decided unlatched
        apply lands.mono
        rintro answer c' ⟨is, lands⟩
        have fault : generationFault a.taskId worker =
            if worker.started then none else some (makeFatal "QTHREAD_START_FAILED" (some a.taskId)) := by
          cases started : worker.started <;> simp [generationFault, prepared, started]
        rw [fault]
        exact ⟨is, lands.after (Becomes.setActive c _)⟩
  unfold runGeneration
  apply ends_attempt_bind submits
  intro caught c' is
  cases prepared : worker.prepared with
  | true =>
    simp only [prepared, if_true] at is
    obtain ⟨rfl, lands⟩ := is
    exact ends_pure ⟨rfl, lands⟩
  | false =>
    simp only [prepared, Bool.false_eq_true, if_false] at is
    obtain ⟨⟨message, rfl⟩, rfl⟩ := is
    apply ends_update_bind
    apply ends_read_bind
    have lands := (@enterFatal_own calm
      { c with active := some (GuiController.discarded (reset a)) } _ "WORKER_STARTUP_FAILED")
      rfl held.reset decided unlatched
    apply lands.mono
    rintro answer c' ⟨is, lands⟩
    rw [generationFault, if_pos prepared]
    exact ⟨is, lands.after (Becomes.setActive c _)⟩

end

end GuiController

end BootUpgrade

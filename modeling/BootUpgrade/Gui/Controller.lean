import BootUpgrade.Lib.Procedures
import BootUpgrade.Gui.ControllerModels

/-!
# The GUI controller

`GuiController` of `gui/controller.py`. A slot or a request is a procedure on its
fields; what an exception leaves half done stays. The signals that it emits are
recorded in their order, and what the request and Qt make of a call (the plan of the
task, whether a worker and its thread can be made and started) is given to it.
-/

namespace BootUpgrade

/-- `_Kind`. -/
inductive TaskKind where
  | connect
  | task
  | disconnect
  | shutdown
  | internalDisconnect
  deriving DecidableEq, Repr

/-- `_Active`; `cancellation` is whether its token has been set and `thread` whether its
worker and its thread are there. -/
structure ActiveTask where
  taskId : TaskId
  primaryPlan : TaskPlan
  plan : TaskPlan
  kind : TaskKind
  origin : RuntimeState
  state : TaskState
  generation : Nat
  cancellation : Bool
  thread : Bool
  result : Option TaskExecutionResult
  resultReceived : Bool
  threadFinished : Bool
  primaryResult : Option TaskExecutionResult
  stepIndex : Int
  stepStarted : Bool
  stepComplete : Bool
  stepCurrent : Int
  stepTotal : Option Int
  stepMode : Option ProgressMode
  stepStage : Option String
  actions : List TaskDialogAction
  fatalError : Option GuiRuntimeError
  fatalResult : Option TaskExecutionResult
  threadStarted : Bool

inductive ControllerSignal where
  | runtimeStateChanged (snapshot : RuntimeSnapshot)
  | taskStarted (state : TaskState)
  | taskProgressed (progress : TaskProgressUpdate)
  | taskStateChanged (state : TaskState)
  | taskFinished (result : TaskExecutionResult)
  | requestRejected (rejection : RequestRejection)
  | runtimeErrorRaised (error : GuiRuntimeError)
  | shutdownReady
  | forceExitReady (error : Option GuiRuntimeError)

structure GuiController where
  snapshot : RuntimeSnapshot
  active : Option ActiveTask
  nextTaskId : TaskId
  signals : List ControllerSignal

/-- An exception of a slot, by its message. -/
abbrev ControllerProcedure := Procedure GuiController String

/-- What `create_plan` ends with. -/
inductive PlanAnswer where
  | raises
  | other
  | plan (plan : TaskPlan)

/-- Whether the worker and its thread can be made, and the thread started. -/
structure WorkerAnswers where
  prepared : Bool
  started : Bool
  deriving DecidableEq, Repr

/-- `WorkerProgressMessage`; the update is `none` when it is another object. -/
structure WorkerProgressMessage where
  taskId : TaskId
  executionGeneration : Int
  update : Option TaskProgressUpdate

/-- `WorkerResultMessage`; the result is `none` when it is another object. -/
structure WorkerResultMessage where
  taskId : TaskId
  executionGeneration : Int
  result : Option TaskExecutionResult

/-- The answer to `request_cancel` and `respond_task_action`. -/
inductive ActionAnswer where
  | accepted (already : Bool)
  | rejected (rejection : RequestRejection)
  deriving DecidableEq, Repr

namespace GuiController

open Procedure

def new : GuiController := ⟨.new, none, 0, []⟩

/-! ## Small steps -/

def emit (signal : ControllerSignal) : ControllerProcedure Unit :=
  update fun c => { c with signals := c.signals ++ [signal] }

def setActive (a : Option ActiveTask) : ControllerProcedure Unit :=
  update fun c => { c with active := a }

/-- `a = self._active; assert a`. -/
def theActive : ControllerProcedure ActiveTask :=
  check fun c => match c.active with
    | some a => .ok a
    | none => .error "AssertionError"

/-- `a.state = replace(a.state, ..)`. -/
def setTaskState (a : ActiveTask) (changes : TaskState → TaskState) :
    ControllerProcedure ActiveTask := do
  setActive (some a)
  let state ← check fun _ => (changes a.state).check
  setActive (some { a with state })
  return { a with state }

/-- The snapshot becomes another one; it is published if it has changed. -/
def publishSnapshot (new : RuntimeSnapshot) (before : List ControllerSignal) :
    ControllerProcedure Unit :=
  update fun c => { c with
    snapshot := new
    signals := c.signals ++ before ++
      (if new ≠ c.snapshot then [.runtimeStateChanged new] else []) }

/-- `_set_snapshot`. -/
def setSnapshot (changes : SnapshotFields → SnapshotFields) : ControllerProcedure Unit := do
  let new ← check fun c => c.snapshot.replace changes
  publishSnapshot new []

/-- `_make_fatal`. -/
def makeFatal (code : String) (taskId : Option TaskId) : GuiRuntimeError where
  code
  message := "GUI runtime contract violation"
  stage := "controller"
  disposition := .runtimeFatal
  taskId
  recoverable := false
  outcomeUncertain := false
  details := ⟨false, none⟩
  ask_uncertain := by simp
  fatal_final := by simp

/-- The error of `_thread_ok`. -/
def wrongThread (taskId : Option TaskId) : GuiRuntimeError :=
  { makeFatal "WRONG_CONTROLLER_THREAD" taskId with
    message := "Controller called from the wrong thread" }

/-! ## The end of a task -/

/-- The result of a task that a fatal error ends. -/
def fatalFailure (a : ActiveTask) (error : GuiRuntimeError) : Except String TaskExecutionResult :=
  if matching : error.taskId = none ∨ error.taskId = some a.taskId then
    .ok {
      taskId := a.taskId
      status := .failed
      summary := "Runtime failure"
      message := error.message
      stepResults := []
      payload := none
      warning := none
      error := some error
      completionAction := .none
      cancelRequested := a.state.cancelRequested
      failed_iff := by simp
      cancel_requested := by simp [TaskFinalStatus.isCancel]
      error_task := by
        rintro _ ⟨⟩
        exact matching
      failed_warning := by simp
      release_success := by simp }
  else .error "task id mismatch"

/-- The task is over: its last state, the snapshot and its result are published. -/
def finish (a : ActiveTask) (result : TaskExecutionResult) (error : Option GuiRuntimeError)
    (autoCloseDelayMs : Option Nat) (changes : SnapshotFields → SnapshotFields) :
    ControllerProcedure Unit := do
  let final ← check fun _ => { a.state with
    phase := .finished
    dispositionState := .complete
    availableActions := []
    closeAllowed := true
    autoCloseDelayMs
    result := some result
    error }.check
  setActive none
  let new ← check fun c => c.snapshot.replace changes
  publishSnapshot new [.taskStateChanged final]
  emit (.taskFinished result)

/-- `_complete`. -/
def complete (result : TaskExecutionResult) (state : RuntimeState)
    (changes : SnapshotFields → SnapshotFields) : ControllerProcedure Unit := do
  let a ← theActive
  finish a result result.error
    (if result.status = .succeeded ∧ result.warning = none ∧
        a.primaryPlan.completionPolicy = .autoCloseOnCleanSuccess then some 800 else none)
    fun s => changes { s with
      state
      activeTaskId := none
      disconnectDecisionPending := false }

/-- `state=ERROR, last_error=error, active_task_id=..`. -/
def errorFields (error : GuiRuntimeError) (activeTaskId : Option TaskId) (s : SnapshotFields) :
    SnapshotFields :=
  { s with state := .error, lastError := some error, activeTaskId }

/-- The result that `_finalize_fatal` reports. -/
def fatalReport (a : ActiveTask) (error : GuiRuntimeError) : ControllerProcedure TaskExecutionResult :=
  match a.fatalResult.filter (·.taskId = a.taskId) with
  | some result => pure result
  | none => check fun _ => fatalFailure a error

/-- `_finalize_fatal`. -/
def finalizeFatal : ControllerProcedure Unit := do
  match ← read (·.active) with
  | none => pure ()
  | some a =>
    match a.fatalError with
    | none => pure ()
    | some error =>
      if a.thread then pure ()
      else do
        let result ← fatalReport a error
        finish a result (some error) none (errorFields error none)

/-- `_enter_fatal`. The first fatal error of a task is the one that counts. -/
def enterFatal (error : GuiRuntimeError) : ControllerProcedure Unit := do
  match ← read (·.active) with
  | none => do
    setSnapshot (errorFields error none)
    emit (.runtimeErrorRaised error)
  | some a =>
    if a.fatalError.isSome then pure ()
    else do
      setActive (some { a with fatalError := some error })
      setSnapshot (errorFields error (some a.taskId))
      emit (.runtimeErrorRaised error)
      if a.threadFinished || !a.threadStarted then finalizeFatal else pure ()

/-- `_fatal`. -/
def fatal (code : String) : ControllerProcedure Unit := do
  let active ← read (·.active)
  enterFatal (makeFatal code (active.map (·.taskId)))

/-- `_fatal_admission`. -/
def fatalAdmission (code : String) (taskId : TaskId) : ControllerProcedure RequestAdmission := do
  enterFatal (makeFatal code (some taskId))
  return .failed (makeFatal code (some taskId))

/-! ## Generations of a task -/

/-- The task without the generation that could not be started. -/
def discarded (a : ActiveTask) : ActiveTask :=
  { a with
    thread := false
    threadStarted := false
    threadFinished := true }

/-- `_discard_unstarted_generation`. -/
def discardUnstartedGeneration : ControllerProcedure Unit :=
  update fun c => { c with active := c.active.map discarded }

/-- The task at the start of a generation. -/
def reset (a : ActiveTask) : ActiveTask :=
  { a with
    cancellation := false
    result := none
    resultReceived := false
    threadFinished := false
    threadStarted := false
    stepIndex := -1
    stepStarted := false
    stepComplete := false
    stepTotal := none
    stepMode := none
    stepStage := none }

/-- `_prepare_generation`. -/
def prepareGeneration (prepared : Bool) : ControllerProcedure Unit := do
  let a ← theActive
  setActive (some (reset a))
  if prepared then setActive (some { reset a with thread := true })
  else raise "worker startup failed"

/-- `_submit_generation`. -/
def submitGeneration (started : Bool) : ControllerProcedure Unit := do
  let a ← theActive
  if started then do
    let a ← setTaskState { a with threadStarted := true } fun state => { state with phase := .running }
    emit (.taskStateChanged a.state)
  else do
    discardUnstartedGeneration
    enterFatal (makeFatal "QTHREAD_START_FAILED" (some a.taskId))

/-- `_run_generation`. -/
def runGeneration (worker : WorkerAnswers) : ControllerProcedure Unit := do
  let submit : ControllerProcedure Unit := do
    prepareGeneration worker.prepared
    submitGeneration worker.started
  match ← submit.attempt with
  | .ok () => pure ()
  | .error _ => do
    discardUnstartedGeneration
    fatal "WORKER_STARTUP_FAILED"

/-! ## Requests -/

/-- `uuid4().hex`. -/
def newTaskId : ControllerProcedure TaskId := do
  let taskId ← read (·.nextTaskId)
  update fun c => { c with nextTaskId := c.nextTaskId + 1 }
  return taskId

/-- `_reject`. -/
def reject (code : RequestRejectionCode) (message : String) : ControllerProcedure RequestAdmission := do
  emit (.requestRejected ⟨code, message, none⟩)
  return .rejected ⟨code, message, none⟩

/-- `_Active(..)`. -/
def newActive (taskId : TaskId) (plan : TaskPlan) (kind : TaskKind) (origin : RuntimeState)
    (state : TaskState) : ActiveTask where
  taskId
  primaryPlan := plan
  plan
  kind
  origin
  state
  generation := 0
  cancellation := false
  thread := false
  result := none
  resultReceived := false
  threadFinished := false
  primaryResult := none
  stepIndex := -1
  stepStarted := false
  stepComplete := false
  stepCurrent := 0
  stepTotal := none
  stepMode := none
  stepStage := none
  actions := []
  fatalError := none
  fatalResult := none
  threadStarted := false

/-- `isinstance(plan, TaskPlan) and plan.task_id == task_id`. -/
def validPlan (taskId : TaskId) : PlanAnswer → Option TaskPlan
  | .plan plan => if plan.taskId = taskId then some plan else none
  | _ => none

/-- `_start` from the construction of the `TaskState` on. -/
def startTask (taskId : TaskId) (plan : TaskPlan) (kind : TaskKind) (runtimeState : RuntimeState)
    (worker : WorkerAnswers) : ControllerProcedure RequestAdmission :=
  match (TaskState.new taskId plan .pending .none).check with
  | .error _ => fatalAdmission "INVALID_TASK_STATE" taskId
  | .ok state => do
    let origin ← read (·.snapshot.1.state)
    setActive (some (newActive taskId plan kind origin state))
    match ← (prepareGeneration worker.prepared).attempt with
    | .error _ => do
      discardUnstartedGeneration
      setActive none
      fatalAdmission "WORKER_STARTUP_FAILED" taskId
    | .ok () => do
      setSnapshot fun s => { s with
        state := runtimeState
        activeTaskId := some taskId
        disconnectDecisionPending := false }
      emit (.taskStarted state)
      submitGeneration worker.started
      return .accepted taskId

/-- `_start` of a request that has no plan yet. -/
def start (createPlan : TaskId → PlanAnswer) (kind : TaskKind) (runtimeState : RuntimeState)
    (worker : WorkerAnswers) : ControllerProcedure RequestAdmission := do
  let taskId ← newTaskId
  match validPlan taskId (createPlan taskId) with
  | none => fatalAdmission "INVALID_TASK_PLAN" taskId
  | some plan => startTask taskId plan kind runtimeState worker

def requestConnect (createPlan : TaskId → PlanAnswer) (worker : WorkerAnswers) :
    ControllerProcedure RequestAdmission := do
  let c ← read id
  if c.active.isSome then reject .taskAlreadyActive "A task is already active"
  else if c.snapshot.1.state ≠ .disconnected then
    reject .invalidRuntimeState "Connect requires disconnected state"
  else start createPlan .connect .connecting worker

def requestTask (createPlan : TaskId → PlanAnswer) (worker : WorkerAnswers) :
    ControllerProcedure RequestAdmission := do
  let c ← read id
  if c.active.isSome then reject .taskAlreadyActive "A task is already active"
  else do
    let taskId ← newTaskId
    match validPlan taskId (createPlan taskId) with
    | none => fatalAdmission "INVALID_TASK_PLAN" taskId
    | some plan =>
      if plan.connectionRequirement = .connected ∧ c.snapshot.1.state ≠ .connected then
        reject .invalidRuntimeState "Task requires a connection"
      else if c.snapshot.1.state ≠ .disconnected ∧ c.snapshot.1.state ≠ .connected then
        reject .invalidRuntimeState "Runtime is not idle"
      else startTask taskId plan .task .busy worker

def requestDisconnect (createPlan : TaskId → PlanAnswer) (worker : WorkerAnswers) :
    ControllerProcedure RequestAdmission := do
  let c ← read id
  if c.active.isSome then reject .taskAlreadyActive "A task is already active"
  else if c.snapshot.1.state ≠ .connected then
    reject .invalidRuntimeState "Disconnect requires connected state"
  else start createPlan .disconnect .disconnecting worker

/-- `_CleanupRequest.create_plan`. -/
def cleanupPlan (title stepId : Text) (taskId : TaskId) : TaskPlan where
  taskId
  title
  steps := [⟨stepId, title, .indeterminate, 1, Nat.one_pos⟩]
  connectionRequirement := .connected
  cancellable := false
  completionPolicy := .requireAcknowledgement
  steps_ne := by simp
  steps_unique := by simp

def releasePlan : TaskId → TaskPlan :=
  cleanupPlan ⟨"Release Connection", by simp⟩ ⟨"release", by simp⟩

def shutdownPlan : TaskId → TaskPlan := cleanupPlan ⟨"Shutdown", by simp⟩ ⟨"shutdown", by simp⟩

def closeRejected (message : String) (taskId : Option TaskId) : ApplicationCloseResult :=
  .rejected ⟨.closeNotAllowed, message, taskId⟩

def requestApplicationClose (worker : WorkerAnswers) :
    ControllerProcedure ApplicationCloseResult := do
  let c ← read id
  match c.active with
  | some a =>
    return closeRejected (if a.thread then "Task active" else "Task disposition active")
      (some a.taskId)
  | none =>
    if c.snapshot.1.state = .disconnected ∧ c.snapshot.1.cleanupPending = false then
      return .allowImmediate
    else if c.snapshot.1.state ≠ .disconnected ∧ c.snapshot.1.state ≠ .connected ∧
        c.snapshot.1.state ≠ .error then
      return closeRejected "Runtime busy" none
    else do
      match ← start (fun taskId => .plan (shutdownPlan taskId)) .shutdown .disconnecting worker with
      | .accepted taskId => do
        setSnapshot fun s => { s with shutdownRequested := true }
        return .shutdownStarted taskId
      | .failed error => return .failed error
      | .rejected rejection => return .rejected rejection

/-- `request_cancel`. -/
def requestCancel (taskId : TaskId) : ControllerProcedure ActionAnswer := do
  match (← read (·.active)).filter (·.taskId = taskId) with
  | none => return .rejected ⟨.unknownTask, "Unknown task", some taskId⟩
  | some a =>
    if a.state.phase = .finished ∨ a.state.dispositionState ≠ .none then
      return .rejected ⟨.invalidRuntimeState, "Task is not executing", some taskId⟩
    else if a.plan.cancellable = false then
      return .rejected ⟨.taskNotCancellable, "Task is not cancellable", some taskId⟩
    else if a.state.cancelRequested then return .accepted true
    else do
      let a ← setTaskState { a with cancellation := true } fun state => { state with
        phase := .cancelling
        cancelRequested := true }
      emit (.taskStateChanged a.state)
      return .accepted false

/-! ## Progress -/

/-- `_validate_progress_value`. -/
def validateProgressValue (a : ActiveTask) (u : TaskProgressUpdate) : Except String ActiveTask :=
  let stageChanged := a.stepStage.any (· ≠ u.stage)
  let previousMode := if stageChanged then none else a.stepMode
  let previousCurrent := if stageChanged then 0 else a.stepCurrent
  let previousTotal := if stageChanged then none else a.stepTotal
  match u.progressMode with
  | .indeterminate =>
    if u.current.isSome ∨ u.total.isSome ∨ previousMode = some .determinate then .error "ValueError"
    else .ok { a with
      stepCurrent := 0
      stepTotal := none
      stepMode := some .indeterminate
      stepStage := some u.stage }
  | .determinate =>
    match u.current, u.total with
    | some current, some total =>
      if total ≤ 0 ∨ current < 0 ∨ total < current then .error "ValueError"
      else if previousMode = some .determinate ∧
          (current < previousCurrent ∨ some total ≠ previousTotal) then .error "ValueError"
      else .ok { a with
        stepCurrent := current
        stepTotal := some total
        stepMode := some .determinate
        stepStage := some u.stage }
    | _, _ => .error "ValueError"

/-- The step that `step_index` names. -/
def currentStep (a : ActiveTask) : Option TaskStepPlan :=
  if a.stepIndex < 0 then none else a.plan.steps[a.stepIndex.toNat]?

/-- The current step has been started, is not complete and is the one that is meant. -/
def inStep (a : ActiveTask) (u : TaskProgressUpdate) : Bool :=
  a.stepStarted && !a.stepComplete && (currentStep a).any (·.stepId.1 = u.stepId)

/-- The task at the start of its next step. -/
def nextStep (a : ActiveTask) : ActiveTask :=
  { a with
    stepIndex := a.stepIndex + 1
    stepStarted := true
    stepComplete := false
    stepCurrent := 0
    stepTotal := none
    stepMode := none
    stepStage := none }

/-- The part of `_apply_progress` that moves through the steps. -/
def advanceStep (a : ActiveTask) (u : TaskProgressUpdate) : ControllerProcedure ActiveTask :=
  match u.stepState with
  | .started => do
    if (a.stepStarted && !a.stepComplete) ||
        !(currentStep (nextStep a)).any (·.stepId.1 = u.stepId) then raise "ValueError"
    else do
      setActive (some (nextStep a))
      check fun _ => validateProgressValue (nextStep a) u
  | .progress =>
    if inStep a u then check fun _ => validateProgressValue a u else raise "ValueError"
  | .completed =>
    if inStep a u then
      check fun _ => (validateProgressValue a u).map fun a => { a with stepComplete := true }
    else raise "ValueError"

/-- `_apply_progress`. -/
def applyProgress (update : Option TaskProgressUpdate) : ControllerProcedure Unit := do
  let a ← theActive
  match update.filter (·.taskId = a.taskId) with
  | none => raise "ValueError"
  | some u => do
    let a ← advanceStep a u
    let a ← setTaskState a fun state => { state with
      currentStepIndex := some a.stepIndex
      currentStepId := some u.stepId
      message := u.message }
    emit (.taskProgressed u)
    emit (.taskStateChanged a.state)

/-- A message of the active task, or the fatal error of one that is not. -/
def withActive (taskId : TaskId) (body : ActiveTask → ControllerProcedure Unit) :
    ControllerProcedure Unit := do
  match (← read (·.active)).filter (·.taskId = taskId) with
  | none => fatal "UNKNOWN_WORKER_TASK"
  | some a => body a

/-- `_on_progress`; a message of another type is `none`. -/
def onProgress (message : Option WorkerProgressMessage) : ControllerProcedure Unit :=
  match message with
  | none => fatal "INVALID_WORKER_MESSAGE_TYPE"
  | some message =>
    withActive message.taskId fun a =>
      if message.executionGeneration < a.generation then pure ()
      else if a.fatalError.isSome then pure ()
      else if message.executionGeneration ≠ a.generation ∨ a.resultReceived = true then
        fatal "PROGRESS_AFTER_RESULT"
      else do
        match ← (applyProgress message.update).attempt with
        | .ok () => pure ()
        | .error _ => fatal "INVALID_TASK_PROGRESS"

/-! ## Results -/

/-- The steps are all complete. -/
def stepsComplete (a : ActiveTask) : Bool :=
  (List.range a.plan.steps.length).all fun i =>
    decide ((i : Int) < a.stepIndex) || (decide ((i : Int) = a.stepIndex) && a.stepComplete)

/-- `_result_cleanup_pending`. -/
def resultCleanupPending (result : TaskExecutionResult) : Bool :=
  result.error.any (·.details.cleanupPending)

/-- The fields of a snapshot without a connection. -/
def withoutConnection (s : SnapshotFields) : SnapshotFields :=
  { s with connectionInfo := none, activeTargetKey := none, connectionSuspect := false }

/-- The dispositions that only a task on a connection may ask for. -/
def asksForConnection (result : TaskExecutionResult) : Bool :=
  result.hasDisposition .askDisconnect || result.hasDisposition .forceDisconnected

/-- `_finish_connect`. -/
def finishConnect (result : TaskExecutionResult) : ControllerProcedure Unit :=
  if result.completionAction = .releaseConnection ∨ asksForConnection result = true then
    fatal "INVALID_CONNECT_RESULT"
  else if result.status = .succeeded then
    match result.payload with
    | some info =>
      complete result .connected fun s => { s with
        connectionInfo := some info
        activeTargetKey := some info.targetKey
        connectionSuspect := false
        cleanupPending := false
        lastError := none }
    | none => fatal "CONNECT_MISSING_CONNECTION_INFO"
  else
    complete result .disconnected fun s => { withoutConnection s with
      cleanupPending := resultCleanupPending result
      lastError := none }

/-- The result of a task whose connection could not be released. -/
def withWarning (primary : TaskExecutionResult) (success : primary.status.isSuccess = true)
    (stepResults : List StepResult) (warning : Option GuiTaskWarning) : TaskExecutionResult :=
  { primary with
    stepResults
    warning
    failed_warning := by
      intro failed
      rw [failed] at success
      cases success }

/-- The result of a failed task, with the code of a cleanup that has failed too. -/
def withCleanupError (primary : TaskExecutionResult) (stepResults : List StepResult)
    (code : Option String) : TaskExecutionResult :=
  { primary with
    stepResults
    error := primary.error.map fun error => { error with
      details := { error.details with cleanupErrorCode := code } }
    failed_iff := by simpa using primary.failed_iff
    error_task := by
      intro failure mapped
      obtain ⟨error, present, rfl⟩ := Option.map_eq_some_iff.1 mapped
      exact primary.error_task error present }

/-- `cleanup.error.code if cleanup.error else "CLEANUP_FAILED"`. -/
def cleanupErrorCode (cleanup : TaskExecutionResult) : String :=
  match cleanup.error with
  | some error => error.code
  | none => "CLEANUP_FAILED"

/-- The result of a task whose connection has been released. -/
def releasedResult (primary cleanup : TaskExecutionResult) : TaskExecutionResult :=
  let evidence := primary.stepResults ++ cleanup.stepResults ++
    [.cleanup cleanup.status (cleanup.error.map (·.code))]
  if success : primary.status.isSuccess = true then
    withWarning primary success evidence
      (if cleanup.status = .succeeded then none
        else some ⟨"CONNECTION_RELEASE_FAILED", "Operation succeeded, but connection cleanup failed",
          "cleanup", cleanupErrorCode cleanup⟩)
  else if cleanup.status = .succeeded then { primary with stepResults := evidence }
  else withCleanupError primary evidence (some (cleanupErrorCode cleanup))

/-- `cleanup_pending` behind a close. -/
def closePending (cleanup : TaskExecutionResult) : Bool :=
  cleanup.status ≠ .succeeded || resultCleanupPending cleanup

/-- `_finish_disconnect`. -/
def finishDisconnect (cleanup : TaskExecutionResult) : ControllerProcedure Unit := do
  let a ← theActive
  if a.kind = .disconnect then
    if cleanup.status.isCancel = true ∨ cleanup.completionAction = .releaseConnection ∨
        cleanup.hasDisposition .askDisconnect = true then fatal "INVALID_DISCONNECT_RESULT"
    else
      complete cleanup .disconnected fun s => { withoutConnection s with
        cleanupPending := closePending cleanup
        lastError := cleanup.error }
  else if cleanup.status.isCancel = true then fatal "INVALID_INTERNAL_DISCONNECT_RESULT"
  else
    match a.primaryResult with
    | none => raise "AssertionError"
    | some primary =>
      complete (releasedResult primary cleanup) .disconnected fun s => { withoutConnection s with
        cleanupPending := closePending cleanup
        lastError := none }

/-- `_begin_internal_disconnect`. -/
def beginInternalDisconnect (worker : WorkerAnswers) : ControllerProcedure Unit := do
  let a ← theActive
  let plan := releasePlan a.taskId
  let a := { a with
    generation := a.generation + 1
    kind := .internalDisconnect
    plan }
  setActive (some a)
  let a ← setTaskState a fun _ => .new a.taskId plan .pending .disconnecting
  setSnapshot fun s => { s with state := .disconnecting, disconnectDecisionPending := false }
  emit (.taskStateChanged a.state)
  runGeneration worker

/-- `_finish_task`. -/
def finishTask (result : TaskExecutionResult) (worker : WorkerAnswers) :
    ControllerProcedure Unit := do
  let a ← theActive
  let a := { a with primaryResult := some result }
  setActive (some a)
  if a.plan.connectionRequirement = .none then
    if result.completionAction ≠ .none ∨ asksForConnection result = true then
      fatal "INVALID_LOCAL_TASK_DISPOSITION"
    else complete result a.origin id
  else if result.hasDisposition .askDisconnect then do
    let a ← setTaskState a fun state => { state with
      phase := .finished
      dispositionState := .awaitingDisconnectDecision
      availableActions := [.disconnect, .keepConnection]
      result := some result
      error := result.error }
    setSnapshot fun s => { s with
      state := .busy
      connectionSuspect := true
      disconnectDecisionPending := true }
    emit (.taskStateChanged a.state)
  else if result.completionAction = .releaseConnection then beginInternalDisconnect worker
  else if result.hasDisposition .forceDisconnected then
    complete result .disconnected fun s => { withoutConnection s with
      cleanupPending := false
      lastError := result.error }
  else complete result .connected id

/-- `_finish_shutdown`. -/
def finishShutdown (result : TaskExecutionResult) : ControllerProcedure Unit :=
  if result.status.isCancel then fatal "INVALID_SHUTDOWN_RESULT"
  else if result.status = .succeeded then do
    complete result .disconnected fun s => { withoutConnection s with
      shutdownRequested := false
      cleanupPending := false
      lastError := none }
    emit .shutdownReady
  else do
    let a ← theActive
    let a ← setTaskState { a with primaryResult := some result } fun state => { state with
      phase := .finished
      availableActions := [.retryCleanup, .forceExit]
      result := some result
      error := result.error }
    setSnapshot fun s => { s with
      state := .disconnecting
      connectionInfo := none
      activeTargetKey := none
      shutdownRequested := true
      cleanupPending := true
      lastError := result.error }
    emit (.taskStateChanged a.state)

/-- The end of `_maybe_finish`. -/
def finishKind (kind : TaskKind) (result : TaskExecutionResult) (worker : WorkerAnswers) :
    ControllerProcedure Unit :=
  match kind with
  | .connect => finishConnect result
  | .disconnect | .internalDisconnect => finishDisconnect result
  | .shutdown => finishShutdown result
  | .task => finishTask result worker

/-- `result.error`, if it is a fatal one. -/
def fatalErrorOf (result : TaskExecutionResult) : Option GuiRuntimeError :=
  result.error.filter (·.disposition = .runtimeFatal)

/-- `_maybe_finish` behind its checks. -/
def finishResult (a : ActiveTask) (result : TaskExecutionResult) (worker : WorkerAnswers) :
    ControllerProcedure Unit :=
  if result.status.isSuccess = true ∧ stepsComplete a = false then
    fatal "INCOMPLETE_SUCCESS_PROGRESS"
  else
    match fatalErrorOf result with
    | some error => do
      setActive (some { a with fatalResult := some result })
      enterFatal error
    | none => finishKind a.kind result worker

/-- `_maybe_finish`. -/
def maybeFinish (worker : WorkerAnswers) : ControllerProcedure Unit := do
  match ← read (·.active) with
  | none => pure ()
  | some a =>
    if a.resultReceived = false ∨ a.threadFinished = false then pure ()
    else
      match a.result with
      | none => raise "AssertionError"
      | some result => finishResult a result worker

/-- `_on_result`. -/
def onResult (message : Option WorkerResultMessage) (worker : WorkerAnswers) :
    ControllerProcedure Unit :=
  match message with
  | none => fatal "INVALID_WORKER_MESSAGE_TYPE"
  | some message =>
    withActive message.taskId fun a =>
      if message.executionGeneration < a.generation then pure ()
      else if a.fatalError.isSome then pure ()
      else if message.executionGeneration ≠ a.generation ∨ a.resultReceived = true then
        fatal "DUPLICATE_WORKER_RESULT"
      else
        match message.result.filter (·.taskId = a.taskId) with
        | none => fatal "INVALID_WORKER_RESULT"
        | some result => do
          setActive (some { a with result := some result, resultReceived := true })
          maybeFinish worker

/-- `_on_thread_finished`. -/
def onThreadFinished (generation : Int) (worker : WorkerAnswers) : ControllerProcedure Unit := do
  match ← read (·.active) with
  | none => pure ()
  | some a =>
    if generation < a.generation then pure ()
    else if generation ≠ a.generation then fatal "INVALID_WORKER_GENERATION"
    else do
      setActive (some { a with threadFinished := true, thread := false })
      if a.fatalError.isSome then finalizeFatal
      else if a.resultReceived = false then fatal "WORKER_EXITED_WITHOUT_RESULT"
      else maybeFinish worker

/-- `respond_task_action` behind its checks. -/
def applyAction (a : ActiveTask) (action : TaskDialogAction) (worker : WorkerAnswers) :
    ControllerProcedure Unit :=
  match action with
  | .keepConnection =>
    match a.primaryResult with
    | none => raise "AttributeError"
    | some primary => complete primary .connected fun s => { s with connectionSuspect := true }
  | .disconnect => beginInternalDisconnect worker
  | .retryCleanup => do
    let plan := shutdownPlan a.taskId
    let a := { a with
      generation := a.generation + 1
      kind := .shutdown
      plan
      actions := [] }
    let a ← setTaskState a fun _ => .new a.taskId plan .pending .none
    emit (.taskStateChanged a.state)
    runGeneration worker
  | .forceExit => emit (.forceExitReady (a.primaryResult.bind (·.error)))

/-- `respond_task_action`. -/
def respondTaskAction (taskId : TaskId) (action : TaskDialogAction) (worker : WorkerAnswers) :
    ControllerProcedure ActionAnswer := do
  match (← read (·.active)).filter (·.taskId = taskId) with
  | none => return .rejected ⟨.unknownTask, "Unknown task", some taskId⟩
  | some a =>
    if action ∈ a.actions then return .accepted true
    else if action ∉ a.state.availableActions then
      return .rejected ⟨.actionNotAvailable, "Action unavailable", some taskId⟩
    else do
      let a := { a with actions := action :: a.actions }
      setActive (some a)
      applyAction a action worker
      return .accepted false

end GuiController

end BootUpgrade

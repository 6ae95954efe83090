import BootUpgrade.Gui.RuntimeModels

/-!
# The data of the GUI controller

The frozen dataclasses of `runtime_models`. A value that exists is one that has
passed the checks of its constructor; a snapshot is replaced field by field, so
that its checks are a function of the fields.
-/

namespace BootUpgrade

inductive RuntimeState where
  | disconnected
  | connecting
  | connected
  | busy
  | disconnecting
  | error
  deriving DecidableEq, Repr

inductive TaskPhase where
  | pending
  | running
  | cancelling
  | finished
  deriving DecidableEq, Repr

inductive TaskDispositionState where
  | none
  | awaitingDisconnectDecision
  | disconnecting
  | complete
  deriving DecidableEq, Repr

inductive TaskFinalStatus where
  | succeeded
  | failed
  | cancelled
  | completedAfterCancelRequest
  deriving DecidableEq, Repr

/-- `SUCCEEDED` or `COMPLETED_AFTER_CANCEL_REQUEST`. -/
def TaskFinalStatus.isSuccess : TaskFinalStatus → Bool
  | succeeded | completedAfterCancelRequest => true
  | failed | cancelled => false

/-- `CANCELLED` or `COMPLETED_AFTER_CANCEL_REQUEST`. -/
def TaskFinalStatus.isCancel : TaskFinalStatus → Bool
  | cancelled | completedAfterCancelRequest => true
  | succeeded | failed => false

inductive TaskStepState where
  | started
  | progress
  | completed
  deriving DecidableEq, Repr

inductive ProgressMode where
  | indeterminate
  | determinate
  deriving DecidableEq, Repr

inductive CompletionPolicy where
  | autoCloseOnCleanSuccess
  | requireAcknowledgement
  deriving DecidableEq, Repr

inductive TaskConnectionRequirement where
  | none
  | connected
  deriving DecidableEq, Repr

inductive TaskCompletionAction where
  | none
  | releaseConnection
  deriving DecidableEq, Repr

inductive TaskDialogAction where
  | disconnect
  | keepConnection
  | retryCleanup
  | forceExit
  deriving DecidableEq, Repr

inductive ErrorDisposition where
  | showOnly
  | askDisconnect
  | forceDisconnected
  | runtimeFatal
  deriving DecidableEq, Repr

inductive RequestRejectionCode where
  | invalidRuntimeState
  | taskAlreadyActive
  | unknownTask
  | taskNotCancellable
  | actionNotAvailable
  | closeNotAllowed
  deriving DecidableEq, Repr

/-- The identifier of a task. `uuid4` makes a new one for every request. -/
abbrev TaskId := Nat

/-! ## Errors and results -/

/-- The entries of `GuiRuntimeError.details` that the controller reads and writes. -/
structure ErrorDetails where
  cleanupPending : Bool
  cleanupErrorCode : Option String
  deriving DecidableEq, Repr

structure GuiRuntimeError where
  code : String
  message : String
  stage : String
  disposition : ErrorDisposition
  taskId : Option TaskId
  recoverable : Bool
  outcomeUncertain : Bool
  details : ErrorDetails
  ask_uncertain : disposition = .askDisconnect → outcomeUncertain = true
  fatal_final : disposition = .runtimeFatal → recoverable = false
  deriving DecidableEq, Repr

structure GuiTaskWarning where
  code : String
  message : String
  stage : String
  cleanupErrorCode : String
  deriving DecidableEq, Repr

structure TaskStepPlan where
  stepId : Text
  title : Text
  initialProgressMode : ProgressMode
  weight : Nat
  weight_pos : 0 < weight
  deriving DecidableEq, Repr

structure TaskPlan where
  taskId : TaskId
  title : Text
  steps : List TaskStepPlan
  connectionRequirement : TaskConnectionRequirement
  cancellable : Bool
  completionPolicy : CompletionPolicy
  steps_ne : steps ≠ []
  steps_unique : (steps.map (·.stepId)).Nodup
  deriving DecidableEq, Repr

structure TaskProgressUpdate where
  taskId : TaskId
  stepId : String
  stepState : TaskStepState
  stage : String
  message : String
  current : Option Int
  total : Option Int
  progressMode : ProgressMode
  deriving DecidableEq, Repr

/-- What the results of the steps are: those that a job has reported, by number, and the
result of a cleanup. -/
inductive StepResult where
  | reported (number : Nat)
  | cleanup (status : TaskFinalStatus) (errorCode : Option String)
  deriving DecidableEq, Repr

structure TaskExecutionResult where
  taskId : TaskId
  status : TaskFinalStatus
  summary : String
  message : String
  stepResults : List StepResult
  /-- The payload, if it is a `ConnectionInfo`. -/
  payload : Option ConnectionInfo
  warning : Option GuiTaskWarning
  error : Option GuiRuntimeError
  completionAction : TaskCompletionAction
  cancelRequested : Bool
  failed_iff : status = .failed ↔ error.isSome = true
  cancel_requested : status.isCancel = true → cancelRequested = true
  error_task : ∀ failure, error = some failure → failure.taskId = none ∨ failure.taskId = some taskId
  failed_warning : status = .failed → warning = none
  release_success : completionAction = .releaseConnection → status.isSuccess = true
  deriving DecidableEq, Repr

/-- `result.error and result.error.disposition is disposition`. -/
def TaskExecutionResult.hasDisposition (result : TaskExecutionResult)
    (disposition : ErrorDisposition) : Bool :=
  result.error.any fun error => error.disposition = disposition

/-- `TaskState`, without the figures of its progress bar. -/
structure TaskState where
  taskId : TaskId
  plan : TaskPlan
  phase : TaskPhase
  dispositionState : TaskDispositionState
  currentStepIndex : Option Int
  currentStepId : Option String
  message : String
  cancelRequested : Bool
  availableActions : List TaskDialogAction
  closeAllowed : Bool
  autoCloseDelayMs : Option Nat
  result : Option TaskExecutionResult
  error : Option GuiRuntimeError
  deriving DecidableEq, Repr

/-- `TaskState(task_id, plan, phase, disposition_state)`. -/
def TaskState.new (taskId : TaskId) (plan : TaskPlan) (phase : TaskPhase)
    (dispositionState : TaskDispositionState) : TaskState where
  taskId
  plan
  phase
  dispositionState
  currentStepIndex := none
  currentStepId := none
  message := ""
  cancelRequested := false
  availableActions := []
  closeAllowed := false
  autoCloseDelayMs := none
  result := none
  error := none

/-- The checks of `TaskState`. -/
def TaskState.check (state : TaskState) : Except String TaskState :=
  if state.plan.taskId ≠ state.taskId then .error "task id mismatch"
  else if state.result.any (·.taskId ≠ state.taskId) then .error "task id mismatch"
  else if state.error.any fun error => error.taskId ≠ none ∧ error.taskId ≠ some state.taskId then
    .error "task id mismatch"
  else .ok state

/-- The checks that a state has passed. -/
structure TaskState.Valid (s : TaskState) : Prop where
  plan : s.plan.taskId = s.taskId
  result : ∀ result, s.result = some result → result.taskId = s.taskId
  error : ∀ error, s.error = some error → error.taskId = none ∨ error.taskId = some s.taskId

theorem TaskState.check_valid {s : TaskState} (valid : s.Valid) : s.check = .ok s := by
  have result : s.result.any (·.taskId ≠ s.taskId) = false := by
    cases present : s.result with
    | none => rfl
    | some result => simp [valid.result result present]
  have error : (s.error.any fun error => error.taskId ≠ none ∧ error.taskId ≠ some s.taskId) = false := by
    cases present : s.error with
    | none => rfl
    | some error => rcases valid.error error present with own | own <;> simp [own]
  rw [check, if_neg (by simp [valid.plan]), if_neg (by simp only [result, Bool.false_eq_true, not_false_eq_true]),
    if_neg (by simp only [error, Bool.false_eq_true, not_false_eq_true])]

theorem TaskState.valid_of_check {s state : TaskState} (passed : s.check = .ok state) :
    s.Valid ∧ state = s := by
  simp only [check] at passed
  split at passed
  · cases passed
  rename_i plan
  split at passed
  · cases passed
  rename_i result
  split at passed
  · cases passed
  rename_i error
  cases passed
  refine ⟨⟨by simpa using plan, ?_, ?_⟩, rfl⟩
  · intro r present
    simpa [present] using result
  · intro e present
    simp only [present, Option.any_some, decide_eq_true_eq, Decidable.not_and_iff_or_not,
      Decidable.not_not] at error
    exact error

/-- A result is one of its own task, and so is its error. -/
theorem TaskState.valid_of_result {s : TaskState} {result : TaskExecutionResult}
    (plan : s.plan.taskId = s.taskId) (is : s.result = some result) (error : s.error = result.error)
    (own : result.taskId = s.taskId) : s.Valid where
  plan
  result := by
    rintro other present
    rw [is] at present
    cases present
    exact own
  error := by
    intro failure present
    rw [← own]
    exact result.error_task failure (error ▸ present)

/-! ## The snapshot -/

/-- The fields of `RuntimeSnapshot`. -/
structure SnapshotFields where
  state : RuntimeState
  activeTaskId : Option TaskId
  connectionInfo : Option ConnectionInfo
  activeTargetKey : Option RuntimeCpuId
  connectionSuspect : Bool
  disconnectDecisionPending : Bool
  shutdownRequested : Bool
  cleanupPending : Bool
  lastError : Option GuiRuntimeError
  deriving DecidableEq, Repr

/-- The message of the first check of `RuntimeSnapshot.__post_init__` that fails. -/
def SnapshotFields.violation (s : SnapshotFields) : Option String :=
  if (s.state = .disconnected ∨ s.state = .connecting) ∧
      (s.connectionInfo.isSome ∨ s.activeTargetKey.isSome) then
    some "inactive state cannot carry connection"
  else if s.state = .disconnected ∧ (s.connectionSuspect ∨ s.disconnectDecisionPending) then
    some "invalid disconnected snapshot"
  else if s.state = .connected ∧ (s.connectionInfo = none ∨ s.activeTargetKey = none) then
    some "connected requires connection info and target"
  else if s.connectionInfo.any fun info => some info.targetKey ≠ s.activeTargetKey then
    some "connection target mismatch"
  else if s.cleanupPending ∧ (s.connectionInfo.isSome ∨ s.activeTargetKey.isSome) then
    some "pending cleanup cannot claim an active connection"
  else if s.state = .error ∧ ¬ s.lastError.any (·.disposition = .runtimeFatal) then
    some "error state requires fatal error"
  else if s.disconnectDecisionPending ∧
      (s.state ≠ .busy ∨ ¬ s.connectionSuspect ∨ s.activeTaskId = none) then
    some "invalid disconnect decision"
  else none

/-- `RuntimeSnapshot`. -/
def RuntimeSnapshot := {s : SnapshotFields // s.violation = none}

instance : DecidableEq RuntimeSnapshot := inferInstanceAs (DecidableEq {s : SnapshotFields // _})

def SnapshotFields.new : SnapshotFields :=
  ⟨.disconnected, none, none, none, false, false, false, false, none⟩

def RuntimeSnapshot.new : RuntimeSnapshot := ⟨.new, by decide⟩

/-- `replace(snapshot, ..)`. -/
def RuntimeSnapshot.replace (snapshot : RuntimeSnapshot) (changes : SnapshotFields → SnapshotFields) :
    Except String RuntimeSnapshot :=
  match passed : (changes snapshot.1).violation with
  | none => .ok ⟨changes snapshot.1, passed⟩
  | some message => .error message

/-- The checks that a snapshot has passed. -/
structure SnapshotFields.Valid (s : SnapshotFields) : Prop where
  inactive : s.state = .disconnected ∨ s.state = .connecting →
    s.connectionInfo = none ∧ s.activeTargetKey = none
  disconnected : s.state = .disconnected →
    s.connectionSuspect = false ∧ s.disconnectDecisionPending = false
  connected : s.state = .connected → s.connectionInfo.isSome = true ∧ s.activeTargetKey.isSome = true
  target : ∀ info, s.connectionInfo = some info → s.activeTargetKey = some info.targetKey
  cleanup : s.cleanupPending = true → s.connectionInfo = none ∧ s.activeTargetKey = none
  error : s.state = .error → ∃ error, s.lastError = some error ∧ error.disposition = .runtimeFatal
  decision : s.disconnectDecisionPending = true →
    s.state = .busy ∧ s.connectionSuspect = true ∧ s.activeTaskId.isSome = true

theorem guard_eq_none {c : Prop} [Decidable c] {message : String} {rest : Option String} :
    (if c then some message else rest) = none ↔ ¬ c ∧ rest = none := by
  by_cases h : c <;> simp [h]

theorem SnapshotFields.violation_eq_none {s : SnapshotFields} : s.violation = none ↔ s.Valid := by
  simp only [violation, guard_eq_none, and_true]
  constructor
  · rintro ⟨inactive, disconnected, connected, target, cleanup, error, decision⟩
    refine ⟨?_, ?_, ?_, ?_, ?_, ?_, ?_⟩
    · intro state
      simpa [state] using inactive
    · intro state
      simpa [state] using disconnected
    · intro state
      simpa [state, Option.isSome_iff_ne_none] using connected
    · intro info present
      have same : some info.targetKey = s.activeTargetKey := by simpa [present] using target
      exact same.symm
    · intro pending
      simpa [pending] using cleanup
    · intro state
      have fatal : s.lastError.any (·.disposition = .runtimeFatal) = true := by
        simpa [state] using error
      cases present : s.lastError with
      | none => simp [present] at fatal
      | some failure => exact ⟨failure, rfl, by simpa [present] using fatal⟩
    · intro pending
      simpa [pending, Option.isSome_iff_ne_none] using decision
  · rintro ⟨inactive, disconnected, connected, target, cleanup, error, decision⟩
    refine ⟨?_, ?_, ?_, ?_, ?_, ?_, ?_⟩
    · rintro ⟨state, present⟩
      simp [inactive state] at present
    · rintro ⟨state, wrong⟩
      simp [disconnected state] at wrong
    · rintro ⟨state, absent⟩
      obtain ⟨info, target⟩ := connected state
      rcases absent with absent | absent
      · simp [absent] at info
      · simp [absent] at target
    · cases present : s.connectionInfo with
      | none => simp
      | some info => simp [target info present]
    · rintro ⟨pending, present⟩
      simp [cleanup pending] at present
    · rintro ⟨state, wrong⟩
      obtain ⟨failure, present, fatal⟩ := error state
      simp [present, fatal] at wrong
    · rintro ⟨pending, wrong⟩
      obtain ⟨busy, suspect, active⟩ := decision pending
      rcases wrong with wrong | wrong | wrong
      · exact wrong busy
      · exact wrong suspect
      · simp [wrong] at active

theorem RuntimeSnapshot.valid (snapshot : RuntimeSnapshot) : snapshot.1.Valid :=
  SnapshotFields.violation_eq_none.1 snapshot.2

theorem RuntimeSnapshot.replace_valid {snapshot : RuntimeSnapshot}
    {changes : SnapshotFields → SnapshotFields} (valid : (changes snapshot.1).Valid) :
    snapshot.replace changes =
      .ok ⟨changes snapshot.1, SnapshotFields.violation_eq_none.2 valid⟩ := by
  have passed := SnapshotFields.violation_eq_none.2 valid
  unfold replace
  split
  · rfl
  · rename_i failed
    rw [passed] at failed
    cases failed

theorem RuntimeSnapshot.replace_invalid {snapshot : RuntimeSnapshot}
    {changes : SnapshotFields → SnapshotFields} (invalid : ¬ (changes snapshot.1).Valid) :
    ∃ message, snapshot.replace changes = .error message := by
  unfold replace
  split
  · rename_i passed
    exact absurd (SnapshotFields.violation_eq_none.1 passed) invalid
  · exact ⟨_, rfl⟩

/-! ## Answers to requests -/

structure RequestRejection where
  code : RequestRejectionCode
  message : String
  taskId : Option TaskId
  deriving DecidableEq, Repr

/-- `RequestAdmission`. -/
inductive RequestAdmission where
  | accepted (taskId : TaskId)
  | rejected (rejection : RequestRejection)
  | failed (error : GuiRuntimeError)
  deriving DecidableEq, Repr

/-- `ApplicationCloseResult`. -/
inductive ApplicationCloseResult where
  | allowImmediate
  | shutdownStarted (taskId : TaskId)
  | rejected (rejection : RequestRejection)
  | failed (error : GuiRuntimeError)
  deriving DecidableEq, Repr

end BootUpgrade

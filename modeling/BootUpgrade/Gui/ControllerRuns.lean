import Mathlib.Data.List.Nodup
import BootUpgrade.Gui.ControllerFaults

/-!
# Runs of the controller

A task that has been accepted is active or has had its one result reported, whatever the
order of what the user and the workers do, and a fatal event ends in the error state.

Both rest on the fatal path being free to make an error snapshot of the present one. It
is not while a decision is pending: the flag of the decision stays, and a snapshot that
has it can only be a busy one.
-/

namespace BootUpgrade.GuiController

open Runs Procedure

/-! ## The task protocol -/

/-- The identifiers of the requests that have been accepted. -/
def Accepted (past : List (Event GuiController ControllerEvent (Except String ControllerAnswer)))
    (taskId : TaskId) : Prop :=
  ∃ event ∈ past, ∃ answer, event.output = .ok answer ∧ answer.acceptedId = some taskId

/-- What holds of the controller after the events of its past. -/
structure Protocol (past : List (Event GuiController ControllerEvent (Except String ControllerAnswer)))
    (c : GuiController) : Prop where
  named : c.snapshot.1.activeTaskId = c.active.map (·.taskId)
  idle : c.snapshot.1.state = .connected ∨ c.snapshot.1.state = .disconnected → c.active = none
  finished : ∀ taskId, Accepted past taskId → (finishedIds c).count taskId =
    if c.active.map (·.taskId) = some taskId then 0 else 1

/-- A message of an older generation of the active task. -/
def Outdated (c : GuiController) : ControllerEvent → Prop
  | .progress (some message) => ∃ a, c.active = some a ∧ message.taskId = a.taskId ∧
      message.executionGeneration < a.generation
  | .result (some message) _ => ∃ a, c.active = some a ∧ message.taskId = a.taskId ∧
      message.executionGeneration < a.generation
  | .threadFinished generation _ => ∃ a, c.active = some a ∧ generation < a.generation
  | _ => False

theorem tracked_new : Tracked new where
  held := by rintro _ ⟨⟩
  unnamed := fun _ => rfl
  fresh := by rintro _ ⟨⟩
  issued := by rintro _ ⟨⟩
  once := List.nodup_nil

theorem outdated_ends {c : GuiController} {event : ControllerEvent} (outdated : Outdated c event) :
    Ends (handle event) c fun _ c' => c' = c := by
  cases event with
  | progress message =>
    cases message with
    | none => exact outdated.elim
    | some message =>
      obtain ⟨a, active, own, older⟩ := outdated
      apply ends_replace
      unfold onProgress withActive
      apply ends_read_bind
      simp only [active, own, Option.filter_some, decide_true, if_true, older]
      exact ends_pure rfl
  | result message worker =>
    cases message with
    | none => exact outdated.elim
    | some message =>
      obtain ⟨a, active, own, older⟩ := outdated
      apply ends_replace
      unfold onResult withActive
      apply ends_read_bind
      simp only [active, own, Option.filter_some, decide_true, if_true, older]
      exact ends_pure rfl
  | threadFinished generation worker =>
    obtain ⟨a, active, older⟩ := outdated
    apply ends_replace
    unfold onThreadFinished
    apply ends_read_bind
    simp only [active, older, if_true]
    exact ends_pure rfl
  | _ => exact outdated.elim

theorem tracked_step {c : GuiController} {event : ControllerEvent} (tracked : Tracked c)
    (moored : ¬ Stranded c event) :
    Handled False (fatalEvent c event) c (handle event c).1 (handle event c).2 :=
  handle_handled tracked False.elim False.elim moored

/-- The books of a run in which no worker exits twice beside a pending decision. -/
theorem tracked_run (events : List ControllerEvent)
    (moored : ∀ ev ∈ machine.history new events, ¬ Stranded ev.before ev.input) :
    Tracked (machine.run new events) ∧ ∀ taskId,
      Accepted (machine.history new events) taskId → Accounted (machine.run new events) taskId := by
  apply machine.history_induction_of new (fun ev => ¬ Stranded ev.before ev.input)
    (fun past c => Tracked c ∧ ∀ taskId, Accepted past taskId → Accounted c taskId) ?_ ?_ events moored
  · refine ⟨tracked_new, ?_⟩
    rintro taskId ⟨_, ⟨⟩, _⟩
  · rintro past c event ⟨tracked, accounted⟩ moored
    have handled := tracked_step tracked moored
    refine ⟨handled.tracked, ?_⟩
    rintro taskId ⟨ev, among, answer, output, accepted⟩
    rcases List.mem_append.1 among with old | last
    · exact handled.kept taskId (accounted taskId ⟨ev, old, answer, output, accepted⟩)
    · rw [List.mem_singleton.1 last] at output
      exact handled.accepted answer taskId output accepted

theorem Tracked.protocol
    {past : List (Event GuiController ControllerEvent (Except String ControllerAnswer))}
    {c : GuiController} (tracked : Tracked c)
    (accounted : ∀ taskId, Accepted past taskId → Accounted c taskId) : Protocol past c where
  named := by
    cases active : c.active with
    | none => exact tracked.unnamed active
    | some a => exact (tracked.held a active).named
  idle := by
    intro idle
    cases active : c.active with
    | none => rfl
    | some a =>
      have held := tracked.held a active
      rcases idle with connected | disconnected
      · exact absurd connected held.connected
      · exact absurd disconnected held.disconnected
  finished := by
    intro taskId accepted
    split
    · rename_i active
      exact List.count_eq_zero.2 (tracked.own taskId active).2
    · rename_i other
      rcases accounted taskId accepted with active | reported
      · exact absurd active other
      · exact List.count_eq_one_of_mem tracked.once reported

/-- In every run in which no thread exits once more while a decision is pending beside a
fatal error, one task at most is active, the snapshot names it, and an accepted task is
active or has one result reported; messages of older generations change nothing. -/
theorem task_protocol (events : List ControllerEvent)
    (moored : ∀ ev ∈ machine.history new events, ¬ Stranded ev.before ev.input) :
    Protocol (machine.history new events) (machine.run new events) ∧
      ∀ ev ∈ machine.history new events, Outdated ev.before ev.input → ev.after = ev.before := by
  obtain ⟨tracked, accounted⟩ := tracked_run events moored
  refine ⟨tracked.protocol accounted, ?_⟩
  intro ev among outdated
  rw [machine.history_event among]
  exact outdated_ends outdated

/-! ## Fatal events -/

/-- The exit of the worker of the active task. -/
def exits (a : ActiveTask) : ControllerEvent → Bool
  | .threadFinished generation _ => generation = a.generation
  | _ => false

/-- The task is active with its fatal error, and the snapshot is its own. -/
structure Waiting (a : ActiveTask) (error : GuiRuntimeError) (c c' : GuiController) : Prop where
  task : ∃ a', c'.active = some a' ∧ a'.taskId = a.taskId ∧ a'.fatalError = some error
  finished : finished c' = finished c

/-- The task has ended with one failed result, and the snapshot is in the error state. -/
structure Failed (a : ActiveTask) (error : GuiRuntimeError) (c c' : GuiController) : Prop where
  active : c'.active = none
  state : c'.snapshot.1.state = .error
  lastError : c'.snapshot.1.lastError = some error
  result : ∃ result, result.taskId = a.taskId ∧ result.status = .failed ∧
    finished c' = finished c ++ [result]

section
variable {c : GuiController} {a : ActiveTask} {error : GuiRuntimeError}

theorem waiting_same (active : c.active = some a) (isFatal : a.fatalError = some error) :
    Waiting a error c c := ⟨⟨a, active, rfl, isFatal⟩, rfl⟩

theorem fatal_latched {code : String} (active : c.active = some a) (isFatal : a.fatalError = some error) :
    Ends (fatal code) c fun _ c' => Waiting a error c c' := by
  unfold fatal
  apply ends_read_bind
  apply (enterFatal_latched active (by simp [isFatal])).mono
  rintro answer c' ⟨_, rfl⟩
  exact waiting_same active isFatal

theorem reject_latched {code : RequestRejectionCode} {message : String} (active : c.active = some a)
    (isFatal : a.fatalError = some error) :
    Ends (reject code message) c fun _ c' => Waiting a error c c' := by
  unfold reject
  apply ends_emit rfl
  intro c₁ emitted
  apply ends_pure
  refine ⟨⟨a, emitted.active.trans active, rfl, isFatal⟩, ?_⟩
  rw [emitted.finished, List.append_nil]

theorem withActive_latched {taskId : TaskId} {body : ActiveTask → ControllerProcedure Unit}
    (active : c.active = some a) (isFatal : a.fatalError = some error)
    (rest : Ends (body a) c fun _ c' => Waiting a error c c') :
    Ends (withActive taskId body) c fun _ c' => Waiting a error c c' := by
  unfold withActive
  apply ends_read_bind
  cases present : c.active.filter (·.taskId = taskId) with
  | none => exact fatal_latched active isFatal
  | some other =>
    have same := (filter_active present).1
    rw [active] at same
    cases same
    exact rest

/-- A task with a fatal error offers nothing that starts a worker or ends it. -/
theorem offered_latched {action : TaskDialogAction} (held : Held a c.snapshot.1)
    (steady : Steady a c.snapshot.1) (isFatal : a.fatalError = some error)
    (offered : action ∈ a.state.availableActions) : action = .forceExit := by
  cases action with
  | forceExit => rfl
  | disconnect =>
    have free := offered_unlatched held c.snapshot.valid steady offered (.inl rfl)
    simp [isFatal] at free
  | retryCleanup =>
    have free := offered_unlatched held c.snapshot.valid steady offered (.inr rfl)
    simp [isFatal] at free
  | keepConnection =>
    have busy := (c.snapshot.valid.decision (held.choices (.inl offered))).1
    rw [(steady error isFatal).1] at busy
    cases busy

/-- A task with a fatal error waits for the exit of its worker, whatever else comes. -/
theorem latched_waits {event : ControllerEvent} (tracked : Tracked c) (active : c.active = some a)
    (isFatal : a.fatalError = some error) (steady : Steady a c.snapshot.1)
    (other : exits a event = false) : Ends (handle event) c fun _ c' => Waiting a error c c' := by
  have held := tracked.held a active
  have same := waiting_same active isFatal
  have busy : c.active.isSome = true := by simp [active]
  have isSome : a.fatalError.isSome = true := by simp [isFatal]
  cases event with
  | requestConnect createPlan worker =>
    apply ends_replace
    unfold requestConnect
    apply ends_read_bind
    simp only [id, busy, if_true]
    exact reject_latched active isFatal
  | requestTask createPlan worker =>
    apply ends_replace
    unfold requestTask
    apply ends_read_bind
    simp only [id, busy, if_true]
    exact reject_latched active isFatal
  | requestDisconnect createPlan worker =>
    apply ends_replace
    unfold requestDisconnect
    apply ends_read_bind
    simp only [id, busy, if_true]
    exact reject_latched active isFatal
  | requestApplicationClose worker =>
    apply ends_replace
    unfold requestApplicationClose
    apply ends_read_bind
    simp only [id, active]
    exact ends_pure same
  | requestCancel taskId =>
    apply ends_replace
    unfold requestCancel
    apply ends_read_bind
    split
    · exact ends_pure same
    · rename_i a' present
      have is := (filter_active present).1
      rw [active] at is
      cases is
      split
      · exact ends_pure same
      split
      · exact ends_pure same
      split
      · exact ends_pure same
      apply ends_setTaskState
      · exact ⟨held.valid.plan, held.valid.result, held.valid.error⟩
      apply ends_emit rfl
      intro c₁ emitted
      have becomes := (Becomes.setActive c _).trans emitted
      apply ends_pure
      exact ⟨⟨_, becomes.active, rfl, isFatal⟩, by simpa using becomes.finished⟩
  | respondTaskAction taskId action worker =>
    apply ends_replace
    unfold respondTaskAction
    apply ends_read_bind
    split
    · exact ends_pure same
    · rename_i a' present
      have is := (filter_active present).1
      rw [active] at is
      cases is
      split
      · exact ends_pure same
      split
      · exact ends_pure same
      rename_i offered
      have force := offered_latched held steady isFatal (Decidable.not_not.1 offered)
      rw [force]
      apply ends_update_bind
      apply ends_replace
      apply (emit_ends rfl).mono
      rintro answer c' ⟨_, emitted⟩
      have becomes := (Becomes.setActive c _).trans emitted
      exact ⟨⟨_, becomes.active, rfl, isFatal⟩, by simpa using becomes.finished⟩
  | progress message =>
    apply ends_replace
    cases message with
    | none => exact fatal_latched active isFatal
    | some message =>
      apply withActive_latched active isFatal
      simp only [isSome, if_true]
      split <;> exact ends_pure same
  | result message worker =>
    apply ends_replace
    cases message with
    | none => exact fatal_latched active isFatal
    | some message =>
      apply withActive_latched active isFatal
      simp only [isSome, if_true]
      split <;> exact ends_pure same
  | threadFinished generation worker =>
    have unequal : generation ≠ a.generation := by simpa [exits] using other
    apply ends_replace
    unfold onThreadFinished
    apply ends_read_bind
    simp only [active, unequal, ne_eq, not_false_eq_true, if_true]
    split
    · exact ends_pure same
    · exact fatal_latched active isFatal
  | wrongThread taskId =>
    apply ends_replace
    apply (enterFatal_latched active isSome).mono
    rintro answer c' ⟨_, rfl⟩
    exact same

/-- Its exit ends it. -/
theorem latched_fails {worker : WorkerAnswers} (tracked : Tracked c) (active : c.active = some a)
    (isFatal : a.fatalError = some error) (steady : Steady a c.snapshot.1) :
    Ends (handle (.threadFinished a.generation worker)) c fun _ c' => Failed a error c c' := by
  have held := tracked.held a active
  obtain ⟨state, _, matching, _⟩ := steady error isFatal
  have decided : c.snapshot.1.disconnectDecisionPending = false := by
    cases pending : c.snapshot.1.disconnectDecisionPending with
    | false => rfl
    | true =>
      have busy := (c.snapshot.valid.decision pending).1
      rw [state] at busy
      cases busy
  have becomes := Becomes.setActive c (some { a with threadFinished := true, thread := false })
  apply ends_replace
  unfold onThreadFinished
  apply ends_read_bind
  simp only [active, Int.lt_irrefl, if_false, ne_eq, not_true_eq_false]
  apply ends_update_bind
  rw [if_pos (by simp [isFatal])]
  apply (finalizeFatal_ends becomes.active held.task held.valid.plan held.fatalResult isFatal rfl
    (held.fatal error isFatal) decided).mono
  rintro answer c' (⟨_, result, own, status, ended⟩ | ⟨mismatch, _⟩)
  · have ended := becomes.trans ended
    exact {
      active := ended.active
      state := by
        rw [ended.snapshot]
        rfl
      lastError := by
        rw [ended.snapshot]
        rfl
      result := ⟨result, own, status, ended.finished⟩ }
  · exact absurd matching mismatch

end

/-- What is true between two events of a run that is calm. -/
structure Sound (c : GuiController) : Prop where
  tracked : Tracked c
  steady : ∀ a, c.active = some a → Steady a c.snapshot.1

theorem sound_new : Sound new where
  tracked := tracked_new
  steady := by rintro _ ⟨⟩

/-- In a sound state no task with a fatal error waits for a decision. -/
theorem Sound.moored {c : GuiController} (sound : Sound c) (event : ControllerEvent) :
    ¬ Stranded c event := by
  intro stranded
  cases event with
  | threadFinished generation worker =>
    obtain ⟨a, active, _, isSome, pending⟩ := stranded
    obtain ⟨error, isFatal⟩ := Option.isSome_iff_exists.1 isSome
    have busy := (c.snapshot.valid.decision pending).1
    rw [(sound.steady a active error isFatal).1] at busy
    cases busy
  | _ => exact stranded

theorem Sound.step {c : GuiController} {event : ControllerEvent} (sound : Sound c)
    (calm : Calm c event) :
    Handled True (fatalEvent c event) c (handle event c).1 (handle event c).2 :=
  handle_handled sound.tracked (fun _ => sound.steady) (fun _ => calm) (sound.moored event)

/-- What a calm event does about fatal errors. -/
structure FatalHandled
    (ev : Event GuiController ControllerEvent (Except String ControllerAnswer)) : Prop where
  quiet : ∃ answer, ev.output = .ok answer
  landed : ∀ error, fatalEvent ev.before ev.input = some error → Landed error ev.before ev.after
  ended : ∀ a error, ev.before.active = some a → fatalEvent ev.before ev.input = some error →
    ev.after.active = none → Failed a error ev.before ev.after
  latched : ∀ a error, ev.before.active = some a → a.fatalError = some error →
    ev.before.snapshot.1.state = .error ∧ ev.before.snapshot.1.lastError = some error ∧
    (if exits a ev.input then Failed a error ev.before ev.after
      else Waiting a error ev.before ev.after)

/-- The one result that is reported is the failed one of the task that has ended. -/
theorem Landed.failed_of {c c' : GuiController} {a : ActiveTask} {error : GuiRuntimeError}
    (landed : Landed error c c') (tracked : Tracked c) (active : c.active = some a)
    (gone : c'.active = none) (accounted : Accounted c' a.taskId) : Failed a error c c' := by
  obtain ⟨state, lastError, _, news, finished, failed⟩ := landed
  have reported : a.taskId ∈ finishedIds c' := by
    rcases accounted with other | reported
    · simp [gone] at other
    · exact reported
  rw [finishedIds, finished, List.map_append, List.mem_append] at reported
  rcases reported with old | last
  · exact absurd old (tracked.fresh a active).2
  · cases news with
    | none => cases last
    | some result =>
      have own : a.taskId = result.taskId := by simpa using last
      exact ⟨gone, state, lastError, result, own.symm, failed result rfl, finished⟩

theorem Sound.fatalHandled {c : GuiController} {event : ControllerEvent} (sound : Sound c)
    (calm : Calm c event) : FatalHandled (machine.event c event) where
  quiet := (sound.step calm).quiet trivial
  landed := (sound.step calm).landed trivial
  ended := by
    intro a error present fault gone
    have active : c.active = some a := present
    have handled := sound.step calm
    have accounted := handled.kept a.taskId (.inl (by rw [active]; rfl))
    exact (handled.landed trivial error fault).failed_of sound.tracked active gone accounted
  latched := by
    intro a error active isFatal
    have steady := sound.steady a active
    obtain ⟨state, lastError, _⟩ := steady error isFatal
    refine ⟨state, lastError, ?_⟩
    cases exit : exits a event with
    | false =>
      rw [if_neg (by simp [machine, Machine.event, exit])]
      exact latched_waits sound.tracked active isFatal steady exit
    | true =>
      rw [if_pos (by simp [machine, Machine.event, exit])]
      cases event with
      | threadFinished generation worker =>
        have is : generation = a.generation := by simpa [exits] using exit
        subst is
        exact latched_fails sound.tracked active isFatal steady
      | _ => cases exit

/-- In every run in which a fatal event never comes while a decision is pending, and no call
in the wrong thread names another task than the active one: no event raises, so that
every snapshot passes its checks; a fatal event ends in the error state with its error;
and the active task ends with one failed result, at once or with the exit of its
worker. -/
theorem fatal_handled (events : List ControllerEvent)
    (calm : ∀ ev ∈ machine.history new events, Calm ev.before ev.input) :
    ∀ ev ∈ machine.history new events, FatalHandled ev ∧ (finishedIds ev.after).Nodup := by
  intro ev among
  have sound := machine.forall_history (C := Calm) Sound sound_new
    (fun c event sound calm => ⟨(sound.step calm).tracked, (sound.step calm).steady trivial⟩)
    events calm ev among
  have is := machine.history_event among
  have handled := sound.1.fatalHandled (calm ev among)
  rw [← is] at handled
  exact ⟨handled, sound.2.tracked.once⟩

/-! ## A decision and a fatal error -/

def exampleInfo : ConnectionInfo := ⟨"connection-1", "SCI", "COM3", 0, .cpu1⟩

def examplePlan (requirement : TaskConnectionRequirement) (taskId : TaskId) : PlanAnswer :=
  .plan {
    taskId
    title := ⟨"Task", by simp⟩
    steps := [⟨⟨"work", by simp⟩, ⟨"Work", by simp⟩, .indeterminate, 1, Nat.one_pos⟩]
    connectionRequirement := requirement
    cancellable := true
    completionPolicy := .autoCloseOnCleanSuccess
    steps_ne := by simp
    steps_unique := by simp }

def exampleProgress (state : TaskStepState) : ControllerEvent :=
  .progress (some ⟨0, 0, some ⟨0, "work", state, "connect", "", none, none, .indeterminate⟩⟩)

def exampleConnected : TaskExecutionResult where
  taskId := 0
  status := .succeeded
  summary := "Connected"
  message := ""
  stepResults := []
  payload := some exampleInfo
  warning := none
  error := none
  completionAction := .none
  cancelRequested := false
  failed_iff := by simp
  cancel_requested := by simp [TaskFinalStatus.isCancel]
  error_task := by simp
  failed_warning := by simp
  release_success := by simp

theorem failed_unwarned : TaskFinalStatus.failed = .failed → (none : Option GuiTaskWarning) = none :=
  fun _ => rfl

theorem nothing_released : TaskCompletionAction.none = .releaseConnection →
    TaskFinalStatus.failed.isSuccess = true := by
  simp

/-- The result of a task that does not know what became of its operation. -/
def exampleUncertain : TaskExecutionResult where
  taskId := 1
  status := .failed
  summary := "Timeout"
  message := ""
  stepResults := []
  payload := none
  warning := none
  error := some ⟨"TIMEOUT", "", "task", .askDisconnect, some 1, true, true, ⟨false, none⟩, by simp, by simp⟩
  completionAction := .none
  cancelRequested := false
  failed_iff := by simp
  cancel_requested := by simp [TaskFinalStatus.isCancel]
  error_task := by simp
  failed_warning := failed_unwarned
  release_success := nothing_released

/-- A connection and a task on it that waits for a decision. -/
def exampleDecision : List ControllerEvent :=
  [.requestConnect (examplePlan .none) ⟨true, true⟩, exampleProgress .started,
    exampleProgress .completed, .result (some ⟨0, 0, some exampleConnected⟩) ⟨true, true⟩,
    .threadFinished 0 ⟨true, true⟩, .requestTask (examplePlan .connected) ⟨true, true⟩,
    .result (some ⟨1, 0, some exampleUncertain⟩) ⟨true, true⟩, .threadFinished 0 ⟨true, true⟩]

/-- The thread of the task exits once more after a malformed message: nobody is active, the
snapshot still names the task and its result is never reported. -/
theorem task_protocol_stranded :
    let events := exampleDecision ++ [.progress none, .threadFinished 0 ⟨true, true⟩]
    ¬ Protocol (machine.history new events) (machine.run new events) := by
  intro events protocol
  have named := protocol.named
  revert named
  decide

/-- Beside the decision nothing else is in the way of the task. -/
theorem task_protocol_decision : Protocol (machine.history new exampleDecision)
    (machine.run new exampleDecision) := by
  refine (task_protocol exampleDecision ?_).1
  have undecided : (machine.history new exampleDecision).all
      (fun ev => !ev.before.snapshot.1.disconnectDecisionPending) = true := by decide
  intro ev among stranded
  have decided := List.all_eq_true.1 undecided ev among
  cases is : ev.input with
  | threadFinished generation worker =>
    rw [is] at stranded
    obtain ⟨_, _, _, _, pending⟩ := stranded
    simp [pending] at decided
  | _ =>
    rw [is] at stranded
    exact stranded

/-- A connection whose worker sends a malformed message and exits. -/
theorem fatal_handled_malformed :
    let events := [.requestConnect (examplePlan .none) ⟨true, true⟩, .progress none,
      .threadFinished 0 ⟨true, true⟩]
    ∀ ev ∈ machine.history new events, FatalHandled ev ∧ (finishedIds ev.after).Nodup :=
  fatal_handled _ (by decide)

/-- A call in the wrong thread while a decision is pending raises and leaves the snapshot as
it was. -/
theorem fatal_unhandled :
    ¬ ∀ ev ∈ machine.history new (exampleDecision ++ [.wrongThread none]),
      FatalHandled ev := by
  intro handled
  have last := (handled ((machine.history new (exampleDecision ++ [.wrongThread none])).get
    ⟨8, by decide⟩) (List.get_mem _ _)).landed (wrongThread none) rfl
  have state := last.state
  revert state
  decide

end BootUpgrade.GuiController

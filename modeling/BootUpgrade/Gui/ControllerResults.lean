import BootUpgrade.Gui.ControllerEvents

/-!
# How the controller ends a task

A result whose worker has exited ends its task, makes it wait for a decision, starts the
release of its connection, or is a fault.
-/

namespace BootUpgrade.GuiController

open Procedure

/-! ## The fault of a result -/

/-- The fault that the end of a task finds in its result. -/
def kindFault (a : ActiveTask) (result : TaskExecutionResult) (worker : WorkerAnswers) :
    Option GuiRuntimeError :=
  let fault code := some (makeFatal code (some a.taskId))
  match a.kind with
  | .connect =>
    if result.completionAction = .releaseConnection ∨ asksForConnection result = true then
      fault "INVALID_CONNECT_RESULT"
    else if result.status = .succeeded ∧ result.payload = none then
      fault "CONNECT_MISSING_CONNECTION_INFO"
    else none
  | .disconnect =>
    if result.status.isCancel = true ∨ result.completionAction = .releaseConnection ∨
        result.hasDisposition .askDisconnect = true then fault "INVALID_DISCONNECT_RESULT"
    else none
  | .internalDisconnect =>
    if result.status.isCancel = true then fault "INVALID_INTERNAL_DISCONNECT_RESULT" else none
  | .shutdown => if result.status.isCancel = true then fault "INVALID_SHUTDOWN_RESULT" else none
  | .task =>
    if a.plan.connectionRequirement = .none then
      if result.completionAction ≠ .none ∨ asksForConnection result = true then
        fault "INVALID_LOCAL_TASK_DISPOSITION"
      else none
    else if result.hasDisposition .askDisconnect = true then none
    else if result.completionAction = .releaseConnection then generationFault a.taskId worker
    else none

/-- The fault of a result whose worker has exited. -/
def resultFault (a : ActiveTask) (result : TaskExecutionResult) (worker : WorkerAnswers) :
    Option GuiRuntimeError :=
  if result.status.isSuccess = true ∧ stepsComplete a = false then
    some (makeFatal "INCOMPLETE_SUCCESS_PROGRESS" (some a.taskId))
  else
    match fatalErrorOf result with
    | some error => some error
    | none => kindFault a result worker

/-! ## Snapshots behind a task -/

theorem valid_disconnected {s : SnapshotFields} (state : s.state = .disconnected)
    (info : s.connectionInfo = none) (target : s.activeTargetKey = none)
    (suspect : s.connectionSuspect = false) (decided : s.disconnectDecisionPending = false) :
    s.Valid where
  inactive := fun _ => ⟨info, target⟩
  disconnected := fun _ => ⟨suspect, decided⟩
  connected := by simp [state]
  target := by simp [info]
  cleanup := fun _ => ⟨info, target⟩
  error := by simp [state]
  decision := by simp [decided]

theorem valid_connected {s : SnapshotFields} (state : s.state = .connected)
    (info : s.connectionInfo.isSome = true)
    (target : ∀ info, s.connectionInfo = some info → s.activeTargetKey = some info.targetKey)
    (cleanup : s.cleanupPending = false) (decided : s.disconnectDecisionPending = false) :
    s.Valid where
  inactive := by simp [state]
  disconnected := by simp [state]
  connected := by
    intro _
    obtain ⟨present, is⟩ := Option.isSome_iff_exists.1 info
    exact ⟨info, by simp [target present is]⟩
  target := target
  cleanup := by simp [cleanup]
  error := by simp [state]
  decision := by simp [decided]

/-- A state in which a task is active has only to keep its connection as it is. -/
theorem valid_disconnecting {s : SnapshotFields} (state : s.state = .disconnecting)
    (target : ∀ info, s.connectionInfo = some info → s.activeTargetKey = some info.targetKey)
    (cleanup : s.cleanupPending = true → s.connectionInfo = none ∧ s.activeTargetKey = none)
    (decided : s.disconnectDecisionPending = false) : s.Valid where
  inactive := by simp [state]
  disconnected := by simp [state]
  connected := by simp [state]
  target := target
  cleanup := cleanup
  error := by simp [state]
  decision := by simp [decided]

/-- What has a connection has no cleanup pending. -/
theorem settled {s : SnapshotFields} (valid : s.Valid) (info : s.connectionInfo.isSome = true) :
    s.cleanupPending = false := by
  cases pending : s.cleanupPending with
  | false => rfl
  | true => simp [valid.cleanup pending] at info

section
variable {calm : Prop} {c : GuiController} {a : ActiveTask} {result : TaskExecutionResult}

theorem complete_lands {c₁ : GuiController} {taskId : TaskId} {state : RuntimeState}
    {changes : SnapshotFields → SnapshotFields} (becomes : Becomes c c₁ (some a) c.snapshot.1 [])
    (same : taskId = a.taskId) (task : a.state.taskId = a.taskId) (valid : a.state.Valid)
    (own : result.taskId = a.taskId)
    (passes : (changes { c.snapshot.1 with
      state
      activeTaskId := none
      disconnectDecisionPending := false }).Valid)
    (unnamed : (changes { c.snapshot.1 with
      state
      activeTaskId := none
      disconnectDecisionPending := false }).activeTaskId = none) :
    Ends (complete result state changes) c₁ (Lands calm (some taskId) none c) := by
  rw [← becomes.snapshot] at passes unnamed
  apply (complete_ends becomes.active task valid.plan own passes).mono
  rintro answer c' ⟨rfl, ended⟩
  rw [same, ← own]
  exact lands_finished (becomes.trans ended) unnamed

/-- The end of a connect. -/
theorem finishConnect_lands (active : c.active = some a) (held : Held a c.snapshot.1)
    (unlatched : a.fatalError = none) (kind : a.kind = .connect) (own : result.taskId = a.taskId)
    (worker : WorkerAnswers) :
    Ends (finishConnect result) c (Lands calm (some a.taskId) (kindFault a result worker) c) := by
  have decided : c.snapshot.1.disconnectDecisionPending = false := by
    cases pending : c.snapshot.1.disconnectDecisionPending with
    | false => rfl
    | true => simp [(held.decision pending).1] at kind
  unfold finishConnect
  simp only [kindFault, kind]
  split
  · exact fatal_held active held unlatched fun _ => decided
  · rename_i good
    by_cases succeeded : result.status = .succeeded
    · rw [if_pos succeeded]
      cases payload : result.payload with
      | none =>
        simp only [succeeded, and_self, if_true]
        exact fatal_held active held unlatched fun _ => decided
      | some info =>
        simp only [succeeded, reduceCtorEq, and_false, if_false]
        apply complete_lands (.same active) rfl held.task held.valid own
        · exact valid_connected rfl rfl (by rintro _ ⟨⟩; rfl) rfl rfl
        · rfl
    · simp only [succeeded, false_and, if_false]
      apply complete_lands (.same active) rfl held.task held.valid own
      · exact valid_disconnected rfl rfl rfl rfl rfl
      · rfl

theorem releasedResult_taskId (primary cleanup : TaskExecutionResult) :
    (releasedResult primary cleanup).taskId = primary.taskId := by
  unfold releasedResult
  dsimp only
  split
  · rfl
  · split <;> rfl

/-- The end of a disconnect, by the user or of a task. -/
theorem finishDisconnect_lands (active : c.active = some a) (held : Held a c.snapshot.1)
    (unlatched : a.fatalError = none) (kind : a.kind = .disconnect ∨ a.kind = .internalDisconnect)
    (own : result.taskId = a.taskId) (worker : WorkerAnswers) :
    Ends (finishDisconnect result) c (Lands calm (some a.taskId) (kindFault a result worker) c) := by
  have decided : c.snapshot.1.disconnectDecisionPending = false := by
    cases pending : c.snapshot.1.disconnectDecisionPending with
    | false => rfl
    | true => simp [(held.decision pending).1] at kind
  unfold finishDisconnect
  apply ends_check_bind
  · intro error raised
    simp [active] at raised
  intro present is
  simp only [active, Except.ok.injEq] at is
  subst is
  rcases kind with kind | kind
  · simp only [kindFault, kind, if_true]
    split
    · exact fatal_held active held unlatched fun _ => decided
    · apply complete_lands (.same active) rfl held.task held.valid own
      · exact valid_disconnected rfl rfl rfl rfl rfl
      · rfl
  · simp only [kindFault, kind, reduceCtorEq, if_false]
    split
    · exact fatal_held active held unlatched fun _ => decided
    · obtain ⟨primary, is⟩ := Option.isSome_iff_exists.1 (held.released kind)
      simp only [is]
      apply complete_lands (.same active) rfl held.task held.valid
      · rw [releasedResult_taskId]
        exact held.primary primary is
      · exact valid_disconnected rfl rfl rfl rfl rfl
      · rfl

/-- The end of a shutdown. When the cleanup has failed the task waits for what the user
chooses. -/
theorem finishShutdown_lands (active : c.active = some a) (held : Held a c.snapshot.1)
    (unlatched : a.fatalError = none) (kind : a.kind = .shutdown) (exited : a.threadFinished = true)
    (own : result.taskId = a.taskId) (worker : WorkerAnswers) :
    Ends (finishShutdown result) c (Lands calm (some a.taskId) (kindFault a result worker) c) := by
  have decided : c.snapshot.1.disconnectDecisionPending = false := by
    cases pending : c.snapshot.1.disconnectDecisionPending with
    | false => rfl
    | true => simp [(held.decision pending).1] at kind
  unfold finishShutdown
  simp only [kindFault, kind]
  split
  · exact fatal_held active held unlatched fun _ => decided
  split
  · have passes := valid_disconnected (s := { withoutConnection c.snapshot.1 with
      state := .disconnected
      activeTaskId := none
      disconnectDecisionPending := false
      shutdownRequested := false
      cleanupPending := false
      lastError := none }) rfl rfl rfl rfl rfl
    apply ends_bind_ok (complete_ends active held.task held.valid.plan own passes)
    intro c₁ ended
    apply (emit_ends rfl).mono
    rintro answer c' ⟨rfl, emitted⟩
    have becomes := ended.trans emitted
    simp only [ended.active, ended.snapshot, List.append_nil] at becomes
    rw [← own]
    exact lands_finished becomes rfl
  · apply ends_check_bind
    · intro error raised
      simp [active] at raised
    intro present is
    simp only [active, Except.ok.injEq] at is
    subst is
    apply ends_setTaskState
    · exact TaskState.valid_of_result held.valid.plan rfl rfl (own.trans held.task.symm)
    apply ends_setSnapshot
    · exact valid_disconnecting rfl (by simp) (fun _ => ⟨rfl, rfl⟩) decided
    intro c₁ published
    apply (emit_ends rfl).mono
    rintro answer c' ⟨rfl, emitted⟩
    have becomes := ((Becomes.setActive c _).trans published).trans emitted
    simp only [published.active, published.snapshot, List.append_nil] at becomes
    refine lands_active becomes rfl ?_ ?_
    · exact { held with
        named := held.named
        connected := by simp
        disconnected := by simp
        valid := TaskState.valid_of_result held.valid.plan rfl rfl (own.trans held.task.symm)
        primary := by
          rintro _ ⟨⟩
          exact own
        released := fun _ => rfl
        connection := by simp [kind]
        decision := by simp [decided]
        choices := by simp
        retry := fun _ => ⟨decided, exited⟩ }
    · intro h error latched
      simp [unlatched] at latched

/-- The release of the connection of a task whose result has come. -/
theorem beginInternalDisconnect_lands {worker : WorkerAnswers} (active : c.active = some a)
    (held : Held a c.snapshot.1) (unlatched : calm → a.fatalError = none)
    (primary : a.primaryResult.isSome = true) :
    Ends (beginInternalDisconnect worker) c
      (Lands calm (some a.taskId) (generationFault a.taskId worker) c) := by
  unfold beginInternalDisconnect
  apply ends_check_bind
  · intro error raised
    simp [active] at raised
  intro present is
  simp only [active, Except.ok.injEq] at is
  subst is
  apply ends_update_bind
  apply ends_setTaskState
  · exact ⟨rfl, by rintro _ ⟨⟩, by rintro _ ⟨⟩⟩
  apply ends_setSnapshot
  · exact valid_disconnecting rfl c.snapshot.valid.target c.snapshot.valid.cleanup rfl
  intro c₁ published
  apply ends_emit rfl
  intro c₂ emitted
  have becomes := ((Becomes.setActive c _).trans published).trans emitted
  simp only [published.active, published.snapshot, List.append_nil] at becomes
  have lands := (@runGeneration_lands calm _ _ worker) becomes.active (Held.discarded (by
    rw [becomes.snapshot]
    exact { held with
      connected := by simp
      disconnected := by simp
      task := rfl
      valid := ⟨rfl, by rintro _ ⟨⟩, by rintro _ ⟨⟩⟩
      released := fun _ => primary
      connection := by simp
      decision := by simp
      choices := by simp [TaskState.new]
      retry := by simp [TaskState.new] })) rfl (by rw [becomes.snapshot]) unlatched
  apply lands.mono
  rintro answer c' ⟨_, lands⟩
  exact lands.after becomes

/-- The end of a task. -/
theorem finishTask_lands {worker : WorkerAnswers} (active : c.active = some a)
    (held : Held a c.snapshot.1) (unlatched : a.fatalError = none) (kind : a.kind = .task)
    (exited : a.threadFinished = true) (own : result.taskId = a.taskId)
    (careful : calm → ∀ error, kindFault a result worker = some error →
      c.snapshot.1.disconnectDecisionPending = false) :
    Ends (finishTask result worker) c
      (Lands calm (some a.taskId) (kindFault a result worker) c) := by
  have primary : Held { a with primaryResult := some result } c.snapshot.1 :=
    { held with
      primary := by
        rintro _ ⟨⟩
        exact own
      released := fun _ => rfl
      decision := fun pending => by
        obtain ⟨kind, origin, _, exited⟩ := held.decision pending
        exact ⟨kind, origin, rfl, exited⟩ }
  have idle : a.origin = .connected → c.snapshot.1.connectionInfo.isSome = true := by
    intro origin
    rcases held.connection kind with ⟨other, _⟩ | ⟨_, info, _⟩
    · simp [origin] at other
    · exact info
  have valid := c.snapshot.valid
  have clean : a.origin = .connected → c.snapshot.1.cleanupPending = false :=
    fun origin => settled valid (idle origin)
  unfold finishTask
  apply ends_check_bind
  · intro error raised
    simp [active] at raised
  intro present is
  simp only [active, Except.ok.injEq] at is
  subst is
  apply ends_update_bind
  have becomes := Becomes.setActive c (some { a with primaryResult := some result })
  have fault : kindFault a result worker =
      if a.plan.connectionRequirement = .none then
        if result.completionAction ≠ .none ∨ asksForConnection result = true then
          some (makeFatal "INVALID_LOCAL_TASK_DISPOSITION" (some a.taskId))
        else none
      else if result.hasDisposition .askDisconnect = true then none
      else if result.completionAction = .releaseConnection then generationFault a.taskId worker
      else none := by
    simp only [kindFault, kind]
  rw [fault] at careful ⊢
  by_cases lone : a.plan.connectionRequirement = .none
  · simp only [lone, if_true] at careful ⊢
    by_cases wrong : result.completionAction ≠ .none ∨ asksForConnection result = true
    · simp only [wrong, if_true] at careful ⊢
      have lands := (@fatal_held calm _ _ "INVALID_LOCAL_TASK_DISPOSITION")
        becomes.active primary unlatched fun h => careful h _ rfl
      apply lands.mono
      intro answer c' lands
      exact lands.after becomes
    · simp only [wrong, if_false]
      apply complete_lands becomes rfl primary.task primary.valid own
      · rcases held.connection kind with ⟨origin, _, info, target, suspect⟩ | ⟨origin, info, _⟩
        · exact valid_disconnected origin info target suspect rfl
        · exact valid_connected origin info valid.target (clean origin) rfl
      · rfl
  · have origin : a.origin = .connected := by
      rcases held.connection kind with ⟨_, none, _⟩ | ⟨origin, _⟩
      · exact absurd none lone
      · exact origin
    simp only [lone, if_false] at careful ⊢
    by_cases asks : result.hasDisposition .askDisconnect = true
    · simp only [asks, if_true] at careful ⊢
      apply ends_setTaskState
      · exact TaskState.valid_of_result held.valid.plan rfl rfl (own.trans held.task.symm)
      apply ends_setSnapshot
      · exact {
          inactive := by simp
          disconnected := by simp
          connected := by simp
          target := valid.target
          cleanup := valid.cleanup
          error := by simp
          decision := fun _ => ⟨rfl, rfl, by simp [held.named]⟩ }
      intro c₁ published
      apply (emit_ends rfl).mono
      rintro answer c' ⟨rfl, emitted⟩
      have waits := ((Becomes.setActive c _).trans published).trans emitted
      simp only [published.active, published.snapshot, List.append_nil] at waits
      refine lands_active waits rfl ?_ ?_
      · exact { primary with
          connected := by simp
          disconnected := by simp
          valid := TaskState.valid_of_result held.valid.plan rfl rfl (own.trans held.task.symm)
          connection := fun _ => .inr ⟨origin, idle origin, by
            rcases held.connection kind with ⟨other, _⟩ | ⟨_, _, target⟩
            · simp [origin] at other
            · exact target⟩
          decision := fun _ => ⟨kind, origin, rfl, exited⟩
          choices := fun _ => rfl
          retry := by simp }
      · intro h error latched
        simp [unlatched] at latched
    · simp only [asks, Bool.false_eq_true, if_false] at careful ⊢
      by_cases release : result.completionAction = .releaseConnection
      · simp only [release, if_true] at careful ⊢
        have lands := (@beginInternalDisconnect_lands calm _ _ worker) becomes.active
          primary (fun _ => unlatched) rfl
        apply lands.mono
        intro answer c' lands
        exact lands.after becomes
      · simp only [release, if_false]
        split
        · apply complete_lands becomes rfl primary.task primary.valid own
          · exact valid_disconnected rfl rfl rfl rfl rfl
          · rfl
        · apply complete_lands becomes rfl primary.task primary.valid own
          · exact valid_connected rfl (idle origin) valid.target (clean origin) rfl
          · rfl

/-- The end of `_maybe_finish`, by what the task is doing. -/
theorem finishKind_lands {worker : WorkerAnswers} (active : c.active = some a)
    (held : Held a c.snapshot.1) (unlatched : a.fatalError = none) (exited : a.threadFinished = true)
    (own : result.taskId = a.taskId)
    (careful : calm → ∀ error, kindFault a result worker = some error →
      c.snapshot.1.disconnectDecisionPending = false) :
    Ends (finishKind a.kind result worker) c
      (Lands calm (some a.taskId) (kindFault a result worker) c) := by
  cases kind : a.kind with
  | connect => exact finishConnect_lands active held unlatched kind own worker
  | task => exact finishTask_lands active held unlatched kind exited own careful
  | disconnect => exact finishDisconnect_lands active held unlatched (.inl kind) own worker
  | shutdown => exact finishShutdown_lands active held unlatched kind exited own worker
  | internalDisconnect => exact finishDisconnect_lands active held unlatched (.inr kind) own worker

/-- A result waits for the exit of its worker. -/
theorem maybeFinish_waits {worker : WorkerAnswers} (active : c.active = some a)
    (running : a.threadFinished = false) :
    Ends (maybeFinish worker) c fun answer c' => answer = .ok () ∧ c' = c := by
  unfold maybeFinish
  apply ends_read_bind
  simp only [active, running, or_true, if_true]
  exact ends_pure ⟨rfl, rfl⟩

/-- `_maybe_finish` once the worker has exited and its result has come. -/
theorem maybeFinish_lands {worker : WorkerAnswers} (active : c.active = some a)
    (held : Held a c.snapshot.1) (unlatched : a.fatalError = none)
    (received : a.resultReceived = true) (exited : a.threadFinished = true)
    (present : a.result = some result)
    (careful : calm → ∀ error, resultFault a result worker = some error →
      c.snapshot.1.disconnectDecisionPending = false) :
    Ends (maybeFinish worker) c (Lands calm (some a.taskId) (resultFault a result worker) c) := by
  have own := held.result result present
  unfold maybeFinish
  apply ends_read_bind
  simp only [active, received, exited, reduceCtorEq, or_self, if_false, present]
  unfold finishResult
  unfold resultFault at careful ⊢
  by_cases incomplete : result.status.isSuccess = true ∧ stepsComplete a = false
  · simp only [incomplete, and_self, if_true] at careful ⊢
    exact fatal_held active held unlatched fun h => careful h _ rfl
  · simp only [incomplete, if_false] at careful ⊢
    cases isFatal : fatalErrorOf result with
    | some error =>
      simp only [isFatal] at careful ⊢
      obtain ⟨is, fatal⟩ := Option.filter_eq_some_iff.1 isFatal
      have failed : result.status = .failed := result.failed_iff.2 (by simp [is])
      have matching : Matches error a := by
        rw [Matches, ← own]
        exact result.error_task error is
      apply ends_update_bind
      have becomes := Becomes.setActive c (some { a with fatalResult := some result })
      have kept : Held { a with fatalResult := some result } c.snapshot.1 :=
        { held with
          fatalResult := by
            rintro _ ⟨⟩
            exact failed }
      have lands := enterFatal_held becomes.active kept (by simpa using fatal) unlatched
        fun h => ⟨careful h _ rfl, matching⟩
      apply lands.mono
      intro answer c' lands
      exact lands.after becomes
    | none =>
      simp only [isFatal] at careful ⊢
      exact finishKind_lands active held unlatched exited own careful

end

end BootUpgrade.GuiController

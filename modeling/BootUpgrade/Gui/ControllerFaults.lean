import BootUpgrade.Gui.ControllerResults

/-!
# One event of the controller

`fatalEvent` says which events are fatal, and with which error. Each event keeps the
books of the controller (`Tracked`); when it is a calm one it does not raise, and what is
fatal lands in the error state.
-/

namespace BootUpgrade.GuiController

open Procedure

/-! ## Fatal events -/

/-- The active task has a fatal error already. -/
def latched (c : GuiController) : Bool := c.active.any (·.fatalError.isSome)

/-- `_make_fatal` for the active task. -/
def ownFault (c : GuiController) (code : String) : GuiRuntimeError :=
  makeFatal code (c.active.map (·.taskId))

def progressFault (c : GuiController) (message : Option WorkerProgressMessage) :
    Option GuiRuntimeError :=
  match message with
  | none => some (ownFault c "INVALID_WORKER_MESSAGE_TYPE")
  | some message =>
    match c.active.filter (·.taskId = message.taskId) with
    | none => some (ownFault c "UNKNOWN_WORKER_TASK")
    | some a =>
      if message.executionGeneration < a.generation then none
      else if message.executionGeneration ≠ a.generation ∨ a.resultReceived = true then
        some (ownFault c "PROGRESS_AFTER_RESULT")
      else
        match (applyProgress message.update c).1 with
        | .ok () => none
        | .error _ => some (ownFault c "INVALID_TASK_PROGRESS")

def messageFault (c : GuiController) (message : Option WorkerResultMessage) (worker : WorkerAnswers) :
    Option GuiRuntimeError :=
  match message with
  | none => some (ownFault c "INVALID_WORKER_MESSAGE_TYPE")
  | some message =>
    match c.active.filter (·.taskId = message.taskId) with
    | none => some (ownFault c "UNKNOWN_WORKER_TASK")
    | some a =>
      if message.executionGeneration < a.generation then none
      else if message.executionGeneration ≠ a.generation ∨ a.resultReceived = true then
        some (ownFault c "DUPLICATE_WORKER_RESULT")
      else
        match message.result.filter (·.taskId = a.taskId) with
        | none => some (ownFault c "INVALID_WORKER_RESULT")
        | some result => if a.threadFinished then resultFault a result worker else none

def exitFault (c : GuiController) (generation : Int) (worker : WorkerAnswers) :
    Option GuiRuntimeError :=
  match c.active with
  | none => none
  | some a =>
    if generation < a.generation then none
    else if generation ≠ a.generation then some (ownFault c "INVALID_WORKER_GENERATION")
    else if a.resultReceived = false then some (ownFault c "WORKER_EXITED_WITHOUT_RESULT")
    else a.result.bind fun result => resultFault a result worker

/-- The fault of an admitted request. -/
def startFault (taskId : TaskId) (answer : PlanAnswer) (worker : WorkerAnswers) :
    Option GuiRuntimeError :=
  match validPlan taskId answer with
  | none => some (makeFatal "INVALID_TASK_PLAN" (some taskId))
  | some _ => generationFault taskId worker

def requestFault (c : GuiController) : ControllerEvent → Option GuiRuntimeError
  | .requestConnect createPlan worker =>
    if c.snapshot.1.state = .disconnected then
      startFault c.nextTaskId (createPlan c.nextTaskId) worker
    else none
  | .requestTask createPlan worker =>
    match validPlan c.nextTaskId (createPlan c.nextTaskId) with
    | none => some (makeFatal "INVALID_TASK_PLAN" (some c.nextTaskId))
    | some plan =>
      if (plan.connectionRequirement = .connected ∧ c.snapshot.1.state ≠ .connected) ∨
          (c.snapshot.1.state ≠ .disconnected ∧ c.snapshot.1.state ≠ .connected) then none
      else generationFault c.nextTaskId worker
  | .requestDisconnect createPlan worker =>
    if c.snapshot.1.state = .connected then
      startFault c.nextTaskId (createPlan c.nextTaskId) worker
    else none
  | .requestApplicationClose worker =>
    if (c.snapshot.1.state = .disconnected ∧ c.snapshot.1.cleanupPending = false) ∨
        (c.snapshot.1.state ≠ .disconnected ∧ c.snapshot.1.state ≠ .connected ∧
          c.snapshot.1.state ≠ .error) then none
    else generationFault c.nextTaskId worker
  | _ => none

/-- The fault of an action that starts a worker. -/
def actionFault (c : GuiController) (taskId : TaskId) (action : TaskDialogAction)
    (worker : WorkerAnswers) : Option GuiRuntimeError :=
  match c.active.filter (·.taskId = taskId) with
  | none => none
  | some a =>
    if action ∈ a.actions ∨ action ∉ a.state.availableActions then none
    else if action = .disconnect ∨ action = .retryCleanup then generationFault taskId worker
    else none

/-- The error of a fatal event: a malformed, unexpected or duplicate message, an exit
without a result, an invalid result, a call in the wrong thread, an invalid plan or a
worker that cannot be started. Once a task has a fatal error no other one counts. -/
def fatalEvent (c : GuiController) (event : ControllerEvent) : Option GuiRuntimeError :=
  if latched c then none
  else
    match event with
    | .progress message => progressFault c message
    | .result message worker => messageFault c message worker
    | .threadFinished generation worker => exitFault c generation worker
    | .wrongThread taskId => some (wrongThread taskId)
    | .requestCancel _ => none
    | .respondTaskAction taskId action worker => actionFault c taskId action worker
    | request => if c.active.isSome then none else requestFault c request

def answersDecision : ControllerEvent → Bool
  | .respondTaskAction .. => true
  | _ => false

/-- An event that is not fatal while a decision is pending, nor for another task than the
active one. An answer to the decision comes after it. -/
def Calm (c : GuiController) (event : ControllerEvent) : Prop :=
  answersDecision event = true ∨ ∀ error ∈ fatalEvent c event,
    c.snapshot.1.disconnectDecisionPending = false ∧ ∀ a ∈ c.active, Matches error a

instance (c : GuiController) (event : ControllerEvent) : Decidable (Calm c event) :=
  inferInstanceAs (Decidable (_ ∨ _))

/-! ## The books -/

/-- What is true between two events. -/
structure Tracked (c : GuiController) : Prop where
  held : ∀ a, c.active = some a → Held a c.snapshot.1
  unnamed : c.active = none → c.snapshot.1.activeTaskId = none
  fresh : ∀ a, c.active = some a → a.taskId < c.nextTaskId ∧ a.taskId ∉ finishedIds c
  issued : ∀ taskId ∈ finishedIds c, taskId < c.nextTaskId
  once : (finishedIds c).Nodup

/-- The task is active or its result has been reported. -/
def Accounted (c : GuiController) (taskId : TaskId) : Prop :=
  c.active.map (·.taskId) = some taskId ∨ taskId ∈ finishedIds c

/-- What an event does to the books. -/
structure Handled (calm : Prop) (fault : Option GuiRuntimeError) (c : GuiController)
    (result : Except String ControllerAnswer) (c' : GuiController) : Prop where
  tracked : Tracked c'
  kept : ∀ taskId, Accounted c taskId → Accounted c' taskId
  accepted : ∀ answer taskId, result = .ok answer → answer.acceptedId = some taskId →
    Accounted c' taskId
  quiet : calm → ∃ answer, result = .ok answer
  steady : calm → ∀ a, c'.active = some a → Steady a c'.snapshot.1
  landed : calm → ∀ error, fault = some error → Landed error c c'

section
variable {calm : Prop} {owner : Option TaskId} {c c' : GuiController}

theorem Becomes.finishedIds {active : Option ActiveTask} {s : SnapshotFields}
    {news : List TaskExecutionResult} (becomes : Becomes c c' active s news) :
    finishedIds c' = finishedIds c ++ news.map (·.taskId) := by
  simp [GuiController.finishedIds, becomes.finished]

/-- The task that an event is about stays accounted for, and nothing else changes. -/
theorem Effect.tracked (effect : Effect calm owner c c') (issued : ∀ id ∈ finishedIds c, id < c.nextTaskId)
    (once : (finishedIds c).Nodup)
    (fresh : ∀ id, owner = some id → id < c.nextTaskId ∧ id ∉ finishedIds c) :
    Tracked c' ∧ (∀ id, owner = some id ∨ id ∈ finishedIds c → Accounted c' id) ∧
      (calm → ∀ a, c'.active = some a → Steady a c'.snapshot.1) := by
  cases effect with
  | @active a s becomes held steady same =>
    have ids := becomes.finishedIds
    simp only [List.map_nil, List.append_nil] at ids
    refine ⟨⟨?_, ?_, ?_, ?_, ?_⟩, ?_, ?_⟩
    · intro a' active
      rw [becomes.active] at active
      cases active
      rw [becomes.snapshot]
      exact held
    · intro active
      rw [becomes.active] at active
      cases active
    · intro a' active
      rw [becomes.active] at active
      cases active
      rw [becomes.next, ids]
      exact fresh _ same
    · rw [becomes.next, ids]
      exact issued
    · rw [ids]
      exact once
    · rintro id (is | reported)
      · left
        rw [becomes.active, ← is, same]
        rfl
      · right
        rw [ids]
        exact reported
    · intro h a' active
      rw [becomes.active] at active
      cases active
      rw [becomes.snapshot]
      exact steady h
  | @finished result s becomes unnamed same =>
    have ids := becomes.finishedIds
    simp only [List.map_cons, List.map_nil] at ids
    obtain ⟨known, new⟩ := fresh _ same
    refine ⟨⟨?_, ?_, ?_, ?_, ?_⟩, ?_, ?_⟩
    · simp [becomes.active]
    · intro _
      rw [becomes.snapshot]
      exact unnamed
    · simp [becomes.active]
    · rw [becomes.next, ids]
      intro id reported
      rcases List.mem_append.1 reported with old | last
      · exact issued id old
      · rw [List.mem_singleton.1 last]
        exact known
    · rw [ids]
      apply List.nodup_append.2
      refine ⟨once, by simp, ?_⟩
      rintro id old _ last rfl
      exact new (List.mem_singleton.1 last ▸ old)
    · rintro id (is | reported)
      · right
        rw [is] at same
        cases same
        simp [ids]
      · right
        simp [ids, reported]
    · simp [becomes.active]
  | @idle s becomes unnamed nobody =>
    have ids := becomes.finishedIds
    simp only [List.map_nil, List.append_nil] at ids
    refine ⟨⟨?_, ?_, ?_, ?_, ?_⟩, ?_, ?_⟩
    · simp [becomes.active]
    · intro _
      rw [becomes.snapshot]
      exact unnamed
    · simp [becomes.active]
    · rw [becomes.next, ids]
      exact issued
    · rw [ids]
      exact once
    · rintro id (is | reported)
      · simp [nobody] at is
      · right
        rw [ids]
        exact reported
    · simp [becomes.active]

theorem Tracked.own (tracked : Tracked c) :
    ∀ id, c.active.map (·.taskId) = some id → id < c.nextTaskId ∧ id ∉ finishedIds c := by
  intro id is
  obtain ⟨a, active, rfl⟩ := Option.map_eq_some_iff.1 is
  exact tracked.fresh a active

/-- An event of the active task, or one without a task. -/
theorem Lands.handled {α : Type} {fault : Option GuiRuntimeError} {result : Except String α}
    {answer : Except String ControllerAnswer} (tracked : Tracked c)
    (lands : Lands calm (c.active.map (·.taskId)) fault c result c')
    (accepted : ∀ value, answer = .ok value → value.acceptedId = none)
    (quiet : ∀ value, result = .ok value → ∃ value, answer = .ok value) :
    Handled calm fault c answer c' := by
  obtain ⟨tracked', accounted, steady⟩ := lands.effect.tracked tracked.issued tracked.once tracked.own
  refine ⟨tracked', accounted, ?_, ?_, steady, lands.landed⟩
  · intro value id is own
    rw [accepted value is] at own
    cases own
  · intro h
    obtain ⟨value, is⟩ := lands.quiet h
    exact quiet value is

/-! ## Messages of the worker -/

/-- The fault that counts. -/
def counted (c : GuiController) (fault : Option GuiRuntimeError) : Option GuiRuntimeError :=
  if latched c then none else fault

theorem counted_unlatched {a : ActiveTask} {fault : Option GuiRuntimeError}
    (active : c.active = some a) (unlatched : a.fatalError = none) : counted c fault = fault := by
  simp [counted, latched, active, unlatched]

theorem counted_none : counted c none = none := by
  simp [counted]

theorem counted_latched {a : ActiveTask} {fault : Option GuiRuntimeError}
    (active : c.active = some a) (isSome : a.fatalError.isSome = true) : counted c fault = none := by
  simp [counted, latched, active, isSome]

/-- `_fatal`, whoever is active. -/
theorem fatal_lands {code : String} (tracked : Tracked c)
    (steady : calm → ∀ a, c.active = some a → Steady a c.snapshot.1)
    (ready : calm → counted c (some (ownFault c code)) ≠ none →
      c.snapshot.1.disconnectDecisionPending = false) :
    Ends (fatal code) c
      (Lands calm (c.active.map (·.taskId)) (counted c (some (ownFault c code))) c) := by
  cases active : c.active with
  | none =>
    have fault : counted c (some (ownFault c code)) = some (makeFatal code none) := by
      simp [counted, latched, active, ownFault]
    rw [fault]
    unfold fatal
    apply ends_read_bind
    rw [active]
    exact enterFatal_idle active (tracked.unnamed active) rfl
  | some a =>
    have held := tracked.held a active
    cases unlatched : a.fatalError with
    | none =>
      rw [counted_unlatched active unlatched] at ready ⊢
      rw [ownFault, active]
      exact fatal_held active held unlatched fun h => ready h (by simp)
    | some error =>
      rw [counted_latched active (by simp [unlatched])]
      unfold fatal
      apply ends_read_bind
      apply (enterFatal_latched active (by simp [unlatched])).mono
      rintro answer c' ⟨rfl, rfl⟩
      exact lands_active (.same active) rfl held fun h => steady h a active

/-- The task at another point of its steps. -/
def Stepped (a a' : ActiveTask) : Prop :=
  ∃ index started complete current total mode stage, a' = { a with
    stepIndex := index
    stepStarted := started
    stepComplete := complete
    stepCurrent := current
    stepTotal := total
    stepMode := mode
    stepStage := stage }

theorem Stepped.refl (a : ActiveTask) : Stepped a a := ⟨_, _, _, _, _, _, _, rfl⟩

theorem Stepped.trans {a₁ a₂ a₃ : ActiveTask} (first : Stepped a₁ a₂) (second : Stepped a₂ a₃) :
    Stepped a₁ a₃ := by
  obtain ⟨_, _, _, _, _, _, _, rfl⟩ := first
  obtain ⟨_, _, _, _, _, _, _, rfl⟩ := second
  exact ⟨_, _, _, _, _, _, _, rfl⟩

theorem Held.stepped {a a' : ActiveTask} {s : SnapshotFields} (held : Held a s)
    (stepped : Stepped a a') : Held a' s := by
  obtain ⟨_, _, _, _, _, _, _, rfl⟩ := stepped
  exact { held with }

theorem validateProgressValue_stepped {a a' : ActiveTask} {u : TaskProgressUpdate}
    (passed : validateProgressValue a u = .ok a') : Stepped a a' := by
  unfold validateProgressValue at passed
  extract_lets changed mode current total at passed
  clear_value mode current total
  split at passed
  · split at passed
    · cases passed
    · cases passed
      exact ⟨_, _, _, _, _, _, _, rfl⟩
  · split at passed
    · split at passed
      · cases passed
      split at passed
      · cases passed
      cases passed
      exact ⟨_, _, _, _, _, _, _, rfl⟩
    · cases passed

theorem nextStep_stepped (a : ActiveTask) : Stepped a (nextStep a) := ⟨_, _, _, _, _, _, _, rfl⟩

/-- Wherever the checks of an update stop, the task is still the same. -/
theorem advanceStep_ends {a : ActiveTask} {u : TaskProgressUpdate} (active : c.active = some a) :
    Ends (advanceStep a u) c fun answer c' =>
      (∃ a', Stepped a a' ∧ Becomes c c' (some a') c.snapshot.1 []) ∧
      ∀ a', answer = .ok a' → Stepped a a' := by
  have stays : ∀ (message : String), Ends (raise message : ControllerProcedure ActiveTask) c
      fun answer c' => (∃ a', Stepped a a' ∧ Becomes c c' (some a') c.snapshot.1 []) ∧
        ∀ a', answer = .ok a' → Stepped a a' := by
    intro message
    apply ends_raise
    refine ⟨⟨a, .refl a, .same active⟩, ?_⟩
    rintro _ ⟨⟩
  unfold advanceStep
  split
  · split
    · exact stays _
    · apply ends_update_bind
      apply ends_check
      refine ⟨⟨nextStep a, nextStep_stepped a, .setActive c _⟩, ?_⟩
      intro a' passed
      exact (nextStep_stepped a).trans (validateProgressValue_stepped passed)
  · split
    · apply ends_check
      exact ⟨⟨a, .refl a, .same active⟩, fun a' passed => validateProgressValue_stepped passed⟩
    · exact stays _
  · split
    · apply ends_check
      refine ⟨⟨a, .refl a, .same active⟩, ?_⟩
      intro a' passed
      cases validated : validateProgressValue a u with
      | error message =>
        rw [validated] at passed
        cases passed
      | ok a₁ =>
        rw [validated] at passed
        cases passed
        exact (validateProgressValue_stepped validated).trans ⟨_, _, _, _, _, _, _, rfl⟩
    · exact stays _

/-- An update moves the active task through its steps, or leaves it somewhere in them. -/
theorem applyProgress_ends {a : ActiveTask} {update : Option TaskProgressUpdate}
    (active : c.active = some a) (held : Held a c.snapshot.1) :
    Ends (applyProgress update) c fun _ c' =>
      ∃ a', Becomes c c' (some a') c.snapshot.1 [] ∧ Held a' c.snapshot.1 ∧
        a'.taskId = a.taskId ∧ a'.fatalError = a.fatalError := by
  unfold applyProgress
  apply ends_check_bind
  · intro error raised
    simp [active] at raised
  intro present is
  simp only [active, Except.ok.injEq] at is
  subst is
  cases valid : update.filter (·.taskId = a.taskId) with
  | none => exact ends_raise ⟨a, .same active, held, rfl, rfl⟩
  | some u =>
    apply ends_bind (advanceStep_ends active)
    · rintro message c' ⟨⟨a', stepped, becomes⟩, _⟩
      refine ⟨a', becomes, held.stepped stepped, ?_⟩
      obtain ⟨_, _, _, _, _, _, _, rfl⟩ := stepped
      exact ⟨rfl, rfl⟩
    · rintro a' c₁ ⟨⟨_, _, becomes⟩, stepped⟩
      have stepped := stepped a' rfl
      have held' := held.stepped stepped
      have same : a'.taskId = a.taskId ∧ a'.fatalError = a.fatalError := by
        obtain ⟨_, _, _, _, _, _, _, rfl⟩ := stepped
        exact ⟨rfl, rfl⟩
      apply ends_setTaskState
      · exact ⟨held'.valid.plan, held'.valid.result, held'.valid.error⟩
      apply ends_emit rfl
      intro c₂ progressed
      apply (emit_ends rfl).mono
      rintro answer c' ⟨_, emitted⟩
      have after := ((becomes.trans (Becomes.setActive c₁ _)).trans progressed).trans emitted
      simp only [progressed.active, progressed.snapshot, becomes.snapshot, List.append_nil] at after
      refine ⟨_, after, ?_, same⟩
      exact { held' with
        valid := ⟨held'.valid.plan, held'.valid.result, held'.valid.error⟩ }

theorem filter_active {a : ActiveTask} {taskId : TaskId}
    (present : c.active.filter (·.taskId = taskId) = some a) :
    c.active = some a ∧ a.taskId = taskId := by
  simpa [Option.filter_eq_some_iff] using present

/-- The slot for progress messages. -/
theorem onProgress_lands {message : Option WorkerProgressMessage} (tracked : Tracked c)
    (steady : calm → ∀ a, c.active = some a → Steady a c.snapshot.1)
    (ready : calm → counted c (progressFault c message) ≠ none →
      c.snapshot.1.disconnectDecisionPending = false) :
    Ends (onProgress message) c
      (Lands calm (c.active.map (·.taskId)) (counted c (progressFault c message)) c) := by
  cases message with
  | none => exact fatal_lands tracked steady ready
  | some message =>
    unfold onProgress withActive
    apply ends_read_bind
    cases present : c.active.filter (·.taskId = message.taskId) with
    | none =>
      simp only [progressFault, present] at ready ⊢
      exact fatal_lands tracked steady ready
    | some a =>
      obtain ⟨active, _⟩ := filter_active present
      have held := tracked.held a active
      simp only [progressFault, present] at ready ⊢
      by_cases older : message.executionGeneration < a.generation
      · simp only [older, if_true, counted_none, active]
        exact ends_pure (lands_active (.same active) rfl held fun h => steady h a active)
      cases unlatched : a.fatalError with
      | some error =>
        rw [counted_latched active (by simp [unlatched])]
        simp only [older, if_false, Option.isSome_some, if_true, active]
        exact ends_pure (lands_active (.same active) rfl held fun h => steady h a active)
      | none =>
        rw [counted_unlatched active unlatched] at ready ⊢
        simp only [older, if_false, Option.isSome_none, Bool.false_eq_true, active, Option.map_some,
          ownFault] at ready ⊢
        by_cases late : message.executionGeneration ≠ a.generation ∨ a.resultReceived = true
        · simp only [late, if_true] at ready ⊢
          exact fatal_held active held unlatched fun h => ready h (by simp)
        · simp only [late, if_false] at ready ⊢
          have applies : Ends (applyProgress message.update) c fun answer c' =>
              (applyProgress message.update c).1 = answer ∧
              ∃ a', Becomes c c' (some a') c.snapshot.1 [] ∧ Held a' c.snapshot.1 ∧
                a'.taskId = a.taskId ∧ a'.fatalError = a.fatalError :=
            ⟨rfl, applyProgress_ends active held⟩
          apply ends_attempt_bind applies
          rintro caught c₁ ⟨is, a', becomes, held', same, fatal⟩
          rw [is] at ready ⊢
          rw [unlatched] at fatal
          cases caught with
          | ok _ =>
            refine ends_pure (lands_active becomes same.symm held' ?_)
            intro _ error latched
            simp [fatal] at latched
          | error message =>
            have decided : calm → c₁.snapshot.1.disconnectDecisionPending = false := by
              intro h
              rw [becomes.snapshot]
              exact ready h (by simp)
            rw [← becomes.snapshot] at held'
            have lands := (@fatal_held calm _ _ "INVALID_TASK_PROGRESS") becomes.active held' fatal decided
            rw [same] at lands
            apply lands.mono
            intro answer c' lands
            exact lands.after becomes

/-- The slot for results. -/
theorem onResult_lands {message : Option WorkerResultMessage} {worker : WorkerAnswers}
    (tracked : Tracked c) (steady : calm → ∀ a, c.active = some a → Steady a c.snapshot.1)
    (ready : calm → counted c (messageFault c message worker) ≠ none →
      c.snapshot.1.disconnectDecisionPending = false) :
    Ends (onResult message worker) c
      (Lands calm (c.active.map (·.taskId)) (counted c (messageFault c message worker)) c) := by
  cases message with
  | none => exact fatal_lands tracked steady ready
  | some message =>
    unfold onResult withActive
    apply ends_read_bind
    cases present : c.active.filter (·.taskId = message.taskId) with
    | none =>
      simp only [messageFault, present] at ready ⊢
      exact fatal_lands tracked steady ready
    | some a =>
      obtain ⟨active, _⟩ := filter_active present
      have held := tracked.held a active
      simp only [messageFault, present] at ready ⊢
      by_cases older : message.executionGeneration < a.generation
      · simp only [older, if_true, counted_none, active]
        exact ends_pure (lands_active (.same active) rfl held fun h => steady h a active)
      by_cases latched : a.fatalError.isSome = true
      · rw [counted_latched active latched]
        simp only [older, if_false, latched, if_true, active]
        exact ends_pure (lands_active (.same active) rfl held fun h => steady h a active)
      · have unlatched : a.fatalError = none := by simpa using latched
        rw [counted_unlatched active unlatched] at ready ⊢
        simp only [older, if_false, latched, active, Option.map_some, ownFault] at ready ⊢
        by_cases late : message.executionGeneration ≠ a.generation ∨ a.resultReceived = true
        · simp only [late, if_true] at ready ⊢
          exact fatal_held active held unlatched fun h => ready h (by simp)
        simp only [late, if_false] at ready ⊢
        cases valid : message.result.filter (·.taskId = a.taskId) with
        | none =>
          simp only [valid] at ready ⊢
          exact fatal_held active held unlatched fun h => ready h (by simp)
        | some result =>
          simp only [valid] at ready ⊢
          have own : result.taskId = a.taskId := by
            simpa using (Option.filter_eq_some_iff.1 valid).2
          have becomes := Becomes.setActive c
            (some { a with result := some result, resultReceived := true })
          have held' : Held { a with result := some result, resultReceived := true } c.snapshot.1 :=
            { held with
              result := by
                rintro _ ⟨⟩
                exact own
              received := fun _ => rfl }
          apply ends_update_bind
          by_cases exited : a.threadFinished = true
          · rw [if_pos exited] at ready ⊢
            have lands := maybeFinish_lands becomes.active held' unlatched rfl exited
              rfl fun h error is => ready h (fun none => by
                rw [show resultFault a result worker = some error from is] at none
                cases none)
            apply lands.mono
            intro answer c' lands
            exact lands.after becomes
          · rw [if_neg exited]
            have running : a.threadFinished = false := by simpa using exited
            apply (maybeFinish_waits becomes.active running).mono
            rintro answer c' ⟨rfl, rfl⟩
            refine lands_active becomes rfl held' ?_
            intro h error latched
            simp [unlatched] at latched

/-- The slot for the exit of a worker's thread. -/
theorem onThreadFinished_lands {generation : Int} {worker : WorkerAnswers} (tracked : Tracked c)
    (steady : calm → ∀ a, c.active = some a → Steady a c.snapshot.1)
    (ready : calm → counted c (exitFault c generation worker) ≠ none →
      c.snapshot.1.disconnectDecisionPending = false)
    (undecided : ∀ a, c.active = some a → generation = a.generation → a.fatalError.isSome = true →
      c.snapshot.1.disconnectDecisionPending = false) :
    Ends (onThreadFinished generation worker) c
      (Lands calm (c.active.map (·.taskId)) (counted c (exitFault c generation worker)) c) := by
  unfold onThreadFinished
  apply ends_read_bind
  cases active : c.active with
  | none =>
    simp only [exitFault, active, counted_none]
    exact ends_pure {
      effect := .idle (.same active) (tracked.unnamed active) rfl
      quiet := fun _ => ⟨(), rfl⟩
      landed := by rintro _ _ ⟨⟩ }
  | some a =>
    have held := tracked.held a active
    have undecided := undecided a active
    simp only [exitFault, active] at ready ⊢
    by_cases older : generation < a.generation
    · simp only [older, if_true, counted_none]
      exact ends_pure (lands_active (.same active) rfl held fun h => steady h a active)
    by_cases same : generation = a.generation
    case neg =>
      simp only [older, if_false, same, ne_eq, not_false_eq_true, if_true] at ready ⊢
      have lands := fatal_lands tracked steady ready
      rw [active] at lands
      exact lands
    simp only [older, if_false] at ready ⊢
    simp only [same, ne_eq, not_true_eq_false, if_false] at ready ⊢
    apply ends_update_bind
    have becomes := Becomes.setActive c (some { a with threadFinished := true, thread := false })
    have held' : Held { a with threadFinished := true, thread := false } c.snapshot.1 :=
      { held with
        decision := fun pending => by
          obtain ⟨kind, origin, primary, _⟩ := held.decision pending
          exact ⟨kind, origin, primary, rfl⟩
        retry := fun offered => ⟨(held.retry offered).1, rfl⟩
        thread := rfl
        started := by simp }
    by_cases latched : a.fatalError.isSome = true
    · rw [counted_latched active latched]
      simp only [latched, if_true]
      obtain ⟨error, is⟩ := Option.isSome_iff_exists.1 latched
      apply (finalizeFatal_ends becomes.active held'.task held'.valid.plan held'.fatalResult is rfl
        (held'.fatal error is) (undecided same latched)).mono
      rintro answer c' (⟨rfl, result, own, _, ended⟩ | ⟨mismatch, rfl⟩)
      · have lands := (@lands_finished _ calm _ _ _ _ ()) (becomes.trans ended) rfl
        rw [own] at lands
        exact lands
      · have upset : ¬ calm := fun h => mismatch (steady h a active error is).2.2.1
        exact {
          effect := .active becomes held' (fun h => absurd h upset) rfl
          quiet := fun h => absurd h upset
          landed := fun h => absurd h upset }
    · have unlatched : a.fatalError = none := by simpa using latched
      rw [counted_unlatched active unlatched] at ready ⊢
      rw [if_neg latched]
      by_cases waiting : a.resultReceived = false
      · rw [if_pos waiting] at ready ⊢
        rw [if_pos waiting]
        simp only [ownFault, active, Option.map_some] at ready ⊢
        have lands := (@fatal_held calm _ _ "WORKER_EXITED_WITHOUT_RESULT") becomes.active held' unlatched
          fun h => ready h (by simp)
        apply lands.mono
        intro answer c' lands
        exact lands.after becomes
      · have received : a.resultReceived = true := by simpa using waiting
        rw [if_neg waiting] at ready ⊢
        rw [if_neg waiting]
        obtain ⟨result, present⟩ := Option.isSome_iff_exists.1 (held.received received)
        have fault : (a.result.bind fun result => resultFault a result worker) =
            resultFault a result worker := by
          rw [present]
          rfl
        rw [fault] at ready ⊢
        have lands := maybeFinish_lands becomes.active held' unlatched received rfl
          present fun h error is => ready h (fun none => by
            rw [show resultFault a result worker = some error from is] at none
            cases none)
        apply lands.mono
        intro answer c' lands
        exact lands.after becomes

/-! ## Answers of the user -/

/-- What does nothing. -/
theorem unchanged_lands {α : Type} {value : α} (tracked : Tracked c)
    (steady : calm → ∀ a, c.active = some a → Steady a c.snapshot.1) :
    Lands calm (c.active.map (·.taskId)) none c (.ok value) c := by
  cases active : c.active with
  | none =>
    exact {
      effect := .idle (.same active) (tracked.unnamed active) rfl
      quiet := fun _ => ⟨value, rfl⟩
      landed := by rintro _ _ ⟨⟩ }
  | some a => exact lands_active (.same active) rfl (tracked.held a active) fun h => steady h a active

theorem Lands.fault {α : Type} {fault fault' : Option GuiRuntimeError} {result : Except String α}
    (lands : Lands calm owner fault c result c') (same : calm → fault' = fault) :
    Lands calm owner fault' c result c' where
  effect := lands.effect
  quiet := lands.quiet
  landed := fun h error is => lands.landed h error ((same h).symm.trans is)

theorem ends_map {α β : Type} {fault : Option GuiRuntimeError} {p : ControllerProcedure α}
    {f : α → β} {c₁ : GuiController} (lands : Ends p c₁ (Lands calm owner fault c)) :
    Ends (do return f (← p)) c₁ (Lands calm owner fault c) := by
  apply ends_bind lands
  · intro message c' lands
    refine ⟨lands.effect, fun h => ?_, lands.landed⟩
    obtain ⟨_, ⟨⟩⟩ := lands.quiet h
  · intro value c' lands
    exact ends_pure ⟨lands.effect, fun _ => ⟨_, rfl⟩, lands.landed⟩

theorem requestCancel_lands {taskId : TaskId} (tracked : Tracked c)
    (steady : calm → ∀ a, c.active = some a → Steady a c.snapshot.1) :
    Ends (requestCancel taskId) c (Lands calm (c.active.map (·.taskId)) none c) := by
  unfold requestCancel
  apply ends_read_bind
  split
  · exact ends_pure (unchanged_lands tracked steady)
  · rename_i a present
    obtain ⟨active, _⟩ := filter_active present
    have held := tracked.held a active
    split
    · exact ends_pure (unchanged_lands tracked steady)
    split
    · exact ends_pure (unchanged_lands tracked steady)
    split
    · exact ends_pure (unchanged_lands tracked steady)
    apply ends_setTaskState
    · exact ⟨held.valid.plan, held.valid.result, held.valid.error⟩
    apply ends_emit rfl
    intro c₁ emitted
    have becomes := (Becomes.setActive c _).trans emitted
    rw [active]
    refine ends_pure (lands_active becomes rfl ?_ fun h => steady h a active)
    exact { held with
      valid := ⟨held.valid.plan, held.valid.result, held.valid.error⟩ }

/-- A task that offers to start a worker has no fatal error. -/
theorem offered_unlatched {a : ActiveTask} {s : SnapshotFields} {action : TaskDialogAction}
    (held : Held a s) (valid : s.Valid) (steady : Steady a s)
    (offered : action ∈ a.state.availableActions)
    (starts : action = .disconnect ∨ action = .retryCleanup) : a.fatalError = none := by
  cases fatal : a.fatalError with
  | none => rfl
  | some error =>
    obtain ⟨state, _, _, running⟩ := steady error fatal
    rcases starts with rfl | rfl
    · have busy := (valid.decision (held.choices (.inr offered))).1
      rw [state] at busy
      cases busy
    · have exited := (held.retry offered).2
      simp [running] at exited

/-- An action of the dialog that the task offers. -/
theorem applyAction_lands {a : ActiveTask} {action : TaskDialogAction} {worker : WorkerAnswers}
    (active : c.active = some a) (held : Held a c.snapshot.1) (steady : calm → Steady a c.snapshot.1)
    (offered : action ∈ a.state.availableActions) :
    Ends (applyAction a action worker) c (Lands calm (some a.taskId)
      (if action = .disconnect ∨ action = .retryCleanup then generationFault a.taskId worker else none)
      c) := by
  have valid := c.snapshot.valid
  cases action with
  | keepConnection =>
    obtain ⟨kind, origin, primary, _⟩ := held.decision (held.choices (.inl offered))
    obtain ⟨result, present⟩ := Option.isSome_iff_exists.1 primary
    have info : c.snapshot.1.connectionInfo.isSome = true := by
      rcases held.connection kind with ⟨other, _⟩ | ⟨_, info, _⟩
      · simp [origin] at other
      · exact info
    have clean := settled valid info
    simp only [applyAction, present]
    apply complete_lands (.same active) rfl held.task held.valid (held.primary result present)
    · exact valid_connected rfl info valid.target clean rfl
    · rfl
  | disconnect =>
    have pending := held.choices (.inr offered)
    exact beginInternalDisconnect_lands active held
      (fun h => offered_unlatched held valid (steady h) offered (.inl rfl)) (held.decision pending).2.2.1
  | retryCleanup =>
    obtain ⟨decided, _⟩ := held.retry offered
    have unlatched : calm → a.fatalError = none :=
      fun h => offered_unlatched held valid (steady h) offered (.inr rfl)
    simp only [applyAction]
    apply ends_setTaskState
    · exact ⟨rfl, by rintro _ ⟨⟩, by rintro _ ⟨⟩⟩
    apply ends_emit rfl
    intro c₁ emitted
    have becomes := (Becomes.setActive c _).trans emitted
    have lands := (@runGeneration_lands calm _ _ worker) becomes.active (Held.discarded (by
      rw [becomes.snapshot]
      exact { held with
        task := rfl
        valid := ⟨rfl, by rintro _ ⟨⟩, by rintro _ ⟨⟩⟩
        released := by simp
        connection := by simp
        decision := by simp [decided]
        choices := by simp [TaskState.new]
        retry := by simp [TaskState.new] })) rfl (by rw [becomes.snapshot]; exact decided) unlatched
    apply lands.mono
    rintro answer c' ⟨_, lands⟩
    exact lands.after becomes
  | forceExit =>
    apply (emit_ends rfl).mono
    rintro answer c' ⟨rfl, emitted⟩
    rw [active] at emitted
    exact lands_active emitted rfl held steady

theorem respondTaskAction_lands {taskId : TaskId} {action : TaskDialogAction} {worker : WorkerAnswers}
    (tracked : Tracked c) (steady : calm → ∀ a, c.active = some a → Steady a c.snapshot.1) :
    Ends (respondTaskAction taskId action worker) c
      (Lands calm (c.active.map (·.taskId)) (counted c (actionFault c taskId action worker)) c) := by
  unfold respondTaskAction actionFault
  apply ends_read_bind
  cases present : c.active.filter (·.taskId = taskId) with
  | none =>
    simp only [counted_none]
    exact ends_pure (unchanged_lands tracked steady)
  | some a =>
    obtain ⟨active, rfl⟩ := filter_active present
    have held := tracked.held a active
    dsimp only
    by_cases already : action ∈ a.actions
    · simp only [already, if_true, true_or, counted_none]
      exact ends_pure (unchanged_lands tracked steady)
    by_cases offered : action ∈ a.state.availableActions
    case neg =>
      simp only [already, offered, not_false_eq_true, if_false, if_true, or_true, counted_none]
      exact ends_pure (unchanged_lands tracked steady)
    have becomes := Becomes.setActive c (some { a with actions := action :: a.actions })
    have held' : Held { a with actions := action :: a.actions } c.snapshot.1 := { held with }
    simp only [already, offered, not_true_eq_false, if_false, or_self]
    apply ends_update_bind
    apply ends_map
    have lands := (@applyAction_lands calm _ _ _ worker) becomes.active held'
      (fun h => steady h a active) offered
    apply lands.mono
    intro answer c' lands
    have lands := lands.after becomes
    rw [active]
    apply lands.fault
    intro h
    by_cases starts : action = .disconnect ∨ action = .retryCleanup
    · exact counted_unlatched active
        (offered_unlatched held c.snapshot.valid (steady h a active) offered starts)
    · simp only [starts, if_false, counted_none]

/-! ## Requests -/

/-- What comes of a request: its task, if there is one, is that of an accepted request. -/
def Admits {α : Type} (acceptedId : α → Option TaskId) (calm : Prop) (taskId : TaskId)
    (fault : Option GuiRuntimeError) (c : GuiController) (result : Except String α)
    (c' : GuiController) : Prop :=
  ∃ owner, Lands calm owner fault c result c' ∧ (owner = none ∨ owner = some taskId) ∧
    ∀ value id, result = .ok value → acceptedId value = some id → owner = some id

/-- The states in which a task of a kind runs. -/
inductive Starts (s : SnapshotFields) (plan : TaskPlan) : TaskKind → RuntimeState → Prop where
  | connect (state : s.state = .disconnected) : Starts s plan .connect .connecting
  | task (state : s.state = .connected ∨
      s.state = .disconnected ∧ plan.connectionRequirement = .none) : Starts s plan .task .busy
  | disconnect : Starts s plan .disconnect .disconnecting
  | shutdown : Starts s plan .shutdown .disconnecting

theorem Starts.valid {s : SnapshotFields} {plan : TaskPlan} {kind : TaskKind} {state : RuntimeState}
    {activeTaskId : Option TaskId} (starts : Starts s plan kind state) (valid : s.Valid) :
    ({ s with state, activeTaskId, disconnectDecisionPending := false } : SnapshotFields).Valid where
  inactive := by
    cases starts with
    | connect state => exact fun _ => valid.inactive (.inl state)
    | _ => simp
  disconnected := by cases starts <;> simp
  connected := by cases starts <;> simp
  target := valid.target
  cleanup := valid.cleanup
  error := by cases starts <;> simp
  decision := by simp

/-- The task of a request that has been admitted. -/
theorem Starts.held {s : SnapshotFields} {plan : TaskPlan} {kind : TaskKind} {state : RuntimeState}
    {taskId : TaskId} {a : ActiveTask} {origin : RuntimeState} {task : TaskState}
    (starts : Starts s plan kind state) (valid : s.Valid) (own : plan.taskId = taskId)
    (isOrigin : origin = s.state) (isTask : task = .new taskId plan .pending .none)
    (is : a = { reset (newActive taskId plan kind origin task) with thread := true }) :
    Held (discarded a)
      { s with state, activeTaskId := some taskId, disconnectDecisionPending := false } := by
  subst is isTask isOrigin
  exact {
    named := rfl
    connected := by cases starts <;> simp
    disconnected := by cases starts <;> simp
    task := rfl
    valid := ⟨own, by rintro _ ⟨⟩, by rintro _ ⟨⟩⟩
    result := by rintro _ ⟨⟩
    received := by rintro ⟨⟩
    primary := by rintro _ ⟨⟩
    released := by cases starts <;> rintro ⟨⟩
    connection := by
      cases starts with
      | task connected =>
        intro _
        rcases connected with connected | ⟨idle, lone⟩
        · exact .inr ⟨connected, valid.connected connected⟩
        · obtain ⟨info, target⟩ := valid.inactive (.inl idle)
          exact .inl ⟨idle, lone, info, target, (valid.disconnected idle).1⟩
      | _ => rintro ⟨⟩
    decision := by simp
    choices := by simp [discarded, reset, newActive, TaskState.new]
    retry := by simp [discarded, reset, newActive, TaskState.new]
    thread := rfl
    started := by rintro ⟨⟩
    fatal := by rintro _ ⟨⟩
    fatalResult := by rintro _ ⟨⟩ }

theorem startTask_admits {taskId : TaskId} {plan : TaskPlan} {kind : TaskKind} {state : RuntimeState}
    {worker : WorkerAnswers} (active : c.active = none) (unnamed : c.snapshot.1.activeTaskId = none)
    (own : plan.taskId = taskId) (starts : Starts c.snapshot.1 plan kind state) :
    Ends (startTask taskId plan kind state worker) c
      (Admits RequestAdmission.acceptedId calm taskId (generationFault taskId worker) c) := by
  have passes : (TaskState.new taskId plan .pending .none).Valid :=
    ⟨own, by rintro _ ⟨⟩, by rintro _ ⟨⟩⟩
  unfold startTask
  simp only [TaskState.check_valid passes]
  apply ends_read_bind
  apply ends_update_bind
  apply ends_attempt_bind (prepareGeneration_ends rfl)
  intro caught c₁ is
  cases prepared : worker.prepared with
  | false =>
    simp only [prepared, Bool.false_eq_true, if_false] at is
    obtain ⟨⟨message, rfl⟩, rfl⟩ := is
    apply ends_update_bind
    apply ends_update_bind
    have lands : Ends (enterFatal (makeFatal "WORKER_STARTUP_FAILED" (some taskId)))
        { c with active := none } (Lands calm none _ _) := enterFatal_idle rfl unnamed rfl
    unfold fatalAdmission
    apply ends_bind lands
    · intro message c' lands
      refine ⟨none, ?_, .inl rfl, by rintro _ _ ⟨⟩⟩
      have lands := lands.after (Becomes.setActive c none)
      rw [generationFault, if_pos prepared]
      refine ⟨lands.effect, fun h => ?_, lands.landed⟩
      obtain ⟨_, ⟨⟩⟩ := lands.quiet h
    · intro _ c' lands
      refine ends_pure ⟨none, ?_, .inl rfl, by rintro _ _ ⟨⟩ ⟨⟩⟩
      have lands := lands.after (Becomes.setActive c none)
      rw [generationFault, if_pos prepared]
      exact ⟨lands.effect, fun _ => ⟨_, rfl⟩, lands.landed⟩
  | true =>
    simp only [prepared, if_true] at is
    obtain ⟨rfl, rfl⟩ := is
    apply ends_setSnapshot
    · exact starts.valid c.snapshot.valid
    intro c₂ published
    apply ends_emit rfl
    intro c₃ emitted
    have becomes := ((Becomes.setActive c _).trans published).trans emitted
    simp only [published.active, published.snapshot, List.append_nil] at becomes
    have held := starts.held c.snapshot.valid own rfl rfl rfl
    rw [← becomes.snapshot] at held
    have lands := (@submitGeneration_lands calm _ _ worker.started) becomes.active rfl
      rfl held rfl (by rw [becomes.snapshot]) fun _ => rfl
    have fault : generationFault taskId worker =
        if worker.started then none else some (makeFatal "QTHREAD_START_FAILED" (some taskId)) := by
      cases started : worker.started <;> simp [generationFault, prepared, started]
    apply ends_bind lands
    · rintro message c' ⟨⟨⟩, _⟩
    · rintro _ c' ⟨_, lands⟩
      refine ends_pure ⟨some taskId, ?_, .inr rfl, ?_⟩
      · have lands := lands.after becomes
        rw [fault]
        exact ⟨lands.effect, fun _ => ⟨_, rfl⟩, lands.landed⟩
      · rintro _ _ ⟨⟩ ⟨⟩
        rfl

/-- The controller once the identifier of a new task has been made. -/
def numbered (c : GuiController) : GuiController := { c with nextTaskId := c.nextTaskId + 1 }

theorem ends_newTaskId {β : Type} {f : TaskId → ControllerProcedure β}
    {post : Except String β → GuiController → Prop}
    (rest : Ends (f c.nextTaskId) (numbered c) post) : Ends (newTaskId >>= f) c post := rest

/-- A fault of a request, without a task. -/
theorem fatalAdmission_admits {code : String} {taskId : TaskId} (active : c.active = none)
    (unnamed : c.snapshot.1.activeTaskId = none) :
    Ends (fatalAdmission code taskId) c
      (Admits RequestAdmission.acceptedId calm taskId (some (makeFatal code (some taskId))) c) := by
  have lands : Ends (enterFatal (makeFatal code (some taskId))) c
      (Lands calm none (some (makeFatal code (some taskId))) c) := enterFatal_idle active unnamed rfl
  unfold fatalAdmission
  apply ends_bind lands
  · intro message c' lands
    refine ⟨none, ⟨lands.effect, fun h => ?_, lands.landed⟩, .inl rfl, by rintro _ _ ⟨⟩⟩
    obtain ⟨_, ⟨⟩⟩ := lands.quiet h
  · intro _ c' lands
    exact ends_pure ⟨none, ⟨lands.effect, fun _ => ⟨_, rfl⟩, lands.landed⟩, .inl rfl, by rintro _ _ ⟨⟩ ⟨⟩⟩

theorem validPlan_own {taskId : TaskId} {answer : PlanAnswer} {plan : TaskPlan}
    (valid : validPlan taskId answer = some plan) : plan.taskId = taskId := by
  unfold validPlan at valid
  split at valid
  · split at valid
    · rename_i own
      cases valid
      exact own
    · cases valid
  · cases valid

theorem start_admits {createPlan : TaskId → PlanAnswer} {kind : TaskKind} {state : RuntimeState}
    {worker : WorkerAnswers} (active : c.active = none) (unnamed : c.snapshot.1.activeTaskId = none)
    (starts : ∀ plan, Starts c.snapshot.1 plan kind state) :
    Ends (start createPlan kind state worker) c (Admits RequestAdmission.acceptedId calm c.nextTaskId
      (startFault c.nextTaskId (createPlan c.nextTaskId) worker) (numbered c)) := by
  unfold start startFault
  apply ends_newTaskId
  cases valid : validPlan c.nextTaskId (createPlan c.nextTaskId) with
  | none => exact fatalAdmission_admits active unnamed
  | some plan =>
    exact startTask_admits active unnamed (validPlan_own valid) (starts plan)

/-- A request that is not admitted. -/
theorem reject_lands {code : RequestRejectionCode} {message : String} (tracked : Tracked c)
    (steady : calm → ∀ a, c.active = some a → Steady a c.snapshot.1) :
    Ends (reject code message) c fun result c' =>
      Lands calm (c.active.map (·.taskId)) none c result c' ∧
        ∀ value, result = .ok value → value.acceptedId = none := by
  unfold reject
  apply ends_emit rfl
  intro c₁ emitted
  apply ends_pure
  refine ⟨?_, by rintro _ ⟨⟩; rfl⟩
  cases active : c.active with
  | none =>
    rw [active] at emitted
    exact {
      effect := .idle emitted (tracked.unnamed active) rfl
      quiet := fun _ => ⟨_, rfl⟩
      landed := by rintro _ _ ⟨⟩ }
  | some a =>
    rw [active] at emitted
    exact lands_active emitted rfl (tracked.held a active) fun h => steady h a active

/-- What comes of a request, admitted or not. -/
def Requested {α : Type} (acceptedId : α → Option TaskId) (calm : Prop)
    (fault : Option GuiRuntimeError) (c : GuiController) (result : Except String α)
    (c' : GuiController) : Prop :=
  (Lands calm (c.active.map (·.taskId)) fault c result c' ∧
    ∀ value, result = .ok value → acceptedId value = none) ∨
  (c.active = none ∧ Admits acceptedId calm c.nextTaskId fault (numbered c) result c')

/-- The fault of a request that finds no active task. -/
def freeFault (c : GuiController) (event : ControllerEvent) : Option GuiRuntimeError :=
  if c.active.isSome then none else requestFault c event

theorem requestConnect_requested {createPlan : TaskId → PlanAnswer} {worker : WorkerAnswers}
    (tracked : Tracked c) (steady : calm → ∀ a, c.active = some a → Steady a c.snapshot.1) :
    Ends (requestConnect createPlan worker) c (Requested RequestAdmission.acceptedId calm
      (freeFault c (.requestConnect createPlan worker)) c) := by
  unfold requestConnect freeFault
  apply ends_read_bind
  by_cases busy : c.active.isSome = true
  · simp only [id, busy, if_true]
    exact (reject_lands tracked steady).mono fun _ _ rejected => .inl rejected
  have active : c.active = none := by simpa using busy
  simp only [id, busy, Bool.false_eq_true, if_false, requestFault]
  by_cases state : c.snapshot.1.state = .disconnected
  · simp only [state, ne_eq, not_true_eq_false, if_false, if_true]
    exact (start_admits active (tracked.unnamed active) fun _ => .connect state).mono
      fun _ _ admits => .inr ⟨active, admits⟩
  · simp only [state, ne_eq, not_false_eq_true, if_true, if_false]
    exact (reject_lands tracked steady).mono fun _ _ rejected => .inl rejected

theorem requestDisconnect_requested {createPlan : TaskId → PlanAnswer} {worker : WorkerAnswers}
    (tracked : Tracked c) (steady : calm → ∀ a, c.active = some a → Steady a c.snapshot.1) :
    Ends (requestDisconnect createPlan worker) c (Requested RequestAdmission.acceptedId calm
      (freeFault c (.requestDisconnect createPlan worker)) c) := by
  unfold requestDisconnect freeFault
  apply ends_read_bind
  by_cases busy : c.active.isSome = true
  · simp only [id, busy, if_true]
    exact (reject_lands tracked steady).mono fun _ _ rejected => .inl rejected
  have active : c.active = none := by simpa using busy
  simp only [id, busy, Bool.false_eq_true, if_false, requestFault]
  by_cases state : c.snapshot.1.state = .connected
  · simp only [state, ne_eq, not_true_eq_false, if_false, if_true]
    exact (start_admits active (tracked.unnamed active) fun _ => .disconnect).mono
      fun _ _ admits => .inr ⟨active, admits⟩
  · simp only [state, ne_eq, not_false_eq_true, if_true, if_false]
    exact (reject_lands tracked steady).mono fun _ _ rejected => .inl rejected

theorem Tracked.numbered (tracked : Tracked c) : Tracked (numbered c) where
  held := tracked.held
  unnamed := tracked.unnamed
  fresh := fun a active => ⟨Nat.lt_succ_of_lt (tracked.fresh a active).1, (tracked.fresh a active).2⟩
  issued := fun id reported => Nat.lt_succ_of_lt (tracked.issued id reported)
  once := tracked.once

theorem requestTask_requested {createPlan : TaskId → PlanAnswer} {worker : WorkerAnswers}
    (tracked : Tracked c) (steady : calm → ∀ a, c.active = some a → Steady a c.snapshot.1) :
    Ends (requestTask createPlan worker) c (Requested RequestAdmission.acceptedId calm
      (freeFault c (.requestTask createPlan worker)) c) := by
  unfold requestTask freeFault
  apply ends_read_bind
  by_cases busy : c.active.isSome = true
  · simp only [id, busy, if_true]
    exact (reject_lands tracked steady).mono fun _ _ rejected => .inl rejected
  have active : c.active = none := by simpa using busy
  simp only [id, busy, Bool.false_eq_true, if_false, requestFault]
  apply ends_newTaskId
  have refused : ∀ (code : RequestRejectionCode) (message : String),
      Ends (reject code message) (numbered c)
        (Requested RequestAdmission.acceptedId calm none c) := by
    intro code message
    apply (reject_lands tracked.numbered steady).mono
    rintro result c' ⟨lands, rejected⟩
    have nobody : (numbered c).active.map (·.taskId) = none := by simp [numbered, active]
    rw [nobody] at lands
    refine .inr ⟨active, none, lands, .inl rfl, ?_⟩
    intro value id is accepted
    rw [rejected value is] at accepted
    cases accepted
  cases valid : validPlan c.nextTaskId (createPlan c.nextTaskId) with
  | none =>
    have admits : Ends (fatalAdmission "INVALID_TASK_PLAN" c.nextTaskId) (numbered c)
        (Admits RequestAdmission.acceptedId calm c.nextTaskId _ (numbered c)) :=
      fatalAdmission_admits active (tracked.unnamed active)
    exact admits.mono fun _ _ admits => .inr ⟨active, admits⟩
  | some plan =>
    dsimp only
    by_cases lacks : plan.connectionRequirement = .connected ∧ c.snapshot.1.state ≠ .connected
    · simp only [lacks, and_self, if_true, true_or, ne_eq, not_false_eq_true]
      exact refused _ _
    by_cases busy : c.snapshot.1.state ≠ .disconnected ∧ c.snapshot.1.state ≠ .connected
    · rw [if_neg lacks, if_pos busy, if_pos (.inr busy)]
      exact refused _ _
    · rw [if_neg lacks, if_neg busy, if_neg (fun either => either.elim lacks busy)]
      have starts : Starts c.snapshot.1 plan .task .busy := by
        apply Starts.task
        by_cases connected : c.snapshot.1.state = .connected
        · exact .inl connected
        · right
          constructor
          · by_cases idle : c.snapshot.1.state = .disconnected
            · exact idle
            · exact absurd ⟨idle, connected⟩ busy
          · cases requirement : plan.connectionRequirement with
            | none => rfl
            | connected => exact absurd ⟨requirement, connected⟩ lacks
      have admits : Ends (startTask c.nextTaskId plan .task .busy worker) (numbered c)
          (Admits RequestAdmission.acceptedId calm c.nextTaskId _ (numbered c)) :=
        startTask_admits active (tracked.unnamed active) (validPlan_own valid) starts
      exact admits.mono fun _ _ admits => .inr ⟨active, admits⟩

/-- A request that is answered. -/
theorem Admits.map {α β : Type} {acceptedId : α → Option TaskId} {acceptedId' : β → Option TaskId}
    {taskId : TaskId} {fault : Option GuiRuntimeError} {result : Except String α} {answer : β}
    {c' c'' : GuiController} {value : α} (admits : Admits acceptedId calm taskId fault c result c')
    (is : result = .ok value) (same : ∀ id, acceptedId' answer = some id → acceptedId value = some id)
    (left : c'' = c') : Admits acceptedId' calm taskId fault c (.ok answer) c'' := by
  obtain ⟨owner, lands, own, accepted⟩ := admits
  subst left
  refine ⟨owner, ⟨lands.effect, fun _ => ⟨answer, rfl⟩, lands.landed⟩, own, ?_⟩
  rintro _ id ⟨⟩ named
  exact accepted value id is (same id named)

/-- `shutdown_requested` is nothing that a task or its fault depends on. -/
theorem Lands.requested {α β : Type} {fault : Option GuiRuntimeError} {result : Except String α}
    {answer : β} {c₁ c₂ : GuiController} (lands : Lands calm owner fault c result c₁)
    (becomes : Becomes c₁ c₂ c₁.active { c₁.snapshot.1 with shutdownRequested := true } []) :
    Lands calm owner fault c (.ok answer) c₂ where
  effect := by
    cases lands.effect with
    | @active a s before held steady same =>
      rw [before.active, before.snapshot] at becomes
      exact .active (before.trans becomes) { held with } (fun h => steady h) same
    | @finished result s before unnamed same =>
      rw [before.active, before.snapshot] at becomes
      exact .finished (before.trans becomes) unnamed same
    | @idle s before unnamed nobody =>
      rw [before.active, before.snapshot] at becomes
      exact .idle (before.trans becomes) unnamed nobody
  quiet := fun _ => ⟨answer, rfl⟩
  landed := by
    intro h error is
    obtain ⟨state, lastError, waiting, news, finished, failed⟩ := lands.landed h error is
    refine ⟨?_, ?_, ?_, news, ?_, failed⟩
    · rw [becomes.snapshot]
      exact state
    · rw [becomes.snapshot]
      exact lastError
    · rw [becomes.active]
      exact waiting
    · rw [becomes.finished, finished, List.append_nil]

theorem requestApplicationClose_requested {worker : WorkerAnswers}
    (tracked : Tracked c) (steady : calm → ∀ a, c.active = some a → Steady a c.snapshot.1) :
    Ends (requestApplicationClose worker) c (Requested ApplicationCloseResult.acceptedId calm
      (freeFault c (.requestApplicationClose worker)) c) := by
  have answered : ∀ value : ApplicationCloseResult, value.acceptedId = none →
      freeFault c (.requestApplicationClose worker) = none →
      Requested ApplicationCloseResult.acceptedId calm
        (freeFault c (.requestApplicationClose worker)) c (.ok value) c := by
    intro value accepted fault
    rw [fault]
    refine .inl ⟨unchanged_lands tracked steady, ?_⟩
    rintro _ ⟨⟩
    exact accepted
  unfold requestApplicationClose
  apply ends_read_bind
  dsimp only [id]
  split
  · rename_i a active
    exact ends_pure (answered _ rfl (by simp [freeFault, active]))
  · rename_i active
    by_cases settled : c.snapshot.1.state = .disconnected ∧ c.snapshot.1.cleanupPending = false
    · rw [if_pos settled]
      exact ends_pure (answered _ rfl (by simp [freeFault, requestFault, settled]))
    by_cases busy : c.snapshot.1.state ≠ .disconnected ∧ c.snapshot.1.state ≠ .connected ∧
        c.snapshot.1.state ≠ .error
    · rw [if_neg settled, if_pos busy]
      exact ends_pure (answered _ rfl (by
        rw [freeFault, if_neg (by simp [active]), requestFault, if_pos (.inr busy)]))
    have fault : freeFault c (.requestApplicationClose worker) =
        startFault c.nextTaskId (.plan (shutdownPlan c.nextTaskId)) worker := by
      rw [freeFault, if_neg (by simp [active]), requestFault,
        if_neg (fun either => either.elim settled busy)]
      simp [startFault, validPlan, shutdownPlan, cleanupPlan]
    rw [if_neg settled, if_neg busy, fault]
    have admits : Ends (start (fun taskId => .plan (shutdownPlan taskId)) .shutdown .disconnecting
        worker) c (Admits RequestAdmission.acceptedId calm c.nextTaskId _ (numbered c)) :=
      start_admits active (tracked.unnamed active) fun _ => .shutdown
    apply ends_bind admits
    · rintro message c' ⟨owner, lands, own, _⟩
      refine .inr ⟨active, owner, ⟨lands.effect, fun h => ?_, lands.landed⟩, own, by rintro _ _ ⟨⟩⟩
      obtain ⟨_, ⟨⟩⟩ := lands.quiet h
    · intro answer c₁ admits
      cases answer with
      | accepted taskId =>
        obtain ⟨owner, lands, own, accepted⟩ := admits
        apply ends_setSnapshot
        · have valid := c₁.snapshot.valid
          exact { valid with }
        intro c₂ published
        refine ends_pure (.inr ⟨active, owner, lands.requested published, own, ?_⟩)
        rintro _ id ⟨⟩ named
        exact accepted _ id rfl named
      | failed error => exact ends_pure (.inr ⟨active, admits.map rfl (by rintro _ ⟨⟩) rfl⟩)
      | rejected rejection => exact ends_pure (.inr ⟨active, admits.map rfl (by rintro _ ⟨⟩) rfl⟩)

/-! ## One event -/

/-- What an answer to a request does to the books. -/
theorem Requested.handled {α : Type} {acceptedId : α → Option TaskId} {fault : Option GuiRuntimeError}
    {result : Except String α} {answer : Except String ControllerAnswer} {f : α → ControllerAnswer}
    (requested : Requested acceptedId calm fault c result c') (tracked : Tracked c)
    (is : answer = result.map f) (same : ∀ value, (f value).acceptedId = acceptedId value) :
    Handled calm fault c answer c' := by
  subst is
  have quiet : (∃ value, result = .ok value) → ∃ value, result.map f = .ok value := by
    rintro ⟨value, rfl⟩
    exact ⟨f value, rfl⟩
  have answered : ∀ value, result.map f = .ok value → ∃ x, result = .ok x ∧ value = f x := by
    intro value is
    cases result with
    | error message => cases is
    | ok x =>
      cases is
      exact ⟨x, rfl, rfl⟩
  rcases requested with ⟨lands, rejected⟩ | ⟨active, owner, lands, own, accepted⟩
  · apply lands.handled tracked
    · intro value is
      obtain ⟨x, known, rfl⟩ := answered value is
      rw [same]
      exact rejected x known
    · intro value known
      exact quiet ⟨value, known⟩
  · have fresh : ∀ id, owner = some id → id < (numbered c).nextTaskId ∧ id ∉ finishedIds (numbered c) := by
      intro id is
      rcases own with none | some
      · rw [none] at is
        cases is
      · rw [some] at is
        cases is
        refine ⟨Nat.lt_succ_self _, fun reported => ?_⟩
        exact Nat.lt_irrefl _ (tracked.issued _ reported)
    obtain ⟨tracked', accounted, steady⟩ :=
      lands.effect.tracked tracked.numbered.issued tracked.numbered.once fresh
    refine ⟨tracked', ?_, ?_, fun h => quiet (lands.quiet h), steady, ?_⟩
    · rintro id (is | reported)
      · simp [active] at is
      · exact accounted id (.inr reported)
    · intro value id is named
      obtain ⟨x, known, rfl⟩ := answered value is
      rw [same] at named
      exact accounted id (.inl (accepted x id known named))
    · intro h error is
      obtain ⟨state, lastError, waiting, failed⟩ := lands.landed h error is
      exact ⟨state, lastError, waiting, failed⟩

theorem ends_handled {p : ControllerProcedure Unit} {fault : Option GuiRuntimeError}
    (tracked : Tracked c) (lands : Ends p c (Lands calm (c.active.map (·.taskId)) fault c)) :
    Ends (do
      p
      return .handled) c (Handled calm fault c) := by
  apply ends_bind lands
  · intro message c' lands
    exact lands.handled tracked (by rintro _ ⟨⟩) (by rintro _ ⟨⟩)
  · intro _ c' lands
    apply ends_pure
    apply lands.handled tracked
    · rintro _ ⟨⟩
      rfl
    · intro _ _
      exact ⟨_, rfl⟩

/-- The exit of a worker once more, while a decision about its task is pending and the task
has a fatal error. -/
def Stranded (c : GuiController) : ControllerEvent → Prop
  | .threadFinished generation _ => ∃ a, c.active = some a ∧ generation = a.generation ∧
      a.fatalError.isSome = true ∧ c.snapshot.1.disconnectDecisionPending = true
  | _ => False

theorem Calm.decided {event : ControllerEvent} (calm : Calm c event)
    (other : answersDecision event = false) (fault : fatalEvent c event ≠ none) :
    c.snapshot.1.disconnectDecisionPending = false := by
  obtain ⟨error, is⟩ := Option.ne_none_iff_exists'.1 fault
  rcases calm with answers | calm
  · simp [other] at answers
  · exact (calm error is).1

theorem enterFatal_lands {taskId : Option TaskId} (tracked : Tracked c)
    (steady : calm → ∀ a, c.active = some a → Steady a c.snapshot.1)
    (ready : calm → Calm c (.wrongThread taskId)) :
    Ends (enterFatal (wrongThread taskId)) c
      (Lands calm (c.active.map (·.taskId)) (fatalEvent c (.wrongThread taskId)) c) := by
  cases active : c.active with
  | none =>
    have fault : fatalEvent c (.wrongThread taskId) = some (wrongThread taskId) := by
      simp [fatalEvent, latched, active]
    rw [fault]
    exact enterFatal_idle active (tracked.unnamed active) rfl
  | some a =>
    have held := tracked.held a active
    by_cases isSome : a.fatalError.isSome = true
    · have fault : fatalEvent c (.wrongThread taskId) = none := by
        simp [fatalEvent, latched, active, isSome]
      rw [fault]
      apply (enterFatal_latched active isSome).mono
      rintro answer c' ⟨rfl, rfl⟩
      exact lands_active (.same active) rfl held fun h => steady h a active
    · have fault : fatalEvent c (.wrongThread taskId) = some (wrongThread taskId) := by
        simp [fatalEvent, latched, active, isSome]
      rw [fault]
      apply enterFatal_held active held rfl (by simpa using isSome)
      intro h
      rcases ready h with ⟨⟨⟩⟩ | calm
      obtain ⟨decided, matching⟩ := calm _ fault
      exact ⟨decided, matching a active⟩

/-- What an event does. -/
theorem handle_handled {event : ControllerEvent} (tracked : Tracked c)
    (steady : calm → ∀ a, c.active = some a → Steady a c.snapshot.1)
    (ready : calm → Calm c event) (moored : ¬ Stranded c event) :
    Ends (handle event) c (Handled calm (fatalEvent c event) c) := by
  have free : ∀ request, (if latched c then none else freeFault c request) = freeFault c request := by
    intro request
    cases active : c.active with
    | none => simp [latched, active]
    | some a => simp [freeFault, active]
  cases event with
  | requestConnect createPlan worker =>
    apply (ends_return (requestConnect_requested tracked steady)).mono
    rintro answer c' ⟨result, requested, is⟩
    rw [← free] at requested
    exact requested.handled tracked is fun _ => rfl
  | requestTask createPlan worker =>
    apply (ends_return (requestTask_requested tracked steady)).mono
    rintro answer c' ⟨result, requested, is⟩
    rw [← free] at requested
    exact requested.handled tracked is fun _ => rfl
  | requestDisconnect createPlan worker =>
    apply (ends_return (requestDisconnect_requested tracked steady)).mono
    rintro answer c' ⟨result, requested, is⟩
    rw [← free] at requested
    exact requested.handled tracked is fun _ => rfl
  | requestApplicationClose worker =>
    apply (ends_return (requestApplicationClose_requested tracked steady)).mono
    rintro answer c' ⟨result, requested, is⟩
    rw [← free] at requested
    exact requested.handled tracked is fun _ => rfl
  | requestCancel taskId =>
    apply (ends_return (requestCancel_lands tracked steady)).mono
    rintro answer c' ⟨result, lands, rfl⟩
    have fault : fatalEvent c (.requestCancel taskId) = none := by simp [fatalEvent]
    rw [fault]
    apply lands.handled tracked
    · intro value is
      cases result <;> cases is
      rfl
    · rintro value rfl
      exact ⟨_, rfl⟩
  | respondTaskAction taskId action worker =>
    apply (ends_return (respondTaskAction_lands tracked steady)).mono
    rintro answer c' ⟨result, lands, rfl⟩
    apply lands.handled tracked
    · intro value is
      cases result <;> cases is
      rfl
    · rintro value rfl
      exact ⟨_, rfl⟩
  | progress message =>
    exact ends_handled tracked (onProgress_lands tracked steady
      fun h => (ready h).decided rfl)
  | result message worker =>
    exact ends_handled tracked (onResult_lands tracked steady
      fun h => (ready h).decided rfl)
  | threadFinished generation worker =>
    apply ends_handled tracked
    apply onThreadFinished_lands tracked steady fun h => (ready h).decided rfl
    intro a active same isSome
    cases pending : c.snapshot.1.disconnectDecisionPending with
    | false => rfl
    | true => exact absurd ⟨a, active, same, isSome, pending⟩ moored
  | wrongThread taskId => exact ends_handled tracked (enterFatal_lands tracked steady ready)

end

end BootUpgrade.GuiController

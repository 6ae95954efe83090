import BootUpgrade.Host.Transfer
import BootUpgrade.Host.FlashImage

/-!
# Operations and their results

`OperationResult` of `operations/results.py` and what turns the outcome of a
transfer or an exception into one.
-/

namespace BootUpgrade

structure RamLayout where
  serviceRanges : List AddressRange
  ramAppRanges : List AddressRange
  reservedRanges : List AddressRange

/-- `OperationContext`: the limits of the client, the layouts of the target and the
cancellation token, whose read `k` gives `polls k`. A transfer inside the operation
reads it by `transferPolls`. -/
structure OperationContext where
  maxPayloadWords : Nat
  maxDataWords : Nat
  flash : Option FlashLayout
  ram : Option RamLayout
  polls : Nat → Bool
  transferPolls : Nat → Bool

/-- `effective_max_write_data_words`. -/
def OperationContext.maxWriteDataWords (ctx : OperationContext) : Except HostError Nat :=
  let limit := ctx.maxDataWords - ctx.maxDataWords % HostWorkflow.writeDataAlignmentWords
  if limit = 0 then
    .error (.protocolDecodeError "effective max Flash DATA words must be a positive aligned value")
  else .ok limit

inductive OperationCompletion where
  | succeeded
  | failed
  | cancelled
  | completedAfterCancelRequest
  deriving DecidableEq, Repr

/-- `OperationResult`: one constructor for each row of the table its own constructor
checks, with a cleanup that has failed apart from the other failures. -/
inductive OperationResult (S : Type) where
  | succeeded (summary : S)
  | failed (error : HostError)
  | cleanupFailed (error : HostError) (cancellation : OperationCancellationInfo)
  | cancelled (cancellation : OperationCancellationInfo)
  | completedAfterCancelRequest (summary : S) (cancellation : OperationCancellationInfo)

namespace OperationResult

variable {S : Type}

def completion : OperationResult S → OperationCompletion
  | succeeded _ => .succeeded
  | failed _ | cleanupFailed _ _ => .failed
  | cancelled _ => .cancelled
  | completedAfterCancelRequest _ _ => .completedAfterCancelRequest

def summary : OperationResult S → Option S
  | succeeded summary | completedAfterCancelRequest summary _ => some summary
  | _ => none

end OperationResult

/-- `classify_exception_domain` gives a domain to these. -/
def HostError.classified : HostError → Bool
  | .operationFailure _ _ _ | .unsupportedOperationError _ | .payloadLimitError _ _ _
  | .protocolDecodeError _ | .transportError _ | .transportTimeoutError
  | .protocolStatusError _ _ => true
  | _ => false

/-- `except Exception as exc: return failure_result(...)`; an exception without a domain
is raised again. -/
def failureResult {S : Type} (d : HostDialogue (OperationResult S)) :
    HostDialogue (OperationResult S) :=
  d.attempt.bind fun caught =>
    match caught with
    | .ok result => .done result
    | .error error => if error.classified then .done (.failed error) else .fail error

/-- The result of an operation that ends with a transfer. -/
def CancellableTransferOutcome.result (outcome : CancellableTransferOutcome) :
    OperationResult (Option (Nat × Nat)) :=
  match outcome.cancellation with
  | none => .succeeded outcome.summary
  | some cancellation =>
    match outcome.cleanupError with
    | some error => .cleanupFailed error cancellation
    | none =>
      if outcome.completedAfterCancel then .completedAfterCancelRequest outcome.summary cancellation
      else .cancelled cancellation

theorem getServiceStatus_ne : "GET_SERVICE_STATUS" ≠ "" := by decide

theorem none_mem : "NONE" ∈ recoveryActions := by decide

theorem nothing_uncertain : false = true → false = true := id

theorem clean_uncertain : true = true → false = false ∧ false = false := fun _ => ⟨rfl, rfl⟩

/-- `OperationCancellationInfo` for a protocol state that is clean. -/
def cancellationInfo (stage : String) (currentWords totalWords : Nat) (serviceAttached : Option Bool)
    (recoveryAction : String) (stage_ne : stage ≠ "" := by decide)
    (action_mem : recoveryAction ∈ recoveryActions := by decide) :
    Except HostError OperationCancellationInfo :=
  if words_le : currentWords ≤ totalWords then
    .ok {
      stage, currentWords, totalWords
      protocolStateClean := true
      outcomeUncertain := false
      connectionRecoveryRequired := false
      partialFlashProgrammed := false
      eraseBeforeRetryRequired := false
      serviceAttached, recoveryAction, stage_ne, words_le, action_mem
      erase_partial := nothing_uncertain
      uncertain_recovery := nothing_uncertain
      clean_certain := clean_uncertain }
  else .error (.valueError "word counts must satisfy 0 <= current_words <= total_words")

namespace HostOperations

section
variable {S T : Type} {d : HostDialogue (OperationResult S)}

/-- What is caught asks what the operation asks. -/
theorem failureResult_always {P : HostRequest → Prop} (h : d.Always P) :
    (failureResult d).Always P := by
  apply h.attempt.bind
  intro caught
  split
  · trivial
  · split <;> trivial

/-- What ends with a result is not touched. -/
theorem failureResult_ok {server : Dialogue.Server HostRequest HostAnswer HostError T} {s : T}
    {result : OperationResult S} (ended : (d.run server s).result = .ok result) :
    (failureResult d).run server s = d.run server s := by
  induction d generalizing s with
  | done value => rfl
  | fail error => cases ended
  | ask q next ih =>
    have rest := ih (server s q).1 ended
    show Dialogue.Ran.mk _ (_ :: _) _ = Dialogue.Ran.mk _ (_ :: _) _
    exact congrArg (fun ran : Dialogue.Ran HostRequest HostAnswer HostError T (OperationResult S) =>
      { ran with exchanges := (q, (server s q).1) :: ran.exchanges }) rest

/-- An exception that is caught is no success. -/
theorem failureResult_run (server : Dialogue.Server HostRequest HostAnswer HostError T) (s : T) :
    ((failureResult d).run server s).state = (d.run server s).state ∧
      ∀ summary, ((failureResult d).run server s).result = .ok (.succeeded summary) →
        (d.run server s).result = .ok (.succeeded summary) := by
  induction d generalizing s with
  | done result =>
    constructor
    · rfl
    · intro summary success
      exact success
  | fail error =>
    unfold failureResult Dialogue.attempt
    show (Dialogue.run server (if _ then _ else _) s).state = s ∧ _
    constructor
    · split <;> rfl
    · intro summary success
      change (Dialogue.run server (if _ then _ else _) s).result = _ at success
      split at success <;> cases success
  | ask q next ih => exact ih (server s q).1 (server s q).2

/-- What succeeds has succeeded without an exception. -/
theorem failureResult_succeeds {server : Dialogue.Server HostRequest HostAnswer HostError T} {s : T}
    {summary : S} (success : ((failureResult d).run server s).result = .ok (.succeeded summary)) :
    Dialogue.Succeeds server d s fun result s' =>
      result = .succeeded summary ∧ s' = ((failureResult d).run server s).state := by
  obtain ⟨state, result⟩ := failureResult_run (d := d) server s
  exact ⟨_, result summary success, rfl, state.symm⟩

end

end HostOperations

end BootUpgrade

import BootUpgrade.Gui.RuntimeModels
import BootUpgrade.Lib.Runs

/-!
# Policies and transitions

The policies of `runtime_v2_policies` in their order, and
`RuntimeStateStore.transition`, which applies them to a draft and commits it
when none of them has raised. What a policy makes of the part of the draft that
it replaces is a function of its own.
-/

namespace BootUpgrade

open Runs

/-- `RuntimeStateDraft`. -/
structure RuntimeStateDraft where
  connectionGeneration : Nat
  originalConnectionGeneration : Nat
  connection : Option ConnectionRuntimeState
  targetResources : (cpuId : RuntimeCpuId) → TargetResourceState cpuId
  memoryStates : RuntimeCpuId → MemoryRuntimeState
  metadataState : MetadataRuntimeState
  diagnosticsState : DiagnosticGroup → DiagnosticRuntimeState
  derivedEvents : List DomainEvent

namespace RuntimeStateDraft

def record (draft : RuntimeStateDraft) (event : DomainEvent) : RuntimeStateDraft :=
  { draft with derivedEvents := draft.derivedEvents ++ [event] }

/-- `RuntimeStateDraft.candidate`, with the check of `RuntimeV2Snapshot`. -/
def candidate (draft : RuntimeStateDraft) : Except RuntimeFailure RuntimeV2Snapshot :=
  if active : ∀ connection', draft.connection = some connection' →
      connection'.generation = draft.connectionGeneration then
    .ok {
      connectionGeneration := draft.connectionGeneration
      connection := draft.connection
      targetResources := draft.targetResources
      memoryStates := draft.memoryStates
      metadataState := draft.metadataState
      diagnosticsState := draft.diagnosticsState
      active }
  else .error (.valueError "active connection generation must match snapshot generation")

/-- A policy that replaces the state of each target resource. -/
def mapResources (draft : RuntimeStateDraft)
    (f : (cpuId : RuntimeCpuId) → TargetResourceState cpuId → TargetResourceState cpuId) :
    RuntimeStateDraft :=
  { draft with targetResources := fun cpuId => f cpuId (draft.targetResources cpuId) }

end RuntimeStateDraft

/-- A policy changes the draft or raises. -/
structure DomainPolicy where
  name : String
  apply : DomainEvent → RuntimeStateDraft → Except RuntimeFailure RuntimeStateDraft

/-- `_current_connection`. -/
def currentConnection (cpuId : RuntimeCpuId) (generation : Nat)
    (connection : Option ConnectionRuntimeState) : Bool :=
  connection.any fun connection => connection.cpuId = cpuId && connection.generation = generation

/-! ## The connection -/

def connectionGenerationPolicy : DomainPolicy where
  name := "ConnectionGenerationPolicy"
  apply event draft :=
    match event with
    | .connectionOpened _ _ =>
      let previous := draft.connectionGeneration
      .ok ({ draft with connectionGeneration := previous + 1 }.record
        (.connectionGenerationChanged previous))
    | _ => .ok draft

def connectionStatePolicy : DomainPolicy where
  name := "ConnectionStatePolicy"
  apply event draft :=
    match event with
    | .connectionOpened info _ =>
      if draft.connectionGeneration = draft.originalConnectionGeneration then
        .error (.runtimeError "ConnectionGenerationPolicy must run first")
      else
        match ConnectionRuntimeState.fromConnectionInfo info draft.connectionGeneration with
        | .error failure => .error failure
        | .ok connection =>
          .ok ({ draft with connection := some connection }.record
            (.activeTargetChanged (some connection.cpuId)))
    | .connectionClosed connectionId generation =>
      match draft.connection with
      | none => .error (.staleConnectionEventError "no active Runtime V2 connection")
      | some connection =>
        if connection.connectionId ≠ connectionId then
          .error (.staleConnectionEventError "connection ID does not match active connection")
        else if connection.generation ≠ generation then
          .error (.staleConnectionEventError "connection generation is stale")
        else .ok ({ draft with connection := none }.record (.activeTargetChanged none))
    | _ => .ok draft

def healthAfter (event : DomainEvent) (connection : ConnectionRuntimeState) :
    ConnectionRuntimeState :=
  match event with
  | .protocolActivityRecorded generation occurredAt =>
    if generation ≠ connection.generation then connection
    else if later : connection.lastProtocolActivity ≤ occurredAt then
      { connection with
        lastProtocolActivity := occurredAt
        connected_le := Int.le_trans connection.connected_le later }
    else connection
  | .connectionHealthChanged generation result checkedAt =>
    if generation ≠ connection.generation then connection
    else if connection.health.checkedAt.any (checkedAt < ·) then connection
    else { connection with health := result.at checkedAt }
  | _ => connection

def connectionHealthPolicy : DomainPolicy where
  name := "ConnectionHealthPolicy"
  apply event draft := .ok { draft with connection := draft.connection.map (healthAfter event) }

def communicationErrorAfter (event : DomainEvent) (connection : ConnectionRuntimeState) :
    ConnectionRuntimeState :=
  match event with
  | .communicationErrorRecorded generation error =>
    if connection.generation ≠ generation then connection
    else { connection with lastCommunicationError := some error }
  | _ => connection

def connectionCommunicationErrorPolicy : DomainPolicy where
  name := "ConnectionCommunicationErrorPolicy"
  apply event draft :=
    .ok { draft with connection := draft.connection.map (communicationErrorAfter event) }

/-! ## Freshness -/

/-- The view of a CPU when the connection or the target has changed: it gets stale
unless it is of the active CPU and generation. -/
def memoryRetained (connection : Option ConnectionRuntimeState) (activeCpu : Option RuntimeCpuId)
    (cpuId : RuntimeCpuId) (current : MemoryRuntimeState) : MemoryRuntimeState :=
  match current.retained with
  | none => current
  | some memory =>
    if current.freshness = .stale then current
    else if activeCpu = some cpuId ∧
        currentConnection cpuId memory.connectionGeneration connection = true then current
    else current.stale current.readError

def memoryAfter (event : DomainEvent) (connection : Option ConnectionRuntimeState)
    (cpuId : RuntimeCpuId) (current : MemoryRuntimeState) : MemoryRuntimeState :=
  match event with
  | .sessionChanged => .new
  | .memoryCleared cleared => if cleared = cpuId then .new else current
  | .memoryReadSucceeded target memory =>
    if target = cpuId ∧ currentConnection target memory.connectionGeneration connection = true then
      .read memory
    else current
  | .memoryReadFailed target generation error =>
    if target = cpuId ∧ currentConnection target generation connection = true then
      current.stale (some error)
    else current
  | .connectionOpened _ _ | .connectionClosed _ _ =>
    memoryRetained connection (connection.map (·.cpuId)) cpuId current
  | .activeTargetChanged activeCpu => memoryRetained connection activeCpu cpuId current
  | _ => current

def memoryFreshnessPolicy : DomainPolicy where
  name := "MemoryFreshnessPolicy"
  apply event draft :=
    .ok { draft with
      memoryStates := fun cpuId =>
        memoryAfter event draft.connection cpuId (draft.memoryStates cpuId) }

/-- `MetadataRuntimeState(value, STALE)`. -/
def MetadataRuntimeState.stale (state : MetadataRuntimeState) : MetadataRuntimeState :=
  ⟨state.value, .stale, none, by simp⟩

/-- The state behind a failed read. -/
def MetadataRuntimeState.failed (state : MetadataRuntimeState) (error : RuntimeReadError) :
    MetadataRuntimeState where
  value := state.value
  freshness := if state.value.isSome ∨ state.freshness = .stale then .stale else .empty
  readError := some error
  fresh_value := by split <;> simp

def metadataAfter (event : DomainEvent) (connection : Option ConnectionRuntimeState)
    (current : MetadataRuntimeState) : Except RuntimeFailure MetadataRuntimeState :=
  match event with
  | .connectionOpened _ _ | .connectionClosed _ _ | .activeTargetChanged _ | .sessionChanged =>
    .ok .new
  | .metadataReadSucceeded cpuId generation value _ =>
    if currentConnection cpuId generation connection then
      (freezeRuntimeValue value).map fun frozen => ⟨some frozen, .fresh, none, by simp⟩
    else .ok current
  | .metadataReadFailed cpuId generation error =>
    .ok (if currentConnection cpuId generation connection then current.failed error else current)
  | .metadataWriteStarted _ cpuId generation _ =>
    .ok (if currentConnection cpuId generation connection then current.stale else current)
  | .operationStarted started =>
    .ok (if started.operation.writesFlash &&
          currentConnection started.cpuId started.connectionGeneration connection then
        current.stale
      else current)
  | _ => .ok current

def metadataFreshnessPolicy : DomainPolicy where
  name := "MetadataFreshnessPolicy"
  apply event draft :=
    (metadataAfter event draft.connection draft.metadataState).map fun metadataState =>
      { draft with metadataState }

/-- The state of a group behind a failed read. -/
def DiagnosticRuntimeState.failed (state : DiagnosticRuntimeState) (error : RuntimeReadError) :
    DiagnosticRuntimeState where
  value := state.value
  freshness := if state.value.isSome then .stale else .empty
  readError := some error
  fresh_value := by split <;> simp

def diagnosticsAfter (event : DomainEvent) (connection : Option ConnectionRuntimeState)
    (current : DiagnosticGroup → DiagnosticRuntimeState) :
    Except RuntimeFailure (DiagnosticGroup → DiagnosticRuntimeState) :=
  match event with
  | .connectionOpened _ _ | .connectionClosed _ _ | .activeTargetChanged _ | .sessionChanged =>
    .ok fun _ => .new
  | .diagnosticReadSucceeded cpuId generation group value _ =>
    if currentConnection cpuId generation connection then
      (freezeRuntimeValue value).map fun frozen other =>
        if other = group then ⟨some frozen, .fresh, none, by simp⟩ else current other
    else .ok current
  | .diagnosticReadFailed cpuId generation group error =>
    .ok fun other =>
      if other = group ∧ currentConnection cpuId generation connection = true then
        (current group).failed error
      else current other
  | _ => .ok current

def diagnosticsFreshnessPolicy : DomainPolicy where
  name := "DiagnosticsFreshnessPolicy"
  apply event draft :=
    (diagnosticsAfter event draft.connection draft.diagnosticsState).map fun diagnosticsState =>
      { draft with diagnosticsState }

/-! ## Evidence -/

section
variable (event : DomainEvent) (connection : Option ConnectionRuntimeState) (cpuId : RuntimeCpuId)
  (current : TargetResourceState cpuId)

def evidenceInvalidated : TargetResourceState cpuId :=
  match event with
  | .connectionOpened _ _ | .connectionClosed _ _ | .connectionGenerationChanged _
  | .activeTargetChanged _ | .sessionChanged =>
    { current with verifyEvidence := none, ramCrcEvidence := none }
  | .operationStarted started =>
    if started.cpuId ≠ cpuId then current
    else if started.operation.onFlash then { current with verifyEvidence := none }
    else { current with ramCrcEvidence := none }
  | .programImageChanged target _ image _ =>
    if target = cpuId ∧ image.summary.any (fun summary =>
        current.verifyEvidence.any (·.imageIdentity ≠ summary.identity)) = true then
      { current with verifyEvidence := none }
    else current
  | .ramImageChanged target _ image _ =>
    if target = cpuId ∧ image.summary.any (fun summary =>
        current.ramCrcEvidence.any (·.ramImageIdentity ≠ summary.identity)) = true then
      { current with ramCrcEvidence := none }
    else current
  | _ => current

def verifyEvidenceAfter : TargetResourceState cpuId :=
  match event with
  | .operationSucceeded ⟨operationId, .verify image, target, generation⟩ =>
    if target = cpuId ∧ currentConnection target generation connection = true ∧
        current.programImage.summary.any (·.identity = image) = true then
      { current with verifyEvidence := some ⟨generation, image, operationId⟩ }
    else current
  | _ => current

def ramCrcEvidenceAfter : TargetResourceState cpuId :=
  match event with
  | .operationSucceeded ⟨operationId, .ramCrc image, target, generation⟩ =>
    if target = cpuId ∧ currentConnection target generation connection = true ∧
        current.ramImage.summary.any (·.identity = image) = true then
      { current with ramCrcEvidence := some ⟨generation, image, operationId⟩ }
    else current
  | _ => current

/-! ## Target resources -/

def sectorSelectionAfter : TargetResourceState cpuId :=
  match event with
  | .sectorSelectionChanged target eraseScope customSectorMask =>
    if target = cpuId then { current with eraseScope, customSectorMask } else current
  | _ => current

def sessionStateAfter : TargetResourceState cpuId :=
  match event with
  | .sessionChanged => .new cpuId
  | _ => current

def programImageAfter : TargetResourceState cpuId :=
  match event with
  | .programImageChanged target path image _ =>
    if target = cpuId then { current with programImagePath := path, programImage := image }
    else current
  | _ => current

def ramImageAfter : TargetResourceState cpuId :=
  match event with
  | .ramImageChanged target path image _ =>
    if target = cpuId then { current with ramImagePath := path, ramImage := image } else current
  | _ => current

end

def evidenceInvalidationPolicy : DomainPolicy where
  name := "EvidenceInvalidationPolicy"
  apply event draft := .ok (draft.mapResources (evidenceInvalidated event))

def verifyEvidencePolicy : DomainPolicy where
  name := "VerifyEvidencePolicy"
  apply event draft := .ok (draft.mapResources (verifyEvidenceAfter event draft.connection))

def ramCrcEvidencePolicy : DomainPolicy where
  name := "RamCrcEvidencePolicy"
  apply event draft := .ok (draft.mapResources (ramCrcEvidenceAfter event draft.connection))

def sectorSelectionPolicy : DomainPolicy where
  name := "SectorSelectionPolicy"
  apply event draft := .ok (draft.mapResources (sectorSelectionAfter event))

/-- A session does not change while there is a connection. -/
def sessionStatePolicy : DomainPolicy where
  name := "SessionStatePolicy"
  apply event draft :=
    match event, draft.connection with
    | .sessionChanged, some _ =>
      .error (.sessionChangeBlockedError "Session change requires no active Runtime V2 connection")
    | _, _ => .ok (draft.mapResources (sessionStateAfter event))

def programImageStatePolicy : DomainPolicy where
  name := "ProgramImageStatePolicy"
  apply event draft := .ok (draft.mapResources (programImageAfter event))

def ramImageStatePolicy : DomainPolicy where
  name := "RamImageStatePolicy"
  apply event draft := .ok (draft.mapResources (ramImageAfter event))

/-- `DEFAULT_DOMAIN_POLICIES`. -/
def defaultDomainPolicies : List DomainPolicy :=
  [connectionGenerationPolicy, connectionStatePolicy, connectionHealthPolicy,
    connectionCommunicationErrorPolicy, memoryFreshnessPolicy, metadataFreshnessPolicy,
    diagnosticsFreshnessPolicy, evidenceInvalidationPolicy, verifyEvidencePolicy,
    ramCrcEvidencePolicy, sectorSelectionPolicy, sessionStatePolicy, programImageStatePolicy,
    ramImageStatePolicy]

/-! ## Transitions -/

/-- `DomainTransitionError`. -/
structure DomainTransitionError where
  policyName : String
  cause : RuntimeFailure
  deriving DecidableEq, Repr

/-- The loop of `transition` over the policies. -/
def applyPolicies (event : DomainEvent) : List DomainPolicy → RuntimeStateDraft →
    Except DomainTransitionError RuntimeStateDraft
  | [], draft => .ok draft
  | policy :: policies, draft =>
    match policy.apply event draft with
    | .error cause => .error ⟨policy.name, cause⟩
    | .ok draft => applyPolicies event policies draft

namespace RuntimeStateStore

def draft (store : RuntimeStateStore) : RuntimeStateDraft where
  connectionGeneration := store.connectionGeneration
  originalConnectionGeneration := store.connectionGeneration
  connection := store.connection
  targetResources := store.targetResources
  memoryStates := store.memoryStates
  metadataState := store.metadataState
  diagnosticsState := store.diagnosticsState
  derivedEvents := []

/-- `RuntimeStateStore.transition`: what it returns or raises, and the store behind it. -/
def transition (event : DomainEvent) (policies : List DomainPolicy) (store : RuntimeStateStore) :
    Except DomainTransitionError (RuntimeV2Snapshot × List DomainEvent) × RuntimeStateStore :=
  match applyPolicies event policies store.draft with
  | .error error => (.error error, store)
  | .ok draft =>
    match draft.candidate with
    | .error cause => (.error ⟨"RuntimeV2Snapshot", cause⟩, store)
    | .ok candidate => (.ok (candidate, draft.derivedEvents), candidate)

end RuntimeStateStore

/-- The store as a machine that `dispatch` feeds with events. -/
def runtimeStore : Machine RuntimeStateStore DomainEvent
    (Except DomainTransitionError (RuntimeV2Snapshot × List DomainEvent)) where
  step store event := store.transition event defaultDomainPolicies

/-! ## What a transition does -/

/-- The resources of a CPU behind all the policies. -/
def resourceAfter (event : DomainEvent) (connection : Option ConnectionRuntimeState)
    (cpuId : RuntimeCpuId) (current : TargetResourceState cpuId) : TargetResourceState cpuId :=
  ramImageAfter event cpuId (programImageAfter event cpuId (sessionStateAfter event cpuId
    (sectorSelectionAfter event cpuId (ramCrcEvidenceAfter event connection cpuId
      (verifyEvidenceAfter event connection cpuId (evidenceInvalidated event cpuId current))))))

/-- What becomes of the connection and its generation. -/
inductive ConnectionAfter (store : RuntimeStateStore) (generation : Nat)
    (connection : Option ConnectionRuntimeState) : DomainEvent → Prop
  | opened {info : ConnectionInfo} {named : info.connectionId ≠ ""} {new : ConnectionRuntimeState}
      (built : ConnectionRuntimeState.fromConnectionInfo info (store.connectionGeneration + 1) =
        .ok new)
      (present : connection = some new) (next : generation = store.connectionGeneration + 1) :
      ConnectionAfter store generation connection (.connectionOpened info named)
  | closed {old : ConnectionRuntimeState} {connectionId : Text} {closing : Nat}
      (was : store.connection = some old) (named : old.connectionId = connectionId)
      (current : old.generation = closing) (gone : connection = none)
      (same : generation = store.connectionGeneration) :
      ConnectionAfter store generation connection (.connectionClosed connectionId closing)
  | kept {event : DomainEvent} (opened : ∀ info named, event ≠ .connectionOpened info named)
      (closed : ∀ connectionId closing, event ≠ .connectionClosed connectionId closing)
      (recorded : connection = store.connection.map fun connection =>
        communicationErrorAfter event (healthAfter event connection))
      (same : generation = store.connectionGeneration) :
      ConnectionAfter store generation connection event

/-- What a transition that is committed does to the store. -/
structure Committed (event : DomainEvent) (store : RuntimeStateStore) (after : RuntimeV2Snapshot) :
    Prop where
  connection : ConnectionAfter store after.connectionGeneration after.connection event
  memory : ∀ cpuId, after.memoryStates cpuId =
    memoryAfter event after.connection cpuId (store.memoryStates cpuId)
  metadata : metadataAfter event after.connection store.metadataState = .ok after.metadataState
  diagnostics : diagnosticsAfter event after.connection store.diagnosticsState =
    .ok after.diagnosticsState
  resources : ∀ cpuId, after.targetResources cpuId =
    resourceAfter event after.connection cpuId (store.targetResources cpuId)
  session : event = .sessionChanged → after.connection = none

section
variable {event : DomainEvent} {draft draft' : RuntimeStateDraft} {store : RuntimeStateStore}

theorem applyPolicies_cons {policy : DomainPolicy} {policies : List DomainPolicy}
    (applied : applyPolicies event (policy :: policies) draft = .ok draft') :
    ∃ next, policy.apply event draft = .ok next ∧ applyPolicies event policies next = .ok draft' := by
  unfold applyPolicies at applied
  cases first : policy.apply event draft with
  | error cause =>
    rw [first] at applied
    cases applied
  | ok next =>
    rw [first] at applied
    exact ⟨next, rfl, applied⟩

theorem map_ok {E α β : Type} {call : Except E α} {f : α → β} {b : β} (mapped : call.map f = .ok b) :
    ∃ a, call = .ok a ∧ f a = b := by
  cases call with
  | error failure => cases mapped
  | ok a =>
    cases mapped
    exact ⟨a, rfl, rfl⟩

theorem sessionStatePolicy_ok (applied : sessionStatePolicy.apply event draft = .ok draft') :
    draft' = draft.mapResources (sessionStateAfter event) ∧
      (event = .sessionChanged → draft.connection = none) := by
  cases there : draft.connection with
  | none =>
    simp only [sessionStatePolicy, there] at applied
    cases applied
    exact ⟨rfl, fun _ => rfl⟩
  | some connection =>
    simp only [sessionStatePolicy, there] at applied
    split at applied
    · cases applied
    · rename_i other
      cases applied
      exact ⟨rfl, fun changed => absurd rfl (other connection changed)⟩

/-- The policies behind those of the connection. -/
theorem applyPolicies_rest (applied : applyPolicies event (defaultDomainPolicies.drop 4) draft = .ok draft') :
    draft'.connectionGeneration = draft.connectionGeneration ∧
      draft'.connection = draft.connection ∧
      (∀ cpuId, draft'.memoryStates cpuId =
        memoryAfter event draft.connection cpuId (draft.memoryStates cpuId)) ∧
      metadataAfter event draft.connection draft.metadataState = .ok draft'.metadataState ∧
      diagnosticsAfter event draft.connection draft.diagnosticsState = .ok draft'.diagnosticsState ∧
      (∀ cpuId, draft'.targetResources cpuId =
        resourceAfter event draft.connection cpuId (draft.targetResources cpuId)) ∧
      (event = .sessionChanged → draft.connection = none) := by
  obtain ⟨_, ⟨⟩, applied⟩ := applyPolicies_cons applied
  obtain ⟨_, read, applied⟩ := applyPolicies_cons applied
  obtain ⟨metadataState, metadata, rfl⟩ := map_ok read
  obtain ⟨_, queried, applied⟩ := applyPolicies_cons applied
  obtain ⟨diagnosticsState, diagnostics, rfl⟩ := map_ok queried
  obtain ⟨_, ⟨⟩, applied⟩ := applyPolicies_cons applied
  obtain ⟨_, ⟨⟩, applied⟩ := applyPolicies_cons applied
  obtain ⟨_, ⟨⟩, applied⟩ := applyPolicies_cons applied
  obtain ⟨_, ⟨⟩, applied⟩ := applyPolicies_cons applied
  obtain ⟨_, session, applied⟩ := applyPolicies_cons applied
  obtain ⟨rfl, unconnected⟩ := sessionStatePolicy_ok session
  obtain ⟨_, ⟨⟩, applied⟩ := applyPolicies_cons applied
  obtain ⟨_, ⟨⟩, applied⟩ := applyPolicies_cons applied
  cases applied
  exact ⟨rfl, rfl, fun _ => rfl, metadata, diagnostics, fun _ => rfl, unconnected⟩

/-- The first two policies, which open and close connections. -/
theorem connectionStatePolicy_ok {first second : RuntimeStateDraft}
    (numbered : connectionGenerationPolicy.apply event store.draft = .ok first)
    (opened : connectionStatePolicy.apply event first = .ok second) :
    second.metadataState = store.metadataState ∧ second.memoryStates = store.memoryStates ∧
      second.diagnosticsState = store.diagnosticsState ∧
      second.targetResources = store.targetResources ∧
      ConnectionAfter store second.connectionGeneration
        (second.connection.map fun connection =>
          communicationErrorAfter event (healthAfter event connection)) event := by
  cases event with
  | connectionOpened info named =>
    cases numbered
    have ahead : ¬ store.connectionGeneration + 1 = store.connectionGeneration := Nat.succ_ne_self _
    cases built : ConnectionRuntimeState.fromConnectionInfo info (store.connectionGeneration + 1) with
    | error failure =>
      simp [connectionStatePolicy, RuntimeStateDraft.record, RuntimeStateStore.draft, built] at opened
    | ok connection =>
      simp only [connectionStatePolicy, RuntimeStateDraft.record, RuntimeStateStore.draft, built,
        if_neg ahead] at opened
      cases opened
      exact ⟨rfl, rfl, rfl, rfl, .opened built rfl rfl⟩
  | connectionClosed connectionId generation =>
    cases numbered
    cases was : store.connection with
    | none => simp [connectionStatePolicy, RuntimeStateStore.draft, was] at opened
    | some connection =>
      simp only [connectionStatePolicy, RuntimeStateStore.draft, was] at opened
      split at opened
      · cases opened
      split at opened
      · cases opened
      rename_i named current
      cases opened
      exact ⟨rfl, rfl, rfl, rfl, .closed was (Decidable.not_not.1 named)
        (Decidable.not_not.1 current) rfl rfl⟩
  | _ =>
    cases numbered
    cases opened
    exact ⟨rfl, rfl, rfl, rfl, .kept (by simp) (by simp) rfl rfl⟩

theorem generation_healthAfter (event : DomainEvent) (connection : ConnectionRuntimeState) :
    (healthAfter event connection).generation = connection.generation ∧
      (healthAfter event connection).cpuId = connection.cpuId := by
  unfold healthAfter
  split
  · split
    · exact ⟨rfl, rfl⟩
    split
    · exact ⟨rfl, rfl⟩
    · exact ⟨rfl, rfl⟩
  · split
    · exact ⟨rfl, rfl⟩
    split
    · exact ⟨rfl, rfl⟩
    · exact ⟨rfl, rfl⟩
  · exact ⟨rfl, rfl⟩

/-- What is recorded of a connection leaves its generation and its CPU alone. -/
theorem generation_recorded (event : DomainEvent) (connection : ConnectionRuntimeState) :
    (communicationErrorAfter event (healthAfter event connection)).generation =
        connection.generation ∧
      (communicationErrorAfter event (healthAfter event connection)).cpuId = connection.cpuId := by
  obtain ⟨generation, cpuId⟩ := generation_healthAfter event connection
  unfold communicationErrorAfter
  split
  · split
    · exact ⟨generation, cpuId⟩
    · exact ⟨generation, cpuId⟩
  · exact ⟨generation, cpuId⟩

theorem fromConnectionInfo_ok {info : ConnectionInfo} {generation : Nat}
    {connection : ConnectionRuntimeState}
    (built : ConnectionRuntimeState.fromConnectionInfo info generation = .ok connection) :
    connection.generation = generation ∧ connection.cpuId = info.targetKey := by
  unfold ConnectionRuntimeState.fromConnectionInfo at built
  simp only [bind, Except.bind] at built
  split at built
  · cases built
  split at built
  · cases built
  split at built
  · cases built
  cases built
  exact ⟨rfl, rfl⟩

/-- The check of the snapshot passes for what the policies leave. -/
theorem ConnectionAfter.active {generation : Nat} {connection : Option ConnectionRuntimeState}
    (changed : ConnectionAfter store generation connection event) :
    ∀ connection', connection = some connection' → connection'.generation = generation := by
  intro connection' present
  cases changed with
  | opened built present' next =>
    rw [present'] at present
    cases present
    rw [next]
    exact (fromConnectionInfo_ok built).1
  | closed _ _ _ gone _ =>
    rw [gone] at present
    cases present
  | kept _ _ recorded same =>
    rw [recorded, Option.map_eq_some_iff] at present
    obtain ⟨old, was, rfl⟩ := present
    rw [(generation_recorded event old).1, same]
    exact store.active old was

/-- What the policies leave is what is committed. -/
theorem transition_applied (applied : applyPolicies event defaultDomainPolicies store.draft = .ok draft) :
    ∃ committed, store.transition event defaultDomainPolicies =
        (.ok (committed, draft.derivedEvents), committed) ∧ Committed event store committed := by
  obtain ⟨first, numbered, behind⟩ := applyPolicies_cons applied
  obtain ⟨second, opened, behind⟩ := applyPolicies_cons behind
  obtain ⟨_, ⟨⟩, behind⟩ := applyPolicies_cons behind
  obtain ⟨_, ⟨⟩, behind⟩ := applyPolicies_cons behind
  obtain ⟨metadata, memory, diagnostics, resources, changed⟩ := connectionStatePolicy_ok numbered opened
  obtain ⟨generation, connection, memory', metadata', diagnostics', resources', session⟩ :=
    applyPolicies_rest behind
  dsimp only at generation connection memory' metadata' diagnostics' resources' session
  rw [← connection] at memory' metadata' diagnostics' resources' session
  rw [memory] at memory'
  rw [metadata] at metadata'
  rw [diagnostics] at diagnostics'
  rw [resources] at resources'
  rw [← generation] at changed
  rw [Option.map_map] at connection
  have whole : ConnectionAfter store draft.connectionGeneration draft.connection event := by
    rw [connection]
    exact changed
  unfold RuntimeStateStore.transition
  rw [applied]
  dsimp only [RuntimeStateDraft.candidate]
  rw [dif_pos whole.active]
  exact ⟨_, rfl, whole, memory', metadata', diagnostics', resources', session⟩

/-- The events on which a policy may raise. -/
def DomainEvent.mayRaise : DomainEvent → Bool
  | .connectionOpened _ _ | .connectionClosed _ _ | .sessionChanged
  | .metadataReadSucceeded _ _ _ _ | .diagnosticReadSucceeded _ _ _ _ _ => true
  | _ => false

/-- No policy raises on any other event. -/
theorem step_ok (store : RuntimeStateStore) (quiet : event.mayRaise = false) :
    ∃ committed, (runtimeStore.step store event).1 = .ok committed := by
  have applied : ∃ draft,
      applyPolicies event defaultDomainPolicies store.draft = .ok draft := by
    cases event with
    | connectionOpened | connectionClosed | sessionChanged | metadataReadSucceeded
    | diagnosticReadSucceeded => cases quiet
    | _ => exact ⟨_, rfl⟩
  obtain ⟨draft, applied⟩ := applied
  obtain ⟨committed, same, -⟩ := transition_applied applied
  exact ⟨_, congrArg Prod.fst same⟩

/-- The active connection can be closed. -/
theorem step_closed {connection : ConnectionRuntimeState} (active : store.connection = some connection) :
    ∃ committed,
      (runtimeStore.step store (.connectionClosed connection.connectionId connection.generation)).1 =
        .ok committed ∧
      (runtimeStore.step store
        (.connectionClosed connection.connectionId connection.generation)).2.connection = none := by
  have applied : ∃ draft, applyPolicies
      (.connectionClosed connection.connectionId connection.generation) defaultDomainPolicies
        store.draft = .ok draft := by
    simp [applyPolicies, defaultDomainPolicies, connectionGenerationPolicy, connectionStatePolicy,
      RuntimeStateStore.draft, active, connectionHealthPolicy, connectionCommunicationErrorPolicy,
      memoryFreshnessPolicy, metadataFreshnessPolicy, metadataAfter, diagnosticsFreshnessPolicy,
      diagnosticsAfter, evidenceInvalidationPolicy, verifyEvidencePolicy, ramCrcEvidencePolicy,
      sectorSelectionPolicy, sessionStatePolicy, programImageStatePolicy, ramImageStatePolicy,
      Except.map]
  obtain ⟨draft, applied⟩ := applied
  obtain ⟨committed, same, done⟩ := transition_applied applied
  have stepped : runtimeStore.step store
      (.connectionClosed connection.connectionId connection.generation) =
      (.ok (committed, draft.derivedEvents), committed) := same
  rw [stepped]
  refine ⟨_, rfl, ?_⟩
  cases done.connection with
  | closed _ _ _ gone _ => exact gone
  | kept _ closed _ _ => exact absurd rfl (closed _ _)

/-- A transition commits what the policies do, or it raises on an event on which it may
and leaves the store as it is. -/
theorem step_cases (store : RuntimeStateStore) (event : DomainEvent) :
    (event.mayRaise = true ∧ ∃ error, runtimeStore.step store event = (.error error, store)) ∨
      ∃ committed, (runtimeStore.step store event).1 = .ok committed ∧
        Committed event store (runtimeStore.step store event).2 := by
  have stepped : runtimeStore.step store event = store.transition event defaultDomainPolicies := rfl
  cases applied : applyPolicies event defaultDomainPolicies store.draft with
  | error error =>
    have raised : runtimeStore.step store event = (.error error, store) := by
      rw [stepped]
      unfold RuntimeStateStore.transition
      rw [applied]
    cases may : event.mayRaise with
    | true => exact .inl ⟨rfl, error, raised⟩
    | false =>
      obtain ⟨committed, ok⟩ := step_ok store may
      rw [raised] at ok
      cases ok
  | ok draft =>
    obtain ⟨committed, same, done⟩ := transition_applied applied
    rw [stepped, same]
    exact .inr ⟨_, rfl, done⟩

end

end BootUpgrade

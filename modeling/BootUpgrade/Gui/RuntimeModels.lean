import BootUpgrade.Host.FlashImage

/-!
# The state of the runtime store and the events that change it

The frozen dataclasses of `runtime_v2_models` and `runtime_v2_events`. What
their constructors check is in the types here, so that a value that exists is
one that has passed its checks.
-/

namespace BootUpgrade

open HostImages

/-- A string that is not empty. -/
abbrev Text := {s : String // s ≠ ""}

/-- A timezone-aware UTC time. -/
abbrev UtcTime := Int

/-- `RuntimeCpuId`. -/
inductive RuntimeCpuId where
  | cpu1
  | cpu2
  deriving DecidableEq, Repr

/-- What a policy or a constructor raises. -/
inductive RuntimeFailure where
  | valueError (message : String)
  | typeError (message : String)
  | runtimeError (message : String)
  | staleConnectionEventError (message : String)
  | sessionChangeBlockedError (message : String)
  deriving DecidableEq, Repr

inductive DataFreshness where
  | empty
  | fresh
  | stale
  deriving DecidableEq, Repr

inductive DiagnosticGroup where
  | deviceInfo
  | protocolInfo
  | lastError
  deriving DecidableEq, Repr

inductive EraseScope where
  | requiredAppSectors
  | entireApplicationRegion
  | custom
  deriving DecidableEq, Repr

structure RuntimeReadError where
  code : Text
  message : Text
  stage : Text
  deriving DecidableEq, Repr

/-! ## Values of reads -/

/-- A value that a read brings. A reference to an object that encloses it is
`enclosing`. -/
inductive RuntimeValue where
  | none
  | scalar (value : String)
  | mapping (keys : List String) (items : List RuntimeValue)
  | sequence (items : List RuntimeValue)
  | frozenDataclass (typeName : String) (items : List RuntimeValue)
  | enclosing
  | other (typeName : String)

/-- A value that nobody can change any more. -/
inductive FrozenValue where
  | none
  | scalar (value : String)
  | mappingProxy (keys : List String) (items : List FrozenValue)
  | tuple (items : List FrozenValue)
  | frozenDataclass (typeName : String) (items : List FrozenValue)

mutual

/-- `_freeze_runtime_value`. -/
def freezeRuntimeValue : RuntimeValue → Except RuntimeFailure FrozenValue
  | .none => .ok .none
  | .scalar value => .ok (.scalar value)
  | .mapping keys items => (freezeItems items).map (.mappingProxy keys)
  | .sequence items => (freezeItems items).map .tuple
  | .frozenDataclass typeName items => (freezeItems items).map (.frozenDataclass typeName)
  | .enclosing => .error (.typeError "cyclic Runtime V2 value")
  | .other typeName =>
    .error (.typeError ("unsupported mutable Runtime V2 value: " ++ typeName))

def freezeItems : List RuntimeValue → Except RuntimeFailure (List FrozenValue)
  | [] => .ok []
  | item :: items =>
    match freezeRuntimeValue item with
    | .error failure => .error failure
    | .ok frozen => (freezeItems items).map (frozen :: ·)

end

/-- `MetadataRuntimeState`. -/
structure MetadataRuntimeState where
  value : Option FrozenValue
  freshness : DataFreshness
  readError : Option RuntimeReadError
  fresh_value : freshness = .fresh → value.isSome

def MetadataRuntimeState.new : MetadataRuntimeState := ⟨none, .empty, none, by decide⟩

/-- `DiagnosticRuntimeState`; `group` is the key that it is kept under. -/
structure DiagnosticRuntimeState where
  value : Option FrozenValue
  freshness : DataFreshness
  readError : Option RuntimeReadError
  fresh_value : freshness = .fresh → value.isSome

def DiagnosticRuntimeState.new : DiagnosticRuntimeState := ⟨none, .empty, none, by decide⟩

/-! ## Images and evidence -/

structure FlashImageSummary where
  identity : ImageIdentity
  sectorMask : Nat
  deriving DecidableEq, Repr

structure RamImageIdentity where
  entryPoint : Nat
  totalWords : Nat
  imageCrc32 : Nat
  deriving DecidableEq, Repr

structure RamImageSummary where
  identity : RamImageIdentity
  deriving DecidableEq, Repr

/-- The parse status with the summary and the error that `_validate_parse_state`
admits for it. -/
inductive ImageParse (S : Type) where
  | empty
  | parsing
  | ready (summary : S)
  | error (message : Text)
  deriving DecidableEq, Repr

def ImageParse.summary {S : Type} : ImageParse S → Option S
  | .ready summary => some summary
  | _ => none

/-- `VerifyEvidence` of a CPU. -/
structure VerifyEvidence (cpuId : RuntimeCpuId) where
  connectionGeneration : Nat
  imageIdentity : ImageIdentity
  operationId : Text
  deriving DecidableEq, Repr

/-- `RamCrcEvidence` of a CPU; its entry point and its CRC are those of the identity. -/
structure RamCrcEvidence (cpuId : RuntimeCpuId) where
  connectionGeneration : Nat
  ramImageIdentity : RamImageIdentity
  operationId : Text
  deriving DecidableEq, Repr

/-- `TargetResourceState` of a CPU. -/
structure TargetResourceState (cpuId : RuntimeCpuId) where
  programImagePath : String
  programImage : ImageParse FlashImageSummary
  ramImagePath : String
  ramImage : ImageParse RamImageSummary
  eraseScope : EraseScope
  customSectorMask : Nat
  verifyEvidence : Option (VerifyEvidence cpuId)
  ramCrcEvidence : Option (RamCrcEvidence cpuId)
  deriving DecidableEq, Repr

def TargetResourceState.new (cpuId : RuntimeCpuId) : TargetResourceState cpuId :=
  ⟨"", .empty, "", .empty, .requiredAppSectors, 0, none, none⟩

/-! ## Connections and memory views -/

structure RuntimeCommunicationError where
  code : Text
  message : Text
  stage : Text
  occurredAt : UtcTime
  details : List (String × FrozenValue)

/-- `health_state` with the time and the error that go with it. -/
inductive ConnectionHealth where
  | unknown
  | healthy (checkedAt : UtcTime)
  | unhealthy (checkedAt : UtcTime) (error : RuntimeReadError)
  deriving DecidableEq, Repr

/-- `health_checked_at`. -/
def ConnectionHealth.checkedAt : ConnectionHealth → Option UtcTime
  | .unknown => none
  | .healthy checkedAt => some checkedAt
  | .unhealthy checkedAt _ => some checkedAt

/-- `ConnectionInfo`; `target_key` is one of the two names of a CPU. -/
structure ConnectionInfo where
  connectionId : String
  transportLabel : String
  endpointLabel : String
  connectedAt : UtcTime
  targetKey : RuntimeCpuId
  deriving DecidableEq, Repr

structure ConnectionRuntimeState where
  generation : Nat
  connectionId : Text
  cpuId : RuntimeCpuId
  transportLabel : Text
  endpointLabel : Text
  connectedAt : UtcTime
  lastProtocolActivity : UtcTime
  health : ConnectionHealth
  lastCommunicationError : Option RuntimeCommunicationError
  connected_le : connectedAt ≤ lastProtocolActivity

def checkText (value name : String) : Except RuntimeFailure Text :=
  if ne : value ≠ "" then .ok ⟨value, ne⟩
  else .error (.valueError (name ++ " must be a non-empty string"))

/-- `ConnectionRuntimeState.from_connection_info`. -/
def ConnectionRuntimeState.fromConnectionInfo (info : ConnectionInfo) (generation : Nat) :
    Except RuntimeFailure ConnectionRuntimeState := do
  let connectionId ← checkText info.connectionId "connection_id"
  let transportLabel ← checkText info.transportLabel "transport_label"
  let endpointLabel ← checkText info.endpointLabel "endpoint_label"
  return {
    generation, connectionId, transportLabel, endpointLabel
    cpuId := info.targetKey
    connectedAt := info.connectedAt
    lastProtocolActivity := info.connectedAt
    health := .unknown
    lastCommunicationError := none
    connected_le := Int.le_refl info.connectedAt }

/-- The data of a memory view. -/
structure RetainedMemory where
  baseAddress : Nat
  words : List UInt16
  readAt : UtcTime
  connectionGeneration : Nat
  words_ne : words ≠ []
  deriving DecidableEq, Repr

/-- `MemoryRuntimeState`. -/
structure MemoryRuntimeState where
  freshness : DataFreshness
  retained : Option RetainedMemory
  readError : Option RuntimeReadError
  empty_iff : freshness = .empty ↔ retained = none
  fresh_error : freshness = .fresh → readError = none
  deriving DecidableEq, Repr

namespace MemoryRuntimeState

def new : MemoryRuntimeState := ⟨.empty, none, none, by decide, by decide⟩

/-- A view that has just been read. -/
def read (memory : RetainedMemory) : MemoryRuntimeState where
  freshness := .fresh
  retained := some memory
  readError := none
  empty_iff := by simp
  fresh_error := fun _ => rfl

/-- The view with what it retains, if anything, marked as `STALE`. -/
def stale (state : MemoryRuntimeState) (readError : Option RuntimeReadError) :
    MemoryRuntimeState where
  freshness := if state.retained.isSome then .stale else .empty
  retained := state.retained
  readError := readError
  empty_iff := by cases state.retained <;> simp
  fresh_error := by cases state.retained <;> simp

end MemoryRuntimeState

/-- `RuntimeV2Snapshot`, which is also what `RuntimeStateStore` holds. -/
structure RuntimeV2Snapshot where
  connectionGeneration : Nat
  connection : Option ConnectionRuntimeState
  targetResources : (cpuId : RuntimeCpuId) → TargetResourceState cpuId
  memoryStates : RuntimeCpuId → MemoryRuntimeState
  metadataState : MetadataRuntimeState
  diagnosticsState : DiagnosticGroup → DiagnosticRuntimeState
  active : ∀ connection', connection = some connection' →
    connection'.generation = connectionGeneration

abbrev RuntimeStateStore := RuntimeV2Snapshot

def RuntimeStateStore.new : RuntimeStateStore where
  connectionGeneration := 0
  connection := none
  targetResources := TargetResourceState.new
  memoryStates := fun _ => .new
  metadataState := .new
  diagnosticsState := fun _ => .new
  active := by simp

/-! ## Events -/

/-- `operation_type` with the `image_identity` that `_operation_identity` admits
for it. -/
inductive RuntimeOperation where
  | erase (image : Option ImageIdentity)
  | program (image : ImageIdentity)
  | verify (image : ImageIdentity)
  | ramLoad (image : RamImageIdentity)
  | ramCrc (image : RamImageIdentity)
  deriving DecidableEq, Repr

namespace RuntimeOperation

/-- ERASE, PROGRAM or VERIFY. -/
def onFlash : RuntimeOperation → Bool
  | .erase _ | .program _ | .verify _ => true
  | .ramLoad _ | .ramCrc _ => false

/-- ERASE or PROGRAM. -/
def writesFlash : RuntimeOperation → Bool
  | .erase _ | .program _ => true
  | _ => false

end RuntimeOperation

/-- What `OperationStarted`, `OperationSucceeded` and `OperationFailed` say of the
operation. -/
structure OperationEvent where
  operationId : Text
  operation : RuntimeOperation
  cpuId : RuntimeCpuId
  connectionGeneration : Nat
  deriving DecidableEq, Repr

/-- `ConnectionHealthChanged.state` with its error. -/
inductive HealthResult where
  | healthy
  | unhealthy (error : RuntimeReadError)
  deriving DecidableEq, Repr

def HealthResult.at (checkedAt : UtcTime) : HealthResult → ConnectionHealth
  | .healthy => .healthy checkedAt
  | .unhealthy error => .unhealthy checkedAt error

inductive DomainEvent where
  | metadataReadSucceeded (cpuId : RuntimeCpuId) (connectionGeneration : Nat) (value : RuntimeValue)
      (present : value ≠ .none)
  | metadataReadFailed (cpuId : RuntimeCpuId) (connectionGeneration : Nat) (error : RuntimeReadError)
  | metadataWriteStarted (operationId : Text) (cpuId : RuntimeCpuId) (connectionGeneration : Nat)
      (imageIdentity : Option ImageIdentity)
  | diagnosticReadSucceeded (cpuId : RuntimeCpuId) (connectionGeneration : Nat)
      (group : DiagnosticGroup) (value : RuntimeValue) (present : value ≠ .none)
  | diagnosticReadFailed (cpuId : RuntimeCpuId) (connectionGeneration : Nat)
      (group : DiagnosticGroup) (error : RuntimeReadError)
  | memoryReadSucceeded (cpuId : RuntimeCpuId) (memory : RetainedMemory)
  | memoryReadFailed (cpuId : RuntimeCpuId) (connectionGeneration : Nat) (error : RuntimeReadError)
  | memoryCleared (cpuId : RuntimeCpuId)
  | activeTargetChanged (cpuId : Option RuntimeCpuId)
  | programImageChanged (cpuId : RuntimeCpuId) (path : String) (image : ImageParse FlashImageSummary)
      (named : image ≠ .empty → path ≠ "")
  | ramImageChanged (cpuId : RuntimeCpuId) (path : String) (image : ImageParse RamImageSummary)
      (named : image ≠ .empty → path ≠ "")
  | sectorSelectionChanged (cpuId : RuntimeCpuId) (eraseScope : EraseScope) (customSectorMask : Nat)
  | connectionOpened (info : ConnectionInfo) (named : info.connectionId ≠ "")
  | connectionClosed (connectionId : Text) (connectionGeneration : Nat)
  | connectionGenerationChanged (previousGeneration : Nat)
  | protocolActivityRecorded (connectionGeneration : Nat) (occurredAt : UtcTime)
  | connectionHealthChanged (connectionGeneration : Nat) (result : HealthResult) (checkedAt : UtcTime)
  | communicationErrorRecorded (connectionGeneration : Nat) (error : RuntimeCommunicationError)
  | operationStarted (operation : OperationEvent)
  | operationSucceeded (operation : OperationEvent)
  | operationFailed (operation : OperationEvent) (errorCode : Text)
  | sessionChanged

end BootUpgrade

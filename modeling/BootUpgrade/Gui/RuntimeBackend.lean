import BootUpgrade.Lib.Procedures
import BootUpgrade.Host.RamImage
import BootUpgrade.Host.ServiceRuntime
import BootUpgrade.Gui.ConnectionCommandExecutor
import BootUpgrade.Gui.RuntimePolicies

/-!
# The runtime backend

`RuntimeBackend` of `gui/runtime_backend.py`: the connection that it owns, the
images and the service that have been selected, and the runtime store. Every
entry takes the lock of the backend for its whole body, so that the entries come
one after another. What files, the device and the clock answer is given to an
entry from outside.
-/

namespace BootUpgrade

open Runs HostImages

/-! ## Targets and connections -/

/-- The fields of `CommandSet` that the backend asks for. -/
inductive CommandField where
  | getServiceStatus
  | serviceAttach
  | ramLoadBegin
  | ramLoadData
  | ramLoadEnd
  | ramCheckCrc
  | runRam
  | erase
  | programBegin
  | programData
  | programEnd
  | verifyBegin
  | verifyData
  | verifyEnd
  | getMetadataSummary
  | metadataAppendRecord
  deriving DecidableEq, Repr

deriving instance DecidableEq for AddressRange, FlashLayout

/-- `TargetProfile`, with the fields of its command set that are not `None`. -/
structure TargetProfile where
  name : String
  cpuId : Nat
  commandSet : List CommandField
  flash : Option FlashLayout
  deriving DecidableEq

/-- The digit of the key. -/
def RuntimeCpuId.number : RuntimeCpuId → Nat
  | cpu1 => 1
  | cpu2 => 2

/-- `ActiveTargetContext`. -/
structure ActiveTargetContext where
  targetKey : RuntimeCpuId
  connection : ConnectionRuntimeState
  profile : TargetProfile

/-- An `UpgradeSession`, with the number of the transport it was made over;
`exposed` says whether `session.config.transport` is that transport. -/
structure Session where
  transport : Nat
  exposed : Bool
  deriving DecidableEq, Repr

/-- What can be closed. -/
inductive Resource where
  | session (session : Session)
  | transport (transport : Nat)
  deriving DecidableEq, Repr

/-- The transport that is closed with the resource. -/
def Resource.transportOf : Resource → Nat
  | session owner => owner.transport
  | transport number => number

/-- What `_status_connection` returns. -/
structure CapturedConnection where
  session : Session
  profile : TargetProfile
  connectionId : String
  targetKey : RuntimeCpuId
  generation : Nat
  executor : ConnectionCommandExecutor
  deriving DecidableEq

/-! ## The Flash service -/

inductive ImageSourceKind where
  | out
  | txt
  deriving DecidableEq, Repr

inductive Hex2000Source where
  | notUsed
  | globalSettings
  | c2000CgRoot
  deriving DecidableEq, Repr

/-- `SourceFileFingerprint`. -/
structure SourceFileFingerprint where
  resolvedPath : String
  sizeBytes : Nat
  mtimeNs : Nat
  deriving DecidableEq, Repr

/-- `PreparedFlashServiceSummary`; the header symbol is the same in all. -/
structure PreparedFlashServiceSummary where
  targetKey : RuntimeCpuId
  providerName : String
  serviceImagePath : String
  serviceMapPath : String
  resourceRevision : Nat
  toolConfigurationRevision : Nat
  imageSourceKind : ImageSourceKind
  imageFingerprint : SourceFileFingerprint
  mapFingerprint : SourceFileFingerprint
  headerAddress : Nat
  totalWords : Nat
  expectedCrc32 : UInt32
  requiredCapabilities : UInt32
  hex2000Source : Hex2000Source
  hex2000Executable : Option String
  deriving DecidableEq, Repr

/-- `FlashServiceResourceStatus` with the summary or the error that goes with it. -/
inductive FlashServiceResource where
  | unvalidated
  | ready (summary : PreparedFlashServiceSummary)
  | unavailable (code message : String)
  | error (code message : String)
  | stale (code message : String)
  deriving DecidableEq, Repr

/-- `FlashServiceResourceState`. -/
structure FlashServiceResourceState where
  revision : Nat
  providerName : String
  imagePath : Option String
  mapPath : Option String
  resource : FlashServiceResource
  ready_paths : ∀ summary, resource = .ready summary →
    imagePath = some summary.serviceImagePath ∧ mapPath = some summary.serviceMapPath
  ready_revision : ∀ summary, resource = .ready summary →
    revision = summary.resourceRevision ∧ providerName = summary.providerName
  deriving DecidableEq

def FlashServiceResource.isReady : FlashServiceResource → Bool
  | ready _ => true
  | _ => false

def FlashServiceResource.isUnavailable : FlashServiceResource → Bool
  | unavailable _ _ => true
  | _ => false

namespace FlashServiceResourceState

/-- The state of a service that is not ready. -/
def notReady (revision : Nat) (providerName : String) (imagePath mapPath : Option String)
    (resource : FlashServiceResource) (not_ready : resource.isReady = false) :
    FlashServiceResourceState where
  revision := revision
  providerName := providerName
  imagePath := imagePath
  mapPath := mapPath
  resource := resource
  ready_paths := by
    rintro summary rfl
    cases not_ready
  ready_revision := by
    rintro summary rfl
    cases not_ready

theorem unconfigured_not_ready : (FlashServiceResource.unavailable "APP_RESOURCE_PROVIDER_REQUIRED"
    "No AppResourceProvider is configured").isReady = false := rfl

def new : FlashServiceResourceState :=
  notReady 0 "Unconfigured" none none
    (.unavailable "APP_RESOURCE_PROVIDER_REQUIRED" "No AppResourceProvider is configured")
    unconfigured_not_ready

/-- The state of a service that has been validated. -/
def ofSummary (summary : PreparedFlashServiceSummary) : FlashServiceResourceState where
  revision := summary.resourceRevision
  providerName := summary.providerName
  imagePath := some summary.serviceImagePath
  mapPath := some summary.serviceMapPath
  resource := .ready summary
  ready_paths := by simp
  ready_revision := by simp

def summary (state : FlashServiceResourceState) : Option PreparedFlashServiceSummary :=
  match state.resource with
  | .ready summary => some summary
  | _ => none

end FlashServiceResourceState

/-! ## What the device is asked -/

/-- `RamImageIdentity(entry_point, total_words, image_crc32)` of a prepared image. -/
def HostImages.PreparedRamImage.identity (image : PreparedRamImage) : RamImageIdentity :=
  ⟨image.entryPoint, image.totalWords, image.imageCrc32⟩

/-- `OperationErrorInfo`; `communication` is its domain. -/
structure OperationErrorInfo where
  code : String
  message : String
  stage : String
  details : List (String × FrozenValue)
  communication : Bool

/-- `summary.get(..)` of a number. -/
inductive SummaryNumber where
  | absent
  | number (value : Int)
  | other
  deriving DecidableEq, Repr

/-- What the backend reads of an `OperationResult`. -/
structure DeviceResult where
  completion : OperationCompletion
  target : String
  stage : String
  totalWords : SummaryNumber
  imageCrc32 : SummaryNumber
  error : Option OperationErrorInfo
  failed_iff : completion = .failed ↔ error.isSome

/-- `OperationResult.ok`. -/
def DeviceResult.ok (result : DeviceResult) : Bool :=
  result.completion = .succeeded || result.completion = .completedAfterCancelRequest

/-- The operations that the backend carries out on the device. -/
inductive DeviceOperation where
  | eraseFlashImageArea (image : PreparedFlashImage)
  | eraseSectorMask (sectorMask : Nat)
  | programFlashImage (image : PreparedFlashImage)
  | verifyFlashImage (image : PreparedFlashImage)
  | appendImageValid (image : PreparedFlashImage)
  | appendBootAttempt
  | appendAppConfirmed
  | loadRamImage (image : PreparedRamImage)
  | checkRamCrc (image : PreparedRamImage)
  | runRamImage (entryPoint : Nat)
  | getMetadataSummary

/-- An operation of a task, on the connection of a generation, and how it has ended:
`none` when it has raised. -/
structure DeviceCall where
  taskId : Text
  generation : Nat
  operation : DeviceOperation
  completion : Option OperationCompletion

/-- What the backend does that others can see. -/
inductive BackendAction where
  | dispatched (event : DomainEvent)
  | called (call : DeviceCall)
  | opened (transport : Nat)
  | closing (resource : Resource) (closed : Bool)

/-! ## The state and its procedures -/

/-- `_ImagePreparationFailure`. -/
structure ImagePreparationFailure where
  code : String
  message : String
  imagePath : Option String
  mapPath : Option String
  commitServiceState : Bool
  deriving DecidableEq, Repr

def ImagePreparationFailure.of (code message : String) : ImagePreparationFailure :=
  ⟨code, message, none, none, true⟩

/-- How an entry ends without its result: with one of the `_.._request_failure` results, a
failed preparation, or another exception. -/
inductive BackendError where
  | rejected (code message : String)
  | preparation (failure : ImagePreparationFailure)
  | transition (error : DomainTransitionError)
  | raised (failure : RuntimeFailure)

/-- The fields of `RuntimeBackend`; `nextTransport` numbers the transports that are made and
`actions` is the record of what it has done. -/
structure RuntimeBackend where
  store : RuntimeStateStore
  session : Option Session
  transport : Option Nat
  target : Option TargetProfile
  deviceCpuId : Option Nat
  connectionInfo : Option ConnectionInfo
  executor : Option ConnectionCommandExecutor
  pendingClose : Option Resource
  programImageRevisions : RuntimeCpuId → Nat
  ramImageRevisions : RuntimeCpuId → Nat
  configurationRevision : Nat
  providerName : Option String
  flashServiceResourceState : FlashServiceResourceState
  nextTransport : Nat
  actions : List BackendAction

abbrev BackendProcedure := Procedure RuntimeBackend BackendError

namespace RuntimeBackend

def new : RuntimeBackend where
  store := .new
  session := none
  transport := none
  target := none
  deviceCpuId := none
  connectionInfo := none
  executor := none
  pendingClose := none
  programImageRevisions := fun _ => 0
  ramImageRevisions := fun _ => 0
  configurationRevision := 0
  providerName := none
  flashServiceResourceState := .new
  nextTransport := 0
  actions := []

/-- `DomainEventDispatcher.dispatch`. -/
def dispatch (event : DomainEvent) : BackendProcedure Unit := fun b =>
  let transition := runtimeStore.step b.store event
  (match transition.1 with
    | .ok _ => .ok ()
    | .error error => .error (.transition error),
    { b with store := transition.2, actions := b.actions ++ [.dispatched event] })

open Procedure

def fail {α : Type} (code message : String) : BackendProcedure α :=
  raise (.preparation (.of code message))

def reject {α : Type} (code message : String) : BackendProcedure α := raise (.rejected code message)

/-- Go on if the condition holds. -/
def require (holds : Bool) (error : BackendError) : BackendProcedure Unit :=
  check fun _ => if holds then .ok () else .error error

/-- `except _ImagePreparationFailure`: do something about it and raise. -/
def onPreparationFailure {α : Type} (p : BackendProcedure α)
    (handle : ImagePreparationFailure → BackendProcedure Unit) : BackendProcedure α := do
  match ← p.attempt with
  | .ok value => pure value
  | .error (.preparation failure) => do
    handle failure
    raise (.preparation failure)
  | .error error => raise error

/-! ## The active connection -/

/-- `active_target_context`. -/
def activeTargetContext (b : RuntimeBackend) : Option ActiveTargetContext := do
  let connection ← b.store.connection
  let info ← b.connectionInfo
  let profile ← b.target
  let deviceCpuId ← b.deviceCpuId
  if connection.connectionId.1 = info.connectionId ∧
      connection.generation = b.store.connectionGeneration ∧ connection.cpuId = info.targetKey ∧
      profile.cpuId = deviceCpuId ∧ info.targetKey.number = profile.cpuId then
    some ⟨info.targetKey, connection, profile⟩
  else none

/-- `_status_connection` without an expected one. -/
def statusConnection (b : RuntimeBackend) (connectionId : String) : Option CapturedConnection := do
  let session ← b.session
  let context ← b.activeTargetContext
  let executor ← b.executor
  if context.connection.connectionId.1 = connectionId ∧ executor.isValid = true ∧
      executor.generation = context.connection.generation then
    some {
      session, executor
      profile := context.profile
      connectionId := context.connection.connectionId.1
      targetKey := context.targetKey
      generation := context.connection.generation }
  else none

/-- `_status_connection(connection_id, captured)` is not `None`. -/
def stillConnected (b : RuntimeBackend) (connectionId : String) (captured : CapturedConnection) :
    Bool :=
  b.statusConnection connectionId == some captured

/-- `_release_connection_executor`. -/
def releaseConnectionExecutor : BackendProcedure Unit := update fun b => { b with executor := none }

def dispatchClosed (connection : Option ConnectionRuntimeState) : BackendProcedure Unit :=
  match connection with
  | none => pure ()
  | some connection => dispatch (.connectionClosed connection.connectionId connection.generation)

/-- `_clear_active`. -/
def clearActive : BackendProcedure Unit := do
  releaseConnectionExecutor
  let connection ← read fun b => b.store.connection
  dispatchClosed connection
  update fun b => { b with
    session := none
    transport := none
    target := none
    deviceCpuId := none
    connectionInfo := none }

/-- `apply_session_change`. -/
def applySessionChange : BackendProcedure Unit := do
  let active ← read fun b =>
    b.session.isSome || b.transport.isSome || b.connectionInfo.isSome || b.pendingClose.isSome ||
      b.store.connection.isSome
  require (!active)
    (.raised (.runtimeError "Session change requires a fully disconnected RuntimeBackend"))
  dispatch .sessionChanged
  update fun b => { b with
    programImageRevisions := fun _ => 0
    ramImageRevisions := fun _ => 0 }

end RuntimeBackend

end BootUpgrade

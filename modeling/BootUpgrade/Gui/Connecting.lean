import Mathlib.Logic.Relation
import BootUpgrade.Gui.RuntimeBackend

/-!
# Opening and closing the connection

`_connect` and `_close` with all their exits. What the transport, the session, the
discovery and the progress callbacks do is given to an entry as its answers; a
transport is opened and closed in the record of the actions.
-/

namespace BootUpgrade

/-! ## What a connect is answered -/

/-- The exceptions that the opening of a transport tells apart. -/
inductive ConnectException where
  | transportTimeout (message : String)
  | transportError (message : String)
  | osError (message : String)
  | other (failure : RuntimeFailure)
  deriving DecidableEq, Repr

/-- `TransportOpenStatus`. -/
inductive TransportOpenStatus where
  | opened
  | cancelled
  deriving DecidableEq, Repr

/-- What `session.connect` ends with once its result has been validated, and whether it
leaves the transport open. A result that reports CANCELLED has released its resource. -/
structure OpenAnswer where
  result : Except ConnectException TransportOpenStatus
  leavesOpen : Bool
  released : result = .ok .cancelled → leavesOpen = false

inductive DiscoveryAnswer where
  /-- The operation raises, or its outcome is not a valid one. -/
  | raised (failure : RuntimeFailure)
  | failed (code message : String)
  | discovered (profile : TargetProfile) (deviceCpuId : Nat)
      (info : Except RuntimeFailure ConnectionInfo)

/-- How the attempts to close a session and its transport end. -/
structure CleanupAnswer where
  session : Except String Unit
  transport : Except String Unit

/-- The answers to one `connect`, in the order in which they are asked for. -/
structure ConnectAnswers where
  settings : Except String Unit
  pendingClosed : Except String Unit
  transport : Except RuntimeFailure Unit
  session : Except RuntimeFailure Bool
  connectStarted : Except RuntimeFailure Unit
  opening : OpenAnswer
  /-- The construction of the result of a cancelled opening. -/
  cancelledBuilt : Except ConnectException Unit
  connectCompleted : Except ConnectException Unit
  cancelBeforeDiscovery : Bool
  identifyStarted : Except RuntimeFailure Unit
  discovery : DiscoveryAnswer
  identifyCompleted : Except RuntimeFailure Unit
  cancelAfterDiscovery : Bool
  /-- The construction of the result that is returned. -/
  resultBuilt : Except RuntimeFailure Unit
  executor : Except RuntimeFailure Unit
  cleanup : CleanupAnswer
  /-- The cleanup of the last handler, which can be the second one. -/
  lastCleanup : CleanupAnswer

/-- The answers to one `disconnect` or `shutdown`. -/
structure CloseAnswers where
  started : Except RuntimeFailure Unit
  closed : Except String Unit
  completed : Except RuntimeFailure Unit

/-- The `TaskExecutionResult` of a connect, a disconnect or a shutdown. -/
inductive ConnectionOutcome where
  | connected (info : ConnectionInfo)
  | closed
  | cancelled
  | failed (code message : String) (cleanupPending : Bool)
  deriving DecidableEq, Repr

namespace RuntimeBackend

open Procedure

/-! ## The procedures -/

def act (action : BackendAction) : BackendProcedure Unit :=
  update fun b => { b with actions := b.actions ++ [action] }

/-- A call of something that may raise. -/
def external {α : Type} (answer : Except RuntimeFailure α) : BackendProcedure α :=
  check fun _ => answer.mapError .raised

/-- `_close_resource`, with its exception caught. -/
def closeResource (resource : Resource) (closed : Except String Unit) :
    BackendProcedure (Except String Unit) := do
  act (.closing resource closed.isOk)
  return closed

/-- The part of `_cleanup_partial` behind the session, which is still to be closed if
it is there. -/
def cleanupTransport (session : Option Session) (transport : Option Nat) (errors : List String)
    (closed : Except String Unit) : BackendProcedure (List String) :=
  match transport with
  | some number => do
    match ← closeResource (.transport number) closed with
    | .error message => do
      update fun b => { b with pendingClose := some (.transport number) }
      return errors ++ ["transport: " ++ message]
    | .ok () => do
      update fun b => { b with
        pendingClose := (session.filter fun session => !session.exposed).map .session }
      return errors
  | none => do
    update fun b => { b with pendingClose := session.map .session }
    return errors

/-- `_cleanup_partial`. -/
def cleanupPartial (session : Option Session) (transport : Option Nat) (answer : CleanupAnswer) :
    BackendProcedure (List String) := do
  update fun b => { b with pendingClose := none }
  match session with
  | some open' => do
    match ← closeResource (.session open') answer.session with
    | .error message => cleanupTransport session transport ["session: " ++ message] answer.transport
    | .ok () => return []
  | none => cleanupTransport none transport [] answer.transport

/-- The result of a failed connect, which knows of a resource that is still to be closed. -/
def connectFailed (code message : String) (built : Except RuntimeFailure Unit) :
    BackendProcedure ConnectionOutcome := do
  external built
  let cleanupPending ← read fun b => b.pendingClose.isSome
  return .failed code message cleanupPending

section
variable (answers : ConnectAnswers) (session : Session) (transport : Nat)

/-- `_connect_failure`. -/
def connectFailure (code message : String) : BackendProcedure ConnectionOutcome := do
  let _ ← cleanupPartial (some session) (some transport) answers.cleanup
  clearActive
  connectFailed code message answers.resultBuilt

/-- `_cancel_open_connection`. -/
def cancelOpenConnection : BackendProcedure ConnectionOutcome := do
  let errors ← cleanupPartial (some session) (some transport) answers.cleanup
  clearActive
  if errors.isEmpty then do
    external answers.resultBuilt
    return .cancelled
  else
    connectFailed "CONNECT_CANCELLATION_CLEANUP_FAILED" "Connection cancellation cleanup failed"
      answers.resultBuilt

/-- `dispatch(ConnectionOpened(connection_info))`. -/
def dispatchOpened (info : ConnectionInfo) : BackendProcedure Unit :=
  if named : info.connectionId ≠ "" then dispatch (.connectionOpened info named)
  else raise (.raised (.valueError "connection_id must be a non-empty string"))

/-- The connection becomes the active one. -/
def activate (profile : TargetProfile) (deviceCpuId : Nat) (info : ConnectionInfo) :
    BackendProcedure ConnectionOutcome := do
  update fun b => { b with
    session := some session
    transport := some transport
    target := some profile
    deviceCpuId := some deviceCpuId
    connectionInfo := some info }
  dispatchOpened info
  external answers.executor
  update fun b => { b with executor := some (.new b.store.connectionGeneration) }
  return .connected info

/-- The body of the last `try` of `_connect`. -/
def identifyTarget : BackendProcedure ConnectionOutcome := do
  external answers.identifyStarted
  match answers.discovery with
  | .raised failure => raise (.raised failure)
  | .failed code message => connectFailure answers session transport code message
  | .discovered profile deviceCpuId info => do
    let info ← external info
    external answers.identifyCompleted
    if answers.cancelAfterDiscovery then cancelOpenConnection answers session transport
    else do
      external answers.resultBuilt
      activate answers session transport profile deviceCpuId info

/-- The last `try` of `_connect` with its handler. -/
def identify : BackendProcedure ConnectionOutcome := do
  match ← (identifyTarget answers session transport).attempt with
  | .ok outcome => return outcome
  | .error error => do
    clearActive
    let _ ← cleanupPartial (some session) (some transport) answers.lastCleanup
    raise error

/-- The handlers of the opening. -/
def openFailure : ConnectException → BackendProcedure ConnectionOutcome
  | .transportTimeout message =>
    connectFailure answers session transport "SCI_AUTOBAUD_TIMEOUT" message
  | .transportError message | .osError message =>
    connectFailure answers session transport "SCI_CONNECTION_FAILED" message
  | .other failure => do
    let _ ← cleanupPartial (some session) (some transport) answers.lastCleanup
    clearActive
    raise (.raised failure)

/-- `session.connect`: its transport may be open afterwards. -/
def openTransport : BackendProcedure Unit :=
  if answers.opening.leavesOpen then act (.opened session.transport) else pure ()

/-- `_connect` from the opening of the transport on. -/
def openSession : BackendProcedure ConnectionOutcome := do
  openTransport answers session
  match answers.opening.result with
  | .error exception => openFailure answers session transport exception
  | .ok .cancelled => do
    clearActive
    match answers.cancelledBuilt with
    | .error exception => openFailure answers session transport exception
    | .ok () => return .cancelled
  | .ok .opened =>
    match answers.connectCompleted with
    | .error exception => openFailure answers session transport exception
    | .ok () =>
      if answers.cancelBeforeDiscovery then cancelOpenConnection answers session transport
      else identify answers session transport

end

/-- The construction of the transport and of the session. -/
def construct (answers : ConnectAnswers) : BackendProcedure (Session × Nat) :=
  match answers.transport with
  | .error failure => do
    let _ ← cleanupPartial none none answers.cleanup
    clearActive
    raise (.raised failure)
  | .ok () => do
    let transport ← read (·.nextTransport)
    update fun b => { b with nextTransport := b.nextTransport + 1 }
    match answers.session with
    | .error failure => do
      let _ ← cleanupPartial none (some transport) answers.cleanup
      clearActive
      raise (.raised failure)
    | .ok exposed => return (⟨transport, exposed⟩, transport)

/-- `_connect` behind the cleanup of a connection before. -/
def startConnection (answers : ConnectAnswers) : BackendProcedure ConnectionOutcome := do
  let (session, transport) ← construct answers
  external answers.connectStarted
  openSession answers session transport

/-- `_connect`. -/
def connect (answers : ConnectAnswers) : BackendProcedure ConnectionOutcome :=
  match answers.settings with
  | .error message => connectFailed "INVALID_CONNECTION_SETTINGS" message (.ok ())
  | .ok () => do
    let owned ← read fun b => b.session.isSome || b.transport.isSome
    require (!owned)
      (.raised (.runtimeError "connect requested while RuntimeBackend owns a session"))
    match ← read (·.pendingClose) with
    | none => startConnection answers
    | some resource => do
      match ← closeResource resource answers.pendingClosed with
      | .error message => return .failed "SERIAL_CLOSE_FAILED" message true
      | .ok () => do
        releaseConnectionExecutor
        update fun b => { b with pendingClose := none }
        startConnection answers

/-- `self._session or self._transport or self._pending_close`. -/
def ownedResource (b : RuntimeBackend) : Option Resource :=
  (b.session.map .session).or ((b.transport.map .transport).or b.pendingClose)

/-- `_close`, of a disconnect and of a shutdown. -/
def close (answers : CloseAnswers) : BackendProcedure ConnectionOutcome := do
  external answers.started
  let resource ← read ownedResource
  update fun b => { b with pendingClose := resource }
  match resource with
  | none => do
    clearActive
    external answers.completed
    return .closed
  | some resource => do
    match ← closeResource resource answers.closed with
    | .error message => return .failed "SERIAL_CLOSE_FAILED" message true
    | .ok () => do
      update fun b => { b with pendingClose := none }
      clearActive
      external answers.completed
      return .closed

/-! ## What the entries do to the state -/

/-- One thing that the entries do. -/
inductive Move (b : RuntimeBackend) : RuntimeBackend → Prop where
  | fields {b' : RuntimeBackend} (store : b'.store = b.store) (actions : b'.actions = b.actions) :
    Move b b'
  | opened (transport : Nat) : Move b { b with actions := b.actions ++ [.opened transport] }
  | closing (resource : Resource) (closed : Bool) :
    Move b { b with actions := b.actions ++ [.closing resource closed] }
  | connectionOpened (info : ConnectionInfo) (named : info.connectionId ≠ "") :
    Move b (dispatch (.connectionOpened info named) b).2
  | connectionClosed (connectionId : Text) (generation : Nat) :
    Move b (dispatch (.connectionClosed connectionId generation) b).2

abbrev Moves := Relation.ReflTransGen Move

section
variable {α β : Type} {p : BackendProcedure α} {f : α → BackendProcedure β}

theorem moves_bind (first : Within Moves p) (rest : ∀ value, Within Moves (f value)) :
    Within Moves (p >>= f) :=
  within_bind Relation.ReflTransGen.trans first rest

theorem moves_check (g : RuntimeBackend → Except BackendError α) : Within Moves (check g) :=
  within_check (fun _ => .refl) g

theorem moves_pure (value : α) : Within Moves (pure value : BackendProcedure α) := fun _ => .refl

theorem moves_update {g : RuntimeBackend → RuntimeBackend} (store : ∀ b, (g b).store = b.store)
    (actions : ∀ b, (g b).actions = b.actions) :
    Within Moves (update g : BackendProcedure Unit) :=
  within_update fun b => .single (.fields (store b) (actions b))

end

section
variable {resource : Resource} {closed : Except String Unit} {session : Option Session}
  {transport : Option Nat}

theorem moves_closeResource : Within Moves (closeResource resource closed) :=
  moves_bind (within_update fun _ => .single (.closing ..)) fun _ => moves_pure _

theorem moves_cleanupTransport {errors : List String} :
    Within Moves (cleanupTransport session transport errors closed) := by
  unfold cleanupTransport
  split
  · apply moves_bind moves_closeResource
    intro tried
    split
    · exact moves_bind (moves_update (fun _ => rfl) fun _ => rfl) fun _ => moves_pure _
    · exact moves_bind (moves_update (fun _ => rfl) fun _ => rfl) fun _ => moves_pure _
  · exact moves_bind (moves_update (fun _ => rfl) fun _ => rfl) fun _ => moves_pure _

theorem moves_cleanupPartial {answer : CleanupAnswer} :
    Within Moves (cleanupPartial session transport answer) := by
  refine moves_bind (moves_update (fun _ => rfl) fun _ => rfl) fun _ => ?_
  split
  · apply moves_bind moves_closeResource
    intro tried
    split
    · exact moves_cleanupTransport
    · exact moves_pure _
  · exact moves_cleanupTransport

theorem moves_clearActive : Within Moves clearActive := by
  refine moves_bind (moves_update (fun _ => rfl) fun _ => rfl) fun _ => ?_
  apply moves_bind (moves_check _)
  intro connection
  refine moves_bind ?_ fun _ => moves_update (fun _ => rfl) fun _ => rfl
  cases connection with
  | none => exact moves_pure _
  | some connection => exact fun _ => .single (.connectionClosed ..)

theorem moves_connectFailed {code message : String} {built : Except RuntimeFailure Unit} :
    Within Moves (connectFailed code message built) :=
  moves_bind (moves_check _) fun _ => moves_bind (moves_check _) fun _ => moves_pure _

end

section
variable {answers : ConnectAnswers} {session : Session} {transport : Nat}

theorem moves_connectFailure {code message : String} :
    Within Moves (connectFailure answers session transport code message) :=
  moves_bind moves_cleanupPartial fun _ =>
    moves_bind moves_clearActive fun _ => moves_connectFailed

theorem moves_cancelOpenConnection : Within Moves (cancelOpenConnection answers session transport) := by
  apply moves_bind moves_cleanupPartial
  intro errors
  apply moves_bind moves_clearActive
  intro _
  split
  · exact moves_bind (moves_check _) fun _ => moves_pure _
  · exact moves_connectFailed

theorem moves_activate {profile : TargetProfile} {deviceCpuId : Nat} {info : ConnectionInfo} :
    Within Moves (activate answers session transport profile deviceCpuId info) := by
  refine moves_bind (moves_update (fun _ => rfl) fun _ => rfl) fun _ => ?_
  apply moves_bind
  · unfold dispatchOpened
    split
    · exact fun _ => .single (.connectionOpened ..)
    · exact moves_check _
  · exact fun _ => moves_bind (moves_check _) fun _ =>
      moves_bind (moves_update (fun _ => rfl) fun _ => rfl) fun _ => moves_pure _

theorem moves_identifyTarget : Within Moves (identifyTarget answers session transport) := by
  apply moves_bind (moves_check _)
  intro _
  split
  · exact moves_check _
  · exact moves_connectFailure
  · apply moves_bind (moves_check _)
    intro info
    apply moves_bind (moves_check _)
    intro _
    split
    · exact moves_cancelOpenConnection
    · exact moves_bind (moves_check _) fun _ => moves_activate

theorem moves_identify : Within Moves (identify answers session transport) := by
  apply moves_bind (Within.attempt moves_identifyTarget)
  intro tried
  split
  · exact moves_pure _
  · exact moves_bind moves_clearActive fun _ =>
      moves_bind moves_cleanupPartial fun _ => moves_check _

theorem moves_openFailure {exception : ConnectException} :
    Within Moves (openFailure answers session transport exception) := by
  cases exception with
  | transportTimeout message => exact moves_connectFailure
  | transportError message => exact moves_connectFailure
  | osError message => exact moves_connectFailure
  | other failure =>
    exact moves_bind moves_cleanupPartial fun _ =>
      moves_bind moves_clearActive fun _ => moves_check _

theorem moves_openSession : Within Moves (openSession answers session transport) := by
  apply moves_bind
  · unfold openTransport
    split
    · exact within_update fun _ => .single (.opened _)
    · exact moves_pure _
  intro _
  split
  · exact moves_openFailure
  · apply moves_bind moves_clearActive
    intro _
    split
    · exact moves_openFailure
    · exact moves_pure _
  · split
    · exact moves_openFailure
    split
    · exact moves_cancelOpenConnection
    · exact moves_identify

theorem moves_construct : Within Moves (construct answers) := by
  unfold construct
  split
  · exact moves_bind moves_cleanupPartial fun _ =>
      moves_bind moves_clearActive fun _ => moves_check _
  · apply moves_bind (moves_check _)
    intro number
    refine moves_bind (moves_update (fun _ => rfl) fun _ => rfl) fun _ => ?_
    split
    · exact moves_bind moves_cleanupPartial fun _ =>
        moves_bind moves_clearActive fun _ => moves_check _
    · exact moves_pure _

theorem moves_startConnection : Within Moves (startConnection answers) :=
  moves_bind moves_construct fun _ =>
    moves_bind (moves_check _) fun _ => moves_openSession

theorem moves_connect : Within Moves (connect answers) := by
  unfold connect
  split
  · exact moves_connectFailed
  apply moves_bind (moves_check _)
  intro owned
  apply moves_bind (moves_check _)
  intro _
  apply moves_bind (moves_check _)
  intro pending
  split
  · exact moves_startConnection
  · apply moves_bind moves_closeResource
    intro tried
    split
    · exact moves_pure _
    · exact moves_bind (moves_update (fun _ => rfl) fun _ => rfl) fun _ =>
        moves_bind (moves_update (fun _ => rfl) fun _ => rfl) fun _ => moves_startConnection

theorem moves_close {answers : CloseAnswers} : Within Moves (close answers) := by
  apply moves_bind (moves_check _)
  intro _
  apply moves_bind (moves_check _)
  intro resource
  refine moves_bind (moves_update (fun _ => rfl) fun _ => rfl) fun _ => ?_
  split
  · exact moves_bind moves_clearActive fun _ =>
      moves_bind (moves_check _) fun _ => moves_pure _
  · apply moves_bind moves_closeResource
    intro tried
    split
    · exact moves_pure _
    · exact moves_bind (moves_update (fun _ => rfl) fun _ => rfl) fun _ =>
        moves_bind moves_clearActive fun _ =>
          moves_bind (moves_check _) fun _ => moves_pure _

end

/-- The record of the actions only grows. -/
theorem Moves.actions {b b' : RuntimeBackend} (h : Moves b b') : b.actions <+: b'.actions := by
  induction h with
  | refl => exact List.prefix_refl _
  | tail _ move ih =>
    apply ih.trans
    cases move with
    | fields _ actions => exact actions ▸ List.prefix_refl _
    | opened transport => exact List.prefix_append ..
    | closing resource closed => exact List.prefix_append ..
    | connectionOpened info named => exact List.prefix_append ..
    | connectionClosed connectionId generation => exact List.prefix_append ..

end RuntimeBackend

end BootUpgrade

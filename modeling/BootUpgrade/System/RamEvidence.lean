import BootUpgrade.Core.HeldLoad
import BootUpgrade.Host.TransferAccepted
import BootUpgrade.Host.TransferClean
import BootUpgrade.Host.FlashOperations
import BootUpgrade.Gui.Evidence
import BootUpgrade.Gui.RuntimeBackend

/-!
# RAM CRC evidence and the load of the device

The runtime store and the bootloader core of one connection, with the operations
of the PC as steps. A RAM load and a check of its CRC take the evidence away when
they start. The operations that need the Flash service do not, although the load
of the service takes the place of the load that the evidence is about.
-/

namespace BootUpgrade

open Runs HostImages

namespace RamEvidence

open HostOperations BootAlgorithm TransferKind Dialogue

variable {σ : Type}

/-- The PC and the device. -/
structure Connected (σ : Type) where
  store : RuntimeStateStore
  core : Core σ

/-! ## Steps -/

def succeedsRamCrc : DomainEvent → Bool
  | .operationSucceeded ⟨_, .ramCrc _, _, _⟩ => true
  | _ => false

/-- An event that a RAM CRC check does not dispatch for its success. -/
abbrev OtherEvent := {event : DomainEvent // succeedsRamCrc event = false}

def dispatch (store : RuntimeStateStore) (event : DomainEvent) : RuntimeStateStore :=
  (runtimeStore.step store event).2

def dispatchAll (store : RuntimeStateStore) (events : List OtherEvent) : RuntimeStateStore :=
  events.foldl (fun store event => dispatch store event.1) store

/-- A request for a RAM operation. -/
structure RamTask where
  taskId : Text
  connectionId : String
  cpuId : RuntimeCpuId
  connectionGeneration : Nat
  expectedImageIdentity : RamImageIdentity

namespace RamTask

def event (task : RamTask) (operation : RamImageIdentity → RuntimeOperation)
    (identity : RamImageIdentity) : OperationEvent :=
  ⟨task.taskId, operation identity, task.cpuId, task.connectionGeneration⟩

/-- The target of the connection is the one that is asked for. -/
def admitted (task : RamTask) (store : RuntimeStateStore) : Bool :=
  store.connection.any fun connection => connection.cpuId == task.cpuId

/-- `_dispatch_clean_ram_crc_success` up to the dispatch. `unchanged` says that the file,
the selection with its revisions and the session are still those of the request. -/
def clean (task : RamTask) (store : RuntimeStateStore) (image : PreparedRamImage)
    (unchanged : Bool) : Except HostError (OperationResult (Nat × Nat)) → Bool
  | .ok (.succeeded (imageCrc32, totalWords)) =>
    totalWords == image.totalWords && imageCrc32 == image.imageCrc32 && unchanged &&
      store.connectionGeneration == task.connectionGeneration &&
      (store.connection.any fun connection => connection.connectionId.1 == task.connectionId &&
        connection.cpuId == task.cpuId && connection.generation == task.connectionGeneration) &&
      image.identity == task.expectedImageIdentity &&
      (store.targetResources task.cpuId).ramImage.summary.any (·.identity == image.identity)
  | _ => false

end RamTask

/-- The operations that need the Flash service. -/
inductive FlashOperation where
  | eraseFlashImageArea (image : PreparedFlashImage)
  | eraseSectorMask (sectorMask : Nat)
  | programFlashImage (image : PreparedFlashImage)
  | verifyFlashImage (image : PreparedFlashImage)
  | appendImageValid (image : PreparedFlashImage)
  | appendBootAttempt
  | appendAppConfirmed
  | attachFlashService

/-- What an operation asks, whatever becomes of it. -/
def asked {S : Type} (d : HostDialogue (OperationResult S)) : HostDialogue Unit :=
  d.bind fun _ => .done ()

def FlashOperation.dialogue (ctx : FlashOperationContext) : FlashOperation → HostDialogue Unit
  | eraseFlashImageArea image => asked (HostOperations.eraseFlashImageArea ctx image)
  | eraseSectorMask sectorMask => asked (HostOperations.eraseSectorMask ctx sectorMask)
  | programFlashImage image => asked (HostOperations.programFlashImage ctx image)
  | verifyFlashImage image => asked (HostOperations.verifyFlashImage ctx image)
  | appendImageValid image => asked (HostOperations.appendImageValid ctx image)
  | appendBootAttempt => asked (HostOperations.appendBootAttempt ctx)
  | appendAppConfirmed => asked (HostOperations.appendAppConfirmed ctx)
  | attachFlashService => asked (HostOperations.attachFlashService ctx)

/-- The request leaves the load alone. -/
def LeavesLoad (q : HostRequest) : Prop := ¬ ChangesLoad q.command

abbrev LinkFaults := List (Delivery HostError)

/-- A step of the PC. The events that come while an operation is at work are given with
it; those around the operations on the Flash are steps of their own. -/
inductive HostStep where
  | event (event : OtherEvent)
  | loadRam (task : RamTask) (image : PreparedRamImage) (ctx : OperationContext)
      (meanwhile : List OtherEvent) (link : LinkFaults)
  | checkRamCrc (task : RamTask) (image : PreparedRamImage) (ctx : OperationContext)
      (meanwhile : List OtherEvent) (unchanged : Bool) (link : LinkFaults)
  | runRam (cpuId : RuntimeCpuId) (ctx : OperationContext) (link : LinkFaults)
  | flash (operation : FlashOperation) (ctx : FlashOperationContext) (link : LinkFaults)
  | ask (dialogue : HostDialogue Unit) (leaves : dialogue.Always LeavesLoad) (link : LinkFaults)

section
variable (features : BootFeatures) (code : ServiceCode σ)

/-- An operation of the PC on the device. -/
def exchange {α : Type} (d : HostDialogue α) (core : Core σ) (link : LinkFaults) :
    Ran HostRequest HostAnswer HostError (Core σ × LinkFaults) α :=
  d.run (overLink (coreServer features code)) (core, link)

abbrev Exchanges := List (HostRequest × Except HostError HostAnswer)

def step (s : Connected σ) : HostStep → Exchanges × Connected σ
  | .event event => ([], { s with store := dispatch s.store event.1 })
  | .loadRam task image ctx meanwhile link =>
    if task.admitted s.store then
      let started := dispatch s.store
        (.operationStarted (task.event .ramLoad task.expectedImageIdentity))
      let ran := exchange features code (loadRamImage ctx image) s.core link
      (ran.exchanges, ⟨dispatchAll started meanwhile, ran.state.1⟩)
    else ([], s)
  | .checkRamCrc task image ctx meanwhile unchanged link =>
    if task.admitted s.store then
      let started := dispatch s.store
        (.operationStarted (task.event .ramCrc task.expectedImageIdentity))
      let store := dispatchAll started meanwhile
      let ran := exchange features code (checkRamCrc ctx image) s.core link
      if task.clean store image unchanged ran.result then
        (ran.exchanges,
          ⟨dispatch store (.operationSucceeded (task.event .ramCrc image.identity)), ran.state.1⟩)
      else (ran.exchanges, ⟨store, ran.state.1⟩)
    else ([], s)
  | .runRam cpuId ctx link =>
    match (s.store.targetResources cpuId).ramCrcEvidence with
    | none => ([], s)
    | some evidence =>
      let ran := exchange features code (runRamImage ctx evidence.ramImageIdentity.entryPoint) s.core
        link
      (ran.exchanges, { s with core := ran.state.1 })
  | .flash operation ctx link =>
    let ran := exchange features code (operation.dialogue ctx) s.core link
    (ran.exchanges, { s with core := ran.state.1 })
  | .ask dialogue _ link =>
    let ran := exchange features code dialogue s.core link
    (ran.exchanges, { s with core := ran.state.1 })

def machine : Machine (Connected σ) HostStep Exchanges where
  step := step features code

end

/-! ## What the evidence says -/

/-- The session is the completed and checked load of the image. -/
structure HoldsLoad (identity : RamImageIdentity) (load : BootTransferSession) : Prop where
  idle : load.active = 0
  ready : load.imageReady ≠ 0
  checked : load.crcChecked ≠ 0
  entryPoint : load.entryPoint.toNat = identity.entryPoint
  totalWords : load.expectedTotalWords.toNat = identity.totalWords
  crc : load.crc32.toNat = identity.imageCrc32

instance (identity : RamImageIdentity) (load : BootTransferSession) :
    Decidable (HoldsLoad identity load) :=
  decidable_of_iff (load.active = 0 ∧ load.imageReady ≠ 0 ∧ load.crcChecked ≠ 0 ∧
      load.entryPoint.toNat = identity.entryPoint ∧
      load.expectedTotalWords.toNat = identity.totalWords ∧
      load.crc32.toNat = identity.imageCrc32)
    ⟨fun ⟨a, b, c, d, e, f⟩ => ⟨a, b, c, d, e, f⟩, fun ⟨a, b, c, d, e, f⟩ => ⟨a, b, c, d, e, f⟩⟩

/-- The device holds the load of every image that there is evidence for. -/
def EvidenceHolds (s : Connected σ) : Prop :=
  ∀ cpuId evidence, (s.store.targetResources cpuId).ramCrcEvidence = some evidence →
    HoldsLoad evidence.ramImageIdentity s.core.algorithm.ramLoad

def NoEvidence (store : RuntimeStateStore) : Prop :=
  ∀ cpuId, (store.targetResources cpuId).ramCrcEvidence = none

/-- What GET_SERVICE_STATUS reports. -/
def reportedStatus (c : Core σ) : ServiceStatus where
  serviceState := c.algorithm.serviceState.state
  abiMajor := BootFlashServiceAbi.abiMajor
  abiMinor := BootFlashServiceAbi.abiMinor
  reserved0 := 0
  reserved1 := 0
  capabilities := c.algorithm.serviceState.capabilities
  lastAttachStatus := c.algorithm.serviceState.lastAttachStatus
  loadedImageCrc32 := c.algorithm.serviceState.loadedCrc32
  loadedImageWords := c.algorithm.serviceState.loadedWords

/-- No operation on the Flash loads the service while there is evidence, and the CRC is
checked for no image that differs from the load in its entry point alone. -/
def Careful (s : Connected σ) : HostStep → Prop
  | .flash _ ctx _ => NoEvidence s.store ∨
    (ctx.forceServiceAttach = false ∧ serviceMatches ctx (reportedStatus s.core) = true)
  | .checkRamCrc _ image _ _ _ _ => s.core.algorithm.ramLoad.imageReady ≠ 0 →
    s.core.algorithm.ramLoad.crc32.toNat = image.imageCrc32 →
    s.core.algorithm.ramLoad.expectedTotalWords.toNat = image.totalWords →
    s.core.algorithm.ramLoad.entryPoint.toNat = image.entryPoint
  | _ => True

/-! ## What the device does -/

section
variable {features : BootFeatures} {code : ServiceCode σ} {c : Core σ} {q : HostRequest}

/-- An answer of the core is its response to the frame. -/
theorem coreServer_answer {a : HostAnswer} (answer : (coreServer features code c q).1 = .ok a) :
    ∃ fits : q.payload.length ≤ 256,
      let r := processOne (frameOf q fits) features code .ok c
      a = ⟨r.response.status, r.response.payload⟩ ∧ (coreServer features code c q).2 = r.core := by
  unfold coreServer at answer ⊢
  split at answer
  · rename_i fits
    rw [dif_pos fits]
    exact ⟨fits, (Except.ok.inj answer).symm, rfl⟩
  · cases answer

theorem coreServer_leaves (leaves : LeavesLoad q) :
    (coreServer features code c q).2.algorithm.ramLoad = c.algorithm.ramLoad := by
  unfold coreServer
  split
  · exact processOne_keeps rfl leaves
  · rfl

theorem coreServer_one (one : OneAtATime c.algorithm.ramLoad) :
    OneAtATime (coreServer features code c q).2.algorithm.ramLoad := by
  unfold coreServer
  split
  · rename_i fits
    have step : Steps code (frameOf q fits) c (processOne (frameOf q fits) features code .ok c) :=
      processOne_step features .ok
    exact oneAtATime_step step one
  · exact one

variable {α : Type} {d : HostDialogue α} {link : LinkFaults}

/-- What the requests of an operation keep, the operation keeps over any link. -/
theorem exchange_keeps {P : HostRequest → Prop} {inv : Core σ → Prop}
    (step : ∀ c q, P q → inv c → inv (coreServer features code c q).2) (asks : d.Always P)
    (h : inv c) : inv (exchange features code d c link).state.1 := by
  let held (s : Core σ × LinkFaults) : Prop := inv s.1
  have linked : ∀ s q, P q → held s → held (overLink (coreServer features code) s q).2 := by
    intro s q asked h
    unfold held
    have served : (overLink (coreServer features code) s q).2.1 = s.1 ∨
        (overLink (coreServer features code) s q).2.1 = (coreServer features code s.1 q).2 :=
      overLink_state
    rcases served with same | handled
    · rw [same]
      exact h
    · rw [handled]
      exact step s.1 q asked h
  exact asks.keeps linked (h : held (c, link))

theorem exchange_leaves (leaves : d.Always LeavesLoad) :
    (exchange features code d c link).state.1.algorithm.ramLoad = c.algorithm.ramLoad := by
  let inv (core : Core σ) : Prop := core.algorithm.ramLoad = c.algorithm.ramLoad
  have step : ∀ core q, LeavesLoad q → inv core → inv (coreServer features code core q).2 := by
    intro core q leaves same
    exact (coreServer_leaves leaves).trans same
  exact exchange_keeps step leaves (rfl : inv c)

theorem always_any (d : HostDialogue α) : d.Always fun _ => True := by
  induction d with
  | done value => trivial
  | fail error => trivial
  | ask q next ih => exact ⟨trivial, ih⟩

theorem exchange_one (d : HostDialogue α) (one : OneAtATime c.algorithm.ramLoad) :
    OneAtATime (exchange features code d c link).state.1.algorithm.ramLoad := by
  let inv (core : Core σ) : Prop := OneAtATime core.algorithm.ramLoad
  have step : ∀ core q, True → inv core → inv (coreServer features code core q).2 :=
    fun core q _ one => coreServer_one one
  exact exchange_keeps step (always_any d) (one : inv c)

end

/-! ## The check of the CRC -/

section
variable {S : Type} {server : HostServer S} {s : S} {limit expectedCrc32 expectedTotalWords : Nat}

def crcRequest (expectedCrc32 expectedTotalWords : Nat) : HostRequest :=
  HostClient.hostRequest BootCmd.ramCheckCrc
    (HostClient.lowHigh expectedCrc32 ++ HostClient.lowHigh expectedTotalWords ++ [0])

/-- A check that succeeds has been accepted. -/
theorem succeeds_ramCheckCrc {post : List UInt16 → S → Prop}
    (h : Succeeds server (ramCheckCrcProtocol limit expectedCrc32 expectedTotalWords) s post) :
    expectedCrc32 ≤ 0xFFFFFFFF ∧ expectedTotalWords ≤ 0xFFFFFFFF ∧
      ∃ a, (server s (crcRequest expectedCrc32 expectedTotalWords)).1 = .ok a ∧
        a.status = BootStatus.ok ∧
        post a.payload (server s (crcRequest expectedCrc32 expectedTotalWords)).2 := by
  unfold ramCheckCrcProtocol at h
  rw [succeeds_bind_iff, succeeds_lift_iff] at h
  obtain ⟨payload, built, h⟩ := h
  unfold HostClient.splitU32 at built
  by_cases crc : expectedCrc32 > 0xFFFFFFFF
  · rw [if_pos crc] at built
    cases built
  by_cases words : expectedTotalWords > 0xFFFFFFFF
  · rw [if_neg crc, if_pos words] at built
    cases built
  rw [if_neg crc, if_neg words] at built
  have payloadIs : payload = HostClient.lowHigh expectedCrc32 ++ HostClient.lowHigh expectedTotalWords ++
      [0] := (Except.ok.inj built).symm
  subst payloadIs
  refine ⟨Nat.le_of_not_lt crc, Nat.le_of_not_lt words, ?_⟩
  by_cases encodable : HostClient.Encodable limit
      (HostClient.lowHigh expectedCrc32 ++ HostClient.lowHigh expectedTotalWords ++ [0])
  · exact (succeeds_transact encodable).1 h
  · obtain ⟨error, refused⟩ : ∃ error, HostClient.transact limit BootCmd.ramCheckCrc _ = .fail error :=
      HostClient.transact_refused encodable
    rw [refused] at h
    exact (not_succeeds_fail h).elim

end

section
variable {features : BootFeatures} {code : ServiceCode σ} {c : Core σ} {link : LinkFaults}
  {ctx : OperationContext} {image : PreparedRamImage}

/-- The core accepts a check of the load that is ready only. -/
theorem coreServer_checked {q : HostRequest} (command : q.command = BootCmd.ramCheckCrc)
    {a : HostAnswer} (answer : (coreServer features code c q).1 = .ok a)
    (ok : a.status = BootStatus.ok) :
    c.algorithm.ramLoad.imageReady ≠ 0 ∧
      joinU32 (q.payload.getD 0 0) (q.payload.getD 1 0) = c.algorithm.ramLoad.crc32 ∧
      joinU32 (q.payload.getD 2 0) (q.payload.getD 3 0) = c.algorithm.ramLoad.expectedTotalWords ∧
      (coreServer features code c q).2.algorithm.ramLoad =
        { c.algorithm.ramLoad with crcChecked := 1 } := by
  obtain ⟨fits, aIs, after⟩ := coreServer_answer answer
  rw [aIs] at ok
  have accepted := processOne_accepted ok
  have dispatched : BootAlgorithm.dispatch (frameOf q fits) features code c =
      handleRamCheckCrc (frameOf q fits) c := dispatch_ramCheckCrc
        (show (frameOf q fits).command = BootCmd.ramCheckCrc from command)
  dsimp only at ok after
  rw [after]
  rw [accepted, dispatched] at ok ⊢
  rw [← word_payload q fits, ← word_payload q fits, ← word_payload q fits, ← word_payload q fits]
  exact handleRamCheckCrc_accepted ok

theorem coreServer_crc {expectedCrc32 expectedTotalWords : Nat} (crc : expectedCrc32 ≤ 0xFFFFFFFF)
    (words : expectedTotalWords ≤ 0xFFFFFFFF) {a : HostAnswer}
    (answer : (coreServer features code c (crcRequest expectedCrc32 expectedTotalWords)).1 = .ok a)
    (ok : a.status = BootStatus.ok) :
    c.algorithm.ramLoad.imageReady ≠ 0 ∧ c.algorithm.ramLoad.crc32.toNat = expectedCrc32 ∧
      c.algorithm.ramLoad.expectedTotalWords.toNat = expectedTotalWords ∧
      (coreServer features code c (crcRequest expectedCrc32 expectedTotalWords)).2.algorithm.ramLoad =
        { c.algorithm.ramLoad with crcChecked := 1 } := by
  obtain ⟨ready, crc32, totalWords, after⟩ := coreServer_checked rfl answer ok
  refine ⟨ready, ?_, ?_, after⟩
  · rw [← crc32]
    exact HostClient.joinU32_lowHigh crc
  · rw [← totalWords]
    exact HostClient.joinU32_lowHigh words

/-- A check that succeeds is a check of the load that is ready. -/
theorem exchange_checkRamCrc {summary : Nat × Nat}
    (success : (exchange features code (checkRamCrc ctx image) c link).result =
      .ok (.succeeded summary)) :
    c.algorithm.ramLoad.imageReady ≠ 0 ∧ c.algorithm.ramLoad.crc32.toNat = image.imageCrc32 ∧
      c.algorithm.ramLoad.expectedTotalWords.toNat = image.totalWords ∧
      (exchange features code (checkRamCrc ctx image) c link).state.1.algorithm.ramLoad =
        { c.algorithm.ramLoad with crcChecked := 1 } := by
  have post := failureResult_succeeds success
  rw [succeeds_bind_iff, succeeds_lift_iff] at post
  obtain ⟨_, -, post⟩ := post
  rw [succeeds_bind_iff] at post
  obtain ⟨crc, words, a, answer, ok, post⟩ := succeeds_ramCheckCrc post
  rw [succeeds_done_iff] at post
  obtain ⟨served, same⟩ := overLink_answer answer
  obtain ⟨ready, crc32, totalWords, after⟩ := coreServer_crc crc words served ok
  refine ⟨ready, crc32, totalWords, ?_⟩
  rw [← same] at after
  exact (congrArg (fun s' => s'.1.algorithm.ramLoad) post.2).symm.trans after

end

/-! ## A service that is used again -/

section
variable {features : BootFeatures} {code : ServiceCode σ} {c : Core σ} {link : LinkFaults}
  {ctx : FlashOperationContext} {α S : Type}

/-- The operation leaves the load of `c` alone. -/
def Leaves (features : BootFeatures) (code : ServiceCode σ) (c : Core σ) (d : HostDialogue α)
    (s : Core σ × LinkFaults) : Prop :=
  Ends (overLink (coreServer features code)) d s fun _ _ s' =>
    s'.1.algorithm.ramLoad = c.algorithm.ramLoad

theorem leaves_of_always {d : HostDialogue α} (asks : d.Always LeavesLoad) {s : Core σ × LinkFaults}
    (same : s.1.algorithm.ramLoad = c.algorithm.ramLoad) : Leaves features code c d s :=
  (exchange_leaves asks).trans same

theorem leaves_failureResult {d : HostDialogue (OperationResult S)} {s : Core σ × LinkFaults}
    (h : Leaves features code c d s) : Leaves features code c (failureResult d) s := by
  unfold Leaves Ends
  rw [(failureResult_run _ s).1]
  exact h

theorem leavesLoad_of_service {q : HostRequest} (asks : AsksService q) : LeavesLoad q := by
  intro changes
  have apart : serviceCommands.all (fun command => decide (¬ ChangesLoad command)) = true := by
    decide
  exact of_decide_eq_true (List.all_eq_true.1 apart _ asks) changes

/-- A status that arrives is the one that the core reports. -/
theorem ends_readStatus : Ends (overLink (coreServer features code)) (readStatus ctx) (c, link)
    fun result _ s' => s'.1.algorithm.ramLoad = c.algorithm.ramLoad ∧
      ∀ status, result = .ok status → status = reportedStatus c := by
  have leaves : (readStatus ctx).Always LeavesLoad := by
    apply Dialogue.Always.bind
    · apply HostClient.transact_always
      show ¬ ChangesLoad BootCmd.getServiceStatus
      decide
    · exact fun words => always_lift _
  constructor
  · exact exchange_leaves leaves
  · intro status read
    have succeeds : Succeeds (overLink (coreServer features code)) (readStatus ctx) (c, link)
        fun value _ => value = status := ⟨status, read, rfl⟩
    have encodable : HostClient.Encodable ctx.maxPayloadWords [] := by
      constructor
      · exact Nat.zero_le _
      · intro word mem
        cases mem
    unfold readStatus at succeeds
    rw [succeeds_bind_iff, succeeds_transact encodable] at succeeds
    obtain ⟨a, answer, ok, parsed⟩ := succeeds
    obtain ⟨value, words, valueIs⟩ := succeeds_lift_iff.1 parsed
    obtain ⟨served, -⟩ := overLink_answer answer
    obtain ⟨fits, aIs, -⟩ := coreServer_answer served
    subst aIs
    have reported : ServiceStatus.fromWords (processOne (frameOf
        (HostClient.hostRequest BootCmd.getServiceStatus []) fits) features code .ok
          c).response.payload = .ok (reportedStatus c) := by
      show Except.ok _ = Except.ok _
      unfold reportedStatus
      rw [Words.joinU32_lowWord_highWord, Words.joinU32_lowWord_highWord,
        Words.joinU32_lowWord_highWord]
    rw [reported] at words
    rw [← valueIs, Except.ok.inj words]

variable (force : ctx.forceServiceAttach = false)
  (same : serviceMatches ctx (reportedStatus c) = true)
include force same

theorem ensureServiceAttached_leaves :
    Leaves features code c (ensureServiceAttached ctx) (c, link) := by
  have silent : ∀ info service, (serviceCancelled info service).Always LeavesLoad := by
    intro info service
    exact (always_lift _).bind fun _ => trivial
  unfold ensureServiceAttached
  split
  · exact leaves_of_always (silent _ _) rfl
  · apply ends_bind ends_readStatus
    · intro error exchanges s' h
      exact h.1
    · intro status exchanges s' h
      have statusIs := h.2 status rfl
      subst statusIs
      rw [if_pos (by rw [force, same]; rfl)]
      split
      · exact leaves_of_always (silent _ _) h.1
      · exact h.1

theorem withService_leaves {cancelled : Except HostError OperationCancellationInfo}
    {admission : Except HostError Unit}
    {recoveryAction : Option {action // action ∈ recoveryActions}}
    {rest : HostDialogue (OperationResult S)} (asks : rest.Always AsksService) :
    Leaves features code c (withService ctx cancelled admission recoveryAction rest) (c, link) := by
  apply leaves_failureResult
  split
  · apply leaves_of_always _ rfl
    exact (always_lift _).bind fun _ => trivial
  · apply ends_bind (ends_lift rfl : Ends _ (Dialogue.lift admission) (c, link)
      fun _ _ s' => s' = (c, link))
    · rintro error exchanges s' rfl
      rfl
    · rintro _ exchanges s' rfl
      apply ends_bind (ensureServiceAttached_leaves force same)
      · exact fun error exchanges s' h => h
      · intro service exchanges s' h
        cases service with
        | error item => exact h
        | ok summary => exact leaves_of_always (asks.mono fun _ => leavesLoad_of_service) h

/-- An operation that finds the service attached leaves the load alone. -/
theorem flashOperation_leaves (operation : FlashOperation) :
    (exchange features code (operation.dialogue ctx) c link).state.1.algorithm.ramLoad =
      c.algorithm.ramLoad := by
  have done {S : Type} {d : HostDialogue (OperationResult S)}
      (h : Leaves features code c d (c, link)) : Leaves features code c (asked d) (c, link) := by
    apply ends_bind h
    · exact fun error exchanges s' h => h
    · exact fun value exchanges s' h => h
  show Leaves features code c (operation.dialogue ctx) (c, link)
  cases operation with
  | eraseFlashImageArea image =>
    exact done (withService_leaves force same (eraseMasks_always ctx _))
  | eraseSectorMask sectorMask =>
    exact done (withService_leaves force same (eraseMasks_always ctx _))
  | programFlashImage image =>
    exact done (withService_leaves force same
      (transferFlash_always ctx (by decide) (by decide) (by decide) image))
  | verifyFlashImage image =>
    exact done (withService_leaves force same
      (transferFlash_always ctx (by decide) (by decide) (by decide) image))
  | appendImageValid image => exact done (withService_leaves force same (appendRecord_always ctx _ _))
  | appendBootAttempt => exact done (withService_leaves force same (appendRecord_always ctx _ _))
  | appendAppConfirmed => exact done (withService_leaves force same (appendRecord_always ctx _ _))
  | attachFlashService =>
    apply done
    apply leaves_failureResult
    apply ends_bind (ensureServiceAttached_leaves force same)
    · exact fun error exchanges s' h => h
    · intro service exchanges s' h
      cases service with
      | error item => exact h
      | ok summary =>
        dsimp only
        split
        · exact h
        · split <;> exact h

end

/-! ## The invariant -/

theorem kept_iff {cpuId : RuntimeCpuId} {resource : TargetResourceState cpuId}
    {evidence : RamCrcEvidence cpuId} : ramCrcKind.kept resource =
        some (evidence.connectionGeneration, evidence.ramImageIdentity, evidence.operationId) ↔
      resource.ramCrcEvidence = some evidence := by
  constructor
  · intro kept
    obtain ⟨other, present, same⟩ := Option.map_eq_some_iff.1 kept
    obtain ⟨generation, identity, operationId⟩ := other
    cases same
    exact present
  · intro present
    exact congrArg (Option.map _) present

section
variable {store : RuntimeStateStore} {event : DomainEvent}

/-- Evidence that is there behind another event was there before it. -/
theorem evidence_dispatch (other : succeedsRamCrc event = false) {cpuId : RuntimeCpuId}
    {evidence : RamCrcEvidence cpuId}
    (present : ((dispatch store event).targetResources cpuId).ramCrcEvidence = some evidence) :
    (store.targetResources cpuId).ramCrcEvidence = some evidence ∧
      ramCrcKind.Spared store event cpuId evidence.ramImageIdentity (dispatch store event) := by
  rcases EvidenceKind.kept_step ramCrcKind_guarded store event (kept_iff.2 present) with
    ⟨created, -⟩ | ⟨was, spared⟩
  · subst created
    cases other
  · exact ⟨kept_iff.1 was, spared⟩

theorem noEvidence_dispatch (other : succeedsRamCrc event = false) (none : NoEvidence store) :
    NoEvidence (dispatch store event) := by
  intro cpuId
  apply Option.eq_none_iff_forall_ne_some.2
  intro evidence present
  have was := (evidence_dispatch other present).1
  rw [none cpuId] at was
  cases was

theorem noEvidence_dispatchAll (none : NoEvidence store) (events : List OtherEvent) :
    NoEvidence (dispatchAll store events) := by
  induction events generalizing store with
  | nil => exact none
  | cons event events ih => exact ih (noEvidence_dispatch event.2 none)

end

/-- The evidence is of the active connection and about the load that the device holds. -/
structure Held (s : Connected σ) : Prop where
  one : OneAtATime s.core.algorithm.ramLoad
  connected : ∀ cpuId evidence, (s.store.targetResources cpuId).ramCrcEvidence = some evidence →
    ActiveConnection cpuId evidence.connectionGeneration s.store.connection
  holds : EvidenceHolds s

section
variable {s : Connected σ}

theorem held_of_none {store : RuntimeStateStore} {core : Core σ} (none : NoEvidence store)
    (one : OneAtATime core.algorithm.ramLoad) : Held ⟨store, core⟩ := by
  refine ⟨one, ?_, ?_⟩
  · intro cpuId evidence present
    rw [none cpuId] at present
    cases present
  · intro cpuId evidence present
    rw [none cpuId] at present
    cases present

theorem Held.dispatch (held : Held s) {event : DomainEvent} (other : succeedsRamCrc event = false) :
    Held { s with store := RamEvidence.dispatch s.store event } := by
  refine ⟨held.one, ?_, ?_⟩
  · intro cpuId evidence present
    obtain ⟨was, spared⟩ := evidence_dispatch other present
    exact (spared.connection _).2 (held.connected cpuId evidence was)
  · intro cpuId evidence present
    exact held.holds cpuId evidence (evidence_dispatch other present).1

theorem Held.exchanged (held : Held s) {core : Core σ}
    (same : core.algorithm.ramLoad = s.core.algorithm.ramLoad) : Held { s with core := core } := by
  refine ⟨?_, held.connected, ?_⟩
  · rw [same]
    exact held.one
  · intro cpuId evidence present
    rw [same]
    exact held.holds cpuId evidence present

/-- A RAM operation that starts takes the evidence away. -/
theorem Held.started (held : Held s) {task : RamTask} (admitted : task.admitted s.store = true)
    {operation : RamImageIdentity → RuntimeOperation}
    (ram : ∀ identity, (operation identity).onFlash = false) :
    NoEvidence (RamEvidence.dispatch s.store
      (.operationStarted (task.event operation task.expectedImageIdentity))) := by
  intro cpuId
  apply Option.eq_none_iff_forall_ne_some.2
  intro evidence present
  obtain ⟨was, spared⟩ := evidence_dispatch rfl present
  obtain ⟨connection, active, cpu, -⟩ := held.connected cpuId evidence was
  have here : task.cpuId = cpuId := by
    unfold RamTask.admitted at admitted
    rw [active, Option.any_some, beq_iff_eq] at admitted
    rw [← admitted, cpu]
  have quiet := spared.quiet _ rfl here
  change (!(operation task.expectedImageIdentity).onFlash) = false at quiet
  rw [ram] at quiet
  cases quiet

variable {features : BootFeatures} {code : ServiceCode σ}

/-- A check that is recorded is one of the load that the device holds. -/
theorem Held.checked {store : RuntimeStateStore} (none : NoEvidence store) {task : RamTask}
    {image : PreparedRamImage} {ctx : OperationContext} {unchanged : Bool} {link : LinkFaults}
    {core : Core σ} (one : OneAtATime core.algorithm.ramLoad)
    (clean : task.clean store image unchanged
      (exchange features code (checkRamCrc ctx image) core link).result = true)
    (entry : core.algorithm.ramLoad.imageReady ≠ 0 →
      core.algorithm.ramLoad.crc32.toNat = image.imageCrc32 →
      core.algorithm.ramLoad.expectedTotalWords.toNat = image.totalWords →
      core.algorithm.ramLoad.entryPoint.toNat = image.entryPoint) :
    Held (⟨RamEvidence.dispatch store (.operationSucceeded (task.event .ramCrc image.identity)),
      (exchange features code (checkRamCrc ctx image) core link).state.1⟩ : Connected σ) := by
  have succeeded : ∃ summary, (exchange features code (checkRamCrc ctx image) core link).result =
      .ok (.succeeded summary) := by
    unfold RamTask.clean at clean
    split at clean
    · rename_i is
      exact ⟨_, is⟩
    · cases clean
  obtain ⟨summary, success⟩ := succeeded
  obtain ⟨ready, crc, words, after⟩ := exchange_checkRamCrc success
  have created : ∀ cpuId evidence, ((RamEvidence.dispatch store (.operationSucceeded
      (task.event .ramCrc image.identity))).targetResources cpuId).ramCrcEvidence = some evidence →
      evidence.ramImageIdentity = image.identity ∧
        ActiveConnection cpuId evidence.connectionGeneration (RamEvidence.dispatch store
          (.operationSucceeded (task.event .ramCrc image.identity))).connection := by
    intro cpuId evidence present
    rcases EvidenceKind.kept_step ramCrcKind_guarded store _ (kept_iff.2 present) with
      ⟨created, active, -⟩ | ⟨was, -⟩
    · refine ⟨?_, active⟩
      have same := congrArg OperationEvent.operation (DomainEvent.operationSucceeded.inj created)
      exact (RuntimeOperation.ramCrc.inj same).symm
    · have kept := kept_iff.1 was
      rw [none cpuId] at kept
      cases kept
  refine ⟨exchange_one _ one, ?_, ?_⟩
  · intro cpuId evidence present
    exact (created cpuId evidence present).2
  · intro cpuId evidence present
    rw [(created cpuId evidence present).1]
    show HoldsLoad image.identity
      (exchange features code (checkRamCrc ctx image) core link).state.1.algorithm.ramLoad
    rw [after]
    constructor
    · apply Decidable.byContradiction
      intro active
      exact ready (one active)
    · exact ready
    · exact show (1 : UInt16) ≠ 0 by decide
    · exact entry ready crc words
    · exact words
    · exact crc

/-- Every careful step keeps the evidence true. -/
theorem Held.step (held : Held s) (next : HostStep) (careful : Careful s next) :
    Held (RamEvidence.step features code s next).2 := by
  cases next with
  | event event => exact held.dispatch event.2
  | loadRam task image ctx meanwhile link =>
    dsimp only [RamEvidence.step]
    split
    · rename_i admitted
      apply held_of_none
      · have none := held.started admitted fun identity =>
          (rfl : (RuntimeOperation.ramLoad identity).onFlash = false)
        exact noEvidence_dispatchAll none meanwhile
      · exact exchange_one _ held.one
    · exact held
  | checkRamCrc task image ctx meanwhile unchanged link =>
    dsimp only [RamEvidence.step]
    split
    · rename_i admitted
      have started := held.started admitted fun identity =>
        (rfl : (RuntimeOperation.ramCrc identity).onFlash = false)
      have none := noEvidence_dispatchAll started meanwhile
      split
      · rename_i clean
        exact Held.checked none held.one clean careful
      · exact held_of_none none (exchange_one _ held.one)
    · exact held
  | runRam cpuId ctx link =>
    dsimp only [RamEvidence.step]
    split
    · exact held
    · apply held.exchanged
      apply exchange_leaves
      apply failureResult_always
      apply (always_lift _).bind
      intro entry
      apply Dialogue.Always.bind
      · apply HostClient.transact_always
        show ¬ ChangesLoad BootCmd.runRam
        decide
      · exact fun _ => trivial
  | flash operation ctx link =>
    rcases careful with none | ⟨force, same⟩
    · exact held_of_none none (exchange_one _ held.one)
    · exact held.exchanged (flashOperation_leaves force same operation)
  | ask dialogue leaves link => exact held.exchanged (exchange_leaves leaves)

end

/-- RAM CRC evidence in the runtime store: on a connection that has been opened, in every
run of operations and events that loads the service only while there is no evidence, and
checks no image that shares CRC and length with the load but not the entry point, the device
holds the completed and checked load of every image that there is evidence for. -/
theorem ram_evidence_held (features : BootFeatures) (code : ServiceCode σ)
    (deviceInfo : BootDeviceInfo) (w : CoreWorld σ) (c₀ : Core σ)
    (started : init deviceInfo w = some c₀) (received : List CoreInput)
    (before : RuntimeStateStore) (info : ConnectionInfo) (named : info.connectionId ≠ "")
    (committed : RuntimeV2Snapshot × List DomainEvent)
    (opened : (runtimeStore.step before (.connectionOpened info named)).1 = .ok committed)
    (steps : List HostStep)
    (careful : ∀ ev ∈ (machine features code).history
      ⟨dispatch before (.connectionOpened info named), (coreMachine features code).run c₀ received⟩
      steps, Careful ev.before ev.input) :
    ∀ ev ∈ (machine features code).history
      ⟨dispatch before (.connectionOpened info named), (coreMachine features code).run c₀ received⟩
      steps, EvidenceHolds ev.before ∧ EvidenceHolds ev.after := by
  have none : NoEvidence (dispatch before (.connectionOpened info named)) := by
    intro cpuId
    exact Option.map_eq_none_iff.1 (EvidenceKind.kept_opened ramCrcKind_guarded opened cpuId)
  have one : OneAtATime ((coreMachine features code).run c₀ received).algorithm.ramLoad :=
    oneAtATime_run started received
  have start := held_of_none none one
  intro ev mem
  obtain ⟨held, held'⟩ := (machine features code).forall_history Held start
    (fun s next held careful => held.step next careful) steps careful ev mem
  exact ⟨held.holds, held'.holds⟩

/-! ## An erase that is cancelled -/

/-- An image of one word. -/
def loadedImage : PreparedRamImage where
  image := {
    entryPoint := 0x8000
    blocks := [⟨0x8000, [0x1234], by decide, by simp⟩]
    entryPoint_le := by decide
    blocks_ne := by simp
    apart := by simp [blocksOverlap] }
  entryPoint := 0x8000
  totalWords := 1
  imageCrc32 := 0x094A9040

def serviceBlocks : List FirmwareBlock :=
  [⟨0x013000, [0x4832, 0x4653, 1, 28, 2, 0, 0x3090, 1, 0x3092, 1, 0x3020, 1, 0x3022, 1, 0x3080, 1,
      0x3090, 1, 0x3091, 1, 0xF, 0, 1, 0, 0x645F, 0xCA4E, 0x091E, 0x9FDC], by decide, by simp⟩,
    ⟨0x013020, [0, 0], by decide, by simp⟩, ⟨0x013090, [0x0006, 0x7700], by decide, by simp⟩]

theorem sortedBlocks_service : sortedBlocks serviceBlocks = serviceBlocks := by
  apply List.mergeSort_of_pairwise
  simp [serviceBlocks]

/-- A service of two words, with its publication words and its header. -/
def smallService : PreparedServiceImage where
  image := {
    entryPoint := 0x013090
    blocks := serviceBlocks
    entryPoint_le := by decide
    blocks_ne := by simp [serviceBlocks]
    apart := by
      unfold blocksOverlap
      rw [← sortedBlocks_ranges, sortedBlocks_service]
      decide }
  headerAddress := 0x013000
  totalWords := 32
  expectedCrc32 := 0x90DF7D2C
  requiredCapabilities := 0xF

def ramContext : OperationContext := ⟨256, 248, Cpu1.flash, Cpu1.ram, fun _ => false, fun _ => false⟩

def ramTask : RamTask := ⟨⟨"7", by decide⟩, "id", .cpu1, 1, loadedImage.identity⟩

def sciConnection : ConnectionInfo := ⟨"id", "SCI", "COM3", 0, .cpu1⟩

/-- CPU1 with a new connection. -/
def connected : Connected Unit :=
  ⟨dispatch .new (.connectionOpened sciConnection (by decide)), cpu1Core⟩

/-- The image is selected, loaded and checked. -/
def checkedLoad : List HostStep :=
  [.event ⟨.ramImageChanged .cpu1 "app.out" (.ready ⟨loadedImage.identity⟩) (by decide), rfl⟩,
    .loadRam ramTask loadedImage ramContext [] [], .checkRamCrc ramTask loadedImage ramContext [] true []]

/-- The user cancels while the service is loaded. -/
def eraseContext : FlashOperationContext :=
  { ramContext with
    service := smallService
    forceServiceAttach := false
    servicePolls := fun _ => false
    serviceTransferPolls := fun k => k == 1 }

def cancelledErase : List HostStep :=
  [.event ⟨.operationStarted ⟨⟨"8", by decide⟩, .erase none, .cpu1, 1⟩, rfl⟩,
    .flash (.eraseSectorMask 4) eraseContext []]

def ramFeatures : BootFeatures := ⟨true, false, false⟩

def answers (exchanges : Exchanges) : List (Option UInt16) :=
  exchanges.map fun exchange => exchange.2.toOption.map (·.status)

abbrev runOffer : HostStep := .runRam .cpu1 ramContext []

theorem loadService_small : loadService eraseContext =
    loadPackets eraseContext (HostWorkflow.serviceImagePackets 248 0 serviceBlocks) := by
  have prepared : HostWorkflow.prepareServiceRamPackets smallService.image 248 =
      .ok (HostWorkflow.serviceImagePackets 248 0 serviceBlocks) := by
    unfold HostWorkflow.prepareServiceRamPackets
    rw [show smallService.image.blocks = serviceBlocks from rfl, sortedBlocks_service]
    rfl
  unfold loadService
  rw [show HostWorkflow.prepareServiceRamPackets eraseContext.service.image
    eraseContext.maxDataWords = _ from prepared]
  rfl

/-- The evidence for an image whose load has been reset: the load is still there when the
image is checked, and once the erase has been cancelled the same offer is refused. -/
theorem ram_evidence_outlives_load :
    let m := machine ramFeatures idleService
    let checked := m.run connected checkedLoad
    let erased := m.run checked cancelledErase
    (erased.store.targetResources .cpu1).ramCrcEvidence.map (·.ramImageIdentity) =
        some loadedImage.identity ∧
      ¬ EvidenceHolds erased ∧
      answers (m.step checked runOffer).1 = [some BootStatus.ok] ∧
      answers (m.step erased runOffer).1 = [some BootStatus.invalidState] := by
  intro m checked erased
  have recorded : (erased.store.targetResources .cpu1).ramCrcEvidence.map (·.ramImageIdentity) =
      some loadedImage.identity := by
    decide +kernel
  have accepted : answers (m.step checked runOffer).1 = [some BootStatus.ok] := by
    decide +kernel
  have reset : erased.core.algorithm.ramLoad.imageReady = 0 ∧
      answers (m.step erased runOffer).1 = [some BootStatus.invalidState] := by
    simp only [erased, checked, m, Machine.run, machine, cancelledErase, checkedLoad, step,
      FlashOperation.dialogue, HostOperations.eraseSectorMask, withService, ensureServiceAttached,
      loadService_small]
    decide +kernel
  refine ⟨recorded, ?_, accepted, reset.2⟩
  intro holds
  obtain ⟨evidence, present, -⟩ := Option.map_eq_some_iff.1 recorded
  exact (holds .cpu1 evidence present).ready reset.1

/-- The image is loaded, checked and run: there is evidence, and it is true. -/
theorem ram_evidence_held_checkedLoad :
    let m := machine ramFeatures idleService
    ((m.run connected checkedLoad).store.targetResources .cpu1).ramCrcEvidence.map
        (·.ramImageIdentity) = some loadedImage.identity ∧
      ∀ ev ∈ m.history connected (checkedLoad ++ [runOffer]),
        EvidenceHolds ev.before ∧ EvidenceHolds ev.after := by
  intro m
  constructor
  · decide +kernel
  obtain ⟨committed, opened⟩ : ∃ committed,
      (runtimeStore.step .new (.connectionOpened sciConnection (by decide))).1 = .ok committed :=
    ⟨_, rfl⟩
  apply ram_evidence_held ramFeatures idleService cpu1Info ⟨fun _ => 0, ()⟩ cpu1Core init_cpu1Core
    [] .new sciConnection (by decide) committed opened
  unfold checkedLoad
  simp only [Machine.history, List.cons_append, List.nil_append, List.forall_mem_cons,
    List.not_mem_nil, false_implies, implies_true, and_true]
  refine ⟨trivial, trivial, ?_, trivial⟩
  intro ready crc words
  decide +kernel

end RamEvidence

end BootUpgrade

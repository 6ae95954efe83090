import BootUpgrade.System.BootPrediction
import BootUpgrade.System.Device
import BootUpgrade.System.RamRun
import BootUpgrade.System.ServiceAttach

/-!
# The service behind the core

To the host a core with the service attached answers as the service itself does,
and reads the journal that the service writes. An operation that finds the service
attached is one with the service alone.
-/

namespace BootUpgrade.AttachedService

open HostWorkflow HostClient HostOperations TransferKind Dialogue RamLoading BootAlgorithm
  BootMetadata
open RamEvidence (reportedStatus)

variable {σ : Type} (port : FlashPort σ)

/-- The service with the core's answer to a metadata query. -/
def attachedServer : HostServer (FlashService σ) := fun s q =>
  if q.payload.length ≤ 256 ∧ q.command = BootCmd.getMetadataSummary then
    if (requestFrame q).payloadWords ≠ 0 then (.ok ⟨BootStatus.badPayloadLength, []⟩, s)
    else (.ok ⟨BootStatus.ok, summaryToPayload (BootFlashService.scanJournal port s)⟩, s)
  else flashServer port s q

/-- Where the service changes Flash words. -/
def InFlash (a : UInt32) : Prop := Device.flashOrigin ≤ a ∧ a < Device.flashEndExclusive

/-- `c` has the service `s` attached, and differs from `c₀` in nothing but the service, its Flash
and the last error. -/
structure Behind (c₀ c : Core (FlashService σ)) (s : FlashService σ) : Prop where
  algorithm : c.algorithm = { c₀.algorithm with lastError := c.algorithm.lastError }
  ram : ∀ a, ¬ InFlash a → c.world.memory a = c₀.world.memory a
  flash : ∀ a, InFlash a → c.world.memory a = port.readWord s.world a
  service : c.world.service = s

/-- A core that runs the service. -/
structure Running (c : Core (FlashService σ)) : Prop where
  active : c.algorithm.serviceActive ≠ 0
  handler : c.algorithm.serviceCommandHandler.isSome
  flash : ∀ a, InFlash a → c.world.memory a = port.readWord c.world.service.world a

section
variable {port} {features : BootFeatures} {c₀ c : Core (FlashService σ)} {s : FlashService σ}
  {q : HostRequest}

theorem Running.behind (running : Running port c) : Behind port c c c.world.service :=
  ⟨rfl, fun _ _ => rfl, running.flash, rfl⟩

theorem Behind.running (behind : Behind port c₀ c s) (running : Running port c₀) : Running port c := by
  have algorithm := behind.algorithm
  refine ⟨?_, ?_, fun a inside => ?_⟩
  · rw [algorithm]
    exact running.active
  · rw [algorithm]
    exact running.handler
  · rw [behind.service]
    exact behind.flash a inside

theorem Behind.trans {c₁ c₂ : Core (FlashService σ)} {s' : FlashService σ}
    (first : Behind port c₀ c₁ s) (second : Behind port c₁ c₂ s') : Behind port c₀ c₂ s' := by
  refine ⟨?_, fun a outside => (second.ram a outside).trans (first.ram a outside), second.flash,
    second.service⟩
  rw [second.algorithm, first.algorithm]

/-- The host is told the same about the service. -/
theorem Behind.reported (behind : Behind port c₀ c s) : reportedStatus c = reportedStatus c₀ := by
  unfold reportedStatus
  rw [behind.algorithm]

theorem Behind.deviceInfo (behind : Behind port c₀ c s) :
    c.algorithm.deviceInfo = c₀.algorithm.deviceInfo := by
  rw [behind.algorithm]

/-- The core reads the journal of the service. -/
theorem Behind.scan (behind : Behind port c₀ c s) :
    scanFlashRecords c.world.memory slotAStart = BootFlashService.scanJournal port s := by
  unfold scanFlashRecords BootFlashService.scanJournal scanFlashRecords
  apply scan_congr
  intro i hi
  apply Vector.ext
  intro k hk
  have start : slotAStart.toNat = 0x082000 := rfl
  have low : Device.flashOrigin.toNat = 0x080000 := rfl
  have high : Device.flashEndExclusive.toNat = 0x0C0000 := rfl
  have base : (UInt32.ofNat i * recordWords).toNat = 64 * i := by
    simp only [UInt32.toNat_mul, recordWords, UInt32.toNat_ofNat', UInt32.reduceToNat]
    omega
  have offset : (UInt32.ofNat k).toNat = k :=
    UInt32.toNat_ofNat_of_lt' (by simp [UInt32.size]; omega)
  have slot : (slotAStart + UInt32.ofNat i * recordWords).toNat = 0x082000 + 64 * i := by
    rw [Words.toNat_add_of_lt (by omega), base, start]
  have address : (slotAStart + UInt32.ofNat i * recordWords + UInt32.ofNat k).toNat =
      0x082000 + 64 * i + k := by
    rw [Words.toNat_add_of_lt (by omega), slot, offset]
  simp only [loadFlashRecord, Vector.getElem_ofFn]
  apply behind.flash
  rw [InFlash, UInt32.le_iff_toNat_le, UInt32.lt_iff_toNat_lt, address]
  omega

/-! ## One request -/

theorem dispatch_summary {request : BootProtocolFrame} {code : ServiceCode σ} {c : Core σ}
    (command : request.command = BootCmd.getMetadataSummary) :
    dispatch request features code c = handleGetMetadataSummary request c := by
  have memoryRead : ¬ (BootCmd.getMetadataSummary = BootCmd.memoryRead ∧
      features.memoryRead = true) := fun h => absurd h.1 (by decide)
  unfold dispatch
  rw [command, if_neg (by decide), if_neg (by decide), if_neg (by decide), if_neg (by decide),
    if_neg (by decide), if_neg (by decide), if_neg (by decide), if_neg (by decide),
    if_neg (by decide), if_neg (by decide), if_neg (by decide), if_neg memoryRead, if_pos rfl]

variable (port) in
/-- The service answers without a payload. -/
theorem bootHandleCommand_words (request : BootProtocolFrame) (s : FlashService σ) :
    (BootFlashService.bootHandleCommand port request 0 .clear s).responsePayloadWords = 0 := by
  unfold BootFlashService.bootHandleCommand
  split <;> rfl

/-- What the service changes in the Flash is what the core reads there. -/
theorem flashChanged_flash {before after : σ} {memory : CoreMemory} {a : UInt32} (inside : InFlash a)
    (same : memory a = port.readWord before a) :
    Device.flashChanged port before after memory a = port.readWord after a := by
  unfold Device.flashChanged
  split
  · rfl
  · rename_i kept
    rw [same]
    exact Decidable.byContradiction fun changed => kept ⟨inside.1, inside.2, fun h => changed h.symm⟩

theorem flashChanged_ram {before after : σ} {memory : CoreMemory} {a : UInt32}
    (outside : ¬ InFlash a) : Device.flashChanged port before after memory a = memory a := by
  unfold Device.flashChanged
  rw [if_neg]
  rintro ⟨low, high, -⟩
  exact outside ⟨low, high⟩

/-- A command for the service is answered by the service. -/
theorem forward_behind (behind : Behind port c₀ c s) (running : Running port c₀)
    (request : BootProtocolFrame) :
    let r := forwardToService request (Device.flashServiceCode port) c
    let o := BootFlashService.bootHandleCommand port request 0 .clear s
    (r.response.status = o.status ∧ r.response.payload = []) ∧ Behind port c₀ r.core o.service := by
  have running := behind.running running
  obtain ⟨handler, found⟩ := Option.isSome_iff_exists.1 running.handler
  have service := behind.service
  subst service
  have words := bootHandleCommand_words port request c.world.service
  have none (limit : UInt16) : ¬ ((0 : UInt16) > limit ∨ (0 : UInt16) > maxPayloadWords) := by
    rintro (more | more)
    · exact UInt16.not_lt_zero more
    · exact absurd more (by decide)
  have left : ∀ lastError : BootErrorDetail, Behind port c₀
      { algorithm := { c.algorithm with lastError }
        world := ⟨Device.flashChanged port c.world.service.world
          (BootFlashService.bootHandleCommand port request 0 .clear c.world.service).service.world
          c.world.memory,
          (BootFlashService.bootHandleCommand port request 0 .clear c.world.service).service⟩ }
      (BootFlashService.bootHandleCommand port request 0 .clear c.world.service).service := by
    intro lastError
    refine ⟨?_, ?_, ?_, rfl⟩
    · rw [behind.algorithm]
    · intro a outside
      rw [← behind.ram a outside]
      exact flashChanged_ram outside
    · intro a inside
      exact flashChanged_flash inside (behind.flash a inside)
  unfold forwardToService
  rw [found]
  dsimp only [Device.flashServiceCode]
  rw [if_neg running.active, words, if_neg (none _)]
  refine ⟨⟨rfl, rfl⟩, ?_⟩
  dsimp only
  split
  · exact left _
  · exact left c.algorithm.lastError

theorem serviceCommands_forwarded : serviceCommands.all (fun command =>
    command == BootCmd.getMetadataSummary || isFlashCommand command) = true := by
  decide

variable (features) in
/-- On the requests of an attached service the core answers as the service. -/
theorem coreServer_simulates (running : Running port c₀) (c : Core (FlashService σ))
    (s : FlashService σ) (q : HostRequest) (asks : AsksService q) (behind : Behind port c₀ c s) :
    (coreServer features (Device.flashServiceCode port) c q).1 = (attachedServer port s q).1 ∧
      Behind port c₀ (coreServer features (Device.flashServiceCode port) c q).2
        (attachedServer port s q).2 := by
  by_cases fits : q.payload.length ≤ 256
  case neg =>
    rw [coreServer, dif_neg fits, attachedServer, if_neg fun h => fits h.1, flashServer, dif_neg fits]
    exact ⟨rfl, behind⟩
  rw [coreServer_eq fits]
  by_cases command : q.command = BootCmd.getMetadataSummary
  · have handled : dispatch (requestFrame q) features (Device.flashServiceCode port) c = _ :=
      dispatch_summary command
    rw [attachedServer, if_pos ⟨fits, command⟩, handled, handleGetMetadataSummary]
    split
    · exact ⟨rfl, behind⟩
    · rw [behind.scan]
      exact ⟨rfl, behind⟩
  · have flash : isFlashCommand (requestFrame q).command = true := by
      have forwarded := List.all_eq_true.1 serviceCommands_forwarded q.command asks
      rw [Bool.or_eq_true, beq_iff_eq] at forwarded
      exact forwarded.resolve_left command
    obtain ⟨⟨status, payload⟩, after⟩ :=
      forward_behind behind running (requestFrame q)
    rw [attachedServer, if_neg fun h => command h.2, flashServer, dif_pos fits, frameOf_eq fits,
      dispatch_forward flash]
    dsimp only
    rw [status, payload]
    exact ⟨rfl, after⟩

end

/-! ## An operation -/

/-- The operation succeeds on `t` with this summary and leaves `t'`. -/
def Completes {S T : Type} (server : HostServer T) (operation : HostDialogue (OperationResult S))
    (t : T) (summary : S) (t' : T) : Prop :=
  Succeeds server operation t fun result u => result = .succeeded summary ∧ u = t'

/-- The token is never requested, and an attached service is not attached again. -/
structure Uninterrupted (ctx : FlashOperationContext) : Prop where
  polls : ctx.polls = fun _ => false
  transferPolls : ctx.transferPolls = fun _ => false
  servicePolls : ctx.servicePolls = fun _ => false
  force : ctx.forceServiceAttach = false

section
variable {S T : Type} {server : HostServer T} {operation : HostDialogue (OperationResult S)}
  {t t' : T} {summary : S}

theorem completes_iff : Completes server operation t summary t' ↔
    (operation.run server t).result = .ok (.succeeded summary) ∧ (operation.run server t).state = t' := by
  constructor
  · rintro ⟨_, ended, rfl, left⟩
    exact ⟨ended, left⟩
  · rintro ⟨ended, left⟩
    exact ⟨_, ended, rfl, left⟩

/-- An operation comes to one end. -/
theorem Completes.unique {summary' : S} {u : T} (first : Completes server operation t summary t')
    (second : Completes server operation t summary' u) : summary' = summary ∧ u = t' := by
  obtain ⟨ended, left⟩ := completes_iff.1 first
  obtain ⟨ended', left'⟩ := completes_iff.1 second
  rw [ended] at ended'
  cases ended'
  exact ⟨rfl, left'.symm.trans left⟩

theorem completes_failureResult :
    Completes server (failureResult operation) t summary t' ↔ Completes server operation t summary t' := by
  constructor
  · intro completes
    obtain ⟨ended, left⟩ := completes_iff.1 completes
    obtain ⟨state, result⟩ := failureResult_run (d := operation) server t
    exact completes_iff.2 ⟨result summary ended, state.symm.trans left⟩
  · intro completes
    obtain ⟨ended, left⟩ := completes_iff.1 completes
    rw [completes_iff, failureResult_ok ended]
    exact ⟨ended, left⟩

end

section
variable {port} {features : BootFeatures} {c₀ c c' : Core (FlashService σ)} {s s' : FlashService σ}
  {S : Type} {operation : HostDialogue (OperationResult S)} {summary : S}

section
variable (running : Running port c₀) (asks : operation.Always AsksService)
  (behind : Behind port c₀ c s)
include running asks behind

/-- Requests to the service come to what they come to at the service. -/
theorem Completes.service
    (completes : Completes (coreServer features (Device.flashServiceCode port)) operation c summary c') :
    ∃ s', Completes (attachedServer port) operation s summary s' ∧ Behind port c₀ c' s' := by
  obtain ⟨ended, left⟩ := completes_iff.1 completes
  obtain ⟨same, after⟩ := asks.simulates (coreServer_simulates features running) behind
  rw [left] at after
  exact ⟨_, completes_iff.2 ⟨same.symm.trans ended, rfl⟩, after⟩

theorem Completes.core (completes : Completes (attachedServer port) operation s summary s') :
    ∃ c', Completes (coreServer features (Device.flashServiceCode port)) operation c summary c' ∧
      Behind port c₀ c' s' := by
  obtain ⟨ended, left⟩ := completes_iff.1 completes
  obtain ⟨same, after⟩ := asks.simulates (coreServer_simulates features running) behind
  rw [left] at after
  exact ⟨_, completes_iff.2 ⟨same.trans ended, rfl⟩, after⟩

end

/-- A service that is found attached is not attached again. -/
theorem ensureServiceAttached_found {code : ServiceCode σ} {c : Core σ} {ctx : FlashOperationContext}
    (free : Uninterrupted ctx) (found : serviceMatches ctx (reportedStatus c) = true)
    {post : Except ServiceRuntimeCancellation ServiceRuntimeSummary → Core σ → Prop} :
    Succeeds (coreServer features code) (ensureServiceAttached ctx) c post ↔
      post (.ok ⟨true, false, reportedStatus c⟩) c := by
  unfold ensureServiceAttached
  simp only [free.servicePolls, Bool.false_eq_true, if_false]
  rw [succeeds_bind_iff, ServiceAttach.readStatus_succeeds, if_pos (by rw [free.force, found]; rfl),
    succeeds_done_iff]

/-- An operation that finds the service attached goes on without it. -/
theorem withService_completes {code : ServiceCode σ} {c c' : Core σ} {ctx : FlashOperationContext}
    (free : Uninterrupted ctx) (found : serviceMatches ctx (reportedStatus c) = true)
    {cancelled : Except HostError OperationCancellationInfo} {admission : Except HostError Unit}
    {recoveryAction : Option {action // action ∈ recoveryActions}} :
    Completes (coreServer features code)
        (withService ctx cancelled admission recoveryAction operation) c summary c' ↔
      admission = .ok () ∧ Completes (coreServer features code) operation c summary c' := by
  unfold withService
  rw [completes_failureResult, free.polls, Completes, if_neg Bool.false_ne_true, succeeds_bind_iff,
    succeeds_lift_iff]
  simp only [succeeds_bind_iff, ensureServiceAttached_found free found]
  constructor
  · rintro ⟨_, admitted, completes⟩
    exact ⟨admitted, completes⟩
  · rintro ⟨admitted, completes⟩
    exact ⟨(), admitted, completes⟩

section
variable {ctx : FlashOperationContext} {cancelled : Except HostError OperationCancellationInfo}
  {admission : Except HostError Unit} {recoveryAction : Option {action // action ∈ recoveryActions}}
  (running : Running port c₀) (asks : operation.Always AsksService) (free : Uninterrupted ctx)
  (found : serviceMatches ctx (reportedStatus c₀) = true) (behind : Behind port c₀ c s)
include running asks free found behind

/-- On a core with the service attached, an operation comes to what it comes to at the service. -/
theorem Completes.withService (completes : Completes (coreServer features (Device.flashServiceCode port))
      (HostOperations.withService ctx cancelled admission recoveryAction operation) c summary c') :
    ∃ s', Completes (attachedServer port) operation s summary s' ∧ Behind port c₀ c' s' := by
  rw [← behind.reported] at found
  exact Completes.service running asks behind ((withService_completes free found).1 completes).2

theorem Completes.onCore (admitted : admission = .ok ())
    (completes : Completes (attachedServer port) operation s summary s') :
    ∃ c', Completes (coreServer features (Device.flashServiceCode port))
        (HostOperations.withService ctx cancelled admission recoveryAction operation) c summary c' ∧
      Behind port c₀ c' s' := by
  obtain ⟨c', ended, after⟩ : ∃ c', Completes (coreServer features (Device.flashServiceCode port))
      operation c summary c' ∧ Behind port c₀ c' s' := completes.core running asks behind
  rw [← behind.reported] at found
  exact ⟨c', (withService_completes free found).2 ⟨admitted, ended⟩, after⟩

end

end

end BootUpgrade.AttachedService

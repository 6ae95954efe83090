import BootUpgrade.Core.Machine

/-!
# The RAM CRC gate

`crc_checked` is set only after a complete RAM load and a check of the CRC of
its words. The invariant ties the counters of the session to the packets that
were accepted since its BEGIN.
-/

namespace BootUpgrade.BootAlgorithm

variable {σ : Type}

/-- The words of the packets, in order. -/
def packetWords (ps : List BootProtocolFrame) : List UInt16 := ps.flatMap loadData

theorem loadData_length {request : BootProtocolFrame} {ramLoad : BootTransferSession}
    (ready : LoadReady request ramLoad) : (loadData request).length = (request.word 2).toNat := by
  apply request.length_words
  have length := congrArg UInt16.toNat ready.length
  have header := UInt16.le_iff_toNat_le.1 ready.header
  have payload := request.payloadWords_le
  have words := (request.word 2).toNat_lt
  have five : (5 : UInt16).toNat = 5 := rfl
  rw [UInt16.toNat_add] at length
  omega

/-- The packets carry the block indices 0, 1, … and the declared words. -/
structure Complete (begin' : BootProtocolFrame) (ps : List BootProtocolFrame) : Prop where
  indices : ps.map (fun p => (p.u32 3).toNat) = List.range (begin'.word 1).toNat
  total : (packetWords ps).length = (begin'.u32 2).toNat

/-- The load goes on: no other BEGIN, no reset. -/
structure LoadGoesOn (ev : CoreEvent σ) : Prop where
  beginsNoLoad : BeginsNoLoad ev
  active : ev.after.algorithm.ramLoad.active ≠ 0

/-- The loaded image stays ready: no BEGIN, no reset. -/
structure StaysReady (ev : CoreEvent σ) : Prop where
  beginsNoLoad : BeginsNoLoad ev
  ready : ev.after.algorithm.ramLoad.imageReady ≠ 0

/-- The check stays valid: no BEGIN, no reset, no failed check. -/
structure StaysChecked (ev : CoreEvent σ) : Prop extends StaysReady ev where
  checked : ev.after.algorithm.ramLoad.crcChecked ≠ 0

/-- The history ends in a RAM load with this session. -/
def Loading (ramLoad : BootTransferSession) (h : List (CoreEvent σ)) : Prop :=
  ∃ past b begin' loading, h = past ++ b :: loading ∧
    Accepted BootCmd.ramLoadBegin begin' b ∧ (∀ ev ∈ loading, LoadGoesOn ev) ∧
    ramLoad.expectedPacketCount = (begin'.word 1).toUInt32 ∧
    ramLoad.expectedTotalWords = begin'.u32 2 ∧
    ramLoad.expectedBlockIndex = ramLoad.processedPacketCount ∧
    (packets loading).map (fun p => (p.u32 3).toNat) =
      List.range ramLoad.processedPacketCount.toNat ∧
    (packetWords (packets loading)).length = ramLoad.processedTotalWords.toNat ∧
    ramLoad.crc32 = BootCrc32.updateWords BootCrc32.initValue (packetWords (packets loading))

/-- A complete RAM load has been accepted, its words have this CRC, and no
BEGIN or reset has followed. -/
def Loaded (crc : UInt32) (h : List (CoreEvent σ)) : Prop :=
  ∃ past b begin' loading e end' rest, h = past ++ b :: (loading ++ e :: rest) ∧
    Accepted BootCmd.ramLoadBegin begin' b ∧ (∀ ev ∈ loading, LoadGoesOn ev) ∧
    Complete begin' (packets loading) ∧ Accepted BootCmd.ramLoadEnd end' e ∧
    (∀ ev ∈ rest, StaysReady ev) ∧ crc = BootCrc32.calcWords (packetWords (packets loading))

/-- The host has checked the CRC of the loaded words, and no BEGIN, reset or
failed check has followed. -/
def CrcChecked (h : List (CoreEvent σ)) : Prop :=
  Runs.Since
    (fun past c => ∃ check, Accepted BootCmd.ramCheckCrc check c ∧ Loaded (check.u32 0) past)
    StaysChecked h

structure RamLoadInvariant (h : List (CoreEvent σ)) (ramLoad : BootTransferSession) : Prop where
  loading : ramLoad.active ≠ 0 →
    ramLoad.imageReady = 0 ∧ ramLoad.crcChecked = 0 ∧ Loading ramLoad h
  loaded : ramLoad.imageReady ≠ 0 → Loaded ramLoad.crc32 h
  checked : ramLoad.crcChecked ≠ 0 → ramLoad.imageReady ≠ 0 ∧ CrcChecked h
  packets : ramLoad.processedPacketCount ≤ ramLoad.expectedPacketCount
  total : ramLoad.processedTotalWords ≤ ramLoad.expectedTotalWords

/-! ## What each kind of event preserves -/

section
variable {h : List (CoreEvent σ)} {ev : CoreEvent σ} {ramLoad : BootTransferSession}

theorem Loading.passes (hl : Loading ramLoad h) (passive : Passive ev)
    (active : ev.after.algorithm.ramLoad.active ≠ 0) : Loading ramLoad (h ++ [ev]) := by
  obtain ⟨past, b, begin', loading, rfl, begun, goes, counts⟩ := hl
  refine ⟨past, b, begin', loading ++ [ev], by simp, begun, ?_, ?_⟩
  · intro x hx
    rcases List.mem_append.1 hx with hx | hx
    · exact goes x hx
    · rw [List.mem_singleton.1 hx]
      exact ⟨passive.beginsNoLoad, active⟩
  · rw [packets_append, packets_other passive.packet, List.append_nil]
    exact counts

theorem Loaded.passes {crc : UInt32} (hl : Loaded crc h) (stays : StaysReady ev) :
    Loaded crc (h ++ [ev]) := by
  obtain ⟨past, b, begin', loading, e, end', rest, rfl, begun, goes, complete, ended, ready, crc⟩ := hl
  refine ⟨past, b, begin', loading, e, end', rest ++ [ev], by simp, begun, goes, complete, ended, ?_,
    crc⟩
  intro x hx
  rcases List.mem_append.1 hx with hx | hx
  · exact ready x hx
  · rw [List.mem_singleton.1 hx]
    exact stays

/-- An accepted BEGIN starts a load without packets. -/
theorem Loading.begins {request : BootProtocolFrame}
    (accepted : Accepted BootCmd.ramLoadBegin request ev) :
    Loading (begunLoad request) (h ++ [ev]) := by
  refine ⟨h, ev, request, [], rfl, accepted, by simp, rfl, rfl, rfl, ?_, rfl, rfl⟩
  rfl

/-- The counters of an accepted packet do not wrap. -/
theorem countPacket_counts {request : BootProtocolFrame} (ready : LoadReady request ramLoad)
    (totalLe : ramLoad.processedTotalWords ≤ ramLoad.expectedTotalWords) :
    (ramLoad.processedPacketCount + 1).toNat = ramLoad.processedPacketCount.toNat + 1 ∧
      (ramLoad.processedTotalWords + (request.word 2).toUInt32).toNat =
        ramLoad.processedTotalWords.toNat + (request.word 2).toNat ∧
      ramLoad.processedTotalWords.toNat + (request.word 2).toNat ≤
        ramLoad.expectedTotalWords.toNat := by
  have packets := UInt32.lt_iff_toNat_lt.1 ready.packets
  have total := UInt32.le_iff_toNat_le.1 ready.total
  have expected := ramLoad.expectedPacketCount.toNat_lt
  have words := ramLoad.expectedTotalWords.toNat_lt
  have one : (1 : UInt32).toNat = 1 := rfl
  rw [UInt32.toNat_sub_of_le _ _ totalLe, UInt16.toNat_toUInt32] at total
  rw [UInt32.le_iff_toNat_le] at totalLe
  constructor
  · rw [Words.toNat_add_of_lt (by omega), one]
  constructor
  · rw [Words.toNat_add_of_lt (by rw [UInt16.toNat_toUInt32]; omega), UInt16.toNat_toUInt32]
  · omega

/-- An accepted packet is counted. -/
theorem Loading.counts {request : BootProtocolFrame} (hl : Loading ramLoad h)
    (ready : LoadReady request ramLoad)
    (totalLe : ramLoad.processedTotalWords ≤ ramLoad.expectedTotalWords)
    (accepted : Accepted BootCmd.ramLoadData request ev) (begins : BeginsNoLoad ev)
    (active : ev.after.algorithm.ramLoad.active ≠ 0) :
    Loading (countPacket ramLoad (request.u32 0) (request.word 2) (loadData request))
      (h ++ [ev]) := by
  obtain ⟨next, sum, -⟩ := countPacket_counts ready totalLe
  obtain ⟨past, b, begin', loading, rfl, begun, goes, expected, total, index, indices, words, crc⟩ := hl
  refine ⟨past, b, begin', loading ++ [ev], by simp, begun, ?_, expected, total, ?_, ?_, ?_, ?_⟩
  · intro x hx
    rcases List.mem_append.1 hx with hx | hx
    · exact goes x hx
    · rw [List.mem_singleton.1 hx]
      exact ⟨begins, active⟩
  · show ramLoad.expectedBlockIndex + 1 = ramLoad.processedPacketCount + 1
    rw [index]
  · show _ = List.range (ramLoad.processedPacketCount + 1).toNat
    rw [packets_append, packets_accepted accepted, List.map_append, indices, next, List.range_succ,
      List.map_singleton, ready.index, index]
  · show _ = (ramLoad.processedTotalWords + (request.word 2).toUInt32).toNat
    rw [packets_append, packets_accepted accepted, packetWords, List.flatMap_append,
      List.flatMap_singleton, List.length_append, loadData_length ready, sum, ← words, packetWords]
  · show BootCrc32.updateWords ramLoad.crc32 (loadData request) = _
    rw [packets_append, packets_accepted accepted, packetWords, List.flatMap_append,
      List.flatMap_singleton, BootCrc32.updateWords_append, crc]
    rfl

/-- An accepted END finds the load complete. -/
theorem Loading.ends {request : BootProtocolFrame} (hl : Loading ramLoad h)
    (complete : loadComplete request ramLoad) (accepted : Accepted BootCmd.ramLoadEnd request ev) :
    Loaded (BootCrc32.finalize ramLoad.crc32) (h ++ [ev]) := by
  obtain ⟨past, b, begin', loading, rfl, begun, goes, expected, total, -, indices, words, crc⟩ := hl
  obtain ⟨expected', processed, total', processedTotal, -, -⟩ := complete
  refine ⟨past, b, begin', loading, ev, request, [], by simp, begun, goes, ⟨?_, ?_⟩, accepted,
    by simp, ?_⟩
  · rw [indices, ← processed, expected', expected, UInt16.toNat_toUInt32]
  · rw [words, ← processedTotal, total', total]
  · rw [crc]
    rfl

end

/-! ## One event -/

/-- An event that leaves the RAM load as it is. -/
theorem RamLoadInvariant.passes {h : List (CoreEvent σ)} {ramLoad : BootTransferSession}
    {ev : CoreEvent σ} (inv : RamLoadInvariant h ramLoad) (passive : Passive ev)
    (same : ev.after.algorithm.ramLoad = ramLoad) : RamLoadInvariant (h ++ [ev]) ramLoad := by
  constructor
  · intro active
    obtain ⟨ready, checked, loading⟩ := inv.loading active
    exact ⟨ready, checked, loading.passes passive (same ▸ active)⟩
  · intro ready
    exact (inv.loaded ready).passes ⟨passive.beginsNoLoad, same ▸ ready⟩
  · intro checked
    obtain ⟨ready, gate⟩ := inv.checked checked
    exact ⟨ready, gate.lasts ⟨⟨passive.beginsNoLoad, same ▸ ready⟩, same ▸ checked⟩⟩
  · exact inv.packets
  · exact inv.total

theorem ramLoadInvariant_reset (h : List (CoreEvent σ)) : RamLoadInvariant h .reset := by
  constructor
  · intro active
    exact absurd rfl active
  · intro ready
    exact absurd rfl ready
  · intro checked
    exact absurd rfl checked
  · exact UInt32.le_refl 0
  · exact UInt32.le_refl 0

theorem RamLoadInvariant.step {code : ServiceCode σ} {request : BootProtocolFrame}
    {received : ReceiveResult} {h : List (CoreEvent σ)} {v v' : CoreView σ} {ev : CoreEvent σ}
    (inv : RamLoadInvariant h v.ramLoad) (input : ev.input = .request request received)
    (after : ev.after.view = v') (step : Step code request v ev.output.status v') :
    RamLoadInvariant (h ++ [ev]) v'.ramLoad := by
  have same : ev.after.algorithm.ramLoad = v'.ramLoad := congrArg CoreView.ramLoad after
  generalize hs : ev.output.status = status at step
  cases step with
  | untouched passive run =>
    apply inv.passes (passive_request input ?_) same
    intro ok
    have other := passive (hs.symm.trans ok)
    exact ⟨fun h => other (.inl h), fun h => other (.inr (.inl h))⟩
  | aborted refused => exact ramLoadInvariant_reset _
  | begun command idle packets words =>
    have accepted : Accepted BootCmd.ramLoadBegin request ev := ⟨⟨received, input⟩, command, hs⟩
    constructor
    · intro _
      exact ⟨rfl, rfl, .begins accepted⟩
    · intro ready
      exact absurd rfl ready
    · intro checked
      exact absurd rfl checked
    · exact UInt32.zero_le
    · exact UInt32.zero_le
  | loaded command ready =>
    have accepted : Accepted BootCmd.ramLoadData request ev := ⟨⟨received, input⟩, command, hs⟩
    have begins : BeginsNoLoad ev := by
      intro request' h
      obtain ⟨received', h'⟩ := h.input
      rw [input] at h'
      cases h'
      have := h.command
      rw [command] at this
      exact absurd this (by decide)
    obtain ⟨noImage, unchecked, loading⟩ := inv.loading ready.active
    obtain ⟨next, sum, le⟩ := countPacket_counts ready inv.total
    constructor
    · intro active
      exact ⟨noImage, unchecked, loading.counts ready inv.total accepted begins (same ▸ active)⟩
    · intro image
      exact absurd noImage image
    · intro checked
      exact absurd unchecked checked
    · show v.ramLoad.processedPacketCount + 1 ≤ v.ramLoad.expectedPacketCount
      have packets := UInt32.lt_iff_toNat_lt.1 ready.packets
      rw [UInt32.le_iff_toNat_le, next]
      omega
    · show v.ramLoad.processedTotalWords + (request.word 2).toUInt32 ≤ v.ramLoad.expectedTotalWords
      rw [UInt32.le_iff_toNat_le, sum]
      exact le
  | loadFailed refused => exact ramLoadInvariant_reset _
  | ended command active complete =>
    have accepted : Accepted BootCmd.ramLoadEnd request ev := ⟨⟨received, input⟩, command, hs⟩
    obtain ⟨-, -, loading⟩ := inv.loading active
    constructor
    · intro active
      exact absurd rfl active
    · intro _
      exact loading.ends complete accepted
    · intro checked
      exact absurd rfl checked
    · exact UInt32.le_refl _
    · exact UInt32.le_refl _
  | mismatched refused =>
    have passive : Passive ev := passive_request input fun ok => absurd (hs.symm.trans ok) refused
    constructor
    · intro active
      obtain ⟨noImage, -, loading⟩ := inv.loading active
      exact ⟨noImage, rfl, loading.passes passive (same ▸ active)⟩
    · intro ready
      exact (inv.loaded ready).passes ⟨passive.beginsNoLoad, same ▸ ready⟩
    · intro checked
      exact absurd rfl checked
    · exact inv.packets
    · exact inv.total
  | checked command ready crc =>
    have accepted : Accepted BootCmd.ramCheckCrc request ev := ⟨⟨received, input⟩, command, hs⟩
    have passive : Passive ev := passive_request input fun _ => by rw [command]; decide
    constructor
    · intro active
      exact absurd (inv.loading active).1 ready
    · intro _
      exact (inv.loaded ready).passes ⟨passive.beginsNoLoad, same ▸ ready⟩
    · intro _
      exact ⟨ready, .starts ⟨request, accepted, crc ▸ inv.loaded ready⟩⟩
    · exact inv.packets
    · exact inv.total
  | attached command ready checked valid =>
    apply inv.passes (passive_request input ?_) same
    intro _
    rw [command]
    decide
  | attachFailed refused invalid =>
    apply inv.passes (passive_request input ?_) same
    intro ok
    exact absurd (hs.symm.trans ok) refused
  | forwarded command attached active =>
    apply inv.passes (passive_request input ?_) same
    intro _
    constructor
    · intro h
      rw [h] at command
      exact absurd command (by decide)
    · intro h
      rw [h] at command
      exact absurd command (by decide)

theorem restoreFlashService_ramLoad (code : ServiceCode σ) (c : Core σ) :
    (restoreFlashService code c).2.algorithm.ramLoad = c.algorithm.ramLoad := by
  unfold restoreFlashService
  dsimp only
  split <;> rfl

/-! ## Every run -/

theorem ramLoadInvariant_run (features : BootFeatures) (code : ServiceCode σ) {c₀ : Core σ}
    (fresh : c₀.algorithm.ramLoad = .reset) (inputs : List CoreInput) :
    RamLoadInvariant ((coreMachine features code).history c₀ inputs)
      ((coreMachine features code).run c₀ inputs).algorithm.ramLoad := by
  apply (coreMachine features code).history_induction c₀ fun h c =>
    RamLoadInvariant h c.algorithm.ramLoad
  · rw [fresh]
    exact ramLoadInvariant_reset []
  · intro h c input inv
    cases input with
    | request request received =>
      exact inv.step (v := c.view) rfl rfl (processOne_step features received)
    | restoreFlashService =>
      have same := restoreFlashService_ramLoad code c
      show RamLoadInvariant _ (restoreFlashService code c).2.algorithm.ramLoad
      rw [same]
      exact inv.passes (passive_restore rfl) same

/-- An accepted RUN_RAM or SERVICE_ATTACH has found the check flag set. -/
theorem accepted_checked {features : BootFeatures} {code : ServiceCode σ} {c : Core σ}
    {request : BootProtocolFrame} {received : ReceiveResult}
    (command : request.command = BootCmd.runRam ∨ request.command = BootCmd.serviceAttach)
    (accepted : (processOne request features code received c).response.status = BootStatus.ok) :
    c.algorithm.ramLoad.crcChecked ≠ 0 := by
  have step : Step code request c.view _ _ := processOne_step features received
  have other : ∀ k, request.command = k → k ≠ BootCmd.runRam → k ≠ BootCmd.serviceAttach → False := by
    rintro k rfl run attach
    exact command.elim run attach
  generalize (processOne request features code received c).response.status = status
    at step accepted
  generalize (processOne request features code received c).core.view = v' at step
  cases step with
  | untouched passive run =>
    rcases command with h | h
    · exact (run accepted h).2
    · exact absurd (.inr (.inr (.inr (.inr h)))) (passive accepted)
  | aborted refused => exact absurd accepted refused
  | begun command => exact (other _ command (by decide) (by decide)).elim
  | loaded command => exact (other _ command (by decide) (by decide)).elim
  | loadFailed refused => exact absurd accepted refused
  | ended command => exact (other _ command (by decide) (by decide)).elim
  | mismatched refused => exact absurd accepted refused
  | checked command => exact (other _ command (by decide) (by decide)).elim
  | attached command ready checked => exact checked
  | attachFailed refused => exact absurd accepted refused
  | forwarded flash =>
    rcases command with h | h
    · rw [h] at flash
      exact absurd flash (by decide)
    · rw [h] at flash
      exact absurd flash (by decide)

theorem init_ramLoad {deviceInfo : BootDeviceInfo} {w : CoreWorld σ} {c₀ : Core σ}
    (start : init deviceInfo w = some c₀) : c₀.algorithm.ramLoad = .reset := by
  unfold init at start
  split at start
  · cases start
  · cases start
    rfl

/-- The states of every run: the flag stands for a complete, checked load, the
two commands that rely on it find it set, and the counters stay within the
declared ones. -/
theorem ram_crc_gate (features : BootFeatures) (code : ServiceCode σ) (deviceInfo : BootDeviceInfo)
    (w : CoreWorld σ) (c₀ : Core σ) (start : init deviceInfo w = some c₀)
    (inputs : List CoreInput) :
    let h := (coreMachine features code).history c₀ inputs
    let c := (coreMachine features code).run c₀ inputs
    (c.algorithm.ramLoad.crcChecked ≠ 0 → CrcChecked h) ∧
      (∀ request received,
        request.command = BootCmd.runRam ∨ request.command = BootCmd.serviceAttach →
        (processOne request features code received c).response.status = BootStatus.ok →
        c.algorithm.ramLoad.crcChecked ≠ 0 ∧ CrcChecked h) ∧
      c.algorithm.ramLoad.processedPacketCount ≤ c.algorithm.ramLoad.expectedPacketCount ∧
      c.algorithm.ramLoad.processedTotalWords ≤ c.algorithm.ramLoad.expectedTotalWords := by
  intro h c
  have inv := ramLoadInvariant_run features code (init_ramLoad start) inputs
  refine ⟨fun checked => (inv.checked checked).2, ?_, inv.packets, inv.total⟩
  intro request received command accepted
  have checked := accepted_checked command accepted
  exact ⟨checked, (inv.checked checked).2⟩

/-- A service that does nothing. -/
def idleService : ServiceCode Unit where
  bootInit _ _ _ _ w := (BootStatus.ok, w)
  handleCommand _ _ w := ⟨BootStatus.ok, [], 0, .clear, w⟩

/-- The device of `BootUser_CreateDeviceInfo`. -/
def cpu1Info : BootDeviceInfo where
  deviceId := BootDevice.f28377d
  cpuId := BootDevice.cpu1
  kernelVerMajor := 0
  kernelVerMinor := 1
  kernelVerPatch := 0
  protocolVer := protocolVersion
  featureFlags := 0x8F
  maxPayloadWords := 256
  maxDataWords := 248
  bootMode := 2
  kernelLayout := 2
  revisionId := 0
  uidUnique := 0

/-- The core of that device after `BootAlgorithm_Init`, its memory zero. -/
def cpu1Core : Core Unit where
  algorithm := {
    deviceInfo := cpu1Info
    lastError := .clear
    ramLoad := .reset
    serviceCommandHandler := none
    serviceActive := 0
    serviceState := ⟨BootFlashServiceAbi.stateDetached, BootStatus.ok, 0, 0, 0⟩
    pendingEntryPoint := 0 }
  world := ⟨fun _ => 0, ()⟩

theorem init_cpu1Core : init cpu1Info ⟨fun _ => 0, ()⟩ = some cpu1Core := if_neg (by decide)

/-- A RAM image of one word, loaded and checked. -/
def loadRequests : List CoreInput :=
  [.request (.ofWords BootCmd.ramLoadBegin 1 [BootTarget.ramApp, 1, 1, 0, 0x8000, 0, 0, 0, 0]) .ok,
    .request (.ofWords BootCmd.ramLoadData 2 [0x8000, 0, 1, 0, 0, 0x1234]) .ok,
    .request (.ofWords BootCmd.ramLoadEnd 3 [1, 0, 1, 0, 0, 0]) .ok,
    .request (.ofWords BootCmd.ramCheckCrc 4 [0x9040, 0x094A, 1, 0, 0]) .ok]

theorem ram_crc_gate_loaded :
    ∃ c₀, init cpu1Info ⟨fun _ => 0, ()⟩ = some c₀ ∧
      CrcChecked ((coreMachine ⟨true, false, false⟩ idleService).history c₀ loadRequests) := by
  refine ⟨_, if_neg (by decide), ?_⟩
  apply (ram_crc_gate ⟨true, false, false⟩ idleService cpu1Info ⟨fun _ => 0, ()⟩ _
    (if_neg (by decide)) loadRequests).1
  decide +kernel

end BootUpgrade.BootAlgorithm

import BootUpgrade.Core.CrcGate

/-!
# The words of the last RAM load

RUN_RAM and SERVICE_ATTACH compare an address with the lowest and the highest
loaded one. These are the bounds of the packets accepted since the last BEGIN,
and an address between them can be one that no packet has written.
-/

namespace BootUpgrade.BootAlgorithm

open BootFlashServiceLayout BootFlashServiceAbi

variable {σ : Type}

/-- The packets write every executable word between the lowest and the highest
word they write. -/
def NoGap (ps : List BootProtocolFrame) : Prop :=
  ∀ a, BootRam.checkAddress a 1 BootTarget.ramApp = BootRamResult.ok →
    (∃ p ∈ ps, (p.u32 0).toNat ≤ a.toNat) →
    (∃ p ∈ ps, a.toNat < (p.u32 0).toNat + (p.word 2).toNat) → ∃ p ∈ ps, InBlock p a

/-! ## The packets since the last BEGIN -/

/-- The event is an accepted RAM_LOAD_BEGIN. -/
def beginsLoad (ev : CoreEvent σ) : Bool :=
  match ev.input with
  | .request request _ =>
    request.command = BootCmd.ramLoadBegin && ev.output.status = BootStatus.ok
  | .restoreFlashService => false

def recordPacket (ps : List BootProtocolFrame) (ev : CoreEvent σ) : List BootProtocolFrame :=
  if beginsLoad ev then [] else ps ++ (acceptedPacket ev).toList

/-- The packets accepted since the last accepted BEGIN. -/
def loadPackets (h : List (CoreEvent σ)) : List BootProtocolFrame := h.foldl recordPacket []

section
variable {h : List (CoreEvent σ)} {ev : CoreEvent σ} {request : BootProtocolFrame}

theorem beginsLoad_iff : beginsLoad ev = true ↔ ∃ request, Accepted BootCmd.ramLoadBegin request ev := by
  unfold beginsLoad
  constructor
  · intro begins
    split at begins
    · rename_i request received input
      obtain ⟨command, status⟩ := (Bool.and_eq_true _ _).mp begins
      exact ⟨request, ⟨received, input⟩, of_decide_eq_true command, of_decide_eq_true status⟩
    · cases begins
  · rintro ⟨request, ⟨received, input⟩, command, status⟩
    rw [input]
    simp [command, status]

theorem beginsLoad_none (begins : BeginsNoLoad ev) : beginsLoad ev = false := by
  rw [← Bool.not_eq_true, beginsLoad_iff]
  rintro ⟨request, accepted⟩
  exact begins request accepted

@[simp] theorem loadPackets_append_singleton :
    loadPackets (h ++ [ev]) = recordPacket (loadPackets h) ev := by
  simp [loadPackets]

theorem recordPacket_begins {ps : List BootProtocolFrame}
    (accepted : Accepted BootCmd.ramLoadBegin request ev) : recordPacket ps ev = [] :=
  if_pos (beginsLoad_iff.2 ⟨request, accepted⟩)

theorem recordPacket_other {ps : List BootProtocolFrame} (begins : BeginsNoLoad ev) :
    recordPacket ps ev = ps ++ packets [ev] := by
  rw [recordPacket, beginsLoad_none begins, packets, List.filterMap_cons]
  cases acceptedPacket ev <;> rfl

theorem recordPacket_passive {ps : List BootProtocolFrame} (passive : Passive ev) :
    recordPacket ps ev = ps := by
  rw [recordPacket_other passive.beginsNoLoad, packets_other passive.packet, List.append_nil]

/-- Events without a BEGIN add their packets. -/
theorem foldl_recordPacket {ps : List BootProtocolFrame} {since : List (CoreEvent σ)}
    (begins : ∀ ev ∈ since, BeginsNoLoad ev) :
    since.foldl recordPacket ps = ps ++ packets since := by
  induction since generalizing ps with
  | nil => simp
  | cons ev since ih =>
    obtain ⟨first, rest⟩ := List.forall_mem_cons.1 begins
    rw [List.foldl_cons, ih rest, recordPacket_other first, List.append_assoc, ← packets_append]
    rfl

theorem loadPackets_since {past since : List (CoreEvent σ)}
    (accepted : Accepted BootCmd.ramLoadBegin request ev)
    (begins : ∀ ev ∈ since, BeginsNoLoad ev) :
    loadPackets (past ++ ev :: since) = packets since := by
  rw [loadPackets, List.foldl_append, List.foldl_cons, recordPacket_begins accepted,
    foldl_recordPacket begins, List.nil_append]

end

/-! ## The bounds -/

/-- The bounds of the session are those of the packets. -/
structure Bounds (ramLoad : BootTransferSession) (ps : List BootProtocolFrame) : Prop where
  nonempty : ∀ p ∈ ps, 0 < (p.word 2).toNat
  start : ∀ a : UInt32, a.toNat < 0xFFFFFFFF →
    (ramLoad.loadedStart ≤ a ↔ ∃ p ∈ ps, (p.u32 0).toNat ≤ a.toNat)
  stop : ∀ a : UInt32, a < ramLoad.loadedEndExclusive ↔
    ∃ p ∈ ps, a.toNat < (p.u32 0).toNat + (p.word 2).toNat

theorem bounds_begun (request : BootProtocolFrame) : Bounds (begunLoad request) [] := by
  constructor
  · intro p hp
    cases hp
  · intro a small
    simp only [List.not_mem_nil, false_and, exists_false, iff_false, UInt32.le_iff_toNat_le]
    exact Nat.not_le.2 small
  · intro a
    simp only [List.not_mem_nil, false_and, exists_false, iff_false]
    exact UInt32.not_lt.2 UInt32.zero_le

theorem exists_mem_append_singleton {α : Type} {xs : List α} {x : α} {P : α → Prop} :
    (∃ y ∈ xs ++ [x], P y) ↔ (∃ y ∈ xs, P y) ∨ P x := by
  simp only [List.mem_append, List.mem_singleton, or_and_right, exists_or, exists_eq_left]

theorem Bounds.counts {ramLoad : BootTransferSession} {ps : List BootProtocolFrame}
    {request : BootProtocolFrame} (bounds : Bounds ramLoad ps) (ready : LoadReady request ramLoad) :
    Bounds (countPacket ramLoad (request.u32 0) (request.word 2) (loadData request))
      (ps ++ [request]) := by
  obtain ⟨nonempty, small, stop⟩ := BootRam.checkAddress_ok ready.writable
  rw [UInt16.toNat_toUInt32] at nonempty small stop
  constructor
  · intro p hp
    rcases List.mem_append.1 hp with hp | hp
    · exact bounds.nonempty p hp
    · rw [List.mem_singleton.1 hp]
      exact nonempty
  · intro a below
    rw [exists_mem_append_singleton, ← bounds.start a below]
    show (if request.u32 0 < ramLoad.loadedStart then _ else _) ≤ a ↔ _
    split <;> simp only [UInt32.lt_iff_toNat_lt, UInt32.le_iff_toNat_le] at * <;> omega
  · intro a
    rw [exists_mem_append_singleton, ← bounds.stop a, ← stop, ← UInt32.lt_iff_toNat_lt]
    show a < (if request.u32 0 + (request.word 2).toUInt32 > ramLoad.loadedEndExclusive then _
      else _) ↔ _
    split <;> simp only [gt_iff_lt, UInt32.lt_iff_toNat_lt] at * <;> omega

/-- The bounds of a load in progress or of a loaded image are those of its
packets, and a ready image receives no packet. -/
structure LoadedInvariant (h : List (CoreEvent σ)) (ramLoad : BootTransferSession) : Prop where
  bounds : ramLoad.active ≠ 0 ∨ ramLoad.imageReady ≠ 0 → Bounds ramLoad (loadPackets h)
  quiet : ∀ ev ∈ h, StaysReady ev → acceptedPacket ev = none

section
variable {h : List (CoreEvent σ)} {ev : CoreEvent σ} {ramLoad ramLoad' : BootTransferSession}

theorem LoadedInvariant.extend_quiet (inv : LoadedInvariant h ramLoad)
    (quiet : StaysReady ev → acceptedPacket ev = none) :
    ∀ x ∈ h ++ [ev], StaysReady x → acceptedPacket x = none := by
  intro x hx
  rcases List.mem_append.1 hx with hx | hx
  · exact inv.quiet x hx
  · rw [List.mem_singleton.1 hx]
    exact quiet

/-- An event that opens no load and keeps the bounds. -/
theorem LoadedInvariant.passes (inv : LoadedInvariant h ramLoad) (passive : Passive ev)
    (opens : ramLoad'.active ≠ 0 ∨ ramLoad'.imageReady ≠ 0 →
      (ramLoad.active ≠ 0 ∨ ramLoad.imageReady ≠ 0) ∧ ramLoad'.loadedStart = ramLoad.loadedStart ∧
        ramLoad'.loadedEndExclusive = ramLoad.loadedEndExclusive) :
    LoadedInvariant (h ++ [ev]) ramLoad' := by
  constructor
  · intro present
    obtain ⟨before, start, stop⟩ := opens present
    obtain ⟨nonempty, starts, stops⟩ := inv.bounds before
    rw [loadPackets_append_singleton, recordPacket_passive passive]
    constructor
    · exact nonempty
    · rw [start]
      exact starts
    · rw [stop]
      exact stops
  · exact inv.extend_quiet fun _ => passive.packet

end

theorem LoadedInvariant.step {code : ServiceCode σ} {request : BootProtocolFrame}
    {received : ReceiveResult} {h : List (CoreEvent σ)} {v v' : CoreView σ} {ev : CoreEvent σ}
    (inv : LoadedInvariant h v.ramLoad) (sessions : RamLoadInvariant h v.ramLoad)
    (input : ev.input = .request request received) (after : ev.after.view = v')
    (step : Step code request v ev.output.status v') : LoadedInvariant (h ++ [ev]) v'.ramLoad := by
  have same : ev.after.algorithm.ramLoad = v'.ramLoad := congrArg CoreView.ramLoad after
  generalize hs : ev.output.status = status at step
  have refusal : status ≠ BootStatus.ok → Passive ev := fun refused =>
    passive_request input fun ok => absurd (hs.symm.trans ok) refused
  have other : request.command ≠ BootCmd.ramLoadBegin → request.command ≠ BootCmd.ramLoadData →
      Passive ev := fun begins loads => passive_request input fun _ => ⟨begins, loads⟩
  cases step with
  | untouched passive run =>
    apply inv.passes (passive_request input ?_) (fun present => ⟨present, rfl, rfl⟩)
    intro ok
    have other := passive (hs.symm.trans ok)
    exact ⟨fun h => other (.inl h), fun h => other (.inr (.inl h))⟩
  | aborted refused | loadFailed refused =>
    apply inv.passes (refusal refused)
    rintro (active | ready)
    · exact absurd rfl active
    · exact absurd rfl ready
  | begun command idle packets words =>
    have accepted : Accepted BootCmd.ramLoadBegin request ev := ⟨⟨received, input⟩, command, hs⟩
    constructor
    · intro _
      rw [loadPackets_append_singleton, recordPacket_begins accepted]
      exact bounds_begun request
    · exact inv.extend_quiet fun stays => absurd accepted (stays.beginsNoLoad request)
  | loaded command ready =>
    have accepted : Accepted BootCmd.ramLoadData request ev := ⟨⟨received, input⟩, command, hs⟩
    have begins : BeginsNoLoad ev := by
      rintro request' ⟨⟨received', input'⟩, command', -⟩
      rw [input] at input'
      cases input'
      rw [command] at command'
      exact absurd command' (by decide)
    constructor
    · intro _
      rw [loadPackets_append_singleton, recordPacket_other begins, packets_accepted accepted]
      exact (inv.bounds (.inl ready.active)).counts ready
    · apply inv.extend_quiet
      intro stays
      have image : v.ramLoad.imageReady ≠ 0 := by
        have := stays.ready
        rw [same] at this
        exact this
      exact absurd (sessions.loading ready.active).1 image
  | ended command active complete =>
    apply inv.passes (other (by rw [command]; decide) (by rw [command]; decide))
    intro _
    exact ⟨.inl active, rfl, rfl⟩
  | mismatched refused => exact inv.passes (refusal refused) fun present => ⟨present, rfl, rfl⟩
  | checked command ready crc =>
    apply inv.passes (other (by rw [command]; decide) (by rw [command]; decide))
    exact fun present => ⟨present, rfl, rfl⟩
  | attached command ready checked valid =>
    apply inv.passes (other (by rw [command]; decide) (by rw [command]; decide))
    exact fun present => ⟨present, rfl, rfl⟩
  | attachFailed refused invalid =>
    exact inv.passes (refusal refused) fun present => ⟨present, rfl, rfl⟩
  | forwarded command attached active =>
    apply inv.passes (other ?_ ?_) (fun present => ⟨present, rfl, rfl⟩)
    · intro h
      rw [h] at command
      exact absurd command (by decide)
    · intro h
      rw [h] at command
      exact absurd command (by decide)

theorem loadedInvariant_run (features : BootFeatures) (code : ServiceCode σ) {c₀ : Core σ}
    (fresh : c₀.algorithm.ramLoad = .reset) (inputs : List CoreInput) :
    LoadedInvariant ((coreMachine features code).history c₀ inputs)
      ((coreMachine features code).run c₀ inputs).algorithm.ramLoad := by
  apply And.left
  apply (coreMachine features code).history_induction c₀ fun h c =>
    LoadedInvariant h c.algorithm.ramLoad ∧ RamLoadInvariant h c.algorithm.ramLoad
  · rw [fresh]
    constructor
    · constructor
      · rintro (active | ready)
        · exact absurd rfl active
        · exact absurd rfl ready
      · intro ev hev
        cases hev
    · exact ramLoadInvariant_reset []
  · rintro h c input ⟨inv, sessions⟩
    cases input with
    | request request received =>
      have step := @processOne_step _ code request c features received
      exact ⟨inv.step (v := c.view) sessions rfl rfl step, sessions.step (v := c.view) rfl rfl step⟩
    | restoreFlashService =>
      have same := restoreFlashService_ramLoad code c
      show LoadedInvariant _ (restoreFlashService code c).2.algorithm.ramLoad ∧
        RamLoadInvariant _ (restoreFlashService code c).2.algorithm.ramLoad
      rw [same]
      exact ⟨inv.passes (passive_restore rfl) fun present => ⟨present, rfl, rfl⟩,
        sessions.passes (passive_restore rfl) same⟩

/-! ## The checked load of a history -/

/-- The packets of a completed RAM load with this CRC, which no BEGIN or reset
has followed. -/
def CompletedLoad (crc : UInt32) (ps : List BootProtocolFrame) (h : List (CoreEvent σ)) : Prop :=
  ∃ past b begin' loading e end' rest, h = past ++ b :: (loading ++ e :: rest) ∧
    Accepted BootCmd.ramLoadBegin begin' b ∧ (∀ ev ∈ loading, LoadGoesOn ev) ∧
    Complete begin' (packets loading) ∧ Accepted BootCmd.ramLoadEnd end' e ∧
    (∀ ev ∈ rest, StaysReady ev) ∧ ps = packets loading ∧
    crc = BootCrc32.calcWords (packetWords ps)

/-- The packets of the last RAM load, completed and with its CRC checked. -/
def CheckedLoad (ps : List BootProtocolFrame) (h : List (CoreEvent σ)) : Prop :=
  Runs.Since
    (fun past c => ∃ check, Accepted BootCmd.ramCheckCrc check c ∧
      CompletedLoad (check.u32 0) ps past)
    StaysChecked h

section
variable {h : List (CoreEvent σ)} {ev : CoreEvent σ} {request : BootProtocolFrame}

/-- An accepted request of another command is neither a BEGIN nor a packet. -/
theorem Accepted.passive {command : UInt16} (accepted : Accepted command request ev)
    (begins : command ≠ BootCmd.ramLoadBegin) (loads : command ≠ BootCmd.ramLoadData) :
    Passive ev := by
  obtain ⟨⟨received, input⟩, rfl, -⟩ := accepted
  exact passive_request input fun _ => ⟨begins, loads⟩

theorem packets_quiet {rest : List (CoreEvent σ)} (quiet : ∀ ev ∈ rest, acceptedPacket ev = none) :
    packets rest = [] := List.filterMap_eq_nil_iff.2 quiet

/-- The packets of a completed load are those since the last BEGIN. -/
theorem packets_completed {past loading rest : List (CoreEvent σ)} {b e : CoreEvent σ}
    {begin' end' : BootProtocolFrame}
    (quiet : ∀ ev ∈ past ++ b :: (loading ++ e :: rest), StaysReady ev → acceptedPacket ev = none)
    (begun : Accepted BootCmd.ramLoadBegin begin' b) (goes : ∀ ev ∈ loading, LoadGoesOn ev)
    (ended : Accepted BootCmd.ramLoadEnd end' e) (stays : ∀ ev ∈ rest, StaysReady ev) :
    loadPackets (past ++ b :: (loading ++ e :: rest)) = packets loading := by
  have passive : Passive e := ended.passive (by decide) (by decide)
  have none : packets (e :: rest) = [] := by
    apply packets_quiet
    intro ev hev
    rcases List.mem_cons.1 hev with rfl | hev
    · exact passive.packet
    · exact quiet ev (by simp [hev]) (stays ev hev)
  rw [loadPackets_since begun, packets_append, none, List.append_nil]
  intro ev hev
  rcases List.mem_append.1 hev with hev | hev
  · exact (goes ev hev).beginsNoLoad
  rcases List.mem_cons.1 hev with rfl | hev
  · exact passive.beginsNoLoad
  · exact (stays ev hev).beginsNoLoad

theorem completedLoad_iff {crc : UInt32} {ps : List BootProtocolFrame}
    (quiet : ∀ ev ∈ h, StaysReady ev → acceptedPacket ev = none) :
    CompletedLoad crc ps h ↔ Loaded crc h ∧ ps = loadPackets h := by
  constructor
  · rintro ⟨past, b, begin', loading, e, end', rest, rfl, begun, goes, complete, ended, stays, rfl, hc⟩
    exact ⟨⟨past, b, begin', loading, e, end', rest, rfl, begun, goes, complete, ended, stays, hc⟩,
      (packets_completed quiet begun goes ended stays).symm⟩
  · rintro ⟨⟨past, b, begin', loading, e, end', rest, rfl, begun, goes, complete, ended, stays, hc⟩,
      same⟩
    rw [packets_completed quiet begun goes ended stays] at same
    exact ⟨past, b, begin', loading, e, end', rest, rfl, begun, goes, complete, ended, stays, same,
      same ▸ hc⟩

/-- What follows the check adds no packet. -/
theorem loadPackets_checked {past recent : List (CoreEvent σ)} {c : CoreEvent σ}
    (quiet : ∀ ev ∈ past ++ c :: recent, StaysReady ev → acceptedPacket ev = none)
    (accepted : Accepted BootCmd.ramCheckCrc request c) (stays : ∀ ev ∈ recent, StaysChecked ev) :
    loadPackets (past ++ c :: recent) = loadPackets past := by
  have passive : Passive c := accepted.passive (by decide) (by decide)
  have none : packets (c :: recent) = [] := by
    apply packets_quiet
    intro ev hev
    rcases List.mem_cons.1 hev with rfl | hev
    · exact passive.packet
    · exact quiet ev (by simp [hev]) (stays ev hev).toStaysReady
  rw [loadPackets, List.foldl_append, foldl_recordPacket, none, List.append_nil]
  · rfl
  · intro ev hev
    rcases List.mem_cons.1 hev with rfl | hev
    · exact passive.beginsNoLoad
    · exact (stays ev hev).beginsNoLoad

theorem checkedLoad_iff {ps : List BootProtocolFrame}
    (quiet : ∀ ev ∈ h, StaysReady ev → acceptedPacket ev = none) :
    CheckedLoad ps h ↔ CrcChecked h ∧ ps = loadPackets h := by
  constructor
  · rintro ⟨past, c, recent, rfl, ⟨check, accepted, load⟩, stays⟩
    have before : ∀ ev ∈ past, StaysReady ev → acceptedPacket ev = none :=
      fun ev hev => quiet ev (List.mem_append_left _ hev)
    obtain ⟨loaded, same⟩ := (completedLoad_iff before).1 load
    rw [loadPackets_checked quiet accepted stays]
    exact ⟨⟨past, c, recent, rfl, ⟨check, accepted, loaded⟩, stays⟩, same⟩
  · rintro ⟨⟨past, c, recent, rfl, ⟨check, accepted, loaded⟩, stays⟩, same⟩
    have before : ∀ ev ∈ past, StaysReady ev → acceptedPacket ev = none :=
      fun ev hev => quiet ev (List.mem_append_left _ hev)
    rw [loadPackets_checked quiet accepted stays] at same
    exact ⟨past, c, recent, rfl, ⟨check, accepted, (completedLoad_iff before).2 ⟨loaded, same⟩⟩,
      stays⟩

end

/-! ## RUN_RAM and SERVICE_ATTACH -/

section
variable {features : BootFeatures} {code : ServiceCode σ} {c : Core σ} {ramLoad : BootTransferSession}
  {request : BootProtocolFrame} {received : ReceiveResult}

theorem isRangeInLoadedRamImage_iff {address wordCount : UInt32} :
    isRangeInLoadedRamImage ramLoad address wordCount = true ↔
      wordCount ≠ 0 ∧ address ≤ address + wordCount ∧ ramLoad.imageReady ≠ 0 ∧
        ramLoad.loadedStart ≤ address ∧ address + wordCount ≤ ramLoad.loadedEndExclusive := by
  simp [isRangeInLoadedRamImage, and_assoc]

/-- A word of a range that passes the check lies between the bounds. -/
theorem between_bounds {address wordCount : UInt32} {k : Nat}
    (within : isRangeInLoadedRamImage ramLoad address wordCount = true) (hk : k < wordCount.toNat) :
    ramLoad.loadedStart ≤ address + UInt32.ofNat k ∧
      address + UInt32.ofNat k < ramLoad.loadedEndExclusive := by
  obtain ⟨-, wraps, -, start, stop⟩ := isRangeInLoadedRamImage_iff.1 within
  have sum := UInt32.toNat_add address wordCount
  have low := address.toNat_lt
  have high := wordCount.toNat_lt
  rw [UInt32.le_iff_toNat_le] at wraps start stop
  have offset : (UInt32.ofNat k).toNat = k := UInt32.toNat_ofNat_of_lt' (by simp [UInt32.size]; omega)
  have word : (address + UInt32.ofNat k).toNat = address.toNat + k := by
    rw [Words.toNat_add_of_lt (by omega), offset]
  rw [UInt32.le_iff_toNat_le, UInt32.lt_iff_toNat_lt]
  omega

theorem isRangeInLoadedRamImage_one {a : UInt32} (ready : ramLoad.imageReady ≠ 0)
    (start : ramLoad.loadedStart ≤ a) (stop : a < ramLoad.loadedEndExclusive) :
    isRangeInLoadedRamImage ramLoad a 1 = true := by
  have small := UInt32.lt_iff_toNat_lt.1 stop
  have limit := ramLoad.loadedEndExclusive.toNat_lt
  have one : (1 : UInt32).toNat = 1 := rfl
  have next : (a + 1).toNat = a.toNat + 1 := by
    rw [Words.toNat_add_of_lt (by omega), one]
  apply isRangeInLoadedRamImage_iff.2
  refine ⟨by decide, ?_, ready, start, ?_⟩
  · rw [UInt32.le_iff_toNat_le, next]
    omega
  · rw [UInt32.le_iff_toNat_le, next]
    exact small

/-- The address RUN_RAM jumps to. -/
def runRamEntry (request : BootProtocolFrame) (ramLoad : BootTransferSession) : UInt32 :=
  if request.u32 0 = 0 then ramLoad.entryPoint else request.u32 0

theorem handleRunRam_accepted (accepted : (handleRunRam request c).response.status = BootStatus.ok) :
    isRangeInLoadedRamImage c.algorithm.ramLoad (runRamEntry request c.algorithm.ramLoad) 1 = true ∧
      BootRam.checkAddress (runRamEntry request c.algorithm.ramLoad) 1 BootTarget.ramApp =
        BootRamResult.ok ∧
      (handleRunRam request c).core.algorithm.pendingEntryPoint =
        runRamEntry request c.algorithm.ramLoad := by
  revert accepted
  let motive (r : CoreReturn σ) : Prop :=
    r.response.status = BootStatus.ok →
      isRangeInLoadedRamImage c.algorithm.ramLoad (runRamEntry request c.algorithm.ramLoad) 1 =
        true ∧
      BootRam.checkAddress (runRamEntry request c.algorithm.ramLoad) 1 BootTarget.ramApp =
        BootRamResult.ok ∧
      r.core.algorithm.pendingEntryPoint = runRamEntry request c.algorithm.ramLoad
  apply iteInduction (motive := motive)
  · exact fun _ h => absurd h (show BootStatus.badPayloadLength ≠ _ by decide)
  intro _
  apply iteInduction (motive := motive)
  · exact fun _ h => absurd h (show BootStatus.badFlags ≠ _ by decide)
  intro _
  apply iteInduction (motive := motive)
  · exact fun _ h => absurd h (show BootStatus.invalidState ≠ _ by decide)
  intro _
  apply iteInduction (motive := motive)
  · exact fun _ h => absurd h (show BootStatus.ramRegionError ≠ _ by decide)
  intro checks _
  rw [not_or, Bool.not_eq_false] at checks
  exact ⟨checks.1, Decidable.not_not.1 checks.2, rfl⟩

theorem handleRunRam_ok (payload : request.payloadWords = 3) (flags : request.word 2 = 0)
    (checked : c.algorithm.ramLoad.crcChecked ≠ 0)
    (within : isRangeInLoadedRamImage c.algorithm.ramLoad
      (runRamEntry request c.algorithm.ramLoad) 1 = true)
    (executable : BootRam.checkAddress (runRamEntry request c.algorithm.ramLoad) 1
      BootTarget.ramApp = BootRamResult.ok) :
    handleRunRam request c =
      accept request .runRamApp
        { c with algorithm.pendingEntryPoint := runRamEntry request c.algorithm.ramLoad } := by
  have ready := (isRangeInLoadedRamImage_iff.1 within).2.2.1
  have checks : ¬ (isRangeInLoadedRamImage c.algorithm.ramLoad
      (runRamEntry request c.algorithm.ramLoad) 1 = false ∨
      BootRam.checkAddress (runRamEntry request c.algorithm.ramLoad) 1 BootTarget.ramApp ≠
        BootRamResult.ok) := by
    simp [within, executable]
  unfold handleRunRam
  dsimp only
  rw [if_neg (not_not_intro payload), if_neg (not_not_intro flags),
    if_neg (not_or.2 ⟨ready, checked⟩)]
  exact if_neg checks

theorem handleServiceAttach_accepted
    (accepted : (handleServiceAttach request code c).response.status = BootStatus.ok) :
    isRangeInLoadedRamImage c.algorithm.ramLoad headerOrigin headerReservedWords = true := by
  have refused {status : UInt16} {address lengthWords : UInt32} {c' : Core σ}
      (h : status ≠ BootStatus.ok) :
      (failServiceAttach request status address lengthWords c').response.status ≠
        BootStatus.ok := h
  revert accepted
  let motive (r : CoreReturn σ) : Prop :=
    r.response.status = BootStatus.ok →
      isRangeInLoadedRamImage c.algorithm.ramLoad headerOrigin headerReservedWords = true
  apply iteInduction (motive := motive)
  · exact fun _ h => absurd h (refused (by decide))
  intro _
  apply iteInduction (motive := motive)
  · exact fun _ h => absurd h (refused (by decide))
  intro _
  apply iteInduction (motive := motive)
  · exact fun _ h => absurd h (refused (by decide))
  intro _
  apply iteInduction (motive := motive)
  · exact fun _ h => absurd h (refused (by decide))
  intro _
  apply iteInduction (motive := motive)
  · exact fun _ h => absurd h (refused (by decide))
  intro header _
  rw [not_or, Bool.not_eq_false] at header
  exact Decidable.not_not.1 header.1 ▸ header.2

end

/-! ## Every reachable state -/

theorem header_executable : ∀ k < headerReservedWords.toNat,
    BootRam.checkAddress (headerOrigin + UInt32.ofNat k) 1 BootTarget.ramApp =
      BootRamResult.ok := by decide

/-- RUN_RAM jumps to a word, and SERVICE_ATTACH reads header words, that the
packets of the last checked load have written. -/
structure ActsOnLoadedWords (features : BootFeatures) (code : ServiceCode σ)
    (h : List (CoreEvent σ)) (c : Core σ) : Prop where
  runRam : ∀ request received, request.command = BootCmd.runRam →
    (processOne request features code received c).response.status = BootStatus.ok →
    ∃ ps, CheckedLoad ps h ∧
      ∃ p ∈ ps, InBlock p (processOne request features code received c).core.algorithm.pendingEntryPoint
  serviceAttach : ∀ request received, request.command = BootCmd.serviceAttach →
    (processOne request features code received c).response.status = BootStatus.ok →
    ∀ k < headerReservedWords.toNat,
      ∃ ps, CheckedLoad ps h ∧ ∃ p ∈ ps, InBlock p (headerOrigin + UInt32.ofNat k)

theorem Bounds.between {ramLoad : BootTransferSession} {ps : List BootProtocolFrame} {a : UInt32}
    (bounds : Bounds ramLoad ps) : ramLoad.loadedStart ≤ a ∧ a < ramLoad.loadedEndExclusive ↔
      (∃ p ∈ ps, (p.u32 0).toNat ≤ a.toNat) ∧
        ∃ p ∈ ps, a.toNat < (p.u32 0).toNat + (p.word 2).toNat := by
  rw [← bounds.stop]
  constructor
  · rintro ⟨start, stop⟩
    have small := UInt32.lt_iff_toNat_lt.1 stop
    have limit := ramLoad.loadedEndExclusive.toNat_lt
    exact ⟨(bounds.start a (by omega)).1 start, stop⟩
  · rintro ⟨start, stop⟩
    have small := UInt32.lt_iff_toNat_lt.1 stop
    have limit := ramLoad.loadedEndExclusive.toNat_lt
    exact ⟨(bounds.start a (by omega)).2 start, stop⟩

/-- A RUN_RAM request for the word at `a`. -/
def runRamAt (a : UInt32) : BootProtocolFrame :=
  .ofWords BootCmd.runRam 0 [lowWord a, highWord a, 0] (Nat.le_of_ble_eq_true rfl)

theorem runRamEntry_runRamAt {a : UInt32} (ramLoad : BootTransferSession) (nonzero : a ≠ 0) :
    runRamEntry (runRamAt a) ramLoad = a := by
  have entry : (runRamAt a).u32 0 = a := by
    rw [runRamAt, BootProtocolFrame.u32_ofWords]
    exact Words.joinU32_lowWord_highWord a
  rw [runRamEntry, entry, if_neg nonzero]

theorem runRamAt_flags (a : UInt32) : (runRamAt a).word 2 = 0 :=
  BootProtocolFrame.word_ofWords _ _ _ _ 2

/-- The two commands act on loaded words in a state of a run as soon as the
packets of its checked load leave no gap, and with RUN_RAM enabled only then. -/
theorem acts_on_loaded_words (features : BootFeatures) (code : ServiceCode σ)
    (deviceInfo : BootDeviceInfo) (w : CoreWorld σ) (c₀ : Core σ)
    (start : init deviceInfo w = some c₀) (inputs : List CoreInput) :
    let h := (coreMachine features code).history c₀ inputs
    let c := (coreMachine features code).run c₀ inputs
    ((c.algorithm.ramLoad.crcChecked ≠ 0 → NoGap (loadPackets h)) →
      ActsOnLoadedWords features code h c) ∧
    (features.runRam = true → ActsOnLoadedWords features code h c →
      c.algorithm.ramLoad.crcChecked ≠ 0 → NoGap (loadPackets h)) := by
  intro h c
  have fresh := init_ramLoad start
  have sessions : RamLoadInvariant h c.algorithm.ramLoad := ramLoadInvariant_run features code fresh inputs
  have loads : LoadedInvariant h c.algorithm.ramLoad := loadedInvariant_run features code fresh inputs
  constructor
  · intro noGap
    have loaded (a : UInt32) (checked : c.algorithm.ramLoad.crcChecked ≠ 0)
        (executable : BootRam.checkAddress a 1 BootTarget.ramApp = BootRamResult.ok)
        (between : c.algorithm.ramLoad.loadedStart ≤ a ∧ a < c.algorithm.ramLoad.loadedEndExclusive) :
        ∃ ps, CheckedLoad ps h ∧ ∃ p ∈ ps, InBlock p a := by
      obtain ⟨ready, gate⟩ := sessions.checked checked
      obtain ⟨low, high⟩ := (loads.bounds (.inr ready)).between.1 between
      exact ⟨_, (checkedLoad_iff loads.quiet).2 ⟨gate, rfl⟩, noGap checked a executable low high⟩
    constructor
    · intro request received command accepted
      have checked := accepted_checked (.inl command) accepted
      have dispatched := processOne_accepted accepted
      rw [dispatched] at accepted ⊢
      rw [dispatch_runRam command] at accepted ⊢
      by_cases enabled : features.runRam = true
      · rw [if_pos enabled] at accepted ⊢
        obtain ⟨within, executable, entry⟩ := handleRunRam_accepted accepted
        have between := between_bounds (k := 0) within (by decide)
        rw [entry]
        apply loaded _ checked executable
        simpa using between
      · rw [if_neg enabled] at accepted
        exact absurd accepted (show BootStatus.unsupportedFeature ≠ BootStatus.ok by decide)
    · intro request received command accepted k hk
      have checked := accepted_checked (.inr command) accepted
      rw [processOne_accepted accepted, dispatch_serviceAttach command] at accepted
      exact loaded _ checked (header_executable k hk)
        (between_bounds (handleServiceAttach_accepted accepted) hk)
  · intro enabled acts checked a executable low high
    have ready := (sessions.checked checked).1
    have bounds := loads.bounds (.inr ready)
    obtain ⟨first, last⟩ := bounds.between.2 ⟨low, high⟩
    by_cases zero : a = 0
    · obtain ⟨p, hp, lowest⟩ := low
      have nonempty := bounds.nonempty p hp
      have address : a.toNat = 0 := congrArg UInt32.toNat zero
      exact ⟨p, hp, lowest, by omega⟩
    have entry := runRamEntry_runRamAt c.algorithm.ramLoad zero
    have within := isRangeInLoadedRamImage_one ready first last
    rw [← entry] at within executable
    have accepted : processOne (runRamAt a) features code .ok c =
        accept (runRamAt a) .runRamApp { c with algorithm.pendingEntryPoint := a } := by
      rw [processOne_dispatch ⟨rfl, rfl, rfl⟩, dispatch_runRam rfl, if_pos enabled,
        handleRunRam_ok rfl (runRamAt_flags a) checked within executable, entry]
    obtain ⟨ps, load, loaded⟩ := acts.runRam (runRamAt a) .ok rfl (by rw [accepted]; rfl)
    rw [accepted] at loaded
    rw [← ((checkedLoad_iff loads.quiet).1 load).2]
    exact loaded

theorem noGap_singleton (p : BootProtocolFrame) : NoGap [p] := by
  rintro a - ⟨q, hq, low⟩ ⟨r, hr, high⟩
  rw [List.mem_singleton] at hq hr
  subst hq hr
  exact ⟨_, List.mem_singleton_self _, low, high⟩

theorem acts_on_loaded_words_one_packet :
    init cpu1Info ⟨fun _ => 0, ()⟩ = some cpu1Core ∧
      ActsOnLoadedWords ⟨true, false, false⟩ idleService
        ((coreMachine ⟨true, false, false⟩ idleService).history cpu1Core loadRequests)
        ((coreMachine ⟨true, false, false⟩ idleService).run cpu1Core loadRequests) := by
  refine ⟨init_cpu1Core, ?_⟩
  apply (acts_on_loaded_words ⟨true, false, false⟩ idleService cpu1Info ⟨fun _ => 0, ()⟩ cpu1Core
    init_cpu1Core loadRequests).1
  intro _
  obtain ⟨p, hp⟩ := List.length_eq_one_iff.1 (show (loadPackets
    ((coreMachine ⟨true, false, false⟩ idleService).history cpu1Core loadRequests)).length = 1 by
      decide +kernel)
  rw [hp]
  exact noGap_singleton p

/-- Two words with a gap of 15 words between them, loaded and checked. -/
def gapRequests : List CoreInput :=
  [.request (.ofWords BootCmd.ramLoadBegin 1 [BootTarget.ramApp, 2, 2, 0, 0x8000, 0, 0, 0, 0]) .ok,
    .request (.ofWords BootCmd.ramLoadData 2 [0x8000, 0, 1, 0, 0, 0x1235]) .ok,
    .request (.ofWords BootCmd.ramLoadData 3 [0x8010, 0, 1, 1, 0, 0x5678]) .ok,
    .request (.ofWords BootCmd.ramLoadEnd 4 [2, 0, 2, 0, 0, 0]) .ok,
    .request (.ofWords BootCmd.ramCheckCrc 5 [42926, 40189, 2, 0, 0]) .ok]

/-- RUN_RAM is then accepted for a word in the gap. -/
theorem acts_on_loaded_words_gap :
    init cpu1Info ⟨fun _ => 0, ()⟩ = some cpu1Core ∧
      ¬ ActsOnLoadedWords ⟨true, false, false⟩ idleService
        ((coreMachine ⟨true, false, false⟩ idleService).history cpu1Core gapRequests)
        ((coreMachine ⟨true, false, false⟩ idleService).run cpu1Core gapRequests) := by
  refine ⟨init_cpu1Core, ?_⟩
  intro acts
  obtain ⟨ps, load, p, hp, inside⟩ := acts.runRam (runRamAt 0x8008) .ok rfl (by decide +kernel)
  have loads := loadedInvariant_run ⟨true, false, false⟩ idleService (init_ramLoad init_cpu1Core)
    gapRequests
  have apart : ∀ p ∈ loadPackets
      ((coreMachine ⟨true, false, false⟩ idleService).history cpu1Core gapRequests),
      ¬ InBlock p (processOne (runRamAt 0x8008) ⟨true, false, false⟩ idleService .ok
        ((coreMachine ⟨true, false, false⟩ idleService).run cpu1Core
          gapRequests)).core.algorithm.pendingEntryPoint := by
    decide +kernel
  rw [((checkedLoad_iff loads.quiet).1 load).2] at hp
  exact apart p hp inside

end BootUpgrade.BootAlgorithm

import BootUpgrade.System.SimulatorAppends

/-!
# The simulator's journal against the device's

Any sequence of append and summary requests from an erased journal, with the
verify gate of both sides set alike in between: both sides keep the same
journal throughout, and they answer alike unless an unsettled confirmation
comes.
-/

namespace BootUpgrade

open BootMetadata BootFlashService FlashArray

/-! ## One append -/

section
variable {core : SimulatorCore} {s s' : FlashService FlashArray} {request : BootProtocolFrame}
  {record : RecordWords} {r : BootMetadataRecord}

/-- A journal stays clean when a decided record is appended to it. -/
theorem Wrote.clean (inv : JournalInvariant (journal s.world.words))
    (clean : SimulatorCore.Clean (journal s.world.words)) (wrote : Wrote s s' record)
    (appends : Appends (some request) s (scanLoadedRecords (journal s.world.words) 16) record)
    (hv : validateRecord record = some r) : SimulatorCore.Clean (journal s'.world.words) := by
  have inv' := wrote.invariant inv appends
  have records := wrote.validRecords inv hv
  obtain ⟨slot, hs, erased, first, whole⟩ := wrote.slot
  have selected : ∃ image, currentImage (validRecords (journal s'.world.words) 16) = some image ∧
      image.bootAttemptLimit = bootAttemptLimit := by
    rw [records]
    rcases appends.currentImage inv hv with ⟨asked, -, -, built, current⟩ | ⟨valid, -, same⟩
    · exact ⟨r, current, by rw [built]; exact (sealed_imageFields ..).2.2⟩
    · obtain ⟨image, selected, -⟩ := scan_selected valid
      exact ⟨image, by rw [same, selected], clean.limit image selected⟩
  obtain ⟨image, current, limit⟩ := selected
  refine ⟨?_, inv'.single, ?_, ?_⟩
  · intro i hi live
    rw [whole i hi] at live ⊢
    by_cases same : i = slot
    · rw [same, writeSlot_self]
      exact ⟨r, hv⟩
    · rw [writeSlot_ne same] at live ⊢
      exact clean.valid i hi live
  · intro none
    rw [current] at none
    cases none
  · intro image' current'
    rw [current] at current'
    rw [← Option.some.inj current']
    exact limit

/-- The first erased slot is the same on both sides. -/
theorem Related.slot_eq (related : Related core s) {slot slot' : Nat} (hs : slot < 16)
    (hs' : slot' < 16) (erased : isErasedRecord (core.metadataRecord slot) = true)
    (first : ∀ i < slot, isErasedRecord (core.metadataRecord i) = false)
    (erased' : isErasedRecord (journal s.world.words slot') = true)
    (first' : ∀ i < slot', isErasedRecord (journal s.world.words i) = false) : slot = slot' := by
  have same := (related.slots slot hs).1
  have same' := (related.slots slot' hs').1
  rcases Nat.lt_trichotomy slot slot' with h | h | h
  · rw [erased, first' slot h] at same
    cases same
  · exact h
  · rw [erased', first slot' h] at same'
    cases same'

/-- What both sides decide alike they answer alike, and their journals stay the same. -/
theorem Related.decided (related : Related core s) {result : SimulatorResponse × SimulatorCore}
    {o : Outcome FlashArray} {v : Verdict}
    (appends : ∀ record, v = .append record →
      Appends (some request) s (scanLoadedRecords (journal s.world.words) 16) record)
    (simulated : Matches core result v) (settled : Settles s o v) :
    result.1 = ⟨o.status, []⟩ ∧ Related result.2 o.service := by
  cases simulated with
  | refused status operation stage =>
    cases settled with
    | refused _ failed answer service =>
      rw [answer, service]
      refine ⟨rfl, ?_⟩
      unfold SimulatorCore.fail
      dsimp only
      split
      · exact ⟨related.slots, related.invariant, related.clean, related.gate, related.deviceId,
          related.cpuId, related.initialized, related.working⟩
      · exact related
  | kept =>
    cases settled with
    | kept answer service =>
      rw [answer, service]
      exact ⟨rfl, related⟩
  | @append record record' r r' slot written hs erased first stored device gate hv hv' bare =>
    cases settled with
    | append _ written' wrote answer service =>
      rw [answer, service]
      refine ⟨rfl, ?_⟩
      have appends := appends record' rfl
      have clean := Wrote.clean related.invariant related.clean wrote appends hv'
      have inv := wrote.invariant related.invariant appends
      obtain ⟨slot', hs', erased', first', whole⟩ := wrote.slot
      obtain ⟨flag, runtime⟩ := wrote.runtime
      have same := related.slot_eq hs hs' erased first erased' first'
      have slots : ∀ i < 16, SameSlot (written.metadataRecord i) (journal written'.world.words i) := by
        intro i hi
        rw [stored i, whole i hi, ← same]
        by_cases h : i = slot
        · rw [h, writeSlot_self, writeSlot_self]
          refine ⟨?_, ?_⟩
          · rw [(validateRecord_some hv).2.1, (validateRecord_some hv').2.1]
          · rw [hv, hv', Option.map_some, Option.map_some, bare]
        · rw [writeSlot_ne h, writeSlot_ne h]
          exact related.slots i hi
      have deviceId : written.deviceInfo.deviceId = written'.runtime.deviceId := by
        rw [device, runtime]
        exact related.deviceId
      have cpuId : written.deviceInfo.cpuId = written'.runtime.cpuId := by
        rw [device, runtime]
        exact related.cpuId
      have initialized : written'.runtime.initialized ≠ 0 := by
        rw [runtime]
        exact related.initialized
      by_cases image : (parseRecord record').recordType = recordImageValid
      · rw [if_pos image] at gate ⊢
        exact ⟨slots, inv, clean, by simp [SimulatorCore.respond, setVerifySucceeded, gate],
          deviceId, cpuId, initialized, wrote.working⟩
      · rw [if_neg image] at gate ⊢
        refine ⟨slots, inv, clean, ?_, deviceId, cpuId, initialized, wrote.working⟩
        rw [runtime]
        show written.verifySucceeded = true ↔ _
        rw [gate]
        exact related.gate

end

/-! ## The two sides in step -/

/-- A request, and the verify gate if the requests before it have set it. -/
structure JournalTurn where
  gate : Option UInt16
  request : BootProtocolFrame

/-- The answers of the two sides; the simulator may raise. -/
structure JournalAnswers where
  simulator : Except HostError SimulatorResponse
  device : SimulatorResponse

/-- The simulator's answer to a metadata request. -/
def simulatorAnswer (core : SimulatorCore) (request : BootProtocolFrame) :
    Except HostError SimulatorResponse × SimulatorCore :=
  if request.command = BootCmd.getMetadataSummary then
    let r := core.getMetadataSummary (requestPayload request)
    (.ok r.1, r.2)
  else
    match core.metadataAppendRecord (requestPayload request) with
    | .error e => (.error e, core)
    | .ok r => (.ok r.1, r.2)

/-- The core of the device, reading the Flash that the service writes. -/
def flashCore (algorithm : BootAlgorithm) (s : FlashService FlashArray) :
    Core (FlashService FlashArray) :=
  ⟨algorithm, ⟨fun address => s.world.words address.toNat, s⟩⟩

/-- The device's answer: the core reads the summary, the service appends. -/
def deviceAnswer (algorithm : BootAlgorithm) (s : FlashService FlashArray)
    (request : BootProtocolFrame) : SimulatorResponse × FlashService FlashArray :=
  if request.command = BootCmd.getMetadataSummary then
    let r := BootAlgorithm.handleGetMetadataSummary request (flashCore algorithm s)
    (⟨r.response.status, r.response.payload⟩, s)
  else
    let r := bootHandleCommand FlashArray.port request 0 .clear s
    (⟨r.status, []⟩, r.service)

/-- The verify gate of both sides, set alike. -/
def setGates (gate : Option UInt16) (sides : SimulatorCore × FlashService FlashArray) :
    SimulatorCore × FlashService FlashArray :=
  match gate with
  | none => sides
  | some flag =>
    ({ sides.1 with verifySucceeded := decide (flag ≠ 0) }, setVerifySucceeded sides.2 flag)

def sidesMachine (algorithm : BootAlgorithm) :
    Runs.Machine (SimulatorCore × FlashService FlashArray) JournalTurn JournalAnswers where
  step sides turn :=
    let sides := setGates turn.gate sides
    let simulator := simulatorAnswer sides.1 turn.request
    let device := deviceAnswer algorithm sides.2 turn.request
    (⟨simulator.1, device.1⟩, (simulator.2, device.2))

/-- The same status and the same payload. -/
def JournalAnswers.Agree (answers : JournalAnswers) : Prop := answers.simulator = .ok answers.device

/-- The journal of the device, as it is scanned. -/
def deviceSummary (s : FlashService FlashArray) : BootMetadataSummary :=
  scanLoadedRecords (journal s.world.words) 16

/-- A metadata request. -/
def JournalTurn.Metadata (turn : JournalTurn) : Prop :=
  turn.request.command = BootCmd.metadataAppendRecord ∨
    turn.request.command = BootCmd.getMetadataSummary

section
variable {core : SimulatorCore} {s : FlashService FlashArray} {algorithm : BootAlgorithm}

theorem setGates_related (related : Related core s) (gate : Option UInt16) :
    Related (setGates gate (core, s)).1 (setGates gate (core, s)).2 := by
  cases gate with
  | none => exact related
  | some flag =>
    exact ⟨related.slots, related.invariant, related.clean, decide_eq_true_iff, related.deviceId,
      related.cpuId, related.initialized, related.working⟩

theorem setGates_summary (gate : Option UInt16) :
    deviceSummary (setGates gate (core, s)).2 = deviceSummary s := by
  cases gate <;> rfl

theorem deviceSummary_eq :
    scanFlashRecords (flashCore algorithm s).world.memory slotAStart = deviceSummary s := rfl

section
variable (related : Related core s) {request : BootProtocolFrame}
include related

theorem Related.summary (command : request.command = BootCmd.getMetadataSummary) :
    (simulatorAnswer core request).1 = .ok (deviceAnswer algorithm s request).1 ∧
      Related (simulatorAnswer core request).2 (deviceAnswer algorithm s request).2 := by
  have empty : requestPayload request = [] ↔ request.payloadWords = 0 := by
    rw [← List.length_eq_zero_iff, length_requestPayload, ← UInt16.toNat_inj]
    rfl
  have payload : core.metadataSummaryPayload = summaryToPayload (deviceSummary s) := related.payload
  unfold simulatorAnswer deviceAnswer
  rw [if_pos command, if_pos command]
  unfold SimulatorCore.getMetadataSummary BootAlgorithm.handleGetMetadataSummary
  rw [deviceSummary_eq]
  generalize deviceSummary s = summary at payload ⊢
  by_cases words : request.payloadWords = 0
  · simp only [words, empty, ne_eq, not_true_eq_false, if_false]
    rw [SimulatorCore.respond, payload]
    exact ⟨rfl, related⟩
  · have present : requestPayload request ≠ [] := fun h => words (empty.1 h)
    rw [if_pos present, if_pos words]
    refine ⟨rfl, ?_⟩
    unfold SimulatorCore.fail
    rw [if_neg (not_not_intro rfl)]
    exact related

theorem Related.settles (command : request.command = BootCmd.metadataAppendRecord) :
    Settles s (bootHandleCommand FlashArray.port request 0 .clear s).toOutcome
      (appendVerdict request (deviceSummary s) s) := by
  rw [bootHandleCommand_of_initialized related.initialized, dispatch_append command]
  exact handleMetadataAppendRecord_settles related.working related.invariant related.initialized

theorem Related.append (command : request.command = BootCmd.metadataAppendRecord) :
    Related (simulatorAnswer core request).2 (deviceAnswer algorithm s request).2 ∧
      ((simulatorAnswer core request).1 = .ok (deviceAnswer algorithm s request).1 ↔
        ¬ Divergent request (deviceSummary s)) := by
  have other : request.command ≠ BootCmd.getMetadataSummary := by
    rw [command]
    decide
  have settled := related.settles command
  have scan : scanLoadedRecords (journal s.world.words) 16 = deviceSummary s := rfl
  unfold simulatorAnswer deviceAnswer
  rw [if_neg other, if_neg other]
  by_cases divergent : Divergent request (deviceSummary s)
  · obtain ⟨⟨result, v, answer, simulated, verdict⟩, refused⟩ :=
      related.divergent_append scan divergent
    rw [refused] at settled
    rw [answer]
    cases settled with
    | refused _ failed status service =>
      dsimp only
      rw [service]
      rcases verdict with rfl | rfl
      · cases simulated with
        | refused _ operation stage =>
          have kept := ((@Related.decided _ _ request related) (o := fail s BootStatus.invalidState 0 0 0 0)
            (by simp) (.refused BootStatus.invalidState operation stage) (settles_fail (by decide))).2
          refine ⟨kept, ?_⟩
          simp [divergent, SimulatorCore.fail, status, BootStatus.invalidState,
            BootStatus.metadataInvalid]
      · cases simulated with
        | kept =>
          refine ⟨related, ?_⟩
          simp [divergent, SimulatorCore.respond, status, BootStatus.ok, BootStatus.metadataInvalid]
  · obtain ⟨result, answer, simulated⟩ := related.matches_append scan command divergent
    rw [answer]
    obtain ⟨same, kept⟩ := related.decided (fun record h => appendVerdict_appends h) simulated settled
    refine ⟨kept, ?_⟩
    simp only [divergent, not_false_iff, iff_true]
    rw [same]

/-- The summary of the device once it has appended an image. -/
theorem Related.image_appended (command : request.command = BootCmd.metadataAppendRecord)
    (kind : request.word 0 = recordImageValid)
    (checked : (metadataRequestValid request s).status = BootStatus.ok)
    (gate : s.runtime.verifySucceeded ≠ 0)
    (free : (deviceSummary s).nextRecordIndex ≠ invalidIndex) :
    let summary := deviceSummary (deviceAnswer algorithm s request).2
    summary.metadataValid ≠ 0 ∧ summary.bootAttemptCount = 0 := by
  intro summary
  have settled := related.settles command
  have single : (deviceSummary s).state ≠ .duplicateSequence := related.invariant.scan_single
  have other : ∀ kind, kind ≠ recordImageValid →
      ¬ (request.payloadWords = 16 ∧ request.word 0 = kind) :=
    fun _ differs same => differs (same.2.symm.trans kind)
  have verdict : appendVerdict request (deviceSummary s) s =
      .append (imageRecord request s.runtime (deviceSummary s)) := by
    rw [appendVerdict, if_neg (other _ followUp_ne_image.1), if_neg (other _ followUp_ne_image.2),
      Verdict.after, if_neg (not_not_intro checked), imageVerdict, if_neg gate, if_neg single,
      Verdict.appendTo, if_neg free]
  rw [verdict] at settled
  obtain ⟨written, wrote, -, service⟩ := settled.appended
  obtain ⟨counts, newer, scan⟩ :=
    wrote.scan_image related.invariant rfl (metadataRequestValid_ok checked) gate single
  have append : request.command ≠ BootCmd.getMetadataSummary := by
    rw [command]
    decide
  have served : (bootHandleCommand FlashArray.port request 0 .clear s).service = _ := service
  have reached : summary = deviceSummary written := by
    show deviceSummary (deviceAnswer algorithm s request).2 = deviceSummary written
    rw [deviceAnswer, if_neg append]
    dsimp only
    rw [served]
    split <;> rfl
  rw [reached.trans scan]
  refine ⟨by simp [selectedSummary], ?_⟩
  rw [selected_bootAttemptCount, attempts, boundRecords_append_image newer]
  rfl

end

theorem sides_device (sides : SimulatorCore × FlashService FlashArray) (turn : JournalTurn) :
    ((sidesMachine algorithm).step sides turn).2.2 =
      (deviceAnswer algorithm (setGates turn.gate sides).2 turn.request).2 := rfl

/-- One turn: the journals stay the same, and only a divergent request is answered differently. -/
theorem sides_step {sides : SimulatorCore × FlashService FlashArray} {turn : JournalTurn}
    (related : Related sides.1 sides.2) (command : turn.Metadata) :
    let r := (sidesMachine algorithm).step sides turn
    Related r.2.1 r.2.2 ∧ (r.1.Agree ↔ ¬ Divergent turn.request (deviceSummary sides.2)) := by
  obtain ⟨core, s⟩ := sides
  obtain ⟨gate, request⟩ := turn
  have gated := setGates_related related gate
  rw [← setGates_summary gate]
  rcases command with command | command
  · exact gated.append command
  · obtain ⟨same, kept⟩ := gated.summary command
    refine ⟨kept, iff_of_true same ?_⟩
    intro divergent
    have append := divergent.command.symm.trans command
    exact absurd append (by decide)

end

/-- Both sides start from an erased journal, with the same gate, for the same
device, and the Flash of the device works. -/
structure ErasedAlike (core : SimulatorCore) (s : FlashService FlashArray) : Prop where
  simulator : ∀ a, 0x082000 ≤ a → a < 0x082400 → core.flash a = erasedWord
  device : ∀ a, 0x082000 ≤ a → a < 0x082400 → s.world.words a = erasedWord
  gate : core.verifySucceeded = true ↔ s.runtime.verifySucceeded ≠ 0
  deviceId : core.deviceInfo.deviceId = s.runtime.deviceId
  cpuId : core.deviceInfo.cpuId = s.runtime.cpuId
  initialized : s.runtime.initialized ≠ 0
  working : Working s.world

theorem ErasedAlike.related {core : SimulatorCore} {s : FlashService FlashArray}
    (start : ErasedAlike core s) : Related core s := by
  have simulator : ∀ i < 16, isErasedRecord (core.metadataRecord i) = true := by
    intro i hi
    rw [isErasedRecord, Vector.all_eq_true]
    intro k hk
    have base : slotAStart.toNat = 0x082000 := rfl
    rw [SimulatorCore.metadataRecord_getElem core i hk, start.simulator _ (by omega) (by omega)]
    rfl
  have device : ∀ i < 16, isErasedRecord (journal s.world.words i) = true := by
    intro i hi
    apply (journal_erased hi).2
    intro k hk
    apply start.device <;> unfold slotAddress <;> omega
  have none : validRecords (journal s.world.words) 16 = [] := by
    rw [validRecords_erased_tail (Nat.zero_le 16) fun i _ hi => device i hi]
    rfl
  refine ⟨?_, journalInvariant_blank device, ⟨?_, ?_, ?_, ?_⟩, start.gate, start.deviceId,
    start.cpuId, start.initialized, start.working⟩
  · intro i hi
    refine ⟨by rw [simulator i hi, device i hi], ?_⟩
    rw [validateRecord_erased (simulator i hi), validateRecord_erased (device i hi)]
  · intro i hi live
    rw [device i hi] at live
    cases live
  · rw [none]
    rfl
  · exact fun _ => none
  · intro image selected
    rw [none] at selected
    cases selected

def erasedCore : SimulatorCore := ⟨fun _ => erasedWord, cpu1DeviceInfo, .clear, false⟩

def erasedService : FlashService FlashArray :=
  ⟨⟨.reset, 1, 0, 0, BootDevice.f28377d, BootDevice.cpu1, 248⟩,
    ⟨fun _ => erasedWord, 0, fun _ => .success⟩⟩

def appendImage : BootProtocolFrame :=
  .ofWords BootCmd.metadataAppendRecord 1
    [recordImageValid, BootSlot.a, 0x2400, 0x8, 8, 0, 0x1234, 0x5678, 1, 0, 0, 1, 0, 0x2408, 0x8, 0]
    imageWords_length

def confirmImage : BootProtocolFrame :=
  .ofWords BootCmd.metadataAppendRecord 2
    [recordAppConfirmed, BootSlot.a, 0x2400, 0x8, 8, 0, 0x1234, 0x5678, 0, 0, 0, 0, 0, 0, 0, 0]

/-- An image is appended and, before any attempt, confirmed. -/
def earlyConfirmation : List JournalTurn := [⟨some 1, appendImage⟩, ⟨none, confirmImage⟩]

theorem erasedAlike : ErasedAlike erasedCore erasedService where
  simulator _ _ _ := rfl
  device _ _ _ := rfl
  gate := by decide
  deviceId := rfl
  cpuId := rfl
  initialized := by decide
  working _ := rfl

theorem earlyConfirmation_metadata : ∀ turn ∈ earlyConfirmation, turn.Metadata := by
  simp [earlyConfirmation, JournalTurn.Metadata, appendImage, confirmImage,
    BootProtocolFrame.ofWords]

/-- In every run from an erased journal the two sides give the same answers
exactly when no confirmation comes that finds no attempt, or that finds the
image confirmed and names another. -/
theorem simulator_refines (algorithm : BootAlgorithm) {core : SimulatorCore}
    {s : FlashService FlashArray} (start : ErasedAlike core s) (turns : List JournalTurn)
    (metadata : ∀ turn ∈ turns, turn.Metadata) :
    (∀ ev ∈ (sidesMachine algorithm).history (core, s) turns, ev.output.Agree) ↔
      ∀ ev ∈ (sidesMachine algorithm).history (core, s) turns,
        ¬ Divergent ev.input.request (deviceSummary ev.before.2) := by
  have related := start.related
  clear start
  induction turns generalizing core s with
  | nil => simp [Runs.Machine.history]
  | cons turn turns ih =>
    obtain ⟨first, rest⟩ := List.forall_mem_cons.1 metadata
    obtain ⟨kept, agree⟩ := (@sides_step _ (core, s)) related first
    have tail := ih rest kept
    rw [Runs.Machine.history, List.forall_mem_cons, List.forall_mem_cons]
    exact and_congr agree tail

theorem simulator_refines_erased :
    (∀ ev ∈ (sidesMachine BootAlgorithm.cpu1Core.algorithm).history (erasedCore, erasedService)
        earlyConfirmation, ev.output.Agree) ↔
      ∀ ev ∈ (sidesMachine BootAlgorithm.cpu1Core.algorithm).history (erasedCore, erasedService)
        earlyConfirmation, ¬ Divergent ev.input.request (deviceSummary ev.before.2) :=
  simulator_refines BootAlgorithm.cpu1Core.algorithm erasedAlike earlyConfirmation
    earlyConfirmation_metadata

theorem confirmImage_divergent {summary : BootMetadataSummary} (valid : summary.metadataValid ≠ 0)
    (unattempted : summary.bootAttemptCount = 0) : Divergent confirmImage summary := by
  have word (index : Nat) : confirmImage.word index = _ :=
    BootProtocolFrame.word_ofWords BootCmd.metadataAppendRecord 2 _ _ index
  constructor
  case length => decide
  case kind => exact word 0
  case slot => exact word 1
  case flags => exact word 15
  case reserved => decide +kernel
  case valid => exact valid
  case unsettled => exact .inl unattempted
  case command => rfl

/-- The claimed agreement fails where the image is confirmed before any attempt. -/
theorem simulator_diverges : ¬ ∀ (algorithm : BootAlgorithm) (core : SimulatorCore)
    (s : FlashService FlashArray) (turns : List JournalTurn), ErasedAlike core s →
      (∀ turn ∈ turns, turn.Metadata) →
      ∀ ev ∈ (sidesMachine algorithm).history (core, s) turns, ev.output.Agree := by
  intro all
  have agree := all BootAlgorithm.cpu1Core.algorithm erasedCore erasedService earlyConfirmation
    erasedAlike earlyConfirmation_metadata
  simp only [earlyConfirmation, Runs.Machine.history, List.forall_mem_cons] at agree
  obtain ⟨-, early, -⟩ := agree
  obtain ⟨first, second⟩ := List.forall_mem_cons.1 earlyConfirmation_metadata
  obtain ⟨related, -⟩ := (@sides_step _
    (erasedCore, erasedService)) erasedAlike.related first
  obtain ⟨-, differ⟩ := sides_step related
    (second _ (List.mem_singleton.2 rfl))
  rw [sides_device] at differ
  have gated := setGates_related erasedAlike.related (some 1)
  have free : (deviceSummary (setGates (some 1) (erasedCore, erasedService)).2).nextRecordIndex ≠
      invalidIndex := by
    decide +kernel
  have checked : (metadataRequestValid appendImage
      (setGates (some 1) (erasedCore, erasedService)).2).status = BootStatus.ok := by
    decide +kernel
  obtain ⟨valid, unattempted⟩ := gated.image_appended rfl
    (BootProtocolFrame.word_ofWords BootCmd.metadataAppendRecord 1 _ _ 0) checked (by decide) free
  exact differ.1 early (confirmImage_divergent valid unattempted)

end BootUpgrade

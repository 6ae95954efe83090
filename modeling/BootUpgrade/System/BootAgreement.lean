import BootUpgrade.Core.Run
import BootUpgrade.User.Boot

/-!
# The boot decision, RUN and the jump

The three check the entry point in their own ways. All of them accept the entry
of a valid record, and nothing else is ever jumped to.
-/

namespace BootUpgrade

open BootMetadata BootAlgorithm BootUser

variable {σ : Type}

/-! ## The entry checks -/

/-- An entry that the jump accepts. -/
def FlashEntry (entryPoint : UInt32) : Prop :=
  appStart ≤ entryPoint ∧ entryPoint < appEndExclusive ∧ entryPoint % 8 = 0

/-- The low three bits are the remainder by eight. -/
theorem and_seven (entryPoint : UInt32) : entryPoint &&& 7 = entryPoint % 8 := by
  apply UInt32.toNat_inj.1
  rw [UInt32.toNat_and, UInt32.toNat_mod]
  exact Nat.and_two_pow_sub_one_eq_mod entryPoint.toNat 3

theorem isValidFlashAppEntry_iff {entryPoint : UInt32} :
    isValidFlashAppEntry entryPoint = true ↔ FlashEntry entryPoint := by
  unfold isValidFlashAppEntry FlashEntry
  rw [and_seven]
  by_cases start : entryPoint < appStart
  · simp [start, UInt32.not_le.2 start]
  by_cases stop : entryPoint ≥ appEndExclusive
  · simp [start, stop, UInt32.not_lt.2 stop]
  · simp [start, stop, UInt32.not_lt.1 start, UInt32.not_le.1 stop]

theorem isValidAutoBootEntry_iff {entryPoint : UInt32} :
    isValidAutoBootEntry entryPoint = true ↔ FlashEntry entryPoint := by
  unfold isValidAutoBootEntry FlashEntry
  simp [and_assoc]

theorem areAppFieldsValid_entry {record : BootMetadataRecord}
    (valid : areAppFieldsValid record = true) : FlashEntry record.entryPoint := by
  unfold areAppFieldsValid at valid
  split at valid
  · cases valid
  split at valid
  · cases valid
  split at valid
  · cases valid
  rename_i entry
  rw [not_or, not_or, Decidable.not_not, UInt32.not_lt, UInt32.not_le] at entry
  exact entry

theorem jumpToFlashApp_entry {entryPoint : UInt32} (entry : FlashEntry entryPoint) :
    jumpToFlashApp entryPoint = .jumped entryPoint := by
  rw [jumpToFlashApp, isValidFlashAppEntry_iff.2 entry]
  rfl

/-! ## The selected image -/

/-- The valid records of the journal in this memory. -/
def journalRecords (memory : CoreMemory) : List BootMetadataRecord :=
  validRecords (loadFlashRecord memory slotAStart) 16

/-- What a scan with valid metadata has selected. -/
theorem scan_entry {memory : CoreMemory}
    (valid : (scanFlashRecords memory slotAStart).metadataValid ≠ 0) :
    ∃ image, currentImage (journalRecords memory) = some image ∧
      (scanFlashRecords memory slotAStart).entryPoint = image.entryPoint ∧
      FlashEntry image.entryPoint := by
  obtain ⟨image, selected, summary⟩ := scan_selected valid
  refine ⟨image, selected, ?_, areAppFieldsValid_entry (currentImage_valid selected).2⟩
  rw [scanFlashRecords, summary]
  rfl

/-! ## The decision -/

/-- What the decision to run the application says of the summary. -/
structure Confirmed (summary : BootMetadataSummary) : Prop where
  valid : summary.metadataValid ≠ 0
  entry : FlashEntry summary.entryPoint
  attempted : summary.bootAttemptCount ≠ 0
  confirmed : summary.appConfirmed ≠ 0

theorem previewAutoBootDecision_run {summary : BootMetadataSummary}
    (run : previewAutoBootDecision (some summary) = .runConfirmedApp) : Confirmed summary := by
  unfold previewAutoBootDecision at run
  dsimp only at run
  split at run
  · cases run
  split at run
  · cases run
  split at run
  · cases run
  split at run
  · cases run
  split at run
  · cases run
  rename_i valid entry attempted confirmed
  rw [Bool.not_eq_false] at entry
  exact ⟨(not_or.1 valid).1, isValidAutoBootEntry_iff.1 entry, attempted, confirmed⟩

theorem isConfirmedBootable_iff {summary : BootMetadataSummary} :
    isConfirmedBootable summary = true ↔
      previewAutoBootDecision (some summary) = .runConfirmedApp := by
  rw [isConfirmedBootable, decide_eq_true_iff]

/-! ## Agreement -/

/-- A RUN request for the Flash application at an entry. -/
structure RunRequest (entryPoint : UInt32) (request : BootProtocolFrame) : Prop where
  wellFormed : WellFormed request
  command : request.command = BootCmd.run
  length : request.payloadWords = 4
  target : request.word 0 = BootTarget.flashApp
  entry : request.u32 1 = entryPoint

/-- RUN of a confirmed image. -/
theorem run_confirmed {features : BootFeatures} {code : ServiceCode σ} {c : Core σ}
    {request : BootProtocolFrame} (confirmed : Confirmed (flashSummary c))
    (run : RunRequest (flashSummary c).entryPoint request) :
    processOne request features code .ok c =
      accept request .runFlashApp
        { c with algorithm.pendingEntryPoint := (flashSummary c).entryPoint } := by
  have ready : RunReady request (flashSummary c) := by
    refine ⟨run.length, run.target, ?_, confirmed.valid, run.entry.symm, .inl confirmed.confirmed⟩
    rw [run.entry]
    exact confirmed.entry.2.2
  rw [processOne_dispatch run.wellFormed, dispatch_run run.command, handleRun_ready ready, run.entry]

/-- The caller enters the application that an accepted RUN asks for. -/
theorem handleAlgorithmAction_run (features : BootFeatures) (request : BootProtocolFrame) (c : Core σ)
    {entryPoint : UInt32} (entry : FlashEntry entryPoint) :
    let r := accept request .runFlashApp { c with algorithm.pendingEntryPoint := entryPoint }
    handleAlgorithmAction features r.core.algorithm r.action = .jumped entryPoint :=
  jumpToFlashApp_entry entry

/-- Whatever the journal holds: an automatic boot enters the selected image, a
RUN of a confirmed image makes the same jump, and no accepted request schedules
an entry that the jump refuses. -/
theorem boot_agreement (features : BootFeatures) (code : ServiceCode σ) (c : Core σ) :
    let memory := c.world.memory
    let summary := scanFlashRecords memory slotAStart
    (previewAutoBootDecision (some summary) = .runConfirmedApp →
      (∃ image, currentImage (journalRecords memory) = some image ∧
        summary.entryPoint = image.entryPoint) ∧
      isValidFlashAppEntry summary.entryPoint = true ∧
      connectTimeout memory = .jumped summary.entryPoint) ∧
    (isConfirmedBootable summary = true →
      ∀ request, RunRequest summary.entryPoint request →
        let r := processOne request features code .ok c
        r.response.status = BootStatus.ok ∧ r.action = .runFlashApp ∧
          handleAlgorithmAction features r.core.algorithm r.action = connectTimeout memory) ∧
    (∀ request received,
      let r := processOne request features code received c
      r.action = .runFlashApp →
        handleAlgorithmAction features r.core.algorithm r.action =
          .jumped r.core.algorithm.pendingEntryPoint) := by
  intro memory summary
  have jumps (run : previewAutoBootDecision (some summary) = .runConfirmedApp) :
      connectTimeout memory = .jumped summary.entryPoint := by
    have confirmed := previewAutoBootDecision_run run
    unfold connectTimeout
    dsimp only
    rw [if_pos (isConfirmedBootable_iff.2 run)]
    exact jumpToFlashApp_entry confirmed.entry
  refine ⟨?_, ?_, ?_⟩
  · intro run
    have confirmed := previewAutoBootDecision_run run
    obtain ⟨image, selected, entry, -⟩ := scan_entry confirmed.valid
    exact ⟨⟨image, selected, entry⟩, isValidFlashAppEntry_iff.2 confirmed.entry, jumps run⟩
  · intro bootable request run r
    have decided := isConfirmedBootable_iff.1 bootable
    have confirmed := previewAutoBootDecision_run decided
    have accepted : r = accept request .runFlashApp
        { c with algorithm.pendingEntryPoint := summary.entryPoint } := run_confirmed confirmed run
    rw [accepted, jumps decided]
    exact ⟨rfl, rfl, handleAlgorithmAction_run features request c confirmed.entry⟩
  · intro request received r action
    have handled : r = handleRun request c := processOne_runFlashApp action
    rw [handled] at action ⊢
    have ready := handleRun_runFlashApp action
    obtain ⟨image, -, entry, valid⟩ := scan_entry ready.valid
    have pending : FlashEntry (request.u32 1) := by
      rw [← ready.entry, flashSummary, entry]
      exact valid
    rw [handleRun_ready ready]
    exact handleAlgorithmAction_run features request c pending

end BootUpgrade

import BootUpgrade.Core.Step
import BootUpgrade.Metadata.Journal

/-!
# Requests that start an application

RUN is the only request with the action `runFlashApp`. What RUN accepts is the
entry of the image that the journal selects.
-/

namespace BootUpgrade.BootAlgorithm

open BootMetadata

variable {σ : Type} {code : ServiceCode σ} {request : BootProtocolFrame} {c : Core σ}

/-! ## Actions -/

theorem action_ite {p : Prop} [Decidable p] {x y : CoreReturn σ} (hx : x.action = .none)
    (hy : y.action = .none) : (if p then x else y).action = .none := by
  split
  · exact hx
  · exact hy

theorem handleServiceAttach_action : (handleServiceAttach request code c).action = .none := by
  unfold handleServiceAttach
  dsimp only
  iterate 6 apply action_ite rfl
  rfl

theorem handleRamLoadBegin_action : (handleRamLoadBegin request c).action = .none := by
  unfold handleRamLoadBegin
  dsimp only
  iterate 5 apply action_ite rfl
  rfl

theorem handleRamLoadData_action : (handleRamLoadData request c).action = .none := by
  unfold handleRamLoadData
  dsimp only
  iterate 7 apply action_ite rfl
  rfl

theorem handleRamLoadEnd_action : (handleRamLoadEnd request c).action = .none := by
  unfold handleRamLoadEnd
  dsimp only
  iterate 3 apply action_ite rfl
  rfl

theorem handleRamCheckCrc_action : (handleRamCheckCrc request c).action = .none := by
  unfold handleRamCheckCrc
  dsimp only
  iterate 4 apply action_ite rfl
  rfl

theorem handleMemoryRead_action : (handleMemoryRead request c).action = .none := by
  unfold handleMemoryRead
  dsimp only
  iterate 3 apply action_ite rfl
  rfl

theorem handleQuery_action {payload : List UInt16} :
    (handleQuery request payload c).action = .none := action_ite rfl rfl

theorem forwardToService_action : (forwardToService request code c).action = .none := by
  unfold forwardToService
  cases c.algorithm.serviceCommandHandler with
  | none => rfl
  | some address =>
    dsimp only
    iterate 2 apply action_ite rfl
    rfl

theorem handleRunRam_action :
    (handleRunRam request c).action = .none ∨ (handleRunRam request c).action = .runRamApp := by
  unfold handleRunRam
  dsimp only
  repeat' split
  all_goals first | exact .inl rfl | exact .inr rfl

theorem handleReset_action {features : BootFeatures} :
    (handleReset request features c).action = .none ∨
      (handleReset request features c).action = .resetDevice := by
  unfold handleReset
  repeat' split
  all_goals first | exact .inl rfl | exact .inr rfl

theorem handleOther_action : (handleOther request code c).action = .none :=
  action_ite forwardToService_action rfl

/-- Only RUN has the action `runFlashApp`. -/
theorem dispatch_runFlashApp {features : BootFeatures}
    (action : (dispatch request features code c).action = .runFlashApp) :
    dispatch request features code c = handleRun request c := by
  revert action
  let motive (r : CoreReturn σ) : Prop := r.action = .runFlashApp → r = handleRun request c
  have idle {r : CoreReturn σ} (h : r.action = .none) : motive r := by
    intro run
    rw [h] at run
    cases run
  apply iteInduction (motive := motive)
  · exact fun _ => idle rfl
  intro _
  apply iteInduction (motive := motive)
  · exact fun _ => idle handleQuery_action
  intro _
  apply iteInduction (motive := motive)
  · exact fun _ => idle handleQuery_action
  intro _
  apply iteInduction (motive := motive)
  · exact fun _ => idle handleQuery_action
  intro _
  apply iteInduction (motive := motive)
  · exact fun _ => idle handleQuery_action
  intro _
  apply iteInduction (motive := motive)
  · exact fun _ => idle handleServiceAttach_action
  intro _
  apply iteInduction (motive := motive)
  · exact fun _ => idle handleRamLoadBegin_action
  intro _
  apply iteInduction (motive := motive)
  · exact fun _ => idle handleRamLoadData_action
  intro _
  apply iteInduction (motive := motive)
  · exact fun _ => idle handleRamLoadEnd_action
  intro _
  apply iteInduction (motive := motive)
  · exact fun _ => idle handleRamCheckCrc_action
  intro _
  apply iteInduction (motive := motive)
  · intro _
    apply iteInduction (motive := motive)
    · intro _ run
      rcases (handleRunRam_action : (handleRunRam request c).action = _ ∨ _) with none | ram
      · exact idle none run
      · rw [ram] at run
        cases run
    · exact fun _ => idle rfl
  intro _
  apply iteInduction (motive := motive)
  · exact fun _ => idle handleMemoryRead_action
  intro _
  apply iteInduction (motive := motive)
  · exact fun _ => idle handleQuery_action
  intro _
  apply iteInduction (motive := motive)
  · exact fun _ _ => rfl
  intro _
  apply iteInduction (motive := motive)
  · intro _ run
    rcases (handleReset_action : (handleReset request features c).action = _ ∨ _) with none | reset
    · exact idle none run
    · rw [reset] at run
      cases run
  · exact fun _ => idle handleOther_action

theorem processOne_runFlashApp {features : BootFeatures} {received : ReceiveResult}
    (action : (processOne request features code received c).action = .runFlashApp) :
    processOne request features code received c = handleRun request c := by
  revert action
  let motive (r : CoreReturn σ) : Prop := r.action = .runFlashApp → r = handleRun request c
  have idle {status : UInt16} : motive (sendStatus request status c) := by
    intro run
    cases run
  apply iteInduction (motive := motive)
  · exact fun _ => idle
  intro _
  apply iteInduction (motive := motive)
  · exact fun _ => idle
  intro _
  apply iteInduction (motive := motive)
  · exact fun _ => idle
  intro _
  apply iteInduction (motive := motive)
  · exact fun _ => idle
  · exact fun _ => dispatch_runFlashApp

/-! ## RUN -/

/-- The summary that RUN scans. -/
def flashSummary (c : Core σ) : BootMetadataSummary := scanFlashRecords c.world.memory slotAStart

/-- The attempts of an image let a RUN request start it. -/
def MayRun (summary : BootMetadataSummary) : Prop :=
  summary.appConfirmed ≠ 0 ∨
    summary.bootAttemptCount ≠ 0 ∧ summary.bootAttemptCount ≤ summary.bootAttemptLimit

/-- RUN asks for the entry that the journal selects. -/
structure RunReady (request : BootProtocolFrame) (summary : BootMetadataSummary) : Prop where
  length : request.payloadWords = 4
  target : request.word 0 = BootTarget.flashApp
  aligned : request.u32 1 % 8 = 0
  valid : summary.metadataValid ≠ 0
  entry : summary.entryPoint = request.u32 1
  mayRun : MayRun summary

theorem mayRun_iff {summary : BootMetadataSummary} :
    MayRun summary ↔ ¬ (summary.appConfirmed = 0 ∧ (summary.bootAttemptCount = 0 ∨
      summary.bootAttemptCount > summary.bootAttemptLimit)) := by
  rw [MayRun, Decidable.not_and_iff_not_or_not, not_or, UInt16.not_lt]

theorem handleRun_ready (ready : RunReady request (flashSummary c)) :
    handleRun request c =
      accept request .runFlashApp { c with algorithm.pendingEntryPoint := request.u32 1 } := by
  have selected : ¬ ((flashSummary c).metadataValid = 0 ∨
      (flashSummary c).entryPoint ≠ request.u32 1) :=
    not_or.2 ⟨ready.valid, not_not_intro ready.entry⟩
  unfold handleRun
  rw [if_neg (not_not_intro ready.length), if_neg (not_not_intro ready.target)]
  dsimp only
  rw [if_neg (not_not_intro ready.aligned), ← flashSummary, if_neg selected,
    if_neg (mayRun_iff.1 ready.mayRun)]

theorem handleRun_runFlashApp (action : (handleRun request c).action = .runFlashApp) :
    RunReady request (flashSummary c) := by
  revert action
  let motive (r : CoreReturn σ) : Prop := r.action = .runFlashApp → RunReady request (flashSummary c)
  have refused {status operation stage : UInt16} {address lengthWords : UInt32} :
      motive (fail request status operation stage address lengthWords c) := by
    intro run
    cases run
  apply iteInduction (motive := motive)
  · exact fun _ => refused
  intro length
  apply iteInduction (motive := motive)
  · exact fun _ => refused
  intro target
  apply iteInduction (motive := motive)
  · exact fun _ => refused
  intro aligned
  apply iteInduction (motive := motive)
  · exact fun _ => refused
  intro selected
  apply iteInduction (motive := motive)
  · exact fun _ => refused
  intro mayRun _
  rw [Decidable.not_not] at length target aligned
  obtain ⟨valid, entry⟩ := not_or.1 selected
  exact ⟨length, target, aligned, valid, Decidable.not_not.1 entry, mayRun_iff.2 mayRun⟩

end BootUpgrade.BootAlgorithm

import BootUpgrade.Core.Algorithm

/-! The user layer of `boot_user_auto_boot.c`, `boot_user_action.c` and
`main_cpu01.c`: the boot decision and the jump into an application. -/

namespace BootUpgrade

inductive BootUserAutoBootDecision where
  | stayNoImage | stayMetadataInvalid | stayBadEntry | stayFirstTrialRequiresPcRun
  | stayWaitAppConfirm | runConfirmedApp
  deriving DecidableEq, Repr

/-- What the processor does at the end of the boot program: it goes on in the
caller, enters an application, or stays in an endless loop. -/
inductive BootUserEnd where
  | returned (value : UInt16)
  | jumped (entryPoint : UInt32)
  | stopped
  deriving DecidableEq, Repr

namespace BootUser

def appStart : UInt32 := 0x082400
def appEndExclusive : UInt32 := 0x0C0000

/-- `BootUser_IsValidAutoBootEntry`. -/
def isValidAutoBootEntry (entryPoint : UInt32) : Bool :=
  entryPoint ≥ appStart && entryPoint < appEndExclusive && entryPoint % 8 = 0

/-- `BootUser_PreviewAutoBootDecision`; a null pointer is `none`. -/
def previewAutoBootDecision (summary : Option BootMetadataSummary) : BootUserAutoBootDecision :=
  match summary with
  | none => .stayNoImage
  | some summary =>
    if summary.state = .empty then .stayNoImage
    else if summary.metadataValid = 0 ∨ summary.hasImageValid = 0 then .stayMetadataInvalid
    else if isValidAutoBootEntry summary.entryPoint = false then .stayBadEntry
    else if summary.bootAttemptCount = 0 then .stayFirstTrialRequiresPcRun
    else if summary.appConfirmed = 0 then .stayWaitAppConfirm
    else .runConfirmedApp

/-- `BootUser_IsConfirmedBootable`. -/
def isConfirmedBootable (summary : BootMetadataSummary) : Bool :=
  previewAutoBootDecision (some summary) = .runConfirmedApp

/-- `BootUser_IsValidFlashAppEntry`. -/
def isValidFlashAppEntry (entryPoint : UInt32) : Bool :=
  if entryPoint < appStart then false
  else if entryPoint ≥ appEndExclusive then false
  else if entryPoint &&& 7 ≠ 0 then false
  else true

/-- `BootUser_JumpToFlashApp`, without the fixed-entry mode of the bring-up. -/
def jumpToFlashApp (entryPoint : UInt32) : BootUserEnd :=
  if isValidFlashAppEntry entryPoint = false then .stopped else .jumped entryPoint

/-- `BootUser_JumpToRamApp`. -/
def jumpToRamApp (entryPoint : UInt32) : BootUserEnd :=
  if BootRam.checkAddress entryPoint 1 BootTarget.ramApp ≠ BootRamResult.ok then .stopped
  else .jumped entryPoint

/-- `BootUser_HandleAlgorithmAction`. -/
def handleAlgorithmAction (features : BootFeatures) (algorithm : BootAlgorithm)
    (action : BootAlgorithmAction) : BootUserEnd :=
  match action with
  | .runFlashApp => jumpToFlashApp algorithm.pendingEntryPoint
  | .runRamApp => if features.runRam then jumpToRamApp algorithm.pendingEntryPoint else .returned 0
  | .resetDevice => if features.resetCommand then .stopped else .returned 0
  | .none => .returned 0

/-- `main` with automatic boot, from the scan to the timeout of the connection:
what it does if no host connects. -/
def connectTimeout (memory : CoreMemory) : BootUserEnd :=
  let metadataSummary := BootMetadata.scanFlashRecords memory BootMetadata.slotAStart
  if isConfirmedBootable metadataSummary then jumpToFlashApp metadataSummary.entryPoint
  else .returned 0

end BootUser

end BootUpgrade

import BootUpgrade.Host.ServiceRuntime
import BootUpgrade.Host.TransferSession
import BootUpgrade.Gui.MetadataSnapshot

/-!
# Operations that need the Flash service

`operations/flash_ops.py`, `metadata_ops.py` and `service_ops.py`: each makes
sure that the service is attached and goes on with requests to it.
-/

namespace BootUpgrade

open HostImages

/-- `_service_cancellation_result`; the action replaces that of the cancellation when the
service is attached. -/
def ServiceRuntimeCancellation.result {S : Type} (item : ServiceRuntimeCancellation)
    (recoveryAction : Option {action // action ∈ recoveryActions}) : OperationResult S :=
  let cancellation :=
    match recoveryAction with
    | some action =>
      if item.cancellation.serviceAttached = some true then
        { item.cancellation with recoveryAction := action.1, action_mem := action.2 }
      else item.cancellation
    | none => item.cancellation
  match item.cleanupError with
  | some error => .cleanupFailed error cancellation
  | none => .cancelled cancellation

/-- `_metadata_summary`: what an append has done and why not more. -/
structure MetadataAppend where
  written : Bool
  alreadyExists : Bool
  reason : Option String
  deriving DecidableEq, Repr

namespace HostOperations

open HostClient HostWorkflow

variable (ctx : FlashOperationContext)

/-- What is reported when the token is requested before the operation begins. -/
def cancelledFirst (recoveryAction : String) (action_mem : recoveryAction ∈ recoveryActions) :
    Except HostError OperationCancellationInfo :=
  cancellationInfo "GET_SERVICE_STATUS" 0 0 none recoveryAction getServiceStatus_ne action_mem

/-- An operation that is cancelled before it begins, attaches the service and goes on. -/
def withService {S : Type} (cancelled : Except HostError OperationCancellationInfo)
    (admission : Except HostError Unit) (recoveryAction : Option {action // action ∈ recoveryActions})
    (rest : HostDialogue (OperationResult S)) : HostDialogue (OperationResult S) :=
  failureResult <|
    if ctx.polls 0 then (Dialogue.lift cancelled).bind fun cancellation => .done (.cancelled cancellation)
    else
      (Dialogue.lift admission).bind fun _ =>
      (ensureServiceAttached ctx).bind fun service =>
      match service with
      | .error item => .done (item.result recoveryAction)
      | .ok _ => rest

/-! ## Erase -/

/-- `_check_sector_mask`. -/
def checkSectorMask (flash : FlashLayout) (sectorMask : Nat) : Except HostError Unit :=
  if sectorMask = 0 then
    .error (.operationFailure "FORBIDDEN_SECTOR" "sector mask must be nonzero" "ERASE")
  else if sectorMask &&& flash.forbiddenEraseMask ≠ 0 then
    .error (.operationFailure "FORBIDDEN_SECTOR" "sector mask includes forbidden sectors" "ERASE")
  else if andNot sectorMask flash.allowedEraseMask ≠ 0 then
    .error (.operationFailure "FORBIDDEN_SECTOR"
      "sector mask includes sectors outside allowed erase mask" "ERASE")
  else .ok ()

/-- `_flash_layout`. -/
def flashLayout : Except HostError FlashLayout :=
  match ctx.flash with
  | none => .error (.unsupportedOperationError "target does not define a Flash layout")
  | some flash => .ok flash

/-- `erase_protocol`. -/
def eraseProtocol (sectorMask : Nat) : HostDialogue Unit :=
  (Dialogue.lift (splitU32 sectorMask)).bind fun mask =>
  (transact ctx.maxPayloadWords BootCmd.erase (mask ++ [0])).bind fun _ => .done ()

/-- The requests of an erase and its result. -/
def eraseMasks (masks : List Nat) : HostDialogue (OperationResult (List Nat)) :=
  let info := cancellationInfo "ERASE" 0 0 (some true) "NONE" (by decide) none_mem
  if ctx.polls 1 then (Dialogue.lift info).bind fun cancellation => .done (.cancelled cancellation)
  else
    (Dialogue.each (eraseProtocol ctx) masks).bind fun _ =>
    if ctx.polls 2 then
      (Dialogue.lift info).bind fun cancellation =>
        .done (.completedAfterCancelRequest masks cancellation)
    else .done (.succeeded masks)

/-- `erase_flash_image_area`: the metadata sectors first. -/
def eraseFlashImageArea (image : PreparedFlashImage) : HostDialogue (OperationResult (List Nat)) :=
  let metadataMask := (ctx.flash.map (·.metadataSectorMask)).getD 0
  let effective := image.sectorMask ||| metadataMask
  withService ctx (cancelledFirst "NONE" none_mem)
    ((flashLayout ctx).bind fun flash => checkSectorMask flash effective) none
    (eraseMasks ctx ([metadataMask, andNot effective metadataMask].filter (· ≠ 0)))

/-- `erase_sector_mask`. -/
def eraseSectorMask (sectorMask : Nat) : HostDialogue (OperationResult (List Nat)) :=
  withService ctx (cancelledFirst "NONE" none_mem)
    ((flashLayout ctx).bind fun flash => checkSectorMask flash sectorMask) none
    (eraseMasks ctx [sectorMask])

/-! ## Program and verify -/

/-- `_transfer`, with the result of the operation. -/
def transferFlash (kind : TransferKind) (image : PreparedFlashImage) :
    HostDialogue (OperationResult (Option (Nat × Nat))) :=
  (Dialogue.lift ctx.maxWriteDataWords).bind fun maxDataWords =>
  (Dialogue.lift (preparePackets image.image maxDataWords)).bind fun packets =>
  ((kind.transfer ctx.maxPayloadWords image.identity.entryPoint 0
    packets).runCancellableTransfer ctx.transferPolls).bind fun outcome => .done outcome.result

/-- `program_flash_image`. -/
def programFlashImage (image : PreparedFlashImage) :
    HostDialogue (OperationResult (Option (Nat × Nat))) :=
  withService ctx (cancelledFirst "RESTART_PROGRAM" (by decide))
    (ctx.maxWriteDataWords.map fun _ => ()) (some ⟨"RESTART_PROGRAM", by decide⟩)
    (transferFlash ctx .program image)

/-- `verify_flash_image`. -/
def verifyFlashImage (image : PreparedFlashImage) :
    HostDialogue (OperationResult (Option (Nat × Nat))) :=
  withService ctx (cancelledFirst "RESTART_VERIFY" (by decide))
    (ctx.maxWriteDataWords.map fun _ => ()) (some ⟨"RESTART_VERIFY", by decide⟩)
    (transferFlash ctx .verify image)

/-! ## Metadata records -/

/-- `_read_metadata_summary`. -/
def readMetadataSummary : HostDialogue MetadataSummary :=
  (transact ctx.maxPayloadWords BootCmd.getMetadataSummary []).bind fun words =>
    .lift (MetadataSummary.fromWords words)

/-- `ImageMetadataComparison`. -/
structure ImageMetadataComparison where
  sameImage : Bool
  metadataValid : Bool
  mismatches : List String
  reason : Option String
  deriving DecidableEq, Repr

/-- `compare_image_identity_with_metadata`. -/
def compareImageIdentityWithMetadata (imageIdentity : ImageIdentity)
    (metadataSummary : MetadataSummary) : ImageMetadataComparison :=
  if metadataSummary.metadataValid = 0 then ⟨false, false, [], "METADATA_INVALID"⟩
  else
    let mismatches :=
      [("entry_point", imageIdentity.entryPoint, metadataSummary.entryPoint.toNat),
        ("image_size_words", imageIdentity.imageSizeWords, metadataSummary.imageSizeWords.toNat),
        ("image_crc32", imageIdentity.imageCrc32.toNat, metadataSummary.imageCrc32.toNat)].filterMap
          fun (name, own, stored) => if own ≠ stored then some name else none
    if mismatches ≠ [] then ⟨false, true, mismatches, "IMAGE_IDENTITY_MISMATCH"⟩
    else ⟨true, true, [], none⟩

/-- The comparison finds the same image where the metadata is valid and says what the identity does. -/
theorem compareImageIdentityWithMetadata_same {identity : ImageIdentity} {summary : MetadataSummary} :
    compareImageIdentityWithMetadata identity summary = ⟨true, true, [], none⟩ ↔
      summary.metadataValid ≠ 0 ∧ identity.entryPoint = summary.entryPoint.toNat ∧
        identity.imageSizeWords = summary.imageSizeWords.toNat ∧
        identity.imageCrc32 = summary.imageCrc32 := by
  rw [compareImageIdentityWithMetadata, ← UInt32.toNat_inj]
  by_cases valid : summary.metadataValid = 0
  · simp [valid]
  by_cases entry : identity.entryPoint = summary.entryPoint.toNat <;>
    by_cases size : identity.imageSizeWords = summary.imageSizeWords.toNat <;>
    by_cases crc : identity.imageCrc32.toNat = summary.imageCrc32.toNat <;>
    simp [valid, entry, size, crc]

inductive HostMetadataState where
  | empty
  | valid
  | invalid
  deriving DecidableEq, Repr

/-- `_metadata_state`. -/
def metadataState (current : MetadataSummary) : HostMetadataState :=
  if current.state = 0 ∧ current.metadataValid = 0 ∧ current.validRecordCount = 0 ∧
      current.invalidRecordCount = 0 then .empty
  else if current.state = 1 ∧ current.metadataValid ≠ 0 then .valid
  else .invalid

/-- `MetadataRecordType`. -/
inductive HostRecordType where
  | imageValid
  | bootAttempt
  | appConfirmed
  deriving DecidableEq, Repr

def HostRecordType.code : HostRecordType → Nat
  | imageValid => 1
  | bootAttempt => 2
  | appConfirmed => 3

/-- `METADATA_APPEND_RECORD`. -/
def metadataAppendRecord (record : HostRecordType) (entryPoint imageSizeWords imageCrc32 : Nat)
    (appEnd : Nat) : HostDialogue Unit :=
  (Dialogue.lift do
    return [record.code, 1] ++ (← splitU32 entryPoint) ++ (← splitU32 imageSizeWords) ++
      (← splitU32 imageCrc32) ++ [0, 0, 0, 0, 0] ++ (← splitU32 appEnd) ++ [0]).bind fun payload =>
  (transact ctx.maxPayloadWords BootCmd.metadataAppendRecord payload).bind fun _ => .done ()

/-- The summary of an append that finds nothing to write, or `none` when it writes. -/
def appendRefusal (record : HostRecordType) (current : MetadataSummary) : Option MetadataAppend :=
  match record, metadataState current with
  | .imageValid, .valid => some ⟨false, true, "IMAGE_VALID_ALREADY_EXISTS"⟩
  | .imageValid, .invalid => some ⟨false, false, "METADATA_INVALID"⟩
  | .imageValid, .empty => none
  | _, .invalid => some ⟨false, false, "METADATA_INVALID"⟩
  | _, .empty => some ⟨false, false, "IMAGE_VALID_REQUIRED"⟩
  | .bootAttempt, .valid =>
    if current.bootAttemptLimit = 0 ∨ current.bootAttemptLimit > 3 then
      some ⟨false, false, "METADATA_INVALID"⟩
    else if current.appConfirmed ≠ 0 then some ⟨false, true, "APP_CONFIRMED_ALREADY_EXISTS"⟩
    else if current.bootAttemptCount ≥ current.bootAttemptLimit ∨ current.bootAttemptCount ≥ 3 then
      some ⟨false, false, "BOOT_ATTEMPT_LIMIT_REACHED"⟩
    else none
  | .appConfirmed, .valid =>
    if current.appConfirmed ≠ 0 then some ⟨false, true, "APP_CONFIRMED_ALREADY_EXISTS"⟩
    else if current.bootAttemptCount = 0 then some ⟨false, false, "BOOT_ATTEMPT_REQUIRED"⟩
    else none

/-- The record is about the image given, or about the current one. -/
def appendRecord (record : HostRecordType) (image : Option ImageIdentity) :
    HostDialogue (OperationResult MetadataAppend) :=
  let cancelled (stage : String) (stage_ne : stage ≠ "") :
      Except HostError OperationCancellationInfo :=
    cancellationInfo stage 0 0 (some true) "NONE" stage_ne none_mem
  let finished (stage : String) (stage_ne : stage ≠ "") (poll : Nat) (summary : MetadataAppend) :
      HostDialogue (OperationResult MetadataAppend) :=
    if ctx.polls poll then
      (Dialogue.lift (cancelled stage stage_ne)).bind fun cancellation =>
        .done (.completedAfterCancelRequest summary cancellation)
    else .done (.succeeded summary)
  if ctx.polls 1 then
    (Dialogue.lift (cancelled "READ_METADATA_SUMMARY" (by decide))).bind fun cancellation =>
      .done (.cancelled cancellation)
  else
    (readMetadataSummary ctx).bind fun current =>
    match appendRefusal record current with
    | some summary => finished "READ_METADATA_SUMMARY" (by decide) 2 summary
    | none =>
      if ctx.polls 2 then
        (Dialogue.lift (cancelled "METADATA_APPEND_RECORD" (by decide))).bind fun cancellation =>
          .done (.cancelled cancellation)
      else
        (match image with
        | some identity =>
          metadataAppendRecord ctx record identity.entryPoint identity.imageSizeWords
            identity.imageCrc32.toNat identity.appEnd
        | none =>
          metadataAppendRecord ctx record current.entryPoint.toNat current.imageSizeWords.toNat
            current.imageCrc32.toNat 0).bind fun _ =>
        finished "METADATA_APPEND_RECORD" (by decide) 3 ⟨true, false, none⟩

/-- `append_image_valid`. -/
def appendImageValid (image : PreparedFlashImage) : HostDialogue (OperationResult MetadataAppend) :=
  withService ctx (cancelledFirst "NONE" none_mem) (.ok ()) none
    (appendRecord ctx .imageValid image.identity)

/-- `append_boot_attempt`. -/
def appendBootAttempt : HostDialogue (OperationResult MetadataAppend) :=
  withService ctx (cancelledFirst "NONE" none_mem) (.ok ()) none
    (appendRecord ctx .bootAttempt none)

/-- `append_app_confirmed`. -/
def appendAppConfirmed : HostDialogue (OperationResult MetadataAppend) :=
  withService ctx (cancelledFirst "NONE" none_mem) (.ok ()) none
    (appendRecord ctx .appConfirmed none)

/-! ## Attaching only -/

/-- `attach_flash_service`; the summary is `service_action`. -/
def attachFlashService : HostDialogue (OperationResult String) :=
  failureResult <|
    (ensureServiceAttached ctx).bind fun service =>
    match service with
    | .error item => .done (item.result none)
    | .ok summary =>
      if summary.reused then .done (.succeeded "REUSED")
      else if summary.attachPerformed then .done (.succeeded "LOADED_AND_ATTACHED")
      else
        .fail (.operationFailure "SERVICE_ATTACH_FAILED" "service runtime returned no attach action"
          "SERVICE_ATTACH")

/-! ## What is asked of an attached service -/

/-- The commands that the operations ask of an attached service. -/
def serviceCommands : List UInt16 :=
  [BootCmd.erase, BootCmd.programBegin, BootCmd.programData, BootCmd.programEnd,
    BootCmd.verifyBegin, BootCmd.verifyData, BootCmd.verifyEnd, BootCmd.getMetadataSummary,
    BootCmd.metadataAppendRecord]

/-- The request is one of an attached service. -/
def AsksService (q : HostRequest) : Prop := q.command ∈ serviceCommands

theorem asksService {command : UInt16} (listed : command ∈ serviceCommands) (payload : List Nat) :
    AsksService (hostRequest command payload) := listed

theorem eraseMasks_always (masks : List Nat) : (eraseMasks ctx masks).Always AsksService := by
  unfold eraseMasks
  dsimp only
  split
  · exact (Dialogue.always_lift _).bind fun _ => trivial
  apply Dialogue.Always.bind
  · apply Dialogue.Always.each
    intro mask _
    apply (Dialogue.always_lift _).bind
    intro payload
    exact (transact_always (asksService (by decide) _)).bind fun _ => trivial
  · intro _
    split
    · exact (Dialogue.always_lift _).bind fun _ => trivial
    · trivial

theorem transferFlash_always {kind : TransferKind} (begins : kind.beginCommand ∈ serviceCommands)
    (data : kind.dataCommand ∈ serviceCommands) (ends : kind.endCommand ∈ serviceCommands)
    (image : PreparedFlashImage) : (transferFlash ctx kind image).Always AsksService := by
  apply (Dialogue.always_lift _).bind
  intro maxDataWords
  apply (Dialogue.always_lift _).bind
  intro packets
  apply Dialogue.Always.bind
  · exact TransferKind.transfer_always (asksService begins) (asksService data) (asksService ends) _ _ _
      _ _
  · intro outcome
    trivial

theorem metadataAppendRecord_always (record : HostRecordType)
    (entryPoint imageSizeWords imageCrc32 appEnd : Nat) :
    (metadataAppendRecord ctx record entryPoint imageSizeWords imageCrc32 appEnd).Always
      AsksService := by
  apply (Dialogue.always_lift _).bind
  intro payload
  exact (transact_always (asksService (by decide) _)).bind fun _ => trivial

theorem appendRecord_always (record : HostRecordType) (image : Option ImageIdentity) :
    (appendRecord ctx record image).Always AsksService := by
  unfold appendRecord
  dsimp only
  split
  · exact (Dialogue.always_lift _).bind fun _ => trivial
  apply Dialogue.Always.bind
  · exact (transact_always (asksService (by decide) _)).bind fun _ => Dialogue.always_lift _
  intro current
  split
  · split
    · exact (Dialogue.always_lift _).bind fun _ => trivial
    · trivial
  split
  · exact (Dialogue.always_lift _).bind fun _ => trivial
  apply Dialogue.Always.bind
  · split <;> exact metadataAppendRecord_always ..
  intro _
  split
  · exact (Dialogue.always_lift _).bind fun _ => trivial
  · trivial

end HostOperations

end BootUpgrade

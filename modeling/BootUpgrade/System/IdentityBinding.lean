import BootUpgrade.FlashService.VerifyGate
import BootUpgrade.System.BootPrediction

/-!
# The image that a BOOT_ATTEMPT or an APP_CONFIRMED request names

Both handlers compare the identity in the request with that of the current
image, one before and one after it looks whether the image is confirmed.
-/

namespace BootUpgrade.BootFlashService

open BootMetadata

/-- The identity a BOOT_ATTEMPT or an APP_CONFIRMED request carries. -/
def expectedIdentity (request : BootProtocolFrame) : ExpectedIdentity :=
  ⟨request.u32 2, request.u32 4, request.u32 6⟩

section
variable {σ : Type} (port : FlashPort σ) (request : BootProtocolFrame) (s : FlashService σ)

/-- The record slots as the service reads them. -/
def flashRecords : Nat → RecordWords := loadFlashRecord (port.readWord s.world) slotAStart

/-- The request names the current image of the journal. -/
def NamesCurrent : Prop :=
  ∃ image, currentImage (validRecords (flashRecords port s) 16) = some image ∧
    request.u32 2 = image.entryPoint ∧ request.u32 4 = image.imageSizeWords ∧
      request.u32 6 = image.imageCrc32

/-- What is accepted names the current image, and what does not is refused without a change. -/
structure IdentityBound (o : Outcome σ) : Prop where
  accepted : o.status = BootStatus.ok → NamesCurrent port request s
  other : ¬ NamesCurrent port request s → o.status ≠ BootStatus.ok ∧ o.service = s

/-- A BOOT_ATTEMPT request that finds its image confirmed, and is about another one. -/
structure ConfirmedOther : Prop where
  initialized : s.runtime.initialized ≠ 0
  kind : request.word 0 = recordBootAttempt
  wellFormed : (identityRequestValid request s).status = BootStatus.ok
  valid : (scanJournal port s).metadataValid ≠ 0
  confirmed : (scanJournal port s).appConfirmed ≠ 0
  differs : (expectedIdentity request).differs (scanJournal port s)

end

section
variable {σ : Type} {port : FlashPort σ} {request : BootProtocolFrame} {s : FlashService σ}

theorem namesCurrent_iff (valid : (scanJournal port s).metadataValid ≠ 0) :
    NamesCurrent port request s ↔ ¬ (expectedIdentity request).differs (scanJournal port s) := by
  have scan : scanJournal port s = scanLoadedRecords (flashRecords port s) 16 := rfl
  rw [scan] at valid ⊢
  obtain ⟨image, selected, summary⟩ := scan_selected valid
  rw [summary]
  unfold ExpectedIdentity.differs
  rw [not_or, not_or, Decidable.not_not, Decidable.not_not, Decidable.not_not]
  constructor
  · rintro ⟨other, same, entry, size, crc⟩
    rw [selected] at same
    rw [← Option.some.inj same] at entry size crc
    exact ⟨entry, size, crc⟩
  · rintro ⟨entry, size, crc⟩
    exact ⟨image, selected, entry, size, crc⟩

theorem identityBound_fail {status operation stage : UInt16} {address lengthWords : UInt32}
    (refused : status ≠ BootStatus.ok) :
    IdentityBound port request s (fail s status operation stage address lengthWords) :=
  ⟨fun accepted => absurd accepted refused, fun _ => ⟨refused, rfl⟩⟩

theorem NamesCurrent.bound (names : NamesCurrent port request s) (o : Outcome σ) :
    IdentityBound port request s o := ⟨fun _ => names, fun other => absurd names other⟩

/-- The common checks of the two requests come first. -/
theorem identityBound_checked {rest : FlashService σ → Outcome σ}
    (go : (identityRequestValid request s).status = BootStatus.ok →
      IdentityBound port request s (rest s)) :
    IdentityBound port request s (andThen (identityRequestValid request s) rest) := by
  unfold andThen
  by_cases refused : (identityRequestValid request s).status ≠ BootStatus.ok
  · rw [if_pos refused]
    exact ⟨fun accepted => absurd accepted refused, fun _ => ⟨refused, identityRequestValid_service⟩⟩
  · rw [if_neg refused, identityRequestValid_service]
    exact go (Decidable.not_not.1 refused)

theorem handleBootAttemptAppend_bound
    (other : (identityRequestValid request s).status = BootStatus.ok →
      (scanJournal port s).metadataValid ≠ 0 → (scanJournal port s).appConfirmed ≠ 0 →
      ¬ (expectedIdentity request).differs (scanJournal port s)) :
    IdentityBound port request s (handleBootAttemptAppend port request s) := by
  apply identityBound_checked
  intro checked
  have names : (scanJournal port s).metadataValid ≠ 0 → (NamesCurrent port request s ↔
      ¬ (expectedIdentity request).differs (scanJournal port s)) := namesCurrent_iff
  dsimp only
  generalize scanJournal port s = summary at other names ⊢
  by_cases invalid : summary.metadataValid = 0 ∨ summary.state = .duplicateSequence
  · rw [if_pos invalid]
    exact identityBound_fail (by decide)
  rw [if_neg invalid]
  obtain ⟨valid, -⟩ := not_or.1 invalid
  by_cases confirmed : summary.appConfirmed ≠ 0
  · exact ((names valid).2 (other checked valid confirmed)).bound _
  rw [if_neg confirmed]
  by_cases spent : summary.bootAttemptCount ≥ summary.bootAttemptLimit
  · rw [if_pos spent]
    exact identityBound_fail (by decide)
  rw [if_neg spent]
  by_cases differs : (expectedIdentity request).differs summary
  · have differs : request.u32 2 ≠ summary.entryPoint ∨ request.u32 4 ≠ summary.imageSizeWords ∨
        request.u32 6 ≠ summary.imageCrc32 := differs
    rw [if_pos differs]
    exact identityBound_fail (by decide)
  · exact ((names valid).2 differs).bound _

theorem handleAppConfirmedAppend_bound :
    IdentityBound port request s (handleAppConfirmedAppend port request s) := by
  apply identityBound_checked
  intro _
  have names : (scanJournal port s).metadataValid ≠ 0 → (NamesCurrent port request s ↔
      ¬ (expectedIdentity request).differs (scanJournal port s)) := namesCurrent_iff
  unfold confirmJournal
  by_cases closed : s.runtime.initialized = 0
  · rw [if_pos closed]
    exact identityBound_fail (by decide)
  rw [if_neg closed]
  dsimp only
  generalize scanJournal port s = summary at names ⊢
  by_cases invalid : summary.metadataValid = 0 ∨ summary.state = .duplicateSequence ∨
      summary.hasImageValid = 0
  · rw [if_pos invalid]
    exact identityBound_fail (by decide)
  rw [if_neg invalid]
  obtain ⟨valid, -⟩ := not_or.1 invalid
  by_cases differs : (expectedIdentity request).differs summary
  · rw [if_pos ⟨_, rfl, differs⟩]
    exact identityBound_fail (by decide)
  · exact ((names valid).2 differs).bound _

/-- The attempt is answered OK before its identity is looked at. -/
theorem ConfirmedOther.accepted (h : ConfirmedOther port request s) :
    (handleBootAttemptAppend port request s).status = BootStatus.ok ∧
      ¬ NamesCurrent port request s := by
  refine ⟨?_, fun names => (namesCurrent_iff h.valid).1 names h.differs⟩
  have single : ¬ ((scanJournal port s).metadataValid = 0 ∨
      (scanJournal port s).state = .duplicateSequence) := by
    rw [not_or]
    refine ⟨h.valid, ?_⟩
    obtain ⟨image, -, summary⟩ := (@scan_selected (flashRecords port s)) h.valid
    have scan : scanJournal port s = _ := summary
    rw [scan]
    exact fun duplicate => by cases duplicate
  rw [handleBootAttemptAppend, andThen_of_ok h.wellFormed, identityRequestValid_service]
  dsimp only
  rw [if_neg single, if_pos h.confirmed]
  rfl

theorem handleImageValidAppend_badLength (short : request.payloadWords ≠ 16) :
    (handleImageValidAppend port request s).status ≠ BootStatus.ok ∧
      (handleImageValidAppend port request s).service = s := by
  have refused : metadataRequestValid request s =
      fail s BootStatus.badPayloadLength BootErr.opProgram BootErr.stagePayload 0 0 := by
    rw [metadataRequestValid, if_pos short]
  have badLength : BootStatus.badPayloadLength ≠ BootStatus.ok := by decide
  rw [handleImageValidAppend, andThen_refused] <;> rw [refused]
  · exact ⟨badLength, rfl⟩
  · exact badLength

theorem handle_attempt (command : request.command = BootCmd.metadataAppendRecord)
    (initialized : s.runtime.initialized ≠ 0) (length : request.payloadWords = 16)
    (attempt : request.word 0 = recordBootAttempt) :
    (bootHandleCommand port request 0 .clear s).toOutcome =
      handleBootAttemptAppend port request s := by
  rw [bootHandleCommand_of_initialized initialized, dispatch_append command]
  change handleMetadataAppendRecord port request s = _
  rw [handleMetadataAppendRecord, if_pos ⟨length, attempt⟩]

theorem ConfirmedOther.length (h : ConfirmedOther port request s) : request.payloadWords = 16 := by
  by_cases short : request.payloadWords ≠ 16
  · have checked := h.wellFormed
    rw [identityRequestValid, if_pos short] at checked
    exact absurd checked (show BootStatus.badPayloadLength ≠ BootStatus.ok by decide)
  · exact Decidable.not_not.1 short

theorem ConfirmedOther.unbound (h : ConfirmedOther port request s)
    (command : request.command = BootCmd.metadataAppendRecord) :
    ¬ IdentityBound port request s (bootHandleCommand port request 0 .clear s).toOutcome := by
  rw [handle_attempt command h.initialized h.length h.kind]
  intro bound
  obtain ⟨accepted, names⟩ := h.accepted
  exact names (bound.accepted accepted)

/-- A BOOT_ATTEMPT or APP_CONFIRMED request is bound to the current image, unless it is an attempt
for another image than the one confirmed. -/
theorem append_identity_binding (port : FlashPort σ) (request : BootProtocolFrame)
    (s : FlashService σ) (command : request.command = BootCmd.metadataAppendRecord)
    (kind : request.word 0 = recordBootAttempt ∨ request.word 0 = recordAppConfirmed) :
    IdentityBound port request s (bootHandleCommand port request 0 .clear s).toOutcome ↔
      ¬ ConfirmedOther port request s := by
  by_cases closed : s.runtime.initialized = 0
  · have refused : BootStatus.invalidState ≠ BootStatus.ok := by decide
    rw [bootHandleCommand, if_pos closed]
    apply iff_of_true
    · exact ⟨fun accepted => absurd accepted refused, fun _ => ⟨refused, rfl⟩⟩
    · exact fun h => h.initialized closed
  constructor
  · exact fun bound other => other.unbound command bound
  intro no
  by_cases short : request.payloadWords ≠ 16
  · rw [bootHandleCommand_of_initialized closed, dispatch_append command]
    have handled : handleMetadataAppendRecord port request s =
        handleImageValidAppend port request s := by
      rw [handleMetadataAppendRecord, if_neg (fun h => short h.1), if_neg (fun h => short h.1)]
    change IdentityBound port request s (handleMetadataAppendRecord port request s)
    rw [handled]
    obtain ⟨refused, same⟩ : (handleImageValidAppend port request s).status ≠ BootStatus.ok ∧ _ :=
      handleImageValidAppend_badLength short
    exact ⟨fun accepted => absurd accepted refused, fun _ => ⟨refused, same⟩⟩
  have length : request.payloadWords = 16 := Decidable.not_not.1 short
  rcases kind with attempt | confirmed
  · rw [handle_attempt command closed length attempt]
    apply handleBootAttemptAppend_bound
    exact fun checked valid confirmed differs =>
      no ⟨closed, attempt, checked, valid, confirmed, differs⟩
  · have other : request.word 0 ≠ recordBootAttempt := by
      rw [confirmed]
      decide
    have handled : handleMetadataAppendRecord port request s =
        handleAppConfirmedAppend port request s := by
      rw [handleMetadataAppendRecord, if_neg (fun h => other h.2), if_pos ⟨length, confirmed⟩]
    rw [bootHandleCommand_of_initialized closed, dispatch_append command]
    change IdentityBound port request s (handleMetadataAppendRecord port request s)
    rw [handled]
    exact handleAppConfirmedAppend_bound

end

/-- The service over a journal whose image is confirmed. -/
def confirmedService : FlashService (UInt32 → UInt16) :=
  { freshService with world := fun a => slotsArray crcZeroSlots a.toNat }

/-- A request about an image of the same place and size, with the CRC 1. -/
def otherImageRequest (kind : UInt16) : BootProtocolFrame :=
  .ofWords BootCmd.metadataAppendRecord 1
    [kind, BootSlot.a, 0x2400, 0x8, 8, 0, 1, 0, 0, 0, 0, 0, 0, 0, 0, 0] (by simp)

theorem otherImageRequest_word (kind : UInt16) (index : Nat) :
    (otherImageRequest kind).word index =
      ([kind, BootSlot.a, 0x2400, 0x8, 8, 0, 1, 0, 0, 0, 0, 0, 0, 0, 0, 0] : List UInt16).getD
        index 0 :=
  BootProtocolFrame.word_ofWords ..

theorem append_identity_binding_confirmed :
    IdentityBound failingErasePort (otherImageRequest recordAppConfirmed) confirmedService
        (bootHandleCommand failingErasePort (otherImageRequest recordAppConfirmed) 0 .clear
          confirmedService).toOutcome ↔
      ¬ ConfirmedOther failingErasePort (otherImageRequest recordAppConfirmed) confirmedService :=
  append_identity_binding failingErasePort (otherImageRequest recordAppConfirmed) confirmedService
    rfl (.inr (otherImageRequest_word recordAppConfirmed 0))

/-- The attempt for the other image is answered OK. -/
theorem append_identity_unbound : ¬ ∀ (port : FlashPort (UInt32 → UInt16))
    (request : BootProtocolFrame) (s : FlashService (UInt32 → UInt16)),
    request.command = BootCmd.metadataAppendRecord →
    request.word 0 = recordBootAttempt ∨ request.word 0 = recordAppConfirmed →
    IdentityBound port request s (bootHandleCommand port request 0 .clear s).toOutcome := by
  intro all
  have word := otherImageRequest_word recordBootAttempt
  have bound := all failingErasePort (otherImageRequest recordBootAttempt) confirmedService rfl
    (.inl (word 0))
  have scanned : scanJournal failingErasePort confirmedService = _ :=
    scanLoadedRecords_eq (FlashArray.journal (slotsArray crcZeroSlots)) (Nat.le_refl 16)
  rw [validRecords_crcZero] at scanned
  have other : ConfirmedOther failingErasePort (otherImageRequest recordBootAttempt)
      confirmedService := by
    constructor
    case initialized => decide
    case kind => exact word 0
    case wellFormed => decide +kernel
    all_goals rw [scanned]
    case valid => decide +kernel
    case confirmed => decide +kernel
    case differs => decide +kernel
  exact other.unbound rfl bound

end BootUpgrade.BootFlashService

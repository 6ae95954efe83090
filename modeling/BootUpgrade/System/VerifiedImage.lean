import BootUpgrade.FlashService.VerifiedContent
import BootUpgrade.System.Rescan

/-!
# The F28377D port compares

The port on a Flash array does what the service relies on: a comparison reads
every word of its block, a record program stays in the journal, and the blocks
that pass the address check lie in the application.
-/

namespace BootUpgrade

namespace FlashArray

theorem keepsApp_of_words {w w' : FlashArray} (same : w'.words = w.words) : port.KeepsApp w w' :=
  fun a _ _ => congrFun same a.toNat

theorem programMetadataRecord_keepsApp {address : UInt32} (data : List UInt16) (wordCount : UInt16)
    (info : BootFlashErrorInfo) (w : FlashArray)
    (stop : address + BootMetadata.recordWords ≤ BootMetadata.slotAAppStart) :
    port.KeepsApp w (port.programMetadataRecord address data wordCount info w).world := by
  obtain ⟨done, le, words, -⟩ := programMetadataRecord_words info w address data wordCount
  intro a lower upper
  have first := UInt32.le_iff_toNat_le.1 lower
  have last := UInt32.lt_iff_toNat_lt.1 upper
  have begin' : BootMetadata.slotAAppStart.toNat = 0x082400 := rfl
  have end' : BootMetadata.slotAAppEnd.toNat = 0x0C0000 := rfl
  have sixtyFour : BootMetadata.recordWords.toNat = 64 := rfl
  have sum := UInt32.toNat_add address BootMetadata.recordWords
  have stop := UInt32.le_iff_toNat_le.1 stop
  have short : (data.take (8 * done)).length ≤ 64 := by
    rw [List.length_take]
    omega
  have small := address.toNat_lt
  show (port.programMetadataRecord address data wordCount info w).world.words a.toNat = _
  rw [words]
  -- an end that wraps belongs to an address behind the application
  exact programWords_outside (by omega)

/-- A comparison that succeeds has found every word. -/
theorem verifyBlock_compared {address : UInt32} {expected : List UInt16} {wordCount : UInt16}
    {info : BootFlashErrorInfo} {w : FlashArray}
    (ok : (port.verifyBlock address expected wordCount info w).result = BootFlashResult.ok)
    {i : Nat} {v : UInt16} (lt : i < wordCount.toNat) (found : expected[i]? = some v) :
    w.words (address.toNat + i) = v := by
  have bad : BootFlashResult.badAddress ≠ BootFlashResult.ok := by decide
  have failed : BootFlashResult.failed ≠ BootFlashResult.ok := by decide
  have one : (1 : UInt16).toNat = 1 := rfl
  have eight : (8 : UInt16).toNat = 8 := rfl
  change (F28377D.verifyBlock fapi address expected wordCount info w).result = _ at ok
  unfold F28377D.verifyBlock at ok
  split at ok
  · exact absurd ok bad
  rename_i aligned
  dsimp only at ok
  split at ok
  · exact absurd ok failed
  rename_i succeeded
  obtain ⟨api, -⟩ := not_or.1 succeeded
  have api := Decidable.not_not.1 api
  -- the comparison covers the block, whose length is even
  have units := congrArg UInt16.toNat (Decidable.not_not.1 (not_or.1 aligned).2)
  have half : (wordCount >>> 1).toNat * 2 = wordCount.toNat := by
    rw [UInt16.toNat_mod, eight] at units
    rw [UInt16.toNat_shiftRight, one, Nat.one_mod, Nat.shiftRight_eq_div_pow]
    have zero : (0 : UInt16).toNat = 0 := rfl
    omega
  change (w.compare _).1 = _ at api
  unfold compare at api
  dsimp only at api
  split at api
  · rename_i refused
    exact absurd api refused
  · split at api
    · rename_i agree
      rw [half] at agree
      have same := List.all_eq_true.1 agree i (List.mem_range.2 lt)
      rw [List.getD_eq_getElem?_getD, found] at same
      exact beq_iff_eq.1 same
    · exact absurd api (by decide)

theorem compares : port.Compares := by
  constructor
  · exact fun info w => keepsApp_of_words (init_words info w)
  · exact fun address data wordCount info w _ stop =>
      programMetadataRecord_keepsApp data wordCount info w stop
  · exact fun address expected wordCount info w =>
      keepsApp_of_words (verifyBlock_words info w address expected wordCount)
  · intro address expected wordCount info w stop ok i v lt found
    have last : BootMetadata.slotAAppEnd.toNat = 0x0C0000 := rfl
    have index : (UInt32.ofNat i).toNat = i :=
      UInt32.toNat_ofNat_of_lt' (by rw [UInt32.size]; omega)
    show w.words (address + UInt32.ofNat i).toNat = v
    rw [Words.toNat_add_of_lt (by omega), index]
    exact verifyBlock_compared ok lt found
  · intro address wordCount info ok
    have allowed : F28377D.addressAllowed address wordCount.toUInt32 .verify = true := by
      by_contra refused
      have bad : (port.checkAddress address wordCount.toUInt32 .verify info).1 =
          BootFlashResult.badAddress := by
        show (F28377D.checkAddress address wordCount.toUInt32 .verify info).1 = _
        rw [F28377D.checkAddress, if_neg refused]
      exact absurd (bad.symm.trans ok) (by decide)
    have small := wordCount.toNat_lt
    have count : wordCount.toUInt32.toNat = wordCount.toNat := UInt16.toNat_toUInt32 _
    obtain ⟨start, ⟨s, mem, -, -, stop⟩, -⟩ :=
      (F28377D.addressAllowed_iff (by omega)).1 allowed
    have table : ∀ s ∈ F28377D.sectorTable, s.2 ≤ 0x0C0000 := by decide
    have last := table s mem
    exact ⟨start, show _ ≤ 0x0C0000 by omega⟩

end FlashArray

namespace BootFlashService

open FlashArray BootMetadata

/-- An append that programs its record is accepted. -/
theorem append_answered {s : FlashService FlashArray} {request : BootProtocolFrame}
    (command : request.command = BootCmd.metadataAppendRecord)
    (initialized : s.runtime.initialized ≠ 0)
    (sequence : (scanLoadedRecords (journal s.world.words) 16).latestSequence ≠ 0xFFFFFFFF)
    (programmed : ∃ c ∈ ((serviceMachine FlashArray.port).event s (.command request)).output.calls,
      RecordProgrammed c) :
    ((serviceMachine FlashArray.port).step s (.command request)).1.status = BootStatus.ok := by
  have initialized : (watched s).runtime.initialized ≠ 0 := initialized
  change ∃ c ∈ (bootHandleCommand FlashArray.port.logged request 0 .clear
    (watched s)).service.world.calls, RecordProgrammed c at programmed
  show (bootHandleCommand FlashArray.port.logged request 0 .clear (watched s)).status = _
  rw [bootHandleCommand_of_initialized initialized, dispatch_append command] at programmed ⊢
  exact (handleMetadataAppendRecord_appended rfl sequence programmed).answer

/-- The service at reset, over an array with a blank journal and an application of zeros. -/
def resetArray : FlashService FlashArray :=
  ⟨⟨.reset, 0, 0, 0, 0, 0, 0⟩,
    { words := fun a => if a < 0x082400 then BootMetadata.erasedWord else 0
      fsmStatus := 0
      outcomes := fun _ => .success }⟩

def freshArray : FlashService FlashArray :=
  (bootInit BootDevice.f28377d BootDevice.cpu1 248 resetArray).2

set_option maxRecDepth 20000 in
theorem verified_working :
    Working ((serviceMachine FlashArray.port).run freshArray verifyRequests).world := by
  intro n
  with_unfolding_all rfl

/-- The record of the verified image is accepted. -/
theorem imageRequest_accepted : ((serviceMachine FlashArray.port).step
    ((serviceMachine FlashArray.port).run freshArray verifyRequests)
      (.command imageRequest)).1.status = BootStatus.ok := by
  have free : (scanLoadedRecords (journal ((serviceMachine FlashArray.port).run freshArray
      verifyRequests).world.words) 16).nextRecordIndex ≠ BootMetadata.invalidIndex := by
    decide +kernel
  have single : (scanLoadedRecords (journal ((serviceMachine FlashArray.port).run freshArray
      verifyRequests).world.words) 16).state ≠ .duplicateSequence := by
    decide +kernel
  have sequence : (scanLoadedRecords (journal ((serviceMachine FlashArray.port).run freshArray
      verifyRequests).world.words) 16).latestSequence ≠ 0xFFFFFFFF := by
    decide +kernel
  have checked : (metadataRequestValid imageRequest (watched ((serviceMachine FlashArray.port).run
      freshArray verifyRequests))).status = BootStatus.ok := by
    decide +kernel
  have initialized : ((serviceMachine FlashArray.port).run freshArray
      verifyRequests).runtime.initialized ≠ 0 := by
    decide +kernel
  obtain ⟨c, hc, programmed⟩ := image_programmed verified_working rfl free single initialized
    (by decide +kernel) (by decide +kernel) rfl
    (BootProtocolFrame.word_ofWords BootCmd.metadataAppendRecord 4 _ _ 0) checked
  exact append_answered rfl initialized sequence ⟨c, hc, programmed⟩

theorem image_valid_compared_array :
    let m := serviceMachine FlashArray.port
    let written := (m.step (m.run freshArray verifyRequests) (.command imageRequest)).2
    written.runtime.verifySucceeded = 0 ∧ ∃ begin' ps,
      Completed FlashArray.port (m.history freshArray verifyRequests) written.world begin' ps := by
  have reading : ((serviceMachine FlashArray.port).history freshArray verifyRequests).all
      (fun ev => ev.output.calls.all fun c => !decide c.call.Modifies) = true := by
    decide +kernel
  have harmless : ∀ ev ∈ (serviceMachine FlashArray.port).history freshArray verifyRequests,
      FailsHarmlessly FlashArray.port ev := by
    intro ev hev c hc modifies
    have := List.all_eq_true.1 (List.all_eq_true.1 reading ev hev) c hc
    simp [modifies] at this
  have kind : imageRequest.word 0 = BootMetadata.recordImageValid :=
    BootProtocolFrame.word_ofWords BootCmd.metadataAppendRecord 4 _ _ 0
  have accepted := imageRequest_accepted
  unfold freshArray at harmless accepted ⊢
  exact image_valid_compared FlashArray.port FlashArray.compares BootDevice.f28377d
    BootDevice.cpu1 248 resetArray verifyRequests harmless imageRequest rfl kind accepted

end BootFlashService

end BootUpgrade

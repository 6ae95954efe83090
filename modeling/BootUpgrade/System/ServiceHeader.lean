import BootUpgrade.Core.Validation
import BootUpgrade.Host.PreparedService
import BootUpgrade.System.ImageLoading

/-!
# A prepared service in the memory of the core

A memory that holds a prepared service at the addresses of the fixed layout passes
every check that validation makes of the header, the immutable range and the
application export.
-/

namespace BootUpgrade.ServiceImage

open HostImages HostWorkflow BootAlgorithm BootFlashServiceLayout BootFlashServiceAbi Words

/-- The symbols are those of the fixed layout. -/
structure FixedLayout (symbols : TiMapSymbols) : Prop where
  header : symbols.headerAddress = headerOrigin
  publish : symbols.publishStateAddress = publishOrigin
  runtime : symbols.runtimeStateAddress = runtimeOrigin
  appExport : symbols.appExportAddress = appExportOrigin
  start : symbols.immutableStart = appExportOrigin

/-- The application export of the image is an address in its immutable range. -/
def ExportsConfirm (symbols : TiMapSymbols) (image : FirmwareImage) : Prop :=
  ∃ low high, HasWord image.blocks symbols.appExportAddress.toNat low ∧
    HasWord image.blocks (symbols.appExportAddress.toNat + 1) high ∧
      symbols.immutableStart ≤ joinU32 low high ∧ joinU32 low high < symbols.immutableEndExclusive

/-- The memory has every word of the image at its address. -/
def Holds (m : CoreMemory) (image : FirmwareImage) : Prop :=
  ∀ (a : UInt32) w, HasWord image.blocks a.toNat w → m a = w

/-- What the core reads in the header of an accepted service. -/
structure ServiceLoaded (symbols : TiMapSymbols) (capabilities : UInt32) (m : CoreMemory) : Prop where
  header : HeaderAccepted m
  bootInit : bootInitAddress m = symbols.bootInitAddress
  command : commandAddress m = symbols.bootHandleCommandAddress
  capabilities : headerU32 m 20 = capabilities

section
variable {symbols : TiMapSymbols} {image : FirmwareImage} {capabilities : UInt32}
  {service : PreparedServiceImage} {immutable header : List UInt16} {m : CoreMemory}

section
variable (fixed : FixedLayout symbols)
  (patched : ServicePatched symbols image capabilities service.image immutable header)
  (holds : Holds m service.image)
include fixed patched holds

theorem headerWord_holds {i : Nat} (lt : i < 28) :
    headerWord m i = (serviceHeader symbols capabilities immutable).getD i 0 := by
  have length : (serviceHeader symbols capabilities immutable).length = 28 := rfl
  have origin : headerOrigin.toNat = 0x013000 := rfl
  have index : (UInt32.ofNat i).toNat = i := UInt32.toNat_ofNat_of_lt' (by rw [UInt32.size]; omega)
  have address : (headerOrigin + UInt32.ofNat i).toNat = 0x013000 + i := by
    rw [Words.toNat_add_of_lt (by omega), origin, index]
  have there := (patched.headerWords (0x013000 + i) ((serviceHeader symbols capabilities immutable).get
    ⟨i, by omega⟩) (by rw [fixed.header]; omega) (by rw [fixed.header, serviceHeaderWords]; omega)).2
  rw [fixed.header, origin, Nat.add_sub_cancel_left, patched.header_eq,
    List.getElem?_eq_getElem (by omega)] at there
  rw [headerWord, holds _ _ (by rw [address]; exact there rfl), List.getD_eq_getElem?_getD,
    List.getElem?_eq_getElem (by omega)]
  rfl

theorem headerU32_holds {i : Nat} (lt : i + 1 < 28) :
    headerU32 m i = joinU32 ((serviceHeader symbols capabilities immutable).getD i 0)
      ((serviceHeader symbols capabilities immutable).getD (i + 1) 0) := by
  rw [headerU32, headerWord_holds fixed patched holds (by omega),
    headerWord_holds fixed patched holds lt]

/-- A field of the header that is written as its two words. -/
theorem headerField_holds {i : Nat} (lt : i + 1 < 28) {value : UInt32}
    (low : (serviceHeader symbols capabilities immutable).getD i 0 = lowWord value)
    (high : (serviceHeader symbols capabilities immutable).getD (i + 1) 0 = highWord value) :
    headerU32 m i = value := by
  rw [headerU32_holds fixed patched holds lt, low, high, joinU32_lowWord_highWord]

theorem immutableStart_holds : immutableStart m = symbols.immutableStart :=
  headerField_holds fixed patched holds (by decide) rfl rfl

theorem immutableEnd_holds : immutableEnd m = symbols.immutableEndExclusive :=
  headerField_holds fixed patched holds (by decide) rfl rfl

theorem appExportAddress_holds : appExportAddress m = symbols.appExportAddress :=
  headerField_holds fixed patched holds (by decide) rfl rfl

theorem immutableWords_holds : immutableWords m = immutable := by
  have nonempty := UInt32.lt_iff_toNat_lt.1 symbols.immutable_ne
  have stop := symbols.immutableEndExclusive.toNat_lt
  have length := patched.dense.length
  have count : (symbols.immutableEndExclusive - symbols.immutableStart).toNat = immutable.length := by
    rw [UInt32.toNat_sub_of_le _ _ (UInt32.le_of_lt symbols.immutable_ne), length]
  rw [immutableWords, immutableStart_holds fixed patched holds, immutableEnd_holds fixed patched holds,
    count]
  apply List.ext_getElem?
  intro k
  by_cases lt : k < immutable.length
  · rw [List.getElem?_map, List.getElem?_range lt, List.getElem?_eq_getElem lt]
    have index : (UInt32.ofNat k).toNat = k := UInt32.toNat_ofNat_of_lt' (by rw [UInt32.size]; omega)
    have address : (symbols.immutableStart + UInt32.ofNat k).toNat =
        symbols.immutableStart.toNat + k := by
      rw [Words.toNat_add_of_lt (by omega), index]
    have there := (patched.immutableWords (symbols.immutableStart.toNat + k) immutable[k] (by omega)
      (by omega)).2
    rw [Nat.add_sub_cancel_left] at there
    apply congrArg some
    exact holds _ _ (by rw [address]; exact there (List.getElem?_eq_getElem lt))
  · rw [List.getElem?_eq_none (by simpa using lt), List.getElem?_eq_none (by omega)]

/-- The export words are those of the image. -/
theorem confirmAddress_holds {low high : UInt16}
    (lowWord : HasWord image.blocks symbols.appExportAddress.toNat low)
    (highWord : HasWord image.blocks (symbols.appExportAddress.toNat + 1) high) :
    confirmAddress m = joinU32 low high := by
  have nonempty := UInt32.lt_iff_toNat_lt.1 symbols.immutable_ne
  have start : symbols.immutableStart.toNat = symbols.appExportAddress.toNat := by
    rw [fixed.start, fixed.appExport]
  have origin : symbols.appExportAddress.toNat = 0x013080 := by
    rw [fixed.appExport]
    rfl
  have publish : symbols.publishStateAddress.toNat = 0x013020 := by
    rw [fixed.publish]
    rfl
  have headers : symbols.headerAddress.toNat = 0x013000 := by
    rw [fixed.header]
    rfl
  have next : (symbols.appExportAddress + 1).toNat = symbols.appExportAddress.toNat + 1 :=
    Words.toNat_add_of_lt (by rw [origin]; decide)
  -- a word of the image at or behind the export is a word of the patched one
  have kept : ∀ a w, symbols.appExportAddress.toNat ≤ a → HasWord image.blocks a w →
      HasWord service.image.blocks a w := by
    intro a w from' word
    by_cases inside : a < symbols.immutableEndExclusive.toNat
    · have copied := patched.dense.copied (a - symbols.immutableStart.toNat) (by omega) w
        (by rw [Nat.add_sub_cancel' (by omega)]; exact word)
      exact (patched.immutableWords a w (by omega) inside).2 copied
    · exact (patched.others a w (.inr (by omega)) (.inr (by omega))
        (.inr (by rw [serviceHeaderWords]; omega))).2 word
  rw [confirmAddress, appExportAddress_holds fixed patched holds,
    holds _ _ (kept _ _ (Nat.le_refl _) lowWord),
    holds (symbols.appExportAddress + 1) high
      (by rw [next]; exact kept _ _ (Nat.le_succ _) highWord)]

end

variable (fixed : FixedLayout symbols)
  (accepted : AcceptedService symbols image capabilities service)
include fixed accepted

/-- A memory that holds a prepared service passes every check of the header. -/
theorem serviceLoaded (exports : ExportsConfirm symbols image)
    (capable : capabilities &&& requiredCapabilities =
      requiredCapabilities)
    (holds : Holds m service.image) : ServiceLoaded symbols capabilities m := by
  obtain ⟨immutable, header, patched⟩ := accepted.patched
  have start := immutableStart_holds fixed patched holds
  have stop := immutableEnd_holds fixed patched holds
  have appExport := appExportAddress_holds fixed patched holds
  have words := immutableWords_holds fixed patched holds
  have bootInit : bootInitAddress m = symbols.bootInitAddress :=
    headerField_holds fixed patched holds (by decide) rfl rfl
  have command : commandAddress m = symbols.bootHandleCommandAddress :=
    headerField_holds fixed patched holds (by decide) rfl rfl
  have capability : headerU32 m 20 = capabilities :=
    headerField_holds fixed patched holds (by decide) rfl rfl
  have nonempty := symbols.immutable_ne
  have lengthPositive := UInt32.lt_iff_toNat_lt.1 nonempty
  have origin : symbols.immutableStart.toNat = 0x013080 := by
    rw [fixed.start]
    rfl
  have high : symbols.immutableEndExclusive.toNat ≤ 0x01BFF8 := by
    have inside := accepted.symbolsInside
    simp only [symbolRanges, InServiceRam, List.forall_mem_cons] at inside
    exact inside.2.2.2.2.1.2
  -- an address in the immutable range is neither 0 nor the last one
  have proper : ∀ a : UInt32, symbols.immutableStart ≤ a ∧ a < symbols.immutableEndExclusive →
      a ≠ 0 ∧ a ≠ 0xFFFFFFFF ∧ inImmutable m a := by
    intro a inside
    have lower := UInt32.le_iff_toNat_le.1 inside.1
    have upper := UInt32.lt_iff_toNat_lt.1 inside.2
    refine ⟨?_, ?_, ?_⟩
    · rintro rfl
      rw [origin] at lower
      exact absurd lower (by decide)
    · rintro rfl
      exact absurd (Nat.lt_of_lt_of_le upper high) (by decide)
    · rw [inImmutable, start, stop]
      exact inside
  have entries := accepted.checks.entries
  simp only [entriesInside, List.all_cons, List.all_nil, Bool.and_true, Bool.and_eq_true,
    decide_eq_true_eq] at entries
  obtain ⟨low, highWord, lowThere, highThere, confirmed⟩ := exports
  have confirm := confirmAddress_holds fixed patched holds lowThere highThere
  have initProper := proper _ entries.1
  have commandProper := proper _ entries.2.1
  refine ⟨?_, bootInit, command, capability⟩
  constructor
  · exact headerField_holds fixed patched holds (by decide) rfl rfl
  · exact headerWord_holds fixed patched holds (by decide)
  · exact headerWord_holds fixed patched holds (by decide)
  · have fields : (List.range 26).map (headerWord m) =
        (serviceHeader symbols capabilities immutable).take 26 := by
      have same : (List.range 26).map (headerWord m) =
          (List.range 26).map fun i => (serviceHeader symbols capabilities immutable).getD i 0 := by
        apply List.map_congr_left
        intro i mem
        exact headerWord_holds fixed patched holds (Nat.lt_trans (List.mem_range.1 mem) (by decide))
      rw [same]
      rfl
    have crc := patched.headerCrc32
    rw [patched.header_eq] at crc
    rw [fields, ← crc32Words_eq, ← crc, headerU32_holds fixed patched holds (by decide)]
  · exact headerWord_holds fixed patched holds (by decide)
  · exact Nat.le_of_eq (congrArg UInt16.toNat (headerWord_holds fixed patched holds (by decide)))
  · exact headerWord_holds fixed patched holds (by decide)
  · exact (headerField_holds fixed patched holds (by decide) rfl rfl).trans fixed.publish
  · exact (headerField_holds fixed patched holds (by decide) rfl rfl).trans fixed.runtime
  · exact appExport.trans fixed.appExport
  · rw [start, appExport, fixed.start, fixed.appExport]
  · rw [start, fixed.start]
    decide
  · rw [start, stop]
    exact nonempty
  · rw [start, stop]
    have region := checkAddress_region (a := symbols.immutableStart.toNat)
      (n := (symbols.immutableEndExclusive - symbols.immutableStart).toNat)
      (by rw [UInt32.toNat_sub_of_le _ _ (UInt32.le_of_lt nonempty)]; omega)
      ⟨(0x010000, 0x01BFF8), by decide, by rw [origin]; decide, by
        rw [UInt32.toNat_sub_of_le _ _ (UInt32.le_of_lt nonempty),
          Nat.add_sub_cancel' (Nat.le_of_lt lengthPositive)]
        exact high⟩
    rw [UInt32.ofNat_toNat, UInt32.ofNat_toNat] at region
    exact region
  · rw [bootInit]
    exact initProper.2.2
  · rw [command]
    exact commandProper.2.2
  · rw [confirm]
    exact proper _ confirmed
  · rw [capability]
    exact capable
  · have crc := patched.imageCrc32
    rw [patched.header_eq] at crc
    rw [words, ← crc32Words_eq, ← crc, headerU32_holds fixed patched holds (by decide)]
  · rw [bootInit, command]
    exact ⟨initProper.1, commandProper.1⟩

end

end BootUpgrade.ServiceImage

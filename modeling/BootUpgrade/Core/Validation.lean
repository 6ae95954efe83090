import BootUpgrade.Core.Algorithm

/-!
# What validation reads and publishes

An accepted header stays accepted as long as the words that validation has read
stay as they are, and the publish words tell whether the last validation passed.
-/

namespace BootUpgrade.BootAlgorithm

open BootFlashServiceLayout BootFlashServiceAbi

variable {σ : Type}

/-- A word of the service header or of the immutable range it names. -/
def ServiceWord (memory : CoreMemory) (a : UInt32) : Prop :=
  headerOrigin ≤ a ∧ a < headerOrigin + headerReservedWords ∨ inImmutable memory a

/-- The publish words carry the VALID marker. -/
def Published (memory : CoreMemory) : Prop :=
  memory publishOrigin = publishValid ∧ memory (publishOrigin + 1) = publishValidInverse

/-- A word that validation reads: these and the application export. -/
def ValidatedWord (memory : CoreMemory) (a : UInt32) : Prop :=
  ServiceWord memory a ∨ a = appExportOrigin ∨ a = appExportOrigin + 1

/-- What is asked of the service's own code: it leaves the words that validation
reads and the publish words, and `boot_init` answers as these words and its
arguments make it. -/
structure Resident (code : ServiceCode σ) : Prop where
  bootInit : ∀ entry deviceId cpuId maxDataWords (w : CoreWorld σ) a,
    ValidatedWord w.memory a ∨ a = publishOrigin ∨ a = publishOrigin + 1 →
    (code.bootInit entry deviceId cpuId maxDataWords w).2.memory a = w.memory a
  handleCommand : ∀ entry request (w : CoreWorld σ) a,
    ValidatedWord w.memory a ∨ a = publishOrigin ∨ a = publishOrigin + 1 →
    (code.handleCommand entry request w).world.memory a = w.memory a
  determined : ∀ entry deviceId cpuId maxDataWords (w w' : CoreWorld σ),
    (∀ a, ValidatedWord w.memory a → w'.memory a = w.memory a) →
    (code.bootInit entry deviceId cpuId maxDataWords w').1 =
      (code.bootInit entry deviceId cpuId maxDataWords w).1

/-! ## What validation reads -/

/-- The facts behind an accepted header. -/
structure HeaderAccepted (m : CoreMemory) : Prop where
  magic : headerU32 m 0 = headerMagic
  version : headerWord m 2 = headerVersion
  words : headerWord m 3 = headerWords
  headerCrc : BootCrc32.calcWords ((List.range 26).map (headerWord m)) = headerU32 m 26
  abiMajor : headerWord m 4 = BootFlashServiceAbi.abiMajor
  abiMinor : headerWord m 5 ≤ BootFlashServiceAbi.abiMinor
  algorithm : headerWord m 22 = crc32Ieee
  publish : headerU32 m 10 = publishOrigin
  runtime : headerU32 m 12 = runtimeOrigin
  appExport : appExportAddress m = appExportOrigin
  start : immutableStart m = appExportAddress m
  reserved : headerOrigin + headerReservedWords ≤ immutableStart m
  stop : immutableStart m < immutableEnd m
  region : BootRam.checkAddress (immutableStart m) (immutableEnd m - immutableStart m)
    BootTarget.ramApp = BootRamResult.ok
  bootInit : inImmutable m (bootInitAddress m)
  command : inImmutable m (commandAddress m)
  confirm : confirmAddress m ≠ 0 ∧ confirmAddress m ≠ 0xFFFFFFFF ∧ inImmutable m (confirmAddress m)
  capabilities : headerU32 m 20 &&& requiredCapabilities = requiredCapabilities
  imageCrc : BootCrc32.calcWords (immutableWords m) = headerU32 m 24
  entries : bootInitAddress m ≠ 0 ∧ commandAddress m ≠ 0

/-- A check that has to be passed for OK. -/
theorem passed {p : Prop} [Decidable p] {refusal rest : UInt16}
    (h : (if p then refusal else rest) = BootStatus.ok) (hr : refusal ≠ BootStatus.ok) :
    ¬ p ∧ rest = BootStatus.ok := by
  split at h
  · exact absurd h hr
  · exact ⟨‹_›, h⟩

section
variable {m m' : CoreMemory}

theorem checkHeader_ok : checkHeader m = BootStatus.ok ↔ HeaderAccepted m := by
  constructor
  · intro h
    obtain ⟨identity, h⟩ := passed h (by decide)
    obtain ⟨abi, h⟩ := passed h (by decide)
    obtain ⟨layout, h⟩ := passed h (by decide)
    obtain ⟨range, h⟩ := passed h (by decide)
    obtain ⟨confirm, h⟩ := passed h (by decide)
    obtain ⟨capabilities, h⟩ := passed h (by decide)
    obtain ⟨imageCrc, h⟩ := passed h (by decide)
    obtain ⟨entries, -⟩ := passed h (by decide)
    simp only [not_or, Decidable.not_not, ne_eq, gt_iff_lt, UInt16.not_lt, UInt32.not_lt,
      UInt32.not_le] at identity abi layout range confirm capabilities imageCrc entries
    exact {
      magic := identity.1, version := identity.2.1, words := identity.2.2.1
      headerCrc := identity.2.2.2, abiMajor := abi.1, abiMinor := abi.2.1, algorithm := abi.2.2
      publish := layout.1, runtime := layout.2.1, appExport := layout.2.2.1, start := layout.2.2.2
      reserved := range.1, stop := range.2.1, region := range.2.2.1, bootInit := range.2.2.2.1
      command := range.2.2.2.2, confirm, capabilities, imageCrc, entries }
  · intro h
    unfold checkHeader
    rw [if_neg, if_neg, if_neg, if_neg, if_neg, if_neg, if_neg, if_neg]
    · simp [h.entries]
    · simp [h.imageCrc]
    · simp [h.capabilities]
    · simp [h.confirm]
    · simp [h.bootInit, h.command, h.region, UInt32.not_lt.2 h.reserved, UInt32.not_le.2 h.stop]
    · simp [h.publish, h.runtime, h.appExport, h.start]
    · simp [h.abiMajor, h.algorithm, UInt16.not_lt.2 h.abiMinor]
    · simp [h.magic, h.version, h.words, h.headerCrc]

theorem headerWord_congr (h : ∀ a, ValidatedWord m a → m' a = m a) {i : Nat} (hi : i < 32) :
    headerWord m' i = headerWord m i := by
  apply h
  left; left
  have offset : (UInt32.ofNat i).toNat = i := UInt32.toNat_ofNat_of_lt' (by
    simp only [UInt32.size]; omega)
  have origin : headerOrigin.toNat = 0x013000 := rfl
  have stop : (headerOrigin + headerReservedWords).toNat = 0x013020 := rfl
  have sum : (headerOrigin + UInt32.ofNat i).toNat = 0x013000 + i := by
    rw [Words.toNat_add_of_lt (by omega), origin, offset]
  rw [UInt32.le_iff_toNat_le, UInt32.lt_iff_toNat_lt, sum, origin, stop]
  omega

theorem headerU32_congr (h : ∀ a, ValidatedWord m a → m' a = m a) {i : Nat} (hi : i < 31) :
    headerU32 m' i = headerU32 m i := by
  rw [headerU32, headerU32, headerWord_congr h (by omega), headerWord_congr h (by omega)]

theorem inImmutable_congr (h : ∀ a, ValidatedWord m a → m' a = m a) (a : UInt32) :
    inImmutable m' a ↔ inImmutable m a := by
  unfold inImmutable immutableStart immutableEnd
  rw [headerU32_congr h (by decide), headerU32_congr h (by decide)]

theorem serviceWord_congr (h : ∀ a, ValidatedWord m a → m' a = m a) (a : UInt32) :
    ServiceWord m' a ↔ ServiceWord m a := by
  unfold ServiceWord
  rw [inImmutable_congr h]

theorem validatedWord_congr (h : ∀ a, ValidatedWord m a → m' a = m a) (a : UInt32) :
    ValidatedWord m' a ↔ ValidatedWord m a := by
  unfold ValidatedWord
  rw [serviceWord_congr h]

theorem immutableWords_congr (h : ∀ a, ValidatedWord m a → m' a = m a)
    (range : immutableStart m < immutableEnd m) : immutableWords m' = immutableWords m := by
  have start : immutableStart m' = immutableStart m := headerU32_congr h (by decide)
  have stop : immutableEnd m' = immutableEnd m := headerU32_congr h (by decide)
  unfold immutableWords
  rw [start, stop]
  apply List.map_congr_left
  intro k hk
  have hk := List.mem_range.1 hk
  have range := UInt32.lt_iff_toNat_lt.1 range
  have last := (immutableEnd m).toNat_lt
  rw [UInt32.toNat_sub_of_le _ _ (UInt32.le_iff_toNat_le.2 (by omega))] at hk
  have offset : (UInt32.ofNat k).toNat = k := UInt32.toNat_ofNat_of_lt' (by
    simp only [UInt32.size]; omega)
  apply h
  left; right
  unfold inImmutable
  rw [UInt32.le_iff_toNat_le, UInt32.lt_iff_toNat_lt, Words.toNat_add_of_lt (by omega), offset]
  omega

/-- Words that agree with an accepted service are an accepted service. -/
theorem HeaderAccepted.congr (accepted : HeaderAccepted m)
    (h : ∀ a, ValidatedWord m a → m' a = m a) : HeaderAccepted m' := by
  have word := fun {i} (hi : i < 32) => headerWord_congr h hi
  have u32 := fun {i} (hi : i < 31) => headerU32_congr h hi
  have start : immutableStart m' = immutableStart m := u32 (by decide)
  have stop : immutableEnd m' = immutableEnd m := u32 (by decide)
  have appExport : appExportAddress m' = appExportAddress m := u32 (by decide)
  have bootInit : bootInitAddress m' = bootInitAddress m := u32 (by decide)
  have command : commandAddress m' = commandAddress m := u32 (by decide)
  have fields : (List.range 26).map (headerWord m') = (List.range 26).map (headerWord m) :=
    List.map_congr_left fun i hi => word (by have := List.mem_range.1 hi; omega)
  have confirm : confirmAddress m' = confirmAddress m := by
    unfold confirmAddress
    rw [appExport, accepted.appExport, h _ (.inr (.inl rfl)), h _ (.inr (.inr rfl))]
  have image := immutableWords_congr h accepted.stop
  constructor
  · rw [u32 (by decide)]; exact accepted.magic
  · rw [word (by decide)]; exact accepted.version
  · rw [word (by decide)]; exact accepted.words
  · rw [fields, u32 (by decide)]; exact accepted.headerCrc
  · rw [word (by decide)]; exact accepted.abiMajor
  · rw [word (by decide)]; exact accepted.abiMinor
  · rw [word (by decide)]; exact accepted.algorithm
  · rw [u32 (by decide)]; exact accepted.publish
  · rw [u32 (by decide)]; exact accepted.runtime
  · rw [appExport]; exact accepted.appExport
  · rw [start, appExport]; exact accepted.start
  · rw [start]; exact accepted.reserved
  · rw [start, stop]; exact accepted.stop
  · rw [start, stop]; exact accepted.region
  · rw [bootInit, inImmutable_congr h]; exact accepted.bootInit
  · rw [command, inImmutable_congr h]; exact accepted.command
  · rw [confirm, inImmutable_congr h]; exact accepted.confirm
  · rw [u32 (by decide)]; exact accepted.capabilities
  · rw [image, u32 (by decide)]; exact accepted.imageCrc
  · rw [bootInit, command]; exact accepted.entries

/-- The words that validation reads lie in front of and behind the publish words. -/
theorem HeaderAccepted.apart (accepted : HeaderAccepted m) {a : UInt32} (ha : ValidatedWord m a) :
    a ≠ publishOrigin ∧ a ≠ publishOrigin + 1 := by
  have start : (immutableStart m).toNat = 0x013080 := by
    rw [accepted.start, accepted.appExport]
    rfl
  have stop : (headerOrigin + headerReservedWords).toNat = 0x013020 := rfl
  have publish : publishOrigin.toNat = 0x013020 := rfl
  have inverse : (publishOrigin + 1).toNat = 0x013021 := rfl
  rw [ne_eq, ne_eq, ← UInt32.toNat_inj, ← UInt32.toNat_inj, publish, inverse]
  rcases ha with (⟨-, ha⟩ | ⟨ha, -⟩) | rfl | rfl
  · rw [UInt32.lt_iff_toNat_lt, stop] at ha
    omega
  · rw [UInt32.le_iff_toNat_le, start] at ha
    omega
  · decide
  · decide

end

/-! ## The publish words -/

section
variable {w w' : CoreWorld σ} {a : UInt32}

theorem invalidatePublishState_other (h : a ≠ publishOrigin ∧ a ≠ publishOrigin + 1) :
    (invalidatePublishState w).memory a = w.memory a := by
  show (w.memory.writeWord publishOrigin publishInvalid).writeWord (publishOrigin + 1)
    publishInvalid a = w.memory a
  rw [CoreMemory.writeWord_ne h.2, CoreMemory.writeWord_ne h.1]

theorem publishState_other (h : a ≠ publishOrigin ∧ a ≠ publishOrigin + 1) :
    (publishState w).memory a = w.memory a := by
  show (w.memory.writeWord (publishOrigin + 1) publishValidInverse).writeWord publishOrigin
    publishValid a = w.memory a
  rw [CoreMemory.writeWord_ne h.1, CoreMemory.writeWord_ne h.2]

theorem published_publishState : Published (publishState w).memory := by
  have apart : publishOrigin + 1 ≠ publishOrigin := by decide
  constructor
  · show (w.memory.writeWord (publishOrigin + 1) publishValidInverse).writeWord publishOrigin
      publishValid publishOrigin = publishValid
    exact CoreMemory.writeWord_self
  · show (w.memory.writeWord (publishOrigin + 1) publishValidInverse).writeWord publishOrigin
      publishValid (publishOrigin + 1) = publishValidInverse
    rw [CoreMemory.writeWord_ne apart, CoreMemory.writeWord_self]

theorem invalidatePublishState_valid :
    (invalidatePublishState w).memory publishOrigin = publishInvalid := by
  have apart : publishOrigin ≠ publishOrigin + 1 := by decide
  show (w.memory.writeWord publishOrigin publishInvalid).writeWord (publishOrigin + 1)
    publishInvalid publishOrigin = publishInvalid
  rw [CoreMemory.writeWord_ne apart, CoreMemory.writeWord_self]

theorem invalidatePublishState_inverse :
    (invalidatePublishState w).memory (publishOrigin + 1) = publishInvalid := by
  show (w.memory.writeWord publishOrigin publishInvalid).writeWord (publishOrigin + 1)
    publishInvalid (publishOrigin + 1) = publishInvalid
  rw [CoreMemory.writeWord_self]

theorem not_published {m : CoreMemory} (h : m publishOrigin = publishInvalid) : ¬ Published m := by
  intro published
  have := h.symm.trans published.1
  exact absurd this (by decide)

/-! ## Validation -/

variable {code : ServiceCode σ} (resident : Resident code) {deviceInfo : BootDeviceInfo}

/-- The two ways validation ends. -/
theorem validate_cases (code : ServiceCode σ) (deviceInfo : BootDeviceInfo) (w : CoreWorld σ) :
    let w₁ := invalidatePublishState w
    let call := code.bootInit (bootInitAddress w₁.memory) deviceInfo.deviceId deviceInfo.cpuId
      deviceInfo.maxDataWords w₁
    let r := validateFlashService code deviceInfo w
    r.status = BootStatus.ok ∧ HeaderAccepted w₁.memory ∧ call.1 = BootStatus.ok ∧
        r.world = publishState call.2 ∨
      r.status ≠ BootStatus.ok ∧ (r.world = w₁ ∨ r.world = call.2) ∧
        ¬ (HeaderAccepted w₁.memory ∧ call.1 = BootStatus.ok) := by
  intro w₁ call r
  by_cases header : checkHeader w₁.memory = BootStatus.ok
  · have accepted := checkHeader_ok.1 header
    by_cases status : call.1 = BootStatus.ok
    · have valid : r = ⟨BootStatus.ok, some (commandAddress w₁.memory), publishState call.2⟩ := by
        show validateFlashService code deviceInfo w = _
        unfold validateFlashService
        dsimp only
        rw [if_neg (not_not_intro header), if_neg (not_not_intro status)]
      rw [valid]
      exact .inl ⟨rfl, accepted, status, rfl⟩
    · have invalid : r = ⟨call.1, none, call.2⟩ := by
        show validateFlashService code deviceInfo w = _
        unfold validateFlashService
        dsimp only
        rw [if_neg (not_not_intro header), if_pos status]
      rw [invalid]
      exact .inr ⟨status, .inr rfl, fun h => status h.2⟩
  · have invalid : r = ⟨checkHeader w₁.memory, none, w₁⟩ := by
      show validateFlashService code deviceInfo w = _
      unfold validateFlashService
      dsimp only
      rw [if_pos header]
    rw [invalid]
    exact .inr ⟨header, .inl rfl, fun h => header (checkHeader_ok.2 h.1)⟩

include resident

/-- An accepted service is published, and the words validation has read are as before. -/
theorem validate_ok (h : (validateFlashService code deviceInfo w).status = BootStatus.ok) :
    HeaderAccepted w.memory ∧
      (∀ a, ValidatedWord w.memory a →
        (validateFlashService code deviceInfo w).world.memory a = w.memory a) ∧
      Published (validateFlashService code deviceInfo w).world.memory := by
  rcases validate_cases code deviceInfo w with ⟨-, header, status, world⟩ | ⟨refused, -⟩
  · have same : ∀ a, ValidatedWord (invalidatePublishState w).memory a →
        w.memory a = (invalidatePublishState w).memory a :=
      fun a ha => (invalidatePublishState_other (header.apart ha)).symm
    have accepted := header.congr same
    refine ⟨accepted, ?_, ?_⟩
    · intro a ha
      have ha' := (validatedWord_congr same a).1 ha
      rw [world, publishState_other (header.apart ha'), resident.bootInit _ _ _ _ _ _ (.inl ha'),
        same a ha']
    · rw [world]
      exact published_publishState
  · exact absurd h refused

/-- A refused service is not published. -/
theorem validate_refused (h : (validateFlashService code deviceInfo w).status ≠ BootStatus.ok) :
    ¬ Published (validateFlashService code deviceInfo w).world.memory := by
  rcases validate_cases code deviceInfo w with ⟨ok, -⟩ | ⟨-, world | world, -⟩
  · exact absurd ok h
  · rw [world]
    exact not_published invalidatePublishState_valid
  · rw [world]
    apply not_published
    rw [resident.bootInit _ _ _ _ _ _ (.inr (.inl rfl))]
    exact invalidatePublishState_valid

/-- Words that agree with an accepted service are accepted again. -/
theorem validate_again (h : (validateFlashService code deviceInfo w).status = BootStatus.ok)
    (agrees : ∀ a, ValidatedWord w.memory a → w'.memory a = w.memory a) :
    (validateFlashService code deviceInfo w').status = BootStatus.ok := by
  rcases validate_cases code deviceInfo w with ⟨-, header, status, -⟩ | ⟨refused, -⟩
  · have same : ∀ a, ValidatedWord (invalidatePublishState w).memory a →
        w.memory a = (invalidatePublishState w).memory a :=
      fun a ha => (invalidatePublishState_other (header.apart ha)).symm
    have agrees' : ∀ a, ValidatedWord (invalidatePublishState w).memory a →
        (invalidatePublishState w').memory a = (invalidatePublishState w).memory a := by
      intro a ha
      rw [invalidatePublishState_other (header.apart ha),
        agrees a ((validatedWord_congr same a).2 ha), same a ha]
    have entry : bootInitAddress (invalidatePublishState w').memory =
        bootInitAddress (invalidatePublishState w).memory := headerU32_congr agrees' (by decide)
    rcases validate_cases code deviceInfo w' with ⟨ok, -⟩ | ⟨-, -, impossible⟩
    · exact ok
    · refine absurd ⟨header.congr agrees', ?_⟩ impossible
      rw [entry, resident.determined _ _ _ _ _ _ agrees']
      exact status
  · exact absurd h refused

end

end BootUpgrade.BootAlgorithm

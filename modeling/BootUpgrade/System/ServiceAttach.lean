import BootUpgrade.System.RamEvidence
import BootUpgrade.System.ServiceHeader

/-!
# A prepared service from the host to its attach

A service that `prepare_service_image` accepts is loaded and attached by
`ensure_service_attached` if and only if the device takes its entry point, its
words reach the entry point from both sides and its own `boot_init` answers with
OK. The host then reads the status that it has asked for, and asks for nothing
else the next time.
-/

namespace BootUpgrade.ServiceAttach

open HostImages HostWorkflow HostClient HostOperations TransferKind Dialogue RamLoading ServiceImage
  BootAlgorithm BootFlashServiceLayout BootFlashServiceAbi RamEvidence

variable {σ : Type} {features : BootFeatures} {code : ServiceCode σ} {c loaded : Core σ}
  {ctx : FlashOperationContext} {symbols : TiMapSymbols} {image : FirmwareImage}
  {capabilities : UInt32} {packets : List DataPacket}

/-! ## The entry point -/

/-- The device takes the entry point of a BEGIN. -/
def EntryTaken (entryPoint : Nat) : Prop :=
  BootRam.checkAddress (UInt32.ofNat entryPoint) 1 BootTarget.ramApp = BootRamResult.ok

instance (entryPoint : Nat) : Decidable (EntryTaken entryPoint) :=
  inferInstanceAs (Decidable (_ = _))

/-- A BEGIN whose entry point the device does not take is refused. -/
theorem begin_taken {entryPoint imageCrc32 : Nat} (small : entryPoint ≤ 0xFFFFFFFF)
    (accepts : Accepts (coreServer features code) c (ramLoad.beginRequest packets entryPoint imageCrc32)) :
    EntryTaken entryPoint := by
  have fits := beginRequest_fits entryPoint imageCrc32 packets
  have entry : (requestFrame (ramLoad.beginRequest packets entryPoint imageCrc32)).u32 4 =
      UInt32.ofNat entryPoint := by
    rw [u32_requestFrame fits, ← UInt32.toNat_inj,
      UInt32.toNat_ofNat_of_lt' (by rw [UInt32.size]; omega)]
    exact joinU32_lowHigh small
  obtain ⟨a, answer, ok⟩ := accepts
  rw [coreServer_eq fits, dispatch_ramLoadBegin rfl] at answer
  cases answer
  unfold handleRamLoadBegin at ok
  split at ok
  · exact absurd (show BootStatus.badPayloadLength = BootStatus.ok from ok) (by decide)
  split at ok
  · exact absurd (show BootStatus.busy = BootStatus.ok from ok) (by decide)
  split at ok
  · exact absurd (show BootStatus.targetMismatch = BootStatus.ok from ok) (by decide)
  dsimp only at ok
  split at ok
  · exact absurd (show BootStatus.badWordCount = BootStatus.ok from ok) (by decide)
  split at ok
  · exact absurd (show BootStatus.ramRegionError = BootStatus.ok from ok) (by decide)
  rename_i taken
  rw [entry] at taken
  exact Decidable.not_not.1 taken

/-! ## The requests of the attach -/

/-- The payload of SERVICE_ATTACH. -/
def attachPayload (ctx : FlashOperationContext) : List Nat :=
  lowHigh ctx.service.headerAddress ++ lowHigh ctx.service.expectedCrc32.toNat ++
    lowHigh ctx.service.totalWords ++ [0]

theorem attachPayload_fits (ctx : FlashOperationContext) :
    (hostRequest BootCmd.serviceAttach (attachPayload ctx)).payload.length ≤ 256 :=
  show 7 ≤ 256 by decide

/-- The request of SERVICE_ATTACH. -/
def attachFrame (ctx : FlashOperationContext) : BootProtocolFrame :=
  requestFrame (hostRequest BootCmd.serviceAttach (attachPayload ctx))

theorem readStatus_succeeds {post : ServiceStatus → Core σ → Prop} :
    Succeeds (coreServer features code) (readStatus ctx) c post ↔ post (reportedStatus c) c := by
  have encodable : Encodable ctx.maxPayloadWords [] := by
    constructor
    · exact Nat.zero_le _
    · intro word mem
      cases mem
  have fits : (hostRequest BootCmd.getServiceStatus []).payload.length ≤ 256 := show 0 ≤ 256 by decide
  have handled : dispatch (requestFrame (hostRequest BootCmd.getServiceStatus [])) features code c =
      handleGetServiceStatus (requestFrame (hostRequest BootCmd.getServiceStatus [])) c := rfl
  unfold readStatus
  rw [succeeds_bind_iff, succeeds_core encodable fits handled, succeeds_lift_iff]
  have reported : ServiceStatus.fromWords (handleGetServiceStatus
      (requestFrame (hostRequest BootCmd.getServiceStatus [])) c).response.payload =
        .ok (reportedStatus c) := by
    show Except.ok _ = Except.ok _
    unfold reportedStatus
    rw [Words.joinU32_lowWord_highWord, Words.joinU32_lowWord_highWord,
      Words.joinU32_lowWord_highWord]
  constructor
  · rintro ⟨-, status, words, h⟩
    rw [reported] at words
    cases words
    exact h
  · exact fun h => ⟨rfl, _, reported, h⟩

/-! ## What is loaded -/

/-- What the load of a service leaves. -/
structure LoadedService (ctx : FlashOperationContext) (packets : List DataPacket)
    (c loaded : Core σ) : Prop where
  session : HoldsPackets ctx.service.image.entryPoint packets loaded.algorithm.ramLoad
  holds : Holds loaded.world.memory ctx.service.image
  other : ∀ a : UInt32, ¬ ctx.service.image.Covers a.toNat →
    loaded.world.memory a = c.world.memory a
  device : loaded.algorithm.deviceInfo = c.algorithm.deviceInfo

/-- The core behind a RAM_CHECK_CRC that has passed. -/
def checkedCore (c : Core σ) : Core σ := { c with algorithm.ramLoad.crcChecked := 1 }

theorem LoadedService.checked (service : LoadedService ctx packets c loaded) :
    LoadedService ctx packets c (checkedCore loaded) :=
  ⟨service.session.checked, service.holds, service.other, service.device⟩

section
variable (accepted : AcceptedService symbols image capabilities ctx.service)
include accepted

section
variable (carries : CarriesImage ctx.service.image ctx.maxDataWords packets)
include carries

theorem packet_region : ∀ packet ∈ packets,
    InWriteRegion packet.address (packet.address + packet.words.length) := by
  intro packet mem
  have some := List.length_pos_iff.2 (carries.nonempty packet mem)
  have first := accepted.covered
    (covers_packet carries mem (Nat.le_refl packet.address) (by omega))
  have last := accepted.covered (covers_packet carries mem
    (a := packet.address + packet.words.length - 1) (by omega) (by omega))
  have region : ((0x010000, 0x01BFF8) : UInt32 × UInt32) ∈ BootRam.writeRegions := by decide
  have upper : (0x01BFF8 : UInt32).toNat = 0x01BFF8 := rfl
  exact ⟨_, region, first.1, by dsimp only; omega⟩

theorem loads_service (limits : ClientLimits c ctx.toOperationContext)
    (taken : EntryTaken ctx.service.image.entryPoint) :
    Loads ctx.maxPayloadWords ctx.service.image.entryPoint ctx.service.expectedCrc32.toNat packets := by
  obtain ⟨long, device⟩ := limits.bounds
  have crc := ctx.service.expectedCrc32.toNat_lt
  exact loads_carried carries long limits.fits device accepted.few (by omega)
    (packet_region accepted carries) taken

/-- The words of the service are loaded, and no others. -/
theorem loadedService (fixed : FixedLayout symbols) (limits : ClientLimits c ctx.toOperationContext)
    (taken : EntryTaken ctx.service.image.entryPoint) :
    LoadedService ctx packets c
      (loadedCore ctx.service.image.entryPoint ctx.service.expectedCrc32.toNat packets c) := by
  have loads := loads_service accepted carries limits taken
  obtain ⟨immutable, header, patched⟩ := accepted.patched
  have first : symbols.publishStateAddress.toNat = publishOrigin.toNat := by rw [fixed.publish]
  have second : (publishOrigin + 1).toNat = publishOrigin.toNat + 1 := rfl
  constructor
  · exact holds_loadedCore loads
  · intro a w word
    apply loadedCore_memory loads ((carries.has _ w).2 word)
    · intro packet mem v found
      exact ctx.service.image.hasWord_unique ((carries.has _ v).1 ⟨packet, mem, found⟩) word
    · rintro - (rfl | rfl)
      · exact (patched.publishWords _ w (by omega) (by omega)).1 word
      · exact (patched.publishWords _ w (by omega) (by omega)).1 word
  · intro a outside
    apply loadedCore_outside loads
    · intro packet mem v found
      exact outside (covered_iff.2 ⟨v, (carries.has _ v).1 ⟨packet, mem, found⟩⟩)
    · intro _
      -- the publish words are words of the image
      have covered : ∀ a, symbols.publishStateAddress.toNat ≤ a →
          a < symbols.publishStateAddress.toNat + 2 → ctx.service.image.Covers a :=
        fun a lower upper => covered_iff.2 ⟨0, (patched.publishWords a 0 lower upper).2 rfl⟩
      constructor
      · rintro rfl
        exact outside (covered _ (by omega) (by omega))
      · rintro rfl
        exact outside (covered _ (by omega) (by omega))
  · exact loadedCore_deviceInfo

/-- The load of a prepared service ends exactly when the device takes its entry point and its
words reach it from both sides. -/
theorem loadPackets_succeeds (limits : ClientLimits c ctx.toOperationContext)
    (kept : ctx.serviceTransferPolls = fun _ => false) (idle : c.algorithm.ramLoad.active = 0)
    {post : ServiceRuntime → Core σ → Prop} :
    Succeeds (coreServer features code) (HostOperations.loadPackets ctx packets) c post ↔
      (EntryTaken ctx.service.image.entryPoint ∧ EntrySpanned ctx.service.image) ∧
        Succeeds (coreServer features code) (attachLoaded ctx (totalWords packets))
          (loadedCore ctx.service.image.entryPoint ctx.service.expectedCrc32.toNat packets c) post := by
  obtain ⟨long, device⟩ := limits.bounds
  have crc : ctx.service.expectedCrc32.toNat ≤ 0xFFFFFFFF := by
    have := ctx.service.expectedCrc32.toNat_lt
    omega
  have sent := beginSent_carried carries long accepted.few crc
  have loadable := loadable_carried carries limits.fits device (packet_region accepted carries)
  unfold HostOperations.loadPackets
  rw [kept, succeeds_bind_iff, succeeds_transfer sent fun packet mem => (loadable packet mem).toSendable]
  dsimp only
  have requests : serviceLoad.transferRequests = ramLoad.transferRequests := rfl
  rw [requests]
  have accepts (taken : EntryTaken ctx.service.image.entryPoint) :=
    load_accepted features code (loads_service accepted carries limits taken) idle
  rw [entryLoaded_iff carries] at accepts
  constructor
  · rintro ⟨all, rest⟩
    have taken := begin_taken ctx.service.image.entryPoint_le all.1
    obtain ⟨whole, left⟩ := accepts taken
    have spanned := whole.1 all
    rw [left spanned] at rest
    exact ⟨⟨taken, spanned⟩, rest⟩
  · rintro ⟨⟨taken, spanned⟩, rest⟩
    obtain ⟨whole, left⟩ := accepts taken
    refine ⟨whole.2 spanned, ?_⟩
    rw [left spanned]
    exact rest

end

/-! ## The attach -/

/-- What `boot_init` answers on the world that validation hands it. -/
def bootInitStatus (code : ServiceCode σ) (symbols : TiMapSymbols) (c : Core σ) : UInt16 :=
  (code.bootInit symbols.bootInitAddress c.algorithm.deviceInfo.deviceId
    c.algorithm.deviceInfo.cpuId c.algorithm.deviceInfo.maxDataWords
    (invalidatePublishState c.world)).1

/-- What an accepted SERVICE_ATTACH leaves. -/
def attachedCore (code : ServiceCode σ) (c : Core σ) : Core σ :=
  let valid := validateFlashService code c.algorithm.deviceInfo c.world
  let attached := attachService valid.commandHandler { c with world := valid.world }
  { attached with
    algorithm.serviceState.loadedCrc32 := c.algorithm.ramLoad.crc32
    algorithm.serviceState.loadedWords := c.algorithm.ramLoad.expectedTotalWords }

omit accepted in
/-- The session reaches every word of the image. -/
theorem entryLoaded_of_covers (carries : CarriesImage ctx.service.image ctx.maxDataWords packets)
    {a : Nat} (covers : ctx.service.image.Covers a) : EntryLoaded a packets := by
  obtain ⟨packet, mem, lower, upper⟩ := (covers_iff_packet carries).1 covers
  exact ⟨⟨packet, mem, lower⟩, packet, mem, upper⟩

variable (fixed : FixedLayout symbols)
include fixed

/-- The invalidated publish words are those of the image. -/
theorem holds_invalidated {w : CoreWorld σ} (holds : Holds w.memory ctx.service.image) :
    Holds (invalidatePublishState w).memory ctx.service.image := by
  obtain ⟨immutable, header, patched⟩ := accepted.patched
  have first : symbols.publishStateAddress.toNat = publishOrigin.toNat := by rw [fixed.publish]
  have second : (publishOrigin + 1).toNat = publishOrigin.toNat + 1 := rfl
  intro a value word
  by_cases origin : a = publishOrigin
  · subst origin
    rw [(patched.publishWords _ value (by omega) (by omega)).1 word]
    exact invalidatePublishState_valid
  by_cases inverse : a = publishOrigin + 1
  · subst inverse
    rw [(patched.publishWords _ value (by omega) (by omega)).1 word]
    exact invalidatePublishState_inverse
  · rw [invalidatePublishState_other ⟨origin, inverse⟩]
    exact holds a value word

variable (exports : ExportsConfirm symbols image)
  (capable : capabilities &&& requiredCapabilities = requiredCapabilities)
include exports capable

/-- A loaded service passes validation when its own `boot_init` does. -/
theorem validate_loaded (holds : Holds loaded.world.memory ctx.service.image) :
    (validateFlashService code loaded.algorithm.deviceInfo loaded.world).status = BootStatus.ok ↔
      bootInitStatus code symbols loaded = BootStatus.ok := by
  have service := serviceLoaded fixed accepted exports capable
    (holds_invalidated accepted fixed holds)
  have cases := validate_cases code loaded.algorithm.deviceInfo loaded.world
  dsimp only at cases
  rw [service.bootInit] at cases
  rcases cases with ⟨ok, -, answered, -⟩ | ⟨refused, -, impossible⟩
  · exact ⟨fun _ => answered, fun _ => ok⟩
  · exact ⟨fun ok => absurd ok refused, fun answered => absurd ⟨service.header, answered⟩ impossible⟩

/-- What an attached service leaves in the core. -/
structure Attached (symbols : TiMapSymbols) (ctx : FlashOperationContext) (loaded attached : Core σ) :
    Prop where
  active : attached.algorithm.serviceActive = 1
  handler : attached.algorithm.serviceCommandHandler = some symbols.bootHandleCommandAddress
  state : attached.algorithm.serviceState =
    ⟨stateAttached, BootStatus.ok, ctx.service.requiredCapabilities, ctx.service.expectedCrc32,
      UInt32.ofNat ctx.service.totalWords⟩
  published : Published attached.world.memory
  header : HeaderAccepted attached.world.memory
  validated : ∀ a, ValidatedWord loaded.world.memory a →
    attached.world.memory a = loaded.world.memory a

omit accepted fixed exports capable in
theorem Attached.reported {attached : Core σ} (h : Attached symbols ctx loaded attached) :
    reportedStatus attached = ⟨stateAttached, abiMajor, abiMinor, 0, 0,
      ctx.service.requiredCapabilities, BootStatus.ok, ctx.service.expectedCrc32,
      UInt32.ofNat ctx.service.totalWords⟩ := by
  rw [reportedStatus, h.state]

omit fixed exports capable in
/-- The status of an attached service passes the checks of the host. -/
theorem Attached.status {attached : Core σ} (h : Attached symbols ctx loaded attached) :
    validateAttached ctx (reportedStatus attached) = .ok () ∧
      serviceMatches ctx (reportedStatus attached) = true ∧
      (reportedStatus attached).loadedImageCrc32 = ctx.service.expectedCrc32 ∧
        (reportedStatus attached).loadedImageWords.toNat = ctx.service.totalWords := by
  have few := accepted.few
  have words : (UInt32.ofNat ctx.service.totalWords).toNat = ctx.service.totalWords := by
    rw [accepted.words, UInt32.toNat_ofNat_of_lt' (by rw [UInt32.size]; omega)]
  rw [h.reported]
  refine ⟨?_, ?_, rfl, words⟩
  · simp [validateAttached, serviceStateAttached, stateAttached, HostOperations.serviceAbiMajor,
      HostOperations.serviceAbiMinor, abiMajor, abiMinor]
  · simp [serviceMatches, serviceStateAttached, stateAttached, HostOperations.serviceAbiMajor,
      HostOperations.serviceAbiMinor, abiMajor, abiMinor, words]

variable (resident : Resident code) (carries : CarriesImage ctx.service.image ctx.maxDataWords packets)
include resident carries

theorem attached_attachedCore (service : LoadedService ctx packets c loaded)
    (answered : bootInitStatus code symbols loaded = BootStatus.ok) :
    Attached symbols ctx loaded (attachedCore code loaded) := by
  have valid := (validate_loaded accepted fixed exports capable service.holds).2 answered
  obtain ⟨header, kept, published⟩ := validate_ok resident valid
  have here := serviceLoaded fixed accepted exports capable service.holds
  have within := serviceLoaded fixed accepted exports capable
    (holds_invalidated accepted fixed service.holds)
  have handler : (validateFlashService code loaded.algorithm.deviceInfo loaded.world).commandHandler =
      some symbols.bootHandleCommandAddress := by
    have answered' := answered
    unfold bootInitStatus at answered'
    unfold validateFlashService
    dsimp only
    rw [if_neg (not_not_intro (checkHeader_ok.2 within.header)), within.bootInit,
      if_neg (not_not_intro answered'), within.command]
  have same : headerU32 (validateFlashService code loaded.algorithm.deviceInfo
      loaded.world).world.memory 20 = ctx.service.requiredCapabilities := by
    rw [headerU32_congr kept (by decide), here.capabilities, accepted.capabilities]
  have crc : loaded.algorithm.ramLoad.crc32 = ctx.service.expectedCrc32 := by
    rw [service.session.crc, accepted.crc, carries.words]
  have words : loaded.algorithm.ramLoad.expectedTotalWords = UInt32.ofNat ctx.service.totalWords := by
    have few := accepted.few
    rw [← UInt32.toNat_inj, service.session.words, carries.totalWords, accepted.words,
      UInt32.toNat_ofNat_of_lt' (by rw [UInt32.size]; omega)]
  constructor
  · rfl
  · exact handler
  · show (⟨stateAttached, BootStatus.ok, headerU32 (validateFlashService code
      loaded.algorithm.deviceInfo loaded.world).world.memory 20, loaded.algorithm.ramLoad.crc32,
        loaded.algorithm.ramLoad.expectedTotalWords⟩ : BootServiceAttachState) = _
    rw [same, crc, words]
  · exact published
  · exact header.congr kept
  · exact kept

omit exports capable resident in
/-- The header and the words behind it lie in what is loaded. -/
theorem header_loaded (service : LoadedService ctx packets c loaded) :
    isRangeInLoadedRamImage loaded.algorithm.ramLoad headerOrigin headerReservedWords = true := by
  obtain ⟨immutable, header, patched⟩ := accepted.patched
  have nonempty := UInt32.lt_iff_toNat_lt.1 symbols.immutable_ne
  have length := patched.dense.length
  have origin : symbols.headerAddress.toNat = headerOrigin.toNat := by rw [fixed.header]
  have start : symbols.immutableStart.toNat = appExportOrigin.toNat := by rw [fixed.start]
  have headerLength : header.length = 28 := by rw [patched.header_eq, length_serviceHeader]; rfl
  have first : ctx.service.image.Covers headerOrigin.toNat := by
    apply covered_iff.2
    refine ⟨header[0], (patched.headerWords _ _ (by omega) (by rw [serviceHeaderWords]; omega)).2 ?_⟩
    rw [origin, Nat.sub_self, List.getElem?_eq_getElem (by omega)]
  have last : ctx.service.image.Covers appExportOrigin.toNat := by
    apply covered_iff.2
    refine ⟨immutable[0], (patched.immutableWords _ _ (by omega) (by omega)).2 ?_⟩
    rw [start, Nat.sub_self, List.getElem?_eq_getElem (by omega)]
  have lower := ((service.session.between _).2 (entryLoaded_of_covers carries first)).1
  have upper := ((service.session.between _).2 (entryLoaded_of_covers carries last)).2
  apply isRangeInLoadedRamImage_iff.2
  refine ⟨by decide, by decide, service.session.ready, lower, ?_⟩
  exact UInt32.le_of_lt (UInt32.lt_of_le_of_lt (by decide) upper)

omit exports capable resident in
/-- SERVICE_ATTACH of a loaded and checked service is up to its validation. -/
theorem serviceAttach_dispatch (service : LoadedService ctx packets c loaded)
    (checked : loaded.algorithm.ramLoad.crcChecked ≠ 0) :
    dispatch (attachFrame ctx) features code loaded =
      let valid := validateFlashService code loaded.algorithm.deviceInfo loaded.world
      if valid.status ≠ BootStatus.ok then
        failServiceAttach (attachFrame ctx) valid.status headerOrigin headerWords.toUInt32
          { loaded with world := valid.world }
      else sendStatus (attachFrame ctx) BootStatus.ok (attachedCore code loaded) := by
  have fits := attachPayload_fits ctx
  have few := accepted.few
  have crcLe := ctx.service.expectedCrc32.toNat_lt
  have origin : ctx.service.headerAddress = headerOrigin.toNat := by
    rw [accepted.header, fixed.header]
  have address : (attachFrame ctx).u32 0 = headerOrigin := by
    rw [attachFrame, u32_requestFrame fits, ← UInt32.toNat_inj, ← origin]
    apply joinU32_lowHigh
    rw [origin]
    decide
  have crc : (attachFrame ctx).u32 2 = loaded.algorithm.ramLoad.crc32 := by
    rw [attachFrame, u32_requestFrame fits, ← UInt32.toNat_inj, service.session.crc, carries.words,
      ← accepted.crc]
    apply joinU32_lowHigh
    omega
  have words : (attachFrame ctx).u32 4 = loaded.algorithm.ramLoad.expectedTotalWords := by
    rw [attachFrame, u32_requestFrame fits, ← UInt32.toNat_inj, service.session.words,
      carries.totalWords, ← accepted.words]
    apply joinU32_lowHigh
    rw [accepted.words]
    omega
  have length : (attachFrame ctx).payloadWords = 7 := by
    rw [attachFrame, payloadWords_requestFrame fits]
    rfl
  have flags : (attachFrame ctx).word 6 = 0 := by
    rw [attachFrame, word_requestFrame fits]
    rfl
  have ready : ¬ (loaded.algorithm.ramLoad.imageReady = 0 ∨ loaded.algorithm.ramLoad.crcChecked = 0) :=
    not_or.2 ⟨service.session.ready, checked⟩
  have within := header_loaded accepted fixed carries service
  rw [dispatch_serviceAttach rfl]
  unfold handleServiceAttach
  dsimp only
  rw [address, crc, words, if_neg (not_not_intro length), if_neg (not_not_intro flags), if_neg ready,
    if_neg (by simp), if_neg (by simp [within])]
  rfl

/-! ## The dialogue -/

omit fixed exports capable resident in
theorem checkService_succeeds (long : 9 ≤ ctx.maxPayloadWords)
    (service : LoadedService ctx packets c loaded) {post : List UInt16 → Core σ → Prop} :
    Succeeds (coreServer features code)
        (ramCheckCrcProtocol ctx.maxPayloadWords ctx.service.expectedCrc32.toNat
          ctx.service.totalWords) loaded post ↔
      post [] (checkedCore loaded) := by
  rw [accepted.crc, accepted.words]
  exact ramCheckCrc_succeeds carries long accepted.few service.session

omit resident in
theorem serviceAttach_succeeds (long : 9 ≤ ctx.maxPayloadWords)
    (service : LoadedService ctx packets c loaded)
    (checked : loaded.algorithm.ramLoad.crcChecked ≠ 0) {post : List UInt16 → Core σ → Prop} :
    Succeeds (coreServer features code)
        (transact ctx.maxPayloadWords BootCmd.serviceAttach (attachPayload ctx)) loaded post ↔
      bootInitStatus code symbols loaded = BootStatus.ok ∧ post [] (attachedCore code loaded) := by
  have few := accepted.few
  have crcLe := ctx.service.expectedCrc32.toNat_lt
  have encodable : Encodable ctx.maxPayloadWords (attachPayload ctx) := by
    constructor
    · exact Nat.le_trans (show 7 ≤ 9 by decide) long
    · intro word mem
      simp only [attachPayload, List.mem_append, List.mem_singleton] at mem
      rcases mem with ((mem | mem) | mem) | rfl
      · rw [accepted.header, fixed.header] at mem
        exact lowHigh_le (by decide) word mem
      · exact lowHigh_le (by omega) word mem
      · rw [accepted.words] at mem
        exact lowHigh_le (by omega) word mem
      · decide
  rw [← validate_loaded accepted fixed exports capable service.holds,
    succeeds_core encodable (attachPayload_fits ctx)
      (serviceAttach_dispatch accepted fixed carries service checked)]
  dsimp only
  split
  · rename_i refused
    constructor
    · exact fun ⟨ok, _⟩ => absurd ok refused
    · exact fun ⟨ok, _⟩ => absurd ok refused
  · rename_i valid
    exact ⟨fun ⟨_, h⟩ => ⟨Decidable.not_not.1 valid, h⟩, fun ⟨_, h⟩ => ⟨rfl, h⟩⟩

/-- A loaded service is attached exactly when its `boot_init` answers with OK, and the host then
reports its status. -/
theorem attachLoaded_succeeds (kept : ctx.servicePolls = fun _ => false)
    (long : 9 ≤ ctx.maxPayloadWords) (service : LoadedService ctx packets c loaded) (total : Nat)
    {post : ServiceRuntime → Core σ → Prop} :
    Succeeds (coreServer features code) (attachLoaded ctx total) loaded post ↔
      bootInitStatus code symbols loaded = BootStatus.ok ∧
        post (.ok ⟨false, true, reportedStatus (attachedCore code (checkedCore loaded))⟩)
          (attachedCore code (checkedCore loaded)) := by
  have flag : (checkedCore loaded).algorithm.ramLoad.crcChecked = 1 := rfl
  have origin : ctx.service.headerAddress ≤ 0xFFFFFFFF := by
    rw [accepted.header, fixed.header]
    decide
  have crcFits : ctx.service.expectedCrc32.toNat ≤ 0xFFFFFFFF := by
    have := ctx.service.expectedCrc32.toNat_lt
    omega
  have wordsFit : ctx.service.totalWords ≤ 0xFFFFFFFF := by
    have := accepted.few
    rw [accepted.words]
    omega
  unfold attachLoaded
  simp only [kept, Bool.false_eq_true, if_false]
  rw [succeeds_bind_iff, checkService_succeeds accepted carries long service, succeeds_bind_iff,
    succeeds_lift_iff, splitU32_ok origin, splitU32_ok crcFits, splitU32_ok wordsFit]
  have payload : ∀ {f : List Nat → Prop}, (∃ sent, (Except.ok (attachPayload ctx) :
      Except HostError (List Nat)) = .ok sent ∧ f sent) ↔ f (attachPayload ctx) := by
    simp
  refine payload.trans ?_
  rw [succeeds_bind_iff, serviceAttach_succeeds accepted fixed exports capable carries long
    service.checked (by rw [flag]; decide), succeeds_bind_iff, readStatus_succeeds]
  apply and_congr_right
  intro answered
  have attached := attached_attachedCore accepted fixed exports capable resident carries
    service.checked answered
  obtain ⟨validated, -, matched⟩ := attached.status accepted
  rw [succeeds_bind_iff, validated, succeeds_lift_iff]
  simp [matched]

end

section
variable (features code)

/-- The dialogue ends with this summary on `c` and leaves `c'`. -/
def Ensures (d : HostDialogue ServiceRuntime) (summary : ServiceRuntimeSummary) (c c' : Core σ) :
    Prop :=
  Succeeds (coreServer features code) d c fun result s => result = .ok summary ∧ s = c'

end

/-- A service that is attached is used again. -/
theorem ensure_reuses (force : ctx.forceServiceAttach = false) (kept : ctx.servicePolls = fun _ => false)
    (same : serviceMatches ctx (reportedStatus c) = true) :
    Ensures features code (ensureServiceAttached ctx) ⟨true, false, reportedStatus c⟩ c c := by
  unfold Ensures ensureServiceAttached
  simp only [kept, Bool.false_eq_true, if_false]
  rw [succeeds_bind_iff, readStatus_succeeds, if_pos (by rw [force, same]; rfl)]
  exact succeeds_done ⟨rfl, rfl⟩

theorem loadService_ensures (accepted : AcceptedService symbols image capabilities ctx.service)
    (limits : ClientLimits c ctx.toOperationContext)
    (prepares : prepareServiceRamPackets ctx.service.image ctx.maxDataWords = .ok packets)
    (kept : ctx.serviceTransferPolls = fun _ => false) (idle : c.algorithm.ramLoad.active = 0)
    {summary : ServiceRuntimeSummary} {c' : Core σ} :
    Ensures features code (loadService ctx) summary c c' ↔
      (EntryTaken ctx.service.image.entryPoint ∧ EntrySpanned ctx.service.image) ∧
        Ensures features code (attachLoaded ctx (totalWords packets)) summary
          (loadedCore ctx.service.image.entryPoint ctx.service.expectedCrc32.toNat packets c) c' := by
  unfold Ensures loadService
  rw [succeeds_bind_iff, prepares, succeeds_lift_iff]
  simp only [Except.ok.injEq, exists_eq_left']
  exact loadPackets_succeeds accepted (prepareServiceRamPackets_ok limits.positive prepares) limits
    kept idle

theorem fixedImmutable_ne : (0x013080 : UInt32) < 0x013088 := by decide

def fixedSymbols : TiMapSymbols where
  headerAddress := 0x013000
  publishStateAddress := 0x013020
  runtimeStateAddress := 0x013022
  appExportAddress := 0x013080
  immutableStart := 0x013080
  immutableEndExclusive := 0x013088
  bootInitAddress := 0x013082
  bootHandleCommandAddress := 0x013084
  confirmCurrentImageAddress := 0x013086
  immutable_ne := fixedImmutable_ne

theorem headerWords_ne : List.replicate 28 (0 : UInt16) ≠ [] := List.cons_ne_nil _ _

theorem exportWords_ne : [(0x3086 : UInt16), 0x0001] ≠ [] := List.cons_ne_nil _ _

theorem headerOrigin_le : 0x013000 ≤ 0xFFFFFFFF := by decide

theorem exportOrigin_le : 0x013080 ≤ 0xFFFFFFFF := by decide

def serviceHeaderBlock : FirmwareBlock := ⟨0x013000, List.replicate 28 0, headerOrigin_le, headerWords_ne⟩

/-- The address of `confirm_current_image`. -/
def exportBlock : FirmwareBlock := ⟨0x013080, [0x3086, 0x0001], exportOrigin_le, exportWords_ne⟩

theorem serviceEntry_le : 0x013082 ≤ 0xFFFFFFFF := by decide

theorem serviceBlocks_ne : [serviceHeaderBlock, exportBlock] ≠ [] := List.cons_ne_nil _ _

theorem serviceBlocks_apart : blocksOverlap [serviceHeaderBlock, exportBlock] = false := by
  apply blocksOverlap_of_pairwise
  constructor
  · intro block mem
    rw [List.mem_singleton.1 mem]
    decide
  · exact List.pairwise_singleton ..

/-- Room for a header and the application export. -/
def smallService : FirmwareImage where
  entryPoint := 0x013082
  blocks := [serviceHeaderBlock, exportBlock]
  entryPoint_le := serviceEntry_le
  blocks_ne := serviceBlocks_ne
  apart := serviceBlocks_apart

theorem smallService_checks : ServiceChecks fixedSymbols smallService where
  header := insideBlock_iff.2 ⟨serviceHeaderBlock, List.mem_cons_self, by decide, by decide⟩
  entries := by decide
  apart := by
    simp [mutableOverlap, mutableRanges, fixedSymbols, serviceHeaderWords,
      Intervals.neighboursOverlap, List.mergeSort]

theorem fixedSymbols_layout : FixedLayout fixedSymbols := ⟨rfl, rfl, rfl, rfl, rfl⟩

theorem smallService_exports : ExportsConfirm fixedSymbols smallService := by
  have mem : exportBlock ∈ smallService.blocks := List.mem_cons_of_mem _ (List.mem_singleton_self _)
  exact ⟨0x3086, 0x0001, ⟨exportBlock, mem, rfl⟩, ⟨exportBlock, mem, rfl⟩, by decide, by decide⟩

/-- A client that fills its packets. -/
def fullContext : OperationContext where
  maxPayloadWords := 256
  maxDataWords := 248
  flash := none
  ram := some Cpu1.ram
  polls _ := false
  transferPolls _ := false

end BootUpgrade.ServiceAttach

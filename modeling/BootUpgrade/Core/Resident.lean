import BootUpgrade.Core.CrcGate
import BootUpgrade.Core.Validation

/-!
# The resident service stays what was validated

While the service is active, RAM_LOAD_DATA writes none of the words its
validation has read, and the publish words say the same as `service_active`.
The guard of the RAM load covers a fixed interval; what an accepted header puts
behind it is the condition of the theorem.
-/

namespace BootUpgrade.BootAlgorithm

open BootFlashServiceLayout BootFlashServiceAbi

variable {σ : Type}

/-- A successful `BootAlgorithm_ValidateFlashService`. -/
structure Validates (ev : CoreEvent σ) : Prop where
  status : ev.output.status = BootStatus.ok
  input : ev.input = .restoreFlashService ∨
    ∃ request received, ev.input = .request request received ∧
      request.command = BootCmd.serviceAttach

/-- An accepted RAM_LOAD_DATA has written the word `a`. -/
def LoadWrites (ev : CoreEvent σ) (a : UInt32) : Prop :=
  ∃ request, Accepted BootCmd.ramLoadData request ev ∧ InBlock request a

/-- Since the last successful validation no RAM_LOAD_DATA has written a word of
the header or of the immutable range that was validated. -/
def Intact (h : List (CoreEvent σ)) : Prop :=
  ∃ past b recent, h = past ++ b :: recent ∧ Validates b ∧ ∀ ev ∈ recent,
    ¬ Validates ev ∧ ∀ a, ServiceWord b.before.world.memory a → ¬ LoadWrites ev a

/-- A block that is stored while the service is active does not reach what the
header puts behind the guarded interval. -/
def LoadsGuarded (ev : CoreEvent σ) : Prop :=
  ∀ request received, ev.input = .request request received →
    request.command = BootCmd.ramLoadData → LoadReady request ev.before.algorithm.ramLoad →
    ev.before.algorithm.serviceActive ≠ 0 → ∀ a, inImmutable ev.before.world.memory a →
    dataOrigin + dataLength ≤ a → ¬ InBlock request a

/-- The service in the view is the one of the last successful validation. -/
def Attached (code : ServiceCode σ) (h : List (CoreEvent σ)) (v : CoreView σ) : Prop :=
  ∃ past b recent, h = past ++ b :: recent ∧ Validates b ∧
    (∀ ev ∈ recent,
      ¬ Validates ev ∧ ∀ a, ServiceWord b.before.world.memory a → ¬ LoadWrites ev a) ∧
    (∀ a, ValidatedWord b.before.world.memory a →
      v.world.memory a = b.before.world.memory a) ∧
    HeaderAccepted b.before.world.memory ∧
    (validateFlashService code v.deviceInfo b.before.world).status = BootStatus.ok

structure ServiceInvariant (code : ServiceCode σ) (h : List (CoreEvent σ)) (v : CoreView σ) :
    Prop where
  published : Published v.world.memory ↔ v.serviceActive ≠ 0
  attached : v.serviceActive ≠ 0 → Attached code h v

theorem Attached.intact {code : ServiceCode σ} {h : List (CoreEvent σ)} {v : CoreView σ}
    (att : Attached code h v) : Intact h := by
  obtain ⟨past, b, recent, rfl, validates, quiet, -⟩ := att
  exact ⟨past, b, recent, rfl, validates, quiet⟩

theorem Attached.header {code : ServiceCode σ} {h : List (CoreEvent σ)} {v : CoreView σ}
    (att : Attached code h v) : HeaderAccepted v.world.memory := by
  obtain ⟨past, b, recent, -, -, -, agrees, header, -⟩ := att
  exact header.congr agrees

section
variable {code : ServiceCode σ} {h : List (CoreEvent σ)} {v v' : CoreView σ} {ev : CoreEvent σ}

/-- An event that neither validates nor writes a word of the service. -/
theorem Attached.passes (att : Attached code h v) (validates : ¬ Validates ev)
    (writes : ∀ a, ServiceWord v.world.memory a → ¬ LoadWrites ev a)
    (keeps : ∀ a, ValidatedWord v.world.memory a → v'.world.memory a = v.world.memory a)
    (same : v'.deviceInfo = v.deviceInfo) : Attached code (h ++ [ev]) v' := by
  obtain ⟨past, b, recent, rfl, validated, quiet, agrees, header, status⟩ := att
  refine ⟨past, b, recent ++ [ev], by simp, validated, ?_, ?_, header, ?_⟩
  · intro x hx
    rcases List.mem_append.1 hx with hx | hx
    · exact quiet x hx
    · rw [List.mem_singleton.1 hx]
      exact ⟨validates, fun a ha => writes a ((serviceWord_congr agrees a).2 ha)⟩
  · intro a ha
    rw [keeps a ((validatedWord_congr agrees a).2 ha), agrees a ha]
  · rw [same]
    exact status

/-- A request that is no accepted attach and no accepted DATA. -/
theorem quiet_request {request : BootProtocolFrame} {received : ReceiveResult}
    (input : ev.input = .request request received)
    (other : ev.output.status = BootStatus.ok →
      request.command ≠ BootCmd.serviceAttach ∧ request.command ≠ BootCmd.ramLoadData) :
    ¬ Validates ev ∧ ∀ a, ¬ LoadWrites ev a := by
  constructor
  · intro validates
    rcases validates.input with h | ⟨request', received', h, command⟩
    · rw [input] at h
      cases h
    · rw [input] at h
      cases h
      exact (other validates.status).1 command
  · rintro a ⟨request', accepted, -⟩
    obtain ⟨received', h⟩ := accepted.input
    rw [input] at h
    cases h
    exact (other accepted.status).2 accepted.command

/-- A request that changes neither the memory nor the service. -/
theorem ServiceInvariant.passes (inv : ServiceInvariant code h v)
    (quiet : ¬ Validates ev ∧ ∀ a, ¬ LoadWrites ev a) (world : v'.world = v.world)
    (active : v'.serviceActive = v.serviceActive) (same : v'.deviceInfo = v.deviceInfo) :
    ServiceInvariant code (h ++ [ev]) v' := by
  constructor
  · rw [world, active]
    exact inv.published
  · intro attached
    rw [active] at attached
    apply (inv.attached attached).passes quiet.1 (fun a _ => quiet.2 a) _ same
    intro a _
    rw [world]

/-- The service is taken out of use. -/
theorem serviceInvariant_invalid (inactive : v.serviceActive = 0)
    (invalid : ¬ Published v.world.memory) : ServiceInvariant code h v := by
  constructor
  · exact ⟨fun published => absurd published invalid, fun active => absurd inactive active⟩
  · intro active
    exact absurd inactive active

/-- A block outside the guarded interval. -/
theorem outside_guard {request : BootProtocolFrame} {ramLoad : BootTransferSession}
    (ready : LoadReady request ramLoad) (apart : overlaps request ≠ true) {a : UInt32}
    (origin : headerOrigin ≤ a) (inside : InBlock request a) : dataOrigin + dataLength ≤ a := by
  obtain ⟨nonempty, small, stop⟩ := BootRam.checkAddress_ok ready.writable
  obtain ⟨lo, hi⟩ := inside
  have start : headerOrigin.toNat = 0x013000 := rfl
  have last : (dataOrigin + dataLength).toNat = 0x016000 := rfl
  rw [UInt16.toNat_toUInt32] at nonempty stop
  rw [UInt32.le_iff_toNat_le, start] at origin
  rw [UInt32.le_iff_toNat_le, last]
  apply Nat.le_of_not_lt
  intro below
  apply apart
  have count : (request.word 2).toUInt32 ≠ 0 := by
    intro zero
    have := congrArg UInt32.toNat zero
    rw [UInt16.toNat_toUInt32, UInt32.toNat_zero] at this
    omega
  simp only [overlaps, rangeOverlapsFlashService, Bool.and_eq_true, decide_eq_true_eq, ne_eq,
    ge_iff_le, gt_iff_lt, UInt32.le_iff_toNat_le, UInt32.lt_iff_toNat_lt, stop, start, last]
  exact ⟨⟨⟨count, by omega⟩, by omega⟩, by omega⟩

theorem storeLoad_outside {request : BootProtocolFrame} {ramLoad : BootTransferSession}
    (ready : LoadReady request ramLoad) {w : CoreWorld σ} {a : UInt32}
    (outside : ¬ InBlock request a) : (storeLoad request w).memory a = w.memory a := by
  obtain ⟨nonempty, small, stop⟩ := BootRam.checkAddress_ok ready.writable
  have length : ((loadData request).take (request.word 2).toNat).length ≤ (request.word 2).toNat := by
    rw [List.length_take]
    omega
  rw [UInt16.toNat_toUInt32] at small
  unfold InBlock at outside
  apply BootRam.storeWords_outside
  · omega
  · omega

/-- An accepted block outside the guarded interval leaves the service words. -/
theorem ServiceInvariant.loads {request : BootProtocolFrame} {received : ReceiveResult}
    (inv : ServiceInvariant code h v) (before : ev.before.view = v)
    (input : ev.input = .request request received)
    (command : request.command = BootCmd.ramLoadData) (ready : LoadReady request v.ramLoad)
    (guarded : LoadsGuarded ev) (apart : overlaps request ≠ true)
    (world : v'.world = storeLoad request v.world) (active : v'.serviceActive = v.serviceActive)
    (same : v'.deviceInfo = v.deviceInfo) : ServiceInvariant code (h ++ [ev]) v' := by
  subst before
  have last : (dataOrigin + dataLength).toNat = 0x016000 := rfl
  have kept : ∀ a, headerOrigin ≤ a → a < dataOrigin + dataLength →
      v'.world.memory a = ev.before.world.memory a := by
    intro a lo hi
    rw [world]
    apply storeLoad_outside ready
    intro inside
    exact UInt32.not_le.2 hi (outside_guard ready apart lo inside)
  have publish : Published v'.world.memory ↔ Published ev.before.world.memory := by
    unfold Published
    rw [kept publishOrigin (by decide) (by decide), kept (publishOrigin + 1) (by decide) (by decide)]
  constructor
  · rw [publish, active]
    exact inv.published
  · intro attached
    rw [active] at attached
    have att := inv.attached attached
    have header : HeaderAccepted ev.before.world.memory := att.header
    have start : (immutableStart ev.before.world.memory).toNat = 0x013080 := by
      rw [header.start, header.appExport]
      rfl
    have avoids : ∀ a, ServiceWord ev.before.world.memory a → ¬ InBlock request a := by
      rintro a (⟨lo, hi⟩ | range) inside
      · have behind := outside_guard ready apart lo inside
        rw [UInt32.le_iff_toNat_le, last] at behind
        have stop : (headerOrigin + headerReservedWords).toNat = 0x013020 := rfl
        rw [UInt32.lt_iff_toNat_lt, stop] at hi
        omega
      · have lo := range.1
        rw [UInt32.le_iff_toNat_le, start] at lo
        have origin : headerOrigin ≤ a := by
          rw [UInt32.le_iff_toNat_le]
          exact Nat.le_trans (show headerOrigin.toNat ≤ 0x013080 by decide) lo
        have behind := outside_guard ready apart origin inside
        exact guarded request received input command ready attached a range behind inside
    refine att.passes ?_ ?_ ?_ same
    · intro validates
      rcases validates.input with h | ⟨request', received', h, attach⟩
      · rw [input] at h
        cases h
      · rw [input] at h
        cases h
        rw [command] at attach
        exact absurd attach (by decide)
    · rintro a ha ⟨request', accepted, inside⟩
      obtain ⟨received', h⟩ := accepted.input
      rw [input] at h
      cases h
      exact avoids a ha inside
    · rintro a (ha | rfl | rfl)
      · rw [world]
        exact storeLoad_outside ready (avoids a ha)
      · exact kept _ (by decide) (by decide)
      · exact kept _ (by decide) (by decide)

/-- A successful validation. -/
theorem serviceInvariant_validated (resident : Resident code) (before : ev.before.view = v)
    (validates : Validates ev)
    (valid : (validateFlashService code v.deviceInfo v.world).status = BootStatus.ok)
    (world : v'.world = (validateFlashService code v.deviceInfo v.world).world)
    (active : v'.serviceActive = 1) (same : v'.deviceInfo = v.deviceInfo) :
    ServiceInvariant code (h ++ [ev]) v' := by
  subst before
  obtain ⟨header, agrees, published⟩ := validate_ok resident valid
  constructor
  · rw [world, active]
    exact ⟨fun _ => by decide, fun _ => published⟩
  · intro _
    refine ⟨h, ev, [], rfl, validates, by simp, ?_, header, ?_⟩
    · intro a ha
      rw [world]
      exact agrees a ha
    · rw [same]
      exact valid

theorem ServiceInvariant.step (resident : Resident code) {request : BootProtocolFrame}
    {received : ReceiveResult} (inv : ServiceInvariant code h v) (before : ev.before.view = v)
    (input : ev.input = .request request received) (guarded : LoadsGuarded ev)
    (step : Step code request v ev.output.status v') : ServiceInvariant code (h ++ [ev]) v' := by
  generalize hs : ev.output.status = status at step
  have refusal : status ≠ BootStatus.ok → ¬ Validates ev ∧ ∀ a, ¬ LoadWrites ev a :=
    fun refused => quiet_request input fun ok => absurd (hs.symm.trans ok) refused
  cases step with
  | untouched passive run =>
    have quiet : ¬ Validates ev ∧ ∀ a, ¬ LoadWrites ev a := by
      apply quiet_request input
      intro ok
      have other := passive (hs.symm.trans ok)
      exact ⟨fun h => other (.inr (.inr (.inr (.inr h)))), fun h => other (.inr (.inl h))⟩
    exact inv.passes quiet rfl rfl rfl
  | aborted refused => exact inv.passes (refusal refused) rfl rfl rfl
  | begun command =>
    have quiet : ¬ Validates ev ∧ ∀ a, ¬ LoadWrites ev a := by
      apply quiet_request input
      intro _
      rw [command]
      decide
    exact inv.passes quiet rfl rfl rfl
  | loaded command ready =>
    by_cases within : overlaps request = true
    · apply serviceInvariant_invalid
      · simp only [loadedView, if_pos within]
        rfl
      · simp only [loadedView, if_pos within]
        exact not_published invalidatePublishState_valid
    · apply inv.loads before input command ready guarded within
      · simp only [loadedView, if_neg within]
      · simp only [loadedView, if_neg within]
      · simp only [loadedView, if_neg within]
  | loadFailed refused =>
    apply serviceInvariant_invalid rfl
    exact not_published invalidatePublishState_valid
  | ended command =>
    have quiet : ¬ Validates ev ∧ ∀ a, ¬ LoadWrites ev a := by
      apply quiet_request input
      intro _
      rw [command]
      decide
    exact inv.passes quiet rfl rfl rfl
  | mismatched refused => exact inv.passes (refusal refused) rfl rfl rfl
  | checked command =>
    have quiet : ¬ Validates ev ∧ ∀ a, ¬ LoadWrites ev a := by
      apply quiet_request input
      intro _
      rw [command]
      decide
    exact inv.passes quiet rfl rfl rfl
  | attached command ready checked valid =>
    exact serviceInvariant_validated resident before
      ⟨hs, .inr ⟨request, received, input, command⟩⟩ valid rfl rfl rfl
  | attachFailed refused invalid =>
    by_cases active : v.serviceActive = 0
    · exact serviceInvariant_invalid active (validate_refused resident invalid)
    · -- an active service would have been accepted again
      obtain ⟨past, b, recent, -, -, -, agrees, -, status⟩ := inv.attached active
      exact absurd (validate_again resident status agrees) invalid
  | forwarded command attached active =>
    rename_i handler
    have quiet : ¬ Validates ev ∧ ∀ a, ¬ LoadWrites ev a := by
      apply quiet_request input
      intro _
      constructor
      · intro h
        rw [h] at command
        exact absurd command (by decide)
      · intro h
        rw [h] at command
        exact absurd command (by decide)
    have kept := fun a => resident.handleCommand handler request v.world a
    constructor
    · have publish : Published (code.handleCommand handler request v.world).world.memory ↔
          Published v.world.memory := by
        unfold Published
        rw [kept _ (.inr (.inl rfl)), kept _ (.inr (.inr rfl))]
      rw [publish]
      exact inv.published
    · intro _
      exact (inv.attached active).passes quiet.1 (fun a _ => quiet.2 a)
        (fun a ha => kept a (.inl ha)) rfl

end

theorem restoreFlashService_ok {code : ServiceCode σ} {c : Core σ}
    (valid : (validateFlashService code c.algorithm.deviceInfo c.world).status = BootStatus.ok) :
    restoreFlashService code c = (BootStatus.ok,
      attachService (validateFlashService code c.algorithm.deviceInfo c.world).commandHandler
        { c with world := (validateFlashService code c.algorithm.deviceInfo c.world).world }) := by
  unfold restoreFlashService
  dsimp only
  rw [if_neg (not_not_intro valid)]

/-- A restore leaves the service of a successful validation or none. -/
theorem serviceInvariant_restored (features : BootFeatures) {code : ServiceCode σ}
    (resident : Resident code) (h : List (CoreEvent σ)) (c : Core σ) :
    ServiceInvariant code (h ++ [(coreMachine features code).event c .restoreFlashService])
      (restoreFlashService code c).2.view := by
  by_cases valid : (validateFlashService code c.algorithm.deviceInfo c.world).status = BootStatus.ok
  · have restored := restoreFlashService_ok valid
    have status : (restoreFlashService code c).1 = BootStatus.ok := by rw [restored]
    have validates : Validates ((coreMachine features code).event c .restoreFlashService) :=
      ⟨status, .inl rfl⟩
    rw [restored]
    exact serviceInvariant_validated resident rfl validates valid rfl rfl rfl
  · have restored : (restoreFlashService code c).2 = invalidateFlashService
        { c with world := (validateFlashService code c.algorithm.deviceInfo c.world).world } := by
      unfold restoreFlashService
      dsimp only
      rw [if_pos valid]
    rw [restored]
    exact serviceInvariant_invalid rfl (not_published invalidatePublishState_valid)

/-! ## Every run -/

theorem ServiceInvariant.event (features : BootFeatures) {code : ServiceCode σ}
    (resident : Resident code) {h : List (CoreEvent σ)} {c : Core σ} (input : CoreInput)
    (inv : ServiceInvariant code h c.view)
    (guarded : LoadsGuarded ((coreMachine features code).event c input)) :
    ServiceInvariant code (h ++ [(coreMachine features code).event c input])
      ((coreMachine features code).step c input).2.view := by
  cases input with
  | request request received =>
    exact inv.step resident rfl rfl guarded (processOne_step features received)
  | restoreFlashService => exact serviceInvariant_restored features resident h c

/-- The publish words are not VALID at Init, or the caller restores the service
before it handles a request. -/
theorem serviceInvariant_run (features : BootFeatures) {code : ServiceCode σ}
    (resident : Resident code) {c₀ : Core σ} (inactive : c₀.algorithm.serviceActive = 0)
    {inputs : List CoreInput}
    (restored : Published c₀.world.memory → ∃ rest, inputs = .restoreFlashService :: rest)
    (guarded : ∀ ev ∈ (coreMachine features code).history c₀ inputs, LoadsGuarded ev) :
    ServiceInvariant code ((coreMachine features code).history c₀ inputs)
      ((coreMachine features code).run c₀ inputs).view := by
  have next := fun h c input inv => ServiceInvariant.event (h := h) (c := c) features resident input inv
  by_cases published : Published c₀.world.memory
  · obtain ⟨rest, rfl⟩ := restored published
    have first := serviceInvariant_restored features resident [] c₀
    exact (coreMachine features code).extend_induction_of LoadsGuarded
      (fun h c => ServiceInvariant code h c.view) next rest _ _ first
      fun ev hev => guarded ev (List.mem_cons_of_mem _ hev)
  · exact (coreMachine features code).history_induction_of c₀ LoadsGuarded
      (fun h c => ServiceInvariant code h c.view) (serviceInvariant_invalid inactive published)
      next inputs guarded

/-- A header whose immutable range goes on to `0x016008`, behind the guarded interval. -/
def longHeader (imageCrc headerCrc : UInt32) : List UInt16 :=
  [lowWord headerMagic, highWord headerMagic, headerVersion, headerWords, abiMajor, abiMinor,
    0x3080, 1, 0x6008, 1, 0x3020, 1, 0x3022, 1, 0x3080, 1, 0x3084, 1, 0x3086, 1, 0x0F, 0,
    crc32Ieee, 0, lowWord imageCrc, highWord imageCrc, lowWord headerCrc, highWord headerCrc]

/-- The header and the application export; the other words are zero. -/
def longService (imageCrc headerCrc : UInt32) : CoreMemory := fun a =>
  if (a - headerOrigin).toNat < 28 then
    (longHeader imageCrc headerCrc).getD (a - headerOrigin).toNat 0
  else if a = appExportOrigin then 0x3082
  else if a = appExportOrigin + 1 then 1
  else 0

/-- Both checksums of the image as the image builder computes them. -/
def longImage : CoreMemory :=
  let imageCrc := BootCrc32.calcWords (immutableWords (longService 0 0))
  let headerCrc := BootCrc32.calcWords ((longHeader imageCrc 0).take 26)
  longService imageCrc headerCrc

theorem longService_word (imageCrc headerCrc : UInt32) {i : Nat} (hi : i < 28) :
    headerWord (longService imageCrc headerCrc) i = (longHeader imageCrc headerCrc).getD i 0 := by
  have offset : (headerOrigin + UInt32.ofNat i - headerOrigin).toNat = i := by
    rw [UInt32.add_comm, UInt32.add_sub_cancel]
    exact UInt32.toNat_ofNat_of_lt' (by simp only [UInt32.size]; omega)
  show longService imageCrc headerCrc (headerOrigin + UInt32.ofNat i) = _
  unfold longService
  rw [offset, if_pos hi]

theorem longService_u32 (imageCrc headerCrc : UInt32) {i : Nat} (hi : i < 27) :
    headerU32 (longService imageCrc headerCrc) i =
      joinU32 ((longHeader imageCrc headerCrc).getD i 0)
        ((longHeader imageCrc headerCrc).getD (i + 1) 0) := by
  rw [headerU32, longService_word imageCrc headerCrc (by omega),
    longService_word imageCrc headerCrc (by omega)]

section
variable (imageCrc headerCrc : UInt32)

theorem longService_start : immutableStart (longService imageCrc headerCrc) = 0x013080 :=
  (longService_u32 imageCrc headerCrc (by decide)).trans (by decide : joinU32 0x3080 1 = _)

theorem longService_end : immutableEnd (longService imageCrc headerCrc) = 0x016008 :=
  (longService_u32 imageCrc headerCrc (by decide)).trans (by decide : joinU32 0x6008 1 = _)

theorem longService_appExport :
    appExportAddress (longService imageCrc headerCrc) = appExportOrigin :=
  (longService_u32 imageCrc headerCrc (by decide)).trans (by decide : joinU32 0x3080 1 = _)

theorem longService_bootInit : bootInitAddress (longService imageCrc headerCrc) = 0x013084 :=
  (longService_u32 imageCrc headerCrc (by decide)).trans (by decide : joinU32 0x3084 1 = _)

theorem longService_command : commandAddress (longService imageCrc headerCrc) = 0x013086 :=
  (longService_u32 imageCrc headerCrc (by decide)).trans (by decide : joinU32 0x3086 1 = _)

theorem longService_confirm : confirmAddress (longService imageCrc headerCrc) = 0x013082 := by
  unfold confirmAddress
  rw [longService_appExport]
  exact (by decide : joinU32 0x3082 1 = 0x013082)

theorem longService_immutableWords :
    immutableWords (longService imageCrc headerCrc) = immutableWords (longService 0 0) := by
  unfold immutableWords
  rw [longService_start, longService_end, longService_start, longService_end]
  apply List.map_congr_left
  intro k hk
  have hk : k < 12168 := List.mem_range.1 hk
  have offset : (UInt32.ofNat k).toNat = k := UInt32.toNat_ofNat_of_lt' (by
    simp only [UInt32.size]; omega)
  have outside : ¬ (0x013080 + UInt32.ofNat k - headerOrigin).toNat < 28 := by
    have origin : headerOrigin.toNat = 0x013000 := rfl
    have start : (0x013080 : UInt32).toNat = 0x013080 := rfl
    have sum : (0x013080 + UInt32.ofNat k : UInt32).toNat = 0x013080 + k := by
      rw [Words.toNat_add_of_lt (by omega), offset, start]
    rw [UInt32.toNat_sub_of_le _ _ (UInt32.le_iff_toNat_le.2 (by omega))]
    omega
  unfold longService
  rw [if_neg outside, if_neg outside]

end

theorem longImage_accepted : HeaderAccepted longImage := by
  unfold longImage
  dsimp only
  generalize image : BootCrc32.calcWords (immutableWords (longService 0 0)) = imageCrc
  generalize header : BootCrc32.calcWords ((longHeader imageCrc 0).take 26) = headerCrc
  have u32 := fun {i} (hi : i < 27) => longService_u32 imageCrc headerCrc hi
  have fields : (List.range 26).map (headerWord (longService imageCrc headerCrc)) =
      (longHeader imageCrc 0).take 26 := rfl
  constructor
  · rw [u32 (by decide)]
    exact Words.joinU32_lowWord_highWord headerMagic
  · rfl
  · rfl
  · rw [fields, header, u32 (by decide)]
    exact (Words.joinU32_lowWord_highWord headerCrc).symm
  · rfl
  · exact UInt16.le_refl _
  · rfl
  · exact (u32 (by decide)).trans (by decide : joinU32 0x3020 1 = _)
  · exact (u32 (by decide)).trans (by decide : joinU32 0x3022 1 = _)
  · exact longService_appExport imageCrc headerCrc
  · rw [longService_start, longService_appExport]
    rfl
  · rw [longService_start]
    decide
  · rw [longService_start, longService_end]
    decide
  · rw [longService_start, longService_end]
    decide
  · unfold inImmutable
    rw [longService_bootInit, longService_start, longService_end]
    decide
  · unfold inImmutable
    rw [longService_command, longService_start, longService_end]
    decide
  · unfold inImmutable
    rw [longService_confirm, longService_start, longService_end]
    decide
  · rw [u32 (by decide)]
    exact (by decide : joinU32 0x0F 0 &&& requiredCapabilities = requiredCapabilities)
  · rw [longService_immutableWords, image, u32 (by decide)]
    exact (Words.joinU32_lowWord_highWord imageCrc).symm
  · rw [longService_bootInit, longService_command]
    decide

theorem idleService_resident : Resident idleService := by
  constructor
  · intros
    rfl
  · intros
    rfl
  · intros
    rfl

/-- What Init leaves. -/
def startCore (memory : CoreMemory) : Core Unit where
  algorithm := {
    deviceInfo := cpu1Info
    lastError := .clear
    ramLoad := .reset
    serviceCommandHandler := none
    serviceActive := 0
    serviceState := ⟨stateDetached, BootStatus.ok, 0, 0, 0⟩
    pendingEntryPoint := 0 }
  world := ⟨memory, ()⟩

theorem startCore_init (memory : CoreMemory) :
    init cpu1Info ⟨memory, ()⟩ = some (startCore memory) := if_neg (by decide)

/-- A load of one word at `0x016000`. -/
def behindBegin : BootProtocolFrame :=
  .ofWords BootCmd.ramLoadBegin 1 [BootTarget.ramApp, 1, 1, 0, 0x6000, 1, 0, 0, 0]

def behindData : BootProtocolFrame :=
  .ofWords BootCmd.ramLoadData 2 [0x6000, 1, 1, 0, 0, 0x1234]

section
variable (features : BootFeatures) {c : Core Unit}

theorem behindBegin_accepted (idle : c.algorithm.ramLoad.active = 0) :
    processOne behindBegin features idleService .ok c =
      sendStatus behindBegin BootStatus.ok
        { c with algorithm.ramLoad := begunLoad behindBegin } := by
  rw [processOne_dispatch ⟨rfl, rfl, rfl⟩, dispatch_ramLoadBegin rfl]
  exact handleRamLoadBegin_ok idle (by decide) (by decide +kernel) (by decide +kernel)
    (by decide +kernel)

theorem behindData_accepted (begun : c.algorithm.ramLoad = begunLoad behindBegin) :
    (processOne behindData features idleService .ok c).response.status = BootStatus.ok ∧
      (processOne behindData features idleService .ok c).core.algorithm.serviceActive =
        c.algorithm.serviceActive := by
  have ready : LoadReady behindData c.algorithm.ramLoad := by
    rw [begun]
    constructor <;> decide +kernel
  rw [processOne_dispatch ⟨rfl, rfl, rfl⟩, dispatch_ramLoadData rfl,
    handleRamLoadData_ready ready, receivePacket_apart (by decide +kernel)]
  exact ⟨rfl, rfl⟩

end

section
variable {memory : CoreMemory}

theorem HeaderAccepted.valid (accepted : HeaderAccepted memory) :
    (validateFlashService idleService (startCore memory).algorithm.deviceInfo
      (startCore memory).world).status = BootStatus.ok := by
  rcases validate_cases idleService (startCore memory).algorithm.deviceInfo (startCore memory).world
    with ⟨ok, -⟩ | ⟨-, -, refused⟩
  · exact ok
  · refine absurd ⟨?_, rfl⟩ refused
    apply accepted.congr
    intro a ha
    exact invalidatePublishState_other (accepted.apart ha)

theorem HeaderAccepted.restores (accepted : HeaderAccepted memory) :
    (restoreFlashService idleService (startCore memory)).1 = BootStatus.ok ∧
      (restoreFlashService idleService (startCore memory)).2.algorithm.ramLoad = .reset ∧
      (restoreFlashService idleService (startCore memory)).2.algorithm.serviceActive = 1 := by
  rw [restoreFlashService_ok accepted.valid]
  exact ⟨rfl, rfl, rfl⟩

def behindInputs : List CoreInput :=
  [.restoreFlashService, .request behindBegin .ok, .request behindData .ok]

/-- Once the image is attached, the load writes one of its words. -/
theorem HeaderAccepted.overwritten (accepted : HeaderAccepted memory)
    (behind : inImmutable memory 0x016000) (features : BootFeatures) :
    ((coreMachine features idleService).run (startCore memory) behindInputs).algorithm.serviceActive
        ≠ 0 ∧
      ¬ Intact ((coreMachine features idleService).history (startCore memory) behindInputs) := by
  obtain ⟨-, idle, active⟩ := accepted.restores
  generalize attached : (restoreFlashService idleService (startCore memory)).2 = c₁ at idle active
  have begun := behindBegin_accepted features (c := c₁) (by rw [idle]; rfl)
  generalize hc₂ : (processOne behindBegin features idleService .ok c₁).core = c₂
  have load : c₂.algorithm.ramLoad = begunLoad behindBegin := by rw [← hc₂, begun]; rfl
  have kept : c₂.algorithm.serviceActive = c₁.algorithm.serviceActive := by rw [← hc₂, begun]; rfl
  obtain ⟨status, same⟩ := behindData_accepted features load
  have restored : ((coreMachine features idleService).step (startCore memory)
      .restoreFlashService).2 = c₁ := attached
  have opened : ((coreMachine features idleService).step c₁ (.request behindBegin .ok)).2 = c₂ := hc₂
  have loaded : ((coreMachine features idleService).step c₂ (.request behindData .ok)).2 =
      (processOne behindData features idleService .ok c₂).core := rfl
  constructor
  · simp only [behindInputs, Runs.Machine.run, restored, opened]
    rw [loaded, same, kept, active]
    decide
  · simp only [behindInputs, Runs.Machine.history, restored, opened]
    rintro ⟨past, b, recent, split, validates, quiet⟩
    have attaches : ∀ request, b.input = .request request .ok →
        request.command ≠ BootCmd.serviceAttach → False := by
      intro request input other
      rcases validates.input with h | ⟨request', received, h, command⟩
      · rw [input] at h
        cases h
      · rw [input] at h
        cases h
        exact other command
    rcases past with _ | ⟨_, _ | ⟨_, _ | ⟨_, past⟩⟩⟩
    · -- the restore is the last validation, and the DATA comes after it
      simp only [List.nil_append, List.cons.injEq] at split
      obtain ⟨rfl, rfl⟩ := split
      apply (quiet _ (.tail _ (.head _))).2 0x016000 (.inr behind)
      exact ⟨behindData, ⟨⟨.ok, rfl⟩, rfl, status⟩, by unfold InBlock; decide +kernel⟩
    · simp only [List.cons_append, List.nil_append, List.cons.injEq] at split
      exact attaches behindBegin (by rw [← split.2.1]; rfl) (by decide)
    · simp only [List.cons_append, List.nil_append, List.cons.injEq] at split
      exact attaches behindData (by rw [← split.2.2.1]; rfl) (by decide)
    · simp at split

end

theorem longImage_behind : inImmutable longImage 0x016000 := by
  show immutableStart longImage ≤ _ ∧ _ < immutableEnd longImage
  unfold longImage
  rw [longService_start, longService_end]
  decide

end BootUpgrade.BootAlgorithm

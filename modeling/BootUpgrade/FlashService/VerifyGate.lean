import BootUpgrade.FlashService.Machine

/-!
# The verify gate

`verify_succeeded` should mean that the application words are as they were
compared. It does in every run in which a call that fails has left the words
alone: the handlers clear the flag after an erase or a program that succeeds,
not after one that fails.
-/

namespace BootUpgrade

/-- `EraseBySectorMask` and `ProgramBlock`, the calls that may change the application. -/
def PortCall.Modifies : PortCall → Prop
  | .eraseBySectorMask _ | .programBlock .. => True
  | _ => False

instance : DecidablePred PortCall.Modifies
  | .init | .programMetadataRecord .. | .verifyBlock .. => isFalse id
  | .eraseBySectorMask _ | .programBlock .. => isTrue trivial

namespace BootFlashService

variable {σ : Type} (port : FlashPort σ)

/-- The call has changed a word of the application range. -/
def ChangesApp (c : LoggedCall σ) : Prop :=
  ∃ a, BootMetadata.slotAAppStart ≤ a ∧ a < BootMetadata.slotAAppEnd ∧
    port.readWord c.after a ≠ port.readWord c.before a

/-- No erase and no block program of the event has changed the application. -/
def Quiet (ev : ServiceEvent σ) : Prop :=
  ∀ c ∈ ev.output.calls, c.call.Modifies → ¬ ChangesApp port c

/-- An accepted request with the given command. -/
def Accepted (command : UInt16) (ev : ServiceEvent σ) : Prop :=
  ev.output.status = BootStatus.ok ∧
    ∃ request, ev.input = .command request ∧ request.command = command

/-- Since an accepted VERIFY_BEGIN its session has been open, and the
application has not been changed. -/
def VerifyOpen (h : List (ServiceEvent σ)) : Prop :=
  Runs.Since (fun _ b => Accepted BootCmd.verifyBegin b ∧ Quiet port b)
    (fun ev => ev.after.runtime.session.operation = .verify ∧ Quiet port ev) h

/-- Since the VERIFY_BEGIN of the session whose VERIFY_END set the flag the
application has not been changed, and the flag has been set since that end. -/
def VerifiedSince (h : List (ServiceEvent σ)) : Prop :=
  Runs.Since
    (fun past e => Accepted BootCmd.verifyEnd e ∧ Quiet port e ∧ VerifyOpen port past)
    (fun ev => ev.after.runtime.verifySucceeded ≠ 0 ∧ Quiet port ev) h

/-- A call of the event that fails after it has changed the application finds
the gate closed and no verify session open. -/
def FailsHarmlessly (ev : ServiceEvent σ) : Prop :=
  ∀ c ∈ ev.output.calls, c.call.Modifies → c.result ≠ BootFlashResult.ok →
    ChangesApp port c →
    ev.before.runtime.verifySucceeded = 0 ∧ ev.before.runtime.session.operation ≠ .verify

/-! ## What an event does to the gate -/

/-- The event opens neither the gate nor a verify session. -/
def Lowers (ev : ServiceEvent σ) : Prop :=
  (ev.after.runtime.session.operation = .verify →
    ev.before.runtime.session.operation = .verify) ∧
  (ev.after.runtime.verifySucceeded ≠ 0 → ev.before.runtime.verifySucceeded ≠ 0)

inductive GateStep (ev : ServiceEvent σ) : Prop
  | idle (quiet : Quiet port ev) (lowers : Lowers ev)
  | failed (lowers : Lowers ev)
      (failing : ∀ c ∈ ev.output.calls, c.call.Modifies → c.result ≠ BootFlashResult.ok)
  | closed (session : ev.after.runtime.session.operation ≠ .verify)
      (flag : ev.after.runtime.verifySucceeded = 0)
  | begun (quiet : Quiet port ev) (accepted : Accepted BootCmd.verifyBegin ev)
      (flag : ev.after.runtime.verifySucceeded = ev.before.runtime.verifySucceeded)
  | ended (quiet : Quiet port ev) (accepted : Accepted BootCmd.verifyEnd ev)
      (before : ev.before.runtime.session.operation = .verify)
      (after : ev.after.runtime.session.operation ≠ .verify)

variable {port}

theorem Prepared.calls {s : FlashService σ} {s₁ : FlashService (Logged σ)}
    (h : Prepared port.logged (watched s) s₁) : ∀ c ∈ s₁.world.calls, c.call = .init := by
  obtain rfl | ⟨-, flag, rfl⟩ := h
  · intro c hc; cases hc
  · intro c hc
    obtain rfl : c = _ := by simpa [FlashPort.logged, Logged.record, watched] using hc
    rfl

section
variable {request : BootProtocolFrame} {s : FlashService σ} {s₁ s' : FlashService (Logged σ)}
  {input : ServiceInput} {status : UInt16} {error : BootErrorDetail}

/-- Neither Flash initialization nor a call that modifies nothing disturbs. -/
theorem quiet_append (prepared : Prepared port.logged (watched s) s₁) {c : LoggedCall σ}
    (hc : ¬ c.call.Modifies) (calls : s'.world.calls = s₁.world.calls ++ [c]) :
    Quiet port (eventOf s input status error s') := by
  intro d hd modifies
  simp only [eventOf, calls, List.mem_append, List.mem_singleton] at hd
  rcases hd with hd | rfl
  · rw [prepared.calls d hd] at modifies
    exact modifies.elim
  · exact absurd modifies hc

theorem quiet_prepared (prepared : Prepared port.logged (watched s) s₁)
    (calls : s'.world.calls = s₁.world.calls) :
    Quiet port (eventOf s input status error s') := by
  intro d hd modifies
  simp only [eventOf, calls] at hd
  rw [prepared.calls d hd] at modifies
  exact modifies.elim

/-- A failing call is the only one of its event that modifies anything. -/
theorem failing_append (prepared : Prepared port.logged (watched s) s₁) {c : LoggedCall σ}
    (hc : c.result ≠ BootFlashResult.ok) (calls : s'.world.calls = s₁.world.calls ++ [c]) :
    ∀ d ∈ (eventOf s input status error s').output.calls, d.call.Modifies →
      d.result ≠ BootFlashResult.ok := by
  intro d hd modifies
  simp only [eventOf, calls, List.mem_append, List.mem_singleton] at hd
  rcases hd with hd | rfl
  · rw [prepared.calls d hd] at modifies
    exact modifies.elim
  · exact hc

theorem reset_ne_verify : BootFlashServiceSession.reset.operation ≠ .verify := by decide

theorem lowers_of_runtime (session : s'.runtime.session = s.runtime.session ∨
    s'.runtime.session.operation ≠ .verify)
    (flag : s'.runtime.verifySucceeded = s.runtime.verifySucceeded ∨
      s'.runtime.verifySucceeded = 0) :
    Lowers (eventOf s input status error s') := by
  constructor
  · intro h
    rcases session with hs | hs
    · simpa [eventOf, unwatched, hs] using h
    · exact absurd h hs
  · intro h
    rcases flag with hf | hf
    · simpa [eventOf, unwatched, hf] using h
    · exact absurd hf h

theorem gateStep_of_append {asked : Option BootProtocolFrame}
    (h : AppendStep port.logged asked (watched s) status s') :
    GateStep port (eventOf s input status error s') := by
  cases h with
  | untouched => exact .idle (quiet_prepared (.inl rfl) rfl) (lowers_of_runtime (.inl rfl) (.inl rfl))
  | unprepared _ prepared =>
    exact .idle (quiet_prepared prepared rfl)
      (lowers_of_runtime (.inl prepared.session) (.inl prepared.verifySucceeded))
  | written appends slot prepared =>
    exact .idle (quiet_append prepared (by exact id) rfl)
      (lowers_of_runtime (.inl prepared.session) (.inl prepared.verifySucceeded))
  | imageWritten appends slot prepared programmed =>
    exact .idle (quiet_append prepared (by exact id) rfl)
      (lowers_of_runtime (.inl prepared.session) (.inr rfl))

theorem gateStep_of_step (h : Step port.logged request (watched s) status s') :
    GateStep port (eventOf s (.command request) status error s') := by
  cases h with
  | refused refused =>
    exact .idle (quiet_prepared (.inl rfl) rfl) (lowers_of_runtime (.inl rfl) (.inl rfl))
  | unprepared refused prepared =>
    exact .idle (quiet_prepared prepared rfl)
      (lowers_of_runtime (.inl prepared.session) (.inl prepared.verifySucceeded))
  | aborted refused =>
    exact .idle (quiet_prepared (.inl rfl) rfl) (lowers_of_runtime (.inr reset_ne_verify) (.inl rfl))
  | erased command mask prepared done => exact .closed reset_ne_verify rfl
  | eraseFailed command refused mask prepared failed =>
    refine .failed (lowers_of_runtime (.inl prepared.session) (.inl prepared.verifySucceeded)) ?_
    exact failing_append prepared failed rfl
  | @begun s₁ operation command operation_ne idle length packets words prepared =>
    have quiet : Quiet port (eventOf s (.command request) BootStatus.ok error
        { s₁ with runtime.session := begunSession request operation }) :=
      quiet_prepared prepared rfl
    cases operation with
    | none => exact absurd rfl operation_ne
    | program =>
      exact .idle quiet (lowers_of_runtime (.inr (by simp [begunSession]))
        (.inl prepared.verifySucceeded))
    | verify => exact .begun quiet ⟨rfl, request, rfl, by simpa using command⟩ prepared.verifySucceeded
  | programmed command ready done =>
    have session : s.runtime.session.operation = .program := ready.session
    refine .closed ?_ rfl
    show s.runtime.session.operation ≠ .verify
    rw [session]
    decide
  | programFailed command refused ready failed =>
    refine .failed (lowers_of_runtime (.inr reset_ne_verify) (.inl rfl)) ?_
    exact failing_append (Prepared.refl port.logged (watched s)) failed rfl
  | verified command ready done =>
    refine .idle (quiet_append (.inl rfl) (by exact id) rfl) ⟨fun h => h, fun h => h⟩
  | verifyFailed command refused ready =>
    exact .idle (quiet_append (.inl rfl) (by exact id) rfl)
      (lowers_of_runtime (.inr reset_ne_verify) (.inl rfl))
  | ended operation command operation_ne session counts =>
    cases operation with
    | none => exact absurd rfl operation_ne
    | program =>
      exact .idle (quiet_prepared (.inl rfl) rfl)
        (lowers_of_runtime (.inr reset_ne_verify) (.inl rfl))
    | verify =>
      exact .ended (quiet_prepared (.inl rfl) rfl) ⟨rfl, request, rfl, by simpa using command⟩ session
        reset_ne_verify
  | append command append => exact gateStep_of_append append

end

theorem gateStep_event (s : FlashService σ) (input : ServiceInput) :
    GateStep port ((serviceMachine port).event s input) := by
  cases input with
  | bootInit deviceId cpuId maxDataWords =>
    have cleared := bootInit_closed deviceId cpuId maxDataWords s
    refine .closed ?_ cleared.2
    show (bootInit deviceId cpuId maxDataWords s).2.runtime.session.operation ≠ .verify
    rw [cleared.1]
    exact reset_ne_verify
  | command request => exact gateStep_of_step (bootHandleCommand_step 0 .clear)
  | confirmCurrentImage => exact gateStep_of_append (confirmJournal_step : AppendStep _ none _ _ _)

/-! ## The gate over a run -/

/-- What the history says about the flag and the open session. -/
structure GateInvariant (port : FlashPort σ) (h : List (ServiceEvent σ)) (s : FlashService σ) :
    Prop where
  session : s.runtime.session.operation = .verify → VerifyOpen port h
  flag : s.runtime.verifySucceeded ≠ 0 → VerifiedSince port h

theorem gateInvariant_step {h : List (ServiceEvent σ)} {ev : ServiceEvent σ}
    (inv : GateInvariant port h ev.before) (step : GateStep port ev)
    (harmless : FailsHarmlessly port ev) : GateInvariant port (h ++ [ev]) ev.after := by
  have lasts : Lowers ev → Quiet port ev → GateInvariant port (h ++ [ev]) ev.after :=
    fun lowers quiet => {
      session := fun hv => (inv.session (lowers.1 hv)).lasts ⟨hv, quiet⟩
      flag := fun hf => (inv.flag (lowers.2 hf)).lasts ⟨hf, quiet⟩ }
  cases step with
  | idle quiet lowers => exact lasts lowers quiet
  | failed lowers failing =>
    by_cases quiet : Quiet port ev
    · exact lasts lowers quiet
    · -- the failed call has changed the application, so neither claim is made
      simp only [Quiet, Classical.not_forall, Classical.not_not] at quiet
      obtain ⟨c, hc, modifies, changes⟩ := quiet
      obtain ⟨flag, session⟩ := harmless c hc modifies (failing c hc modifies) changes
      exact ⟨fun hv => absurd (lowers.1 hv) session, fun hf => absurd flag (lowers.2 hf)⟩
  | closed session flag => exact ⟨fun hv => absurd hv session, fun hf => absurd flag hf⟩
  | begun quiet accepted flag =>
    refine ⟨fun _ => .starts ⟨accepted, quiet⟩, fun hf => ?_⟩
    exact (inv.flag (flag ▸ hf)).lasts ⟨hf, quiet⟩
  | ended quiet accepted before after =>
    exact ⟨fun hv => absurd hv after, fun _ => .starts ⟨accepted, quiet, inv.session before⟩⟩

/-- In every run from `BootInit` in which failing calls are harmless, a set
flag, and an accepted IMAGE_VALID record, mean that the application is as it
was when the verify session began. -/
theorem verify_gate (port : FlashPort σ) (deviceId cpuId maxDataWords : UInt16)
    (s₀ : FlashService σ) (inputs : List ServiceInput)
    (harmless : ∀ ev ∈ (serviceMachine port).history (bootInit deviceId cpuId maxDataWords s₀).2
      inputs, FailsHarmlessly port ev) :
    let m := serviceMachine port
    let start := (bootInit deviceId cpuId maxDataWords s₀).2
    ((m.run start inputs).runtime.verifySucceeded ≠ 0 →
      VerifiedSince port (m.history start inputs)) ∧
    ∀ request, request.command = BootCmd.metadataAppendRecord →
      request.word 0 = BootMetadata.recordImageValid →
      (m.step (m.run start inputs) (.command request)).1.status = BootStatus.ok →
      VerifiedSince port (m.history start inputs) := by
  intro m start
  have inv : GateInvariant port (m.history start inputs) (m.run start inputs) := by
    refine m.history_induction_of _ (FailsHarmlessly port) (GateInvariant port) ?_ ?_ inputs harmless
    · obtain ⟨session, flag⟩ := bootInit_closed deviceId cpuId maxDataWords s₀
      refine ⟨fun h => absurd h ?_, fun h => absurd flag h⟩
      rw [session]
      exact reset_ne_verify
    · intro h s input inv harmless
      exact gateInvariant_step inv (gateStep_event s input) harmless
  refine ⟨inv.flag, fun request command kind accepted => ?_⟩
  have accepted := bootHandleCommand_imageValid command kind accepted
  exact inv.flag accepted.gate

/-! ## The gate after a failed erase -/

/-- Words from an address on, in plain Flash words. -/
def storeWords (m : UInt32 → UInt16) (address : UInt32) (data : List UInt16) : UInt32 → UInt16 :=
  fun a =>
    if address ≤ a ∧ (a - address).toNat < data.length then data.getD (a - address).toNat 0
    else m a

/-- Plain Flash words. Programming stores the words; an erase clears the start
of the application and then reports a failure. -/
def failingErasePort : FlashPort (UInt32 → UInt16) where
  readWord m a := m a
  init info m := ⟨BootFlashResult.ok, info, m⟩
  checkAddress _ _ _ info := (BootFlashResult.ok, info)
  eraseBySectorMask _ info m :=
    ⟨BootFlashResult.failed, info, fun a =>
      if BootMetadata.slotAAppStart ≤ a ∧ a < 0x084000 then 0xFFFF else m a⟩
  programBlock address data _ info m := ⟨BootFlashResult.ok, info, storeWords m address data⟩
  programMetadataRecord address data _ info m :=
    ⟨BootFlashResult.ok, info, storeWords m address data⟩
  verifyBlock address expected _ info m :=
    if (List.range expected.length).all fun i =>
        m (address + UInt32.ofNat i) == expected.getD i 0 then
      ⟨BootFlashResult.ok, info, m⟩
    else ⟨BootFlashResult.failed, info, m⟩

/-- One verified unit, all its words zero. -/
def verifyRequests : List ServiceInput :=
  [.command (.ofWords BootCmd.verifyBegin 1 [BootTarget.flashApp, 1, 8, 0, 0x2400, 0x8, 0, 0, 0]),
    .command (.ofWords BootCmd.verifyData 2 [0x2400, 0x8, 8, 0, 0, 0, 0, 0, 0, 0, 0, 0, 0]),
    .command (.ofWords BootCmd.verifyEnd 3 [1, 0, 8, 0, 0, 0])]

def eraseRequest : BootProtocolFrame := .ofWords BootCmd.erase 4 [0x0006, 0, 0]

/-- The service after `BootInit`, with a blank journal and an application of zeros. -/
def freshService : FlashService (UInt32 → UInt16) :=
  (bootInit BootDevice.f28377d BootDevice.cpu1 248
    ⟨⟨.reset, 0, 0, 0, 0, 0, 0⟩, fun a =>
      if a < BootMetadata.slotAAppStart then BootMetadata.erasedWord else 0⟩).2

theorem verify_gate_verified :
    VerifiedSince failingErasePort
      ((serviceMachine failingErasePort).history freshService verifyRequests) := by
  have reading : ((serviceMachine failingErasePort).history freshService verifyRequests).all
      (fun ev => ev.output.calls.all fun c => !decide c.call.Modifies) = true := by
    decide +kernel
  have harmless : ∀ ev ∈ (serviceMachine failingErasePort).history freshService verifyRequests,
      FailsHarmlessly failingErasePort ev := by
    intro ev hev c hc modifies
    have := List.all_eq_true.1 (List.all_eq_true.1 reading ev hev) c hc
    simp [modifies] at this
  have gate := verify_gate failingErasePort BootDevice.f28377d BootDevice.cpu1 248 _ _ harmless
  exact gate.1 (by decide +kernel)

/-- After the failed erase the gate is still open. -/
theorem verify_gate_open_after_failed_erase :
    let m := serviceMachine failingErasePort
    let inputs := verifyRequests ++ [.command eraseRequest]
    (m.run freshService inputs).runtime.verifySucceeded ≠ 0 ∧
      ¬ VerifiedSince failingErasePort (m.history freshService inputs) := by
  intro m inputs
  refine ⟨by decide +kernel, fun verified => ?_⟩
  rw [m.history_append] at verified
  rcases Runs.Since.last verified with ⟨⟨-, request, input, command⟩, -⟩ | ⟨-, quiet⟩
  · -- the last event is no VERIFY_END
    obtain rfl : eraseRequest = request := by simpa [Runs.Machine.event] using input
    exact absurd command (by decide)
  · have erased : (m.step (m.run freshService verifyRequests) (.command eraseRequest)).1.calls.any
        (fun c => decide c.call.Modifies && c.after 0x082400 != c.before 0x082400) = true := by
      decide +kernel
    obtain ⟨c, hc, changed⟩ := List.any_eq_true.1 erased
    simp only [Bool.and_eq_true, decide_eq_true_eq, bne_iff_ne] at changed
    exact quiet c hc changed.1 ⟨0x082400, by decide, by decide, changed.2⟩

end BootFlashService

end BootUpgrade

import BootUpgrade.FlashService.SessionCounts

/-!
# What the verify gate says about the words

A set verify flag, and so an accepted IMAGE_VALID record, stand for a completed
VERIFY session, and the words of its packets are still in the application. The
port is asked for what its functions document: a comparison that succeeds has
compared, and nothing but an erase or a block program changes the application.
-/

namespace BootUpgrade

variable {σ : Type}

/-- The application has the same words in both worlds. -/
def FlashPort.KeepsApp (port : FlashPort σ) (w w' : σ) : Prop :=
  ∀ a, BootMetadata.slotAAppStart ≤ a → a < BootMetadata.slotAAppEnd →
    port.readWord w' a = port.readWord w a

/-- What the service relies on in the functions of a port. -/
structure FlashPort.Compares (port : FlashPort σ) : Prop where
  init : ∀ info w, port.KeepsApp w (port.init info w).world
  record : ∀ address data wordCount info w, BootMetadata.slotAStart ≤ address →
    address + BootMetadata.recordWords ≤ BootMetadata.slotAAppStart →
      port.KeepsApp w (port.programMetadataRecord address data wordCount info w).world
  verify : ∀ address expected wordCount info w,
    port.KeepsApp w (port.verifyBlock address expected wordCount info w).world
  compared : ∀ address expected wordCount info w,
    address.toNat + wordCount.toNat ≤ BootMetadata.slotAAppEnd.toNat →
    (port.verifyBlock address expected wordCount info w).result = BootFlashResult.ok →
      ∀ i v, i < wordCount.toNat → expected[i]? = some v →
        port.readWord w (address + UInt32.ofNat i) = v
  inside : ∀ address (wordCount : UInt16) info,
    (port.checkAddress address wordCount.toUInt32 .verify info).1 = BootFlashResult.ok →
      BootMetadata.slotAAppStart.toNat ≤ address.toNat ∧
        address.toNat + wordCount.toNat ≤ BootMetadata.slotAAppEnd.toNat

/-- The block of a packet lies in the application and has the words of the packet. -/
structure FlashPort.HasPacket (port : FlashPort σ) (w : σ) (p : BootProtocolFrame) : Prop where
  start : BootMetadata.slotAAppStart.toNat ≤ (p.u32 0).toNat
  stop : (p.u32 0).toNat + (p.word 2).toNat ≤ BootMetadata.slotAAppEnd.toNat
  words : ∀ i v, (p.words 5 (p.word 2).toNat)[i]? = some v →
    port.readWord w (p.u32 0 + UInt32.ofNat i) = v

section
variable {port : FlashPort σ} {w w' w'' : σ}

theorem FlashPort.KeepsApp.refl (port : FlashPort σ) (w : σ) : port.KeepsApp w w :=
  fun _ _ _ => rfl

theorem FlashPort.KeepsApp.trans (first : port.KeepsApp w w') (second : port.KeepsApp w' w'') :
    port.KeepsApp w w'' :=
  fun a lower upper => (second a lower upper).trans (first a lower upper)

/-- A packet of the application is there as long as the application is kept. -/
theorem FlashPort.HasPacket.keeps {p : BootProtocolFrame} (has : port.HasPacket w p)
    (keeps : port.KeepsApp w w') : port.HasPacket w' p := by
  refine ⟨has.start, has.stop, ?_⟩
  intro i v found
  have start := has.start
  have stop := has.stop
  have last : BootMetadata.slotAAppEnd.toNat = 0x0C0000 := rfl
  obtain ⟨bound, -⟩ := List.getElem?_eq_some_iff.1 found
  have short : i < (p.word 2).toNat := Nat.lt_of_lt_of_le bound (List.length_take_le _ _)
  have index : (UInt32.ofNat i).toNat = i := UInt32.toNat_ofNat_of_lt' (by rw [UInt32.size]; omega)
  have address : (p.u32 0 + UInt32.ofNat i).toNat = (p.u32 0).toNat + i := by
    rw [Words.toNat_add_of_lt (by omega), index]
  rw [keeps _ (UInt32.le_iff_toNat_le.2 (by omega)) (UInt32.lt_iff_toNat_lt.2 (by omega))]
  exact has.words i v found

end

namespace BootFlashService

/-! ## What a quiet event keeps -/

section
variable {port : FlashPort σ} {request : BootProtocolFrame} {s : FlashService σ}
  {s₁ s' : FlashService (Logged σ)} {input : ServiceInput} {status : UInt16}
  {error : BootErrorDetail}

theorem modifying_keeps (quiet : Quiet port (eventOf s input status error s')) {c : LoggedCall σ}
    (mem : c ∈ s'.world.calls) (modifies : c.call.Modifies) : port.KeepsApp c.before c.after := by
  intro a lower upper
  exact Decidable.byContradiction fun changed => quiet c mem modifies ⟨a, lower, upper, changed⟩

variable (compares : port.Compares)
include compares

theorem prepared_keeps (prepared : Prepared port.logged (watched s) s₁) :
    port.KeepsApp s.world s₁.world.world := by
  obtain rfl | ⟨-, flag, rfl⟩ := prepared
  · exact .refl port _
  · exact compares.init .zero s.world

theorem append_keeps {asked : Option BootProtocolFrame}
    (h : AppendStep port.logged asked (watched s) status s') :
    port.KeepsApp s.world s'.world.world := by
  cases h with
  | untouched => exact .refl port _
  | unprepared _ prepared => exact prepared_keeps compares prepared
  | written appends slot prepared =>
    exact (prepared_keeps compares prepared).trans
      (compares.record _ _ _ _ _ slot.start slot.stop)
  | imageWritten appends slot prepared programmed =>
    exact (prepared_keeps compares prepared).trans
      (compares.record _ _ _ _ _ slot.start slot.stop)

theorem step_keeps (h : Step port.logged request (watched s) status s')
    (quiet : Quiet port (eventOf s (.command request) status error s')) :
    port.KeepsApp s.world s'.world.world := by
  cases h with
  | refused => exact .refl port _
  | unprepared _ prepared => exact prepared_keeps compares prepared
  | aborted => exact .refl port _
  | erased command mask prepared done =>
    refine (prepared_keeps compares prepared).trans ?_
    exact modifying_keeps quiet (List.mem_append_right _ (List.mem_singleton_self _)) trivial
  | eraseFailed command refused mask prepared failed =>
    refine (prepared_keeps compares prepared).trans ?_
    exact modifying_keeps quiet (List.mem_append_right _ (List.mem_singleton_self _)) trivial
  | begun operation command operation_ne idle length packets words prepared =>
    have keeps := prepared_keeps compares prepared
    exact keeps
  | programmed command ready done =>
    exact modifying_keeps quiet (List.mem_append_right _ (List.mem_singleton_self _)) trivial
  | programFailed command refused ready failed =>
    exact modifying_keeps quiet (List.mem_append_right _ (List.mem_singleton_self _)) trivial
  | verified command ready done => exact compares.verify _ _ _ _ _
  | verifyFailed command refused ready => exact compares.verify _ _ _ _ _
  | ended operation =>
    cases operation <;> exact .refl port _
  | append command append => exact append_keeps compares append

/-- An accepted VERIFY_DATA has compared its packet with the application. -/
theorem verified_has (h : Step port.logged request (watched s) status s')
    (command : request.command = BootCmd.verifyData) (ok : status = BootStatus.ok) :
    port.HasPacket s'.world.world request := by
  cases h with
  | refused refused => exact absurd ok refused
  | unprepared refused => exact absurd ok refused
  | aborted refused => exact absurd ok refused
  | erased other => exact absurd (command.symm.trans other) (by decide)
  | eraseFailed other refused => exact absurd ok refused
  | begun operation other =>
    rw [command] at other
    split at other <;> exact absurd other (by decide)
  | programmed other => exact absurd (command.symm.trans other) (by decide)
  | programFailed other refused => exact absurd ok refused
  | verified command ready done =>
    obtain ⟨start, stop⟩ := compares.inside _ _ _ ready.address
    have has : port.HasPacket s.world request := by
      refine ⟨start, stop, ?_⟩
      intro i v found
      obtain ⟨bound, -⟩ := List.getElem?_eq_some_iff.1 found
      exact compares.compared _ _ _ _ _ stop done i v
        (Nat.lt_of_lt_of_le bound (List.length_take_le _ _)) found
    exact has.keeps (compares.verify _ _ _ _ _)
  | verifyFailed other refused => exact absurd ok refused
  | ended operation other =>
    rw [command] at other
    split at other <;> exact absurd other (by decide)
  | append other => exact absurd (command.symm.trans other) (by decide)

/-! ## An event of the machine -/

theorem event_keeps {input : ServiceInput}
    (quiet : Quiet port ((serviceMachine port).event s input)) :
    port.KeepsApp s.world ((serviceMachine port).event s input).after.world := by
  cases input with
  | bootInit deviceId cpuId maxDataWords =>
    have same : (bootInit deviceId cpuId maxDataWords s).2.world = s.world := by
      unfold bootInit
      dsimp only
      split
      · rfl
      · split <;> rfl
    show port.KeepsApp s.world (bootInit deviceId cpuId maxDataWords s).2.world
    rw [same]
    exact .refl port _
  | command request => exact step_keeps compares (bootHandleCommand_step 0 .clear) quiet
  | confirmCurrentImage => exact append_keeps compares (confirmJournal_step : AppendStep _ none _ _ _)

/-- The packet of an accepted VERIFY_DATA is in the application. -/
theorem event_has {input : ServiceInput} {p : BootProtocolFrame}
    (accepted : acceptedData .verify ((serviceMachine port).event s input) = some p) :
    port.HasPacket ((serviceMachine port).event s input).after.world p := by
  cases input with
  | bootInit deviceId cpuId maxDataWords => cases accepted
  | confirmCurrentImage => cases accepted
  | command request =>
    obtain ⟨⟨command, ok⟩, same⟩ := Option.ite_none_right_eq_some.1 accepted
    cases same
    exact verified_has compares (bootHandleCommand_step 0 .clear) command ok

end

/-! ## The gate over a run -/

/-- A completed VERIFY session, and every word it has compared is still there. -/
structure Completed (port : FlashPort σ) (h : List (ServiceEvent σ)) (w : σ)
    (begin' : BootProtocolFrame) (ps : List BootProtocolFrame) : Prop where
  ended : ∃ past e later end', h = past ++ e :: later ∧ SessionOpen .verify begin' ps past ∧
    AcceptedRequest BootCmd.verifyEnd end' e
  declared : Declared begin' ps
  has : ∀ p ∈ ps, port.HasPacket w p

theorem Completed.keeps {port : FlashPort σ} {h : List (ServiceEvent σ)} {w w' : σ}
    {begin' : BootProtocolFrame} {ps : List BootProtocolFrame}
    (completed : Completed port h w begin' ps) (keeps : port.KeepsApp w w') :
    Completed port h w' begin' ps :=
  ⟨completed.ended, completed.declared, fun p mem => (completed.has p mem).keeps keeps⟩

theorem Completed.lasts {port : FlashPort σ} {h : List (ServiceEvent σ)} {w w' : σ}
    {begin' : BootProtocolFrame} {ps : List BootProtocolFrame} {ev : ServiceEvent σ}
    (completed : Completed port h w begin' ps) (keeps : port.KeepsApp w w') :
    Completed port (h ++ [ev]) w' begin' ps := by
  obtain ⟨past, e, later, end', rfl, opened, accepted⟩ := completed.ended
  exact ⟨⟨past, e, later ++ [ev], end', by simp, opened, accepted⟩, completed.declared,
    (completed.keeps keeps).has⟩

/-- What the history says about the words that have been compared. -/
structure ContentInvariant (port : FlashPort σ) (h : List (ServiceEvent σ)) (s : FlashService σ) :
    Prop where
  session : SessionInvariant h s
  opened : ∀ begin' ps, SessionOpen .verify begin' ps h → ∀ p ∈ ps, port.HasPacket s.world p
  gate : s.runtime.verifySucceeded ≠ 0 → ∃ begin' ps, Completed port h s.world begin' ps

section
variable {port : FlashPort σ} (compares : port.Compares) {h : List (ServiceEvent σ)}
  {s : FlashService σ} {input : ServiceInput}
include compares

/-- A quiet event keeps the packets of the open session, and adds the one it has compared. -/
theorem opened_quiet (inv : ContentInvariant port h s)
    (quiet : Quiet port ((serviceMachine port).event s input)) (begin' : BootProtocolFrame)
    (ps : List BootProtocolFrame)
    (opened : SessionOpen .verify begin' ps (h ++ [(serviceMachine port).event s input])) :
    ∀ p ∈ ps, port.HasPacket ((serviceMachine port).step s input).2.world p := by
  intro p mem
  rcases sessionOpen_snoc opened with ⟨-, rfl⟩ | ⟨qs, before, -, rfl⟩
  · cases mem
  · rcases List.mem_append.1 mem with mem | mem
    · exact (inv.opened begin' qs before p mem).keeps (event_keeps compares quiet)
    · exact event_has compares (Option.mem_toList.1 mem)

theorem ContentInvariant.step (inv : ContentInvariant port h s)
    (harmless : FailsHarmlessly port ((serviceMachine port).event s input)) :
    ContentInvariant port (h ++ [(serviceMachine port).event s input])
      ((serviceMachine port).step s input).2 := by
  have session := inv.session.step (sessionStep_event port s input)
  -- a quiet event lets the gate be as it was, unless it is the END that opens it
  have lasts (quiet : Quiet port ((serviceMachine port).event s input))
      (lowers : Lowers ((serviceMachine port).event s input)) :
      ContentInvariant port (h ++ [(serviceMachine port).event s input])
        ((serviceMachine port).step s input).2 := by
    refine ⟨session, opened_quiet compares inv quiet, ?_⟩
    intro flag
    obtain ⟨begin', ps, completed⟩ := inv.gate (lowers.2 flag)
    exact ⟨begin', ps, completed.lasts (event_keeps compares quiet)⟩
  have closes (closed : ((serviceMachine port).step s input).2.runtime.session.operation ≠ .verify)
      (flag : ((serviceMachine port).step s input).2.runtime.verifySucceeded = 0) :
      ContentInvariant port (h ++ [(serviceMachine port).event s input])
        ((serviceMachine port).step s input).2 := by
    refine ⟨session, ?_, fun set => absurd flag set⟩
    intro begin' ps opened
    exact absurd (session.counted .verify begin' ps (by decide) opened).1 closed
  have gate : GateStep port ((serviceMachine port).event s input) := gateStep_event s input
  cases gate with
  | idle quiet lowers => exact lasts quiet lowers
  | failed lowers failing =>
    by_cases quiet : Quiet port ((serviceMachine port).event s input)
    · exact lasts quiet lowers
    · simp only [Quiet, Classical.not_forall, Classical.not_not] at quiet
      obtain ⟨c, mem, modifies, changes⟩ := quiet
      obtain ⟨flag, other⟩ := harmless c mem modifies (failing c mem modifies) changes
      refine closes (fun verify => other (lowers.1 verify)) ?_
      exact Decidable.not_not.1 fun set => lowers.2 set flag
  | closed closed flag => exact closes closed flag
  | begun quiet accepted flag =>
    refine ⟨session, opened_quiet compares inv quiet, ?_⟩
    intro set
    obtain ⟨begin', ps, completed⟩ := inv.gate (flag ▸ set)
    exact ⟨begin', ps, completed.lasts (event_keeps compares quiet)⟩
  | ended quiet accepted before after =>
    refine ⟨session, opened_quiet compares inv quiet, fun _ => ?_⟩
    obtain ⟨ok, request, asked, command⟩ := accepted
    have asked : input = .command request := asked
    subst asked
    have verify : SessionOperation.verify ≠ .none := by decide
    obtain ⟨-, begin', ps, opened, declared, -⟩ := (inv.session.end_iff verify command).1 ok
    refine ⟨begin', ps, ⟨h, _, [], request, rfl, opened, rfl, command, ok⟩, declared, ?_⟩
    exact fun p mem => (inv.opened begin' ps opened p mem).keeps (event_keeps compares quiet)

end

/-- In every run from `BootInit` in which failing calls are harmless, an accepted IMAGE_VALID
record has a completed VERIFY session before it, whose words are all in the application when
the record has been written, and the next record needs another one. -/
theorem image_valid_compared (port : FlashPort σ) (compares : port.Compares)
    (deviceId cpuId maxDataWords : UInt16) (s₀ : FlashService σ) (inputs : List ServiceInput)
    (harmless : ∀ ev ∈ (serviceMachine port).history (bootInit deviceId cpuId maxDataWords s₀).2
      inputs, FailsHarmlessly port ev) :
    let m := serviceMachine port
    let start := (bootInit deviceId cpuId maxDataWords s₀).2
    ∀ request, request.command = BootCmd.metadataAppendRecord →
      request.word 0 = BootMetadata.recordImageValid →
      (m.step (m.run start inputs) (.command request)).1.status = BootStatus.ok →
      let written := (m.step (m.run start inputs) (.command request)).2
      written.runtime.verifySucceeded = 0 ∧
        ∃ begin' ps, Completed port (m.history start inputs) written.world begin' ps := by
  intro m start request command kind accepted written
  have inv : ContentInvariant port (m.history start inputs) (m.run start inputs) := by
    refine m.history_induction_of _ (FailsHarmlessly port) (ContentInvariant port) ?_ ?_ inputs
      harmless
    · obtain ⟨session, flag⟩ := bootInit_closed deviceId cpuId maxDataWords s₀
      refine ⟨sessionInvariant_run port session [], ?_, fun set => absurd flag set⟩
      rintro begin' ps ⟨past, b, since, split, -⟩
      cases past <;> cases split
    · intro h s input inv harmless
      exact inv.step compares harmless
  have image := bootHandleCommand_imageValid command kind accepted
  obtain ⟨begin', ps, completed⟩ := inv.gate image.gate
  obtain ⟨s₁, prepared, -, left⟩ := image.programmed
  have keeps : port.KeepsApp (m.run start inputs).world written.world := by
    have world := congrArg (fun s : FlashService (Logged σ) => s.world.world) left
    have same : written.world = _ := world
    rw [same]
    exact (prepared_keeps compares prepared).trans
      (compares.record _ _ _ _ _ image.slot.start image.slot.stop)
  have flag : written.runtime.verifySucceeded = 0 :=
    congrArg (fun s : FlashService (Logged σ) => s.runtime.verifySucceeded) left
  exact ⟨flag, begin', ps, completed.keeps keeps⟩

end BootFlashService

end BootUpgrade

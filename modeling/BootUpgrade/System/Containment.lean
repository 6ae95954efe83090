import BootUpgrade.F28377D.Commands
import BootUpgrade.FlashService.Machine
import BootUpgrade.System.JournalRun

/-!
# Flash containment

Whatever requests arrive and whatever the Flash API reports, the service
programs application blocks inside one sector and records into erased slots,
and erases sectors of the request's mask. The addresses are 32-bit values; the
statements give them as numbers, so they also say that no sum has wrapped.
-/

namespace BootUpgrade.BootFlashService

open BootMetadata F28377D Fapi FlashArray

variable {ε : Type} {fapi : Fapi ε}

/-- `count` words at `address` are whole units of one sector of the application. -/
structure AppBlock (address : UInt32) (count : Nat) : Prop where
  nonempty : 0 < count
  unitStart : address.toNat % 8 = 0
  units : count % 8 = 0
  start : 0x082400 ≤ address.toNat
  sector : ∃ s ∈ sectorTable, s.1 ≤ address.toNat ∧ address.toNat + count ≤ s.2
  stop : address.toNat + count ≤ 0x0C0000
  unwrapped : (address + UInt32.ofNat count).toNat = address.toNat + count

/-- The 64 words at `address` are a record slot, all erased in `read`. -/
structure ErasedSlot (read : UInt32 → UInt16) (address : UInt32) : Prop where
  slotStart : address.toNat % 64 = 0
  start : 0x082000 ≤ address.toNat
  stop : address.toNat + 64 ≤ 0x082400
  unwrapped : (address + 64).toNat = address.toNat + 64
  erased : ∀ k < 64, read (address + UInt32.ofNat k) = erasedWord

variable (fapi) in
/-- Between `w` and `w₁` the service has at most initialized the Flash API. -/
def Initialized (w w₁ : Issued ε) : Prop :=
  w₁ = w ∨ w₁ = (F28377D.init fapi.logged .zero w).world

variable (fapi) in
/-- What the service may ask the port for at `w₁` when it handles `input`,
which has reached it at `w`. -/
def ContainedCall (w : Issued ε) (input : ServiceInput) (w₁ : Issued ε) : PortCall → Prop
  | .init | .verifyBlock .. => True
  | .eraseBySectorMask sectorMask =>
    ∃ request, input = .command request ∧ request.command = BootCmd.erase ∧
      sectorMask = request.u32 0
  | .programBlock address data count => data.length = count.toNat ∧ AppBlock address count.toNat
  | .programMetadataRecord address data count =>
    data.length = 64 ∧ count = 64 ∧ ErasedSlot (fapi.readWord w.device) address ∧
      Initialized fapi w w₁

/-- What the port may ask the Flash API for in a call. -/
def ContainedCommand : PortCall → Command → Prop
  | .eraseBySectorMask sectorMask, .eraseSector start =>
    ∃ i, i ≠ 0 ∧ selected sectorMask i ∧ ∃ s, sectorTable[i]? = some s ∧ start.toNat = s.1
  | .programBlock address data _, .program start unit
  | .programMetadataRecord address data _, .program start unit =>
    ∃ k, 8 * k + 8 ≤ data.length ∧ start.toNat = address.toNat + 8 * k ∧
      unit = (data.drop (8 * k)).take 8
  | _, _ => False

variable (fapi) in
/-- A call stays inside the Flash the request may touch. -/
structure Contained (w : Issued ε) (input : ServiceInput) (c : LoggedCall (Issued ε)) : Prop where
  call : ContainedCall fapi w input c.before c.call
  commands : ∃ issued, c.after.commands = c.before.commands ++ issued ∧
    ∀ command ∈ issued, ContainedCommand c.call command

/-! ## The calls of a step -/

theorem erasedSlot_next {read : UInt32 → UInt16} {summary : BootMetadataSummary}
    (scan : summary = scanLoadedRecords (loadFlashRecord read slotAStart) 16)
    (ready : SlotReady summary) : ErasedSlot read (nextRecordAddress summary) := by
  obtain ⟨slot, hs, address, erased, -⟩ := nextRecordAddress_spec (scan ▸ ready)
  rw [← scan, slotAddress] at address
  have record : (64 : UInt32).toNat = 64 := rfl
  refine ⟨by omega, by omega, by omega, ?_, fun k hk => ?_⟩
  · rw [Words.toNat_add_of_lt (by omega), record]
  · rw [isErasedRecord, Vector.all_eq_true] at erased
    have word := erased k hk
    simp only [loadFlashRecord, Vector.getElem_ofFn, beq_iff_eq] at word
    have base : (UInt32.ofNat slot * recordWords).toNat = 64 * slot := by
      simp only [UInt32.toNat_mul, recordWords, UInt32.toNat_ofNat', UInt32.reduceToNat]
      omega
    have start : slotAStart.toNat = 0x082000 := rfl
    have same : nextRecordAddress summary = slotAStart + UInt32.ofNat slot * recordWords := by
      rw [← UInt32.toNat_inj, address, Words.toNat_add_of_lt (by omega), base, start]
    rw [same]
    exact word

/-- The units of a block of whole units. -/
theorem unitCommand_contained {address : UInt32} {data : List UInt16} {done : Nat}
    (len : 8 * done ≤ data.length) (small : address.toNat + data.length < 4294967296)
    {c : Command} (hc : c ∈ (List.range done).map (unitCommand address data)) :
    ∃ start unit, c = .program start unit ∧ ∃ k, 8 * k + 8 ≤ data.length ∧
      start.toNat = address.toNat + 8 * k ∧ unit = (data.drop (8 * k)).take 8 := by
  obtain ⟨k, hk, rfl⟩ := List.mem_map.1 hc
  have hk := List.mem_range.1 hk
  refine ⟨_, _, rfl, k, by omega, ?_, rfl⟩
  have offset : (UInt32.ofNat (8 * k)).toNat = 8 * k :=
    UInt32.toNat_ofNat_of_lt' (by simp only [UInt32.size]; omega)
  rw [Words.toNat_add_of_lt (by omega), offset]

theorem init_commands (info : BootFlashErrorInfo) (w : Issued ε) :
    (F28377D.init fapi.logged info w).world.commands = w.commands := by
  let Q := fun r : PortReturn (Issued ε) => r.world.commands = w.commands
  refine iteInduction (motive := Q) (fun _ => rfl) fun _ => ?_
  exact iteInduction (motive := Q) (fun _ => rfl) fun _ => rfl

theorem verifyBlock_commands (address : UInt32) (expected : List UInt16) (count : UInt16)
    (info : BootFlashErrorInfo) (w : Issued ε) :
    (F28377D.verifyBlock fapi.logged address expected count info w).world.commands = w.commands := by
  let Q := fun r : PortReturn (Issued ε) => r.world.commands = w.commands
  refine iteInduction (motive := Q) (fun _ => rfl) fun _ => ?_
  exact iteInduction (motive := Q) (fun _ => rfl) fun _ => rfl

/-- A call that issues nothing. -/
theorem contained_silent {w : Issued ε} {input : ServiceInput} {c : LoggedCall (Issued ε)}
    (call : ContainedCall fapi w input c.before c.call)
    (same : c.after.commands = c.before.commands) : Contained fapi w input c :=
  ⟨call, [], by rw [same, List.append_nil], by simp⟩

section
variable {s : FlashService (Issued ε)} {s₁ : FlashService (Logged (Issued ε))}
  {input : ServiceInput} {request : BootProtocolFrame}

theorem Prepared.contained (h : Prepared (port fapi.logged).logged (watched s) s₁) :
    ∀ c ∈ s₁.world.calls, Contained fapi s.world input c := by
  obtain rfl | ⟨-, flag, rfl⟩ := h
  · intro c hc; cases hc
  · intro c hc
    obtain rfl : c = ⟨.init, s.world, _, _⟩ := by
      simpa [FlashPort.logged, Logged.record, watched] using hc
    exact contained_silent trivial (init_commands _ _)

theorem Prepared.initialized (h : Prepared (port fapi.logged).logged (watched s) s₁) :
    Initialized fapi s.world s₁.world.world := by
  obtain rfl | ⟨-, flag, rfl⟩ := h
  · exact .inl rfl
  · exact .inr rfl

/-- The calls of a step that makes one more call after preparing the Flash. -/
theorem contained_append (h : Prepared (port fapi.logged).logged (watched s) s₁)
    {c : LoggedCall (Issued ε)} (hc : Contained fapi s.world input c) :
    ∀ d ∈ s₁.world.calls ++ [c], Contained fapi s.world input d := by
  intro d hd
  rcases List.mem_append.1 hd with hd | hd
  · exact h.contained d hd
  · rw [List.mem_singleton.1 hd]
    exact hc

theorem contained_erase (command : request.command = BootCmd.erase)
    (info : BootFlashErrorInfo) (w w₁ : Issued ε) :
    Contained fapi w (.command request) ⟨.eraseBySectorMask (request.u32 0), w₁,
      (eraseBySectorMask fapi.logged (request.u32 0) info w₁).result,
      (eraseBySectorMask fapi.logged (request.u32 0) info w₁).world⟩ := by
  obtain ⟨issued, commands, all⟩ := eraseBySectorMask_commands fapi (request.u32 0) info w₁
  refine ⟨⟨request, rfl, command, rfl⟩, issued, commands, fun c hc => ?_⟩
  obtain ⟨i, hi, bit, t, ht, rfl⟩ := all c hc
  refine ⟨i, hi, bit, t, ht, ?_⟩
  have table : ∀ t ∈ sectorTable, (UInt32.ofNat t.1).toNat = t.1 := by decide
  exact table t (List.mem_of_getElem? ht)

/-- A data packet that has passed its checks carries as many words as it says. -/
theorem DataReady.dataWords {σ : Type} {port : FlashPort σ} {operation : SessionOperation}
    {flashOperation : BootFlashOperation} {s : FlashService σ}
    (h : DataReady port request operation flashOperation s) :
    5 + (request.word 2).toNat = request.payloadWords.toNat := by
  have length := congrArg UInt16.toNat h.length
  have header := UInt16.le_iff_toNat_le.1 h.header
  have buffer := request.payloadWords_le
  have small := (request.word 2).toNat_lt
  simp only [UInt16.toNat_add, UInt16.reduceToNat] at length header
  omega

/-- The block of an accepted program packet. -/
theorem DataReady.appBlock {σ : Type} {port : FlashPort σ} {s : FlashService σ}
    (checks : port.checkAddress = checkAddress) (h : DataReady port request .program .program s) :
    AppBlock (request.u32 0) (request.word 2).toNat := by
  have words := h.dataWords
  have buffer := request.payloadWords_le
  have nonempty : (request.word 2).toNat ≠ 0 := fun zero =>
    h.nonempty (UInt16.toNat_inj.1 zero)
  have allowed : addressAllowed (request.u32 0) (request.word 2).toUInt32 .program = true := by
    by_cases allowed : addressAllowed (request.u32 0) (request.word 2).toUInt32 .program = true
    · exact allowed
    · have check := h.address
      simp only [dataCheck, checks, checkAddress, allowed, Bool.false_eq_true, if_false] at check
      exact absurd check (show BootFlashResult.badAddress ≠ BootFlashResult.ok by decide)
  have count : (request.word 2).toUInt32.toNat = (request.word 2).toNat :=
    UInt16.toNat_toUInt32 _
  obtain ⟨start, ⟨t, ht, lo, -, hi⟩, units⟩ := (addressAllowed_iff (by omega)).1 allowed
  have table : ∀ t ∈ sectorTable, t.2 ≤ 0x0C0000 := by decide
  have last := table t ht
  rw [count] at hi units
  have offset : (UInt32.ofNat (request.word 2).toNat).toNat = (request.word 2).toNat :=
    UInt32.toNat_ofNat_of_lt' (by simp only [UInt32.size]; omega)
  exact ⟨by omega, (units rfl).1, (units rfl).2, start, ⟨t, ht, lo, hi⟩, by omega,
    by rw [Words.toNat_add_of_lt (by omega), offset]⟩

theorem contained_program {s : FlashService (Logged (Issued ε))}
    (h : DataReady (port fapi.logged).logged request .program .program s)
    (info : BootFlashErrorInfo) (w w₁ : Issued ε) :
    let data := request.words 5 (request.word 2).toNat
    let ret := programBlock fapi.logged (request.u32 0) data (request.word 2) info w₁
    Contained fapi w (.command request)
      ⟨.programBlock (request.u32 0) data (request.word 2), w₁, ret.result, ret.world⟩ := by
  have block := h.appBlock rfl
  have words := h.dataWords
  have buffer := request.payloadWords_le
  have length := request.length_words 5 (request.word 2).toNat (by omega)
  have units := block.units
  have stop := block.stop
  obtain ⟨done, le, commands⟩ := programBlock_commands fapi (request.u32 0)
    (request.words 5 (request.word 2).toNat) (request.word 2) info w₁
  refine ⟨⟨length, block⟩, _, commands, fun c hc => ?_⟩
  obtain ⟨start, unit, rfl, contained⟩ := unitCommand_contained (by omega) (by omega) hc
  exact contained

theorem contained_record {address : UInt32} (record : RecordWords) {w w₁ : Issued ε}
    (slot : ErasedSlot (fapi.readWord w.device) address) (initialized : Initialized fapi w w₁)
    (info : BootFlashErrorInfo) :
    let ret := F28377D.programMetadataRecord fapi.logged address record.toList recordWords.toUInt16 info w₁
    Contained fapi w input ⟨.programMetadataRecord address record.toList recordWords.toUInt16, w₁,
      ret.result, ret.world⟩ := by
  have stop := slot.stop
  have length : record.toList.length = 64 := Vector.length_toList
  refine ⟨⟨length, rfl, slot, initialized⟩, ?_⟩
  unfold F28377D.programMetadataRecord
  dsimp only
  split
  · exact ⟨[], by simp, by simp⟩
  · obtain ⟨done, le, commands⟩ := programBlock_commands fapi address
      record.toList recordWords.toUInt16 info w₁
    have count : recordWords.toUInt16.toNat = 64 := rfl
    refine ⟨_, commands, fun c hc => ?_⟩
    obtain ⟨start, unit, rfl, contained⟩ := unitCommand_contained (by omega) (by omega) hc
    exact contained

theorem contained_recordCall {summary : BootMetadataSummary} {record : RecordWords}
    (scan : summary =
      scanLoadedRecords (loadFlashRecord (fapi.readWord s.world.device) slotAStart) 16)
    (ready : SlotReady summary) (prepared : Prepared (port fapi.logged).logged (watched s) s₁) :
    ∀ c ∈ (recordCall (port fapi.logged).logged summary record s₁).world.calls,
      Contained fapi s.world input c :=
  contained_append prepared
    (contained_record record (erasedSlot_next scan ready) prepared.initialized _)

theorem AppendStep.contained {asked : Option BootProtocolFrame} {status : UInt16} {s' : FlashService (Logged (Issued ε))}
    (h : AppendStep (port fapi.logged).logged asked (watched s) status s') :
    ∀ c ∈ s'.world.calls, Contained fapi s.world input c := by
  cases h with
  | untouched => intro c hc; cases hc
  | unprepared _ prepared => exact prepared.contained
  | written _ slot prepared => exact contained_recordCall rfl slot prepared
  | imageWritten _ slot prepared _ => exact contained_recordCall rfl slot prepared

theorem Step.contained {status : UInt16} {s' : FlashService (Logged (Issued ε))}
    (h : Step (port fapi.logged).logged request (watched s) status s') :
    ∀ c ∈ s'.world.calls, Contained fapi s.world (.command request) c := by
  cases h with
  | refused | aborted => intro c hc; cases hc
  | unprepared _ prepared => exact prepared.contained
  | erased command _ prepared _ => exact contained_append prepared (contained_erase command _ _ _)
  | eraseFailed command _ _ prepared _ =>
    exact contained_append prepared (contained_erase command _ _ _)
  | begun _ _ _ _ _ _ _ prepared => exact prepared.contained
  | programmed _ ready _ => exact contained_append (.inl rfl) (contained_program ready _ _ _)
  | programFailed _ _ ready _ => exact contained_append (.inl rfl) (contained_program ready _ _ _)
  | verified _ ready _ =>
    exact contained_append (.inl rfl) (contained_silent trivial (verifyBlock_commands _ _ _ _ _))
  | verifyFailed _ _ ready =>
    exact contained_append (.inl rfl) (contained_silent trivial (verifyBlock_commands _ _ _ _ _))
  | ended => split <;> (intro c hc; cases hc)
  | append _ h => exact h.contained

end

/-! ## Every run -/

/-- Every call of every run stays inside the Flash its request may touch. -/
theorem flash_containment (fapi : Fapi ε) (s₀ : FlashService (Issued ε))
    (inputs : List ServiceInput) :
    ∀ ev ∈ (serviceMachine (port fapi.logged)).history s₀ inputs, ∀ c ∈ ev.output.calls,
      Contained fapi ev.before.world ev.input c := by
  intro ev hev c hc
  rw [Runs.Machine.history_event _ hev] at hc ⊢
  dsimp only [Runs.Machine.event] at hc ⊢
  cases hi : ev.input with
  | bootInit deviceId cpuId maxDataWords => rw [hi] at hc; cases hc
  | command request => rw [hi] at hc; exact (bootHandleCommand_step _ _).contained c hc
  | confirmCurrentImage =>
    rw [hi] at hc
    exact (confirmJournal_step : AppendStep _ none _ _ _).contained c hc

/-- An erase of the sectors B and C that fails at the first of them. -/
theorem flash_containment_erase :
    let m := serviceMachine (port FlashArray.fapi.logged)
    let s₀ : FlashService (Issued FlashArray) :=
      (bootInit BootDevice.f28377d BootDevice.cpu1 248
        ⟨⟨.reset, 0, 0, 0, 0, 0, 0⟩, ⟨{
          words := fun _ => erasedWord
          fsmStatus := 0
          outcomes := fun n => if n = 2 then ⟨1, 0, true⟩ else .success }, []⟩⟩).2
    ∃ c ∈ (m.event s₀ (.command eraseRequest)).output.calls,
      c.call = .eraseBySectorMask 6 ∧ c.after.commands.length = 1 ∧
        Contained FlashArray.fapi s₀.world (.command eraseRequest) c := by
  intro m s₀
  have erased : (m.event s₀ (.command eraseRequest)).output.calls.any (fun c =>
      decide (c.call = .eraseBySectorMask 6) && c.after.commands.length == 1) = true := by
    decide +kernel
  obtain ⟨c, hc, call⟩ := List.any_eq_true.1 erased
  simp only [Bool.and_eq_true, decide_eq_true_eq, beq_iff_eq] at call
  exact ⟨c, hc, call.1, call.2, flash_containment FlashArray.fapi s₀ [.command eraseRequest] _
    (List.mem_singleton_self _) c hc⟩

end BootUpgrade.BootFlashService

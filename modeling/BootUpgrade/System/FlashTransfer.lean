import BootUpgrade.FlashService.Accepted
import BootUpgrade.System.AttachedService

/-!
# A Flash transfer of the host on the service

A transfer is accepted exactly when no session is open, the port can be prepared
and the port takes every packet in order. The service is then as before but for its
gate and the words of the port.
-/

namespace BootUpgrade.FlashTransfer

open HostWorkflow HostClient TransferKind RamLoading BootFlashService AttachedService

variable {σ : Type} {port : FlashPort σ} {s : FlashService σ} {operation : SessionOperation}

/-! ## Requests -/

/-- The transfer of the operation. -/
def transferKind (operation : SessionOperation) : TransferKind :=
  if operation = .program then .program else .verify

theorem beginCommand_kind : (transferKind operation).beginCommand = beginCommand operation := by
  cases operation <;> rfl

theorem dataCommand_kind : (transferKind operation).dataCommand = dataCommand operation := by
  cases operation <;> rfl

theorem endCommand_kind : (transferKind operation).endCommand = endCommand operation := by
  cases operation <;> rfl

theorem target_kind (operation : SessionOperation) : (transferKind operation).target = 1 := by
  cases operation <;> rfl

/-- The service handles a request that fits its buffer. -/
theorem attachedServer_eq {q : HostRequest} (fits : q.payload.length ≤ 256)
    (other : q.command ≠ BootCmd.getMetadataSummary) :
    attachedServer port s q =
      let o := bootHandleCommand port (requestFrame q) 0 .clear s
      (.ok ⟨o.status, []⟩, o.service) := by
  rw [attachedServer, if_neg fun h => other h.2, flashServer, dif_pos fits, frameOf_eq fits]

theorem accepts_iff {q : HostRequest} (initialized : s.runtime.initialized ≠ 0)
    (fits : q.payload.length ≤ 256) (other : q.command ≠ BootCmd.getMetadataSummary) :
    Accepts (attachedServer port) s q ↔ (dispatch port (requestFrame q) s).status = BootStatus.ok := by
  rw [Accepts, attachedServer_eq fits other, bootHandleCommand_of_initialized initialized]
  constructor
  · rintro ⟨a, answer, ok⟩
    cases answer
    exact ok
  · exact fun ok => ⟨_, rfl, ok⟩

theorem attachedServer_after {q : HostRequest} (initialized : s.runtime.initialized ≠ 0)
    (fits : q.payload.length ≤ 256) (other : q.command ≠ BootCmd.getMetadataSummary) :
    (attachedServer port s q).2 = (dispatch port (requestFrame q) s).service := by
  rw [attachedServer_eq fits other, bootHandleCommand_of_initialized initialized]

/-- The frame of a packet. -/
def packetFrame (operation : SessionOperation) (packet : DataPacket) : BootProtocolFrame :=
  requestFrame ((transferKind operation).dataRequest packet)

section
variable {limit : Nat} {packet : DataPacket} (sendable : Sendable limit packet)
include sendable

-- the command is all that differs from the frame of a RAM load

theorem packetRequest_fits : ((transferKind operation).dataRequest packet).payload.length ≤ 256 :=
  dataRequest_fits sendable

theorem packetFrame_address : (packetFrame operation packet).u32 0 = UInt32.ofNat packet.address :=
  dataFrame_address32 sendable

theorem packetFrame_count : (packetFrame operation packet).word 2 = UInt16.ofNat packet.words.length :=
  dataFrame_count sendable

theorem packetFrame_length : ((packetFrame operation packet).word 2).toNat = packet.words.length :=
  dataFrame_length sendable

theorem packetFrame_length32 :
    ((packetFrame operation packet).word 2).toUInt32 = UInt32.ofNat packet.words.length :=
  dataFrame_length32 sendable

theorem packetFrame_index : ((packetFrame operation packet).u32 3).toNat = packet.index :=
  dataFrame_index sendable

theorem packetFrame_payload : (packetFrame operation packet).payloadWords =
    (5 : UInt16) + (packetFrame operation packet).word 2 :=
  dataFrame_payload sendable

theorem packetFrame_words : (packetFrame operation packet).words 5
    ((packetFrame operation packet).word 2).toNat = packet.words :=
  loadData_dataFrame sendable

end

/-! ## What the port does with a packet -/

/-- The error info the address check of the packet starts from. -/
def packetInfo (operation : SessionOperation) (packet : DataPacket) : BootFlashErrorInfo :=
  { BootFlashErrorInfo.zero with
    operation := flashOperation operation
    address := UInt32.ofNat packet.address
    lengthWords := UInt32.ofNat packet.words.length }

variable (port operation) in
def packetCheck (packet : DataPacket) : BootFlashResult × BootFlashErrorInfo :=
  port.checkAddress (UInt32.ofNat packet.address) (UInt32.ofNat packet.words.length)
    (flashOperation operation) (packetInfo operation packet)

variable (port operation) in
/-- The call that programs or compares the packet. -/
def packetCall (packet : DataPacket) (w : σ) : PortReturn σ :=
  let address := UInt32.ofNat packet.address
  let count := UInt16.ofNat packet.words.length
  let info := (packetCheck port operation packet).2
  if operation = .program then port.programBlock address packet.words count info w
  else port.verifyBlock address packet.words count info w

variable (port operation) in
/-- The port takes the packet. -/
structure Taken (packet : DataPacket) (w : σ) : Prop where
  checked : (packetCheck port operation packet).1 = BootFlashResult.ok
  done : (packetCall port operation packet w).result = BootFlashResult.ok

variable (port operation) in
/-- The port takes the packets, one after the other. -/
def TakesAll : List DataPacket → σ → Prop
  | [], _ => True
  | packet :: rest, w =>
    Taken port operation packet w ∧ TakesAll rest (packetCall port operation packet w).world

variable (port operation) in
/-- The device behind the port after the packets. -/
def takenAll (packets : List DataPacket) (w : σ) : σ :=
  packets.foldl (fun w packet => (packetCall port operation packet w).world) w

section
variable {limit : Nat} {packet : DataPacket} (sendable : Sendable limit packet)
include sendable

theorem dataCheck_packet : dataCheck port (packetFrame operation packet) (flashOperation operation) =
    packetCheck port operation packet := by
  rw [dataCheck, dataInfo, packetFrame_address sendable, packetFrame_length32 sendable]
  rfl

theorem dataCall_packet (w : σ) :
    dataCall port (packetFrame operation packet) operation
      ((packetFrame operation packet).u32 0) ((packetFrame operation packet).word 2)
      (dataCheck port (packetFrame operation packet) (flashOperation operation)).2 w =
    packetCall port operation packet w := by
  rw [dataCheck_packet sendable, dataCall, packetFrame_words sendable, packetFrame_address sendable,
    packetFrame_count sendable]
  rfl

end

/-! ## The packets -/

/-- Packets that the client sends and the service has room for. -/
structure Packets (limit : Nat) (maxDataWords : UInt16) (packets : List DataPacket) : Prop where
  some : packets ≠ []
  few : packets.length ≤ 0xFFFF
  indices : packets.map (·.index) = List.range packets.length
  sendable : ∀ packet ∈ packets, Sendable limit packet
  units : ∀ packet ∈ packets, packet.words.length % 8 = 0
  nonempty : ∀ packet ∈ packets, 0 < packet.words.length
  bounded : ∀ packet ∈ packets, packet.words.length ≤ maxDataWords.toNat

theorem totalWords_le {n : Nat} {packets : List DataPacket}
    (short : ∀ packet ∈ packets, packet.words.length ≤ n) : totalWords packets ≤ n * packets.length := by
  induction packets with
  | nil => exact Nat.zero_le _
  | cons packet rest ih =>
    obtain ⟨first, others⟩ := List.forall_mem_cons.1 short
    have := ih others
    rw [totalWords_cons, List.length_cons, Nat.mul_succ]
    omega

section
variable {limit : Nat} {maxDataWords : UInt16} {packets : List DataPacket}
  (ready : Packets limit maxDataWords packets)
include ready

theorem Packets.total : totalWords packets ≤ 0xFFFFFFFF := by
  have few := ready.few
  have short := totalWords_le fun packet mem =>
    show packet.words.length ≤ 251 by have := (ready.sendable packet mem).device; omega
  omega

theorem Packets.positive : 0 < totalWords packets := by
  obtain ⟨packet, mem⟩ := List.exists_mem_of_ne_nil _ ready.some
  obtain ⟨before, after, split⟩ := List.append_of_mem mem
  have nonempty := ready.nonempty packet mem
  rw [split, totalWords_append, totalWords_cons]
  omega

theorem Packets.index {sent rest : List DataPacket} {packet : DataPacket}
    (split : packets = sent ++ packet :: rest) : packet.index = sent.length := by
  have numbered := congrArg (fun indices => indices[sent.length]?) ready.indices
  have inside : sent.length < packets.length := by
    rw [split, List.length_append, List.length_cons]
    omega
  simp only [List.getElem?_map, List.getElem?_range inside] at numbered
  rw [split, List.getElem?_append_right (Nat.le_refl _), Nat.sub_self] at numbered
  exact Option.some.inj numbered

end

/-! ## The session -/

/-- `sent` of the packets have been received. -/
structure Receiving (operation : SessionOperation) (packets sent : List DataPacket)
    (session : BootFlashServiceSession) : Prop where
  active : session.operation = operation
  expectedPackets : session.expectedPacketCount.toNat = packets.length
  countedPackets : session.processedPacketCount.toNat = sent.length
  expectedWords : session.expectedTotalWords.toNat = totalWords packets
  countedWords : session.processedTotalWords.toNat = totalWords sent
  index : session.expectedBlockIndex.toNat = sent.length

/-- The service in the transfer of `packets`, of which it has received `sent`. -/
structure Open (operation : SessionOperation) (packets sent : List DataPacket)
    (runtime : BootFlashServiceRuntimeState) (s : FlashService σ) : Prop
    extends Receiving operation packets sent s.runtime.session where
  runtime : s.runtime = { runtime with
    session := s.runtime.session, verifySucceeded := s.runtime.verifySucceeded }
  gate : operation = .program → sent ≠ [] → s.runtime.verifySucceeded = 0

section
variable {limit : Nat} {runtime : BootFlashServiceRuntimeState} {packets sent rest : List DataPacket}
  {packet : DataPacket} (ne : operation ≠ .none) (ready : Packets limit runtime.maxDataWords packets)
  (opened : Open operation packets sent runtime s) (split : packets = sent ++ packet :: rest)
include ready opened split

/-- The service is ready for the next packet when the port accepts its address. -/
theorem dataReady_packet :
    DataReady port (packetFrame operation packet) operation (flashOperation operation) s ↔
      (packetCheck port operation packet).1 = BootFlashResult.ok := by
  have mem : packet ∈ packets := split ▸ List.mem_append_right _ List.mem_cons_self
  have sendable := ready.sendable packet mem
  have length : ((packetFrame operation packet).word 2).toNat = packet.words.length :=
    packetFrame_length sendable
  have device := sendable.device
  have nonempty := ready.nonempty packet mem
  have units := ready.units packet mem
  have bounded := ready.bounded packet mem
  have total := ready.total
  have few := ready.few
  have count : packets.length = sent.length + (rest.length + 1) := by
    rw [split, List.length_append, List.length_cons]
  have words : totalWords packets = totalWords sent + (packet.words.length + totalWords rest) := by
    rw [split, totalWords_append, totalWords_cons]
  have limit : s.runtime.maxDataWords = runtime.maxDataWords := by rw [opened.runtime]
  have five : (5 : UInt16).toNat = 5 := rfl
  have eight : (8 : UInt16).toNat = 8 := rfl
  have zero : (0 : UInt16).toNat = 0 := rfl
  constructor
  · intro accepted
    rw [← dataCheck_packet sendable]
    exact accepted.address
  · intro checked
    constructor
    · exact opened.active
    · exact packetFrame_payload sendable
    · rw [packetFrame_payload sendable, UInt16.le_iff_toNat_le, UInt16.toNat_add, length, five]
      omega
    · intro none
      rw [none, zero] at length
      omega
    · rw [← UInt16.toNat_inj, UInt16.toNat_mod, length, eight, zero]
      exact units
    · rw [UInt16.le_iff_toNat_le, length, limit]
      exact bounded
    · rw [← UInt32.toNat_inj, packetFrame_index sendable, ready.index split, opened.index]
    · rw [UInt32.lt_iff_toNat_lt, opened.countedPackets, opened.expectedPackets]
      omega
    · have before : s.runtime.session.processedTotalWords ≤ s.runtime.session.expectedTotalWords := by
        rw [UInt32.le_iff_toNat_le, opened.countedWords, opened.expectedWords]
        omega
      rw [UInt32.le_iff_toNat_le, UInt16.toNat_toUInt32, length, UInt32.toNat_sub_of_le _ _ before,
        opened.countedWords, opened.expectedWords]
      omega
    · rw [dataCheck_packet sendable]
      exact checked

variable (port) in
/-- A packet that has been received is counted. -/
theorem open_received : Open operation packets (sent ++ [packet]) runtime
    (received port (packetFrame operation packet) operation s) := by
  have mem : packet ∈ packets := split ▸ List.mem_append_right _ List.mem_cons_self
  have sendable := ready.sendable packet mem
  have length : ((packetFrame operation packet).word 2).toNat = packet.words.length :=
    packetFrame_length sendable
  have total := ready.total
  have few := ready.few
  have count : packets.length = sent.length + (rest.length + 1) := by
    rw [split, List.length_append, List.length_cons]
  have words : totalWords packets = totalWords sent + (packet.words.length + totalWords rest) := by
    rw [split, totalWords_append, totalWords_cons]
  have one : (1 : UInt32).toNat = 1 := rfl
  have session : (received port (packetFrame operation packet) operation s).runtime.session =
      countPacket s.runtime.session ((packetFrame operation packet).word 2) := by
    unfold received
    dsimp only
    split <;> rfl
  refine ⟨?_, ?_, ?_⟩
  · rw [session]
    constructor
    · exact opened.active
    · exact opened.expectedPackets
    · show (s.runtime.session.processedPacketCount + 1).toNat = _
      rw [Words.toNat_add_of_lt (by rw [opened.countedPackets, one]; omega), opened.countedPackets, one,
        List.length_append, List.length_singleton]
    · exact opened.expectedWords
    · show (s.runtime.session.processedTotalWords + _).toNat = _
      rw [Words.toNat_add_of_lt (by rw [opened.countedWords, UInt16.toNat_toUInt32, length]; omega),
        opened.countedWords, UInt16.toNat_toUInt32, length, totalWords_append, totalWords_cons]
      rfl
    · show (s.runtime.session.expectedBlockIndex + 1).toNat = _
      rw [Words.toNat_add_of_lt (by rw [opened.index, one]; omega), opened.index, one,
        List.length_append, List.length_singleton]
  · unfold received
    dsimp only
    split
    · rw [setVerifySucceeded, opened.runtime]
    · rw [opened.runtime]
  · intro program _
    rw [received, if_pos program]
    rfl

end

/-! ## The transfer -/

theorem other_command (operation : SessionOperation) :
    beginCommand operation ≠ BootCmd.getMetadataSummary ∧
      dataCommand operation ≠ BootCmd.getMetadataSummary ∧
      endCommand operation ≠ BootCmd.getMetadataSummary := by
  cases operation <;> decide

/-- The service stays initialized in a transfer. -/
theorem Open.running {runtime : BootFlashServiceRuntimeState} {packets sent : List DataPacket}
    (opened : Open operation packets sent runtime s) (initialized : runtime.initialized ≠ 0) :
    s.runtime.initialized ≠ 0 := by
  rw [opened.runtime]
  exact initialized

section
variable {limit : Nat} {runtime : BootFlashServiceRuntimeState} {packets : List DataPacket}
  (ne : operation ≠ .none) (initialized : runtime.initialized ≠ 0)
  (ready : Packets limit runtime.maxDataWords packets)
include ne initialized ready

variable (port) in
/-- The packets that are left are accepted when the port takes them. -/
theorem packets_accepted {sent rest : List DataPacket} (split : packets = sent ++ rest)
    (opened : Open operation packets sent runtime s) :
    (AcceptsAll (attachedServer port) s (rest.map (transferKind operation).dataRequest) ↔
      TakesAll port operation rest s.world) ∧
    (TakesAll port operation rest s.world →
      let s' := after (attachedServer port) s (rest.map (transferKind operation).dataRequest)
      Open operation packets packets runtime s' ∧ s'.world = takenAll port operation rest s.world) := by
  induction rest generalizing sent s with
  | nil =>
    rw [List.append_nil] at split
    refine ⟨Iff.rfl, fun _ => ⟨?_, rfl⟩⟩
    rw [split] at opened ⊢
    exact opened
  | cons packet rest ih =>
    have mem : packet ∈ packets := split ▸ List.mem_append_right _ List.mem_cons_self
    have sendable := ready.sendable packet mem
    have fits : ((transferKind operation).dataRequest packet).payload.length ≤ 256 :=
      packetRequest_fits sendable
    have command : ((transferKind operation).dataRequest packet).command ≠
        BootCmd.getMetadataSummary := by
      show (transferKind operation).dataCommand ≠ _
      rw [dataCommand_kind]
      exact (other_command operation).2.1
    have started := opened.running initialized
    have handled : dispatch port (packetFrame operation packet) s = _ :=
      dispatch_dataCommand ne dataCommand_kind
    have accepted : Accepts (attachedServer port) s ((transferKind operation).dataRequest packet) ↔
        Taken port operation packet s.world := by
      rw [accepts_iff started fits command]
      show (dispatch port (packetFrame operation packet) s).status = _ ↔ _
      rw [handled, handleData_ok_iff ne, dataReady_packet ready opened split, dataCall_packet sendable]
      exact ⟨fun h => ⟨h.1, h.2⟩, fun h => ⟨h.checked, h.done⟩⟩
    have left (taken : Taken port operation packet s.world) :
        (attachedServer port s ((transferKind operation).dataRequest packet)).2 =
          received port (packetFrame operation packet) operation s := by
      have ok := (accepts_iff started fits command).1 (accepted.2 taken)
      change (dispatch port (packetFrame operation packet) s).status = _ at ok
      rw [handled] at ok
      rw [attachedServer_after started fits command]
      show (dispatch port (packetFrame operation packet) s).service = _
      rw [handled]
      exact handleData_ok ok
    have world : (received port (packetFrame operation packet) operation s).world =
        (packetCall port operation packet s.world).world := by
      rw [← dataCall_packet sendable]
      unfold received
      dsimp only
      split <;> rfl
    have next := open_received port ready opened split
    have more : packets = (sent ++ [packet]) ++ rest := by
      rw [split, List.append_assoc]
      rfl
    obtain ⟨others, ends⟩ := ih more next
    rw [world] at others ends
    constructor
    · constructor
      · rintro ⟨first, all⟩
        have taken := accepted.1 first
        rw [left taken] at all
        exact ⟨taken, others.1 all⟩
      · rintro ⟨taken, all⟩
        refine ⟨accepted.2 taken, ?_⟩
        rw [left taken]
        exact others.2 all
    · rintro ⟨taken, all⟩
      show Open operation packets packets runtime
          (after (attachedServer port) (attachedServer port s _).2 _) ∧
        (after (attachedServer port) (attachedServer port s _).2 _).world = _
      rw [left taken]
      exact ends all

end

/-- The runtime after a transfer. -/
def finished (operation : SessionOperation) (runtime : BootFlashServiceRuntimeState) :
    BootFlashServiceRuntimeState :=
  { runtime with session := .reset, verifySucceeded := if operation = .verify then 1 else 0 }

/-- `BootFlashService_EnsureFlash` for the operation. -/
def ensured (port : FlashPort σ) (operation : SessionOperation) (s : FlashService σ) : Outcome σ :=
  ensureFlash port (errorOperation operation) (failedStatus operation) s

/-- What the preparation leaves alone. -/
theorem ensured_runtime (port : FlashPort σ) (operation : SessionOperation) (s : FlashService σ) :
    ∃ flag, (ensured port operation s).service.runtime = { s.runtime with flashInitialized := flag } := by
  have prepared : Prepared port s (ensured port operation s).service := ensureFlash_prepared ..
  obtain same | ⟨-, flag, same⟩ := prepared
  · exact ⟨s.runtime.flashInitialized, by rw [same]⟩
  · exact ⟨flag, by rw [same]⟩

section
variable {entryPoint : Nat} {packets : List DataPacket}

/-- The frame of the BEGIN. -/
def beginFrame (operation : SessionOperation) (entryPoint : Nat) (packets : List DataPacket) :
    BootProtocolFrame :=
  requestFrame ((transferKind operation).beginRequest packets entryPoint 0)

/-- The frame of the END. -/
def endFrame (operation : SessionOperation) (packets : List DataPacket) : BootProtocolFrame :=
  requestFrame ((transferKind operation).endRequest packets 0)

theorem begin_fits :
    ((transferKind operation).beginRequest packets entryPoint 0).payload.length ≤ 256 :=
  show 9 ≤ 256 by decide

theorem end_fits : ((transferKind operation).endRequest packets 0).payload.length ≤ 256 :=
  show 6 ≤ 256 by decide

variable {limit : Nat} {maxDataWords : UInt16} (ready : Packets limit maxDataWords packets)
include ready

variable (operation entryPoint) in
theorem beginFrame_count :
    ((beginFrame operation entryPoint packets).word 1).toNat = packets.length := by
  have few := ready.few
  rw [beginFrame, word_requestFrame begin_fits]
  exact UInt16.toNat_ofNat_of_lt' (by rw [UInt16.size]; omega)

variable (operation entryPoint) in
theorem beginFrame_total :
    ((beginFrame operation entryPoint packets).u32 2).toNat = totalWords packets := by
  rw [beginFrame, u32_requestFrame begin_fits]
  exact joinU32_lowHigh ready.total

theorem endFrame_count : ((endFrame operation packets).u32 0).toNat = packets.length := by
  rw [endFrame, u32_requestFrame end_fits]
  exact joinU32_lowHigh (Nat.le_trans ready.few (by decide))

theorem endFrame_total : ((endFrame operation packets).u32 2).toNat = totalWords packets := by
  rw [endFrame, u32_requestFrame end_fits]
  exact joinU32_lowHigh ready.total

/-- The service is ready for the BEGIN when no session is open. -/
theorem beginReady_iff : BeginReady (beginFrame operation entryPoint packets) s ↔
    s.runtime.session.operation = .none := by
  constructor
  · exact fun begins => begins.idle
  · intro idle
    have zero : (0 : UInt16).toNat = 0 := rfl
    have zero32 : (0 : UInt32).toNat = 0 := rfl
    refine ⟨idle, ?_, ?_, ?_, ?_⟩
    · rw [beginFrame, payloadWords_requestFrame begin_fits]
      rfl
    · rw [beginFrame, word_requestFrame begin_fits]
      show UInt16.ofNat (transferKind operation).target = _
      rw [target_kind]
      rfl
    · intro none
      have count := beginFrame_count operation entryPoint ready
      rw [none, zero] at count
      exact ready.some (List.eq_nil_of_length_eq_zero count.symm)
    · intro none
      have total := beginFrame_total operation entryPoint ready
      have positive := ready.positive
      rw [none, zero32] at total
      omega

variable (operation entryPoint) in
/-- The session that the BEGIN opens has received nothing. -/
theorem open_begun : Open operation packets [] s.runtime
    (begun (beginFrame operation entryPoint packets) operation s) := by
  refine ⟨⟨rfl, ?_, rfl, ?_, rfl, rfl⟩, rfl, fun _ none => absurd rfl none⟩
  · show ((beginFrame operation entryPoint packets).word 1).toUInt32.toNat = _
    rw [UInt16.toNat_toUInt32, beginFrame_count operation entryPoint ready]
  · exact beginFrame_total operation entryPoint ready

/-- The END agrees with the packets that have been received. -/
theorem endReady {runtime : BootFlashServiceRuntimeState}
    (opened : Open operation packets packets runtime s) :
    s.runtime.session.operation = operation ∧ (endFrame operation packets).payloadWords = 6 ∧
      countsMatch (endFrame operation packets) s.runtime.session := by
  refine ⟨opened.active, ?_, ?_, ?_, ?_, ?_⟩
  · rw [endFrame, payloadWords_requestFrame end_fits]
    rfl
  · rw [← UInt32.toNat_inj, endFrame_count ready, opened.expectedPackets]
  · rw [← UInt32.toNat_inj, endFrame_count ready, opened.countedPackets]
  · rw [← UInt32.toNat_inj, endFrame_total ready, opened.expectedWords]
  · rw [← UInt32.toNat_inj, endFrame_total ready, opened.countedWords]

/-- What the END leaves. -/
theorem ended_open (ne : operation ≠ .none) {runtime : BootFlashServiceRuntimeState}
    (opened : Open operation packets packets runtime s) :
    ended operation s = { runtime := finished operation runtime, world := s.world } := by
  have gate := opened.gate
  have same := opened.runtime
  unfold ended finished
  cases operation with
  | none => exact absurd rfl ne
  | program =>
    rw [if_neg (by decide), if_neg (by decide), resetSession, same, gate rfl ready.some]
  | verify =>
    rw [if_pos rfl, if_pos rfl, setVerifySucceeded, resetSession, same]

end

section
variable {limit entryPoint : Nat} {packets : List DataPacket} (ne : operation ≠ .none)
  (initialized : s.runtime.initialized ≠ 0)
  (ready : Packets limit s.runtime.maxDataWords packets)
include ne initialized ready

variable (port entryPoint) in
/-- The transfer is accepted when the service has no session open, the port can be prepared
and it takes the packets. -/
theorem transfer_accepted :
    (AcceptsAll (attachedServer port) s
        ((transferKind operation).transferRequests entryPoint 0 packets) ↔
      s.runtime.session.operation = .none ∧
        (ensured port operation s).status = BootStatus.ok ∧
        TakesAll port operation packets (ensured port operation s).service.world) ∧
    (AcceptsAll (attachedServer port) s
        ((transferKind operation).transferRequests entryPoint 0 packets) →
      after (attachedServer port) s
          ((transferKind operation).transferRequests entryPoint 0 packets) =
        { runtime := finished operation (ensured port operation s).service.runtime
          world := takenAll port operation packets (ensured port operation s).service.world }) := by
  obtain ⟨begins, -, ends⟩ := other_command operation
  let s₁ := (ensured port operation s).service
  obtain ⟨flag, runtime⟩ := ensured_runtime port operation s
  have initialized₁ : s₁.runtime.initialized ≠ 0 := by
    show (ensured port operation s).service.runtime.initialized ≠ 0
    rw [runtime]
    exact initialized
  have ready₁ : Packets limit s₁.runtime.maxDataWords packets := by
    show Packets limit (ensured port operation s).service.runtime.maxDataWords packets
    rw [runtime]
    exact ready
  let first := (transferKind operation).beginRequest packets entryPoint 0
  let last := (transferKind operation).endRequest packets 0
  have firstOther : first.command ≠ BootCmd.getMetadataSummary := by
    show (transferKind operation).beginCommand ≠ _
    rw [beginCommand_kind]
    exact begins
  have lastOther : last.command ≠ BootCmd.getMetadataSummary := by
    show (transferKind operation).endCommand ≠ _
    rw [endCommand_kind]
    exact ends
  have firstHandled : dispatch port (beginFrame operation entryPoint packets) s = _ :=
    dispatch_beginCommand ne beginCommand_kind
  have beginAccepted : Accepts (attachedServer port) s first ↔
      s.runtime.session.operation = .none ∧ (ensured port operation s).status = BootStatus.ok := by
    rw [accepts_iff initialized begin_fits firstOther]
    show (dispatch port (beginFrame operation entryPoint packets) s).status = _ ↔ _
    rw [firstHandled, handleBegin_ok_iff, beginReady_iff ready]
    rfl
  have opens (accepted : Accepts (attachedServer port) s first) :
      (attachedServer port s first).2 = begun (beginFrame operation entryPoint packets) operation s₁ := by
    obtain ⟨idle, prepared⟩ := beginAccepted.1 accepted
    rw [attachedServer_after initialized begin_fits firstOther]
    show (dispatch port (beginFrame operation entryPoint packets) s).service = _
    rw [firstHandled, handleBegin_ok ((beginReady_iff ready).2 idle) prepared]
    rfl
  obtain ⟨data, received⟩ :=
    packets_accepted port ne initialized₁ ready₁ rfl (open_begun operation entryPoint ready₁)
  have ends {s' : FlashService σ} (opened : Open operation packets packets s₁.runtime s') :
      Accepts (attachedServer port) s' last ∧
        (attachedServer port s' last).2 =
          { runtime := finished operation s₁.runtime, world := s'.world } := by
    have running := opened.running initialized₁
    have handled : dispatch port (endFrame operation packets) s' = _ :=
      dispatch_end ne endCommand_kind
    have accepted : (handleEnd (endFrame operation packets) operation (errorOperation operation)
        s').status = BootStatus.ok := (handleEnd_ok_iff ne).2 (endReady ready₁ opened)
    constructor
    · rw [accepts_iff running end_fits lastOther]
      show (dispatch port (endFrame operation packets) s').status = _
      rw [handled]
      exact accepted
    · rw [attachedServer_after running end_fits lastOther]
      show (dispatch port (endFrame operation packets) s').service = _
      rw [handled, handleEnd_ok ne accepted, ended_open ready₁ ne opened]
  have requests : (transferKind operation).transferRequests entryPoint 0 packets =
      first :: (packets.map (transferKind operation).dataRequest ++ [last]) := rfl
  constructor
  · rw [requests]
    constructor
    · rintro ⟨begins, rest⟩
      rw [opens begins, acceptsAll_append] at rest
      obtain ⟨idle, prepared⟩ := beginAccepted.1 begins
      exact ⟨idle, prepared, data.1 rest.1⟩
    · rintro ⟨idle, prepared, takes⟩
      have begins := beginAccepted.2 ⟨idle, prepared⟩
      refine ⟨begins, ?_⟩
      rw [opens begins, acceptsAll_append]
      exact ⟨data.2 takes, (ends (received takes).1).1, trivial⟩
  · rw [requests]
    rintro ⟨begins, rest⟩
    rw [opens begins, acceptsAll_append] at rest
    obtain ⟨opened, world⟩ := received (data.1 rest.1)
    rw [after, List.foldl_cons, List.foldl_append, opens begins]
    show (attachedServer port (after _ _ _) last).2 = _
    rw [(ends opened).2, world]
    rfl

end

end BootUpgrade.FlashTransfer

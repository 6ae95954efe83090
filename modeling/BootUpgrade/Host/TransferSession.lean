import BootUpgrade.Host.Transfer

/-!
# A transfer against a session

What a transfer leaves on a device that opens a session at BEGIN, closes it
when it rejects a packet, and closes it at END whatever it answers. The rules
of the device are assumptions here.
-/

namespace BootUpgrade

namespace HostClient

open HostWorkflow

/-- A packet the client sends to a device with payloads of 256 words. -/
structure Sendable (limit : Nat) (packet : DataPacket) : Prop where
  address : packet.address ≤ 0xFFFFFFFF
  index : packet.index ≤ 0xFFFFFFFF
  limit : 5 + packet.words.length ≤ limit
  device : 5 + packet.words.length ≤ 256

def beginPayload (target packetCount totalWords entryPoint imageCrc32 : Nat) : List Nat :=
  [target, packetCount] ++ lowHigh totalWords ++ lowHigh entryPoint ++ lowHigh imageCrc32 ++ [0]

def dataPayload (packet : DataPacket) : List Nat :=
  lowHigh packet.address ++ [packet.words.length] ++ lowHigh packet.index ++
    packet.words.map (·.toNat)

def endPayload (packetCount totalWords imageCrc32 : Nat) : List Nat :=
  lowHigh packetCount ++ lowHigh totalWords ++ lowHigh imageCrc32

/-- The counts and the CRC of a transfer fit uint32. -/
structure Countable (packetCount totalWords imageCrc32 : Nat) : Prop where
  packets : packetCount ≤ 0xFFFF
  words : totalWords ≤ 0xFFFFFFFF
  crc32 : imageCrc32 ≤ 0xFFFFFFFF

/-- The client sends the BEGIN of a transfer. -/
structure BeginSent (limit target packetCount totalWords entryPoint imageCrc32 : Nat) : Prop
    extends Countable packetCount totalWords imageCrc32 where
  entry : entryPoint ≤ 0xFFFFFFFF
  encodable : Encodable limit (beginPayload target packetCount totalWords entryPoint imageCrc32)

theorem beginProtocol_sent {limit target packetCount totalWords entryPoint imageCrc32 : Nat}
    {command : UInt16}
    (h : BeginSent limit target packetCount totalWords entryPoint imageCrc32) :
    beginProtocol limit command target packetCount totalWords entryPoint imageCrc32 =
      (transact limit command
        (beginPayload target packetCount totalWords entryPoint imageCrc32)).bind
          fun _ => .done () := by
  unfold beginProtocol
  rw [splitU32_ok h.words, splitU32_ok h.entry, splitU32_ok h.crc32]
  rfl

theorem beginProtocol_refused {limit target packetCount totalWords entryPoint imageCrc32 : Nat}
    (command : UInt16)
    (h : ¬ BeginSent limit target packetCount totalWords entryPoint imageCrc32) :
    ∃ error, beginProtocol limit command target packetCount totalWords entryPoint imageCrc32 =
      .fail error := by
  unfold beginProtocol
  by_cases total : totalWords ≤ 0xFFFFFFFF
  · rw [splitU32_ok total]
    by_cases entry : entryPoint ≤ 0xFFFFFFFF
    · rw [splitU32_ok entry]
      by_cases crc : imageCrc32 ≤ 0xFFFFFFFF
      · rw [splitU32_ok crc]
        have refused : ¬ Encodable limit
            (beginPayload target packetCount totalWords entryPoint imageCrc32) := by
          intro encodable
          have count : packetCount ≤ 0xFFFF :=
            encodable.words packetCount (by simp [beginPayload])
          exact h ⟨⟨count, total, crc⟩, entry, encodable⟩
        obtain ⟨error, failed⟩ := (transact_refused refused : ∃ error, transact limit command _ = .fail error)
        refine ⟨error, ?_⟩
        show (transact limit command
          (beginPayload target packetCount totalWords entryPoint imageCrc32)).bind _ = _
        rw [failed]
        rfl
      · rw [show splitU32 imageCrc32 = .error _ from if_pos (Nat.not_le.1 crc)]
        exact ⟨_, rfl⟩
    · rw [show splitU32 entryPoint = .error _ from if_pos (Nat.not_le.1 entry)]
      exact ⟨_, rfl⟩
  · rw [show splitU32 totalWords = .error _ from if_pos (Nat.not_le.1 total)]
    exact ⟨_, rfl⟩

theorem encodable_data {limit : Nat} {packet : DataPacket} (h : Sendable limit packet) :
    Encodable limit (dataPayload packet) := by
  constructor
  · have := h.limit
    simp only [dataPayload, lowHigh, List.length_append, List.length_cons, List.length_nil,
      List.length_map]
    omega
  · intro word hw
    simp only [dataPayload, List.mem_append, List.mem_singleton, List.mem_map] at hw
    rcases hw with ((hw | rfl) | hw) | ⟨w, -, rfl⟩
    · exact lowHigh_le h.address word hw
    · have := h.device
      omega
    · exact lowHigh_le h.index word hw
    · have := w.toNat_lt
      omega

theorem dataProtocol_eq {limit : Nat} {command : UInt16} {packet : DataPacket}
    (h : Sendable limit packet) : dataProtocol limit command packet =
      (transact limit command (dataPayload packet)).bind fun _ => .done () := by
  unfold dataProtocol
  rw [splitU32_ok h.address, splitU32_ok h.index]
  rfl

theorem encodable_end {limit packetCount totalWords imageCrc32 : Nat} (fits : 6 ≤ limit)
    (h : Countable packetCount totalWords imageCrc32) :
    Encodable limit (endPayload packetCount totalWords imageCrc32) := by
  constructor
  · exact fits
  · intro word hw
    simp only [endPayload, List.mem_append] at hw
    rcases hw with (hw | hw) | hw
    · exact lowHigh_le (Nat.le_trans h.packets (by decide)) word hw
    · exact lowHigh_le h.words word hw
    · exact lowHigh_le h.crc32 word hw

theorem endProtocol_eq {limit packetCount totalWords imageCrc32 : Nat} {command : UInt16}
    (h : Countable packetCount totalWords imageCrc32) :
    endProtocol limit command packetCount totalWords imageCrc32 =
      (transact limit command (endPayload packetCount totalWords imageCrc32)).bind
        fun _ => .done () := by
  unfold endProtocol
  rw [splitU32_ok (Nat.le_trans h.packets (by decide)), splitU32_ok h.words,
    splitU32_ok h.crc32]
  rfl

end HostClient

/-! ## The device -/

namespace TransferKind

open HostWorkflow HostClient

abbrev HostServer := Dialogue.Server HostRequest HostAnswer HostError

section
variable {S : Type} (server : HostServer S)

/-- The device answers the request with OK. -/
def Accepts (s : S) (q : HostRequest) : Prop :=
  ∃ a, (server s q).1 = .ok a ∧ a.status = BootStatus.ok

/-- The device answers each of the requests with OK, one after the other. -/
def AcceptsAll : S → List HostRequest → Prop
  | _, [] => True
  | s, q :: qs => Accepts server s q ∧ AcceptsAll (server s q).2 qs

/-- The device after the requests. -/
def after (s : S) (qs : List HostRequest) : S := qs.foldl (fun s q => (server s q).2) s

theorem acceptsAll_append {s : S} {xs ys : List HostRequest} :
    AcceptsAll server s (xs ++ ys) ↔
      AcceptsAll server s xs ∧ AcceptsAll server (after server s xs) ys := by
  induction xs generalizing s with
  | nil => simp [AcceptsAll, after]
  | cons x xs ih =>
    simp only [List.cons_append, AcceptsAll, ih, and_assoc]
    rfl

/-- What a transfer may rely on: a device in which a session of the transfer is
open or closed. -/
structure SessionRules (kind : TransferKind) (Closed Open : S → Prop) : Prop where
  answers : ∀ s q, q.payload.length ≤ 256 → ∃ a, (server s q).1 = .ok a
  begins : ∀ s q a, q.command = kind.beginCommand → Closed s → (server s q).1 = .ok a →
    a.status ≠ BootStatus.busy ∧
    (a.status = BootStatus.ok → Open (server s q).2 ∧ q.payload.getD 1 0 ≠ 0) ∧
    (a.status ≠ BootStatus.ok → Closed (server s q).2)
  data : ∀ s q a, q.command = kind.dataCommand → Open s → (server s q).1 = .ok a →
    (a.status = BootStatus.ok → Open (server s q).2 ∧ q.payload.getD 2 0 ≠ 0) ∧
    (a.status ≠ BootStatus.ok → Closed (server s q).2)
  ends : ∀ s q a, q.command = kind.endCommand → Open s → (server s q).1 = .ok a →
    Closed (server s q).2

end

/-- The exchange is a request of this command answered with OK. -/
def isAccepted (command : UInt16) : HostRequest × Except HostError HostAnswer → Bool
  | (q, .ok a) => q.command = command && a.status = BootStatus.ok
  | (_, .error _) => false

/-- The number of accepted packets. -/
def acceptedData (kind : TransferKind)
    (exchanges : List (HostRequest × Except HostError HostAnswer)) : Nat :=
  exchanges.countP (isAccepted kind.dataCommand)

/-- A transfer has one command for each of its three requests. -/
structure Distinct (kind : TransferKind) : Prop where
  begin_data : kind.beginCommand ≠ kind.dataCommand
  begin_end : kind.beginCommand ≠ kind.endCommand
  data_end : kind.dataCommand ≠ kind.endCommand

theorem isAccepted_other {command other : UInt16} {payload : List Nat} (h : other ≠ command)
    (r : Except HostError HostAnswer) :
    isAccepted command (hostRequest other payload, r) = false := by
  cases r with
  | error error => rfl
  | ok a => simp [isAccepted, hostRequest, h]

section
variable {S : Type} {server : HostServer S} {kind : TransferKind} {Closed Open : S → Prop} {s : S}
  {limit : Nat} {command : UInt16} {payload : List Nat} {a : HostAnswer}

/-- A transaction whose answer is not used. -/
theorem ends_transact (encodable : Encodable limit payload)
    (answer : (server s (hostRequest command payload)).1 = .ok a) :
    Dialogue.Ends server ((transact limit command payload).bind fun _ => .done ()) s
      fun result exchanges s' =>
        exchanges = [(hostRequest command payload, .ok a)] ∧
        s' = (server s (hostRequest command payload)).2 ∧
        result = if a.status = BootStatus.ok then .ok ()
          else .error (.protocolStatusError command a.status) := by
  rw [transact_encodable encodable]
  unfold Dialogue.Ends
  by_cases ok : a.status = BootStatus.ok
  · simp [Dialogue.request, Dialogue.bind, Dialogue.run, Dialogue.lift, answer, ok]
  · simp [Dialogue.request, Dialogue.bind, Dialogue.run, Dialogue.lift, answer, ok]

theorem getD_dataPayload (packet : DataPacket) :
    (hostRequest command (dataPayload packet)).payload.getD 2 0 =
      UInt16.ofNat packet.words.length := rfl

/-- A packet sent in an open session. -/
theorem SessionRules.ends_data (rules : SessionRules server kind Closed Open)
    {packet : DataPacket} (sendable : Sendable limit packet) (opened : Open s) :
    Dialogue.Ends server (dataProtocol limit kind.dataCommand packet) s
      fun result exchanges s' =>
        (∃ error, result = .error error ∧ Closed s' ∧
          ¬ Accepts server s (hostRequest kind.dataCommand (dataPayload packet))) ∨
        result = .ok () ∧ Open s' ∧ packet.words ≠ [] ∧ kind.acceptedData exchanges = 1 ∧
          Accepts server s (hostRequest kind.dataCommand (dataPayload packet)) ∧
          s' = (server s (hostRequest kind.dataCommand (dataPayload packet))).2 := by
  have length : (hostRequest kind.dataCommand (dataPayload packet)).payload.length ≤ 256 := by
    have := sendable.device
    simp only [hostRequest, dataPayload, lowHigh, List.length_append, List.length_cons,
      List.length_nil, List.length_map]
    omega
  obtain ⟨a, answer⟩ := rules.answers s (hostRequest kind.dataCommand (dataPayload packet)) length
  obtain ⟨accepted, rejected⟩ := rules.data s _ a rfl opened answer
  rw [dataProtocol_eq sendable]
  apply (ends_transact (encodable_data sendable) answer).mono
  rintro result exchanges s' ⟨rfl, rfl, rfl⟩
  by_cases ok : a.status = BootStatus.ok
  · obtain ⟨stays, nonempty⟩ := accepted ok
    rw [if_pos ok]
    refine .inr ⟨rfl, stays, ?_, ?_, ⟨a, answer, ok⟩, rfl⟩
    · intro empty
      rw [getD_dataPayload, empty] at nonempty
      exact nonempty rfl
    · simp [acceptedData, isAccepted, hostRequest, ok]
  · rw [if_neg ok]
    refine .inl ⟨_, rfl, rejected ok, ?_⟩
    rintro ⟨a', answer', ok'⟩
    cases answer.symm.trans answer'
    exact ok ok'

theorem totalWords_eq (packets : List DataPacket) :
    totalWords packets = (packets.flatMap (·.words)).length := by
  have sum : ∀ (packets : List DataPacket) (total : Nat),
      packets.foldl (fun total packet => total + packet.words.length) total =
        total + (packets.flatMap (·.words)).length := by
    intro packets
    induction packets with
    | nil => exact fun total => rfl
    | cons packet rest ih =>
      intro total
      rw [List.foldl_cons, ih, List.flatMap_cons, List.length_append]
      omega
  rw [totalWords, sum packets 0]
  omega

theorem totalWords_cons (packet : DataPacket) (rest : List DataPacket) :
    totalWords (packet :: rest) = packet.words.length + totalWords rest := by
  simp only [totalWords_eq, List.flatMap_cons, List.length_append]

theorem totalWords_append (xs ys : List DataPacket) :
    totalWords (xs ++ ys) = totalWords xs + totalWords ys := by
  simp only [totalWords_eq, List.flatMap_append, List.length_append]

/-- The request of a packet. -/
def dataRequest (kind : TransferKind) (packet : DataPacket) : HostRequest :=
  hostRequest kind.dataCommand (dataPayload packet)

/-- What the loop over the packets has done when it has not failed. -/
structure SentPackets (server : HostServer S) (kind : TransferKind) (Open : S → Prop)
    (polls : Nat → Bool) (s : S) (from' : CancellableTransfer.Sent) (all : List DataPacket)
    (sent : CancellableTransfer.Sent)
    (exchanges : List (HostRequest × Except HostError HostAnswer)) (s' : S)
    (done rest : List DataPacket) : Prop where
  split : all = done ++ rest
  accepts : AcceptsAll server s (done.map kind.dataRequest)
  opened : Open s'
  state : s' = after server s (done.map kind.dataRequest)
  accepted : kind.acceptedData exchanges = done.length
  nonempty : ∀ packet ∈ done, packet.words ≠ []
  packets : sent.packets = from'.packets + done.length
  words : sent.words = from'.words + totalWords done
  observed : sent.cancelObserved = polls (sent.packets + 1)
  stopped : rest ≠ [] → sent.cancelObserved = true
  unobserved : ∀ j < done.length, polls (from'.packets + j + 1) = false

theorem SessionRules.ends_sendPackets (rules : SessionRules server kind Closed Open)
    (entryPoint imageCrc32 : Nat) (every : List DataPacket) (polls : Nat → Bool)
    {packets : List DataPacket} (sendable : ∀ packet ∈ packets, Sendable limit packet)
    (sent : CancellableTransfer.Sent) (opened : Open s)
    (observed : sent.cancelObserved = polls (sent.packets + 1)) :
    Dialogue.Ends server
      ((kind.transfer limit entryPoint imageCrc32 every).sendPackets polls sent packets) s
      fun result exchanges s' =>
        (∃ error, result = .error error ∧ Closed s' ∧
          ¬ AcceptsAll server s (packets.map kind.dataRequest)) ∨
        ∃ done rest sent', result = .ok sent' ∧
          SentPackets server kind Open polls s sent packets sent' exchanges s' done rest := by
  induction packets generalizing s sent with
  | nil =>
    exact .inr ⟨[], [], sent, rfl, ⟨rfl, trivial, opened, rfl, rfl, by simp, rfl, rfl, observed,
      fun h => absurd rfl h, by simp⟩⟩
  | cons packet rest ih =>
    unfold CancellableTransfer.sendPackets
    by_cases stop : sent.cancelObserved = true
    · rw [if_pos stop]
      exact .inr ⟨[], packet :: rest, sent, rfl, ⟨rfl, trivial, opened, rfl, rfl, by simp, rfl, rfl,
        observed, fun _ => stop, by simp⟩⟩
    rw [if_neg stop]
    obtain ⟨first, others⟩ := List.forall_mem_cons.1 sendable
    apply Dialogue.ends_bind (rules.ends_data first opened)
    · rintro error exchanges s' (⟨error', same, closed, refused⟩ | ⟨same, -⟩)
      · exact .inl ⟨error, rfl, closed, fun h => refused h.1⟩
      · cases same
    rintro value exchanges s' (⟨error, same, -⟩ | ⟨-, opened', nonempty, accepted, accepts, rfl⟩)
    · cases same
    apply (ih others ⟨sent.packets + 1, sent.words + packet.words.length, polls (sent.packets + 2)⟩
      opened' rfl).mono
    rintro result more s'' (⟨error, rfl, closed, refused⟩ | ⟨done, rest', sent', rfl, h⟩)
    · exact .inl ⟨error, rfl, closed, fun all => refused all.2⟩
    apply Or.inr
    refine ⟨packet :: done, rest', sent', rfl, ⟨?_, ⟨accepts, h.accepts⟩, h.opened, h.state, ?_, ?_,
      ?_, ?_, h.observed, h.stopped, ?_⟩⟩
    · rw [h.split]
      rfl
    · have total : kind.acceptedData (exchanges ++ more) =
          kind.acceptedData exchanges + kind.acceptedData more := List.countP_append
      rw [total, accepted, h.accepted, List.length_cons]
      omega
    · exact List.forall_mem_cons.2 ⟨nonempty, h.nonempty⟩
    · rw [h.packets, List.length_cons]
      show sent.packets + 1 + done.length = _
      omega
    · rw [h.words, totalWords_cons]
      show sent.words + packet.words.length + totalWords done = _
      omega
    · intro j hj
      cases j with
      | zero =>
        rw [Nat.add_zero, ← observed]
        exact Bool.eq_false_iff.2 stop
      | succ j =>
        have later := h.unobserved j (by rw [List.length_cons] at hj; omega)
        rw [show sent.packets + (j + 1) + 1 = sent.packets + 1 + j + 1 by omega]
        exact later

/-! ## The END -/

/-- The stages and recovery actions pass the checks of the result. -/
structure Named (kind : TransferKind) : Prop where
  beginStage : kind.beginStage ≠ ""
  endStage : kind.endStage ≠ ""
  recoveryAction : ∀ sent, kind.recoveryAction sent ∈ recoveryActions
  reconnectRecoveryAction : ∀ sent, kind.reconnectRecoveryAction sent ∈ recoveryActions

/-- The two flags of the result for so many words. -/
structure Marked (kind : TransferKind) (words : Nat) (i : OperationCancellationInfo) : Prop where
  partialFlash : i.partialFlashProgrammed = kind.partialFlashProgrammed words
  eraseBeforeRetry : i.eraseBeforeRetryRequired = kind.partialFlashProgrammed words

theorem info_ok (named : Named kind) (entryPoint imageCrc32 : Nat) {words : Nat}
    {packets : List DataPacket} {stage : String} (stage_ne : stage ≠ "")
    (le : words ≤ totalWords packets) (reconnect none : Bool) :
    ∃ i, (kind.transfer limit entryPoint imageCrc32 packets).info stage words reconnect none = .ok i ∧
      kind.Marked words i := by
  have action : (if none then "NONE"
      else if reconnect then kind.reconnectRecoveryAction words else kind.recoveryAction words) ∈
      recoveryActions := by
    cases none
    · cases reconnect
      · exact named.recoveryAction words
      · exact named.reconnectRecoveryAction words
    · exact List.mem_cons_self
  obtain ⟨i, ok, partialFlash, erase⟩ :=
    (kind.transfer limit entryPoint imageCrc32 packets).info_ok stage_ne le action
  exact ⟨i, ok, partialFlash, erase⟩

def endRequest (kind : TransferKind) (packets : List DataPacket) (imageCrc32 : Nat) : HostRequest :=
  hostRequest kind.endCommand (endPayload packets.length (totalWords packets) imageCrc32)

/-- The END of an open session closes it, whatever the device answers. -/
theorem SessionRules.ends_end (rules : SessionRules server kind Closed Open)
    (distinct : Distinct kind) {imageCrc32 : Nat} {packets : List DataPacket} (fits : 6 ≤ limit)
    (countable : Countable packets.length (totalWords packets) imageCrc32) (opened : Open s) :
    Dialogue.Ends server
      (endProtocol limit kind.endCommand packets.length (totalWords packets) imageCrc32) s
      fun result exchanges s' =>
        Closed s' ∧ kind.acceptedData exchanges = 0 ∧
        ((∃ error, result = .error error ∧
            ¬ Accepts server s (kind.endRequest packets imageCrc32)) ∨
          result = .ok () ∧ Accepts server s (kind.endRequest packets imageCrc32)) := by
  obtain ⟨a, answer⟩ := rules.answers s (kind.endRequest packets imageCrc32)
    (show 6 ≤ 256 by decide)
  have closed := rules.ends s _ a rfl opened answer
  rw [endProtocol_eq countable]
  apply (ends_transact (encodable_end fits countable) answer).mono
  rintro result exchanges s' ⟨rfl, rfl, rfl⟩
  refine ⟨closed, ?_, ?_⟩
  · rw [acceptedData, List.countP_singleton,
      isAccepted_other (Ne.symm distinct.data_end)]
    rfl
  by_cases ok : a.status = BootStatus.ok
  · rw [if_pos ok]
    exact .inr ⟨rfl, a, answer, ok⟩
  · rw [if_neg ok]
    refine .inl ⟨_, rfl, ?_⟩
    rintro ⟨a', answer', ok'⟩
    cases answer.symm.trans answer'
    exact ok ok'

/-! ## The whole transfer -/

def beginRequest (kind : TransferKind) (packets : List DataPacket) (entryPoint imageCrc32 : Nat) :
    HostRequest :=
  hostRequest kind.beginCommand
    (beginPayload kind.target packets.length (totalWords packets) entryPoint imageCrc32)

/-- The device accepts the BEGIN, every packet and the END. -/
structure Accepted (server : HostServer S) (kind : TransferKind) (s : S)
    (limit entryPoint imageCrc32 : Nat) (packets : List DataPacket) : Prop where
  sent : BeginSent limit kind.target packets.length (totalWords packets) entryPoint imageCrc32
  accepts : AcceptsAll server s
    (kind.beginRequest packets entryPoint imageCrc32 ::
      (packets.map kind.dataRequest ++ [kind.endRequest packets imageCrc32]))

/-- How a transfer can end: its result and the number of accepted packets. -/
inductive TransferEnd (kind : TransferKind) (packets : List DataPacket) (accepted' : Prop)
    (polls : Nat → Bool) : Except HostError CancellableTransferOutcome → Nat → Prop
  | raised {error : HostError} {accepted : Nat}
      (refused : ¬ (accepted' ∧ ∀ k ≤ packets.length, polls k = false)) :
      TransferEnd kind packets accepted' polls (.error error) accepted
  | cancelled {outcome : CancellableTransferOutcome} {i : OperationCancellationInfo}
      {words accepted : Nat} (info : outcome.cancellation = some i) (marked : kind.Marked words i)
      (sent : words = 0 ↔ accepted = 0) (cut : accepted = 0 ∨ accepted < packets.length)
      (early : ∃ k ≤ packets.length, polls k = true) :
      TransferEnd kind packets accepted' polls (.ok outcome) accepted
  | completed {outcome : CancellableTransferOutcome} (info : outcome.cancellation = none)
      (late : polls (packets.length + 1) = false ∧ polls (packets.length + 2) = false) :
      TransferEnd kind packets accepted' polls (.ok outcome) packets.length
  | completedAfterCancel {outcome : CancellableTransferOutcome} {i : OperationCancellationInfo}
      (info : outcome.cancellation = some i) (marked : kind.Marked (totalWords packets) i)
      (device : accepted') (words : totalWords packets ≠ 0)
      (early : ∀ k ≤ packets.length, polls k = false)
      (late : polls (packets.length + 1) = true ∨ polls (packets.length + 2) = true) :
      TransferEnd kind packets accepted' polls (.ok outcome) packets.length

section
variable (rules : SessionRules server kind Closed Open) (distinct : Distinct kind)
  (named : Named kind) {entryPoint imageCrc32 : Nat} {packets : List DataPacket} (fits : 6 ≤ limit)
  (countable : Countable packets.length (totalWords packets) imageCrc32)
include rules distinct named fits countable

theorem SessionRules.ends_cleanUp {sent : CancellableTransfer.Sent}
    (le : sent.words ≤ totalWords packets) (opened : Open s) :
    Dialogue.Ends server ((kind.transfer limit entryPoint imageCrc32 packets).cleanUp sent) s
      fun result exchanges s' => Closed s' ∧ kind.acceptedData exchanges = 0 ∧
        ∃ outcome i, result = .ok outcome ∧ outcome.cancellation = some i ∧
          kind.Marked sent.words i := by
  let t := kind.transfer limit entryPoint imageCrc32 packets
  have infos (reconnect : Bool) :
      ∃ i, t.info t.endStage sent.words reconnect false = .ok i ∧ kind.Marked sent.words i :=
    info_ok named entryPoint imageCrc32 named.endStage le reconnect false
  obtain ⟨i, hi, marked⟩ := infos false
  obtain ⟨j, hj, marked'⟩ := infos true
  apply Dialogue.ends_bind
    (Dialogue.ends_attempt (rules.ends_end distinct fits countable opened))
  · rintro error exchanges s' ⟨caught, same, -⟩
    cases same
  rintro ended exchanges s' ⟨caught, same, closed, none, -⟩
  cases same
  have quiet : kind.acceptedData (exchanges ++ []) = 0 := by
    rw [List.append_nil]
    exact none
  cases ended with
  | error error =>
    by_cases clean : CancellableTransfer.cleanupSucceeded error = true
    · show Dialogue.Ends server (if _ then _ else _) s' _
      rw [if_pos clean, hi]
      exact ⟨closed, quiet, _, i, rfl, rfl, marked⟩
    · show Dialogue.Ends server (if _ then _ else _) s' _
      rw [if_neg clean, hj]
      exact ⟨closed, quiet, _, j, rfl, rfl, marked'⟩
  | ok value =>
    show Dialogue.Ends server (.lift _) s' _
    rw [hi]
    exact ⟨closed, quiet, _, i, rfl, rfl, marked⟩

theorem SessionRules.ends_complete {polls : Nat → Bool} {sent : CancellableTransfer.Sent}
    (observed : sent.cancelObserved = polls (sent.packets + 1)) (opened : Open s) :
    Dialogue.Ends server ((kind.transfer limit entryPoint imageCrc32 packets).complete polls sent) s
      fun result exchanges s' => Closed s' ∧ kind.acceptedData exchanges = 0 ∧
        ((∃ error, result = .error error ∧ ¬ Accepts server s (kind.endRequest packets imageCrc32)) ∨
          Accepts server s (kind.endRequest packets imageCrc32) ∧
          ((polls (sent.packets + 1) = false ∧ polls (sent.packets + 2) = false) ∧
              (∃ outcome, result = .ok outcome ∧ outcome.cancellation = none) ∨
            (polls (sent.packets + 1) = true ∨ polls (sent.packets + 2) = true) ∧
              ∃ outcome i, result = .ok outcome ∧ outcome.cancellation = some i ∧
                kind.Marked (totalWords packets) i)) := by
  let t := kind.transfer limit entryPoint imageCrc32 packets
  obtain ⟨i, hi, marked⟩ : ∃ i, t.info t.endStage t.totalWords false true = .ok i ∧
      kind.Marked (totalWords packets) i :=
    info_ok named entryPoint imageCrc32 named.endStage (Nat.le_refl (totalWords packets)) false true
  apply Dialogue.ends_bind (rules.ends_end distinct fits countable opened)
  · rintro error exchanges s' ⟨closed, none, ⟨error', same, refused⟩ | ⟨same, -⟩⟩
    · exact ⟨closed, none, .inl ⟨error, rfl, refused⟩⟩
    · cases same
  rintro value exchanges s' ⟨closed, none, ⟨error', same, -⟩ | ⟨-, accepts⟩⟩
  · cases same
  have quiet : kind.acceptedData (exchanges ++ []) = 0 := by
    rw [List.append_nil]
    exact none
  by_cases late : (sent.cancelObserved || polls (sent.packets + 2)) = true
  · show Dialogue.Ends server (if _ then _ else _) s' _
    rw [if_pos late]
    rw [observed, Bool.or_eq_true] at late
    rw [hi]
    exact ⟨closed, quiet, .inr ⟨accepts, .inr ⟨late, _, i, rfl, rfl, marked⟩⟩⟩
  · show Dialogue.Ends server (if _ then _ else _) s' _
    rw [if_neg late]
    rw [observed, Bool.or_eq_true, not_or, Bool.not_eq_true, Bool.not_eq_true] at late
    exact ⟨closed, quiet, .inr ⟨accepts, .inl ⟨late, _, rfl, rfl⟩⟩⟩

end

section
variable (rules : SessionRules server kind Closed Open) (distinct : Distinct kind)
  (named : Named kind) {packets : List DataPacket}
include rules distinct named

/-- What follows an accepted BEGIN. -/
theorem SessionRules.ends_session {entryPoint imageCrc32 : Nat} (polls : Nat → Bool)
    (fits : 6 ≤ limit)
    (countable : Countable packets.length (totalWords packets) imageCrc32)
    (sendable : ∀ packet ∈ packets, Sendable limit packet) (some : packets ≠ []) (opened : Open s)
    {accepted' : Prop}
    (accepts : accepted' ↔ AcceptsAll server s
      (packets.map kind.dataRequest ++ [kind.endRequest packets imageCrc32]))
    (started : polls 0 = false) :
    let t := kind.transfer limit entryPoint imageCrc32 packets
    Dialogue.Ends server
      ((t.sendPackets polls ⟨0, 0, polls 1⟩ packets).bind fun sent =>
        if sent.cancelObserved = true ∧ (sent.packets < packets.length ∨
          sent.words < totalWords packets) then t.cleanUp sent else t.complete polls sent) s
      fun result exchanges s' => Closed s' ∧
        TransferEnd kind packets accepted' polls result (kind.acceptedData exchanges) := by
  intro t
  rw [acceptsAll_append] at accepts
  apply Dialogue.ends_bind
    (rules.ends_sendPackets entryPoint imageCrc32 packets polls sendable ⟨0, 0, polls 1⟩ opened rfl)
  · rintro error exchanges s' (⟨error', same, closed, refused⟩ | ⟨done, rest, sent, same, -⟩)
    · exact ⟨closed, .raised fun h => refused (accepts.1 h.1).1⟩
    · cases same
  rintro sent exchanges s' (⟨error, same, -⟩ | ⟨done, rest, sent', same, h⟩)
  · cases same
  cases same
  have count : sent.packets = done.length := by
    rw [h.packets]
    exact Nat.zero_add _
  have words : sent.words = totalWords done := by
    rw [h.words]
    exact Nat.zero_add _
  have total : totalWords packets = totalWords done + totalWords rest := by
    rw [h.split, totalWords_append]
  have length : packets.length = done.length + rest.length := by
    rw [h.split, List.length_append]
  have accepted (more : List (HostRequest × Except HostError HostAnswer))
      (none : kind.acceptedData more = 0) :
      kind.acceptedData (exchanges ++ more) = done.length := by
    have sum : kind.acceptedData (exchanges ++ more) =
        kind.acceptedData exchanges + kind.acceptedData more := List.countP_append
    rw [sum, none, h.accepted, Nat.add_zero]
  have unobserved : ∀ k ≤ done.length, polls k = false := by
    intro k hk
    cases k with
    | zero => exact started
    | succ k =>
      have := h.unobserved k (by omega)
      rwa [show (0 : Nat) + k + 1 = k + 1 by omega] at this
  have positive : totalWords done = 0 ↔ done.length = 0 := by
    rw [totalWords_eq]
    constructor
    · intro zero
      have empty := List.eq_nil_of_length_eq_zero zero
      rw [List.flatMap_eq_nil_iff] at empty
      apply List.length_eq_zero_iff.2
      apply List.eq_nil_iff_forall_not_mem.2
      intro packet mem
      exact h.nonempty packet mem (empty packet mem)
    · intro zero
      rw [List.eq_nil_of_length_eq_zero zero]
      rfl
  by_cases cut : sent.cancelObserved = true ∧
      (sent.packets < packets.length ∨ sent.words < totalWords packets)
  · rw [if_pos cut]
    have left : rest ≠ [] := by
      rintro rfl
      have none : totalWords [] = 0 := rfl
      simp only [List.length_nil] at length
      omega
    have fewer : 0 < rest.length := List.length_pos_iff.2 left
    apply (rules.ends_cleanUp distinct named fits countable
      (by rw [words, total]; exact Nat.le_add_right _ _) h.opened).mono
    rintro result more s'' ⟨closed, none, outcome, i, rfl, info, marked⟩
    rw [accepted more none]
    have early : ∃ k ≤ packets.length, polls k = true := by
      refine ⟨sent.packets + 1, by omega, ?_⟩
      rw [← h.observed]
      exact cut.1
    exact ⟨closed, .cancelled info marked (by rw [words]; exact positive) (.inr (by omega)) early⟩
  · rw [if_neg cut]
    have all : rest = [] := by
      apply Classical.byContradiction
      intro left
      have fewer : 0 < rest.length := List.length_pos_iff.2 left
      exact cut ⟨h.stopped left, .inl (by omega)⟩
    subst all
    obtain rfl : packets = done := by rw [h.split, List.append_nil]
    have device : accepted' ↔ Accepts server s' (kind.endRequest packets imageCrc32) := by
      rw [accepts, h.state]
      constructor
      · exact fun all => all.2.1
      · exact fun last => ⟨h.accepts, last, trivial⟩
    apply (rules.ends_complete distinct named fits countable h.observed h.opened).mono
    rintro result more s'' ⟨closed, none, ⟨error, rfl, refused⟩ | ⟨accepts, rest⟩⟩
    · exact ⟨closed, .raised fun h => refused (device.1 h.1)⟩
    rw [accepted more none]
    rw [count] at rest
    rcases rest with ⟨late, outcome, rfl, info⟩ | ⟨late, outcome, i, rfl, info, marked⟩
    · exact ⟨closed, .completed info late⟩
    · refine ⟨closed, .completedAfterCancel info marked (device.2 accepts) ?_ unobserved late⟩
      rw [ne_eq, positive]
      exact fun empty => some (List.eq_nil_of_length_eq_zero empty)

/-- Every transfer leaves the session closed, and ends in one of the four ways. -/
theorem SessionRules.ends_transfer (entryPoint imageCrc32 : Nat) (polls : Nat → Bool)
    (sendable : ∀ packet ∈ packets, Sendable limit packet) (closed : Closed s) :
    Dialogue.Ends server
      ((kind.transfer limit entryPoint imageCrc32 packets).runCancellableTransfer polls) s
      fun result exchanges s' => Closed s' ∧
        TransferEnd kind packets (Accepted server kind s limit entryPoint imageCrc32 packets) polls
          result (kind.acceptedData exchanges) := by
  unfold CancellableTransfer.runCancellableTransfer
  by_cases started : polls 0 = true
  · rw [if_pos started]
    let t := kind.transfer limit entryPoint imageCrc32 packets
    obtain ⟨i, hi, marked⟩ : ∃ i, t.info t.beginStage 0 false false = .ok i ∧ kind.Marked 0 i :=
      info_ok named entryPoint imageCrc32 named.beginStage (Nat.zero_le _) false false
    rw [hi]
    exact ⟨closed, .cancelled rfl marked Iff.rfl (.inl rfl) ⟨0, Nat.zero_le _, started⟩⟩
  rw [if_neg started]
  rw [Bool.not_eq_true] at started
  by_cases sent : BeginSent limit kind.target packets.length (totalWords packets) entryPoint imageCrc32
  · let q := kind.beginRequest packets entryPoint imageCrc32
    obtain ⟨a, answer⟩ := rules.answers s q (show 9 ≤ 256 by decide)
    obtain ⟨-, accepted, rejected⟩ := rules.begins s q a rfl closed answer
    show Dialogue.Ends server ((beginProtocol ..).bind _) s _
    rw [beginProtocol_sent sent]
    apply Dialogue.ends_bind (ends_transact sent.encodable answer)
    · rintro error exchanges s' ⟨rfl, rfl, same⟩
      by_cases ok : a.status = BootStatus.ok
      · rw [if_pos ok] at same
        cases same
      · refine ⟨rejected ok, .raised ?_⟩
        rintro ⟨⟨-, ⟨a', answer', ok'⟩, -⟩, -⟩
        cases answer.symm.trans answer'
        exact ok ok'
    rintro value exchanges s' ⟨rfl, rfl, same⟩
    by_cases ok : a.status = BootStatus.ok
    · obtain ⟨opened, count⟩ := accepted ok
      have some : packets ≠ [] := by
        rintro rfl
        exact count rfl
      have fits : 6 ≤ limit := Nat.le_trans (show 6 ≤ 9 by decide) sent.encodable.length
      have accepts : Accepted server kind s limit entryPoint imageCrc32 packets ↔
          AcceptsAll server (server s q).2
            (packets.map kind.dataRequest ++ [kind.endRequest packets imageCrc32]) := by
        constructor
        · exact fun h => h.accepts.2
        · exact fun h => ⟨sent, ⟨a, answer, ok⟩, h⟩
      have quiet : ∀ more, kind.acceptedData ([(q, .ok a)] ++ more) = kind.acceptedData more := by
        intro more
        have first : isAccepted kind.dataCommand (q, .ok a) = false :=
          isAccepted_other distinct.begin_data _
        rw [acceptedData, List.singleton_append, List.countP_cons_of_neg (by rw [first]; decide)]
        rfl
      apply (rules.ends_session distinct named polls fits sent.toCountable sendable some opened accepts
        started).mono
      rintro result more s'' ⟨closed, ends⟩
      rw [← quiet more] at ends
      exact ⟨closed, ends⟩
    · rw [if_neg ok] at same
      cases same
  · obtain ⟨error, refused⟩ := beginProtocol_refused kind.beginCommand sent
    show Dialogue.Ends server ((beginProtocol ..).bind _) s _
    rw [refused]
    exact ⟨closed, .raised fun h => sent h.1.sent⟩

end

end

/-! ## At most one END -/

theorem beginProtocol_always {P : HostRequest → Prop} {limit : Nat} {command : UInt16}
    {target packetCount totalWords entryPoint imageCrc32 : Nat}
    (h : ∀ payload, P (hostRequest command payload)) :
    (beginProtocol limit command target packetCount totalWords entryPoint imageCrc32).Always P := by
  apply (Dialogue.always_lift _).bind
  intro payload
  exact (transact_always (h payload)).bind fun _ => trivial

theorem dataProtocol_always {P : HostRequest → Prop} {limit : Nat} {command : UInt16}
    {packet : DataPacket} (h : ∀ payload, P (hostRequest command payload)) :
    (dataProtocol limit command packet).Always P := by
  apply (Dialogue.always_lift _).bind
  intro payload
  exact (transact_always (h payload)).bind fun _ => trivial

theorem endProtocol_always {P : HostRequest → Prop} {limit : Nat} {command : UInt16}
    {packetCount totalWords imageCrc32 : Nat} (h : ∀ payload, P (hostRequest command payload)) :
    (endProtocol limit command packetCount totalWords imageCrc32).Always P := by
  apply (Dialogue.always_lift _).bind
  intro payload
  exact (transact_always (h payload)).bind fun _ => trivial

theorem endProtocol_endsWith {P T : HostRequest → Prop} {limit : Nat} {command : UInt16}
    {packetCount totalWords imageCrc32 : Nat} (h : ∀ payload, T (hostRequest command payload)) :
    (endProtocol limit command packetCount totalWords imageCrc32).EndsWith P T := by
  apply Dialogue.endsWith_bind (Dialogue.always_lift _)
  intro payload
  exact (transact_endsWith (h payload)).bind fun _ => trivial

/-- A transfer asks its three commands. -/
theorem transfer_always {P : HostRequest → Prop} {kind : TransferKind}
    (begins : ∀ payload, P (hostRequest kind.beginCommand payload))
    (data : ∀ payload, P (hostRequest kind.dataCommand payload))
    (ends : ∀ payload, P (hostRequest kind.endCommand payload)) (limit entryPoint imageCrc32 : Nat)
    (packets : List DataPacket) (polls : Nat → Bool) :
    ((kind.transfer limit entryPoint imageCrc32 packets).runCancellableTransfer polls).Always P := by
  let t := kind.transfer limit entryPoint imageCrc32 packets
  have ending : t.sendEnd.Always P := endProtocol_always ends
  have loop : ∀ (rest : List DataPacket) (sent : CancellableTransfer.Sent),
      (t.sendPackets polls sent rest).Always P := by
    intro rest
    induction rest with
    | nil => exact fun _ => trivial
    | cons packet rest ih =>
      intro sent
      unfold CancellableTransfer.sendPackets
      split
      · trivial
      · exact (dataProtocol_always data).bind fun _ => ih _
  unfold CancellableTransfer.runCancellableTransfer
  split
  · exact Dialogue.always_lift _
  apply Dialogue.Always.bind (beginProtocol_always begins)
  intro _
  apply Dialogue.Always.bind (loop packets _)
  intro sent
  dsimp only
  split
  · apply ending.attempt.bind
    intro ended
    split
    · split <;> exact Dialogue.always_lift _
    · exact Dialogue.always_lift _
  · apply ending.bind
    intro _
    dsimp only
    split
    · exact Dialogue.always_lift _
    · trivial

/-- Nothing follows the END of a transfer. -/
theorem transfer_endsWith {kind : TransferKind} (distinct : Distinct kind)
    (limit entryPoint imageCrc32 : Nat) (packets : List DataPacket) (polls : Nat → Bool) :
    ((kind.transfer limit entryPoint imageCrc32 packets).runCancellableTransfer polls).EndsWith
      (fun q => q.command ≠ kind.endCommand) (fun q => q.command = kind.endCommand) := by
  let t := kind.transfer limit entryPoint imageCrc32 packets
  have ending : t.sendEnd.EndsWith (fun q => q.command ≠ kind.endCommand)
      (fun q => q.command = kind.endCommand) := endProtocol_endsWith fun _ => rfl
  have loop : ∀ (rest : List DataPacket) (sent : CancellableTransfer.Sent),
      (t.sendPackets polls sent rest).Always fun q => q.command ≠ kind.endCommand := by
    intro rest
    induction rest with
    | nil => exact fun _ => trivial
    | cons packet rest ih =>
      intro sent
      unfold CancellableTransfer.sendPackets
      split
      · trivial
      · exact (dataProtocol_always fun _ => distinct.data_end).bind fun _ => ih _
  unfold CancellableTransfer.runCancellableTransfer
  split
  · exact Dialogue.endsWith_of_silent (Dialogue.always_lift _)
  apply Dialogue.endsWith_bind (beginProtocol_always fun _ => distinct.begin_end)
  intro _
  apply Dialogue.endsWith_bind (loop packets _)
  intro sent
  dsimp only
  split
  · apply ending.attempt.bind
    intro ended
    split
    · split <;> exact Dialogue.always_lift _
    · exact Dialogue.always_lift _
  · apply ending.bind
    intro _
    dsimp only
    split
    · exact Dialogue.always_lift _
    · trivial

end TransferKind

end BootUpgrade

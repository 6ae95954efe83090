import BootUpgrade.Host.BootProtocolClient
import BootUpgrade.Host.Completion

/-!
# Sessions and what survives a reconnect

`UpgradeSession.connect` resets the sequence and the capabilities of the client
but not the buffer of its frame reader.
-/

namespace BootUpgrade

/-- `TransportOpenResult`, with the checks of its constructor. -/
structure TransportOpenResult where
  cancelled : Bool
  resourceReleased : Bool
  stage : String
  stage_ne : stage ≠ ""
  released : resourceReleased = cancelled

/-- A byte transport that is opened and closed. -/
structure SessionTransport (τ : Type) extends ByteTransport τ where
  openPort : τ → Except HostError TransportOpenResult × τ
  closePort : τ → Except HostError Unit × τ

namespace HostProtocol

open BootProtocol

/-! ## Sessions -/

inductive SessionCall where
  | connect
  | disconnect
  | transact (command : UInt16) (payload : List Int) (timeoutMs : Option Int)

inductive SessionResult where
  | connected (result : Except HostError TransportOpenResult)
  | disconnected (result : Except HostError Unit)
  | transacted (result : Except HostError (List UInt16))

/-- `UpgradeSession` with its transport. -/
structure UpgradeSession (τ : Type) where
  client : BootProtocolClient
  transport : τ

namespace UpgradeSession

variable {τ : Type} (t : SessionTransport τ)

def call (session : UpgradeSession τ) : SessionCall → SessionResult × UpgradeSession τ
  | .connect =>
    let client := session.client.resetConnectionState
    let opened := t.openPort session.transport
    (.connected opened.1, ⟨client, opened.2⟩)
  | .disconnect =>
    let closed := t.closePort session.transport
    (.disconnected closed.1, ⟨session.client, closed.2⟩)
  | .transact command payload timeoutMs =>
    let r := BootProtocolClient.transact t.toByteTransport command payload timeoutMs session.client
      session.transport
    (.transacted r.result, ⟨r.client, r.transport⟩)

/-- The results of the calls, one after the other. -/
def results : List SessionCall → UpgradeSession τ → List SessionResult
  | [], _ => []
  | c :: calls, session => (session.call t c).1 :: results calls (session.call t c).2

/-- The session after the calls. -/
def after : List SessionCall → UpgradeSession τ → UpgradeSession τ
  | [], session => session
  | c :: calls, session => after calls (session.call t c).2

end UpgradeSession

/-- From a reconnect on, both clients get the same results over every transport. -/
def SameAfterReconnect (a b : BootProtocolClient) : Prop :=
  ∀ (τ : Type) (t : SessionTransport τ) (s : τ) (calls : List SessionCall),
    UpgradeSession.results t (.disconnect :: .connect :: calls) ⟨a, s⟩ =
      UpgradeSession.results t (.disconnect :: .connect :: calls) ⟨b, s⟩

/-- What an `UpgradeSession` has gone through on its transport. -/
structure History where
  τ : Type
  transport : SessionTransport τ
  start : τ
  calls : List SessionCall

/-- The client at the end of the history. -/
def History.client (h : History) : BootProtocolClient :=
  (UpgradeSession.after h.transport h.calls ⟨.new, h.start⟩).client

/-- No header can begin in the buffer, whatever the next bytes are. -/
def NothingBegun (buffer : List UInt8) : Prop := ∀ i < buffer.length, ¬ MayBegin (buffer.drop i)

/-! ## The buffer in a transaction -/

namespace BootProtocolClient

/-- The two clients agree up to the dead part of their buffers. -/
def Alike (a b : BootProtocolClient) : Prop :=
  ∃ buffer, b = { a with buffer } ∧ live a.buffer = live buffer

theorem alike_respond (client : BootProtocolClient) (request : Frame)
    (read : Except HostError Frame) {x y : List UInt8} (same : live x = live y) :
    ({ client with buffer := x }.respond request read).1 =
        ({ client with buffer := y }.respond request read).1 ∧
      Alike ({ client with buffer := x }.respond request read).2
        ({ client with buffer := y }.respond request read).2 := by
  rw [respond_buffer client request read x, respond_buffer client request read y]
  exact ⟨rfl, y, rfl, same⟩

theorem transact_alike {τ : Type} (t : ByteTransport τ) (command : UInt16) (payload : List Int)
    (timeoutMs : Option Int) {a b : BootProtocolClient} (alike : Alike a b) (s : τ) :
    (transact t command payload timeoutMs a s).result =
        (transact t command payload timeoutMs b s).result ∧
      (transact t command payload timeoutMs a s).transport =
        (transact t command payload timeoutMs b s).transport ∧
      Alike (transact t command payload timeoutMs a s).client
        (transact t command payload timeoutMs b s).client := by
  obtain ⟨buffer, rfl, same⟩ := alike
  have limit : { a with buffer }.payloadLimit command = a.payloadLimit command := rfl
  unfold transact
  rw [limit]
  rcases a.payloadLimit command with error | maxPayload
  · exact ⟨rfl, rfl, buffer, rfl, same⟩
  dsimp only
  split
  · exact ⟨rfl, rfl, buffer, rfl, same⟩
  rcases Frame.create pktRequest.toNat command.toNat (nextSequence a.sequence).toNat payload 0 0
    protocolVersion.toNat with error | request
  · exact ⟨rfl, rfl, buffer, rfl, same⟩
  dsimp only
  rcases t.writeAll request.encodeBytes s with ⟨error | ⟨⟩, s'⟩
  · exact ⟨rfl, rfl, buffer, rfl, same⟩
  dsimp only
  obtain ⟨result, transport, left⟩ := readFrame_live t
    (effectiveTimeoutMs command timeoutMs) maxPayload same s'
  rw [← result]
  obtain ⟨answer, alike⟩ := alike_respond { a with sequence := nextSequence a.sequence } request
    (readFrame t (effectiveTimeoutMs command timeoutMs) maxPayload a.buffer s').result left
  exact ⟨answer, transport, alike⟩

end BootProtocolClient

theorem call_alike {τ : Type} (t : SessionTransport τ) (c : SessionCall)
    {a b : BootProtocolClient} (alike : a.Alike b) (s : τ) :
    (UpgradeSession.call t ⟨a, s⟩ c).1 = (UpgradeSession.call t ⟨b, s⟩ c).1 ∧
      (UpgradeSession.call t ⟨a, s⟩ c).2.transport = (UpgradeSession.call t ⟨b, s⟩ c).2.transport ∧
      (UpgradeSession.call t ⟨a, s⟩ c).2.client.Alike (UpgradeSession.call t ⟨b, s⟩ c).2.client := by
  cases c with
  | connect =>
    obtain ⟨buffer, rfl, same⟩ := alike
    exact ⟨rfl, rfl, buffer, rfl, same⟩
  | disconnect => exact ⟨rfl, rfl, alike⟩
  | transact command payload timeoutMs =>
    obtain ⟨result, transport, left⟩ := BootProtocolClient.transact_alike t.toByteTransport command
      payload timeoutMs alike s
    exact ⟨congrArg SessionResult.transacted result, transport, left⟩

theorem results_alike {τ : Type} (t : SessionTransport τ) (calls : List SessionCall)
    {a b : BootProtocolClient} (alike : a.Alike b) (s : τ) :
    UpgradeSession.results t calls ⟨a, s⟩ = UpgradeSession.results t calls ⟨b, s⟩ := by
  induction calls generalizing a b s with
  | nil => rfl
  | cons c calls ih =>
    have step := call_alike t c alike s
    unfold UpgradeSession.results
    generalize UpgradeSession.call t ⟨a, s⟩ c = ra at step ⊢
    generalize UpgradeSession.call t ⟨b, s⟩ c = rb at step ⊢
    obtain ⟨result, client, s'⟩ := ra
    obtain ⟨result', client', s''⟩ := rb
    obtain ⟨rfl, rfl, left⟩ : result = result' ∧ s' = s'' ∧ client.Alike client' := step
    rw [ih left s']

/-- After a reconnect only the live part of the buffer is left to tell two clients
apart. -/
theorem sameAfterReconnect_of_live {a b : BootProtocolClient} (same : live a.buffer = live b.buffer) :
    SameAfterReconnect a b := by
  intro τ t s calls
  have reset : a.resetConnectionState.Alike b.resetConnectionState := ⟨b.buffer, rfl, same⟩
  have rest := results_alike t calls reset (t.openPort (t.closePort s).2).2
  simp only [UpgradeSession.results, UpgradeSession.call]
  rw [rest]

/-! ## What the buffer gives away -/

/-- A transport that delivers prepared chunks, one for each turn of the reading
loop. -/
def prepared : SessionTransport (List (List UInt8)) where
  writeAll _ chunks := (.ok (), chunks)
  readSome _ chunks :=
    match chunks with
    | [] => (.ok [], [])
    | chunk :: chunks => (.ok chunk, chunks)
  turns _ chunks := chunks.length
  openPort chunks := (.ok ⟨false, false, "opened", by decide, rfl⟩, chunks)
  closePort chunks := (.ok (), chunks)

/-- The PING that a client sends first. -/
def firstPing : Frame where
  packetType := pktRequest
  command := BootCmd.ping
  sequence := nextSequence 0
  payload := []
  flags := 0
  status := 0
  protocolVersion := protocolVersion
  sequence_ne := nextSequence_ne 0
  payload_le := Nat.zero_le _

/-- The result of the first PING after a reconnect, if one chunk arrives. -/
theorem results_ping (client : BootProtocolClient) (chunk : List UInt8) :
    UpgradeSession.results prepared
        [.disconnect, .connect, .transact BootCmd.ping [] none] ⟨client, [chunk]⟩ =
      [.disconnected (.ok ()), .connected (.ok ⟨false, false, "opened", by decide, rfl⟩),
        .transacted ((BootProtocolClient.respond ⟨1, none, none,
          (readFrame prepared.toByteTransport 1000 16 client.buffer [chunk]).buffer⟩ firstPing
          (readFrame prepared.toByteTransport 1000 16 client.buffer [chunk]).result).1)] := rfl

/-- The reader settles the one chunk, or runs out of time. -/
theorem readFrame_prepared (buffer : List UInt8) {chunk : List UInt8} (ne : chunk ≠ []) :
    (settle 16 (live (buffer ++ chunk)) = none ∧
      (readFrame prepared.toByteTransport 1000 16 buffer [chunk]).result =
        .error .transportTimeoutError) ∨
    ∃ rest, settle 16 (live (buffer ++ chunk)) =
      some ((readFrame prepared.toByteTransport 1000 16 buffer [chunk]).result, rest) := by
  obtain ⟨byte, chunk, rfl⟩ := List.exists_cons_of_ne_nil ne
  have turn : readFrame prepared.toByteTransport 1000 16 buffer [byte :: chunk] =
      readLoop prepared.toByteTransport 16 1 buffer [byte :: chunk] := rfl
  have read : prepared.readSome 4096 [byte :: chunk] = (.ok (byte :: chunk), []) := rfl
  rw [turn]
  unfold readLoop
  rw [read]
  dsimp only
  rcases extract_live 16 (buffer ++ byte :: chunk) with
    ⟨settled, rest, more, -⟩ | ⟨result, rest, settled, ended⟩
  · rw [more]
    exact .inl ⟨settled, rfl⟩
  · rw [ended]
    exact .inr ⟨rest, settled⟩

theorem conclude_ping (client : BootProtocolClient) (response : Frame) :
    Raises (· ≠ .transportTimeoutError) (client.conclude firstPing response) := by
  have cached : client.cacheCapability firstPing.command response.payload = .ok client := rfl
  unfold BootProtocolClient.conclude
  split
  · exact .error nofun
  split
  · exact .error nofun
  split
  · exact .error nofun
  split
  · exact .error nofun
  split
  · exact .error nofun
  rw [cached]
  exact .ok _

/-- A PING to which something was read does not time out. -/
theorem respond_ping {client : BootProtocolClient} {read : Except HostError Frame}
    (raises : Raises IsFrameError read) :
    (client.respond firstPing read).1 ≠ .error .transportTimeoutError := by
  intro timeout
  rcases read with error | response
  · obtain ⟨kind, message, rfl⟩ := raises error rfl
    cases timeout
  · have concluded := conclude_ping client response
    unfold BootProtocolClient.respond at timeout
    dsimp only at timeout
    generalize client.conclude firstPing response = ended at concluded timeout
    rcases ended with error | ⟨payload, client'⟩
    · cases timeout
      exact concluded _ rfl rfl
    · cases timeout

/-- One chunk after the reconnect tells a buffer in which something has begun from
one in which nothing has. -/
theorem nothingBegun_of_same {a b : BootProtocolClient} (quiet : NothingBegun b.buffer)
    (same : SameAfterReconnect a b) : NothingBegun a.buffer := by
  have dead : live b.buffer = [] := Residue.live_eq_nil.2 quiet
  apply Residue.live_eq_nil.1
  apply Classical.byContradiction
  intro alive
  obtain ⟨chunk, valid, long, nowhere⟩ := exists_completion alive (Residue.begins_live alive)
  have ne : chunk ≠ [] := by
    rintro rfl
    exact absurd long (by decide)
  have completed : live (a.buffer ++ chunk) = live a.buffer ++ chunk := by
    rw [← live_append, live, Residue.live_of_begins (mayBegin_of_valid valid)]
  have fresh : live (b.buffer ++ chunk) = live chunk := by
    rw [← live_append, dead, List.nil_append]
  have results := same _ prepared [chunk] [.transact BootCmd.ping [] none]
  rw [results_ping, results_ping] at results
  have answers := SessionResult.transacted.inj (List.cons.inj (List.cons.inj (List.cons.inj
    results).2).2).1
  rcases readFrame_prepared b.buffer ne with ⟨-, timeout⟩ | ⟨rest, settled⟩
  · rcases readFrame_prepared a.buffer ne with ⟨settled, -⟩ | ⟨rest, settled⟩
    · obtain ⟨r, whole⟩ : ∃ r, settle 16 (live a.buffer ++ chunk) = some r := by
        apply settle_whole valid
        rw [List.length_append]
        omega
      rw [completed, whole] at settled
      cases settled
    · rw [timeout] at answers
      exact respond_ping (settle_raises settled) answers
  · rw [fresh, settle_nowhere nowhere] at settled
    cases settled

/-- A transport with prepared outcomes of the writes besides. -/
structure Script where
  writes : List (Except HostError Unit)
  reads : List (List UInt8)

def scripted : SessionTransport Script where
  writeAll _ script :=
    match script.writes with
    | [] => (.ok (), script)
    | outcome :: writes => (outcome, { script with writes })
  readSome _ script :=
    match script.reads with
    | [] => (.ok [], script)
    | chunk :: reads => (.ok chunk, { script with reads })
  turns _ script := script.reads.length
  openPort script := (.ok ⟨false, false, "opened", by decide, rfl⟩, script)
  closePort script := (.ok (), script)

/-- An answer to GET_LAST_ERROR under sequence 1. -/
def lastErrorResponse (payload : List UInt16) : WireFrame :=
  ⟨protocolVersion, pktResponse, BootCmd.getLastError, 1, 0, BootStatus.ok, payload⟩

/-- The write of GET_LAST_ERROR raises although all its bytes are sent, the next
call sends it again, and both answers arrive in one chunk. -/
def staleHistory : History where
  τ := Script
  transport := scripted
  start := ⟨[.error (.transportError "write timed out")],
    [(lastErrorResponse [7]).bytes ++ (lastErrorResponse [8]).bytes]⟩
  calls := [.connect, .transact BootCmd.getLastError [] none, .transact BootCmd.getLastError [] none]

def unusedHistory : History where
  τ := Script
  transport := scripted
  start := ⟨[], []⟩
  calls := []

def transactedPayload : SessionResult → Option (List UInt16)
  | .transacted (.ok payload) => some payload
  | _ => none

theorem stale_answer :
    ((UpgradeSession.results scripted
      [.disconnect, .connect, .transact BootCmd.getLastError [] none]
      ⟨staleHistory.client, [], [(lastErrorResponse [0]).bytes]⟩).map transactedPayload,
     (UpgradeSession.results scripted
      [.disconnect, .connect, .transact BootCmd.getLastError [] none]
      ⟨unusedHistory.client, [], [(lastErrorResponse [0]).bytes]⟩).map transactedPayload) =
    ([none, none, some [8]], [none, none, some [0]]) := by decide +kernel

/-- Reconnect noninterference: a history is indistinguishable, after a reconnect,
from one that has left nothing in the reader's buffer, exactly when it has left
nothing there either. -/
theorem reconnect_noninterference (h h' : History) (quiet : NothingBegun h'.client.buffer) :
    SameAfterReconnect h.client h'.client ↔ NothingBegun h.client.buffer := by
  constructor
  · exact nothingBegun_of_same quiet
  · intro begun
    apply sameAfterReconnect_of_live
    calc live h.client.buffer = [] := Residue.live_eq_nil.2 begun
      _ = live h'.client.buffer := (Residue.live_eq_nil.2 quiet).symm

theorem reconnect_noninterference_unused :
    SameAfterReconnect staleHistory.client unusedHistory.client ↔
      NothingBegun staleHistory.client.buffer :=
  reconnect_noninterference staleHistory unusedHistory fun _ hi => absurd hi (Nat.not_lt_zero _)

/-- The second answer of the stale history is taken for the answer to the first
request after the reconnect. -/
theorem reconnect_noninterference_stale :
    ¬ ∀ h h' : History, SameAfterReconnect h.client h'.client := by
  intro always
  have same := always staleHistory unusedHistory _ scripted ⟨[], [(lastErrorResponse [0]).bytes]⟩
    [.transact BootCmd.getLastError [] none]
  have payloads := congrArg (List.map transactedPayload) same
  have answers := stale_answer
  rw [payloads] at answers
  exact absurd (Prod.mk.inj answers).1 (by rw [(Prod.mk.inj answers).2]; decide)

end HostProtocol

end BootUpgrade

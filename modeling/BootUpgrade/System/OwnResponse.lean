import BootUpgrade.Core.CrcGate
import BootUpgrade.System.Reading

/-!
# The responses that the calls return

A run of calls over one connection keeps the sequence of the client, the numbers
of the requests and the responses on their way in step. A payload that a call
returns is then the response to its own request, if the device takes nothing for
a request but what a `write_all` that has returned delivered.
-/

namespace BootUpgrade

open BootProtocol HostProtocol BootAlgorithm BootProtocolClient Link

variable {σ : Type} {features : BootFeatures} {code : ServiceCode σ}

/-! ## The invariant of a session -/

/-- The client counts the requests whose `write_all` has returned, each carries its
number, and its buffer and the channel hold the responses that are unread. -/
structure Linked (s : LinkSession σ) : Prop where
  sequence : s.client.sequence = sequenceAfter s.link.sent.length
  numbered : ∀ n r, s.link.sent[n]? = some r →
    ∃ request : Frame, r.bytes = request.encodeBytes ∧ request.sequence = sequenceAfter (n + 1)
  streamed : ∃ taken unread, Streamed s.client.buffer s.link taken unread

/-- A client that has just connected, and a channel with nothing on its way. -/
structure JustConnected (s : LinkSession σ) : Prop where
  sequence : s.client.sequence = 0
  buffer : s.client.buffer = []
  toDevice : s.link.toDevice = []
  toHost : s.link.toHost = []
  delivered : s.link.delivered = 0
  responded : s.link.responded = 0
  sent : s.link.sent = []
  answers : s.link.answers = []

theorem linked_start {s : LinkSession σ} (start : JustConnected s) : Linked s := by
  constructor
  · rw [start.sequence, start.sent]
    rfl
  · intro n r found
    rw [start.sent] at found
    cases found
  · refine ⟨[], [], ?_, ?_, trivial, start.responded⟩
    · rw [start.answers]
      rfl
    · rw [start.buffer, start.toHost]
      rfl

theorem write_streamed {link : Link σ} {buffer : List UInt8} {taken unread : List Answer}
    (streamed : Streamed buffer link taken unread) (bytes : List UInt8) (outcome : WriteOutcome) :
    Streamed buffer (link.write bytes outcome) taken unread := by
  cases outcome <;> exact ⟨streamed.kept, streamed.bytes, streamed.placed, streamed.responded⟩

section
variable {link : Link σ} {buffer : List UInt8} {maxPayloadWords : Nat} {taken unread : List Answer}

theorem ReadOutcome.streamed {turns : List Turn} {r : FrameRead (Connection σ)}
    (outcome : ReadOutcome features code maxPayloadWords buffer link turns taken unread r) :
    ∃ taken unread, Streamed r.buffer r.transport.link taken unread := by
  cases outcome with
  | timedOut _ _ streamed => exact ⟨_, _, streamed⟩
  | raised _ _ _ streamed => exact ⟨_, _, streamed⟩
  | refused _ _ _ streamed => exact ⟨_, _, streamed⟩
  | taken _ _ _ streamed whole left =>
    rw [left]
    exact ⟨_, _, streamed.read whole⟩

theorem readFrame_streamed (timeoutMs : Int) (write : WriteOutcome) (turns : List Turn)
    (streamed : Streamed buffer link taken unread) :
    ∃ taken unread, Streamed
      (readFrame (linkTransport features code) timeoutMs maxPayloadWords buffer
        ⟨link, write, turns⟩).buffer
      (readFrame (linkTransport features code) timeoutMs maxPayloadWords buffer
        ⟨link, write, turns⟩).transport.link taken unread := by
  unfold readFrame
  split
  · exact ⟨taken, unread, streamed⟩
  · exact (readLoop_outcome write turns streamed).streamed

theorem readFrame_grown (timeoutMs : Int) (write : WriteOutcome) (turns : List Turn) :
    Grown link (readFrame (linkTransport features code) timeoutMs maxPayloadWords buffer
        ⟨link, write, turns⟩).transport.link ∧
      Grown (readFrame (linkTransport features code) timeoutMs maxPayloadWords buffer
        ⟨link, write, turns⟩).transport.link (flow features code turns link) := by
  unfold readFrame
  split
  · exact ⟨.refl link, flow_grown turns⟩
  · exact readLoop_grown write turns buffer

end

/-- A call sends nothing, or raises in its write, or reads. -/
inductive CallCases (features : BootFeatures) (code : ServiceCode σ) (s : LinkSession σ)
    (c : LinkCall) : Prop
  | refused {error : HostError} (result : s.call features code c = (.error error, s))
  | raised {request : Frame} {n : Nat} {error : HostError} (write : c.write = .raised n error)
      (result : s.call features code c =
        (.error error, ⟨s.client, s.link.write request.encodeBytes (.raised n error)⟩))
  | read {request : Frame} {limit : Nat} {r : FrameRead (Connection σ)} (write : c.write = .returned)
      (requests : Requests s.client c.command c.payload request)
      (limited : s.client.payloadLimit c.command = .ok limit)
      (reads : r = readFrame (linkTransport features code) (effectiveTimeoutMs c.command c.timeoutMs)
        limit s.client.buffer ⟨s.link.write request.encodeBytes .returned, .returned, c.turns⟩)
      (result : s.call features code c =
        (({ s.client with sequence := request.sequence, buffer := r.buffer }.respond request
            r.result).1,
          ⟨({ s.client with sequence := request.sequence, buffer := r.buffer }.respond request
            r.result).2, r.transport.link⟩))

theorem call_cases (features : BootFeatures) (code : ServiceCode σ) (s : LinkSession σ)
    (c : LinkCall) : CallCases features code s c := by
  obtain ⟨command, payload, timeoutMs, write, turns⟩ := c
  rcases transact_cases (linkTransport features code) command payload timeoutMs s.client
      ⟨s.link, write, turns⟩ with
    ⟨error, same⟩ | ⟨request, limit, requests, limited, ⟨error, s', written, same⟩ |
      ⟨s', r, written, reads, same⟩⟩
  · have result : s.call features code ⟨command, payload, timeoutMs, write, turns⟩ =
        (.error error, s) := by
      rw [LinkSession.call, same]
    exact .refused result
  · cases write with
    | returned => cases written
    | raised n raises =>
      cases written
      have result : s.call features code ⟨command, payload, timeoutMs, .raised n error, turns⟩ =
          (.error error, ⟨s.client, s.link.write request.encodeBytes (.raised n error)⟩) := by
        rw [LinkSession.call, same]
      exact .raised rfl result
  · cases write with
    | raised n raises => cases written
    | returned =>
      cases written
      apply CallCases.read rfl requests limited reads
      rw [LinkSession.call, same]

theorem numbered_append {sent : List SentRequest} {request : Frame} {stop : Nat}
    (numbered : ∀ n r, sent[n]? = some r →
      ∃ request : Frame, r.bytes = request.encodeBytes ∧ request.sequence = sequenceAfter (n + 1))
    (sequence : request.sequence = sequenceAfter (sent.length + 1)) :
    ∀ n r, (sent ++ [⟨request.encodeBytes, stop⟩])[n]? = some r →
      ∃ request : Frame, r.bytes = request.encodeBytes ∧ request.sequence = sequenceAfter (n + 1) := by
  intro n r found
  by_cases earlier : n < sent.length
  · rw [List.getElem?_append_left earlier] at found
    exact numbered n r found
  · rw [List.getElem?_append_right (Nat.not_lt.1 earlier)] at found
    obtain ⟨inside, rfl⟩ := List.getElem?_eq_some_iff.1 found
    rw [List.length_singleton] at inside
    obtain rfl : n = sent.length := by omega
    refine ⟨request, ?_, sequence⟩
    simp only [Nat.sub_self, List.getElem_cons_zero]

/-- A call keeps the invariant. -/
theorem call_linked {s : LinkSession σ} (linked : Linked s) (c : LinkCall) :
    Linked (s.call features code c).2 := by
  obtain ⟨taken, unread, streamed⟩ := linked.streamed
  cases call_cases features code s c with
  | refused result =>
    rw [result]
    exact linked
  | @raised request n error write result =>
    have kept := write_streamed streamed request.encodeBytes (.raised n error)
    rw [result]
    exact ⟨linked.sequence, linked.numbered, taken, unread, kept⟩
  | @read request limit r write requests limited reads result =>
    have sequence : request.sequence = sequenceAfter (s.link.sent.length + 1) := by
      rw [requests.sequence, linked.sequence]
      rfl
    have sent : r.transport.link.sent = s.link.sent ++
        [⟨request.encodeBytes, s.link.delivered + request.encodeBytes.length⟩] := by
      rw [reads]
      exact (readFrame_grown _ _ _).1.sent
    obtain ⟨keptSequence, keptBuffer⟩ := respond_kept
      { s.client with sequence := request.sequence, buffer := r.buffer } request r.result
    rw [result]
    constructor
    · dsimp only
      rw [keptSequence, sent, List.length_append]
      exact sequence
    · dsimp only
      rw [sent]
      exact numbered_append linked.numbered sequence
    · dsimp only
      rw [keptBuffer, reads]
      exact readFrame_streamed _ _ _ (write_streamed streamed _ _)

/-- Every session of a run keeps the invariant. -/
theorem after_linked {s : LinkSession σ} (linked : Linked s) (calls : List LinkCall) :
    Linked (s.after features code calls) := by
  induction calls generalizing s with
  | nil => exact linked
  | cons c calls ih => exact ih (call_linked linked c)

/-! ## The response of a call -/

/-- Everything that the device takes for a request was delivered by a `write_all`
that has returned. -/
def AcceptsSent (link : Link σ) : Prop :=
  ∀ a ∈ link.answers, a.received = .ok → ∃ r ∈ link.sent, r.stop = a.stop ∧ r.bytes = a.request.bytes

instance (link : Link σ) : Decidable (AcceptsSent link) :=
  inferInstanceAs (Decidable (∀ a ∈ link.answers, _ → ∃ r ∈ link.sent, _ ∧ _))

/-- How many bytes of the responses the client has used up. -/
def LinkSession.readUpTo (s : LinkSession σ) : Nat :=
  s.link.responded - (s.client.buffer.length + s.link.toHost.length)

/-- Fewer than 65535 requests were issued between the last one and each one whose
response was unread in `s`. -/
def InWindow (s : LinkSession σ) (link : Link σ) : Prop :=
  ∀ a ∈ kept link.answers, s.readUpTo < a.upTo →
    ∀ n r, link.sent[n]? = some r → r.stop = a.stop → link.sent.length - (n + 1) < 65535

theorem inWindow_of_few {s : LinkSession σ} {link : Link σ} (few : link.sent.length ≤ 65535) :
    InWindow s link := by
  intro a _ _ n r _ _
  omega

/-- The payload is that of the device's response to the request that the call from
`s` to `s'` has sent. -/
def OwnResponse (s s' : LinkSession σ) (c : LinkCall) (payload : List UInt16) : Prop :=
  ∃ (request : Frame) (stop : Nat) (a : Answer),
    s'.link.sent = s.link.sent ++ [⟨request.encodeBytes, stop⟩] ∧
      request.command = c.command ∧ ints request.payload = c.payload ∧
      a ∈ kept s'.link.answers ∧ a.stop = stop ∧ a.request = request.toWire ∧
      a.response.payload = payload

theorem Link.Streamed.readUpTo {s : LinkSession σ} {taken unread : List Answer}
    (streamed : Streamed s.client.buffer s.link taken unread) :
    s.readUpTo = (responseStream taken).length := by
  have responded := streamed.responded
  have bytes := congrArg List.length streamed.bytes
  rw [responseStream_append, List.length_append] at responded
  rw [List.length_append] at bytes
  unfold LinkSession.readUpTo
  omega

theorem decodeFrame_wire {w : WireFrame} {maxPayloadWords : Int} {frame : Frame}
    (decoded : decodeFrame (ints w.words) maxPayloadWords = .ok frame) : frame.toWire = w := by
  have same := ints_inj (decodeFrame_ok decoded)
  rw [frame.encodeWords_eq] at same
  exact (WireFrame.words_inj same).symm

/-- The oldest unread response lies behind what has been read. -/
theorem placed_oldest {taken rest : List Answer} {a : Answer} (placed : Placed 0 (taken ++ a :: rest)) :
    (responseStream taken).length < a.upTo := by
  have := a.response.length_bytes
  rw [placed_upTo placed]
  omega

/-- A frame that has been read is the oldest unread response. -/
theorem readFrame_ok {link : Link σ} {buffer : List UInt8} {maxPayloadWords : Nat}
    {taken unread : List Answer} {timeoutMs : Int} {write : WriteOutcome} {turns : List Turn}
    {r : FrameRead (Connection σ)} {response : Frame} (streamed : Streamed buffer link taken unread)
    (reads : r = readFrame (linkTransport features code) timeoutMs maxPayloadWords buffer
      ⟨link, write, turns⟩)
    (ok : r.result = .ok response) :
    ∃ a ∈ kept r.transport.link.answers,
      (responseStream taken).length < a.upTo ∧ a.response = response.toWire := by
  unfold readFrame at reads
  split at reads
  · rw [reads] at ok
    cases ok
  have outcome : ReadOutcome features code maxPayloadWords buffer link turns taken unread r := by
    rw [reads]
    exact readLoop_outcome write turns streamed
  cases outcome with
  | timedOut result =>
    rw [result] at ok
    cases ok
  | raised on raises result =>
    rw [result] at ok
    cases ok
  | refused oldest big result =>
    rw [result] at ok
    cases ok
  | @taken more rest a grown oldest fits result before whole left =>
    rw [result] at ok
    refine ⟨a, ?_, placed_oldest before.placed, (decodeFrame_wire ok).symm⟩
    rw [before.kept]
    exact List.mem_append_right _ List.mem_cons_self

/-- An unread OK response under the sequence of the last request answers this
request. -/
theorem answers_last {s : LinkSession σ} (linked : Linked s) {link : Link σ} {request : Frame}
    {stop : Nat} (sent : link.sent = s.link.sent ++ [⟨request.encodeBytes, stop⟩])
    (sequence : request.sequence = nextSequence s.client.sequence) (accepts : AcceptsSent link)
    (window : InWindow s link) {a : Answer} (among : a ∈ kept link.answers)
    (unread : s.readUpTo < a.upTo) (status : a.response.status = BootStatus.ok)
    (same : a.response.sequence = request.sequence) : a.stop = stop ∧ a.request = request.toWire := by
  have number : request.sequence = sequenceAfter (s.link.sent.length + 1) := by
    rw [sequence, linked.sequence]
    rfl
  have accepted : a.received = .ok := by
    cases received : a.received with
    | ok => rfl
    | badPayloadCrc =>
      rw [a.refused received] at status
      exact absurd status (by decide)
  obtain ⟨r, hr, stops, bytes⟩ := accepts a (List.mem_filter.1 among).1 accepted
  obtain ⟨n, found⟩ := List.mem_iff_getElem?.1 hr
  have near := window a among unread n r found stops
  have inside := (List.getElem?_eq_some_iff.1 found).1
  rw [sent] at found
  rw [sent, List.length_append, List.length_singleton] at near inside
  obtain ⟨source, encoded, numbered⟩ := numbered_append linked.numbered number n r found
  have wire : a.request = source.toWire := by
    apply WireFrame.bytes_inj
    rw [← bytes, encoded, source.encodeBytes_eq]
  have sequences : sequenceAfter (n + 1) = sequenceAfter (s.link.sent.length + 1) := by
    calc sequenceAfter (n + 1) = a.request.sequence := by rw [← numbered, wire]; rfl
      _ = request.sequence := by rw [← a.sequence, same]
      _ = sequenceAfter (s.link.sent.length + 1) := number
  obtain rfl : n = s.link.sent.length := sequenceAfter_inj (by omega) (by omega) sequences
  rw [List.getElem?_concat_length] at found
  cases found
  refine ⟨stops.symm, ?_⟩
  apply WireFrame.bytes_inj
  rw [← bytes, request.encodeBytes_eq]

/-- What a call returns is the response to its own request. -/
theorem call_own {s : LinkSession σ} (linked : Linked s) {c : LinkCall} {payload : List UInt16}
    (accepts : AcceptsSent (s.call features code c).2.link)
    (window : InWindow s (s.call features code c).2.link)
    (returned : (s.call features code c).1 = .ok payload) :
    OwnResponse s (s.call features code c).2 c payload := by
  obtain ⟨taken, unread, streamed⟩ := linked.streamed
  cases call_cases features code s c with
  | refused result =>
    rw [result] at returned
    cases returned
  | raised write result =>
    rw [result] at returned
    cases returned
  | @read request limit r write requests limited reads result =>
    rw [result] at accepts window returned ⊢
    obtain ⟨response, client', ok, concluded⟩ := respond_ok returned
    obtain ⟨a, among, unreadBefore, same⟩ := readFrame_ok (write_streamed streamed _ _) reads ok
    have sent : r.transport.link.sent = s.link.sent ++
        [⟨request.encodeBytes, s.link.delivered + request.encodeBytes.length⟩] := by
      rw [reads]
      exact (readFrame_grown _ _ _).1.sent
    have status : a.response.status = BootStatus.ok := by
      rw [same]
      exact concluded.status
    have sequence : a.response.sequence = request.sequence := by
      rw [same]
      exact concluded.sequence
    rw [← streamed.readUpTo] at unreadBefore
    obtain ⟨stop, wire⟩ := answers_last linked sent requests.sequence accepts window among
      unreadBefore status sequence
    refine ⟨request, _, a, sent, requests.command, requests.payload, among, stop, wire, ?_⟩
    rw [concluded.payload, same]
    rfl

/-- In every run over one connection, a payload that a call returns is the device's
response to the request that this call has sent. -/
theorem transact_own_response {start : LinkSession σ} (connected : JustConnected start)
    (calls : List LinkCall) (c : LinkCall) {payload : List UInt16}
    (accepts : AcceptsSent ((start.after features code calls).call features code c).2.link)
    (window : InWindow (start.after features code calls)
      ((start.after features code calls).call features code c).2.link)
    (returned : ((start.after features code calls).call features code c).1 = .ok payload) :
    OwnResponse (start.after features code calls)
      ((start.after features code calls).call features code c).2 c payload :=
  call_own (after_linked (linked_start connected) calls) accepts window returned

theorem ok_of_toOption {α : Type} {result : Except HostError α} {value : α}
    (some : result.toOption = .some value) : result = .ok value := by
  cases result with
  | error error => cases some
  | ok other =>
    cases some
    rfl

def allFeatures : BootFeatures := ⟨true, true, true⟩

/-- A session with CPU1 that has just connected. -/
def cpu1Session : LinkSession Unit where
  client := .new
  link := {
    core := cpu1Core
    frame := .ofWords 0 0 []
    toDevice := []
    toHost := []
    delivered := 0
    responded := 0
    sent := []
    answers := [] }

/-- The device answers all that has been delivered, and everything arrives. -/
def promptTurn : Turn := ⟨[false, false], 4096, none⟩

def query (command : UInt16) : LinkCall := ⟨command, [], none, .returned, [promptTurn]⟩

theorem connected_cpu1Session : JustConnected cpu1Session :=
  ⟨rfl, rfl, rfl, rfl, rfl, rfl, rfl, rfl⟩

/-- A PING whose response is lost, and one that is answered. -/
theorem transact_own_response_ping :
    let s := cpu1Session.after allFeatures idleService
      [⟨BootCmd.ping, [], none, .returned, [⟨[true], 4096, none⟩]⟩]
    let r := s.call allFeatures idleService (query BootCmd.ping)
    OwnResponse s r.2 (query BootCmd.ping) [] :=
  transact_own_response connected_cpu1Session _ (query BootCmd.ping) (by decide +kernel)
    (inWindow_of_few (by decide +kernel)) (ok_of_toOption (by decide +kernel))

def memoryRead (address : Int) (write : WriteOutcome) : LinkCall :=
  ⟨BootCmd.memoryRead, [address, 0, 1, 0], none, write, [promptTurn]⟩

/-- The capabilities, then a MEMORY_READ whose write raises when all of it is
delivered. -/
def raisedCalls : List LinkCall :=
  [query BootCmd.getDeviceInfo, query BootCmd.getProtocolInfo,
    memoryRead 0x9000 (.raised 30 (.transportError "write timed out"))]

def payloadsAt (link : Link Unit) (stop : Nat) : List (List UInt16) :=
  ((kept link.answers).filter (·.stop = stop)).map (·.response.payload)

/-- The second MEMORY_READ gets the answer to the first. -/
theorem raised_returns :
    let s := cpu1Session.after allFeatures idleService raisedCalls
    let r := s.call allFeatures idleService (memoryRead 0xA000 .returned)
    r.1.toOption = some [0x9000, 0, 1, 0] ∧ s.link.sent.map SentRequest.stop = [22, 44] ∧
      r.2.link.sent.map SentRequest.stop = [22, 44, 104] ∧
      payloadsAt r.2.link 104 = [[0xA000, 0, 1, 0]] := by decide +kernel

/-- Without the condition the claim of the theorem fails: the sequence of a request
whose write has raised is used again. -/
theorem transact_own_response_raised :
    ¬ ∀ (start : LinkSession Unit) (calls : List LinkCall) (c : LinkCall) (payload : List UInt16),
      JustConnected start →
      InWindow (start.after allFeatures idleService calls)
        ((start.after allFeatures idleService calls).call allFeatures idleService c).2.link →
      ((start.after allFeatures idleService calls).call allFeatures idleService c).1 = .ok payload →
      OwnResponse (start.after allFeatures idleService calls)
        ((start.after allFeatures idleService calls).call allFeatures idleService c).2 c payload := by
  intro always
  obtain ⟨returned, before, after, answers⟩ := raised_returns
  generalize hs : cpu1Session.after allFeatures idleService raisedCalls = s at *
  generalize hr : s.call allFeatures idleService (memoryRead 0xA000 .returned) = r at *
  have returned : r.1 = .ok [0x9000, 0, 1, 0] := ok_of_toOption returned
  have own := always cpu1Session raisedCalls (memoryRead 0xA000 .returned) [0x9000, 0, 1, 0]
    connected_cpu1Session
  rw [hs, hr] at own
  have window : InWindow s r.2.link := by
    apply inWindow_of_few
    have := congrArg List.length after
    rw [List.length_map] at this
    rw [this]
    decide
  obtain ⟨request, stop, a, sent, -, -, among, same, -, payload⟩ := own window returned
  rw [sent, List.map_append, before] at after
  cases after
  have listed : a.response.payload ∈ payloadsAt r.2.link 104 := by
    apply List.mem_map_of_mem
    rw [List.mem_filter]
    exact ⟨among, by simpa using same⟩
  rw [answers, payload] at listed
  exact absurd listed (by decide)

end BootUpgrade

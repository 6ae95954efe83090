import BootUpgrade.System.OwnResponse

/-!
# Calls behind a late response

A call takes the oldest response that has not been read. If that is its own, the
call ends with it. If it is a late one, the call fails on it and leaves its own
response unread, for the next call to fail on.
-/

namespace BootUpgrade

open BootProtocol HostProtocol BootAlgorithm BootProtocolClient Link

variable {σ : Type} {features : BootFeatures} {code : ServiceCode σ}

/-! ## The oldest unread response -/

/-- The oldest response of the link that the client of `s` has not taken. -/
def oldestUnread (s : LinkSession σ) (link : Link σ) : Option Answer :=
  (kept link.answers).find? fun a => s.readUpTo < a.upTo

theorem placed_taken {taken rest : List Answer} {a : Answer} (placed : Placed 0 (taken ++ rest))
    (ha : a ∈ taken) : a.upTo ≤ (responseStream taken).length := by
  obtain ⟨before, after, rfl⟩ := List.append_of_mem ha
  rw [List.append_assoc] at placed
  have := placed_upTo placed
  rw [responseStream_append, responseStream_cons, List.length_append, List.length_append]
  omega

theorem placed_unread {taken rest : List Answer} {a : Answer} (placed : Placed 0 (taken ++ rest))
    (ha : a ∈ rest) : (responseStream taken).length < a.upTo := by
  obtain ⟨before, after, rfl⟩ := List.append_of_mem ha
  rw [← List.append_assoc] at placed
  have := placed_upTo placed
  have := a.response.length_bytes
  rw [responseStream_append, List.length_append] at *
  omega

theorem placed_lt {first rest : List Answer} {a b : Answer} (placed : Placed 0 (first ++ a :: rest))
    (hb : b ∈ rest) : a.upTo < b.upTo := by
  obtain ⟨before, after, rfl⟩ := List.append_of_mem hb
  have here := placed_upTo placed
  have regrouped : Placed 0 ((first ++ a :: before) ++ b :: after) := by
    rw [List.append_assoc]
    exact placed
  have later := placed_upTo regrouped
  have := b.response.length_bytes
  rw [responseStream_append, responseStream_cons, List.length_append, List.length_append] at later
  omega

/-- What is first behind the responses that were taken is the oldest unread one. -/
theorem oldestUnread_eq {s : LinkSession σ} {link : Link σ} {taken rest more : List Answer} {a : Answer}
    (read : s.readUpTo = (responseStream taken).length) (placed : Placed 0 (taken ++ a :: rest))
    (split : kept link.answers = taken ++ a :: more) : oldestUnread s link = some a := by
  have none : taken.find? (fun a => s.readUpTo < a.upTo) = none := by
    rw [List.find?_eq_none]
    intro b hb
    have := placed_taken placed hb
    rw [read, decide_eq_true_eq]
    omega
  have unread : s.readUpTo < a.upTo := by
    rw [read]
    exact placed_oldest placed
  rw [oldestUnread, split, List.find?_append, none, Option.none_or, List.find?_cons_of_pos]
  exact decide_eq_true unread

theorem kept_prefix {answers more : List Answer} (grown : answers <+: more) :
    ∃ rest, kept more = kept answers ++ rest := by
  obtain ⟨rest, rfl⟩ := grown
  exact ⟨kept rest, kept_append answers rest⟩

theorem unique_stop {link : Link σ} (ordered : Ordered link) {a b : Answer} (ha : a ∈ link.answers)
    (hb : b ∈ link.answers) (same : a.stop = b.stop) : a = b := by
  obtain ⟨i, hi, rfl⟩ := List.mem_iff_getElem.1 ha
  obtain ⟨j, hj, rfl⟩ := List.mem_iff_getElem.1 hb
  have increasing := List.pairwise_iff_getElem.1 ordered.increasing
  rcases Nat.lt_trichotomy i j with before | rfl | behind
  · have := increasing i j hi hj before
    omega
  · rfl
  · have := increasing j i hj hi behind
    omega

/-! ## The own response of a call -/

/-- The link behind the turns of a call, if the host only goes on reading. -/
def awaited (features : BootFeatures) (code : ServiceCode σ) (s : LinkSession σ) (c : LinkCall)
    (request : Frame) : Link σ :=
  flow features code c.turns (s.link.write request.encodeBytes .returned)

/-- The call sends `request`, and the response of the device to it arrives within
the timeout, intact and within the payload limit. -/
structure OwnArrives (features : BootFeatures) (code : ServiceCode σ) (s : LinkSession σ)
    (c : LinkCall) (request : Frame) (own : Answer) : Prop where
  write : c.write = .returned
  sent : (s.call features code c).2.link.sent =
    s.link.sent ++ [⟨request.encodeBytes, s.link.delivered + request.encodeBytes.length⟩]
  timeout : 0 < effectiveTimeoutMs c.command c.timeoutMs
  quiet : ∀ turn ∈ c.turns, turn.error = none
  answered : own ∈ kept (awaited features code s c request).answers
  stop : own.stop = s.link.delivered + request.encodeBytes.length
  source : own.request = request.toWire
  arrived : own.upTo + (awaited features code s c request).toHost.length ≤
    (awaited features code s c request).responded
  fits : ∀ limit, s.client.payloadLimit c.command = .ok limit →
    own.response.payload.length ≤ limit

/-- The call ends with this response: what `transact` makes of it is the result. -/
def EndsWithOwn (features : BootFeatures) (code : ServiceCode σ) (s : LinkSession σ) (c : LinkCall)
    (request : Frame) (own : Answer) : Prop :=
  ∃ response : Frame, response.toWire = own.response ∧
    (s.call features code c).1 =
      ({ s.client with sequence := request.sequence }.conclude request response).map Prod.fst

theorem call_ordered {s : LinkSession σ} (ordered : Ordered s.link) (c : LinkCall) :
    Ordered (s.call features code c).2.link := by
  cases call_cases features code s c with
  | refused result =>
    rw [result]
    exact ordered
  | @raised request n error write result =>
    have kept := write_ordered ordered request.encodeBytes (.raised n error)
    rw [result]
    exact kept
  | read write requests limited reads result =>
    rw [result, reads]
    exact (readFrame_grown _ _ _).1.ordered (write_ordered ordered _ _)

theorem after_ordered {s : LinkSession σ} (ordered : Ordered s.link) (calls : List LinkCall) :
    Ordered (s.after features code calls).link := by
  induction calls generalizing s with
  | nil => exact ordered
  | cons c calls ih => exact ih (call_ordered ordered c)

theorem ordered_start {s : LinkSession σ} (start : JustConnected s) : Ordered s.link := by
  constructor
  · rw [start.toDevice]
    exact Nat.zero_le _
  · intro a ha
    rw [start.answers] at ha
    cases ha
  · rw [start.answers]
    exact .nil

/-- A call whose own response arrives reads. -/
theorem call_reads {s : LinkSession σ} {c : LinkCall} {request : Frame} {own : Answer}
    (arrives : OwnArrives features code s c request own) :
    ∃ limit r, Requests s.client c.command c.payload request ∧
      s.client.payloadLimit c.command = .ok limit ∧
      r = readLoop (linkTransport features code) limit c.turns.length s.client.buffer
        ⟨s.link.write request.encodeBytes .returned, .returned, c.turns⟩ ∧
      s.call features code c =
        (({ s.client with sequence := request.sequence, buffer := r.buffer }.respond request
            r.result).1,
          ⟨({ s.client with sequence := request.sequence, buffer := r.buffer }.respond request
            r.result).2, r.transport.link⟩) := by
  have sent := arrives.sent
  cases call_cases features code s c with
  | refused result =>
    have := congrArg List.length sent
    rw [result, List.length_append] at this
    simp at this
  | raised write result =>
    rw [arrives.write] at write
    cases write
  | @read request' limit r write requests limited reads result =>
    have grown : r.transport.link.sent = s.link.sent ++
        [⟨request'.encodeBytes, s.link.delivered + request'.encodeBytes.length⟩] := by
      rw [reads]
      exact (readFrame_grown _ _ _).1.sent
    rw [result] at sent
    have same := List.append_cancel_left (grown.symm.trans sent)
    have bytes : request'.encodeBytes = request.encodeBytes :=
      congrArg SentRequest.bytes (List.cons.inj same).1
    rw [request'.encodeBytes_eq, request.encodeBytes_eq] at bytes
    obtain rfl := Frame.toWire_inj (WireFrame.bytes_inj bytes)
    refine ⟨limit, r, requests, limited, ?_, result⟩
    rw [reads, readFrame, if_neg (Int.not_le.2 arrives.timeout)]
    rfl

section
variable {s : LinkSession σ} {c : LinkCall} {request : Frame} {own : Answer}
  {taken unread : List Answer}

/-- The own response is new: it lies behind everything that was unread before. -/
theorem own_new (ordered : Ordered s.link) (streamed : Streamed s.client.buffer s.link taken unread)
    (arrives : OwnArrives features code s c request own) {more : List Answer}
    (split : kept (awaited features code s c request).answers = taken ++ (unread ++ more)) :
    own ∈ more := by
  have old : own ∉ kept s.link.answers := by
    intro among
    have := ordered.before own (List.mem_filter.1 among).1
    have nonempty := request.toWire.length_bytes
    rw [arrives.stop, request.encodeBytes_eq] at this
    omega
  have among := arrives.answered
  rw [split, ← List.append_assoc, ← streamed.kept] at among
  exact (List.mem_append.1 among).resolve_left old

/-- A reader in whose buffer the oldest response is whole does not wait. -/
theorem not_waiting {buffer : List UInt8} {link link' : Link σ} {maxPayloadWords : Nat}
    {more others : List Answer} (streamed : Streamed s.client.buffer link taken unread)
    (streamed' : Streamed buffer link' taken (own :: others)) (head : unread ++ more = own :: others)
    (new : own ∈ more) (arrived : own.upTo + link'.toHost.length ≤ link'.responded)
    (fits : own.response.payload.length ≤ maxPayloadWords) :
    ¬ (buffer = s.client.buffer ∨ settle maxPayloadWords buffer = none) := by
  have long := own.response.length_bytes
  have whole : own.response.bytes.length ≤ buffer.length := by
    have upTo := placed_upTo streamed'.placed
    have bytes := congrArg List.length streamed'.bytes
    rw [streamed'.responded, responseStream_append, List.length_append] at arrived
    rw [List.length_append] at bytes
    omega
  rintro (same | none)
  · cases unread with
    | nil =>
      have empty := (List.append_eq_nil_iff.1 streamed.bytes).1
      rw [same, empty, List.length_nil] at whole
      omega
    | cons first unread =>
      obtain ⟨rfl, rfl⟩ := List.cons.inj head
      have := placed_lt streamed'.placed (List.mem_append_right unread new)
      omega
  · have start : buffer <+: own.response.bytes ++ responseStream others :=
      ⟨link'.toHost, by rw [streamed'.bytes, responseStream_cons]⟩
    rw [settle_frames own.response_le start, if_neg (by omega), if_neg (Nat.not_lt.2 fits),
      if_neg (Nat.not_lt.2 whole)] at none
    cases none

/-- With nothing older unread the call ends with its own response. -/
theorem ends_with_own (ordered : Ordered s.link)
    (streamed : Streamed s.client.buffer s.link taken unread)
    (arrives : OwnArrives features code s c request own)
    (oldest : oldestUnread s (awaited features code s c request) = some own) :
    EndsWithOwn features code s c request own := by
  obtain ⟨limit, r, requests, limited, reads, result⟩ := call_reads arrives
  have fits := arrives.fits limit limited
  have grown : Grown r.transport.link (awaited features code s c request) := by
    rw [reads]
    exact (readLoop_grown _ _ _).2
  obtain ⟨rest, later⟩ := kept_prefix grown.answers
  have first {others : List Answer} {a : Answer} {buffer : List UInt8}
      (streamed' : Streamed buffer r.transport.link taken (a :: others)) : a = own := by
    have split : kept (awaited features code s c request).answers = taken ++ a :: (others ++ rest) := by
      rw [later, streamed'.kept, List.append_assoc, List.cons_append]
    rw [oldestUnread_eq streamed.readUpTo streamed'.placed split] at oldest
    exact Option.some.inj oldest
  have outcome : ReadOutcome features code limit s.client.buffer
      (s.link.write request.encodeBytes .returned) c.turns taken unread r := by
    rw [reads]
    exact readLoop_outcome _ _ (write_streamed streamed _ _)
  cases outcome with
  | @timedOut more timeout all streamed' waiting =>
    have flows : r.transport.link = awaited features code s c request := all
    have new : own ∈ more := own_new ordered streamed arrives (by rw [← flows, streamed'.kept])
    cases head : unread ++ more with
    | nil =>
      rw [(List.append_eq_nil_iff.1 head).2] at new
      cases new
    | cons a others =>
      rw [head] at streamed'
      obtain rfl := first streamed'
      have arrived := arrives.arrived
      rw [← flows] at arrived
      exact absurd waiting (not_waiting streamed streamed' head new arrived fits)
  | raised on raises =>
    rw [arrives.quiet _ on] at raises
    cases raises
  | @refused more others a head big error streamed' =>
    rw [head] at streamed'
    rw [first streamed'] at big
    exact absurd fits (Nat.not_le.2 big)
  | @taken more others a grown' head _ decoded streamed' whole left =>
    obtain rfl := first streamed'
    have admitted : Frame.Admitted a.response := by
      refine ⟨?_, a.response_le⟩
      rw [a.sequence, arrives.source]
      exact request.sequence_ne
    rw [decodeFrame_words a.response admitted (Int.ofNat_le.2 fits)] at decoded
    refine ⟨.ofWire a.response admitted, rfl, ?_⟩
    rw [result, decoded]
    unfold respond
    dsimp only
    rw [conclude_buffer { s.client with sequence := request.sequence }]
    cases BootProtocolClient.conclude { s.client with sequence := request.sequence } request
      (.ofWire a.response admitted) <;> rfl

/-- What the client has used up after a call that has read. -/
theorem readUpTo_respond (client : BootProtocolClient) (request : Frame)
    (read : Except HostError Frame) {buffer : List UInt8} {link : Link σ} (streamed : Streamed buffer link taken unread) :
    LinkSession.readUpTo ⟨({ client with buffer }.respond request read).2, link⟩ =
      (responseStream taken).length := by
  have kept : Streamed ({ client with buffer }.respond request read).2.buffer link taken unread := by
    rw [(respond_kept { client with buffer } request read).2]
    exact streamed
  exact Link.Streamed.readUpTo
    (show Streamed (LinkSession.mk ({ client with buffer }.respond request read).2 link).client.buffer
      _ taken unread from kept)

/-- Behind an older response the call fails, and its own response is left unread. -/
theorem fails_on_older (linked : Linked s) (ordered : Ordered s.link)
    (streamed : Streamed s.client.buffer s.link taken unread)
    (arrives : OwnArrives features code s c request own)
    (accepts : AcceptsSent (awaited features code s c request))
    (window : InWindow s (awaited features code s c request))
    (other : oldestUnread s (awaited features code s c request) ≠ some own) :
    (∃ error, (s.call features code c).1 = .error error) ∧
      (s.call features code c).2.readUpTo < own.upTo := by
  obtain ⟨limit, r, requests, limited, reads, result⟩ := call_reads arrives
  obtain ⟨fresh, flowed, flow⟩ : ∃ more grown,
      Streamed grown (awaited features code s c request) taken (unread ++ more) :=
    flow_streamed (write_streamed streamed _ _) c.turns
  have new : own ∈ fresh := own_new ordered streamed arrives flow.kept
  have behind : (responseStream taken).length < own.upTo :=
    placed_unread flow.placed (List.mem_append_right _ new)
  have grown : Grown r.transport.link (awaited features code s c request) := by
    rw [reads]
    exact (readLoop_grown _ _ _).2
  have outcome : ReadOutcome features code limit s.client.buffer
      (s.link.write request.encodeBytes .returned) c.turns taken unread r := by
    rw [reads]
    exact readLoop_outcome _ _ (write_streamed streamed _ _)
  have used {taken unread : List Answer} (left : Streamed r.buffer r.transport.link taken unread) :
      (s.call features code c).2.readUpTo = (responseStream taken).length := by
    rw [result]
    exact readUpTo_respond { s.client with sequence := request.sequence } request r.result left
  have failed {error : HostError} (raised : r.result = .error error) :
      ∃ error, (s.call features code c).1 = .error error := by
    rw [result, raised]
    exact respond_error _ _ _
  cases outcome with
  | timedOut timeout all streamed' => exact ⟨failed timeout, by rwa [used streamed']⟩
  | raised on raises error streamed' => exact ⟨failed error, by rwa [used streamed']⟩
  | refused head big error streamed' => exact ⟨failed error, by rwa [used streamed']⟩
  | @taken more others a grown' head fits decoded streamed' whole left =>
    obtain ⟨rest, later⟩ := kept_prefix grown.answers
    have split : kept (awaited features code s c request).answers = taken ++ a :: (others ++ rest) := by
      rw [later, streamed'.kept, List.append_assoc, List.cons_append]
    have older : a ≠ own := by
      rintro rfl
      exact other (oldestUnread_eq streamed.readUpTo streamed'.placed split)
    have same := flow.kept.symm.trans split
    have placed := flow.placed
    rw [same] at placed
    have among : own ∈ a :: (others ++ rest) := by
      rw [← List.append_cancel_left same]
      exact List.mem_append_right _ new
    have before : a.upTo < own.upTo :=
      placed_lt placed ((List.mem_cons.1 among).resolve_left older.symm)
    constructor
    · cases returned : (s.call features code c).1 with
      | error error => exact ⟨error, rfl⟩
      | ok payload =>
        rw [result] at returned
        obtain ⟨response, client', ok, concluded⟩ := respond_ok returned
        rw [decoded] at ok
        have wire := decodeFrame_wire ok
        have here : a ∈ kept (awaited features code s c request).answers := by
          rw [split]
          exact List.mem_append_right _ List.mem_cons_self
        have unreadBefore : s.readUpTo < a.upTo := by
          rw [streamed.readUpTo]
          exact placed_oldest streamed'.placed
        have sent : (awaited features code s c request).sent = s.link.sent ++
            [⟨request.encodeBytes, s.link.delivered + request.encodeBytes.length⟩] :=
          (flow_grown c.turns).sent
        have stop := (answers_last linked sent requests.sequence accepts window here unreadBefore
          (by rw [← wire]; exact concluded.status) (by rw [← wire]; exact concluded.sequence)).1
        have ordered' : Ordered (awaited features code s c request) :=
          (flow_grown c.turns).ordered (write_ordered ordered _ _)
        exact absurd (unique_stop ordered' (List.mem_filter.1 here).1
          (List.mem_filter.1 arrives.answered).1 (stop.trans arrives.stop.symm)) older
    · have upTo := placed_upTo streamed'.placed
      have taken' := streamed'.read whole
      rw [← left] at taken'
      rw [used taken', responseStream_append, responseStream_single, List.length_append]
      omega

end

/-- The response to a PING arrives only when the next PING has been sent. -/
def lateSession : LinkSession Unit :=
  cpu1Session.after allFeatures idleService [⟨BootCmd.ping, [], none, .returned, []⟩]

def secondPing : Frame :=
  { pingFrame with sequence := nextSequence 1, sequence_ne := nextSequence_ne 1 }

/-- The device's response to a PING. -/
def pingResponse (sequence : UInt16) : WireFrame :=
  ⟨protocolVersion, pktResponse, BootCmd.ping, sequence, 0, BootStatus.ok, []⟩

/-- The link when both responses have arrived. -/
def lateLink : Link Unit :=
  awaited allFeatures idleService lateSession (query BootCmd.ping) secondPing

/-- The second PING and its response, behind the late one. -/
def lateOwn : Answer := (kept lateLink.answers).get ⟨1, by decide +kernel⟩

theorem late_arrives :
    OwnArrives allFeatures idleService lateSession (query BootCmd.ping) secondPing lateOwn := by
  have limited : lateSession.client.payloadLimit BootCmd.ping = .ok 16 :=
    ok_of_toOption (by decide +kernel)
  have short : lateOwn.response.payload.length ≤ 16 := by decide +kernel
  constructor
  · rfl
  · decide +kernel
  · decide
  · decide +kernel
  · exact List.get_mem _ _
  · decide +kernel
  · decide +kernel
  · decide +kernel
  · intro limit same
    cases limited.symm.trans same
    exact short

theorem late_behind : oldestUnread lateSession lateLink ≠ some lateOwn := by
  intro first
  have stops : (oldestUnread lateSession lateLink).map (·.stop) = some 22 := by decide +kernel
  have own : lateOwn.stop = 44 := by decide +kernel
  rw [first, Option.map_some, own] at stops
  cases stops

end BootUpgrade

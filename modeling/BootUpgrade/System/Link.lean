import BootUpgrade.Host.BootProtocolClient
import BootUpgrade.System.FrameCodec

/-!
# Host and device over one connection

The client and the bootloader core with the bytes on their way between them. A
script says what the channel does in a call: how much of a request a failing
write delivers, which frames the device answers before each read, which
responses are lost, and how many bytes have arrived.
-/

namespace BootUpgrade

open BootProtocol HostProtocol BootAlgorithm

/-! ## The channel -/

/-- A request whose `write_all` has returned; its last byte is byte `stop` of all
that were delivered. -/
structure SentRequest where
  bytes : List UInt8
  stop : Nat
  deriving DecidableEq

/-- A frame that the device has taken, up to byte `stop`, and its response, up to
byte `upTo` of all that were sent. The response carries the command and the
sequence of the frame, and a frame with a wrong payload CRC is refused. -/
structure Answer where
  stop : Nat
  received : ReceiveResult
  request : WireFrame
  response : WireFrame
  lost : Bool
  upTo : Nat
  response_le : response.payload.length ≤ 0xFFFF
  command : response.command = request.command
  sequence : response.sequence = request.sequence
  refused : received = .badPayloadCrc → response.status = BootStatus.badPayloadCrc

/-- The device, and the bytes that are on their way to it and from it. -/
structure Link (σ : Type) where
  core : Core σ
  frame : BootProtocolFrame
  toDevice : List UInt8
  toHost : List UInt8
  delivered : Nat
  responded : Nat
  sent : List SentRequest
  answers : List Answer

/-- What a `write_all` comes to. -/
inductive WriteOutcome where
  | returned
  | raised (delivered : Nat) (error : HostError)

/-- A turn of the reading loop: the frames that the device answers before it, each
with the fate of its response, and the bytes that have arrived or the exception. -/
structure Turn where
  lost : List Bool
  arrived : Nat
  error : Option HostError

/-- A link with the script of one call. -/
structure Connection (σ : Type) where
  link : Link σ
  write : WriteOutcome
  turns : List Turn

namespace Link

variable {σ : Type} (features : BootFeatures) (code : ServiceCode σ)

/-- The payload as `payload_words` counts it. -/
def countedPayload (payload : List UInt16) : List UInt16 :=
  payload.take (UInt16.ofNat payload.length).toNat

theorem length_countedPayload (payload : List UInt16) :
    (countedPayload payload).length = (UInt16.ofNat payload.length).toNat := by
  have bound : (UInt16.ofNat payload.length).toNat ≤ payload.length := by
    rw [UInt16.toNat_ofNat']
    exact Nat.mod_le _ _
  rw [countedPayload, List.length_take, Nat.min_eq_left bound]

theorem countedPayload_le (payload : List UInt16) : (countedPayload payload).length ≤ 0xFFFF := by
  have := (UInt16.ofNat payload.length).toNat_lt
  rw [length_countedPayload]
  omega

/-- The bytes that `BootProtocol_SendResponse` writes. -/
def responseBytes (request : BootProtocolFrame) (response : BootResponse) : List UInt8 :=
  bytesOf (sendResponse request response.packetType response.status response.payload
    (UInt16.ofNat response.payload.length))

/-- They are a frame with the command and the sequence of the request. -/
def answerFrame (request : BootProtocolFrame) (response : BootResponse) : WireFrame :=
  responseFrame request response.packetType response.status (countedPayload response.payload)

theorem responseBytes_eq (request : BootProtocolFrame) (response : BootResponse) :
    responseBytes request response = (answerFrame request response).bytes := by
  have count : UInt16.ofNat (countedPayload response.payload).length =
      UInt16.ofNat response.payload.length := by
    rw [length_countedPayload, UInt16.ofNat_toNat]
  have header : (answerFrame request response).header =
      [magic0, magic1, protocolVersion, response.packetType, request.command, request.sequence,
        protocolFlagNone, response.status, UInt16.ofNat response.payload.length] := by
    rw [← count]
    rfl
  rw [responseBytes, sendResponse, ← countedPayload, WireFrame.bytes, WireFrame.words, header]
  rfl

/-- `BootAlgorithm_ProcessOne` behind the receiver. -/
def process (link : Link σ) (received : Received) : CoreReturn σ :=
  processOne received.frame features code received.result link.core

/-- What the response puts on the channel. -/
def sentBytes (link : Link σ) (received : Received) (lost : Bool) : List UInt8 :=
  if lost then [] else responseBytes received.frame (link.process features code received).response

/-- The frame that has been taken, with its answer. -/
def answered (link : Link σ) (received : Received) (lost : Bool) : Answer where
  stop := link.delivered - received.rest.length
  received := received.result
  request := received.frame.contents
  response := answerFrame received.frame (link.process features code received).response
  lost := lost
  upTo := link.responded + (link.sentBytes features code received lost).length
  response_le := countedPayload_le _
  command := rfl
  sequence := rfl
  refused := by
    intro bad
    rw [process, processOne, if_pos bad]
    rfl

/-- The device takes a frame, if there is one, and answers it. -/
def answer (link : Link σ) (lost : Bool) : Link σ :=
  match receive link.frame link.toDevice with
  | none => link
  | some received =>
    { link with
      core := (link.process features code received).core
      frame := received.frame
      toDevice := received.rest
      toHost := link.toHost ++ link.sentBytes features code received lost
      responded := link.responded + (link.sentBytes features code received lost).length
      answers := link.answers ++ [link.answered features code received lost] }

/-- A call of `write_all`. -/
def write (link : Link σ) (bytes : List UInt8) : WriteOutcome → Link σ
  | .returned =>
    { link with
      toDevice := link.toDevice ++ bytes
      delivered := link.delivered + bytes.length
      sent := link.sent ++ [⟨bytes, link.delivered + bytes.length⟩] }
  | .raised n _ =>
    { link with
      toDevice := link.toDevice ++ bytes.take n
      delivered := link.delivered + (bytes.take n).length }

end Link

section
variable {σ : Type} (features : BootFeatures) (code : ServiceCode σ)

/-- The transport of the client on this connection. -/
def linkTransport : ByteTransport (Connection σ) where
  writeAll bytes c :=
    let link := c.link.write bytes c.write
    match c.write with
    | .returned => (.ok (), { c with link })
    | .raised _ error => (.error error, { c with link })
  readSome size c :=
    match c.turns with
    | [] => (.ok [], c)
    | turn :: turns =>
      let link := turn.lost.foldl (Link.answer features code) c.link
      match turn.error with
      | some error => (.error error, { c with link, turns })
      | none =>
        let count := min turn.arrived size
        (.ok (link.toHost.take count),
          { c with link := { link with toHost := link.toHost.drop count }, turns })
  turns _ c := c.turns.length

/-- A `transact` and what the channel does in it. -/
structure LinkCall where
  command : UInt16
  payload : List Int
  timeoutMs : Option Int
  write : WriteOutcome
  turns : List Turn

structure LinkSession (σ : Type) where
  client : BootProtocolClient
  link : Link σ

namespace LinkSession

def call (s : LinkSession σ) (c : LinkCall) : Except HostError (List UInt16) × LinkSession σ :=
  let r := BootProtocolClient.transact (linkTransport features code) c.command c.payload c.timeoutMs
    s.client ⟨s.link, c.write, c.turns⟩
  (r.result, ⟨r.client, r.transport.link⟩)

/-- The session after the calls. -/
def after (calls : List LinkCall) (s : LinkSession σ) : LinkSession σ :=
  calls.foldl (fun s c => (s.call features code c).2) s

end LinkSession

end

/-! ## The responses on their way -/

/-- Responses that lie one after the other, from byte `base` on. -/
def Placed : Nat → List Answer → Prop
  | _, [] => True
  | base, a :: rest => a.upTo = base + a.response.bytes.length ∧ Placed a.upTo rest

def responseStream (answers : List Answer) : List UInt8 := answers.flatMap (·.response.bytes)

theorem responseStream_cons (a : Answer) (rest : List Answer) :
    responseStream (a :: rest) = a.response.bytes ++ responseStream rest := List.flatMap_cons

theorem responseStream_append (first second : List Answer) :
    responseStream (first ++ second) = responseStream first ++ responseStream second :=
  List.flatMap_append

theorem responseStream_single (a : Answer) : responseStream [a] = a.response.bytes :=
  List.flatMap_singleton _ _

theorem placed_append {base : Nat} {answers : List Answer} {a : Answer} (placed : Placed base answers)
    (behind : a.upTo = base + (responseStream answers).length + a.response.bytes.length) :
    Placed base (answers ++ [a]) := by
  induction answers generalizing base with
  | nil => exact ⟨behind, trivial⟩
  | cons first rest ih =>
    obtain ⟨here, later⟩ := placed
    refine ⟨here, ih later ?_⟩
    rw [behind, here, responseStream_cons, List.length_append]
    omega

/-- Where a response ends. -/
theorem placed_upTo {base : Nat} {before after : List Answer} {a : Answer}
    (placed : Placed base (before ++ a :: after)) :
    a.upTo = base + (responseStream before).length + a.response.bytes.length := by
  induction before generalizing base with
  | nil => exact placed.1
  | cons first before ih =>
    have later := ih placed.2
    rw [later, placed.1, responseStream_cons, List.length_append]
    omega

/-- The answers whose responses are not lost. -/
def kept (answers : List Answer) : List Answer := answers.filter (!·.lost)

theorem kept_append (first second : List Answer) :
    kept (first ++ second) = kept first ++ kept second := List.filter_append _ _

namespace Link

variable {σ : Type} (features : BootFeatures) (code : ServiceCode σ) {link : Link σ}
  {buffer : List UInt8} {taken unread : List Answer}

/-- The host has taken the responses `taken`; its buffer and the bytes on their way
to it are the responses `unread`. -/
structure Streamed (buffer : List UInt8) (link : Link σ) (taken unread : List Answer) : Prop where
  kept : kept link.answers = taken ++ unread
  bytes : buffer ++ link.toHost = responseStream unread
  placed : Placed 0 (taken ++ unread)
  responded : link.responded = (responseStream (taken ++ unread)).length

/-- The device has taken its frames one after the other, from what was delivered. -/
structure Ordered (link : Link σ) : Prop where
  inside : link.toDevice.length ≤ link.delivered
  before : ∀ a ∈ link.answers, a.stop + link.toDevice.length ≤ link.delivered
  increasing : link.answers.Pairwise fun a b => a.stop < b.stop

theorem write_ordered (ordered : Ordered link) (bytes : List UInt8) (outcome : WriteOutcome) :
    Ordered (link.write bytes outcome) := by
  obtain ⟨inside, before, increasing⟩ := ordered
  cases outcome with
  | returned =>
    refine ⟨?_, fun a ha => ?_, increasing⟩
    · simp only [write, List.length_append]
      omega
    · have := before a ha
      simp only [write, List.length_append]
      omega
  | raised n error =>
    refine ⟨?_, fun a ha => ?_, increasing⟩
    · simp only [write, List.length_append]
      omega
    · have := before a ha
      simp only [write, List.length_append]
      omega

theorem answer_ordered (ordered : Ordered link) (lost : Bool) :
    Ordered (link.answer features code lost) := by
  obtain ⟨inside, before, increasing⟩ := ordered
  unfold answer
  cases found : receive link.frame link.toDevice with
  | none => exact ⟨inside, before, increasing⟩
  | some received =>
    have shorter := receive_lt found
    have stop : (link.answered features code received lost).stop =
        link.delivered - received.rest.length := rfl
    constructor
    · dsimp only
      omega
    · intro a ha
      dsimp only
      rcases List.mem_append.1 ha with earlier | last
      · have := before a earlier
        omega
      · rw [List.mem_singleton.1 last, stop]
        omega
    · apply List.pairwise_append.2
      refine ⟨increasing, List.pairwise_singleton _ _, ?_⟩
      intro a ha b hb
      have := before a ha
      rw [List.mem_singleton.1 hb, stop]
      omega

/-- What happens to a link when nothing is written to it. -/
structure Grown (link link' : Link σ) : Prop where
  sent : link'.sent = link.sent
  answers : link.answers <+: link'.answers
  ordered : Ordered link → Ordered link'

theorem Grown.refl (link : Link σ) : Grown link link := ⟨rfl, List.prefix_refl _, id⟩

theorem Grown.trans {link link' link'' : Link σ} (first : Grown link link')
    (second : Grown link' link'') : Grown link link'' :=
  ⟨second.sent.trans first.sent, first.answers.trans second.answers, second.ordered ∘ first.ordered⟩

theorem answer_grown (lost : Bool) : Grown link (link.answer features code lost) := by
  refine ⟨?_, ?_, fun ordered => answer_ordered features code ordered lost⟩
  · unfold answer
    split <;> rfl
  · unfold answer
    split
    · exact List.prefix_refl _
    · exact List.prefix_append _ _

theorem sentBytes_kept (received : Received) : link.sentBytes features code received false =
    (link.answered features code received false).response.bytes :=
  responseBytes_eq _ _

theorem answer_streamed (streamed : Streamed buffer link taken unread) (lost : Bool) :
    ∃ more, Streamed buffer (link.answer features code lost) taken (unread ++ more) := by
  obtain ⟨split, bytes, placed, responded⟩ := streamed
  unfold answer
  cases receive link.frame link.toDevice with
  | none =>
    refine ⟨[], ?_⟩
    rw [List.append_nil]
    exact ⟨split, bytes, placed, responded⟩
  | some received =>
    dsimp only
    cases lost with
    | true =>
      have nothing : link.sentBytes features code received true = [] := rfl
      refine ⟨[], ?_⟩
      rw [List.append_nil, nothing]
      constructor
      · rw [← split, kept_append]
        exact List.append_nil _
      · rw [List.append_nil]
        exact bytes
      · exact placed
      · exact responded
    | false =>
      refine ⟨[link.answered features code received false], ?_, ?_, ?_, ?_⟩
      · rw [kept_append, split, List.append_assoc]
        rfl
      · rw [← List.append_assoc, bytes, sentBytes_kept, responseStream_append, responseStream_single]
      · rw [← List.append_assoc]
        apply placed_append placed
        rw [← responded, ← sentBytes_kept, Nat.zero_add]
        rfl
      · rw [← List.append_assoc, responseStream_append _ [_], List.length_append, ← responded,
          responseStream_single, sentBytes_kept]

theorem answers_streamed (streamed : Streamed buffer link taken unread) (fates : List Bool) :
    ∃ more, Streamed buffer (fates.foldl (answer features code) link) taken (unread ++ more) := by
  induction fates generalizing link unread with
  | nil => exact ⟨[], by rwa [List.append_nil]⟩
  | cons lost fates ih =>
    obtain ⟨more, next⟩ := answer_streamed features code streamed lost
    obtain ⟨others, last⟩ := ih next
    exact ⟨more ++ others, by rwa [← List.append_assoc]⟩

theorem answers_grown (fates : List Bool) : Grown link (fates.foldl (answer features code) link) := by
  induction fates generalizing link with
  | nil => exact .refl link
  | cons lost fates ih => exact (answer_grown features code lost).trans ih

/-- Bytes arrive. -/
theorem Streamed.arrive (streamed : Streamed buffer link taken unread) (n : Nat) :
    Streamed (buffer ++ link.toHost.take n) { link with toHost := link.toHost.drop n } taken
      unread := by
  obtain ⟨split, bytes, placed, responded⟩ := streamed
  refine ⟨split, ?_, placed, responded⟩
  rw [List.append_assoc, List.take_append_drop]
  exact bytes

/-- The first response is taken out of the buffer. -/
theorem Streamed.read {a : Answer} {rest : List Answer}
    (streamed : Streamed buffer link taken (a :: rest))
    (whole : a.response.bytes.length ≤ buffer.length) :
    Streamed (buffer.drop a.response.bytes.length) link (taken ++ [a]) rest := by
  obtain ⟨split, bytes, placed, responded⟩ := streamed
  have same : taken ++ [a] ++ rest = taken ++ a :: rest := List.append_assoc _ _ _
  constructor
  · rw [split, same]
  · rw [← List.drop_append_of_le_length whole, bytes, responseStream_cons, List.drop_left]
  · rw [same]
    exact placed
  · rw [same]
    exact responded

end Link

end BootUpgrade

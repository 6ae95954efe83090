import BootUpgrade.System.Link

/-!
# Reading over a link

What `read_frame` makes of the responses that are on their way: it takes the
oldest of them that has not been read, or none.
-/

namespace BootUpgrade

open BootProtocol HostProtocol BootAlgorithm

variable {σ : Type} (features : BootFeatures) (code : ServiceCode σ)

namespace Link

/-- The link behind a turn in which nothing is raised, with what has arrived. -/
def turned (link : Link σ) (turn : Turn) : Link σ :=
  let link := turn.lost.foldl (answer features code) link
  { link with toHost := link.toHost.drop (min turn.arrived 4096) }

/-- The link behind the turns, if the host goes on reading. -/
def flow (turns : List Turn) (link : Link σ) : Link σ := turns.foldl (turned features code) link

end Link

open Link

/-- What a call of `read_frame` comes to, from a buffer and a link with the unread
responses `unread`. -/
inductive ReadOutcome (maxPayloadWords : Nat) (buffer : List UInt8) (link : Link σ)
    (turns : List Turn) (taken unread : List Answer) (r : FrameRead (Connection σ)) : Prop
  | timedOut {more : List Answer} (result : r.result = .error .transportTimeoutError)
      (all : r.transport.link = flow features code turns link)
      (streamed : Streamed r.buffer r.transport.link taken (unread ++ more))
      (waiting : r.buffer = buffer ∨ settle maxPayloadWords r.buffer = none)
  | raised {more : List Answer} {turn : Turn} {error : HostError} (on : turn ∈ turns)
      (raises : turn.error = some error) (result : r.result = .error error)
      (streamed : Streamed r.buffer r.transport.link taken (unread ++ more))
  | refused {more rest : List Answer} {a : Answer} (oldest : unread ++ more = a :: rest)
      (big : a.response.payload.length > maxPayloadWords)
      (result : r.result =
        .error (.frameError .frameError "response payload exceeds configured maximum"))
      (streamed : Streamed r.buffer r.transport.link taken (unread ++ more))
  | taken {more rest : List Answer} {a : Answer} {grown : List UInt8}
      (oldest : unread ++ more = a :: rest)
      (fits : a.response.payload.length ≤ maxPayloadWords)
      (result : r.result = decodeFrame (ints a.response.words) maxPayloadWords)
      (streamed : Streamed grown r.transport.link taken (a :: rest))
      (whole : a.response.bytes.length ≤ grown.length)
      (left : r.buffer = grown.drop a.response.bytes.length)

variable {features code} {link : Link σ} {buffer : List UInt8} {maxPayloadWords : Nat}
  {taken unread : List Answer}

/-- The buffer that has just grown: what the inner loop makes of it. -/
theorem extract_streamed (maxPayloadWords : Nat) (streamed : Streamed buffer link taken unread)
    (ne : buffer ≠ []) :
    (settle maxPayloadWords buffer = none ∧ extract maxPayloadWords buffer = .more buffer) ∨
    ∃ a rest, unread = a :: rest ∧
      (a.response.payload.length > maxPayloadWords ∧ extract maxPayloadWords buffer =
          .ended (.error (.frameError .frameError "response payload exceeds configured maximum"))
            buffer ∨
        a.response.payload.length ≤ maxPayloadWords ∧ a.response.bytes.length ≤ buffer.length ∧
          extract maxPayloadWords buffer =
            .ended (decodeFrame (ints a.response.words) maxPayloadWords)
              (buffer.drop a.response.bytes.length)) := by
  have bytes := streamed.bytes
  cases unread with
  | nil =>
    rw [responseStream, List.flatMap_nil, List.append_eq_nil_iff] at bytes
    exact absurd bytes.1 ne
  | cons a rest =>
    have start : buffer <+: a.response.bytes ++ responseStream rest :=
      ⟨link.toHost, by rw [bytes, responseStream, List.flatMap_cons, responseStream]⟩
    have settled := settle_frames a.response_le start maxPayloadWords
    rcases extract_begun maxPayloadWords (mayBegin_frames start) with
      waiting | ⟨result, left, found, ended⟩
    · exact .inl waiting
    · right
      refine ⟨a, rest, rfl, ?_⟩
      rw [found] at settled
      split at settled
      · cases settled
      split at settled
      · rename_i big
        cases settled
        exact .inl ⟨big, ended⟩
      split at settled
      · cases settled
      · rename_i fits whole
        cases settled
        exact .inr ⟨Nat.not_lt.1 fits, Nat.not_lt.1 whole, ended⟩

/-- A turn in which the reader goes on. -/
theorem ReadOutcome.later {grown : List UInt8} {turn : Turn} {turns : List Turn}
    {first : List Answer} {r : FrameRead (Connection σ)}
    (idle : grown = buffer ∨ settle maxPayloadWords grown = none)
    (outcome : ReadOutcome features code maxPayloadWords grown (turned features code link turn) turns
      taken (unread ++ first) r) :
    ReadOutcome features code maxPayloadWords buffer link (turn :: turns) taken unread r := by
  cases outcome with
  | timedOut result all streamed waiting =>
    rw [List.append_assoc] at streamed
    refine .timedOut result all streamed ?_
    rcases waiting with same | none
    · rw [same]
      exact idle
    · exact .inr none
  | raised on raises result streamed =>
    rw [List.append_assoc] at streamed
    exact .raised (List.mem_cons_of_mem _ on) raises result streamed
  | refused oldest big result streamed =>
    rw [List.append_assoc] at oldest streamed
    exact .refused oldest big result streamed
  | taken oldest fits result streamed whole left =>
    rw [List.append_assoc] at oldest
    exact .taken oldest fits result streamed whole left

theorem arrived_grown (turn : Turn) :
    Grown (turn.lost.foldl (answer features code) link) (turned features code link turn) :=
  ⟨rfl, List.prefix_refl _, fun ordered => ⟨ordered.inside, ordered.before, ordered.increasing⟩⟩

theorem turned_grown (turn : Turn) : Grown link (turned features code link turn) :=
  (answers_grown features code turn.lost).trans (arrived_grown turn)

theorem flow_grown (turns : List Turn) : Grown link (flow features code turns link) := by
  induction turns generalizing link with
  | nil => exact .refl link
  | cons turn turns ih => exact (turned_grown turn).trans ih

theorem readSome_raised (write : WriteOutcome) {turn : Turn} (turns : List Turn) {error : HostError}
    (raises : turn.error = some error) :
    (linkTransport features code).readSome 4096 ⟨link, write, turn :: turns⟩ =
      (.error error, ⟨turn.lost.foldl (answer features code) link, write, turns⟩) := by
  simp only [linkTransport, raises]

theorem readSome_arrived (write : WriteOutcome) {turn : Turn} (turns : List Turn)
    (quiet : turn.error = none) :
    (linkTransport features code).readSome 4096 ⟨link, write, turn :: turns⟩ =
      (.ok ((turn.lost.foldl (answer features code) link).toHost.take (min turn.arrived 4096)),
        ⟨turned features code link turn, write, turns⟩) := by
  simp only [linkTransport, quiet]
  rfl

/-- What the turns make of the responses, if the host takes none of them. -/
theorem flow_streamed (streamed : Streamed buffer link taken unread) (turns : List Turn) :
    ∃ more grown, Streamed grown (flow features code turns link) taken (unread ++ more) := by
  induction turns generalizing buffer link unread with
  | nil => exact ⟨[], buffer, by rwa [List.append_nil]⟩
  | cons turn turns ih =>
    obtain ⟨first, moved⟩ := answers_streamed features code streamed turn.lost
    obtain ⟨more, grown, last⟩ := ih (moved.arrive (min turn.arrived 4096))
    exact ⟨first ++ more, grown, by rwa [← List.append_assoc]⟩

/-- The reading loop of `read_frame` over the turns of a call. -/
theorem readLoop_outcome (write : WriteOutcome) (turns : List Turn)
    (streamed : Streamed buffer link taken unread) :
    ReadOutcome features code maxPayloadWords buffer link turns taken unread
      (readLoop (linkTransport features code) maxPayloadWords turns.length buffer
        ⟨link, write, turns⟩) := by
  induction turns generalizing buffer link unread with
  | nil => exact .timedOut rfl rfl (by rwa [List.append_nil]) (.inl rfl)
  | cons turn turns ih =>
    obtain ⟨first, moved⟩ := answers_streamed features code streamed turn.lost
    rw [List.length_cons]
    unfold readLoop
    cases raises : turn.error with
    | some error =>
      rw [readSome_raised write turns raises]
      exact .raised List.mem_cons_self raises rfl moved
    | none =>
      have arrived := moved.arrive (min turn.arrived 4096)
      rw [readSome_arrived write turns raises]
      generalize (turn.lost.foldl (answer features code) link).toHost.take (min turn.arrived 4096) =
        chunk at arrived ⊢
      cases chunk with
      | nil =>
        rw [List.append_nil] at arrived
        exact .later (.inl rfl) (ih arrived)
      | cons byte chunk =>
        have ne : buffer ++ byte :: chunk ≠ [] :=
          List.append_ne_nil_of_right_ne_nil _ (List.cons_ne_nil _ _)
        dsimp only
        rcases extract_streamed maxPayloadWords arrived ne with
          ⟨settled, more⟩ | ⟨a, rest, oldest, ⟨big, ended⟩ | ⟨fits, whole, ended⟩⟩
        · rw [more]
          exact .later (.inr settled) (ih arrived)
        · rw [ended]
          exact .refused oldest big rfl arrived
        · rw [ended]
          rw [oldest] at arrived
          exact .taken oldest fits rfl arrived whole rfl

/-- Reading takes nothing from what the device has done, and does no more than the
turns let it do. -/
theorem readLoop_grown (write : WriteOutcome) (turns : List Turn) (buffer : List UInt8) :
    Grown link (readLoop (linkTransport features code) maxPayloadWords turns.length buffer
        ⟨link, write, turns⟩).transport.link ∧
      Grown (readLoop (linkTransport features code) maxPayloadWords turns.length buffer
        ⟨link, write, turns⟩).transport.link (flow features code turns link) := by
  induction turns generalizing buffer link with
  | nil => exact ⟨.refl link, .refl link⟩
  | cons turn turns ih =>
    have start : Grown link (turned features code link turn) := turned_grown turn
    rw [List.length_cons]
    unfold readLoop
    cases raises : turn.error with
    | some error =>
      rw [readSome_raised write turns raises]
      exact ⟨answers_grown features code turn.lost, (arrived_grown turn).trans (flow_grown turns)⟩
    | none =>
      rw [readSome_arrived write turns raises]
      generalize (turn.lost.foldl (answer features code) link).toHost.take (min turn.arrived 4096) =
        chunk
      cases chunk with
      | nil => exact ⟨start.trans (ih buffer).1, (ih buffer).2⟩
      | cons byte chunk =>
        dsimp only
        cases extract maxPayloadWords (buffer ++ byte :: chunk) with
        | more grown => exact ⟨start.trans (ih grown).1, (ih grown).2⟩
        | ended result rest => exact ⟨start, flow_grown turns⟩

end BootUpgrade

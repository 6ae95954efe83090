import BootUpgrade.Core.Receive

/-!
# Finding a request behind garbage

The receiver looks for the magic, reads a whole header behind it and, when the
header is bad, goes on behind that header. A false magic in the garbage costs
the request whose first bytes its header takes.
-/

namespace BootUpgrade

namespace BootProtocol

/-- The returns of so many calls of `BootProtocol_Receive`, or of those before
the first one that waits. -/
def receiveCalls : Nat → BootProtocolFrame → List UInt8 → List Received
  | 0, _, _ => []
  | calls + 1, frame, bytes =>
    match receive frame bytes with
    | none => []
    | some r => r :: receiveCalls calls r.frame r.rest

/-- The places where the search for the magic starts: at the beginning, and
behind the header of each magic it has found. -/
inductive SearchStart (bytes : List UInt8) : Nat → Prop
  | atStart : SearchStart bytes 0
  | behind {q k : Nat} : SearchStart bytes q → Search.First magicBytes (bytes.drop q) k →
      SearchStart bytes (q + k + 20)

/-- No header that is read in the garbage reaches into what follows. -/
def KeepsClear (garbage rest : List UInt8) : Prop :=
  ∀ q k, SearchStart (garbage ++ rest) q → Search.First magicBytes ((garbage ++ rest).drop q) k →
    q + k < garbage.length → q + k + 20 ≤ garbage.length

section
variable {garbage : List UInt8} {request : WireFrame} {frame : BootProtocolFrame}
  (noHeader : ∀ i < garbage.length, ¬ ValidHeader ((garbage ++ request.bytes).drop i))
include noHeader

/-- A magic in the garbage is passed with its header. -/
theorem receive_passes {q k : Nat}
    (first : Search.First magicBytes ((garbage ++ request.bytes).drop q) k)
    (inside : q + k < garbage.length) :
    receive frame ((garbage ++ request.bytes).drop q) =
      receive frame ((garbage ++ request.bytes).drop (q + k + 20)) := by
  have invalid := noHeader (q + k) inside
  have length := request.length_bytes
  rw [receive_first first, List.drop_drop, List.drop_drop, dif_neg fun h => invalid h.1,
    if_neg, Nat.add_assoc]
  rw [List.length_drop, List.length_append]
  omega

theorem receive_searchStart {q : Nat} (start : SearchStart (garbage ++ request.bytes) q)
    (inside : q ≤ garbage.length) :
    receive frame (garbage ++ request.bytes) = receive frame ((garbage ++ request.bytes).drop q) := by
  induction start with
  | atStart => rfl
  | behind _ first ih =>
    rw [ih (by omega)]
    exact receive_passes noHeader first (by omega)

theorem receive_clear (small : request.payload.length ≤ 256)
    (clear : KeepsClear garbage request.bytes) {q : Nat}
    (start : SearchStart (garbage ++ request.bytes) q) (inside : q ≤ garbage.length) :
    ∃ received, receive frame ((garbage ++ request.bytes).drop q) = some ⟨.ok, received, []⟩ ∧
      received.contents = request := by
  generalize left : garbage.length - q = n
  induction n using Nat.strongRecOn generalizing q with
  | ind n ih =>
    have valid := validHeader_bytes request []
    rw [List.append_nil] at valid
    have here : magicBytes <+: ((garbage ++ request.bytes).drop q).drop (garbage.length - q) := by
      rw [List.drop_drop, Nat.add_sub_cancel' inside, List.drop_left]
      exact valid.magic
    cases found : Search.find magicBytes ((garbage ++ request.bytes).drop q) with
    | none => exact absurd here ((Search.find_none magicBytes_ne).1 found _)
    | some k =>
      have first := (Search.find_some magicBytes_ne).1 found
      by_cases false' : q + k < garbage.length
      · rw [receive_passes noHeader first false']
        have fits := clear q k start first false'
        exact ih (garbage.length - (q + k + 20)) (by omega) (start.behind first) fits rfl
      · have least : k ≤ garbage.length - q :=
          Nat.le_of_not_lt fun later => first.before _ later here
        obtain rfl : k = garbage.length - q := by omega
        have whole : ((garbage ++ request.bytes).drop q).drop (garbage.length - q) =
            request.bytes := by
          rw [List.drop_drop, Nat.add_sub_cancel' inside, List.drop_left]
        have fits : declaredWords request.bytes ≤ maxPayloadWords := by
          have declared := declaredWords_bytes request []
          rw [List.append_nil] at declared
          rw [declared, UInt16.le_iff_toNat_le, UInt16.toNat_ofNat_of_lt' (by rw [UInt16.size]; omega)]
          exact small
        have found : ValidHeader (((garbage ++ request.bytes).drop q).drop (garbage.length - q)) ∧
            declaredWords (((garbage ++ request.bytes).drop q).drop (garbage.length - q)) ≤
              maxPayloadWords := by
          rw [whole]
          exact ⟨valid, fits⟩
        rw [receive_found first found.1 found.2, whole]
        have received := receive_bytes frame request small []
        rw [List.append_nil] at received
        exact received

end

/-! ## What is lost -/

/-- A call returns the request. -/
def Returns (request : WireFrame) (returned : List Received) : Prop :=
  ∃ r ∈ returned, r.result = .ok ∧ r.frame.contents = request

/-- Bytes too few for the request do not hold it. -/
theorem not_returns {request : WireFrame} {calls : Nat} {frame : BootProtocolFrame}
    {bytes : List UInt8} (short : bytes.length < request.bytes.length) :
    ¬ Returns request (receiveCalls calls frame bytes) := by
  induction calls generalizing frame bytes with
  | zero =>
    rintro ⟨r, hr, -⟩
    cases hr
  | succ calls ih =>
    rintro ⟨r, hr, ok, contents⟩
    unfold receiveCalls at hr
    cases received : receive frame bytes with
    | none =>
      rw [received] at hr
      cases hr
    | some first =>
      rw [received] at hr
      rcases List.mem_cons.1 hr with rfl | later
      · obtain ⟨skipped, split⟩ := receive_ok received ok
        rw [contents] at split
        rw [split, List.length_append, List.length_append] at short
        omega
      · have shorter := (receive_suffix received).length_le
        exact ih (Nat.lt_of_le_of_lt shorter short) ⟨r, later, ok, contents⟩

/-- The receiver returns the request behind the garbage if and only if no header
it reads in the garbage reaches into the request. -/
theorem resync (garbage : List UInt8) (request : WireFrame) (frame : BootProtocolFrame)
    (small : request.payload.length ≤ 256)
    (noHeader : ∀ i < garbage.length, ¬ ValidHeader ((garbage ++ request.bytes).drop i)) :
    (∃ calls, Returns request (receiveCalls calls frame (garbage ++ request.bytes))) ↔
      KeepsClear garbage request.bytes := by
  constructor
  · rintro ⟨calls, returns⟩ q k start first inside
    apply Classical.byContradiction
    intro reaches
    have length := request.length_bytes
    have passed : receive frame (garbage ++ request.bytes) =
        receive frame ((garbage ++ request.bytes).drop (q + k + 20)) := by
      rw [receive_searchStart noHeader start (by omega)]
      exact receive_passes noHeader first inside
    have short : ((garbage ++ request.bytes).drop (q + k + 20)).length < request.bytes.length := by
      rw [List.length_drop, List.length_append]
      omega
    have same : receiveCalls calls frame (garbage ++ request.bytes) =
        receiveCalls calls frame ((garbage ++ request.bytes).drop (q + k + 20)) := by
      cases calls with
      | zero => rfl
      | succ calls => rw [receiveCalls, receiveCalls, passed]
    rw [same] at returns
    exact not_returns short returns
  · intro clear
    obtain ⟨received, returned, contents⟩ : ∃ received,
        receive frame ((garbage ++ request.bytes).drop 0) = some ⟨.ok, received, []⟩ ∧
          received.contents = request :=
      receive_clear noHeader small clear .atStart (Nat.zero_le _)
    rw [List.drop_zero] at returned
    refine ⟨1, ⟨.ok, received, []⟩, ?_, rfl, contents⟩
    rw [receiveCalls, returned]
    exact List.mem_cons_self

/-- A PING with sequence 1. -/
def pingRequest : WireFrame := ⟨protocolVersion, pktRequest, BootCmd.ping, 1, 0, BootStatus.ok, []⟩

theorem resync_stale_byte : ∃ calls,
    Returns pingRequest (receiveCalls calls (.ofWords 0 0 []) ([0x5A] ++ pingRequest.bytes)) := by
  apply (resync [0x5A] pingRequest (.ofWords 0 0 []) (by decide) (by decide +kernel)).2
  intro q k _ first inside
  have front : q = 0 ∧ k = 0 := by
    rw [List.length_singleton] at inside
    omega
  rw [front.1, front.2] at first
  exact absurd first.here (by decide)

/-- Three stale bytes of a magic: their false header takes the header of the
request with it. -/
theorem resync_partial_magic :
    (∀ i < [0x5A, 0xA5, 0xA5].length,
      ¬ ValidHeader (([0x5A, 0xA5, 0xA5] ++ pingRequest.bytes).drop i)) ∧
    ¬ ∃ calls, Returns pingRequest
      (receiveCalls calls (.ofWords 0 0 []) ([0x5A, 0xA5, 0xA5] ++ pingRequest.bytes)) := by
  refine ⟨by decide +kernel, ?_⟩
  rintro ⟨calls, r, hr, -⟩
  have waits : (receive (.ofWords 0 0 []) ([0x5A, 0xA5, 0xA5] ++ pingRequest.bytes)).isNone = true := by
    decide +kernel
  cases calls with
  | zero => cases hr
  | succ calls =>
    rw [receiveCalls, Option.isNone_iff_eq_none.1 waits] at hr
    cases hr

end BootProtocol

end BootUpgrade

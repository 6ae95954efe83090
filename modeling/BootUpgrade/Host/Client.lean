import BootUpgrade.Common.Protocol
import BootUpgrade.Lib.Dialogue
import BootUpgrade.Host.Firmware

/-!
# Requests of the host

`BootProtocolClient.transact` as the operations see it: a request of a command
with its payload words, and the payload of the answer or an exception. How the
frames travel is left to the server the dialogue is run against.
-/

namespace BootUpgrade

/-- The request of one transaction. -/
structure HostRequest where
  command : UInt16
  payload : List UInt16
  deriving DecidableEq, Repr

/-- The response to it. -/
structure HostAnswer where
  status : UInt16
  payload : List UInt16
  deriving DecidableEq, Repr

abbrev HostDialogue := Dialogue HostRequest HostAnswer HostError

namespace HostClient

/-- The two words of a value that fits uint32. -/
def lowHigh (value : Nat) : List Nat := [value &&& 0xFFFF, value >>> 16]

/-- `split_u32`. -/
def splitU32 (value : Nat) : Except HostError (List Nat) :=
  if value > 0xFFFFFFFF then .error (.valueError "value must fit uint32") else .ok (lowHigh value)

/-- The request frame of a command; its payload words fit uint16. -/
def hostRequest (command : UInt16) (payload : List Nat) : HostRequest :=
  ⟨command, payload.map UInt16.ofNat⟩

/-- `BootProtocolClient.transact`; `limit` is `effective_max_payload_words`. -/
def transact (limit : Nat) (command : UInt16) (payload : List Nat) : HostDialogue (List UInt16) :=
  if payload.length > limit then .fail (.payloadLimitError command payload.length limit)
  else if payload.any (· > 0xFFFF) then .fail (.valueError "payload word must fit uint16")
  else
    (Dialogue.request (hostRequest command payload)).bind fun answer =>
      if answer.status ≠ BootStatus.ok then .fail (.protocolStatusError command answer.status)
      else .done answer.payload

/-- A payload the client sends. -/
structure Encodable (limit : Nat) (payload : List Nat) : Prop where
  length : payload.length ≤ limit
  words : ∀ word ∈ payload, word ≤ 0xFFFF

section
variable {limit : Nat} {command : UInt16} {payload : List Nat}

theorem transact_encodable (h : Encodable limit payload) :
    transact limit command payload =
      (Dialogue.request (hostRequest command payload)).bind fun answer =>
        if answer.status ≠ BootStatus.ok then .fail (.protocolStatusError command answer.status)
        else .done answer.payload := by
  have small : ¬ (payload.any (· > 0xFFFF)) = true := by
    simpa using h.words
  rw [transact, if_neg (Nat.not_lt.2 h.length), if_neg small]

/-- A request that is answered with success, and what follows it. -/
theorem run_transact {T α : Type} {server : Dialogue.Server HostRequest HostAnswer HostError T}
    {s s' : T} {words : List UInt16} (h : Encodable limit payload)
    (answered : server s (hostRequest command payload) = (.ok ⟨BootStatus.ok, words⟩, s'))
    (f : List UInt16 → HostDialogue α) :
    ((transact limit command payload).bind f).run server s =
      { (f words).run server s' with
        exchanges := (hostRequest command payload, .ok ⟨BootStatus.ok, words⟩) ::
          ((f words).run server s').exchanges } := by
  rw [transact_encodable h]
  show (Dialogue.ask (hostRequest command payload) _).run server s = _
  rw [Dialogue.run, answered]
  rfl

/-- What the client refuses to send fails without a request. -/
theorem transact_refused (h : ¬ Encodable limit payload) :
    ∃ error, transact limit command payload = .fail error := by
  unfold transact
  split
  · exact ⟨_, rfl⟩
  rename_i length
  split
  · exact ⟨_, rfl⟩
  rename_i small
  exact absurd ⟨Nat.not_lt.1 length, by simpa using small⟩ h

/-- Every request of a transaction is one of its command. -/
theorem transact_always {P : HostRequest → Prop} (h : P (hostRequest command payload)) :
    (transact limit command payload).Always P := by
  unfold transact
  split
  · trivial
  split
  · trivial
  apply (Dialogue.always_request h).bind
  intro answer
  split <;> trivial

theorem transact_endsWith {P T : HostRequest → Prop} (h : T (hostRequest command payload)) :
    (transact limit command payload).EndsWith P T := by
  unfold transact
  split
  · trivial
  split
  · trivial
  apply (Dialogue.endsWith_request h).bind
  intro answer
  split <;> trivial

theorem splitU32_ok {value : Nat} (h : value ≤ 0xFFFFFFFF) : splitU32 value = .ok (lowHigh value) :=
  if_neg (Nat.not_lt.2 h)

theorem lowHigh_le {value : Nat} (h : value ≤ 0xFFFFFFFF) : ∀ word ∈ lowHigh value, word ≤ 0xFFFF := by
  intro word hw
  simp only [lowHigh, List.mem_cons, List.not_mem_nil, or_false] at hw
  rcases hw with rfl | rfl
  · exact Nat.and_le_right
  · rw [Nat.shiftRight_eq_div_pow]
    omega

/-- The device joins the two words to the value. -/
theorem joinU32_lowHigh {value : Nat} (h : value ≤ 0xFFFFFFFF) :
    (joinU32 (UInt16.ofNat (value &&& 0xFFFF)) (UInt16.ofNat (value >>> 16))).toNat = value := by
  have mask := Nat.and_two_pow_sub_one_eq_mod value 16
  simp only [Nat.reducePow, Nat.add_one_sub_one] at mask
  rw [Words.toNat_joinU32, mask, Nat.shiftRight_eq_div_pow]
  simp only [UInt16.toNat_ofNat', Nat.reducePow]
  omega

end

end HostClient

end BootUpgrade

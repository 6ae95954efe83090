import BootUpgrade.Host.TransferSession

/-!
# Transfers that are not cancelled

With a token that is never set a transfer succeeds exactly when the device
accepts its BEGIN, every packet and its END, and it leaves the device that has
handled these requests.
-/

namespace BootUpgrade.TransferKind

open HostWorkflow HostClient

section
variable {S : Type} {server : HostServer S} {kind : TransferKind} {s : S} {limit : Nat}

theorem succeeds_transact {command : UInt16} {payload : List Nat} (encodable : Encodable limit payload)
    {post : List UInt16 → S → Prop} : Dialogue.Succeeds server (transact limit command payload) s post ↔
      ∃ a, (server s (hostRequest command payload)).1 = .ok a ∧ a.status = BootStatus.ok ∧
        post a.payload (server s (hostRequest command payload)).2 := by
  rw [transact_encodable encodable, Dialogue.succeeds_bind_iff, Dialogue.succeeds_request_iff]
  apply exists_congr
  intro a
  by_cases ok : a.status = BootStatus.ok
  · rw [if_neg (not_not_intro ok), Dialogue.succeeds_done_iff]
    simp [ok]
  · rw [if_pos ok]
    simp [ok]

/-- A transaction whose answer is not used. -/
theorem succeeds_transact_unit {command : UInt16} {payload : List Nat}
    (encodable : Encodable limit payload) {post : Unit → S → Prop} :
    Dialogue.Succeeds server ((transact limit command payload).bind fun _ => .done ()) s post ↔
      Accepts server s (hostRequest command payload) ∧
        post () (server s (hostRequest command payload)).2 := by
  rw [Dialogue.succeeds_bind_iff, succeeds_transact encodable]
  simp only [Dialogue.succeeds_done_iff]
  constructor
  · rintro ⟨a, answer, ok, h⟩
    exact ⟨⟨a, answer, ok⟩, h⟩
  · rintro ⟨⟨a, answer, ok⟩, h⟩
    exact ⟨a, answer, ok, h⟩

theorem succeeds_sendPackets (entryPoint imageCrc32 : Nat) (every : List DataPacket)
    {packets : List DataPacket} (sendable : ∀ packet ∈ packets, Sendable limit packet)
    (sent words : Nat) {post : CancellableTransfer.Sent → S → Prop} :
    Dialogue.Succeeds server
        ((kind.transfer limit entryPoint imageCrc32 every).sendPackets (fun _ => false)
          ⟨sent, words, false⟩ packets) s post ↔
      AcceptsAll server s (packets.map kind.dataRequest) ∧
        post ⟨sent + packets.length, words + totalWords packets, false⟩
          (after server s (packets.map kind.dataRequest)) := by
  induction packets generalizing s sent words with
  | nil =>
    unfold CancellableTransfer.sendPackets
    rw [Dialogue.succeeds_done_iff]
    exact (and_iff_right trivial).symm
  | cons packet rest ih =>
    obtain ⟨first, others⟩ := List.forall_mem_cons.1 sendable
    unfold CancellableTransfer.sendPackets
    rw [if_neg Bool.false_ne_true, Dialogue.succeeds_bind_iff]
    show Dialogue.Succeeds server (dataProtocol limit kind.dataCommand packet) s _ ↔ _
    rw [dataProtocol_eq first, succeeds_transact_unit (encodable_data first), ih others,
      List.map_cons, List.length_cons, totalWords_cons, ← and_assoc, Nat.add_assoc, Nat.add_assoc,
      Nat.add_comm 1]
    rfl

/-- The requests of a transfer, in order. -/
def transferRequests (kind : TransferKind) (entryPoint imageCrc32 : Nat) (packets : List DataPacket) :
    List HostRequest :=
  kind.beginRequest packets entryPoint imageCrc32 ::
    (packets.map kind.dataRequest ++ [kind.endRequest packets imageCrc32])

theorem succeeds_transfer {entryPoint imageCrc32 : Nat} {packets : List DataPacket}
    (sent : BeginSent limit kind.target packets.length (totalWords packets) entryPoint imageCrc32)
    (sendable : ∀ packet ∈ packets, Sendable limit packet)
    {post : CancellableTransferOutcome → S → Prop} :
    Dialogue.Succeeds server
        ((kind.transfer limit entryPoint imageCrc32 packets).runCancellableTransfer fun _ => false)
        s post ↔
      AcceptsAll server s (kind.transferRequests entryPoint imageCrc32 packets) ∧
        post ⟨(totalWords packets, packets.length), none, none, false⟩
          (after server s (kind.transferRequests entryPoint imageCrc32 packets)) := by
  have fits : 6 ≤ limit := Nat.le_trans (show 6 ≤ 9 by decide) sent.encodable.length
  unfold CancellableTransfer.runCancellableTransfer
  rw [if_neg Bool.false_ne_true, Dialogue.succeeds_bind_iff]
  show Dialogue.Succeeds server (beginProtocol ..) s _ ↔ _
  rw [beginProtocol_sent sent, succeeds_transact_unit sent.encodable, Dialogue.succeeds_bind_iff]
  show _ ∧ Dialogue.Succeeds server (CancellableTransfer.sendPackets _ _ _ packets) _ _ ↔ _
  rw [succeeds_sendPackets _ _ _ sendable]
  simp only [Bool.false_eq_true, false_and, if_false]
  unfold CancellableTransfer.complete
  rw [Dialogue.succeeds_bind_iff]
  show _ ∧ _ ∧ Dialogue.Succeeds server
    (endProtocol limit kind.endCommand packets.length (totalWords packets) imageCrc32) _ _ ↔ _
  rw [endProtocol_eq sent.toCountable,
    succeeds_transact_unit (encodable_end fits sent.toCountable)]
  simp only [Bool.or_self, Bool.false_eq_true, if_false, Dialogue.succeeds_done_iff,
    transferRequests, AcceptsAll, acceptsAll_append, and_true, and_assoc, after, List.foldl_cons,
    List.foldl_append, List.foldl_nil]
  rfl

end

end BootUpgrade.TransferKind

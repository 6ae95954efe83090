import BootUpgrade.Host.Admissible
import BootUpgrade.Host.ProgrammedContent
import BootUpgrade.System.FlashErase
import BootUpgrade.System.FlashTransfer

/-!
# The packets of an image on a Flash array

An array takes the packets of a program exactly when the runs of the image start
with a unit and are cut at the sector boundaries. In a blank area they write the
image, and the same packets then compare equal.
-/

namespace BootUpgrade.FlashTransfer

open Chunks Intervals FlashArray HostImages HostWorkflow HostClient HostOperations TransferKind
  Dialogue RamLoading BootFlashService AttachedService FlashErase

/-! ## The packets -/

section
variable {ctx : FlashOperationContext} {m : Nat}

theorem maxWriteDataWords_ok (size : ctx.maxWriteDataWords = .ok m) :
    0 < m ∧ m % 8 = 0 ∧ m ≤ ctx.maxDataWords := by
  unfold OperationContext.maxWriteDataWords writeDataAlignmentWords at size
  dsimp only at size
  split at size
  · cases size
  · cases size
    omega

variable {image : FirmwareImage} {prepared : PreparedFlashImage} {packets : List DataPacket}

/-- A packet of the image, as the port sees it. -/
structure Sized (m : Nat) (packet : DataPacket) : Prop where
  start : 0x082400 ≤ packet.address
  stop : packet.address < 0x0C0000
  units : packet.words.length % 8 = 0
  nonempty : 0 < packet.words.length
  short : packet.words.length ≤ m

section
variable (positive : 0 < m) (units : m % 8 = 0) (prepare : HostImages.Prepared image prepared)
  (transfer : preparePackets image m = .ok packets)
include positive units prepare transfer

theorem sized_packet : ∀ packet ∈ packets, Sized m packet := by
  intro packet mem
  obtain ⟨start, stop, k, piece⟩ := piece_of_packet positive units transfer mem
  have inside := run_inside prepare piece.run
  have short := piece.piece
  have address := piece.address
  have length := piece.length
  unfold paddedLength at length
  constructor <;> omega

/-- The port checks every packet and finds it in the application, in one sector and of whole
units, exactly when the image is cut at the sectors. -/
theorem checked_iff_cut : (∀ packet ∈ packets, CheckedForProgram packet) ↔ CutAtSectors image m := by
  constructor
  · intro checked start stop run
    have fits : ∀ k, m * k < stop - start →
        InSector (start + m * k) (paddedLength (min m (stop - start - m * k))) ∧
          (start + m * k) % 8 = 0 := by
      intro k hk
      obtain ⟨packet, mem, piece⟩ := packet_of_piece positive units transfer run hk
      exact (piece.checked_iff prepare).1 (checked packet mem)
    have some := run.nonempty
    have first := (fits 0 (by omega)).2
    rw [Nat.mul_zero] at first
    exact ⟨first, cut_of_inSector positive units fun k hk => (fits k hk).1⟩
  · intro cut packet mem
    obtain ⟨start, stop, k, piece⟩ := piece_of_packet positive units transfer mem
    obtain ⟨aligned, boundaries⟩ := cut start stop piece.run
    have unit : m * k % 8 = 0 := by rw [Nat.mul_mod, units, Nat.zero_mul, Nat.zero_mod]
    apply (piece.checked_iff prepare).2
    exact ⟨inSector_of_cut positive units (run_inside prepare piece.run) aligned boundaries piece.piece,
      by omega⟩

end

/-- The packets of aligned runs follow one another. -/
theorem packets_follow (positive : 0 < m) (units : m % 8 = 0) (cut : CutAtSectors image m) :
    (packetsOf m 0 (mergeContiguous image.blocks)).Pairwise
      fun p q => p.address + p.words.length ≤ q.address := by
  apply pairwise_packetsOf positive units
  · intro block mem
    exact (cut _ _ ((mergeContiguous_runs image _ _).1 ⟨block, mem, rfl⟩)).1
  · exact List.pairwise_map.1 (separated_mergeContiguous image).apart

/-- Blocks that follow one another have room between their bounds. -/
theorem follow_bound {n low high : Nat} {packets : List DataPacket}
    (follow : packets.Pairwise fun p q => p.address + p.words.length ≤ q.address)
    (long : ∀ packet ∈ packets, n ≤ packet.words.length)
    (above : ∀ packet ∈ packets, low ≤ packet.address)
    (below : ∀ packet ∈ packets, packet.address + packet.words.length ≤ high) (ordered : low ≤ high) :
    low + n * packets.length ≤ high := by
  induction packets generalizing low with
  | nil => exact ordered
  | cons packet rest ih =>
    obtain ⟨first, follow⟩ := List.pairwise_cons.1 follow
    obtain ⟨size, long⟩ := List.forall_mem_cons.1 long
    obtain ⟨start, -⟩ := List.forall_mem_cons.1 above
    obtain ⟨stop, below⟩ := List.forall_mem_cons.1 below
    have others := ih follow long first below stop
    rw [List.length_cons, Nat.mul_succ]
    omega

/-- An image that is cut at the sectors is never too long for one transfer. -/
theorem preparePackets_cut (positive : 0 < m) (units : m % 8 = 0)
    (prepare : HostImages.Prepared image prepared) (cut : CutAtSectors image m) :
    ∃ packets, preparePackets image m = .ok packets := by
  refine ⟨_, preparePackets_few positive units image ?_⟩
  rw [packetCount, ← length_packetsOf m 0]
  have sizes := (writesImage_packetsOf positive units image).lengths
  have places : ∀ packet ∈ packetsOf m 0 (mergeContiguous image.blocks),
      0x082400 ≤ packet.address ∧ packet.address + packet.words.length ≤ 0x0C0000 + 8 := by
    intro packet mem
    obtain ⟨block, hb, k, hk, address, words⟩ := mem_packetsOf.1 ⟨packet, mem, rfl, rfl⟩
    have run := (mergeContiguous_runs image _ _).1 ⟨block, hb, rfl⟩
    have inside := run_inside prepare run
    have short := (lt_count positive).1 hk
    have stop : block.endExclusive = block.address + block.words.length := rfl
    rw [words, length_padded, length_chunk, address]
    omega
  have bound := follow_bound (packets_follow positive units cut)
    (fun packet mem => show 8 ≤ packet.words.length by have := sizes packet mem; omega)
    (fun packet mem => (places packet mem).1) (fun packet mem => (places packet mem).2) (by decide)
  omega

/-- The client sends the packets and the service has room for them. -/
theorem packets_ready {σ : Type} {c : Core σ} {maxDataWords : UInt16}
    (limits : ClientLimits c ctx.toOperationContext) (size : ctx.maxWriteDataWords = .ok m)
    (room : ctx.maxDataWords ≤ maxDataWords.toNat) (prepare : HostImages.Prepared image prepared)
    (transfer : preparePackets image m = .ok packets) :
    Packets ctx.maxPayloadWords maxDataWords packets := by
  obtain ⟨positive, units, most⟩ := maxWriteDataWords_ok size
  obtain ⟨-, payload⟩ := limits.bounds
  have fits := limits.fits
  have sized := sized_packet positive units prepare transfer
  obtain ⟨rfl, few⟩ := preparePackets_ok positive units transfer
  have numbered : (packetsOf m 0 (mergeContiguous image.blocks)).map DataPacket.index = _ :=
    index_packetsOf 0
  rw [← List.range_eq_range'] at numbered
  constructor
  · exact packetsOf_ne positive (mergeContiguous_ne image)
  · exact few
  · exact numbered
  · intro packet mem
    have size := sized packet mem
    have index : packet.index ∈ List.range (packetsOf m 0 (mergeContiguous image.blocks)).length := by
      rw [← numbered]
      exact List.mem_map_of_mem mem
    have low := List.mem_range.1 index
    have stop := size.stop
    have short := size.short
    constructor <;> omega
  · exact fun packet mem => (sized packet mem).units
  · exact fun packet mem => (sized packet mem).nonempty
  · intro packet mem
    have := (sized packet mem).short
    omega

end

/-! ## Packets on the array -/

theorem check_packet {packet : DataPacket} : (packetCheck port .program packet).1 = BootFlashResult.ok ↔
    CheckedForProgram packet := by
  unfold packetCheck CheckedForProgram
  show (F28377D.checkAddress _ _ .program _).1 = _ ↔ _
  simp only [checkAddress_ok]
  exact ⟨fun allowed _ => allowed, fun allowed => allowed .zero⟩

section
variable {w : FlashArray} {packet : DataPacket} {m : Nat} (sized : Sized m packet)
include sized

theorem address_sized : (UInt32.ofNat packet.address).toNat = packet.address := by
  have := sized.stop
  exact UInt32.toNat_ofNat_of_lt' (by rw [UInt32.size]; omega)

variable (small : m ≤ 251)
include small

theorem length_sized : (UInt16.ofNat packet.words.length).toNat = packet.words.length := by
  have := sized.short
  exact UInt16.toNat_ofNat_of_lt' (by rw [UInt16.size]; omega)

variable (working : Working w)
include working

theorem program_packet :
    (packetCall port .program packet w).result = BootFlashResult.ok ∧
      Working (packetCall port .program packet w).world ∧
      (packetCall port .program packet w).world.words = writePacket w.words packet := by
  have address := address_sized sized
  have stop := sized.stop
  have short := sized.short
  have low : (UInt32.ofNat packet.address).toNat + packet.words.length + 7 < 4294967296 := by omega
  have programmed := programBlock_working working (packetCheck port .program packet).2
    (length_sized sized small) low
  rw [address] at programmed
  exact programmed

/-- The packet compares equal where the array has its words. -/
theorem verify_packet (checked : CheckedForProgram packet)
    (same : ∀ a v, packet.Has a v → w.words a = v) :
    Taken port .verify packet w ∧ Working (packetCall port .verify packet w).world ∧
      (packetCall port .verify packet w).world.words = w.words := by
  have address := address_sized sized
  have length := length_sized sized small
  have stop := sized.stop
  have short := sized.short
  obtain ⟨low, ⟨s, hs, first, last, fits⟩, aligned, -⟩ :=
    (checkedForProgram_iff (by omega) (by omega)).1 checked
  have count : (UInt32.ofNat packet.words.length).toNat = packet.words.length :=
    UInt32.toNat_ofNat_of_lt' (by rw [UInt32.size]; omega)
  have allowed : F28377D.addressAllowed (UInt32.ofNat packet.address)
      (UInt32.ofNat packet.words.length) .verify = true := by
    rw [F28377D.addressAllowed_iff (by omega), address, count]
    exact ⟨low, ⟨s, hs, first, last, fits⟩, fun program => by cases program⟩
  obtain ⟨live, compared⟩ := verifyBlock_working working (packetCheck port .verify packet).2
    (UInt32.ofNat packet.address) packet.words (UInt16.ofNat packet.words.length)
  refine ⟨⟨checkAddress_ok.2 allowed, compared.2 ?_⟩, live, verifyBlock_words _ w _ _ _⟩
  rw [address, length]
  refine ⟨⟨aligned, sized.units⟩, ?_⟩
  intro i hi
  rw [List.getD_eq_getElem?_getD, List.getElem?_eq_getElem hi, Option.getD_some]
  apply same
  refine ⟨by omega, ?_⟩
  rw [Nat.add_sub_cancel_left]
  exact List.getElem?_eq_getElem hi

end

section
variable {w : FlashArray} {m : Nat} {packets : List DataPacket}
  (sized : ∀ packet ∈ packets, Sized m packet) (small : m ≤ 251)
include sized small

/-- The array takes the packets of a program that pass the check. -/
theorem takesAll_program (working : Working w) :
    (TakesAll port .program packets w ↔ ∀ packet ∈ packets, CheckedForProgram packet) ∧
      Working (takenAll port .program packets w) ∧
      (takenAll port .program packets w).words = writePackets w.words packets := by
  induction packets generalizing w with
  | nil => exact ⟨by simp [TakesAll], working, rfl⟩
  | cons packet rest ih =>
    obtain ⟨first, others⟩ := List.forall_mem_cons.1 sized
    obtain ⟨ok, live, words⟩ := program_packet first small working
    obtain ⟨takes, last, written⟩ := ih others live
    refine ⟨?_, last, ?_⟩
    · rw [TakesAll, takes, List.forall_mem_cons, ← check_packet]
      exact and_congr_left fun _ => ⟨fun taken => taken.checked, fun checked => ⟨checked, ok⟩⟩
    · rw [writePackets_cons, ← words]
      exact written

/-- The array takes the packets of a verify when it has their words. -/
theorem takesAll_verify (working : Working w) (checked : ∀ packet ∈ packets, CheckedForProgram packet)
    (same : ∀ packet ∈ packets, ∀ a v, packet.Has a v → w.words a = v) :
    TakesAll port .verify packets w ∧ Working (takenAll port .verify packets w) ∧
      (takenAll port .verify packets w).words = w.words := by
  induction packets generalizing w with
  | nil => exact ⟨trivial, working, rfl⟩
  | cons packet rest ih =>
    obtain ⟨first, others⟩ := List.forall_mem_cons.1 sized
    obtain ⟨passes, pass⟩ := List.forall_mem_cons.1 checked
    obtain ⟨agrees, agree⟩ := List.forall_mem_cons.1 same
    obtain ⟨taken, live, words⟩ := verify_packet first small working passes agrees
    rw [← words] at agree
    obtain ⟨takes, last, kept⟩ := ih others live pass agree
    exact ⟨⟨taken, takes⟩, last, kept.trans words⟩

end

/-! ## What the area holds -/

/-- `m'` is `m` with the image in its sectors, which are blank elsewhere. -/
structure HoldsImage (prepared : PreparedFlashImage) (m m' : Memory.Words) : Prop where
  image : ∀ a v, HasWord prepared.image.blocks a v → m' a = v
  blank : ∀ a, InArea prepared.sectorMask a → ¬ prepared.image.Covers a →
    m' a = BootMetadata.erasedWord
  outside : ∀ a, ¬ InArea prepared.sectorMask a → m' a = m a

theorem writePackets_congr {m m' : Memory.Words} {a : Nat} (same : m a = m' a)
    (packets : List DataPacket) : writePackets m packets a = writePackets m' packets a := by
  induction packets generalizing m m' with
  | nil => exact same
  | cons packet rest ih =>
    rw [writePackets_cons, writePackets_cons]
    apply ih
    unfold writePacket programWords
    rw [same]

section
variable {image : FirmwareImage} {prepared : PreparedFlashImage} {n : Nat} {packets : List DataPacket}
  {m m' : Memory.Words} (positive : 0 < n) (units : n % 8 = 0)
  (prepare : HostImages.Prepared image prepared) (transfer : preparePackets image n = .ok packets)
  (cut : CutAtSectors image n)
include positive units prepare transfer cut

/-- The packets lie in the area of the image. -/
theorem packet_area {packet : DataPacket} (mem : packet ∈ packets) {a : Nat} {v : UInt16}
    (has : packet.Has a v) : InArea prepared.sectorMask a := by
  obtain ⟨start, stop, k, piece⟩ := piece_of_packet positive units transfer mem
  have size := sized_packet positive units prepare transfer packet mem
  have checked := (checked_iff_cut positive units prepare transfer).2 cut packet mem
  have fits := ((piece.checked_iff prepare).1 checked).1
  rw [← piece.address, ← piece.length] at fits
  obtain ⟨lower, found⟩ := has
  obtain ⟨bound, -⟩ := List.getElem?_eq_some_iff.1 found
  obtain ⟨i, s, hs, low, high, bit⟩ := piece.selected prepare fits bound
  rw [Nat.add_sub_cancel' lower] at low high
  exact ⟨i, s, hs, low, high, bit⟩

/-- Programmed into the blank area, every word of every packet stands there. -/
theorem packets_written (erased : AreaErased prepared.sectorMask m m') :
    ∀ packet ∈ packets, ∀ a v, packet.Has a v → writePackets m' packets a = v := by
  intro packet mem a v has
  have area := packet_area positive units prepare transfer cut mem has
  apply writePackets_writes (erased.inside a area) _ ⟨packet, mem, has⟩
  intro other mem' u has'
  -- two packets with the address are one
  have follow := packets_follow positive units cut
  obtain ⟨rfl, -⟩ := preparePackets_ok positive units transfer
  obtain ⟨lower, found⟩ := has
  obtain ⟨lower', found'⟩ := has'
  obtain ⟨bound, -⟩ := List.getElem?_eq_some_iff.1 found
  obtain ⟨bound', -⟩ := List.getElem?_eq_some_iff.1 found'
  let Apart (p q : DataPacket) : Prop := p = q ∨ p.address + p.words.length ≤ q.address ∨
    q.address + q.words.length ≤ p.address
  have apart : Apart packet other := List.Pairwise.forall_of_forall_of_flip
    (fun _ _ => .inl rfl) (follow.imp fun before => .inr (.inl before))
    (follow.imp fun before => .inr (.inr before)) mem mem'
  rcases apart with rfl | before | behind
  · rw [found] at found'
    exact .inl (Option.some.inj found').symm
  · omega
  · omega

/-- Programmed into the blank area, the packets leave the image. -/
theorem programmed_area (erased : AreaErased prepared.sectorMask m m') :
    HoldsImage prepared m (writePackets m' packets) := by
  have writes := writesImage_packetsOf positive units image
  have covered {a : Nat} (covers : image.Covers a) : InArea prepared.sectorMask a := by
    obtain ⟨s, hs, low, high⟩ := inSector_of_app (prepare.covers covers)
    obtain ⟨i, entry⟩ := List.mem_iff_getElem?.1 hs
    have bit := (testBit_imageSectorMask image i).2 ⟨s, entry, a, covers, low, high⟩
    refine ⟨i, s, entry, low, high, ?_⟩
    rw [metadata_bit prepare, bit, Bool.true_or]
  obtain ⟨same, -⟩ := preparePackets_ok positive units transfer
  constructor
  · intro a v word
    rw [prepare.same] at word
    have area := covered (covered_iff.2 ⟨v, word⟩)
    have blank : m' a = erasedFlash a := erased.inside a area
    rw [writePackets_congr blank, same]
    exact writes.word a v word
  · intro a area uncovered
    rw [prepare.same] at uncovered
    have blank : m' a = erasedFlash a := erased.inside a area
    rw [writePackets_congr blank, same]
    exact writes.pad a uncovered
  · intro a outside
    rw [← erased.outside a outside]
    apply writePackets_pad
    intro packet mem v has
    exact absurd (packet_area positive units prepare transfer cut mem has) outside

end

/-! ## The transfers of the host -/

section
variable {ctx : FlashOperationContext} {prepared : PreparedFlashImage} {m : Nat}
  {packets : List DataPacket} {maxDataWords : UInt16}

theorem beginSent_packets {limit entryPoint : Nat} (ready : Packets limit maxDataWords packets)
    (long : 9 ≤ limit) (entry : entryPoint ≤ 0xFFFFFFFF) :
    BeginSent limit 1 packets.length (totalWords packets) entryPoint 0 := by
  refine ⟨⟨ready.few, ready.total, Nat.zero_le _⟩, entry, long, ?_⟩
  intro word mem
  simp only [beginPayload, List.mem_append, List.mem_cons, List.not_mem_nil, or_false] at mem
  rcases mem with ((((rfl | rfl) | mem) | mem) | mem) | rfl
  · decide
  · exact ready.few
  · exact lowHigh_le ready.total word mem
  · exact lowHigh_le entry word mem
  · exact lowHigh_le (Nat.zero_le _) word mem
  · decide

theorem transferFlash_packets (kind : TransferKind) (size : ctx.maxWriteDataWords = .ok m) :
    transferFlash ctx kind prepared = (Dialogue.lift (preparePackets prepared.image m)).bind fun packets =>
      ((kind.transfer ctx.maxPayloadWords prepared.identity.entryPoint 0
        packets).runCancellableTransfer ctx.transferPolls).bind fun outcome => .done outcome.result := by
  rw [transferFlash, size]
  rfl

/-- A transfer that is not cancelled completes when the service accepts it. -/
theorem transferFlash_completes {σ : Type} {port : FlashPort σ} {s s' : FlashService σ}
    {operation : SessionOperation} {counts : Option (Nat × Nat)} (free : Uninterrupted ctx)
    (ne : operation ≠ .none) (initialized : s.runtime.initialized ≠ 0)
    (size : ctx.maxWriteDataWords = .ok m) (transfer : preparePackets prepared.image m = .ok packets)
    (ready : Packets ctx.maxPayloadWords s.runtime.maxDataWords packets)
    (long : 9 ≤ ctx.maxPayloadWords) (entry : prepared.identity.entryPoint ≤ 0xFFFFFFFF) :
    Completes (attachedServer port) (transferFlash ctx (transferKind operation) prepared) s counts s' ↔
      (s.runtime.session.operation = .none ∧ (ensured port operation s).status = BootStatus.ok ∧
        TakesAll port operation packets (ensured port operation s).service.world) ∧
      counts = some (totalWords packets, packets.length) ∧
      s' = { runtime := finished operation (ensured port operation s).service.runtime
             world := takenAll port operation packets (ensured port operation s).service.world } := by
  have begins := beginSent_packets ready long entry
  rw [← target_kind operation] at begins
  obtain ⟨accepted, left⟩ := transfer_accepted port prepared.identity.entryPoint ne initialized ready
  rw [transferFlash_packets _ size, transfer, Completes, free.transferPolls]
  show Succeeds _ (Dialogue.bind _ fun outcome : CancellableTransferOutcome => done outcome.result)
    s _ ↔ _
  rw [succeeds_bind_iff, succeeds_transfer begins ready.sendable, succeeds_done_iff, ← accepted]
  constructor
  · rintro ⟨takes, result, rfl⟩
    exact ⟨takes, (OperationResult.succeeded.inj result).symm, left takes⟩
  · rintro ⟨takes, rfl, rfl⟩
    exact ⟨takes, rfl, left takes⟩

end

end BootUpgrade.FlashTransfer

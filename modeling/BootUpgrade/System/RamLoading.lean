import BootUpgrade.Core.Loading
import BootUpgrade.Host.RamPackets
import BootUpgrade.Host.TransferAccepted
import BootUpgrade.Host.TransferClean

/-!
# A RAM load of the host on the core

The frames of the transfer as the core reads them, and what it makes of them:
every packet that the RAM port takes is accepted, and the END is accepted exactly
when the entry point lies between the lowest and the highest address of the
packets. What is loaded is what the packets carry.
-/

namespace BootUpgrade.RamLoading

open HostWorkflow HostClient BootAlgorithm TransferKind

variable {σ : Type} {features : BootFeatures} {code : ServiceCode σ} {c : Core σ}

/-! ## Frames -/

theorem taken_le (q : HostRequest) : (q.payload.take 256).length ≤ 256 := List.length_take_le ..

/-- The frame of a request, cut to the buffer of the device. -/
def requestFrame (q : HostRequest) : BootProtocolFrame := .ofWords q.command 1 (q.payload.take 256) (taken_le q)

theorem frameOf_eq {q : HostRequest} (fits : q.payload.length ≤ 256) :
    frameOf q fits = requestFrame q := by
  simp only [frameOf, requestFrame, List.take_of_length_le fits]

theorem word_requestFrame {q : HostRequest} (fits : q.payload.length ≤ 256) (index : Nat) :
    (requestFrame q).word index = q.payload.getD index 0 := by
  rw [← frameOf_eq fits, word_payload]

theorem u32_requestFrame {q : HostRequest} (fits : q.payload.length ≤ 256) (index : Nat) :
    (requestFrame q).u32 index = joinU32 (q.payload.getD index 0) (q.payload.getD (index + 1) 0) := by
  rw [BootProtocolFrame.u32, word_requestFrame fits, word_requestFrame fits]

theorem payloadWords_requestFrame {q : HostRequest} (fits : q.payload.length ≤ 256) :
    (requestFrame q).payloadWords = UInt16.ofNat q.payload.length := by
  rw [← frameOf_eq fits]
  rfl

/-- The words of the payload from `start` on. -/
theorem words_requestFrame {q : HostRequest} (fits : q.payload.length ≤ 256) {start count : Nat}
    (inside : start + count ≤ q.payload.length) :
    (requestFrame q).words start count = (q.payload.drop start).take count := by
  apply List.ext_getElem?
  intro i
  rw [← frameOf_eq fits, frameOf, BootProtocolFrame.words, BootProtocolFrame.ofWords,
    Vector.toList_ofFn, List.getElem?_take, List.getElem?_take]
  by_cases lt : i < count
  · have bound : start + i < 256 := by omega
    have bound' : start + i < q.payload.length := by omega
    rw [if_pos lt, if_pos lt, List.getElem?_drop, List.getElem?_drop, List.getElem?_ofFn,
      dif_pos bound, List.getElem?_eq_getElem bound', List.getD_eq_getElem?_getD,
      List.getElem?_eq_getElem bound']
    rfl
  · rw [if_neg lt, if_neg lt]

/-- The core handles a request that fits its buffer. -/
theorem coreServer_eq {q : HostRequest} (fits : q.payload.length ≤ 256) :
    coreServer features code c q =
      let r := dispatch (requestFrame q) features code c
      (.ok ⟨r.response.status, r.response.payload⟩, r.core) := by
  rw [coreServer, dif_pos fits, frameOf_eq fits, processOne_dispatch ⟨rfl, rfl, rfl⟩]

/-- A request that is answered with OK and leaves `c'`. -/
theorem coreServer_ok {q : HostRequest} {c' : Core σ} (fits : q.payload.length ≤ 256)
    (handled : dispatch (requestFrame q) features code c =
      sendStatus (requestFrame q) BootStatus.ok c') :
    Accepts (coreServer features code) c q ∧ (coreServer features code c q).2 = c' := by
  rw [Accepts, coreServer_eq fits, handled]
  exact ⟨⟨_, rfl, rfl⟩, rfl⟩

/-- A transaction with the core succeeds when the request that is sent is handled with OK. -/
theorem succeeds_core {limit : Nat} {command : UInt16} {payload : List Nat} {r : CoreReturn σ}
    (encodable : Encodable limit payload) (fits : (hostRequest command payload).payload.length ≤ 256)
    (handled : dispatch (requestFrame (hostRequest command payload)) features code c = r)
    {post : List UInt16 → Core σ → Prop} :
    Dialogue.Succeeds (coreServer features code) (transact limit command payload) c post ↔
      r.response.status = BootStatus.ok ∧ post r.response.payload r.core := by
  rw [succeeds_transact encodable, coreServer_eq fits, handled]
  constructor
  · rintro ⟨a, answer, ok, h⟩
    cases answer
    exact ⟨ok, h⟩
  · rintro ⟨ok, h⟩
    exact ⟨_, rfl, ok, h⟩

/-! ## The packets of a load -/

/-- A packet that the client sends and the RAM port takes. -/
structure Loadable (limit : Nat) (packet : DataPacket) : Prop extends Sendable limit packet where
  nonempty : packet.words ≠ []
  writable : BootRam.checkAddress (UInt32.ofNat packet.address)
    (UInt32.ofNat packet.words.length) BootTarget.ramApp = BootRamResult.ok

/-- The frame of a packet. -/
def dataFrame (packet : DataPacket) : BootProtocolFrame := requestFrame (ramLoad.dataRequest packet)

section
variable {limit : Nat} {packet : DataPacket} (sendable : Sendable limit packet)
include sendable

theorem dataRequest_fits : (ramLoad.dataRequest packet).payload.length ≤ 256 := by
  have := sendable.device
  simp only [dataRequest, hostRequest, dataPayload, lowHigh, List.length_append, List.length_cons,
    List.length_nil, List.length_map]
  omega

theorem dataFrame_address : ((dataFrame packet).u32 0).toNat = packet.address := by
  rw [dataFrame, u32_requestFrame (dataRequest_fits sendable)]
  exact joinU32_lowHigh sendable.address

theorem dataFrame_count : (dataFrame packet).word 2 = UInt16.ofNat packet.words.length := by
  rw [dataFrame, word_requestFrame (dataRequest_fits sendable)]
  rfl

theorem dataFrame_length : ((dataFrame packet).word 2).toNat = packet.words.length := by
  have := sendable.device
  rw [dataFrame_count sendable]
  exact UInt16.toNat_ofNat_of_lt' (by rw [UInt16.size]; omega)

theorem dataFrame_index : ((dataFrame packet).u32 3).toNat = packet.index := by
  rw [dataFrame, u32_requestFrame (dataRequest_fits sendable)]
  exact joinU32_lowHigh sendable.index

theorem loadData_dataFrame : loadData (dataFrame packet) = packet.words := by
  have device := sendable.device
  have fits := dataRequest_fits sendable
  have payload : (ramLoad.dataRequest packet).payload =
      ((lowHigh packet.address ++ [packet.words.length] ++ lowHigh packet.index).map UInt16.ofNat) ++
        packet.words := by
    have back : (packet.words.map (·.toNat)).map UInt16.ofNat = packet.words := by
      rw [List.map_map]
      exact List.map_id'' (fun w => UInt16.ofNat_toNat) _
    show List.map UInt16.ofNat (_ ++ packet.words.map (·.toNat)) = _
    rw [List.map_append, back]
  have five : ((lowHigh packet.address ++ [packet.words.length] ++
      lowHigh packet.index).map UInt16.ofNat).length = 5 := rfl
  rw [loadData, dataFrame_length sendable, dataFrame, words_requestFrame fits]
  · rw [payload, ← five, List.drop_left, List.take_length]
  · simp only [payload, List.length_append, five, Nat.le_refl]

theorem dataFrame_payload :
    (dataFrame packet).payloadWords = (5 : UInt16) + (dataFrame packet).word 2 := by
  have device := sendable.device
  have length : (ramLoad.dataRequest packet).payload.length = 5 + packet.words.length := by
    simp only [dataRequest, hostRequest, dataPayload, lowHigh, List.length_append, List.length_cons,
      List.length_nil, List.length_map]
  have small : (UInt16.ofNat packet.words.length).toNat = packet.words.length :=
    UInt16.toNat_ofNat_of_lt' (by rw [UInt16.size]; omega)
  have sum : (UInt16.ofNat (5 + packet.words.length)).toNat = 5 + packet.words.length :=
    UInt16.toNat_ofNat_of_lt' (by rw [UInt16.size]; omega)
  have five : (5 : UInt16).toNat = 5 := rfl
  rw [dataFrame_count sendable, dataFrame,
    payloadWords_requestFrame (dataRequest_fits sendable), length, ← UInt16.toNat_inj, sum,
    UInt16.toNat_add, small, five]
  omega

theorem dataFrame_address32 : (dataFrame packet).u32 0 = UInt32.ofNat packet.address := by
  rw [← dataFrame_address sendable, UInt32.ofNat_toNat]

theorem dataFrame_length32 :
    ((dataFrame packet).word 2).toUInt32 = UInt32.ofNat packet.words.length := by
  rw [← dataFrame_length sendable, UInt32.ofNat_uInt16ToNat]

/-- The addresses of the block are those of the packet. -/
theorem inBlock_dataFrame {a : UInt32} : InBlock (dataFrame packet) a ↔
    packet.address ≤ a.toNat ∧ a.toNat < packet.address + packet.words.length := by
  rw [InBlock, dataFrame_address sendable, dataFrame_length sendable]

/-- The word of the block at an address is the packet's. -/
theorem wordOf_dataFrame {a : UInt32} {w : UInt16} (has : packet.Has a.toNat w) :
    wordOf (dataFrame packet) a = w := by
  rw [wordOf, loadData_dataFrame sendable, dataFrame_address sendable,
    List.getD_eq_getElem?_getD, has.2]
  rfl

end

theorem storable_dataFrame {limit : Nat} {packet : DataPacket} (loadable : Loadable limit packet) :
    Storable (dataFrame packet) := by
  have sendable := loadable.toSendable
  have count := dataFrame_length sendable
  have device := sendable.device
  constructor
  · have five : (5 : UInt16).toNat = 5 := rfl
    rw [dataFrame_payload sendable, UInt16.le_iff_toNat_le, UInt16.toNat_add, count, five]
    omega
  · exact dataFrame_payload sendable
  · intro zero
    rw [zero] at count
    exact loadable.nonempty (List.eq_nil_of_length_eq_zero count.symm)
  · rw [dataFrame_address32 sendable, dataFrame_length32 sendable]
    exact loadable.writable

/-! ## The load -/

/-- The entry point lies between the lowest and the highest address of the packets. -/
def EntryLoaded (entryPoint : Nat) (packets : List DataPacket) : Prop :=
  (∃ packet ∈ packets, packet.address ≤ entryPoint) ∧
    ∃ packet ∈ packets, entryPoint < packet.address + packet.words.length

/-- A load that gets as far as its END. -/
structure Loads (limit entryPoint imageCrc32 : Nat) (sent : List DataPacket) : Prop
    extends BeginSent limit 2 sent.length (totalWords sent) entryPoint imageCrc32 where
  some : sent ≠ []
  indices : sent.map (·.index) = List.range sent.length
  loadable : ∀ packet ∈ sent, Loadable limit packet
  entryRegion : BootRam.checkAddress (UInt32.ofNat entryPoint) 1 BootTarget.ramApp =
    BootRamResult.ok

section
variable (entryPoint imageCrc32 : Nat) (packets : List DataPacket)

theorem beginRequest_fits :
    (ramLoad.beginRequest packets entryPoint imageCrc32).payload.length ≤ 256 := show 9 ≤ 256 by decide

theorem endRequest_fits : (ramLoad.endRequest packets imageCrc32).payload.length ≤ 256 :=
  show 6 ≤ 256 by decide

def beginFrame : BootProtocolFrame := requestFrame (ramLoad.beginRequest packets entryPoint imageCrc32)

def endFrame : BootProtocolFrame := requestFrame (ramLoad.endRequest packets imageCrc32)

/-- The core behind the packets of the load. -/
def receivedCore (c : Core σ) : Core σ :=
  receive { c with algorithm.ramLoad := begunLoad (beginFrame entryPoint imageCrc32 packets) }
    (packets.map dataFrame)

/-- The core behind the END. -/
def loadedCore (c : Core σ) : Core σ :=
  let received := receivedCore entryPoint imageCrc32 packets c
  { received with
    algorithm.ramLoad := endedLoad (endFrame imageCrc32 packets) received.algorithm.ramLoad }

end

section
variable {limit entryPoint imageCrc32 : Nat} {packets : List DataPacket}
  (loads : Loads limit entryPoint imageCrc32 packets)
include loads

theorem Loads.sendable : ∀ packet ∈ packets, Sendable limit packet :=
  fun packet mem => (loads.loadable packet mem).toSendable

theorem beginFrame_word : ((beginFrame entryPoint imageCrc32 packets).word 1).toNat = packets.length := by
  have few := loads.packets
  rw [beginFrame, word_requestFrame (beginRequest_fits ..)]
  exact UInt16.toNat_ofNat_of_lt' (by rw [UInt16.size]; omega)

theorem beginFrame_words :
    ((beginFrame entryPoint imageCrc32 packets).u32 2).toNat = totalWords packets := by
  rw [beginFrame, u32_requestFrame (beginRequest_fits ..)]
  exact joinU32_lowHigh loads.words

theorem beginFrame_entry : ((beginFrame entryPoint imageCrc32 packets).u32 4).toNat = entryPoint := by
  rw [beginFrame, u32_requestFrame (beginRequest_fits ..)]
  exact joinU32_lowHigh loads.entry

theorem endFrame_packets : ((endFrame imageCrc32 packets).u32 0).toNat = packets.length := by
  rw [endFrame, u32_requestFrame (endRequest_fits ..)]
  exact joinU32_lowHigh (Nat.le_trans loads.packets (by decide))

theorem endFrame_words : ((endFrame imageCrc32 packets).u32 2).toNat = totalWords packets := by
  rw [endFrame, u32_requestFrame (endRequest_fits ..)]
  exact joinU32_lowHigh loads.words

theorem packetWords_dataFrames : packetWords (packets.map dataFrame) = packets.flatMap (·.words) := by
  rw [packetWords, List.flatMap_map, List.flatMap_def, List.flatMap_def]
  apply congrArg List.flatten
  apply List.map_congr_left
  intro packet mem
  exact loadData_dataFrame (loads.sendable packet mem)

theorem Loads.complete :
    Complete (beginFrame entryPoint imageCrc32 packets) (packets.map dataFrame) := by
  constructor
  · rw [beginFrame_word loads, ← loads.indices, List.map_map]
    apply List.map_congr_left
    intro packet mem
    exact dataFrame_index (loads.sendable packet mem)
  · rw [packetWords_dataFrames loads, beginFrame_words loads, TransferKind.totalWords_eq]

theorem Loads.receives :
    let begun : Core σ :=
      { c with algorithm.ramLoad := begunLoad (beginFrame entryPoint imageCrc32 packets) }
    Receives begun (packets.map dataFrame) ∧
      Progress (beginFrame entryPoint imageCrc32 packets) (packets.map dataFrame)
        (receivedCore entryPoint imageCrc32 packets c).algorithm.ramLoad := by
  intro begun
  have start : Progress (beginFrame entryPoint imageCrc32 packets) [] begun.algorithm.ramLoad :=
    progress_begun _
  have storable : ∀ p ∈ packets.map dataFrame, Storable p := by
    intro p mem
    obtain ⟨packet, hp, rfl⟩ := List.mem_map.1 mem
    exact storable_dataFrame (loads.loadable packet hp)
  exact start.receives loads.complete storable

variable (features code) in
/-- The BEGIN is accepted when no load is under way. -/
theorem begin_accepted (idle : c.algorithm.ramLoad.active = 0) :
    let request := ramLoad.beginRequest packets entryPoint imageCrc32
    Accepts (coreServer features code) c request ∧ (coreServer features code c request).2 =
      { c with algorithm.ramLoad := begunLoad (beginFrame entryPoint imageCrc32 packets) } := by
  intro request
  have count := beginFrame_word loads
  have words := beginFrame_words loads
  have entry := beginFrame_entry loads
  have region : (beginFrame entryPoint imageCrc32 packets).u32 4 = UInt32.ofNat entryPoint := by
    rw [← UInt32.toNat_inj, entry]
    exact (UInt32.toNat_ofNat_of_lt' (by
      have := loads.entry
      rw [UInt32.size]
      omega)).symm
  have more : 0 < packets.length := List.length_pos_iff.2 loads.some
  have total : 0 < totalWords packets := by
    obtain ⟨packet, mem⟩ := List.exists_mem_of_ne_nil _ loads.some
    have := List.length_pos_iff.2 (loads.loadable packet mem).nonempty
    obtain ⟨before, after, split⟩ := List.append_of_mem mem
    rw [split, TransferKind.totalWords_append, TransferKind.totalWords_cons]
    omega
  have fits : request.payload.length ≤ 256 := beginRequest_fits ..
  apply coreServer_ok fits
  rw [dispatch_ramLoadBegin rfl]
  apply handleRamLoadBegin_ok idle
  · rw [payloadWords_requestFrame fits]
    rfl
  · rw [word_requestFrame fits]
    rfl
  · constructor
    · intro zero
      change (beginFrame entryPoint imageCrc32 packets).word 1 = 0 at zero
      rw [zero] at count
      exact absurd count (by simp; omega)
    · intro zero
      change (beginFrame entryPoint imageCrc32 packets).u32 2 = 0 at zero
      rw [zero] at words
      exact absurd words (by simp; omega)
  · change BootRam.checkAddress ((beginFrame entryPoint imageCrc32 packets).u32 4) 1 _ = _
    rw [region]
    exact loads.entryRegion

end

variable (features code) in
/-- Packets that pass the checks are accepted one after the other. -/
theorem data_accepted {limit : Nat} {packets : List DataPacket}
    (sendable : ∀ packet ∈ packets, Sendable limit packet)
    (receives : Receives c (packets.map dataFrame)) :
    AcceptsAll (coreServer features code) c (packets.map ramLoad.dataRequest) ∧
      after (coreServer features code) c (packets.map ramLoad.dataRequest) =
        receive c (packets.map dataFrame) := by
  induction packets generalizing c with
  | nil => exact ⟨trivial, rfl⟩
  | cons packet rest ih =>
    obtain ⟨first, others⟩ := List.forall_mem_cons.1 sendable
    obtain ⟨ready, receives⟩ := receives
    have handled : dispatch (dataFrame packet) features code c =
        sendStatus (dataFrame packet) BootStatus.ok (receivePacket (dataFrame packet) c) := by
      rw [dispatch_ramLoadData rfl]
      exact handleRamLoadData_ready ready
    obtain ⟨accepts, state⟩ := coreServer_ok (dataRequest_fits first) handled
    obtain ⟨acceptsAll, last⟩ := ih others receives
    constructor
    · refine ⟨accepts, ?_⟩
      rw [state]
      exact acceptsAll
    · show after _ (coreServer features code c (ramLoad.dataRequest packet)).2 _ = _
      rw [state, last, List.map_cons, receive, receive, List.foldl_cons]

section
variable {limit entryPoint imageCrc32 : Nat} {packets : List DataPacket}
  (loads : Loads limit entryPoint imageCrc32 packets) (idle : c.algorithm.ramLoad.active = 0)
include loads idle

variable (features code) in
/-- The load is accepted up to its END, which depends on the entry point. -/
theorem load_accepted :
    (AcceptsAll (coreServer features code) c
        (ramLoad.transferRequests entryPoint imageCrc32 packets) ↔ EntryLoaded entryPoint packets) ∧
      (EntryLoaded entryPoint packets →
        after (coreServer features code) c
            (ramLoad.transferRequests entryPoint imageCrc32 packets) =
          loadedCore entryPoint imageCrc32 packets c) := by
  obtain ⟨begins, begun⟩ := begin_accepted features code loads idle
  obtain ⟨receives, progress⟩ := loads.receives (c := c)
  obtain ⟨data, received⟩ :=
    data_accepted features code loads.sendable receives
  have few := loads.packets
  have counts : (endFrame imageCrc32 packets).u32 0 =
      ((beginFrame entryPoint imageCrc32 packets).word 1).toUInt32 := by
    rw [← UInt32.toNat_inj, endFrame_packets loads, UInt16.toNat_toUInt32, beginFrame_word loads]
  have words : (endFrame imageCrc32 packets).u32 2 =
      (beginFrame entryPoint imageCrc32 packets).u32 2 := by
    rw [← UInt32.toNat_inj, endFrame_words loads, beginFrame_words loads]
  -- the END compares the entry point with the bounds of the packets
  have complete : loadComplete (endFrame imageCrc32 packets)
      (receivedCore entryPoint imageCrc32 packets c).algorithm.ramLoad ↔
        EntryLoaded entryPoint packets := by
    rw [progress.loadComplete_iff loads.complete counts words, beginFrame_entry loads, EntryLoaded]
    simp only [List.mem_map, exists_exists_and_eq_and]
    apply and_congr
    · apply exists_congr
      intro packet
      apply and_congr_right
      intro mem
      rw [dataFrame_address (loads.sendable packet mem)]
    · apply exists_congr
      intro packet
      apply and_congr_right
      intro mem
      rw [dataFrame_address (loads.sendable packet mem), dataFrame_length (loads.sendable packet mem)]
  have fits := endRequest_fits imageCrc32 packets
  have payload : (endFrame imageCrc32 packets).payloadWords = 6 := by
    rw [endFrame, payloadWords_requestFrame fits]
    rfl
  have handled : dispatch (endFrame imageCrc32 packets) features code
      (receivedCore entryPoint imageCrc32 packets c) = _ := dispatch_ramLoadEnd rfl
  have state : after (coreServer features code) c
      (ramLoad.beginRequest packets entryPoint imageCrc32 :: packets.map ramLoad.dataRequest) =
        receivedCore entryPoint imageCrc32 packets c := by
    show after _ (coreServer features code c _).2 _ = _
    rw [begun, received]
    rfl
  have requests : ramLoad.transferRequests entryPoint imageCrc32 packets =
      (ramLoad.beginRequest packets entryPoint imageCrc32 :: packets.map ramLoad.dataRequest) ++
        [ramLoad.endRequest packets imageCrc32] := rfl
  have ends (entry : EntryLoaded entryPoint packets) :=
    coreServer_ok fits
      (handled.trans (handleRamLoadEnd_ok progress.active payload (complete.2 entry)))
  constructor
  · rw [requests, acceptsAll_append, state]
    constructor
    · rintro ⟨-, accepted, -⟩
      apply complete.1
      by_contra incomplete
      obtain ⟨a, answer, ok⟩ := accepted
      rw [coreServer_eq fits] at answer
      cases answer
      apply handleRamLoadEnd_incomplete incomplete
      rw [← handled]
      exact ok
    · intro entry
      refine ⟨⟨begins, ?_⟩, (ends entry).1, trivial⟩
      rw [begun]
      exact data
  · intro entry
    rw [requests, after, List.foldl_append]
    show (coreServer features code (after _ c _) _).2 = _
    rw [state]
    exact (ends entry).2

end

/-! ## What is loaded -/

/-- The session holds these packets, complete. -/
structure HoldsPackets (entryPoint : Nat) (packets : List DataPacket) (load : BootTransferSession) :
    Prop where
  idle : load.active = 0
  ready : load.imageReady ≠ 0
  entry : load.entryPoint.toNat = entryPoint
  words : load.expectedTotalWords.toNat = totalWords packets
  crc : load.crc32 = crc32Words (packets.flatMap (·.words))
  between : ∀ a : UInt32, load.loadedStart ≤ a ∧ a < load.loadedEndExclusive ↔
    EntryLoaded a.toNat packets

theorem HoldsPackets.checked {entryPoint : Nat} {packets : List DataPacket}
    {load : BootTransferSession} (holds : HoldsPackets entryPoint packets load) :
    HoldsPackets entryPoint packets { load with crcChecked := 1 } :=
  ⟨holds.idle, holds.ready, holds.entry, holds.words, holds.crc, holds.between⟩

section
variable {limit entryPoint imageCrc32 : Nat} {packets : List DataPacket}
  (loads : Loads limit entryPoint imageCrc32 packets)
include loads

theorem holds_loadedCore :
    HoldsPackets entryPoint packets (loadedCore entryPoint imageCrc32 packets c).algorithm.ramLoad := by
  obtain ⟨-, progress⟩ := loads.receives (c := c)
  constructor
  · rfl
  · exact show (1 : UInt16) ≠ 0 by decide
  · show (receivedCore entryPoint imageCrc32 packets c).algorithm.ramLoad.entryPoint.toNat = _
    rw [progress.entryPoint, beginFrame_entry loads]
  · exact endFrame_words loads
  · show BootCrc32.finalize (receivedCore entryPoint imageCrc32 packets c).algorithm.ramLoad.crc32 = _
    rw [progress.crc, packetWords_dataFrames loads, crc32Words_eq]
    rfl
  · intro a
    have bounds := progress.bounds.between (a := a)
    simp only [List.mem_map, exists_exists_and_eq_and] at bounds
    refine bounds.trans (and_congr ?_ ?_)
    · apply exists_congr
      intro packet
      apply and_congr_right
      intro mem
      rw [dataFrame_address (loads.sendable packet mem)]
    · apply exists_congr
      intro packet
      apply and_congr_right
      intro mem
      rw [dataFrame_address (loads.sendable packet mem), dataFrame_length (loads.sendable packet mem)]

/-- A word that the packets carry, and no other at its address, is in the memory. -/
theorem loadedCore_memory {a : UInt32} {w : UInt16} (has : ∃ packet ∈ packets, packet.Has a.toNat w)
    (only : ∀ packet ∈ packets, ∀ v, packet.Has a.toNat v → v = w)
    (publish : (∃ packet ∈ packets, overlaps (dataFrame packet) = true) →
      a = BootFlashServiceLayout.publishOrigin ∨ a = BootFlashServiceLayout.publishOrigin + 1 →
        w = BootFlashServiceAbi.publishInvalid) :
    (loadedCore entryPoint imageCrc32 packets c).world.memory a = w := by
  obtain ⟨receives, -⟩ := loads.receives (c := c)
  have inside : ∀ p ∈ packets.map dataFrame, InBlock p a → wordOf p a = w := by
    intro p mem block
    obtain ⟨packet, hp, rfl⟩ := List.mem_map.1 mem
    have sendable := loads.sendable packet hp
    obtain ⟨lower, upper⟩ := (inBlock_dataFrame sendable).1 block
    have bound : a.toNat - packet.address < packet.words.length := by omega
    have found : packet.Has a.toNat (packet.words.get ⟨_, bound⟩) :=
      ⟨lower, List.getElem?_eq_getElem bound⟩
    rw [wordOf_dataFrame sendable found]
    exact only packet hp _ found
  apply receive_memory receives inside
  · intro p mem within
    obtain ⟨packet, hp, rfl⟩ := List.mem_map.1 mem
    exact publish ⟨packet, hp, within⟩
  · obtain ⟨packet, hp, found⟩ := has
    obtain ⟨bound, -⟩ := List.getElem?_eq_some_iff.1 found.2
    have lower := found.1
    refine .inl ⟨dataFrame packet, List.mem_map_of_mem hp, ?_⟩
    rw [inBlock_dataFrame (loads.sendable packet hp)]
    omega

omit loads in
/-- Packets outside the guarded interval leave the service and its publish words alone. -/
theorem loadedCore_apart (apart : ∀ packet ∈ packets, overlaps (dataFrame packet) = false) :
    let loaded := loadedCore entryPoint imageCrc32 packets c
    loaded.algorithm = { c.algorithm with ramLoad := loaded.algorithm.ramLoad } ∧
      loaded.world.service = c.world.service := by
  have others : ∀ p ∈ packets.map dataFrame, overlaps p = false := by
    intro p mem
    obtain ⟨packet, hp, rfl⟩ := List.mem_map.1 mem
    exact apart packet hp
  let begun : Core σ :=
    { c with algorithm.ramLoad := begunLoad (beginFrame entryPoint imageCrc32 packets) }
  obtain ⟨algorithm, service⟩ := receive_apart (c := begun) others
  constructor
  · exact congrArg (fun kept : BootAlgorithm => { kept with
      ramLoad := (loadedCore entryPoint imageCrc32 packets c).algorithm.ramLoad }) algorithm
  · exact service

/-- A word that none of the packets carries is left alone, unless it is a publish word and a
packet reaches the guarded interval. -/
theorem loadedCore_outside {a : UInt32} (outside : ∀ packet ∈ packets, ∀ v, ¬ packet.Has a.toNat v)
    (publish : (∃ packet ∈ packets, overlaps (dataFrame packet) = true) →
      a ≠ BootFlashServiceLayout.publishOrigin ∧ a ≠ BootFlashServiceLayout.publishOrigin + 1) :
    (loadedCore entryPoint imageCrc32 packets c).world.memory a = c.world.memory a := by
  obtain ⟨receives, -⟩ := loads.receives (c := c)
  apply receive_memory receives
  · intro p mem block
    obtain ⟨packet, hp, rfl⟩ := List.mem_map.1 mem
    obtain ⟨lower, upper⟩ := (inBlock_dataFrame (loads.sendable packet hp)).1 block
    have bound : a.toNat - packet.address < packet.words.length := by omega
    exact absurd ⟨lower, List.getElem?_eq_getElem bound⟩ (outside packet hp _)
  · intro p mem within words
    obtain ⟨packet, hp, rfl⟩ := List.mem_map.1 mem
    obtain ⟨first, second⟩ := publish ⟨packet, hp, within⟩
    rcases words with rfl | rfl
    · exact absurd rfl first
    · exact absurd rfl second
  · exact .inr rfl

omit loads in
theorem loadedCore_deviceInfo :
    (loadedCore entryPoint imageCrc32 packets c).algorithm.deviceInfo = c.algorithm.deviceInfo :=
  receive_deviceInfo (packets.map dataFrame)

end

end BootUpgrade.RamLoading

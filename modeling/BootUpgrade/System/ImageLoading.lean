import BootUpgrade.System.RamLoading

/-!
# The packets of an image on the core

The packets that carry an image to regions of the RAM port get as far as the END,
whatever the client's limits are, and the END asks whether the image has a word at
or below its entry point and one at or above it. The CRC of a loaded image is the
one the host has computed from it.
-/

namespace BootUpgrade

/-- The image has a word at or below its entry point and one at or above it. -/
def EntrySpanned (image : FirmwareImage) : Prop :=
  (∃ a, image.Covers a ∧ a ≤ image.entryPoint) ∧ ∃ a, image.Covers a ∧ image.entryPoint ≤ a

theorem checkAddress_region {a n : Nat} (positive : 0 < n)
    (region : ∃ r ∈ BootRam.writeRegions, r.1.toNat ≤ a ∧ a + n ≤ r.2.toNat) :
    BootRam.checkAddress (UInt32.ofNat a) (UInt32.ofNat n) BootTarget.ramApp = BootRamResult.ok := by
  obtain ⟨r, mem, lower, upper⟩ := region
  have limit := r.2.toNat_lt
  have address : (UInt32.ofNat a).toNat = a := UInt32.toNat_ofNat_of_lt' (by rw [UInt32.size]; omega)
  have count : (UInt32.ofNat n).toNat = n := UInt32.toNat_ofNat_of_lt' (by rw [UInt32.size]; omega)
  have sum : (UInt32.ofNat a + UInt32.ofNat n).toNat = a + n := by
    rw [Words.toNat_add_of_lt (by omega), address, count]
  have some : UInt32.ofNat n ≠ 0 := by
    intro zero
    rw [zero] at count
    exact absurd count (Nat.ne_of_lt positive)
  have wraps : ¬ UInt32.ofNat a + UInt32.ofNat n < UInt32.ofNat a := by
    rw [UInt32.lt_iff_toNat_lt, sum, address]
    omega
  have inside : (BootRam.writeRegions.any fun region => decide (UInt32.ofNat a ≥ region.1) &&
      decide (UInt32.ofNat a + UInt32.ofNat n ≤ region.2)) = true := by
    apply List.any_eq_true.2
    refine ⟨r, mem, ?_⟩
    rw [Bool.and_eq_true, decide_eq_true_eq, decide_eq_true_eq, ge_iff_le,
      UInt32.le_iff_toNat_le, UInt32.le_iff_toNat_le, sum, address]
    exact ⟨lower, upper⟩
  have region : BootRam.isInWriteRegion (UInt32.ofNat a) (UInt32.ofNat n) = true := by
    rw [BootRam.isInWriteRegion, if_neg some]
    dsimp only
    rw [if_neg wraps]
    exact inside
  rw [BootRam.checkAddress, if_neg (not_not_intro rfl), region]
  rfl

namespace RamLoading

open HostWorkflow HostClient HostOperations TransferKind Dialogue BootAlgorithm

variable {σ : Type} {features : BootFeatures} {code : ServiceCode σ} {c : Core σ}
  {ctx : OperationContext} {image : FirmwareImage}

/-- The limits of the client on a device that `BootAlgorithm_Init` takes. -/
structure ClientLimits (c : Core σ) (ctx : OperationContext) : Prop where
  started : (init c.algorithm.deviceInfo c.world).isSome
  payload : ctx.maxPayloadWords = c.algorithm.deviceInfo.maxPayloadWords.toNat
  positive : 0 < ctx.maxDataWords
  fits : ctx.maxDataWords + 5 ≤ ctx.maxPayloadWords

/-- Such a device takes payloads of 13 to 256 words. -/
theorem ClientLimits.bounds (limits : ClientLimits c ctx) :
    9 ≤ ctx.maxPayloadWords ∧ ctx.maxPayloadWords ≤ 256 := by
  have started := limits.started
  unfold init at started
  split at started
  · cases started
  rename_i checks
  simp only [not_or, Decidable.not_not, gt_iff_lt, UInt16.not_lt, UInt32.not_lt] at checks
  obtain ⟨-, small, some, units, room⟩ := checks
  have most : BootUpgrade.maxPayloadWords.toNat = 256 := rfl
  have small := UInt16.le_iff_toNat_le.1 small
  have room := UInt32.le_iff_toNat_le.1 room
  have five : (5 : UInt32).toNat = 5 := rfl
  have low := c.algorithm.deviceInfo.maxDataWords.toNat_lt
  have high := c.algorithm.deviceInfo.maxPayloadWords.toNat_lt
  rw [Words.toNat_add_of_lt (by rw [UInt16.toNat_toUInt32, five]; omega), UInt16.toNat_toUInt32,
    UInt16.toNat_toUInt32, five] at room
  have units := congrArg UInt16.toNat units
  rw [UInt16.toNat_mod] at units
  have nonzero : c.algorithm.deviceInfo.maxDataWords.toNat ≠ 0 := fun zero =>
    some (UInt16.toNat_inj.1 zero)
  have eight : (8 : UInt16).toNat = 8 := rfl
  rw [eight] at units
  have zero : (0 : UInt16).toNat = 0 := rfl
  rw [limits.payload]
  omega

/-- The interval lies in one region of the RAM port. -/
def InWriteRegion (start stop : Nat) : Prop :=
  ∃ r ∈ BootRam.writeRegions, r.1.toNat ≤ start ∧ stop ≤ r.2.toNat

section
variable {m : Nat} {packets : List DataPacket} (carries : CarriesImage image m packets)
include carries

/-- A packet is a run of words of the image. -/
theorem covers_packet {packet : DataPacket} (mem : packet ∈ packets) {a : Nat}
    (lower : packet.address ≤ a) (upper : a < packet.address + packet.words.length) :
    image.Covers a := by
  have bound : a - packet.address < packet.words.length := by omega
  apply covered_iff.2
  exact ⟨_, (carries.has a _).1 ⟨packet, mem, lower, List.getElem?_eq_getElem bound⟩⟩

theorem covers_iff_packet {a : Nat} : image.Covers a ↔
    ∃ packet ∈ packets, packet.address ≤ a ∧ a < packet.address + packet.words.length := by
  constructor
  · intro covers
    obtain ⟨w, word⟩ := covered_iff.1 covers
    obtain ⟨packet, mem, lower, found⟩ := (carries.has a w).2 word
    obtain ⟨bound, -⟩ := List.getElem?_eq_some_iff.1 found
    exact ⟨packet, mem, lower, by omega⟩
  · rintro ⟨packet, mem, lower, upper⟩
    exact covers_packet carries mem lower upper

theorem carries_some : packets ≠ [] := by
  rintro rfl
  obtain ⟨block, mem⟩ := List.exists_mem_of_ne_nil _ image.blocks_ne
  obtain ⟨w, word⟩ := FirmwareBlock.wordAt_some.2 ⟨Nat.le_refl _, block.address_lt_end⟩
  obtain ⟨_, none, -⟩ := (carries.has _ _).2 ⟨block, mem, word⟩
  cases none

/-- The host sends the BEGIN of an image that is not too long. -/
theorem beginSent_carried {limit imageCrc32 : Nat} (long : 9 ≤ limit) (total : image.totalWords ≤ 0xFFFF)
    (crc : imageCrc32 ≤ 0xFFFFFFFF) :
    BeginSent limit 2 packets.length (totalWords packets) image.entryPoint imageCrc32 := by
  have few := carries.few
  have entry := image.entryPoint_le
  have words : HostWorkflow.totalWords packets ≤ 0xFFFFFFFF := by
    rw [carries.totalWords]
    omega
  refine ⟨⟨few, words, crc⟩, entry, Nat.le_trans (Nat.le_refl 9) long, ?_⟩
  intro word mem
  simp only [beginPayload, List.mem_append, List.mem_cons, List.not_mem_nil, or_false] at mem
  rcases mem with ((((rfl | rfl) | mem) | mem) | mem) | rfl
  · decide
  · exact few
  · exact lowHigh_le words word mem
  · exact lowHigh_le entry word mem
  · exact lowHigh_le crc word mem
  · decide

/-- The host sends its packets, and the RAM port takes those in its regions. -/
theorem loadable_carried {limit : Nat} (fits : m + 5 ≤ limit) (device : limit ≤ 256)
    (regions : ∀ packet ∈ packets,
      InWriteRegion packet.address (packet.address + packet.words.length)) :
    ∀ packet ∈ packets, Loadable limit packet := by
  intro packet mem
  have few := carries.few
  have some := carries.nonempty packet mem
  have short := carries.fits packet mem
  have index : packet.index ≤ 0xFFFF := by
    have numbered := List.mem_map_of_mem (f := fun packet : DataPacket => packet.index) mem
    rw [carries.indices] at numbered
    have := List.mem_range'_1.1 numbered
    omega
  have address : packet.address ≤ 0xFFFFFFFF := by
    obtain ⟨r, -, -, upper⟩ := regions packet mem
    have := r.2.toNat_lt
    omega
  exact ⟨⟨address, Nat.le_trans index (by decide), by omega, by omega⟩, some,
    checkAddress_region (List.length_pos_iff.2 some) (regions packet mem)⟩

/-- What the client sends of an image in the regions of the RAM port gets as far as the END. -/
theorem loads_carried {limit imageCrc32 : Nat} (long : 9 ≤ limit) (fits : m + 5 ≤ limit)
    (device : limit ≤ 256) (total : image.totalWords ≤ 0xFFFF) (crc : imageCrc32 ≤ 0xFFFFFFFF)
    (regions : ∀ packet ∈ packets,
      InWriteRegion packet.address (packet.address + packet.words.length))
    (entryRegion : BootRam.checkAddress (UInt32.ofNat image.entryPoint) 1 BootTarget.ramApp =
      BootRamResult.ok) : Loads limit image.entryPoint imageCrc32 packets := by
  refine ⟨beginSent_carried carries long total crc, carries_some carries, ?_,
    loadable_carried carries fits device regions, entryRegion⟩
  rw [carries.indices, List.range_eq_range']

/-- The packets reach the entry point from both sides exactly when the image does. -/
theorem entryLoaded_iff : EntryLoaded image.entryPoint packets ↔ EntrySpanned image := by
  have some : ∀ packet ∈ packets, 0 < packet.words.length :=
    fun packet mem => List.length_pos_iff.2 (carries.nonempty packet mem)
  unfold EntryLoaded EntrySpanned
  simp only [covers_iff_packet carries]
  constructor
  · rintro ⟨⟨first, hf, lower⟩, last, hl, upper⟩
    have := some first hf
    have := some last hl
    exact ⟨⟨first.address, ⟨first, hf, by omega⟩, lower⟩,
      last.address + last.words.length - 1, ⟨last, hl, by omega⟩, by omega⟩
  · rintro ⟨⟨a, ⟨first, hf, inside⟩, lower⟩, b, ⟨last, hl, inside'⟩, upper⟩
    exact ⟨⟨first, hf, by omega⟩, last, hl, by omega⟩

/-- The CRC of a loaded image is the one the host has computed from it. -/
theorem ramCheckCrc_succeeds (long : 9 ≤ ctx.maxPayloadWords) {entryPoint : Nat}
    (total : image.totalWords ≤ 0xFFFF) (holds : HoldsPackets entryPoint packets c.algorithm.ramLoad)
    {post : List UInt16 → Core σ → Prop} :
    Succeeds (coreServer features code)
        (ramCheckCrcProtocol ctx.maxPayloadWords
          (crc32Words ((sortedBlocks image.blocks).flatMap (·.words))).toNat image.totalWords) c post ↔
      post [] { c with algorithm.ramLoad.crcChecked := 1 } := by
  have crcFits : (crc32Words ((sortedBlocks image.blocks).flatMap (·.words))).toNat ≤ 0xFFFFFFFF := by
    have := (crc32Words ((sortedBlocks image.blocks).flatMap (·.words))).toNat_lt
    omega
  have wordsFit : image.totalWords ≤ 0xFFFFFFFF := Nat.le_trans total (by decide)
  let payload := lowHigh (crc32Words ((sortedBlocks image.blocks).flatMap (·.words))).toNat ++
    lowHigh image.totalWords ++ [0]
  have encodable : Encodable ctx.maxPayloadWords payload := by
    constructor
    · exact Nat.le_trans (show 5 ≤ 9 by decide) long
    · intro word mem
      simp only [payload, List.mem_append, List.mem_singleton] at mem
      rcases mem with (mem | mem) | rfl
      · exact lowHigh_le crcFits word mem
      · exact lowHigh_le wordsFit word mem
      · decide
  have fits : (hostRequest BootCmd.ramCheckCrc payload).payload.length ≤ 256 := show 5 ≤ 256 by decide
  have handled : dispatch (requestFrame (hostRequest BootCmd.ramCheckCrc payload)) features code c =
      sendStatus (requestFrame (hostRequest BootCmd.ramCheckCrc payload)) BootStatus.ok
        { c with algorithm.ramLoad.crcChecked := 1 } := by
    rw [dispatch_ramCheckCrc rfl]
    apply handleRamCheckCrc_ok
    · rw [payloadWords_requestFrame fits]
      rfl
    · rw [word_requestFrame fits]
      rfl
    · exact holds.ready
    · rw [u32_requestFrame fits, holds.crc, carries.words, ← UInt32.toNat_inj]
      exact joinU32_lowHigh crcFits
    · rw [u32_requestFrame fits, ← UInt32.toNat_inj, holds.words, carries.totalWords]
      exact joinU32_lowHigh wordsFit
  unfold ramCheckCrcProtocol
  rw [splitU32_ok crcFits, splitU32_ok wordsFit, succeeds_bind_iff, succeeds_lift_iff]
  constructor
  · rintro ⟨sent, payloadIs, success⟩
    have payloadIs : payload = sent := Except.ok.inj payloadIs
    rw [← payloadIs, succeeds_core encodable fits handled] at success
    exact success.2
  · exact fun checked => ⟨payload, rfl, (succeeds_core encodable fits handled).2 ⟨rfl, checked⟩⟩

end

end RamLoading

end BootUpgrade

import BootUpgrade.Core.CrcGate
import BootUpgrade.Core.Response
import BootUpgrade.Host.MemoryOps
import BootUpgrade.Host.TransferClean

/-!
# Reading the memory of the device

What `memory_read` collects from the core are the words of the range: the
frames follow one another without a gap, the core accepts each, and no address
passes the end of the address space.
-/

namespace BootUpgrade

open BootAlgorithm HostClient HostOperations TransferKind
open HostProtocol (BootProtocolClient DeviceInfo)

variable {σ : Type}

/-! ## One frame -/

/-- The words of the memory from `address` on. -/
def memoryWords (memory : CoreMemory) (address n : Nat) : List UInt16 :=
  (List.range n).map fun index => memory (UInt32.ofNat (address + index))

theorem length_memoryWords (memory : CoreMemory) (address n : Nat) :
    (memoryWords memory address n).length = n := by
  rw [memoryWords, List.length_map, List.length_range]

theorem memoryWords_append (memory : CoreMemory) (address m n : Nat) :
    memoryWords memory address m ++ memoryWords memory (address + m) n =
      memoryWords memory address (m + n) := by
  unfold memoryWords
  rw [List.range_add, List.map_append, List.map_map]
  congr 1
  apply List.map_congr_left
  intro index _
  rw [Function.comp, Nat.add_assoc]

/-- The request of `n` words from `address` on. -/
def readRequest (address n : Nat) : HostRequest :=
  hostRequest BootCmd.memoryRead (lowHigh address ++ [n, 0])

/-- The answer to it, with the words. -/
def readAnswer (memory : CoreMemory) (address n : Nat) : HostAnswer :=
  ⟨BootStatus.ok, UInt16.ofNat (address &&& 0xFFFF) :: UInt16.ofNat (address >>> 16) ::
    UInt16.ofNat n :: memoryWords memory address n⟩

section
variable {features : BootFeatures} {code : ServiceCode σ} {c : Core σ} {address n : Nat}

/-- The words that fit a response, behind its address and count. -/
theorem maxReadWords_ge {capacity : UInt16} (positive : 0 < n) (room : n + 3 ≤ capacity.toNat)
    (buffer : capacity.toNat ≤ 256) :
    ¬ (UInt16.ofNat n = 0 ∨ UInt16.ofNat n >
      if (if capacity > maxPayloadWords then maxPayloadWords else capacity) > 3 then
        (if capacity > maxPayloadWords then maxPayloadWords else capacity) - 3 else 0) := by
  have count : (UInt16.ofNat n).toNat = n := UInt16.toNat_ofNat_of_lt' (by rw [UInt16.size]; omega)
  have three : (3 : UInt16).toNat = 3 := rfl
  have limit : maxPayloadWords.toNat = 256 := rfl
  have small : ¬ capacity > maxPayloadWords := by
    rw [gt_iff_lt, UInt16.lt_iff_toNat_lt]
    omega
  have wide : capacity > 3 := by
    rw [gt_iff_lt, UInt16.lt_iff_toNat_lt]
    omega
  rw [if_neg small, if_pos wide]
  rintro (zero | more)
  · have := congrArg UInt16.toNat zero
    rw [count, UInt16.toNat_zero] at this
    omega
  · rw [gt_iff_lt, UInt16.lt_iff_toNat_lt, count,
      UInt16.toNat_sub_of_le _ _ (UInt16.le_of_lt wide), three] at more
    omega

/-- The core answers a request that fits its capacity and stays as it is. -/
theorem coreServer_memoryRead (enabled : features.memoryRead = true)
    (fits : address ≤ 0xFFFFFFFF) (positive : 0 < n)
    (room : n + 3 ≤ c.algorithm.deviceInfo.maxPayloadWords.toNat)
    (buffer : c.algorithm.deviceInfo.maxPayloadWords.toNat ≤ 256) :
    coreServer features code c (readRequest address n) =
      (.ok (readAnswer c.world.memory address n), c) := by
  have short : (readRequest address n).payload.length ≤ 256 := Nat.le_of_ble_eq_true rfl
  have start : joinU32 (UInt16.ofNat (address &&& 0xFFFF)) (UInt16.ofNat (address >>> 16)) =
      UInt32.ofNat address := by
    apply UInt32.toNat_inj.1
    rw [joinU32_lowHigh fits]
    exact (UInt32.toNat_ofNat_of_lt' (by rw [UInt32.size]; omega)).symm
  have words : ((List.range (UInt16.ofNat n).toNat).map fun index =>
      c.world.memory (joinU32 (UInt16.ofNat (address &&& 0xFFFF)) (UInt16.ofNat (address >>> 16)) +
        UInt32.ofNat index)) = memoryWords c.world.memory address n := by
    rw [UInt16.toNat_ofNat_of_lt' (by rw [UInt16.size]; omega), start, memoryWords]
    apply List.map_congr_left
    intro index _
    rw [UInt32.ofNat_add]
  have count := maxReadWords_ge positive room buffer
  have handled : handleMemoryRead (frameOf (readRequest address n) short) c =
      sendPayload (frameOf (readRequest address n) short)
        (readAnswer c.world.memory address n).payload c := by
    have length : (frameOf (readRequest address n) short).payloadWords = 4 := rfl
    unfold handleMemoryRead
    rw [if_neg (not_not_intro length)]
    simp only [BootProtocolFrame.u32, word_payload]
    show (if (0 : UInt16) ≠ 0 then _ else if UInt16.ofNat n = 0 ∨ UInt16.ofNat n > _ then _ else _) = _
    rw [if_neg (by decide), if_neg count]
    show sendPayload _ (lowWord (joinU32 (UInt16.ofNat (address &&& 0xFFFF))
      (UInt16.ofNat (address >>> 16))) :: highWord (joinU32 (UInt16.ofNat (address &&& 0xFFFF))
      (UInt16.ofNat (address >>> 16))) :: UInt16.ofNat n ::
        (List.range (UInt16.ofNat n).toNat).map _) c = _
    rw [Words.lowWord_joinU32, Words.highWord_joinU32]
    exact congrArg (fun words => sendPayload (frameOf (readRequest address n) short)
      (UInt16.ofNat (address &&& 0xFFFF) :: UInt16.ofNat (address >>> 16) :: UInt16.ofNat n ::
        words) c) words
  unfold coreServer
  rw [dif_pos short, processOne_dispatch ⟨rfl, rfl, rfl⟩, dispatch_memoryRead rfl, if_pos enabled,
    handled]
  rfl

end

/-! ## The frames of a read -/

section
variable (memory : CoreMemory) (request : MemoryReadRequest) (capacity : Nat)

/-- The words that `index` full frames hold. -/
def wordsBefore (index : Nat) : Nat := min (capacity * index) request.wordCount

/-- The words of frame `index`. -/
def frameWords (index : Nat) : Nat :=
  min capacity (request.wordCount - wordsBefore request capacity index)

/-- Frame `index` and its answer. -/
def readExchange (index : Nat) : HostRequest × Except HostError HostAnswer :=
  let address := request.startAddress + wordsBefore request capacity index
  (readRequest address (frameWords request capacity index),
    .ok (readAnswer memory address (frameWords request capacity index)))

/-- `frame_count`. -/
def readFrameCount : Nat := (request.wordCount + capacity - 1) / capacity

/-- The words of the whole range. -/
def readSummary : MemoryReadResult :=
  memoryReadSummary request (readFrameCount request capacity)
    (memoryWords memory request.startAddress request.wordCount)

/-- What a read ends with behind `n` frames. -/
inductive MemoryReadOutcome (polls : Nat → Bool) : Nat → OperationResult MemoryReadResult → Prop
  | succeeded (quiet : polls (readFrameCount request capacity) = false) :
    MemoryReadOutcome polls (readFrameCount request capacity)
      (.succeeded (readSummary memory request capacity))
  | completed (polled : polls (readFrameCount request capacity) = true)
      (cancellation : OperationCancellationInfo) :
    MemoryReadOutcome polls (readFrameCount request capacity)
      (.completedAfterCancelRequest (readSummary memory request capacity) cancellation)
  | cancelled {n : Nat} (short : capacity * n < request.wordCount) (polled : polls n = true)
      (cancellation : OperationCancellationInfo) (words : cancellation.currentWords = capacity * n) :
    MemoryReadOutcome polls n (.cancelled cancellation)

/-- The first `n` frames of the range have been asked for and answered. -/
structure ReadsExactly (polls : Nat → Bool) (n : Nat) (result : OperationResult MemoryReadResult)
    (exchanges : List (HostRequest × Except HostError HostAnswer)) : Prop where
  outcome : MemoryReadOutcome memory request capacity polls n result
  quiet : ∀ index < n, polls index = false
  frames : exchanges = (List.range n).map (readExchange memory request capacity)
  inside : ∀ index < n, 0 < frameWords request capacity index ∧
    request.startAddress + wordsBefore request capacity index + frameWords request capacity index =
      request.startAddress + wordsBefore request capacity (index + 1) ∧
    request.startAddress + wordsBefore request capacity (index + 1) ≤ 0x100000000

end

section
variable {memory : CoreMemory} {request : MemoryReadRequest} {capacity : Nat}

theorem lt_readFrameCount (positive : 0 < capacity) {index : Nat} :
    index < readFrameCount request capacity ↔ capacity * index < request.wordCount := by
  rw [readFrameCount, Nat.lt_div_iff_mul_lt positive, Nat.mul_comm]
  omega

/-- Each frame begins where the one before it ends. -/
theorem wordsBefore_succ {index : Nat} :
    wordsBefore request capacity index + frameWords request capacity index =
      wordsBefore request capacity (index + 1) := by
  unfold frameWords wordsBefore
  rw [Nat.mul_succ]
  omega

theorem memoryReadCancellation_ok {words : Nat} (le : words ≤ request.wordCount) :
    ∃ info, memoryReadCancellation request words = .ok info ∧ info.currentWords = words := by
  unfold memoryReadCancellation cancellationInfo
  rw [dif_pos le]
  exact ⟨_, rfl, rfl⟩

/-- The answer of the device passes the checks. -/
theorem checkReadResponse_answer {frameIndex address n collected : Nat}
    (fits : address ≤ 0xFFFFFFFF) (small : n ≤ 0xFFFF)
    (room : collected + n ≤ request.wordCount) :
    checkReadResponse request frameIndex address n collected (readAnswer memory address n).payload =
      .ok (memoryWords memory address n) := by
  have count : (UInt16.ofNat n).toNat = n := UInt16.toNat_ofNat_of_lt' (by rw [UInt16.size]; omega)
  unfold readAnswer checkReadResponse
  dsimp only
  rw [joinU32_lowHigh fits, count, length_memoryWords, if_neg (not_not_intro rfl),
    if_neg (not_not_intro rfl), if_neg (not_not_intro rfl), if_neg (Nat.not_lt.2 room)]

theorem readRequest_encodable {limit address n : Nat} (room : 4 ≤ limit)
    (fits : address ≤ 0xFFFFFFFF) (small : n ≤ 0xFFFF) :
    Encodable limit (lowHigh address ++ [n, 0]) := by
  constructor
  · exact room
  · intro word mem
    rcases List.mem_append.1 mem with mem | mem
    · exact lowHigh_le fits word mem
    · simp only [List.mem_cons, List.not_mem_nil, or_false] at mem
      rcases mem with rfl | rfl
      · exact small
      · exact Nat.zero_le _

end

section
variable {features : BootFeatures} {code : ServiceCode σ} {c : Core σ} {request : MemoryReadRequest}
  {ctx : MemoryReadContext} {limit : Nat}

/-- One frame of the loop: its words are the next words of the range. -/
theorem readFrames_frame (enabled : features.memoryRead = true) (room : 4 ≤ limit)
    (capacity : limit ≤ c.algorithm.deviceInfo.maxPayloadWords.toNat)
    (buffer : c.algorithm.deviceInfo.maxPayloadWords.toNat ≤ 256) (frameCount frames index : Nat)
    {done n : Nat} (hn : min (limit - 3) (request.wordCount - done) = n) (some : 0 < n) :
    (readFrames request ctx limit (limit - 3) frameCount BootCmd.memoryRead (frames + 1) index
      (request.startAddress + done) (memoryWords c.world.memory request.startAddress done)).run
        (coreServer features code) c =
      let words := memoryWords c.world.memory request.startAddress (done + n)
      let rest : HostDialogue (OperationResult MemoryReadResult) :=
        if ctx.polls (index + 1) then
          (Dialogue.lift (memoryReadCancellation request words.length)).bind fun cancellation =>
            if words.length < request.wordCount then .done (.cancelled cancellation)
            else
              .done (.completedAfterCancelRequest (memoryReadSummary request frameCount words)
                cancellation)
        else
          readFrames request ctx limit (limit - 3) frameCount BootCmd.memoryRead frames (index + 1)
            (request.startAddress + (done + n)) words
      { rest.run (coreServer features code) c with
        exchanges := (readRequest (request.startAddress + done) n,
            .ok (readAnswer c.world.memory (request.startAddress + done) n)) ::
          (rest.run (coreServer features code) c).exchanges } := by
  have ends := request.end_le
  have fits : request.startAddress + done ≤ 0xFFFFFFFF := by omega
  have answer := (@coreServer_memoryRead _ _ code) enabled fits some
    (show n + 3 ≤ c.algorithm.deviceInfo.maxPayloadWords.toNat by omega) buffer
  have encodable := readRequest_encodable room fits (show n ≤ 0xFFFF by omega)
  have checked := (@checkReadResponse_answer c.world.memory request index) fits
    (show n ≤ 0xFFFF by omega) (show done + n ≤ request.wordCount by omega)
  rw [readFrames, length_memoryWords, hn, splitU32_ok fits]
  show Dialogue.run _ ((transact limit BootCmd.memoryRead _).bind _) c = _
  rw [run_transact encodable answer]
  simp only [readAnswer] at checked
  simp only [checked]
  show Dialogue.Ran.mk _ _ _ = _
  simp only [Dialogue.lift, Dialogue.bind, memoryWords_append, Nat.add_assoc]
  rfl

/-- The loop from frame `index` on. -/
theorem readFrames_run (enabled : features.memoryRead = true) (room : 4 ≤ limit)
    (capacity : limit ≤ c.algorithm.deviceInfo.maxPayloadWords.toNat)
    (buffer : c.algorithm.deviceInfo.maxPayloadWords.toNat ≤ 256) (frames index : Nat)
    (all : index + frames = readFrameCount request (limit - 3)) (quiet : ctx.polls index = false) :
    ∃ n result, index ≤ n ∧ MemoryReadOutcome c.world.memory request (limit - 3) ctx.polls n result ∧
      (∀ i, index < i → i < n → ctx.polls i = false) ∧
      (readFrames request ctx limit (limit - 3) (readFrameCount request (limit - 3))
        BootCmd.memoryRead frames index
        (request.startAddress + wordsBefore request (limit - 3) index)
        (memoryWords c.world.memory request.startAddress (wordsBefore request (limit - 3) index))).run
          (coreServer features code) c =
        ⟨.ok result, (List.range' index (n - index)).map
          (readExchange c.world.memory request (limit - 3)), c⟩ := by
  have positive : 0 < limit - 3 := by omega
  induction frames generalizing index with
  | zero =>
    have last : request.wordCount ≤ (limit - 3) * index :=
      Nat.not_lt.1 fun short => absurd ((lt_readFrameCount positive).2 short) (by omega)
    have full : wordsBefore request (limit - 3) index = request.wordCount := Nat.min_eq_right last
    rw [Nat.add_zero] at all
    subst all
    refine ⟨_, _, Nat.le_refl _, .succeeded quiet, fun i after before => by omega, ?_⟩
    rw [readFrames, full, length_memoryWords, if_neg (not_not_intro rfl), Nat.sub_self]
    rfl
  | succ frames ih =>
    have short : (limit - 3) * index < request.wordCount := (lt_readFrameCount positive).1 (by omega)
    have before : wordsBefore request (limit - 3) index = (limit - 3) * index :=
      Nat.min_eq_left (Nat.le_of_lt short)
    generalize hn : min (limit - 3) (request.wordCount - wordsBefore request (limit - 3) index) = n
    have some : 0 < n := by omega
    have next : wordsBefore request (limit - 3) index + n =
        wordsBefore request (limit - 3) (index + 1) := hn ▸ wordsBefore_succ
    have exchange : readExchange c.world.memory request (limit - 3) index =
        (readRequest (request.startAddress + wordsBefore request (limit - 3) index) n,
          .ok (readAnswer c.world.memory
            (request.startAddress + wordsBefore request (limit - 3) index) n)) := by
      rw [readExchange, frameWords, hn]
    rw [readFrames_frame enabled room capacity buffer _ frames index hn some, next, ← exchange]
    dsimp only
    rw [length_memoryWords]
    by_cases polled : ctx.polls (index + 1) = true
    · have le : wordsBefore request (limit - 3) (index + 1) ≤ request.wordCount := Nat.min_le_right ..
      obtain ⟨cancellation, made, words⟩ := memoryReadCancellation_ok le
      rw [if_pos polled, made]
      by_cases left : wordsBefore request (limit - 3) (index + 1) < request.wordCount
      · have more : (limit - 3) * (index + 1) < request.wordCount := by
          unfold wordsBefore at left
          omega
        refine ⟨index + 1, _, Nat.le_succ _, .cancelled more polled cancellation ?_,
          fun i after before => by omega, ?_⟩
        · rw [words]
          exact Nat.min_eq_left (Nat.le_of_lt more)
        · rw [Nat.add_sub_cancel_left]
          simp only [Dialogue.lift, Dialogue.bind, if_pos left]
          rfl
      · have full : wordsBefore request (limit - 3) (index + 1) = request.wordCount := by omega
        have last : index + 1 = readFrameCount request (limit - 3) := by
          have := mt (lt_readFrameCount positive).1 (show ¬ (limit - 3) * (index + 1) <
            request.wordCount by
              unfold wordsBefore at left
              omega)
          omega
        rw [last] at polled
        refine ⟨_, _, by omega, .completed polled cancellation, fun i after before => by omega, ?_⟩
        rw [show readFrameCount request (limit - 3) - index = 1 by omega]
        simp only [Dialogue.lift, Dialogue.bind, full, Nat.lt_irrefl, if_false]
        rfl
    · have silent : ctx.polls (index + 1) = false := by simpa using polled
      obtain ⟨n', result, le, outcome, others, ran⟩ := ih (index + 1) (by omega) silent
      rw [if_neg polled, ran]
      refine ⟨n', result, Nat.le_of_succ_le le, outcome, ?_, ?_⟩
      · intro i after before
        by_cases first : i = index + 1
        · rw [first]
          exact silent
        · exact others i (by omega) before
      · rw [show n' - index = (n' - (index + 1)) + 1 by omega, List.range'_succ, List.map_cons]

/-- The checks that `memory_read` makes before its first request. -/
structure ReadsMemory (ctx : MemoryReadContext) (device : DeviceInfo) (limit : Nat) : Prop where
  cached : ctx.client.deviceInfo = some device
  advertised : device.featureFlags &&& featureMemoryRead ≠ 0
  command : ctx.memoryRead = some BootCmd.memoryRead
  effective : ctx.client.effectiveMaxPayloadWords = .ok limit
  room : 4 ≤ limit

/-- The limit of the client is at most that of the device. -/
theorem effectiveMaxPayloadWords_le {client : BootProtocolClient} {device : DeviceInfo}
    (cached : client.deviceInfo = some device) (effective : client.effectiveMaxPayloadWords = .ok limit) :
    limit ≤ device.maxPayloadWords.toNat := by
  unfold BootProtocolClient.effectiveMaxPayloadWords at effective
  rw [cached] at effective
  cases protocol : client.protocolInfo with
  | none =>
    rw [protocol] at effective
    cases effective
  | some info =>
    rw [protocol] at effective
    dsimp only at effective
    split at effective
    · cases effective
    · cases effective
      exact Nat.min_le_left ..

theorem memoryRead_run (enabled : features.memoryRead = true) {device : DeviceInfo}
    (reads : ReadsMemory ctx device limit)
    (capacity : limit ≤ c.algorithm.deviceInfo.maxPayloadWords.toNat)
    (buffer : c.algorithm.deviceInfo.maxPayloadWords.toNat ≤ 256) :
    ∃ n result, MemoryReadOutcome c.world.memory request (limit - 3) ctx.polls n result ∧
      (∀ i < n, ctx.polls i = false) ∧
      (memoryRead request ctx).run (coreServer features code) c =
        ⟨.ok result, (List.range n).map (readExchange c.world.memory request (limit - 3)), c⟩ := by
  have room := reads.room
  have frameCapacity : min 0xFFFF (limit - 3) = limit - 3 := by omega
  unfold memoryRead
  rw [reads.cached]
  dsimp only
  rw [if_neg reads.advertised, reads.command, reads.effective]
  simp only [Dialogue.lift, Dialogue.bind]
  rw [if_neg (Nat.not_lt.2 room), frameCapacity]
  by_cases polled : ctx.polls 0 = true
  · obtain ⟨cancellation, made, words⟩ := memoryReadCancellation_ok (Nat.zero_le request.wordCount)
    refine ⟨0, .cancelled cancellation, .cancelled request.count_pos polled cancellation words,
      fun i before => absurd before (Nat.not_lt_zero i), ?_⟩
    rw [if_pos polled, made]
    exact failureResult_ok rfl
  · have quiet : ctx.polls 0 = false := by simpa using polled
    obtain ⟨n, result, -, outcome, others, ran⟩ := readFrames_run
      enabled room capacity buffer (readFrameCount request (limit - 3)) 0 (Nat.zero_add _) quiet
    have start : wordsBefore request (limit - 3) 0 = 0 := by
      rw [wordsBefore, Nat.mul_zero, Nat.zero_min]
    rw [start, Nat.sub_zero] at ran
    refine ⟨n, result, outcome, ?_, ?_⟩
    · intro i before
      rcases Nat.eq_zero_or_pos i with rfl | after
      · exact quiet
      · exact others i after before
    · rw [if_neg polled, List.range_eq_range', ← ran]
      apply failureResult_ok
      rw [Nat.add_zero] at ran
      exact congrArg Dialogue.Ran.result ran

/-- The frames of an outcome all have words. -/
theorem MemoryReadOutcome.short {memory : CoreMemory} {capacity : Nat} {polls : Nat → Bool} {n : Nat}
    {result : OperationResult MemoryReadResult} (positive : 0 < capacity)
    (outcome : MemoryReadOutcome memory request capacity polls n result) {index : Nat}
    (before : index < n) : capacity * index < request.wordCount := by
  cases outcome with
  | succeeded => exact (lt_readFrameCount positive).1 before
  | completed => exact (lt_readFrameCount positive).1 before
  | cancelled short =>
    have := Nat.mul_le_mul_left capacity (Nat.le_of_lt before)
    omega

end

/-- In every state of a run of the device, a read the operation accepts collects exactly the
words of the range. -/
theorem memory_read_exact (features : BootFeatures) (code : ServiceCode σ)
    (deviceInfo : BootDeviceInfo) (w : CoreWorld σ) (c₀ : Core σ)
    (start : init deviceInfo w = some c₀) (inputs : List CoreInput)
    (advertises : deviceInfo.featureFlags &&& featureMemoryRead ≠ 0 → features.memoryRead = true)
    (request : MemoryReadRequest) (ctx : MemoryReadContext) (device : DeviceInfo)
    (same : device.toBootDeviceInfo = deviceInfo) (limit : Nat) (reads : ReadsMemory ctx device limit) :
    ∃ n result exchanges,
      (memoryRead request ctx).run (coreServer features code)
          ((coreMachine features code).run c₀ inputs) =
        ⟨.ok result, exchanges, (coreMachine features code).run c₀ inputs⟩ ∧
      ReadsExactly ((coreMachine features code).run c₀ inputs).world.memory request (limit - 3)
        ctx.polls n result exchanges := by
  obtain ⟨kept, -, buffer⟩ := init_deviceInfo start
  have info := (run_deviceInfo features code c₀ inputs).trans kept
  have enabled : features.memoryRead = true := by
    apply advertises
    rw [← same]
    exact reads.advertised
  have positive : 0 < limit - 3 := by
    have := reads.room
    omega
  have le := effectiveMaxPayloadWords_le reads.cached reads.effective
  generalize (coreMachine features code).run c₀ inputs = c at info ⊢
  have capacity : limit ≤ c.algorithm.deviceInfo.maxPayloadWords.toNat := by
    rw [info, ← same]
    exact le
  rw [← info] at buffer
  obtain ⟨n, result, outcome, quiet, ran⟩ :=
    memoryRead_run enabled reads capacity buffer
  refine ⟨n, result, _, ran, outcome, quiet, rfl, ?_⟩
  intro index before
  have short := outcome.short positive before
  have ends := request.end_le
  have some := request.count_pos
  have next := @wordsBefore_succ request (limit - 3) index
  have least : wordsBefore request (limit - 3) (index + 1) ≤ request.wordCount := Nat.min_le_right ..
  have here : wordsBefore request (limit - 3) index = (limit - 3) * index :=
    Nat.min_eq_left (Nat.le_of_lt short)
  have frame : frameWords request (limit - 3) index =
    min (limit - 3) (request.wordCount - wordsBefore request (limit - 3) index) := rfl
  omega

/-- A build with the memory read. -/
def readInfo : BootDeviceInfo := { cpu1Info with featureFlags := 0x048F }

/-- The core of that device after `BootAlgorithm_Init`. -/
def readCore : Core Unit := { cpu1Core with algorithm.deviceInfo := readInfo }

/-- A client that takes at most seven words in a payload. -/
def readContext : MemoryReadContext where
  client :=
    { sequence := 0
      deviceInfo := some ⟨readInfo, by decide, by decide⟩
      protocolInfo := some ⟨protocolVersion, protocolVersion, protocolVersion, protocolHeaderWords,
        1, 1, 7, 0, by decide, rfl, by decide, rfl, rfl, rfl⟩
      buffer := [] }
  memoryRead := some BootCmd.memoryRead
  polls := fun _ => false

/-- The last ten words of the address space, in frames of four, four and two words. -/
theorem memory_read_exact_last : ∃ n result exchanges,
    (memoryRead ⟨0xFFFFFFF6, 10, by decide, by decide, by decide, by decide⟩ readContext).run
        (coreServer ⟨true, true, true⟩ idleService) readCore =
      ⟨.ok result, exchanges, readCore⟩ ∧
    ReadsExactly readCore.world.memory ⟨0xFFFFFFF6, 10, by decide, by decide, by decide, by decide⟩ 4
      readContext.polls n result exchanges :=
  memory_read_exact ⟨true, true, true⟩ idleService readInfo ⟨fun _ => 0, ()⟩ readCore
    (if_neg (by decide)) [] (fun _ => rfl) _ readContext ⟨readInfo, by decide, by decide⟩ rfl 7
    ⟨rfl, by decide, rfl, rfl, by decide⟩

end BootUpgrade

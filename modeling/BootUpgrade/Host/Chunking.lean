import BootUpgrade.Host.FrameReader
import BootUpgrade.Lib.Serving

/-!
# The same stream in other chunks

Successive calls of `read_frame` over a transport that delivers a byte stream in
chunks. A call never ends before it has read a chunk of its own, so which calls
time out depends on how many chunks end behind each frame.
-/

namespace BootUpgrade

namespace HostProtocol

open BootProtocol Serving

/-! ## The transport and the calls -/

/-- A transport that delivers the chunks, one for each read. -/
def cutTransport (turns : Int → List (List UInt8) → Nat) : ByteTransport (List (List UInt8)) where
  writeAll _ chunks := (.ok (), chunks)
  readSome _ chunks :=
    match chunks with
    | [] => (.ok [], [])
    | chunk :: chunks => (.ok chunk, chunks)
  turns := turns

/-- No deadline passes before all the chunks have been read. -/
def InTime (turns : Int → List (List UInt8) → Nat) : Prop :=
  ∀ timeoutMs chunks, 0 < timeoutMs → chunks.length < turns timeoutMs chunks

/-- The arguments of a call of `read_frame`. -/
structure ReadCall where
  timeoutMs : Int
  maxPayloadWords : Nat

/-- What the calls return or raise, one after the other. -/
def readFrames {τ : Type} (t : ByteTransport τ) : List ReadCall → List UInt8 → τ →
    List (Except HostError Frame)
  | [], _, _ => []
  | call :: calls, buffer, s =>
    let read := readFrame t call.timeoutMs call.maxPayloadWords buffer s
    read.result :: readFrames t calls read.buffer read.transport

/-! ## The items of a stream -/

/-- The stream from its first header on. -/
def fromHeader : List UInt8 → List UInt8
  | [] => []
  | byte :: bytes => if ValidHeader (byte :: bytes) then byte :: bytes else fromHeader bytes

/-- The first item of a stream, a frame or a header that announces too much, and
what follows it. -/
def firstItem (maxPayloadWords : Nat) (stream : List UInt8) :
    Option (Except HostError Frame × List UInt8) :=
  settle maxPayloadWords (fromHeader stream)

/-- The items of a stream for calls with these limits. -/
def items : List Nat → List UInt8 → List (Except HostError Frame)
  | [], _ => []
  | maxPayloadWords :: limits, stream =>
    match firstItem maxPayloadWords stream with
    | none => []
    | some (item, rest) => item :: items limits rest

/-- The stream holds the first `n` items. -/
def Holds : List Nat → Nat → List UInt8 → Bool
  | _, 0, _ => true
  | [], _ + 1, _ => false
  | maxPayloadWords :: limits, n + 1, stream =>
    match firstItem maxPayloadWords stream with
    | none => false
    | some (_, rest) => Holds limits n rest

/-- What has arrived of the stream at the end of each chunk. -/
def arrivals : List (List UInt8) → List (List UInt8)
  | [] => []
  | chunk :: chunks => chunk :: (arrivals chunks).map (chunk ++ ·)

/-- Enough chunks end for the calls up to the `k`-th: for each of the first `k` items,
one for every call from its own to the `k`-th ends where it has arrived. -/
def EnoughChunks (limits : List Nat) (chunks : List (List UInt8)) (k : Nat) : Prop :=
  ∀ i, 0 < i → i ≤ k → k < i + (arrivals chunks).countP (Holds limits i)

section
variable {bytes more rest : List UInt8} {maxPayloadWords : Nat} {item : Except HostError Frame}

theorem fromHeader_of_valid (valid : ValidHeader bytes) : fromHeader bytes = bytes := by
  cases bytes with
  | nil => rfl
  | cons byte bytes => exact if_pos valid

theorem fromHeader_of_invalid {byte : UInt8} (invalid : ¬ ValidHeader (byte :: bytes)) :
    fromHeader (byte :: bytes) = fromHeader bytes := if_neg invalid

theorem length_fromHeader_le (bytes : List UInt8) : (fromHeader bytes).length ≤ bytes.length := by
  induction bytes with
  | nil => exact Nat.le_refl 0
  | cons byte bytes ih =>
    by_cases valid : ValidHeader (byte :: bytes)
    · exact Nat.le_of_eq (congrArg List.length (fromHeader_of_valid valid))
    · rw [fromHeader_of_invalid valid]
      exact Nat.le_succ_of_le ih

/-- A header that has been found is found where it is when more bytes come. -/
theorem fromHeader_append (valid : ValidHeader (fromHeader bytes)) :
    fromHeader (bytes ++ more) = fromHeader bytes ++ more := by
  induction bytes with
  | nil => exact absurd valid.length (by decide)
  | cons byte bytes ih =>
    by_cases here : ValidHeader (byte :: bytes)
    · rw [fromHeader_of_valid here, fromHeader_of_valid (here.append more)]
    · rw [fromHeader_of_invalid here] at valid ⊢
      have whole : 20 ≤ (byte :: bytes).length := by
        have later := valid.length
        have shorter := length_fromHeader_le bytes
        rw [List.length_cons]
        omega
      have dead : ¬ ValidHeader (byte :: (bytes ++ more)) := by
        intro grown
        exact not_mayBegin_of_header whole here ⟨more, grown⟩
      rw [List.cons_append, fromHeader_of_invalid dead]
      exact ih valid

/-- The live part of a stream starts with a header where the first header is, or has none. -/
theorem settle_live (maxPayloadWords : Nat) (bytes : List UInt8) :
    settle maxPayloadWords (live bytes) = firstItem maxPayloadWords bytes := by
  induction bytes with
  | nil => rfl
  | cons byte bytes ih =>
    unfold firstItem at ih ⊢
    by_cases here : ValidHeader (byte :: bytes)
    · rw [fromHeader_of_valid here, live, Residue.live_of_begins (mayBegin_of_valid here)]
    rw [fromHeader_of_invalid here, ← ih]
    by_cases short : (byte :: bytes).length < 20
    · have before : (live (byte :: bytes)).length < 20 :=
        Nat.lt_of_le_of_lt (Residue.live_suffix _).length_le short
      have behind : (live bytes).length < 20 :=
        Nat.lt_of_le_of_lt (Residue.live_suffix _).length_le
          (Nat.lt_of_succ_lt short)
      rw [settle_short before, settle_short behind]
    · have dead := not_mayBegin_of_header (Nat.not_lt.1 short) here
      rw [live, Residue.live_of_not_begins dead]

theorem settle_append (settled : settle maxPayloadWords bytes = some (item, rest)) :
    settle maxPayloadWords (bytes ++ more) = some (item, rest ++ more) := by
  have valid : ValidHeader bytes := by
    apply Decidable.byContradiction
    intro invalid
    rw [settle_invalid invalid] at settled
    cases settled
  have grown : ValidHeader (bytes ++ more) := valid.append more
  unfold settle at settled ⊢
  rw [if_neg (not_not_intro valid)] at settled
  rw [if_neg (not_not_intro grown), headerWords_append valid.length]
  generalize ((headerWords bytes).getD 8 0).toNat = payloadWords at settled ⊢
  by_cases big : payloadWords > maxPayloadWords
  · rw [if_pos big] at settled ⊢
    cases settled
    rfl
  rw [if_neg big] at settled ⊢
  by_cases part : bytes.length < (10 + payloadWords + 1) * 2
  · rw [if_pos part] at settled
    cases settled
  have whole : (10 + payloadWords + 1) * 2 ≤ bytes.length := Nat.not_lt.1 part
  rw [if_neg part] at settled
  rw [if_neg (by rw [List.length_append]; omega), List.take_append_of_le_length whole,
    List.drop_append_of_le_length whole]
  cases settled
  rfl

/-- An item that has arrived is the same when more bytes come. -/
theorem firstItem_append (found : firstItem maxPayloadWords bytes = some (item, rest)) :
    firstItem maxPayloadWords (bytes ++ more) = some (item, rest ++ more) := by
  have valid : ValidHeader (fromHeader bytes) := by
    apply Decidable.byContradiction
    intro invalid
    rw [firstItem, settle_invalid invalid] at found
    cases found
  unfold firstItem at found ⊢
  rw [fromHeader_append valid]
  exact settle_append found

theorem holds_append {limits : List Nat} {n : Nat} (holds : Holds limits n bytes = true) :
    Holds limits n (bytes ++ more) = true := by
  induction n generalizing limits bytes with
  | zero => cases limits <;> rfl
  | succ n ih =>
    cases limits with
    | nil => cases holds
    | cons maxPayloadWords limits =>
      unfold Holds at holds ⊢
      cases found : firstItem maxPayloadWords bytes with
      | none =>
        rw [found] at holds
        cases holds
      | some first =>
        obtain ⟨item, rest⟩ := first
        rw [found] at holds
        rw [firstItem_append found]
        exact ih holds

theorem holds_pred {limits : List Nat} {n : Nat} (holds : Holds limits (n + 1) bytes = true) :
    Holds limits n bytes = true := by
  induction n generalizing limits bytes with
  | zero => cases limits <;> rfl
  | succ n ih =>
    cases limits with
    | nil => cases holds
    | cons maxPayloadWords limits =>
      unfold Holds at holds ⊢
      cases found : firstItem maxPayloadWords bytes with
      | none =>
        rw [found] at holds
        cases holds
      | some first =>
        rw [found] at holds
        exact ih holds

end

/-! ## Reading in chunks -/

section
variable {turns : Int → List (List UInt8) → Nat} {limits : List Nat} {chunk buffer stream : List UInt8}
  {chunks : List (List UInt8)}

theorem readLoop_end (maxPayloadWords n : Nat) (buffer : List UInt8) :
    readLoop (cutTransport turns) maxPayloadWords n buffer [] =
      ⟨.error .transportTimeoutError, buffer, []⟩ := by
  induction n with
  | zero => rfl
  | succ n ih => exact ih

/-- Where all the chunks come in time, how much time there is does not matter. -/
theorem readLoop_turns (maxPayloadWords : Nat) {n m : Nat} (enough : chunks.length < n)
    (enough' : chunks.length < m) (buffer : List UInt8) :
    readLoop (cutTransport turns) maxPayloadWords n buffer chunks =
      readLoop (cutTransport turns) maxPayloadWords m buffer chunks := by
  induction chunks generalizing n m buffer with
  | nil => rw [readLoop_end, readLoop_end]
  | cons chunk chunks ih =>
    rw [List.length_cons] at enough enough'
    obtain ⟨n, rfl⟩ := Nat.exists_eq_succ_of_ne_zero (Nat.ne_zero_of_lt enough)
    obtain ⟨m, rfl⟩ := Nat.exists_eq_succ_of_ne_zero (Nat.ne_zero_of_lt enough')
    have rest := ih (Nat.lt_of_succ_lt_succ enough) (Nat.lt_of_succ_lt_succ enough')
    unfold readLoop
    cases chunk with
    | nil => exact rest buffer
    | cons byte chunk =>
      dsimp only [cutTransport]
      cases extract maxPayloadWords (buffer ++ byte :: chunk) with
      | more grown => exact rest grown
      | ended result left => rfl

theorem readFrame_positive {timeoutMs : Int} (positive : 0 < timeoutMs) (maxPayloadWords : Nat)
    (buffer : List UInt8) (chunks : List (List UInt8)) :
    readFrame (cutTransport turns) timeoutMs maxPayloadWords buffer chunks =
      readLoop (cutTransport turns) maxPayloadWords (turns timeoutMs chunks) buffer chunks :=
  if_neg (Int.not_le.2 positive)

/-- A call reads a chunk before it looks at its buffer. -/
theorem readFrame_chunk (inTime : InTime turns) {call : ReadCall} (positive : 0 < call.timeoutMs)
    (ne : chunk ≠ []) (buffer : List UInt8) (chunks : List (List UInt8)) :
    readFrame (cutTransport turns) call.timeoutMs call.maxPayloadWords buffer (chunk :: chunks) =
      match extract call.maxPayloadWords (buffer ++ chunk) with
      | .more grown =>
        readFrame (cutTransport turns) call.timeoutMs call.maxPayloadWords grown chunks
      | .ended result left => ⟨result, left, chunks⟩ := by
  obtain ⟨byte, chunk, rfl⟩ := List.exists_cons_of_ne_nil ne
  have time := inTime call.timeoutMs ((byte :: chunk) :: chunks) positive
  obtain ⟨n, enough⟩ := Nat.exists_eq_succ_of_ne_zero (Nat.ne_zero_of_lt time)
  have left : chunks.length < n := by
    rw [enough, List.length_cons] at time
    exact Nat.lt_of_succ_lt_succ time
  rw [readFrame_positive positive, enough]
  unfold readLoop
  dsimp only [cutTransport]
  cases extract call.maxPayloadWords (buffer ++ byte :: chunk) with
  | more grown =>
    dsimp only
    rw [← cutTransport, readFrame_positive positive]
    exact readLoop_turns call.maxPayloadWords left (inTime _ _ positive) grown
  | ended result rest => rfl

/-- Without another chunk every call times out. -/
theorem readFrames_end {calls : List ReadCall} (positive : ∀ call ∈ calls, 0 < call.timeoutMs)
    (buffer : List UInt8) :
    readFrames (cutTransport turns) calls buffer [] =
      List.replicate calls.length (.error .transportTimeoutError) := by
  induction calls generalizing buffer with
  | nil => rfl
  | cons call calls ih =>
    have silent : readFrame (cutTransport turns) call.timeoutMs call.maxPayloadWords buffer [] =
        ⟨.error .transportTimeoutError, buffer, []⟩ := by
      rw [readFrame_positive (positive call List.mem_cons_self), readLoop_end]
    unfold readFrames
    rw [silent]
    exact congrArg (_ :: ·) (ih (fun other mem => positive other (List.mem_cons_of_mem _ mem)) buffer)

/-- The number of items that calls with these limits take from the chunks, if `stream`
is what has arrived and is not taken yet. -/
def received (limits : List Nat) (stream : List UInt8) (chunks : List (List UInt8)) : Nat :=
  served (fun n arrived => Holds limits n (stream ++ arrived)) (arrivals chunks) 0

theorem received_nil (stream : List UInt8) (chunks : List (List UInt8)) :
    received [] stream chunks = 0 := by
  unfold received
  induction arrivals chunks with
  | nil => rfl
  | cons arrived rest ih => exact ih

theorem received_chunk (limits : List Nat) (stream chunk : List UInt8) (chunks : List (List UInt8)) :
    received limits stream (chunk :: chunks) =
      served (fun n arrived => Holds limits n (stream ++ chunk ++ arrived)) (arrivals chunks)
        (if Holds limits 1 (stream ++ chunk) then 1 else 0) := by
  simp only [received, arrivals, served, served_map, List.append_assoc, Nat.zero_add]

/-- A chunk with which the next item is not complete. -/
theorem received_waiting {maxPayloadWords : Nat}
    (waiting : firstItem maxPayloadWords (stream ++ chunk) = none) :
    received (maxPayloadWords :: limits) stream (chunk :: chunks) =
      received (maxPayloadWords :: limits) (stream ++ chunk) chunks := by
  have absent : Holds (maxPayloadWords :: limits) 1 (stream ++ chunk) = false := by
    unfold Holds
    rw [waiting]
  rw [received_chunk, absent]
  rfl

/-- A chunk with which the next item is complete. -/
theorem received_taken {maxPayloadWords : Nat} {item : Except HostError Frame} {rest : List UInt8}
    (found : firstItem maxPayloadWords (stream ++ chunk) = some (item, rest)) :
    received (maxPayloadWords :: limits) stream (chunk :: chunks) =
      received limits rest chunks + 1 := by
  have here : Holds (maxPayloadWords :: limits) 1 (stream ++ chunk) = true := by
    unfold Holds
    rw [found]
    cases limits <;> rfl
  have behind : ∀ n arrived, Holds (maxPayloadWords :: limits) (n + 1) (stream ++ chunk ++ arrived) =
      Holds limits n (rest ++ arrived) := by
    intro n arrived
    rw [Holds, firstItem_append found]
  rw [received_chunk, here, if_pos rfl, served_succ]
  simp only [behind]
  rfl

/-- The calls return the items of the stream in order, as many as the chunks allow,
and time out from then on. -/
theorem readFrames_eq (inTime : InTime turns) {calls : List ReadCall}
    (positive : ∀ call ∈ calls, 0 < call.timeoutMs) (nonempty : ∀ chunk ∈ chunks, chunk ≠ [])
    (same : live buffer = live stream) :
    readFrames (cutTransport turns) calls buffer chunks =
      (items (calls.map ReadCall.maxPayloadWords) (stream ++ chunks.flatten)).take
          (received (calls.map ReadCall.maxPayloadWords) stream chunks) ++
        List.replicate (calls.length - received (calls.map ReadCall.maxPayloadWords) stream chunks)
          (.error .transportTimeoutError) := by
  induction chunks generalizing calls buffer stream with
  | nil => exact readFrames_end positive buffer
  | cons chunk chunks ih =>
    have next : ∀ other ∈ chunks, other ≠ [] := fun other mem =>
      nonempty other (List.mem_cons_of_mem _ mem)
    cases calls with
    | nil =>
      rw [List.map_nil, received_nil]
      rfl
    | cons call calls =>
      have grown : live (buffer ++ chunk) = live (stream ++ chunk) := by
        rw [← live_append buffer, same, live_append stream]
      have read := readFrame_chunk inTime (positive call List.mem_cons_self)
        (nonempty chunk List.mem_cons_self) buffer chunks
      rw [List.flatten_cons, ← List.append_assoc, List.map_cons]
      rcases extract_live call.maxPayloadWords (buffer ++ chunk) with
        ⟨settled, left, more, alive⟩ | ⟨result, left, settled, ended⟩
      · rw [grown, settle_live] at settled
        rw [received_waiting settled]
        rw [more] at read
        unfold readFrames
        rw [read]
        exact ih positive next (alive.trans grown)
      · rw [grown, settle_live] at settled
        rw [received_taken settled]
        rw [ended] at read
        unfold readFrames
        rw [read]
        have rest : ∀ other ∈ calls, 0 < other.timeoutMs := fun other mem =>
          positive other (List.mem_cons_of_mem _ mem)
        have others := ih rest next (rfl : live left = live left)
        dsimp only
        rw [others, items, firstItem_append settled, List.take_succ_cons, List.length_cons,
          Nat.add_sub_add_right, List.cons_append]

/-! ## When the chunks do not matter -/

def timedOut : Except HostError Frame → Bool
  | .error .transportTimeoutError => true
  | _ => false

/-- No item of a stream is a timeout. -/
theorem items_countP (limits : List Nat) (stream : List UInt8) :
    (items limits stream).countP timedOut = 0 := by
  induction limits generalizing stream with
  | nil => rfl
  | cons maxPayloadWords limits ih =>
    unfold items
    cases found : firstItem maxPayloadWords stream with
    | none => rfl
    | some first =>
      obtain ⟨item, rest⟩ := first
      have quiet : ¬ timedOut item = true := by
        intro late
        cases item with
        | ok frame => cases late
        | error error =>
          obtain ⟨kind, message, rfl⟩ := settle_raises found error rfl
          cases late
      dsimp only
      rw [List.countP_cons_of_neg quiet]
      exact ih rest

theorem holds_length_le {limits : List Nat} {n : Nat} (holds : Holds limits n stream = true) :
    n ≤ limits.length := by
  induction n generalizing limits stream with
  | zero => exact Nat.zero_le _
  | succ n ih =>
    cases limits with
    | nil => cases holds
    | cons maxPayloadWords limits =>
      unfold Holds at holds
      cases found : firstItem maxPayloadWords stream with
      | none =>
        rw [found] at holds
        cases holds
      | some first =>
        rw [found] at holds
        exact Nat.succ_le_succ (ih holds)

theorem arrivals_stays (limits : List Nat) (chunks : List (List UInt8)) :
    Stays (Holds limits) (arrivals chunks) := by
  have prefixes : (arrivals chunks).Pairwise (· <+: ·) := by
    induction chunks with
    | nil => exact List.Pairwise.nil
    | cons chunk chunks ih =>
      apply List.Pairwise.cons
      · intro arrived mem
        obtain ⟨later, -, rfl⟩ := List.mem_map.1 mem
        exact List.prefix_append chunk later
      · apply List.Pairwise.map _ _ ih
        intro earlier later start
        exact (List.prefix_append_right_inj chunk).2 start
  apply prefixes.imp
  rintro earlier later ⟨more, rfl⟩ n holds
  exact holds_append holds

theorem le_received (limits : List Nat) (chunks : List (List UInt8)) (k : Nat) :
    k ≤ received limits [] chunks ↔ EnoughChunks limits chunks k := by
  have ordered : Ordered (Holds limits) := by
    intro n arrived holds
    exact holds_pred holds
  exact le_served_iff ordered (arrivals_stays limits chunks) k 0

theorem received_le (limits : List Nat) (chunks : List (List UInt8)) :
    received limits [] chunks ≤ limits.length := by
  apply Nat.le_of_not_lt
  intro exceeds
  have last := (le_received limits chunks _).1 exceeds _ (Nat.succ_pos _) (Nat.le_refl _)
  have none : (arrivals chunks).countP (Holds limits (limits.length + 1)) = 0 := by
    rw [List.countP_eq_zero]
    intro arrived _ holds
    exact absurd (holds_length_le holds) (Nat.not_succ_le_self _)
  rw [none] at last
  exact absurd last (Nat.lt_irrefl _)

/-- The number of calls that time out. -/
theorem readFrames_countP (inTime : InTime turns) {calls : List ReadCall}
    (positive : ∀ call ∈ calls, 0 < call.timeoutMs) (nonempty : ∀ chunk ∈ chunks, chunk ≠ []) :
    (readFrames (cutTransport turns) calls [] chunks).countP timedOut =
      calls.length - received (calls.map ReadCall.maxPayloadWords) [] chunks := by
  have quiet := items_countP (calls.map ReadCall.maxPayloadWords) ([] ++ chunks.flatten)
  rw [List.countP_eq_zero] at quiet
  have taken : ((items (calls.map ReadCall.maxPayloadWords) ([] ++ chunks.flatten)).take
      (received (calls.map ReadCall.maxPayloadWords) [] chunks)).countP timedOut = 0 := by
    rw [List.countP_eq_zero]
    exact fun item mem => quiet item (List.mem_of_mem_take mem)
  rw [readFrames_eq inTime positive nonempty rfl, List.countP_append, taken, Nat.zero_add,
    List.countP_replicate]
  rfl

/-- Two ways of cutting a stream give the same frames and errors exactly when they
leave enough chunks for the same calls. -/
theorem readFrames_chunking {turns' : Int → List (List UInt8) → Nat} (inTime : InTime turns)
    (inTime' : InTime turns') {calls : List ReadCall} (positive : ∀ call ∈ calls, 0 < call.timeoutMs)
    {chunks' : List (List UInt8)} (nonempty : ∀ chunk ∈ chunks, chunk ≠ [])
    (nonempty' : ∀ chunk ∈ chunks', chunk ≠ []) (same : chunks.flatten = chunks'.flatten) :
    readFrames (cutTransport turns) calls [] chunks =
        readFrames (cutTransport turns') calls [] chunks' ↔
      ∀ k ≤ calls.length, (EnoughChunks (calls.map ReadCall.maxPayloadWords) chunks k ↔
        EnoughChunks (calls.map ReadCall.maxPayloadWords) chunks' k) := by
  have most := received_le (calls.map ReadCall.maxPayloadWords) chunks
  have most' := received_le (calls.map ReadCall.maxPayloadWords) chunks'
  rw [List.length_map] at most most'
  constructor
  · intro equal k _
    have late := readFrames_countP inTime positive nonempty
    rw [equal, readFrames_countP inTime' positive nonempty'] at late
    rw [← le_received, ← le_received]
    constructor <;> intro enough <;> omega
  · intro enough
    have equal : received (calls.map ReadCall.maxPayloadWords) [] chunks =
        received (calls.map ReadCall.maxPayloadWords) [] chunks' := by
      apply Nat.le_antisymm
      · exact (le_received _ chunks' _).2 ((enough _ most).1 ((le_received _ chunks _).1 (Nat.le_refl _)))
      · exact (le_received _ chunks _).2
          ((enough _ most').2 ((le_received _ chunks' _).1 (Nat.le_refl _)))
    rw [readFrames_eq inTime positive nonempty rfl, readFrames_eq inTime' positive nonempty' rfl,
      equal, same]

end

/-- A loop that looks at its clock once more than there are chunks. -/
def oneMore (_ : Int) (chunks : List (List UInt8)) : Nat := chunks.length + 1

theorem oneMore_inTime : InTime oneMore := fun _ chunks _ => Nat.lt_succ_self chunks.length

/-- The answer to a PING. -/
def pingResponse (sequence : UInt16) : WireFrame :=
  ⟨protocolVersion, pktResponse, BootCmd.ping, sequence, 0, BootStatus.ok, []⟩

/-- One frame, whole or with its magic split. -/
theorem readFrames_chunking_split :
    readFrames (cutTransport oneMore) [⟨1000, 16⟩] [] [(pingResponse 1).bytes] =
      readFrames (cutTransport oneMore) [⟨1000, 16⟩] []
        [(pingResponse 1).bytes.take 3, (pingResponse 1).bytes.drop 3] := by
  apply (readFrames_chunking oneMore_inTime oneMore_inTime (by decide) (by decide +kernel)
    (by decide +kernel) (by decide +kernel)).2
  intro k le
  have whole : (arrivals [(pingResponse 1).bytes]).countP (Holds [16] 1) = 1 := by decide +kernel
  have split : (arrivals [(pingResponse 1).bytes.take 3, (pingResponse 1).bytes.drop 3]).countP
      (Holds [16] 1) = 1 := by decide +kernel
  have enough : ∀ cut, (arrivals cut).countP (Holds [16] 1) = 1 → EnoughChunks [16] cut k := by
    intro cut counted i after upto
    obtain rfl : i = 1 := Nat.le_antisymm (Nat.le_trans upto le) after
    rw [counted]
    exact Nat.lt_succ_of_le le
  constructor
  · exact fun _ => enough _ split
  · exact fun _ => enough _ whole

/-- Two frames in one chunk: the second is in the buffer when its call times out. -/
theorem readFrames_chunking_buffered :
    ¬ ∀ (calls : List ReadCall) (chunks chunks' : List (List UInt8)),
      (∀ call ∈ calls, 0 < call.timeoutMs) → (∀ chunk ∈ chunks, chunk ≠ []) →
      (∀ chunk ∈ chunks', chunk ≠ []) → chunks.flatten = chunks'.flatten →
      readFrames (cutTransport oneMore) calls [] chunks =
        readFrames (cutTransport oneMore) calls [] chunks' := by
  intro always
  have same := always [⟨1000, 16⟩, ⟨1000, 16⟩] [(pingResponse 1).bytes ++ (pingResponse 2).bytes]
    [(pingResponse 1).bytes, (pingResponse 2).bytes] (by decide) (by decide +kernel)
    (by decide +kernel) (by decide +kernel)
  have late := congrArg (List.map timedOut) same
  have together : (readFrames (cutTransport oneMore) [⟨1000, 16⟩, ⟨1000, 16⟩] []
      [(pingResponse 1).bytes ++ (pingResponse 2).bytes]).map timedOut = [false, true] := by
    decide +kernel
  have apart : (readFrames (cutTransport oneMore) [⟨1000, 16⟩, ⟨1000, 16⟩] []
      [(pingResponse 1).bytes, (pingResponse 2).bytes]).map timedOut = [false, false] := by
    decide +kernel
  rw [together, apart] at late
  cases late

end HostProtocol

end BootUpgrade

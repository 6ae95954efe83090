import BootUpgrade.Host.Chunking

/-!
# Reading on behind corrupt bytes

Calls of `read_frame` over corrupt bytes and a response behind them. A frame that
is refused is dropped with all its bytes; a header that announces more than the
limit is not dropped at all.
-/

namespace BootUpgrade

namespace HostProtocol

open BootProtocol

/-! ## What the calls have to do -/

/-- The number of bytes of the frame whose header is at the start of the bytes. -/
def announcedBytes (bytes : List UInt8) : Nat := (10 + (declaredWords bytes).toNat + 1) * 2

/-- No well-formed frame begins at one of the bytes before the response. -/
def Corrupt (bytes : List UInt8) (response : Frame) : Prop :=
  ∀ i < bytes.length, ∀ frame : Frame,
    ¬ frame.encodeBytes <+: (bytes ++ response.encodeBytes).drop i

/-- Calls with this limit, each with a timeout. -/
def Calls (maxPayloadWords : Nat) (calls : List ReadCall) : Prop :=
  ∀ call ∈ calls, 0 < call.timeoutMs ∧ call.maxPayloadWords = maxPayloadWords

/-- However the stream is cut, some calls raise frame errors and the next one returns the response,
if as many chunks follow. -/
def Recovers (turns : Int → List (List UInt8) → Nat) (maxPayloadWords : Nat) (stream : List UInt8)
    (response : Frame) : Prop :=
  ∀ chunks, (∀ chunk ∈ chunks, chunk ≠ []) → chunks.flatten = stream →
    ∃ errors : List HostError, (∀ error ∈ errors, IsFrameError error) ∧
      ∀ further, (∀ chunk ∈ further, chunk ≠ []) → errors.length < further.length →
        ∀ calls, Calls maxPayloadWords calls → calls.length = errors.length + 1 →
          readFrames (cutTransport turns) calls [] (chunks ++ further) =
            errors.map .error ++ [.ok response]

/-- Behind these bytes, and whatever follows, all calls from some call on raise the same frame
error. -/
def Stuck (turns : Int → List (List UInt8) → Nat) (maxPayloadWords : Nat) (bytes : List UInt8) :
    Prop :=
  ∃ (error : HostError) (first : Nat), IsFrameError error ∧
    ∀ chunks, (∀ chunk ∈ chunks, chunk ≠ []) → chunks.flatten = bytes →
      ∀ further, (∀ chunk ∈ further, chunk ≠ []) →
        ∀ calls, Calls maxPayloadWords calls → calls.length ≤ further.length →
          ∀ i, first ≤ i → i < calls.length →
            (readFrames (cutTransport turns) calls [] (chunks ++ further))[i]? = some (.error error)

/-- From its start on, byte by byte up to the next header and frame by frame: each header before the
response announces a frame within the limit that ends before the response begins. -/
inductive Passed (maxPayloadWords : Nat) (response : Frame) : List UInt8 → Prop
  | nil : Passed maxPayloadWords response []
  | byte {byte : UInt8} {bytes : List UInt8}
      (header : ¬ ValidHeader (byte :: bytes ++ response.encodeBytes))
      (rest : Passed maxPayloadWords response bytes) :
      Passed maxPayloadWords response (byte :: bytes)
  | frame {bytes : List UInt8} (header : ValidHeader bytes)
      (fits : (declaredWords bytes).toNat ≤ maxPayloadWords)
      (whole : announcedBytes bytes ≤ bytes.length)
      (rest : Passed maxPayloadWords response (bytes.drop (announcedBytes bytes))) :
      Passed maxPayloadWords response bytes

/-! ## The items of the stream -/

section
variable {maxPayloadWords : Nat} {bytes more : List UInt8} {limits : List Nat}

def oversizeError : HostError :=
  .frameError .frameError "response payload exceeds configured maximum"

theorem announcedBytes_pos (bytes : List UInt8) : 0 < announcedBytes bytes := by
  unfold announcedBytes
  omega

theorem announcedBytes_append (header : ValidHeader bytes) (more : List UInt8) :
    announcedBytes (bytes ++ more) = announcedBytes bytes := by
  rw [announcedBytes, declaredWords, headerWords_append header.length, announcedBytes, declaredWords]

theorem validHeader_of_append (length : 20 ≤ bytes.length) (header : ValidHeader (bytes ++ more)) :
    ValidHeader bytes := by
  have taken := header.take length
  rwa [List.take_left] at taken

theorem items_byte {byte : UInt8} (header : ¬ ValidHeader (byte :: bytes)) :
    items limits (byte :: bytes) = items limits bytes := by
  cases limits with
  | nil => rfl
  | cons limit limits => rw [items, items, firstItem, fromHeader_of_invalid header, firstItem]

theorem firstItem_big (header : ValidHeader bytes)
    (big : maxPayloadWords < (declaredWords bytes).toNat) :
    firstItem maxPayloadWords bytes = some (.error oversizeError, bytes) := by
  rw [firstItem, fromHeader_of_valid header]
  unfold settle
  dsimp only
  rw [if_neg (not_not_intro header)]
  exact if_pos big

theorem firstItem_part (header : ValidHeader bytes)
    (fits : (declaredWords bytes).toNat ≤ maxPayloadWords)
    (part : bytes.length < announcedBytes bytes) : firstItem maxPayloadWords bytes = none := by
  rw [firstItem, fromHeader_of_valid header]
  unfold settle
  dsimp only
  rw [if_neg (not_not_intro header)]
  exact (if_neg (Nat.not_lt.2 fits)).trans (if_pos part)

theorem firstItem_whole (header : ValidHeader bytes)
    (fits : (declaredWords bytes).toNat ≤ maxPayloadWords)
    (whole : announcedBytes bytes ≤ bytes.length) :
    firstItem maxPayloadWords bytes =
      some (decodeFrame (ints (wordsOf (bytes.take (announcedBytes bytes)))) maxPayloadWords,
        bytes.drop (announcedBytes bytes)) := by
  rw [firstItem, fromHeader_of_valid header]
  unfold settle
  dsimp only
  rw [if_neg (not_not_intro header)]
  exact (if_neg (Nat.not_lt.2 fits)).trans (if_neg (Nat.not_lt.2 whole))

/-- A header that announces too much is met again by every call. -/
theorem items_stuck (header : ValidHeader bytes) (big : maxPayloadWords < (declaredWords bytes).toNat)
    (n : Nat) : items (List.replicate n maxPayloadWords) bytes =
      List.replicate n (.error oversizeError) := by
  induction n with
  | zero => rfl
  | succ n ih =>
    rw [List.replicate_succ, items, firstItem_big header big]
    dsimp only
    rw [ih, List.replicate_succ]

theorem items_length_le (limits : List Nat) (bytes : List UInt8) :
    (items limits bytes).length ≤ limits.length := by
  induction limits generalizing bytes with
  | nil => exact Nat.le_refl 0
  | cons limit limits ih =>
    unfold items
    cases firstItem limit bytes with
    | none => exact Nat.zero_le _
    | some first => exact Nat.succ_le_succ (ih _)

theorem holds_iff {n : Nat} : Holds limits n bytes = true ↔ n ≤ (items limits bytes).length := by
  induction n generalizing limits bytes with
  | zero =>
    have none : Holds limits 0 bytes = true := by cases limits <;> rfl
    exact iff_of_true none (Nat.zero_le _)
  | succ n ih =>
    cases limits with
    | nil => simp [Holds, items]
    | cons limit limits =>
      unfold Holds items
      cases firstItem limit bytes with
      | none => simp
      | some first => simp [ih]

end

/-! ## From the condition to the calls -/

section
variable {maxPayloadWords : Nat} {response : Frame} {bytes : List UInt8}

theorem length_encodeBytes (frame : Frame) :
    frame.encodeBytes.length = 22 + 2 * frame.payload.length := by
  rw [frame.encodeBytes_eq, WireFrame.length_bytes]
  rfl

theorem response_behind (bytes : List UInt8) (response : Frame) :
    20 ≤ (bytes ++ response.encodeBytes).length := by
  rw [List.length_append, length_encodeBytes]
  omega

theorem validHeader_encodeBytes (frame : Frame) (more : List UInt8) :
    ValidHeader (frame.encodeBytes ++ more) := by
  rw [frame.encodeBytes_eq]
  exact validHeader_bytes frame.toWire more

theorem declaredWords_encodeBytes (frame : Frame) (more : List UInt8) :
    (declaredWords (frame.encodeBytes ++ more)).toNat = frame.payload.length := by
  rw [frame.encodeBytes_eq, declaredWords_bytes]
  exact UInt16.toNat_ofNat_of_lt' (Nat.lt_succ_of_le frame.payload_le)

theorem announcedBytes_encodeBytes (frame : Frame) (more : List UInt8) :
    announcedBytes (frame.encodeBytes ++ more) = frame.encodeBytes.length := by
  rw [announcedBytes, declaredWords_encodeBytes, length_encodeBytes]
  omega

/-- The response is the first item where it begins. -/
theorem firstItem_response (fits : response.payload.length ≤ maxPayloadWords) (more : List UInt8) :
    firstItem maxPayloadWords (response.encodeBytes ++ more) = some (.ok response, more) := by
  have header := validHeader_encodeBytes response more
  have declared := declaredWords_encodeBytes response more
  have announced := announcedBytes_encodeBytes response more
  have limit : ((response.toWire).payload.length : Int) ≤ maxPayloadWords := by
    exact Int.ofNat_le.2 fits
  rw [firstItem_whole header (by rw [declared]; exact fits)
    (by rw [announced, List.length_append]; omega), announced, List.take_left, List.drop_left,
    Frame.encodeBytes, Words.wordsOf_bytesOf, response.encodeWords_eq,
    decodeFrame_words response.toWire response.admitted limit]
  rfl

/-- What is decoded begins at these bytes. -/
theorem decodeFrame_begins {frame : Frame} (whole : announcedBytes bytes ≤ bytes.length)
    (decoded : decodeFrame (ints (wordsOf (bytes.take (announcedBytes bytes)))) maxPayloadWords =
      .ok frame) : frame.encodeBytes = bytes.take (announcedBytes bytes) := by
  have words := ints_inj (decodeFrame_ok decoded)
  have even : (bytes.take (announcedBytes bytes)).length =
      2 * (10 + (declaredWords bytes).toNat + 1) := by
    rw [List.length_take, Nat.min_eq_left whole, announcedBytes, Nat.mul_comm]
  rw [Frame.encodeBytes, ← words, Words.bytesOf_wordsOf even]

theorem Corrupt.tail {byte : UInt8} (corrupt : Corrupt (byte :: bytes) response) :
    Corrupt bytes response := fun i hi => corrupt (i + 1) (Nat.succ_lt_succ hi)

theorem Corrupt.drop (corrupt : Corrupt bytes response) {n : Nat} (within : n ≤ bytes.length) :
    Corrupt (bytes.drop n) response := by
  intro i hi frame begins
  rw [List.length_drop] at hi
  rw [← List.drop_append_of_le_length within, List.drop_drop] at begins
  exact corrupt (n + i) (by omega) frame begins

variable (maxPayloadWords) in
/-- A frame that begins before the response and does not end behind it is refused. -/
theorem Corrupt.firstItem (corrupt : Corrupt bytes response) (nonempty : 0 < bytes.length)
    (header : ValidHeader (bytes ++ response.encodeBytes))
    (limited : (declaredWords (bytes ++ response.encodeBytes)).toNat ≤ maxPayloadWords)
    (whole : announcedBytes (bytes ++ response.encodeBytes) ≤
      (bytes ++ response.encodeBytes).length) :
    ∃ error, IsFrameError error ∧ ∀ more,
      HostProtocol.firstItem maxPayloadWords (bytes ++ (response.encodeBytes ++ more)) =
        some (.error error, (bytes ++ response.encodeBytes).drop
          (announcedBytes (bytes ++ response.encodeBytes)) ++ more) := by
  have first := firstItem_whole header limited whole
  cases decoded : decodeFrame (ints (wordsOf ((bytes ++ response.encodeBytes).take
      (announcedBytes (bytes ++ response.encodeBytes))))) maxPayloadWords with
  | error error =>
    refine ⟨error, (decodeFrame_raises _ _) error decoded, ?_⟩
    intro more
    rw [decoded] at first
    rw [← List.append_assoc, firstItem_append first]
  | ok frame =>
    have begins := decodeFrame_begins whole decoded
    exact absurd (begins ▸ List.take_prefix _ _) (corrupt 0 nonempty frame)

/-- The calls for a stream that is passed: one for each frame that is refused, and one for the
response. -/
theorem Passed.items (passed : Passed maxPayloadWords response bytes)
    (corrupt : Corrupt bytes response) (fits : response.payload.length ≤ maxPayloadWords) :
    ∃ errors : List HostError, (∀ error ∈ errors, IsFrameError error) ∧ ∀ (n : Nat) more,
      HostProtocol.items (List.replicate (errors.length + (n + 1)) maxPayloadWords)
          (bytes ++ (response.encodeBytes ++ more)) =
        errors.map .error ++ .ok response ::
          HostProtocol.items (List.replicate n maxPayloadWords) more := by
  induction passed with
  | nil =>
    refine ⟨[], by simp, ?_⟩
    intro n more
    rw [List.length_nil, Nat.zero_add, List.replicate_succ, List.nil_append, HostProtocol.items,
      firstItem_response fits]
    rfl
  | @byte byte bytes header rest ih =>
    obtain ⟨errors, frameErrors, read⟩ := ih corrupt.tail
    refine ⟨errors, frameErrors, ?_⟩
    intro n more
    rw [← read n more, List.cons_append, items_byte]
    rw [← List.cons_append, ← List.append_assoc]
    exact mt (validHeader_of_append (response_behind (byte :: bytes) response)) header
  | @frame bytes header limited whole rest ih =>
    obtain ⟨errors, frameErrors, read⟩ := ih (corrupt.drop whole)
    have nonempty : 0 < bytes.length := Nat.lt_of_lt_of_le (by decide) header.length
    have same := announcedBytes_append header response.encodeBytes
    have declared : declaredWords (bytes ++ response.encodeBytes) = declaredWords bytes := by
      rw [declaredWords, headerWords_append header.length, declaredWords]
    obtain ⟨error, frameError, first⟩ := corrupt.firstItem maxPayloadWords nonempty (header.append _) (by rw [declared]; exact limited)
      (by rw [same, List.length_append]; omega)
    rw [same, List.drop_append_of_le_length whole] at first
    refine ⟨error :: errors, ?_, ?_⟩
    · intro e he
      rcases List.mem_cons.1 he with rfl | he
      · exact frameError
      · exact frameErrors e he
    · intro n more
      rw [List.length_cons, Nat.succ_add, List.replicate_succ, HostProtocol.items, first more]
      dsimp only
      rw [List.append_assoc, read n more]
      rfl

end

section
variable {turns : Int → List (List UInt8) → Nat} {maxPayloadWords : Nat} {limits : List Nat}
  {chunks further : List (List UInt8)}

theorem arrivals_append (chunks further : List (List UInt8)) :
    arrivals (chunks ++ further) = arrivals chunks ++ (arrivals further).map (chunks.flatten ++ ·) := by
  induction chunks with
  | nil => simp [arrivals]
  | cons chunk chunks ih =>
    rw [List.cons_append, arrivals, ih, arrivals, List.map_append, List.map_map, List.flatten_cons,
      List.cons_append]
    congr 3
    funext arrived
    simp

theorem length_arrivals (chunks : List (List UInt8)) : (arrivals chunks).length = chunks.length := by
  induction chunks with
  | nil => rfl
  | cons chunk chunks ih => rw [arrivals, List.length_cons, List.length_map, ih, List.length_cons]

theorem arrivals_prefix {arrived : List UInt8} (mem : arrived ∈ arrivals chunks) :
    arrived <+: chunks.flatten := by
  induction chunks generalizing arrived with
  | nil => cases mem
  | cons chunk chunks ih =>
    rw [arrivals] at mem
    rcases List.mem_cons.1 mem with rfl | mem
    · exact List.prefix_append _ _
    · obtain ⟨later, among, rfl⟩ := List.mem_map.1 mem
      exact (List.prefix_append_right_inj chunk).2 (ih among)

/-- As many items are taken as have arrived when as many chunks are still to come. -/
theorem le_received_append {n : Nat} (arrived : n ≤ (items limits chunks.flatten).length)
    (enough : n ≤ further.length) : n ≤ received limits [] (chunks ++ further) := by
  rw [le_received]
  intro i positive upto
  have all : ((arrivals further).map (chunks.flatten ++ ·)).countP (Holds limits i) =
      further.length := by
    rw [← length_arrivals further, ← List.length_map (f := (chunks.flatten ++ ·)),
      List.countP_eq_length]
    intro later mem
    obtain ⟨more, -, rfl⟩ := List.mem_map.1 mem
    exact holds_append (holds_iff.2 (Nat.le_trans upto arrived))
  rw [arrivals_append, List.countP_append, all]
  omega

theorem received_le_items : received limits [] chunks ≤ (items limits chunks.flatten).length := by
  by_cases none : received limits [] chunks = 0
  · rw [none]
    exact Nat.zero_le _
  have counted := (le_received limits chunks _).1 (Nat.le_refl _) _ (Nat.pos_of_ne_zero none)
    (Nat.le_refl _)
  obtain ⟨arrived, mem, holds⟩ := List.countP_pos_iff.1 (show
    0 < (arrivals chunks).countP (Holds limits (received limits [] chunks)) by omega)
  obtain ⟨more, whole⟩ := arrivals_prefix mem
  rw [← whole]
  exact holds_iff.1 (holds_append holds)

theorem map_limits {calls : List ReadCall} (limited : Calls maxPayloadWords calls) :
    calls.map ReadCall.maxPayloadWords = List.replicate calls.length maxPayloadWords := by
  rw [List.eq_replicate_iff, List.length_map]
  refine ⟨rfl, ?_⟩
  intro limit mem
  obtain ⟨call, among, rfl⟩ := List.mem_map.1 mem
  exact (limited call among).2

/-- What the calls return, by the items of the whole stream. -/
theorem readFrames_items (inTime : InTime turns) {calls : List ReadCall}
    (limited : Calls maxPayloadWords calls) (nonempty : ∀ chunk ∈ chunks, chunk ≠ []) :
    ∃ taken ≤ (items (List.replicate calls.length maxPayloadWords) chunks.flatten).length,
      taken = received (List.replicate calls.length maxPayloadWords) [] chunks ∧
      readFrames (cutTransport turns) calls [] chunks =
        (items (List.replicate calls.length maxPayloadWords) chunks.flatten).take taken ++
          List.replicate (calls.length - taken) (.error .transportTimeoutError) := by
  have read := readFrames_eq inTime (fun call mem => (limited call mem).1) nonempty
    (rfl : live [] = live [])
  rw [map_limits limited, List.nil_append] at read
  exact ⟨_, received_le_items, rfl, read⟩

end

section
variable {turns : Int → List (List UInt8) → Nat} {maxPayloadWords : Nat} {response : Frame}
  {bytes : List UInt8}

theorem Passed.recovers (inTime : InTime turns) (passed : Passed maxPayloadWords response bytes)
    (corrupt : Corrupt bytes response) (fits : response.payload.length ≤ maxPayloadWords) :
    Recovers turns maxPayloadWords (bytes ++ response.encodeBytes) response := by
  obtain ⟨errors, frameErrors, read⟩ := passed.items corrupt fits
  intro chunks nonempty whole
  refine ⟨errors, frameErrors, ?_⟩
  intro further others enough calls limited length
  have all : ∀ chunk ∈ chunks ++ further, chunk ≠ [] := by
    intro chunk mem
    rcases List.mem_append.1 mem with mem | mem
    · exact nonempty chunk mem
    · exact others chunk mem
  obtain ⟨taken, most, same, result⟩ := readFrames_items inTime limited all
  have answered : ∀ more, HostProtocol.items (List.replicate (errors.length + 1) maxPayloadWords)
      (bytes ++ (response.encodeBytes ++ more)) = errors.map .error ++ [.ok response] := read 0
  have count : (errors.map .error ++ [.ok response] : List (Except HostError Frame)).length =
      errors.length + 1 := by
    simp
  have arrived := answered []
  have total := answered further.flatten
  rw [List.append_nil, ← whole] at arrived
  rw [← List.append_assoc, ← whole, ← List.flatten_append] at total
  rw [length] at most same result
  rw [total, count] at most
  rw [total] at result
  have least : errors.length + 1 ≤ taken := by
    rw [same]
    apply le_received_append _ enough
    exact Nat.le_of_eq (by rw [arrived, count])
  have everything : taken = errors.length + 1 := Nat.le_antisymm most least
  rw [result, everything, Nat.sub_self, List.take_of_length_le (Nat.le_of_eq count),
    List.replicate_zero, List.append_nil]

/-! ## Bytes in which nothing begins -/

theorem not_validHeader_zeros (n : Nat) : ¬ ValidHeader (List.replicate n 0) := by
  intro header
  cases n with
  | zero => exact absurd header.length (by decide)
  | succ n =>
    obtain ⟨rest, split⟩ := header.magic
    rw [List.replicate_succ] at split
    exact absurd (List.cons.inj split).1 (by decide)

theorem items_zeros (limits : List Nat) (n : Nat) : items limits (List.replicate n 0) = [] := by
  induction n with
  | zero =>
    cases limits with
    | nil => rfl
    | cons limit limits => rfl
  | succ n ih =>
    have header := not_validHeader_zeros (n + 1)
    rw [List.replicate_succ] at header ⊢
    rw [items_byte header, ih]

/-- A chunk of these bytes, if there are any. -/
def chunkOf (bytes : List UInt8) : List (List UInt8) := if bytes = [] then [] else [bytes]

theorem flatten_chunkOf (bytes : List UInt8) : (chunkOf bytes).flatten = bytes := by
  unfold chunkOf
  split
  · rename_i empty
    rw [empty]
    rfl
  · simp

theorem chunkOf_ne (bytes : List UInt8) : ∀ chunk ∈ chunkOf bytes, chunk ≠ [] := by
  intro chunk mem
  unfold chunkOf at mem
  split at mem
  · cases mem
  · rename_i ne
    rw [List.mem_singleton.1 mem]
    exact ne

/-- Chunks of one zero byte each. -/
def zeroChunks (n : Nat) : List (List UInt8) := List.replicate n [0]

theorem flatten_zeroChunks (n : Nat) : (zeroChunks n).flatten = List.replicate n 0 := by
  induction n with
  | zero => rfl
  | succ n ih =>
    rw [zeroChunks, List.replicate_succ, List.flatten_cons, ← zeroChunks, ih, List.replicate_succ]
    rfl

theorem zeroChunks_ne (n : Nat) : ∀ chunk ∈ zeroChunks n, chunk ≠ [] := by
  intro chunk mem
  rw [List.eq_of_mem_replicate mem]
  exact List.cons_ne_nil _ _

theorem timeout_not_frameError : ¬ IsFrameError .transportTimeoutError := by
  rintro ⟨kind, message, same⟩
  cases same

theorem Passed.limited (passed : Passed maxPayloadWords response bytes) (header : ValidHeader bytes) :
    (declaredWords bytes).toNat ≤ maxPayloadWords := by
  cases passed with
  | nil => exact absurd header.length (by decide)
  | byte other => exact absurd (header.append _) other
  | frame _ fits => exact fits

/-- No prefix of a stream that is passed makes the calls raise the same error for ever. -/
theorem Passed.not_stuck (inTime : InTime turns) (passed : Passed maxPayloadWords response bytes)
    (corrupt : Corrupt bytes response) (fits : response.payload.length ≤ maxPayloadWords)
    {front : List UInt8} (start : front <+: bytes ++ response.encodeBytes) :
    ¬ Stuck turns maxPayloadWords front := by
  rintro ⟨error, first, frameError, stuck⟩
  obtain ⟨back, whole⟩ := start
  obtain ⟨errors, -, read⟩ := passed.items corrupt fits
  obtain ⟨n, hn⟩ : ∃ n, n = errors.length + (first + 1 + 1) := ⟨_, rfl⟩
  have later : ∀ chunk ∈ chunkOf back ++ zeroChunks n, chunk ≠ [] := by
    intro chunk mem
    rcases List.mem_append.1 mem with mem | mem
    · exact chunkOf_ne back chunk mem
    · exact zeroChunks_ne n chunk mem
  have all : ∀ chunk ∈ chunkOf front ++ (chunkOf back ++ zeroChunks n), chunk ≠ [] := by
    intro chunk mem
    rcases List.mem_append.1 mem with mem | mem
    · exact chunkOf_ne front chunk mem
    · exact later chunk mem
  have limited : Calls maxPayloadWords (List.replicate n ⟨1, maxPayloadWords⟩) := by
    intro call mem
    rw [List.eq_of_mem_replicate mem]
    exact ⟨Int.one_pos, rfl⟩
  have enough : (List.replicate n (⟨1, maxPayloadWords⟩ : ReadCall)).length ≤
      (chunkOf back ++ zeroChunks n).length := by
    rw [List.length_replicate, List.length_append, zeroChunks, List.length_replicate]
    omega
  have raised := stuck (chunkOf front) (chunkOf_ne front) (flatten_chunkOf front)
    (chunkOf back ++ zeroChunks n) later _ limited enough (first + errors.length + 1) (by omega)
    (by rw [List.length_replicate]; omega)
  obtain ⟨taken, most, -, result⟩ := readFrames_items inTime limited all
  have stream : (chunkOf front ++ (chunkOf back ++ zeroChunks n)).flatten =
      bytes ++ (response.encodeBytes ++ List.replicate n 0) := by
    rw [List.flatten_append, List.flatten_append, flatten_chunkOf, flatten_chunkOf,
      flatten_zeroChunks, ← List.append_assoc, whole, List.append_assoc]
  have answered := read (first + 1) (List.replicate n 0)
  rw [items_zeros, ← hn] at answered
  rw [List.length_replicate, stream, answered] at most result
  have count : (errors.map .error ++ [.ok response] : List (Except HostError Frame)).length =
      errors.length + 1 := by
    simp
  rw [count] at most
  rw [result, List.getElem?_append_right, List.getElem?_replicate] at raised
  · split at raised
    · have timedOut := Except.error.inj (Option.some.inj raised)
      rw [← timedOut] at frameError
      exact timeout_not_frameError frameError
    · cases raised
  · rw [List.length_take, count]
    omega

/-! ## From the calls to the condition -/

theorem fromHeader_suffix (bytes : List UInt8) : fromHeader bytes <:+ bytes := by
  induction bytes with
  | nil => exact List.suffix_refl _
  | cons byte bytes ih =>
    by_cases header : ValidHeader (byte :: bytes)
    · simp only [fromHeader_of_valid header, List.suffix_refl]
    · rw [fromHeader_of_invalid header]
      exact ih.trans (List.suffix_cons _ _)

/-- A frame that is returned stands somewhere in the stream. -/
theorem mem_items {limits : List Nat} {stream : List UInt8} {frame : Frame}
    (mem : .ok frame ∈ items limits stream) : ∃ i, frame.encodeBytes <+: stream.drop i := by
  induction limits generalizing stream with
  | nil => cases mem
  | cons limit limits ih =>
    obtain ⟨dead, split⟩ := fromHeader_suffix stream
    unfold items at mem
    cases found : firstItem limit stream with
    | none =>
      rw [found] at mem
      cases mem
    | some first =>
      obtain ⟨item, rest⟩ := first
      rw [found] at mem
      by_cases header : ValidHeader (fromHeader stream)
      case neg =>
        rw [firstItem, settle_invalid header] at found
        cases found
      have same : firstItem limit (fromHeader stream) = firstItem limit stream := by
        rw [firstItem, fromHeader_of_valid header, firstItem]
      rw [← same] at found
      generalize fromHeader stream = begun at split header found
      by_cases big : limit < (declaredWords begun).toNat
      · rw [firstItem_big header big] at found
        obtain ⟨rfl, rfl⟩ := Prod.mk.inj (Option.some.inj found)
        rcases List.mem_cons.1 mem with now | later
        · cases now
        · obtain ⟨i, begins⟩ := ih later
          refine ⟨dead.length + i, ?_⟩
          rw [← split, ← List.drop_drop, List.drop_left]
          exact begins
      by_cases part : begun.length < announcedBytes begun
      · rw [firstItem_part header (Nat.not_lt.1 big) part] at found
        cases found
      rw [firstItem_whole header (Nat.not_lt.1 big) (Nat.not_lt.1 part)] at found
      obtain ⟨rfl, rfl⟩ := Prod.mk.inj (Option.some.inj found)
      rcases List.mem_cons.1 mem with now | later
      · refine ⟨dead.length, ?_⟩
        rw [← split, List.drop_left, decodeFrame_begins (Nat.not_lt.1 part) now.symm]
        exact List.take_prefix _ _
      · obtain ⟨i, begins⟩ := ih later
        refine ⟨dead.length + (announcedBytes begun + i), ?_⟩
        rw [← split, ← List.drop_drop, List.drop_left, ← List.drop_drop]
        exact begins

/-- A list that does not start with a zero does not stand behind its own start among zeros. -/
theorem not_prefix_drop {α : Type} {zero x : α} {xs : List α} (ne : x ≠ zero) {n j : Nat}
    (behind : 0 < j) : ¬ (x :: xs) <+: ((x :: xs) ++ List.replicate n zero).drop j := by
  intro start
  have beyond : ∀ i, (x :: xs).length ≤ i → (x :: xs).getD i zero = zero := by
    intro i far
    rw [List.getD_eq_getElem?_getD, List.getElem?_eq_none far, Option.getD_none]
  have padded : ∀ i, (x :: xs ++ List.replicate n zero).getD i zero = (x :: xs).getD i zero := by
    intro i
    by_cases inside : i < (x :: xs).length
    · rw [List.getD_eq_getElem?_getD, List.getElem?_append_left inside, List.getD_eq_getElem?_getD]
    · rw [beyond i (Nat.not_lt.1 inside), List.getD_eq_getElem?_getD,
        List.getElem?_append_right (Nat.not_lt.1 inside), List.getElem?_replicate]
      split <;> rfl
  have shifted : ∀ i, (x :: xs).getD i zero = (x :: xs).getD (j + i) zero := by
    intro i
    by_cases inside : i < (x :: xs).length
    · rw [← padded (j + i), List.getD_eq_getElem?_getD, List.getD_eq_getElem?_getD,
        ← List.getElem?_drop, List.getElem?_eq_getElem inside, start.getElem inside,
        List.getElem?_eq_getElem]
    · rw [beyond i (Nat.not_lt.1 inside), beyond (j + i) (by omega)]
  have far : ∀ k, (x :: xs).getD 0 zero = (x :: xs).getD (j * k) zero := by
    intro k
    induction k with
    | zero => rfl
    | succ k ih => rw [ih, shifted, Nat.mul_succ, Nat.add_comm]
  have same := far (xs.length + 1)
  rw [List.getD_cons_zero, beyond] at same
  · exact ne same
  · rw [List.length_cons]
    exact Nat.le_mul_of_pos_left _ behind

theorem encodeBytes_cons (frame : Frame) : ∃ rest, frame.encodeBytes = 0x5A :: rest := by
  have header := validHeader_encodeBytes frame []
  rw [List.append_nil] at header
  obtain ⟨rest, split⟩ := header.magic
  exact ⟨_, split.symm⟩

/-- What stands behind the start of the response does not return the response. -/
theorem not_mem_items_behind (limits : List Nat) (n : Nat) {j : Nat} (behind : 0 < j) :
    .ok response ∉ items limits ((response.encodeBytes ++ List.replicate n 0).drop j) := by
  intro mem
  obtain ⟨i, begins⟩ := mem_items mem
  obtain ⟨rest, split⟩ := encodeBytes_cons response
  rw [List.drop_drop, split] at begins
  have other : (0x5A : UInt8) ≠ 0 := by decide
  exact not_prefix_drop other (Nat.add_pos_left behind i) begins

/-- A header that announces too much keeps the calls from the response. -/
theorem not_read_stuck {stream : List UInt8} {errors : List HostError} (header : ValidHeader stream)
    (big : maxPayloadWords < (declaredWords stream).toNat) :
    items (List.replicate (errors.length + 1) maxPayloadWords) stream ≠
      errors.map .error ++ [.ok response] := by
  intro read
  rw [items_stuck header big] at read
  have mem : (.ok response : Except HostError Frame) ∈
      List.replicate (errors.length + 1) (.error oversizeError) := by
    rw [read]
    exact List.mem_append_right _ (List.mem_singleton.2 rfl)
  cases List.eq_of_mem_replicate mem

/-- A frame that ends behind the start of the response takes its bytes away. -/
theorem not_read_swallowed (corrupt : Corrupt bytes response) (nonempty : 0 < bytes.length)
    {errors : List HostError} (n : Nat)
    (header : ValidHeader (bytes ++ (response.encodeBytes ++ List.replicate n 0)))
    (fits : (declaredWords (bytes ++ (response.encodeBytes ++ List.replicate n 0))).toNat ≤
      maxPayloadWords)
    (behind : bytes.length <
      announcedBytes (bytes ++ (response.encodeBytes ++ List.replicate n 0))) :
    items (List.replicate (errors.length + 1) maxPayloadWords)
        (bytes ++ (response.encodeBytes ++ List.replicate n 0)) ≠
      errors.map .error ++ [.ok response] := by
  intro read
  rw [List.replicate_succ, items] at read
  generalize size : announcedBytes (bytes ++ (response.encodeBytes ++ List.replicate n 0)) = taken
    at behind
  by_cases whole : taken ≤ (bytes ++ (response.encodeBytes ++ List.replicate n 0)).length
  case neg =>
    rw [firstItem_part header fits (by rw [size]; exact Nat.not_le.1 whole)] at read
    exact absurd read.symm (List.append_ne_nil_of_right_ne_nil _ (List.cons_ne_nil _ _))
  rw [firstItem_whole header fits (by rw [size]; exact whole)] at read
  dsimp only at read
  cases errors with
  | nil =>
    obtain ⟨decoded, -⟩ := List.cons.inj read
    have begins := decodeFrame_begins (by rw [size]; exact whole) decoded
    rw [size] at begins
    have length := congrArg List.length begins
    rw [List.length_take, Nat.min_eq_left whole] at length
    rw [← List.append_assoc, List.take_append_of_le_length (by rw [List.length_append]; omega)]
      at begins
    have start : response.encodeBytes <+: (bytes ++ response.encodeBytes).drop 0 :=
      ⟨_, by rw [List.drop_zero, congrArg (· ++ _) begins, List.take_append_drop]⟩
    exact corrupt 0 nonempty response start
  | cons error errors =>
    obtain ⟨-, rest⟩ := List.cons.inj read
    rw [size, show taken = bytes.length + (taken - bytes.length) by omega, ← List.drop_drop,
      List.drop_left] at rest
    apply not_mem_items_behind (List.replicate (error :: errors).length maxPayloadWords) n
      (show 0 < taken - bytes.length by omega)
    rw [rest]
    exact List.mem_append_right _ (List.mem_singleton.2 rfl)

/-- Calls that come to the response have passed all the bytes before it. -/
theorem passed_of_items (n : Nat) {errors : List HostError} (corrupt : Corrupt bytes response)
    (read : items (List.replicate (errors.length + 1) maxPayloadWords)
      (bytes ++ (response.encodeBytes ++ List.replicate n 0)) =
        errors.map .error ++ [.ok response]) :
    response.payload.length ≤ maxPayloadWords ∧ Passed maxPayloadWords response bytes := by
  induction length : bytes.length using Nat.strongRecOn generalizing bytes errors with
  | ind length' ih =>
    cases bytes with
    | nil =>
      refine ⟨?_, .nil⟩
      apply Nat.le_of_not_lt
      intro big
      rw [← declaredWords_encodeBytes response (List.replicate n 0)] at big
      exact not_read_stuck (validHeader_encodeBytes response _) big read
    | cons byte rest =>
      have nonempty : 0 < (byte :: rest).length := Nat.zero_lt_succ _
      by_cases header : ValidHeader (byte :: rest ++ response.encodeBytes)
      case neg =>
        rw [List.cons_append, items_byte] at read
        · obtain ⟨fits, passed⟩ := ih rest.length (by rw [← length]; exact Nat.lt_succ_self _)
            corrupt.tail read rfl
          exact ⟨fits, .byte header passed⟩
        · rw [← List.cons_append, ← List.append_assoc]
          exact mt (validHeader_of_append (response_behind (byte :: rest) response)) header
      have grown := header.append (List.replicate n 0)
      rw [List.append_assoc] at grown
      by_cases big : maxPayloadWords < (declaredWords (byte :: rest ++
          (response.encodeBytes ++ List.replicate n 0))).toNat
      · exact absurd read (not_read_stuck grown big)
      by_cases behind : (byte :: rest).length < announcedBytes (byte :: rest ++
          (response.encodeBytes ++ List.replicate n 0))
      · exact absurd read (not_read_swallowed corrupt nonempty n grown (Nat.not_lt.1 big) behind)
      -- the frame ends before the response
      have inside := Nat.not_lt.1 behind
      have same := announcedBytes_append header (List.replicate n 0)
      have declared : declaredWords (byte :: rest ++ (response.encodeBytes ++ List.replicate n 0)) =
          declaredWords (byte :: rest ++ response.encodeBytes) := by
        rw [← List.append_assoc, declaredWords, headerWords_append header.length, declaredWords]
      rw [List.append_assoc] at same
      rw [same] at inside
      rw [declared] at big
      obtain ⟨error, -, first⟩ := corrupt.firstItem maxPayloadWords nonempty header
        (Nat.not_lt.1 big) (by rw [List.length_append]; omega)
      generalize taken_eq : announcedBytes (byte :: rest ++ response.encodeBytes) = taken
        at inside first same
      have long : 20 ≤ taken := by
        rw [← taken_eq, announcedBytes]
        omega
      have front : ValidHeader (byte :: rest) :=
        validHeader_of_append (Nat.le_trans long inside) header
      have announced : announcedBytes (byte :: rest) = taken := by
        rw [← taken_eq, announcedBytes_append front]
      rw [List.drop_append_of_le_length inside] at first
      rw [List.replicate_succ, items, first] at read
      dsimp only at read
      cases errors with
      | nil => cases (List.cons.inj read).1
      | cons e errors =>
        obtain ⟨-, later⟩ := List.cons.inj read
        rw [List.append_assoc] at later
        obtain ⟨fits, passed⟩ := ih ((byte :: rest).drop taken).length
          (by rw [← length, List.length_drop]; omega) (corrupt.drop inside) later rfl
        refine ⟨fits, .frame front ?_ (by rw [announced]; exact inside) (by rw [announced]; exact passed)⟩
        rw [← Nat.not_lt]
        rwa [declaredWords, headerWords_append front.length, ← declaredWords] at big

theorem Recovers.passed (inTime : InTime turns) (corrupt : Corrupt bytes response)
    (recovers : Recovers turns maxPayloadWords (bytes ++ response.encodeBytes) response) :
    response.payload.length ≤ maxPayloadWords ∧ Passed maxPayloadWords response bytes := by
  have stream_ne : bytes ++ response.encodeBytes ≠ [] := by
    intro empty
    have long := response_behind bytes response
    rw [empty] at long
    exact absurd long (by decide)
  have nonempty : ∀ chunk ∈ [bytes ++ response.encodeBytes], chunk ≠ [] := by
    intro chunk mem
    rw [List.mem_singleton.1 mem]
    exact stream_ne
  obtain ⟨errors, -, read⟩ := recovers [bytes ++ response.encodeBytes] nonempty (by simp)
  have limited : Calls maxPayloadWords
      (List.replicate (errors.length + 1) ⟨1, maxPayloadWords⟩) := by
    intro call mem
    rw [List.eq_of_mem_replicate mem]
    exact ⟨Int.one_pos, rfl⟩
  have all : ∀ chunk ∈ [bytes ++ response.encodeBytes] ++ zeroChunks (errors.length + 1),
      chunk ≠ [] := by
    intro chunk mem
    rcases List.mem_append.1 mem with mem | mem
    · exact nonempty chunk mem
    · exact zeroChunks_ne _ chunk mem
  have answered := read (zeroChunks (errors.length + 1)) (zeroChunks_ne _)
    (by rw [zeroChunks, List.length_replicate]; omega) _ limited List.length_replicate
  obtain ⟨taken, most, -, result⟩ := readFrames_items inTime limited all
  rw [answered, List.length_replicate] at result
  rw [List.length_replicate] at most
  have stream : ([bytes ++ response.encodeBytes] ++ zeroChunks (errors.length + 1)).flatten =
      bytes ++ (response.encodeBytes ++ List.replicate (errors.length + 1) 0) := by
    rw [List.flatten_append, flatten_zeroChunks, ← List.append_assoc]
    simp
  rw [stream] at most result
  have bound := items_length_le (List.replicate (errors.length + 1) maxPayloadWords)
    (bytes ++ (response.encodeBytes ++ List.replicate (errors.length + 1) 0))
  rw [List.length_replicate] at bound
  have everything : taken = errors.length + 1 := by
    apply Nat.le_antisymm (Nat.le_trans most bound)
    apply Nat.le_of_not_lt
    intro fewer
    -- the last call would have timed out
    have last := congrArg List.getLast? result
    rw [List.getLast?_concat, List.getLast?_append, List.getLast?_replicate,
      if_neg (by omega)] at last
    cases last
  rw [everything] at most result
  rw [List.take_of_length_le bound, Nat.sub_self, List.replicate_zero, List.append_nil] at result
  exact passed_of_items _ corrupt result.symm

/-- The calls come to the response, and no prefix of the stream stops them for ever, exactly when
the response and every header before it announce no more than the limit and no frame before it runs
into it. -/
theorem read_frame_recovers (inTime : InTime turns) (maxPayloadWords : Nat)
    (corrupt : Corrupt bytes response) :
    (Recovers turns maxPayloadWords (bytes ++ response.encodeBytes) response ∧
      ∀ front, front <+: bytes ++ response.encodeBytes → ¬ Stuck turns maxPayloadWords front) ↔
    response.payload.length ≤ maxPayloadWords ∧ Passed maxPayloadWords response bytes := by
  constructor
  · exact fun ⟨recovers, _⟩ => recovers.passed inTime corrupt
  · rintro ⟨fits, passed⟩
    refine ⟨passed.recovers inTime corrupt fits, ?_⟩
    exact fun front start => passed.not_stuck inTime corrupt fits start

end

def pingFrame : Frame := .ofWire (pingResponse 1) ⟨by decide, by decide⟩

/-- Bytes without a magic. -/
theorem corrupt_zero : Corrupt [0] pingFrame := by
  intro i hi frame begins
  obtain rfl : i = 0 := Nat.lt_one_iff.1 hi
  obtain ⟨rest, split⟩ := encodeBytes_cons frame
  obtain ⟨more, whole⟩ := begins
  rw [split] at whole
  exact absurd (List.cons.inj whole).1 (by decide)

theorem read_frame_recovers_zero :
    (Recovers oneMore 16 ([0] ++ pingFrame.encodeBytes) pingFrame ∧
      ∀ front, front <+: [0] ++ pingFrame.encodeBytes → ¬ Stuck oneMore 16 front) ↔
    pingFrame.payload.length ≤ 16 ∧ Passed 16 pingFrame [0] :=
  read_frame_recovers oneMore_inTime 16 corrupt_zero

/-- The header of a frame of 17 payload words. -/
def oversizeHeader : List UInt8 :=
  (WireFrame.bytes ⟨protocolVersion, pktResponse, BootCmd.ping, 1, 0, BootStatus.ok,
    List.replicate 17 0⟩).take 20

theorem validHeader_oversize : ValidHeader oversizeHeader ∧ (declaredWords oversizeHeader).toNat = 17 := by
  decide +kernel

/-- Only its first byte begins a header, and no whole frame. -/
theorem corrupt_oversizeHeader : Corrupt oversizeHeader pingFrame := by
  intro i hi frame begins
  obtain ⟨more, whole⟩ := begins
  have header := validHeader_encodeBytes frame more
  have declared := declaredWords_encodeBytes frame more
  rw [whole] at header declared
  have first : ∀ i < 20, 0 < i → ¬ ValidHeader ((oversizeHeader ++ pingFrame.encodeBytes).drop i) := by
    decide +kernel
  by_cases start : 0 < i
  · exact first i hi start header
  obtain rfl : i = 0 := Nat.eq_zero_of_not_pos start
  obtain ⟨valid, announced⟩ := validHeader_oversize
  rw [List.drop_zero, declaredWords, headerWords_append valid.length, ← declaredWords, announced]
    at declared
  have length := congrArg List.length whole
  have stream : ((oversizeHeader ++ pingFrame.encodeBytes).drop 0).length = 42 := by decide +kernel
  rw [List.length_append, length_encodeBytes, ← declared, stream] at length
  omega

/-- The header that announces 17 words stays in the buffer. -/
theorem read_frame_stuck : ¬ ∀ (maxPayloadWords : Nat) (bytes : List UInt8) (response : Frame),
    Corrupt bytes response →
      Recovers oneMore maxPayloadWords (bytes ++ response.encodeBytes) response ∧
        ∀ front, front <+: bytes ++ response.encodeBytes → ¬ Stuck oneMore maxPayloadWords front := by
  intro all
  obtain ⟨recovers, -⟩ := all 16 oversizeHeader pingFrame corrupt_oversizeHeader
  obtain ⟨-, passed⟩ := recovers.passed oneMore_inTime corrupt_oversizeHeader
  obtain ⟨valid, announced⟩ := validHeader_oversize
  have limited := passed.limited valid
  rw [announced] at limited
  exact absurd limited (by decide)

end HostProtocol

end BootUpgrade

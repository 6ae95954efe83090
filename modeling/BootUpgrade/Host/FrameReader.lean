import BootUpgrade.Host.Frame
import BootUpgrade.Lib.Residue
import BootUpgrade.Lib.Search

/-!
# The frame reader of the host

`FrameReader.read_frame` over any byte transport. What the reader makes of its
buffer depends on the live part of it only: the bytes from the first place on
at which a header can still begin.
-/

namespace BootUpgrade

/-- A transport with its clock: `turns` is the number of times that the reading
loop finds its deadline ahead. -/
structure ByteTransport (τ : Type) where
  writeAll : List UInt8 → τ → Except HostError Unit × τ
  readSome : Nat → τ → Except HostError (List UInt8) × τ
  turns : Int → τ → Nat

namespace HostProtocol

open BootProtocol

/-! ## The loop over the buffer -/

/-- What the inner loop comes to: it needs another chunk, or the call ends. -/
inductive Extracted where
  | more (buffer : List UInt8)
  | ended (result : Except HostError Frame) (buffer : List UInt8)

/-- The inner loop of `read_frame`; a turn that goes on drops a byte. -/
def extractLoop (maxPayloadWords : Nat) : Nat → List UInt8 → Extracted
  | 0, buffer => .more buffer
  | turns + 1, buffer =>
    match Search.find magicBytes buffer with
    | none => .more (if buffer.length > 3 then buffer.drop (buffer.length - 3) else buffer)
    | some start =>
      let buffer := buffer.drop start
      if buffer.length < 20 then .more buffer
      else
        let header := headerWords buffer
        let payloadWords := (header.getD 8 0).toNat
        if crc16CcittFalse (bytesOf (header.take 9)) ≠ (header.getD 9 0).toNat then
          extractLoop maxPayloadWords turns (buffer.drop 1)
        else if payloadWords > maxPayloadWords then
          .ended (.error (.frameError .frameError "response payload exceeds configured maximum"))
            buffer
        else
          let frameSize := (10 + payloadWords + 1) * 2
          if buffer.length < frameSize then .more buffer
          else
            .ended (decodeFrame (ints (wordsOf (buffer.take frameSize))) maxPayloadWords)
              (buffer.drop frameSize)

def extract (maxPayloadWords : Nat) (buffer : List UInt8) : Extracted :=
  extractLoop maxPayloadWords (buffer.length + 1) buffer

/-! ## Reading -/

/-- What `read_frame` leaves. -/
structure FrameRead (τ : Type) where
  result : Except HostError Frame
  buffer : List UInt8
  transport : τ

variable {τ : Type}

def readLoop (t : ByteTransport τ) (maxPayloadWords : Nat) : Nat → List UInt8 → τ → FrameRead τ
  | 0, buffer, s => ⟨.error .transportTimeoutError, buffer, s⟩
  | turns + 1, buffer, s =>
    match t.readSome 4096 s with
    | (.error error, s) => ⟨.error error, buffer, s⟩
    | (.ok [], s) => readLoop t maxPayloadWords turns buffer s
    | (.ok chunk, s) =>
      match extract maxPayloadWords (buffer ++ chunk) with
      | .more buffer => readLoop t maxPayloadWords turns buffer s
      | .ended result buffer => ⟨result, buffer, s⟩

/-- `FrameReader.read_frame`. -/
def readFrame (t : ByteTransport τ) (timeoutMs : Int) (maxPayloadWords : Nat) (buffer : List UInt8)
    (s : τ) : FrameRead τ :=
  if timeoutMs ≤ 0 then ⟨.error (.valueError "timeout_ms must be positive"), buffer, s⟩
  else readLoop t maxPayloadWords (t.turns timeoutMs s) buffer s

/-! ## The live part of the buffer -/

/-- A header can begin here, whatever the next bytes are. -/
def MayBegin (bytes : List UInt8) : Prop := ∃ more, ValidHeader (bytes ++ more)

noncomputable abbrev live (buffer : List UInt8) : List UInt8 := Residue.live MayBegin buffer

theorem mayBegin_append (xs ys : List UInt8) (h : MayBegin (xs ++ ys)) : MayBegin xs := by
  obtain ⟨more, valid⟩ := h
  rw [List.append_assoc] at valid
  exact ⟨ys ++ more, valid⟩

theorem live_append (buffer chunk : List UInt8) : live (live buffer ++ chunk) = live (buffer ++ chunk) :=
  Residue.live_append mayBegin_append buffer chunk

theorem mayBegin_of_valid {bytes : List UInt8} (valid : ValidHeader bytes) : MayBegin bytes :=
  ⟨[], by rwa [List.append_nil]⟩

/-- Four bytes that are not the magic begin nothing. -/
theorem not_mayBegin_of_magic {bytes : List UInt8} (four : 4 ≤ bytes.length)
    (other : ¬ magicBytes <+: bytes) : ¬ MayBegin bytes := by
  rintro ⟨more, valid⟩
  exact other (List.prefix_of_prefix_length_le valid.magic (List.prefix_append _ _) four)

/-- A whole header with a wrong CRC begins nothing. -/
theorem not_mayBegin_of_header {bytes : List UInt8} (length : 20 ≤ bytes.length)
    (invalid : ¬ ValidHeader bytes) : ¬ MayBegin bytes := by
  rintro ⟨more, valid⟩
  have crc := valid.crc
  rw [headerWords_append length] at crc
  have magic := List.prefix_of_prefix_length_le valid.magic (List.prefix_append _ _)
    (Nat.le_trans (show 4 ≤ 20 by decide) length)
  exact invalid ⟨length, magic, crc⟩

/-- How a call ends when the live part of its buffer is `bytes`, if it ends. -/
def settle (maxPayloadWords : Nat) (bytes : List UInt8) :
    Option (Except HostError Frame × List UInt8) :=
  let payloadWords := ((headerWords bytes).getD 8 0).toNat
  let frameSize := (10 + payloadWords + 1) * 2
  if ¬ ValidHeader bytes then none
  else if payloadWords > maxPayloadWords then
    some (.error (.frameError .frameError "response payload exceeds configured maximum"), bytes)
  else if bytes.length < frameSize then none
  else
    some (decodeFrame (ints (wordsOf (bytes.take frameSize))) maxPayloadWords, bytes.drop frameSize)

theorem settle_invalid {maxPayloadWords : Nat} {bytes : List UInt8} (invalid : ¬ ValidHeader bytes) :
    settle maxPayloadWords bytes = none := if_pos invalid

theorem settle_short {maxPayloadWords : Nat} {bytes : List UInt8} (short : bytes.length < 20) :
    settle maxPayloadWords bytes = none := by
  apply settle_invalid
  exact fun valid => absurd valid.length (Nat.not_le.2 short)

/-- What `read_frame` raises for a frame is a `FrameError`, never a timeout. -/
theorem settle_raises {maxPayloadWords : Nat} {bytes rest : List UInt8}
    {result : Except HostError Frame} (settled : settle maxPayloadWords bytes = some (result, rest)) :
    Raises IsFrameError result := by
  unfold settle at settled
  split at settled
  · cases settled
  dsimp only at settled
  split at settled
  · cases settled
    exact .error ⟨_, _, rfl⟩
  split at settled
  · cases settled
  · cases settled
    exact decodeFrame_raises _ _

section
variable {maxPayloadWords turns : Nat} {buffer : List UInt8}

theorem live_of_find {start : Nat} (first : Search.First magicBytes buffer start) :
    live (buffer.drop start) = live buffer := by
  have length := first.lt_length magicBytes_ne
  have four : magicBytes.length = 4 := rfl
  apply Residue.live_drop
  intro i hi _
  apply not_mayBegin_of_magic
  · rw [List.length_drop]
    omega
  · exact first.before i hi

theorem live_of_nowhere (nowhere : ∀ i, ¬ magicBytes <+: buffer.drop i) :
    live (if buffer.length > 3 then buffer.drop (buffer.length - 3) else buffer) = live buffer := by
  split
  · apply Residue.live_drop
    intro i hi _
    apply not_mayBegin_of_magic
    · rw [List.length_drop]
      omega
    · exact nowhere i
  · rfl

/-- The loop does what the live part of the buffer says. -/
theorem extractLoop_live (enough : buffer.length < turns) :
    (settle maxPayloadWords (live buffer) = none ∧
      ∃ rest, extractLoop maxPayloadWords turns buffer = .more rest ∧ live rest = live buffer) ∨
    ∃ result rest, settle maxPayloadWords (live buffer) = some (result, rest) ∧
      extractLoop maxPayloadWords turns buffer = .ended result rest := by
  induction turns generalizing buffer with
  | zero => exact absurd enough (Nat.not_lt_zero _)
  | succ turns ih =>
    unfold extractLoop
    cases found : Search.find magicBytes buffer with
    | none =>
      have nowhere := (Search.find_none magicBytes_ne).1 found
      refine .inl ⟨?_, _, rfl, live_of_nowhere nowhere⟩
      apply settle_invalid
      intro valid
      obtain ⟨dead, split⟩ : live buffer <:+ buffer := Residue.live_suffix buffer
      apply nowhere dead.length
      rw [← split, List.drop_left]
      exact valid.magic
    | some start =>
      have first := (Search.find_some magicBytes_ne).1 found
      have same := live_of_find first
      dsimp only
      by_cases short : (buffer.drop start).length < 20
      · rw [if_pos short]
        refine .inl ⟨?_, _, rfl, same⟩
        rw [← same]
        exact settle_short (Nat.lt_of_le_of_lt (Residue.live_suffix _).length_le short)
      rw [if_neg short, ← same]
      have length : 20 ≤ (buffer.drop start).length := Nat.not_lt.1 short
      rw [crc16CcittFalse_bytesOf]
      by_cases crc : crcWords ((headerWords (buffer.drop start)).take 9) =
          (headerWords (buffer.drop start)).getD 9 0
      · have valid : ValidHeader (buffer.drop start) := ⟨length, first.here, crc⟩
        have alive : live (buffer.drop start) = buffer.drop start :=
          Residue.live_of_begins (mayBegin_of_valid valid)
        rw [if_neg (by rw [crc]; exact not_not_intro rfl), alive]
        simp only [settle, if_neg (not_not_intro valid)]
        by_cases big : ((headerWords (buffer.drop start)).getD 8 0).toNat > maxPayloadWords
        · simp only [if_pos big]
          exact .inr ⟨_, _, rfl, rfl⟩
        simp only [if_neg big]
        by_cases part : (buffer.drop start).length <
            (10 + ((headerWords (buffer.drop start)).getD 8 0).toNat + 1) * 2
        · simp only [if_pos part]
          exact .inl ⟨trivial, _, rfl, alive⟩
        · simp only [if_neg part]
          exact .inr ⟨_, _, rfl, rfl⟩
      · have wrong : (crcWords ((headerWords (buffer.drop start)).take 9)).toNat ≠
            ((headerWords (buffer.drop start)).getD 9 0).toNat := fun same => crc (UInt16.toNat_inj.1 same)
        have dead : ¬ MayBegin (buffer.drop start) :=
          not_mayBegin_of_header length fun valid => crc valid.crc
        have next : live ((buffer.drop start).drop 1) = live (buffer.drop start) := by
          apply Residue.live_drop
          intro i hi _
          obtain rfl : i = 0 := by omega
          exact dead
        rw [if_pos wrong, ← next]
        apply ih
        rw [List.length_drop, List.length_drop] at *
        omega

/-- The inner loop of `read_frame`, by the live part of the buffer. -/
theorem extract_live (maxPayloadWords : Nat) (buffer : List UInt8) :
    (settle maxPayloadWords (live buffer) = none ∧
      ∃ rest, extract maxPayloadWords buffer = .more rest ∧ live rest = live buffer) ∨
    ∃ result rest, settle maxPayloadWords (live buffer) = some (result, rest) ∧
      extract maxPayloadWords buffer = .ended result rest :=
  extractLoop_live (Nat.lt_succ_self _)

theorem extractLoop_suffix {rest : List UInt8}
    (more : extractLoop maxPayloadWords turns buffer = .more rest) : rest <:+ buffer := by
  induction turns generalizing buffer with
  | zero =>
    cases more
    exact ⟨[], rfl⟩
  | succ turns ih =>
    unfold extractLoop at more
    cases found : Search.find magicBytes buffer with
    | none =>
      rw [found] at more
      dsimp only at more
      split at more
      · cases more
        exact List.drop_suffix _ _
      · cases more
        exact ⟨[], rfl⟩
    | some start =>
      rw [found] at more
      dsimp only at more
      split at more
      · cases more
        exact List.drop_suffix _ _
      split at more
      · exact (ih more).trans ((List.drop_suffix _ _).trans (List.drop_suffix _ _))
      split at more
      · cases more
      split at more
      · cases more
        exact List.drop_suffix _ _
      · cases more

/-- A buffer at which a header can begin is settled as it is. -/
theorem extract_begun (maxPayloadWords : Nat) {buffer : List UInt8} (begun : MayBegin buffer) :
    (settle maxPayloadWords buffer = none ∧ extract maxPayloadWords buffer = .more buffer) ∨
    ∃ result rest, settle maxPayloadWords buffer = some (result, rest) ∧
      extract maxPayloadWords buffer = .ended result rest := by
  have alive : live buffer = buffer := Residue.live_of_begins begun
  rcases extract_live maxPayloadWords buffer with
    ⟨settled, rest, more, same⟩ | ⟨result, rest, settled, ended⟩
  · rw [alive] at settled same
    have inside : live rest <:+ rest := Residue.live_suffix rest
    rw [same] at inside
    have whole : rest = buffer :=
      (extractLoop_suffix more).eq_of_length_le inside.length_le
    rw [whole] at more
    exact .inl ⟨settled, more⟩
  · rw [alive] at settled
    exact .inr ⟨result, rest, settled, ended⟩

end

/-- Two buffers with the same live part read the same, whatever the transport
delivers, and are left with the same live part. -/
theorem readLoop_live (t : ByteTransport τ) {maxPayloadWords : Nat} {buffer other : List UInt8}
    (same : live buffer = live other) (turns : Nat) (s : τ) :
    (readLoop t maxPayloadWords turns buffer s).result =
        (readLoop t maxPayloadWords turns other s).result ∧
      (readLoop t maxPayloadWords turns buffer s).transport =
        (readLoop t maxPayloadWords turns other s).transport ∧
      live (readLoop t maxPayloadWords turns buffer s).buffer =
        live (readLoop t maxPayloadWords turns other s).buffer := by
  induction turns generalizing buffer other s with
  | zero => exact ⟨rfl, rfl, same⟩
  | succ turns ih =>
    unfold readLoop
    rcases t.readSome 4096 s with ⟨error | chunk, s'⟩
    · exact ⟨rfl, rfl, same⟩
    cases chunk with
    | nil => exact ih same s'
    | cons byte chunk =>
      have grown : live (buffer ++ byte :: chunk) = live (other ++ byte :: chunk) := by
        rw [← live_append buffer, same, live_append other]
      dsimp only
      rcases extract_live maxPayloadWords (buffer ++ byte :: chunk) with
        ⟨settled, rest, more, alive⟩ | ⟨result, rest, settled, ended⟩
      · rcases extract_live maxPayloadWords (other ++ byte :: chunk) with
          ⟨-, rest', more', alive'⟩ | ⟨result', rest', settled', -⟩
        · rw [more, more']
          exact ih (alive.trans (grown.trans alive'.symm)) s'
        · rw [← grown, settled] at settled'
          cases settled'
      · rcases extract_live maxPayloadWords (other ++ byte :: chunk) with
          ⟨settled', -⟩ | ⟨result', rest', settled', ended'⟩
        · rw [← grown, settled] at settled'
          cases settled'
        · rw [← grown, settled] at settled'
          cases settled'
          rw [ended, ended']
          exact ⟨rfl, rfl, rfl⟩

theorem readFrame_live (t : ByteTransport τ) (timeoutMs : Int) (maxPayloadWords : Nat)
    {buffer other : List UInt8} (same : live buffer = live other) (s : τ) :
    (readFrame t timeoutMs maxPayloadWords buffer s).result =
        (readFrame t timeoutMs maxPayloadWords other s).result ∧
      (readFrame t timeoutMs maxPayloadWords buffer s).transport =
        (readFrame t timeoutMs maxPayloadWords other s).transport ∧
      live (readFrame t timeoutMs maxPayloadWords buffer s).buffer =
        live (readFrame t timeoutMs maxPayloadWords other s).buffer := by
  unfold readFrame
  split
  · exact ⟨rfl, rfl, same⟩
  · exact readLoop_live t same _ s

/-! ## A stream of frames -/

/-- The bytes of a stream of frames that have arrived may begin a header. -/
theorem mayBegin_frames {w : WireFrame} {bytes more : List UInt8} (start : bytes <+: w.bytes ++ more) :
    MayBegin bytes := by
  obtain ⟨rest, split⟩ := start
  exact ⟨rest, by rw [split]; exact validHeader_bytes w more⟩

/-- How the first frame of a stream is settled. -/
theorem settle_frames {w : WireFrame} (fits : w.payload.length ≤ 0xFFFF) {bytes more : List UInt8}
    (start : bytes <+: w.bytes ++ more) (maxPayloadWords : Nat) :
    settle maxPayloadWords bytes =
      if bytes.length < 20 then none
      else if w.payload.length > maxPayloadWords then
        some (.error (.frameError .frameError "response payload exceeds configured maximum"), bytes)
      else if bytes.length < w.bytes.length then none
      else some (decodeFrame (ints w.words) maxPayloadWords, bytes.drop w.bytes.length) := by
  by_cases short : bytes.length < 20
  · rw [if_pos short]
    exact settle_short short
  have length : 20 ≤ bytes.length := Nat.not_lt.1 short
  obtain ⟨rest, split⟩ := start
  have header : headerWords bytes = w.header ++ [crcWords w.header] := by
    rw [← headerWords_append length rest, split, headerWords_bytes]
  have valid : ValidHeader bytes := by
    have whole := validHeader_bytes w more
    rw [← split] at whole
    have taken := whole.take length
    rwa [List.take_left] at taken
  have declared : ((headerWords bytes).getD 8 0).toNat = w.payload.length := by
    rw [header]
    exact UInt16.toNat_ofNat_of_lt' (by rw [UInt16.size]; omega)
  have size : (10 + w.payload.length + 1) * 2 = w.bytes.length := by
    rw [w.length_bytes]
    omega
  unfold settle
  rw [if_neg short, if_neg (not_not_intro valid)]
  simp only [declared, size]
  by_cases big : w.payload.length > maxPayloadWords
  · rw [if_pos big, if_pos big]
  rw [if_neg big, if_neg big]
  by_cases part : bytes.length < w.bytes.length
  · rw [if_pos part, if_pos part]
  rw [if_neg part, if_neg part]
  have frame : bytes.take w.bytes.length = w.bytes := by
    have whole := congrArg (List.take w.bytes.length) split
    rwa [List.take_left, List.take_append_of_le_length (Nat.not_lt.1 part)] at whole
  rw [frame, WireFrame.bytes, Words.wordsOf_bytesOf]

end HostProtocol

end BootUpgrade

import BootUpgrade.Common.Wire
import BootUpgrade.Host.Firmware
import BootUpgrade.Lib.Raises

/-!
# The frames of the host

`protocol/crc.py` and `protocol/frame.py`. Integers that the source checks are
`Int` until they have been checked.
-/

namespace BootUpgrade

namespace HostProtocol

/-! ## The CRC -/

/-- The body of the inner loop of `crc16_ccitt_false`. -/
def crcShift (crc : Nat) : Nat :=
  if crc &&& 0x8000 ≠ 0 then ((crc <<< 1) ^^^ 0x1021) &&& 0xFFFF else (crc <<< 1) &&& 0xFFFF

def crcShifts : Nat → Nat → Nat
  | 0, crc => crc
  | n + 1, crc => crcShifts n (crcShift crc)

/-- `crc16_ccitt_false`. -/
def crc16CcittFalse (data : List UInt8) : Nat :=
  data.foldl (fun crc byte => crcShifts 8 (crc ^^^ (byte.toNat <<< 8))) 0xFFFF

/-- `words_to_little_endian_bytes`. -/
def wordsToLittleEndianBytes : List Int → Except HostError (List UInt8)
  | [] => .ok []
  | word :: rest =>
    if word < 0 ∨ word > 0xFFFF then .error (.valueError s!"word does not fit uint16: {word}")
    else do
      let bytes ← wordsToLittleEndianBytes rest
      return UInt8.ofNat (word.toNat &&& 0xFF) :: UInt8.ofNat (word.toNat >>> 8) :: bytes

/-- `crc16_words`. -/
def crc16Words (words : List Int) : Except HostError Nat := do
  return crc16CcittFalse (← wordsToLittleEndianBytes words)

/-- Words as the integers of the source. -/
def ints (words : List UInt16) : List Int := words.map fun word => (word.toNat : Int)

/-! ## Frames -/

/-- `Frame`. -/
structure Frame where
  packetType : UInt16
  command : UInt16
  sequence : UInt16
  payload : List UInt16
  flags : UInt16
  status : UInt16
  protocolVersion : UInt16
  sequence_ne : sequence ≠ 0
  payload_le : payload.length ≤ 0xFFFF

/-- `_word`. -/
def checkWord (value : Int) (field : String) : Except HostError UInt16 :=
  if value < 0 ∨ value > 0xFFFF then .error (.valueError (field ++ " must fit uint16"))
  else .ok (UInt16.ofNat value.toNat)

/-- The checks of the payload words. -/
def checkPayload : (payload : List Int) →
    Except HostError {words : List UInt16 // words.length = payload.length}
  | [] => .ok ⟨[], rfl⟩
  | value :: rest => do
    let word ← checkWord value "payload word"
    let words ← checkPayload rest
    return ⟨word :: words.1, congrArg (· + 1) words.2⟩

/-- `Frame.__init__`. -/
def Frame.create (packetType command sequence : Int) (payload : List Int)
    (flags status protocolVersion : Int) : Except HostError Frame := do
  let packetType ← checkWord packetType "packet_type"
  let command ← checkWord command "command"
  let sequence ← checkWord sequence "sequence"
  let flags ← checkWord flags "flags"
  let status ← checkWord status "status"
  let protocolVersion ← checkWord protocolVersion "protocol_version"
  if sequence_ne : sequence = 0 then .error (.valueError "sequence 0 is reserved")
  else if payload_le : payload.length > 0xFFFF then
    .error (.valueError "payload is too large for frame header")
  else do
    let words ← checkPayload payload
    return {
      packetType, command, sequence, flags, status, protocolVersion
      payload := words.1
      sequence_ne
      payload_le := Nat.le_trans (Nat.le_of_eq words.2) (Nat.not_lt.1 payload_le) }

/-- `Frame.encode_words`. -/
def Frame.encodeWords (frame : Frame) : List UInt16 :=
  let headerWithoutCrc := [BootProtocol.magic0, BootProtocol.magic1, frame.protocolVersion,
    frame.packetType, frame.command, frame.sequence, frame.flags, frame.status,
    UInt16.ofNat frame.payload.length]
  headerWithoutCrc ++ [UInt16.ofNat (crc16CcittFalse (bytesOf headerWithoutCrc))] ++
    frame.payload ++ [UInt16.ofNat (crc16CcittFalse (bytesOf frame.payload))]

/-- `Frame.encode_bytes`. -/
def Frame.encodeBytes (frame : Frame) : List UInt8 := bytesOf frame.encodeWords

/-- `decode_frame`. -/
def decodeFrame (values : List Int) (maxPayloadWords : Int) : Except HostError Frame :=
  if values.length < 11 then
    .error (.frameError .frameLengthError "frame is shorter than header plus payload CRC")
  else if values.take 2 ≠ ints [BootProtocol.magic0, BootProtocol.magic1] then
    .error (.frameError .frameError "bad frame magic")
  else do
    let headerCrc ← crc16Words (values.take 9)
    if (headerCrc : Int) ≠ values.getD 9 0 then
      .error (.frameError .headerCrcError "header CRC mismatch")
    else
      let payloadWords := values.getD 8 0
      if payloadWords > maxPayloadWords then
        .error (.frameError .frameLengthError "payload exceeds configured maximum")
      else
        let count := values.length
        let expectedWords := 10 + payloadWords + 1
        if (count : Int) ≠ expectedWords then
          .error (.frameError .frameLengthError
            s!"frame has {count} words; expected {expectedWords}")
        else
          let payload := (values.drop 10).dropLast
          let payloadCrc ← crc16Words payload
          if (payloadCrc : Int) ≠ values.getLastD 0 then
            .error (.frameError .payloadCrcError "payload CRC mismatch")
          else
            match Frame.create (values.getD 3 0) (values.getD 4 0) (values.getD 5 0) payload
              (values.getD 6 0) (values.getD 7 0) (values.getD 2 0) with
            | .error (.valueError message) => .error (.frameError .frameError message)
            | result => result

/-! ## The two CRCs agree -/

theorem toNat_crcBit (crc : UInt16) : (BootProtocol.crcBit crc).toNat = crcShift crc.toNat := by
  have mask (value : Nat) : value &&& 0xFFFF = value % 65536 :=
    Nat.and_two_pow_sub_one_eq_mod value 16
  have shift : (crc <<< 1).toNat = (crc.toNat <<< 1) % 65536 := by
    simp [UInt16.toNat_shiftLeft]
  have top : crc &&& 0x8000 ≠ 0 ↔ crc.toNat &&& 0x8000 ≠ 0 := by
    rw [ne_eq, ← UInt16.toNat_inj, UInt16.toNat_and]
    rfl
  unfold BootProtocol.crcBit crcShift
  by_cases set : crc &&& 0x8000 ≠ 0
  · rw [if_pos set, if_pos (top.1 set), UInt16.toNat_xor, shift, mask]
    exact (Nat.xor_mod_two_pow (a := crc.toNat <<< 1) (b := 0x1021) (n := 16)).symm
  · rw [if_neg set, if_neg (mt top.2 set), shift, mask]

theorem toNat_crcBits (n : Nat) (crc : UInt16) :
    (BootProtocol.crcBits n crc).toNat = crcShifts n crc.toNat := by
  induction n generalizing crc with
  | zero => rfl
  | succ n ih => rw [BootProtocol.crcBits, ih, toNat_crcBit, crcShifts]

theorem toNat_crcByte (crc : UInt16) {byteValue : UInt16} {byte : UInt8}
    (same : byteValue.toNat % 256 = byte.toNat) :
    (BootProtocol.crcByte crc byteValue).toNat = crcShifts 8 (crc.toNat ^^^ (byte.toNat <<< 8)) := by
  have mask := Nat.and_two_pow_sub_one_eq_mod byteValue.toNat 8
  have bound := byte.toNat_lt
  have shifted : ((byteValue &&& 0x00FF) <<< 8).toNat = byte.toNat <<< 8 := by
    simp only [Nat.reducePow, Nat.add_one_sub_one] at mask
    simp [UInt16.toNat_shiftLeft, mask, same, Nat.shiftLeft_eq]
    omega
  rw [BootProtocol.crcByte, toNat_crcBits, UInt16.toNat_xor, shifted]

theorem toNat_crcWord (crc word : UInt16) : (BootProtocol.crcWord crc word).toNat =
    [lowByte word, highByte word].foldl
      (fun crc byte => crcShifts 8 (crc ^^^ (byte.toNat <<< 8))) crc.toNat := by
  have mask := Nat.and_two_pow_sub_one_eq_mod word.toNat 8
  have bound := word.toNat_lt
  have low : (word &&& 0x00FF).toNat % 256 = (lowByte word).toNat := by
    simp only [Nat.reducePow, Nat.add_one_sub_one] at mask
    rw [Words.toNat_lowByte]
    simp [mask]
  have high : (word >>> 8).toNat % 256 = (highByte word).toNat := by
    rw [Words.toNat_highByte]
    simp [Nat.shiftRight_eq_div_pow]
    omega
  rw [BootProtocol.crcWord, toNat_crcByte _ high, toNat_crcByte _ low]
  rfl

theorem crc16CcittFalse_bytesOf (words : List UInt16) :
    crc16CcittFalse (bytesOf words) = (BootProtocol.crcWords words).toNat := by
  have fold (crc : UInt16) : (bytesOf words).foldl
      (fun crc byte => crcShifts 8 (crc ^^^ (byte.toNat <<< 8))) crc.toNat =
        (words.foldl BootProtocol.crcWord crc).toNat := by
    induction words generalizing crc with
    | nil => rfl
    | cons word rest ih =>
      have step := toNat_crcWord crc word
      simp only [List.foldl_cons, List.foldl_nil] at step
      simp only [bytesOf, List.foldl_cons]
      rw [← step]
      exact ih _
  exact fold 0xFFFF

theorem ofNat_crc16CcittFalse (words : List UInt16) :
    UInt16.ofNat (crc16CcittFalse (bytesOf words)) = BootProtocol.crcWords words := by
  rw [crc16CcittFalse_bytesOf, UInt16.ofNat_toNat]

/-! ## Checked words -/

theorem ints_inj {xs ys : List UInt16} (h : ints xs = ints ys) : xs = ys := by
  apply (List.map_inj_right fun x y same => ?_).1 h
  exact UInt16.toNat_inj.1 (Int.ofNat_inj.1 same)

theorem ints_append (xs ys : List UInt16) : ints (xs ++ ys) = ints xs ++ ints ys :=
  List.map_append

@[simp] theorem length_ints (words : List UInt16) : (ints words).length = words.length :=
  List.length_map _

theorem checkWord_int (word : UInt16) (field : String) :
    checkWord (word.toNat : Int) field = .ok word := by
  have := word.toNat_lt
  rw [checkWord, if_neg (by omega), Int.toNat_natCast, UInt16.ofNat_toNat]

theorem wordsToLittleEndianBytes_ints (words : List UInt16) :
    wordsToLittleEndianBytes (ints words) = .ok (bytesOf words) := by
  induction words with
  | nil => rfl
  | cons word rest ih =>
    have bound := word.toNat_lt
    have mask := Nat.and_two_pow_sub_one_eq_mod word.toNat 8
    simp only [Nat.reducePow, Nat.add_one_sub_one] at mask
    have low : UInt8.ofNat (word.toNat &&& 0xFF) = lowByte word := by
      apply UInt8.toNat_inj.1
      rw [Words.toNat_lowByte, mask]
      simp
    have high : UInt8.ofNat (word.toNat >>> 8) = highByte word := by
      apply UInt8.toNat_inj.1
      rw [Words.toNat_highByte, Nat.shiftRight_eq_div_pow]
      simp
      omega
    show wordsToLittleEndianBytes ((word.toNat : Int) :: ints rest) = _
    rw [wordsToLittleEndianBytes, if_neg (by omega), ih, Int.toNat_natCast, low, high]
    rfl

/-- Only integers that fit uint16 have bytes. -/
theorem wordsToLittleEndianBytes_ok {values : List Int} {bytes : List UInt8}
    (h : wordsToLittleEndianBytes values = .ok bytes) : ∃ words, values = ints words := by
  induction values generalizing bytes with
  | nil => exact ⟨[], rfl⟩
  | cons value rest ih =>
    rw [wordsToLittleEndianBytes] at h
    split at h
    · cases h
    rename_i fits
    cases restBytes : wordsToLittleEndianBytes rest with
    | error error =>
      rw [restBytes] at h
      cases h
    | ok bytes' =>
      obtain ⟨words, rfl⟩ := ih restBytes
      refine ⟨UInt16.ofNat value.toNat :: words, ?_⟩
      have small : (UInt16.ofNat value.toNat).toNat = value.toNat :=
        UInt16.toNat_ofNat_of_lt' (by rw [UInt16.size]; omega)
      show value :: ints words = ((UInt16.ofNat value.toNat).toNat : Int) :: ints words
      rw [small, Int.toNat_of_nonneg (by omega)]

theorem crc16Words_ints (words : List UInt16) :
    crc16Words (ints words) = .ok (BootProtocol.crcWords words).toNat := by
  rw [crc16Words, wordsToLittleEndianBytes_ints, ← crc16CcittFalse_bytesOf]
  rfl

theorem crc16Words_ok {values : List Int} {crc : Nat} (h : crc16Words values = .ok crc) :
    ∃ words, values = ints words ∧ crc = (BootProtocol.crcWords words).toNat := by
  cases bytes : wordsToLittleEndianBytes values with
  | error error =>
    rw [crc16Words, bytes] at h
    cases h
  | ok bytes =>
    obtain ⟨words, rfl⟩ := wordsToLittleEndianBytes_ok bytes
    rw [crc16Words_ints] at h
    cases h
    exact ⟨words, rfl, rfl⟩

theorem checkPayload_ints (words : List UInt16) :
    ∃ checked, checkPayload (ints words) = .ok checked ∧ checked.1 = words := by
  induction words with
  | nil => exact ⟨_, rfl, rfl⟩
  | cons word rest ih =>
    obtain ⟨checked, ok, same⟩ := ih
    have split : checkPayload (ints (word :: rest)) = do
        let word ← checkWord (word.toNat : Int) "payload word"
        let words ← checkPayload (ints rest)
        return ⟨word :: words.1, congrArg (· + 1) words.2⟩ := rfl
    rw [split, checkWord_int, ok]
    exact ⟨_, rfl, congrArg (word :: ·) same⟩

theorem checkWord_ok {value : Int} {field : String} {word : UInt16}
    (checked : checkWord value field = .ok word) : (word.toNat : Int) = value := by
  unfold checkWord at checked
  split at checked
  · cases checked
  · rename_i fits
    cases checked
    have bound : value.toNat < UInt16.size := by
      rw [UInt16.size]
      omega
    rw [UInt16.toNat_ofNat_of_lt' bound]
    omega

theorem checkPayload_ok {payload : List Int}
    {words : {words : List UInt16 // words.length = payload.length}}
    (checked : checkPayload payload = .ok words) : ints words.1 = payload := by
  induction payload with
  | nil =>
    cases checked
    rfl
  | cons value rest ih =>
    unfold checkPayload at checked
    cases first : checkWord value "payload word" with
    | error e =>
      rw [first] at checked
      cases checked
    | ok word =>
      cases others : checkPayload rest with
      | error e =>
        rw [first, others] at checked
        cases checked
      | ok inner =>
        rw [first, others] at checked
        cases checked
        show (word.toNat : Int) :: ints inner.1 = _
        rw [checkWord_ok first, ih others]

/-! ## Encoding and decoding -/

namespace Frame

def toWire (frame : Frame) : WireFrame where
  protocolVer := frame.protocolVersion
  packetType := frame.packetType
  command := frame.command
  sequence := frame.sequence
  flags := frame.flags
  status := frame.status
  payload := frame.payload

theorem toWire_inj {frame other : Frame} (same : frame.toWire = other.toWire) : frame = other := by
  cases frame
  cases other
  cases same
  rfl

/-- The host refuses sequence 0 and payloads that do not fit the header. -/
structure Admitted (w : WireFrame) : Prop where
  sequence : w.sequence ≠ 0
  payload : w.payload.length ≤ 0xFFFF

def ofWire (w : WireFrame) (admitted : Admitted w) : Frame where
  packetType := w.packetType
  command := w.command
  sequence := w.sequence
  payload := w.payload
  flags := w.flags
  status := w.status
  protocolVersion := w.protocolVer
  sequence_ne := admitted.sequence
  payload_le := admitted.payload

theorem admitted (frame : Frame) : Admitted frame.toWire := ⟨frame.sequence_ne, frame.payload_le⟩

theorem encodeWords_eq (frame : Frame) : frame.encodeWords = frame.toWire.words := by
  rw [encodeWords, ofNat_crc16CcittFalse, ofNat_crc16CcittFalse]
  rfl

theorem encodeBytes_eq (frame : Frame) : frame.encodeBytes = frame.toWire.bytes := by
  rw [encodeBytes, encodeWords_eq]
  rfl

theorem create_ints (w : WireFrame) (admitted : Admitted w) :
    create (w.packetType.toNat : Int) (w.command.toNat : Int) (w.sequence.toNat : Int)
      (ints w.payload) (w.flags.toNat : Int) (w.status.toNat : Int) (w.protocolVer.toNat : Int) =
        .ok (ofWire w admitted) := by
  obtain ⟨⟨words, length⟩, ok, same⟩ := checkPayload_ints w.payload
  have fits : ¬ (ints w.payload).length > 0xFFFF := by
    rw [length_ints]
    exact Nat.not_lt.2 admitted.payload
  obtain rfl : words = w.payload := same
  unfold create
  simp only [checkWord_int, bind, Except.bind, dif_neg admitted.sequence, dif_neg fits, ok]
  rfl

theorem create_ok {w : WireFrame} {frame : Frame}
    (created : create (w.packetType.toNat : Int) (w.command.toNat : Int) (w.sequence.toNat : Int)
      (ints w.payload) (w.flags.toNat : Int) (w.status.toNat : Int) (w.protocolVer.toNat : Int) =
        .ok frame) : frame.toWire = w := by
  by_cases admitted : Admitted w
  · rw [create_ints w admitted] at created
    cases created
    rfl
  · unfold create at created
    simp only [checkWord_int, bind, Except.bind] at created
    split at created
    · cases created
    rename_i sequence
    split at created
    · cases created
    rename_i fits
    rw [length_ints] at fits
    exact absurd ⟨sequence, Nat.not_lt.1 fits⟩ admitted

theorem create_fields {packetType command sequence flags status version : UInt16}
    {payload : List Int} {frame : Frame}
    (created : create packetType.toNat command.toNat sequence.toNat payload flags.toNat status.toNat
      version.toNat = .ok frame) :
    frame.packetType = packetType ∧ frame.command = command ∧ frame.sequence = sequence ∧
      ints frame.payload = payload := by
  unfold create at created
  simp only [checkWord_int, bind, Except.bind] at created
  split at created
  · cases created
  split at created
  · cases created
  cases checked : checkPayload payload with
  | error e =>
    rw [checked] at created
    cases created
  | ok words =>
    rw [checked] at created
    cases created
    exact ⟨rfl, rfl, rfl, checkPayload_ok checked⟩
end Frame

theorem decodeFrame_crcs (w : WireFrame) (admitted : Frame.Admitted w) {maxPayloadWords : Int}
    (fits : (w.payload.length : Int) ≤ maxPayloadWords) {headerCrc payloadCrc : UInt16}
    (header : crc16Words (ints w.header) = .ok headerCrc.toNat)
    (payload : crc16Words (ints w.payload) = .ok payloadCrc.toNat) :
    decodeFrame (ints (w.header ++ [headerCrc] ++ w.payload ++ [payloadCrc])) maxPayloadWords =
      .ok (Frame.ofWire w admitted) := by
  have declared : (UInt16.ofNat w.payload.length).toNat = w.payload.length :=
    UInt16.toNat_ofNat_of_lt' (by have := admitted.payload; rw [UInt16.size]; omega)
  have split : ints (w.header ++ [headerCrc] ++ w.payload ++ [payloadCrc]) =
      ints w.header ++ (headerCrc.toNat : Int) :: (ints w.payload ++ [(payloadCrc.toNat : Int)]) := by
    rw [ints_append, ints_append, ints_append, List.append_assoc, List.append_assoc]
    rfl
  rw [split]
  generalize hv : ints w.header ++ (headerCrc.toNat : Int) ::
    (ints w.payload ++ [(payloadCrc.toNat : Int)]) = values
  have length : values.length = 11 + w.payload.length := by
    rw [← hv, List.length_append, List.length_cons, List.length_append, length_ints, length_ints]
    simp only [WireFrame.header, WireFrame.fields, List.length_cons, List.length_nil]
    omega
  have start : values.take 2 = ints [BootProtocol.magic0, BootProtocol.magic1] := by
    rw [← hv]
    rfl
  have front : values.take 9 = ints w.header := by
    rw [← hv]
    rfl
  have crc : values.getD 9 0 = (headerCrc.toNat : Int) := by
    rw [← hv]
    rfl
  have words : values.getD 8 0 = (w.payload.length : Int) := by
    rw [← hv, ← declared]
    rfl
  have inner : (values.drop 10).dropLast = ints w.payload := by
    rw [← hv]
    exact List.dropLast_concat
  have last : values.getLastD 0 = (payloadCrc.toNat : Int) := by
    rw [← hv, ← List.cons_append, ← List.append_assoc, List.getLastD_eq_getLast?,
      List.getLast?_concat]
    rfl
  have created : Frame.create (values.getD 3 0) (values.getD 4 0) (values.getD 5 0)
      (ints w.payload) (values.getD 6 0) (values.getD 7 0) (values.getD 2 0) =
        .ok (Frame.ofWire w admitted) := by
    rw [← hv]
    exact Frame.create_ints w admitted
  unfold decodeFrame
  rw [if_neg (by omega), if_neg (not_not_intro start), front, header]
  simp only [bind, Except.bind, crc, words, inner, payload, last, created, ne_eq, not_true_eq_false,
    if_false, length]
  rw [if_neg (by omega), if_neg (by omega)]

/-- A frame of the wire format is decoded unless it says what the host refuses. -/
theorem decodeFrame_words (w : WireFrame) (admitted : Frame.Admitted w) {maxPayloadWords : Int}
    (fits : (w.payload.length : Int) ≤ maxPayloadWords) :
    decodeFrame (ints w.words) maxPayloadWords = .ok (Frame.ofWire w admitted) :=
  decodeFrame_crcs w admitted fits (crc16Words_ints _) (crc16Words_ints _)

theorem values_eq {values : List Int} {header payload : List UInt16} {headerCrc payloadCrc : UInt16}
    (long : 11 ≤ values.length) (front : values.take 9 = ints header)
    (crc : (headerCrc.toNat : Int) = values.getD 9 0)
    (inner : (values.drop 10).dropLast = ints payload)
    (last : (payloadCrc.toNat : Int) = values.getLastD 0) :
    values = ints (header ++ [headerCrc] ++ payload ++ [payloadCrc]) := by
  have ten : 9 < values.length := by omega
  have ne : values.drop 10 ≠ [] := by
    rw [ne_eq, List.drop_eq_nil_iff]
    omega
  have lastWord : (values.drop 10).getLast ne = (payloadCrc.toNat : Int) := by
    rw [List.getLast_drop, last, List.getLastD_eq_getLast?, List.getLast?_eq_some_getLast]
    rfl
  have ninth : values[9] = (headerCrc.toNat : Int) := by
    rw [crc, List.getD_eq_getElem?_getD, List.getElem?_eq_getElem ten, Option.getD_some]
  calc values = values.take 9 ++ values[9] :: values.drop 10 := by
        rw [← List.drop_eq_getElem_cons ten, List.take_append_drop]
    _ = ints header ++ (headerCrc.toNat : Int) :: (ints payload ++ [(payloadCrc.toNat : Int)]) := by
        rw [front, ninth, ← inner, ← lastWord, List.dropLast_concat_getLast]
    _ = ints (header ++ [headerCrc] ++ payload ++ [payloadCrc]) := by
        rw [ints_append, ints_append, ints_append, List.append_assoc, List.append_assoc]
        rfl

/-- What is decoded is the encoding of the frame. -/
theorem decodeFrame_ok {values : List Int} {maxPayloadWords : Int} {frame : Frame}
    (decoded : decodeFrame values maxPayloadWords = .ok frame) :
    values = ints frame.encodeWords := by
  unfold decodeFrame at decoded
  split at decoded
  · cases decoded
  rename_i long
  split at decoded
  · cases decoded
  rename_i magic
  rw [Decidable.not_not] at magic
  cases header : crc16Words (values.take 9) with
  | error error =>
    rw [header] at decoded
    cases decoded
  | ok headerCrc =>
    rw [header] at decoded
    simp only [bind, Except.bind] at decoded
    split at decoded
    · cases decoded
    rename_i headerMatches
    rw [Decidable.not_not] at headerMatches
    split at decoded
    · cases decoded
    split at decoded
    · cases decoded
    rename_i count
    rw [Decidable.not_not] at count
    cases payload : crc16Words (values.drop 10).dropLast with
    | error error =>
      rw [payload] at decoded
      cases decoded
    | ok payloadCrc =>
      rw [payload] at decoded
      dsimp only at decoded
      split at decoded
      · cases decoded
      rename_i payloadMatches
      rw [Decidable.not_not] at payloadMatches
      obtain ⟨headerWords, front, rfl⟩ := crc16Words_ok header
      obtain ⟨words, inner, rfl⟩ := crc16Words_ok payload
      have split := values_eq (Nat.not_lt.1 long) front headerMatches inner payloadMatches
      have nine : headerWords.length = 9 := by
        rw [← length_ints, ← front, List.length_take]
        omega
      have magic : (values.take 9).take 2 = ints [BootProtocol.magic0, BootProtocol.magic1] := by
        rw [List.take_take]
        exact magic
      rw [front] at magic
      obtain ⟨a, b, c, d, e, f, g, rfl⟩ : ∃ a b c d e f g, headerWords =
          [BootProtocol.magic0, BootProtocol.magic1, a, b, c, d, e, f, g] := by
        match headerWords, nine with
        | [x, y, a, b, c, d, e, f, g], _ =>
          have same := ints_inj (show ints [x, y] = _ from magic)
          cases same
          exact ⟨a, b, c, d, e, f, g, rfl⟩
      have fields : values.getD 2 0 = (a.toNat : Int) ∧ values.getD 3 0 = (b.toNat : Int) ∧
          values.getD 4 0 = (c.toNat : Int) ∧ values.getD 5 0 = (d.toNat : Int) ∧
          values.getD 6 0 = (e.toNat : Int) ∧ values.getD 7 0 = (f.toNat : Int) ∧
          values.getD 8 0 = (g.toNat : Int) := by
        rw [split]
        exact ⟨rfl, rfl, rfl, rfl, rfl, rfl, rfl⟩
      obtain ⟨ver, type, command, sequence, flags, status, declared⟩ := fields
      have length : values.length = 11 + words.length := by
        rw [split, length_ints]
        simp only [List.length_append, List.length_cons, List.length_nil]
        omega
      have counted : g = UInt16.ofNat words.length := by
        rw [show words.length = g.toNat by omega, UInt16.ofNat_toNat]
      rw [inner, ver, type, command, sequence, flags, status] at decoded
      have created : (⟨a, b, c, d, e, f, words⟩ : WireFrame) = frame.toWire := by
        split at decoded
        · cases decoded
        · exact (Frame.create_ok decoded).symm
      rw [Frame.encodeWords_eq, ← created, split, counted]
      rfl

/-! ## What decoding raises -/

/-- `ValueError`. -/
def IsValueError (error : HostError) : Prop := ∃ message, error = .valueError message

/-- `FrameError` or one of its subclasses. -/
def IsFrameError (error : HostError) : Prop := ∃ kind message, error = .frameError kind message

theorem checkWord_raises (value : Int) (field : String) :
    Raises IsValueError (checkWord value field) := by
  unfold checkWord
  split
  · exact .error ⟨_, rfl⟩
  · exact .ok _

theorem checkPayload_raises (payload : List Int) : Raises IsValueError (checkPayload payload) := by
  induction payload with
  | nil => exact .ok _
  | cons value rest ih =>
    apply Raises.bind (checkWord_raises _ _)
    intro word
    apply Raises.bind ih
    intro words
    exact .ok _

theorem Frame.create_raises (packetType command sequence : Int) (payload : List Int)
    (flags status version : Int) :
    Raises IsValueError (create packetType command sequence payload flags status version) := by
  apply Raises.bind (checkWord_raises _ _)
  intro packetType
  apply Raises.bind (checkWord_raises _ _)
  intro command
  apply Raises.bind (checkWord_raises _ _)
  intro sequence
  apply Raises.bind (checkWord_raises _ _)
  intro flags
  apply Raises.bind (checkWord_raises _ _)
  intro status
  apply Raises.bind (checkWord_raises _ _)
  intro version
  split
  · exact .error ⟨_, rfl⟩
  split
  · exact .error ⟨_, rfl⟩
  apply Raises.bind (checkPayload_raises _)
  intro words
  exact .ok _

theorem crc16Words_raises {P : HostError → Prop} {values : List Int} {words : List UInt16}
    (same : ints words = values) : Raises P (crc16Words values) := by
  rw [← same, crc16Words_ints]
  exact .ok _

theorem ints_take (words : List UInt16) (n : Nat) : ints (words.take n) = (ints words).take n := by
  rw [ints, ints, List.map_take]

theorem ints_inner (words : List UInt16) (n : Nat) :
    ints (words.drop n).dropLast = ((ints words).drop n).dropLast := by
  rw [ints, ints, List.map_dropLast, List.map_drop]

/-- What `decode_frame` raises for words that were read is a `FrameError`. -/
theorem decodeFrame_raises (words : List UInt16) (maxPayloadWords : Int) :
    Raises IsFrameError (decodeFrame (ints words) maxPayloadWords) := by
  unfold decodeFrame
  split
  · exact .error ⟨_, _, rfl⟩
  split
  · exact .error ⟨_, _, rfl⟩
  refine Raises.bind (crc16Words_raises (ints_take words 9)) ?_
  intro headerCrc
  dsimp only
  split
  · exact .error ⟨_, _, rfl⟩
  split
  · exact .error ⟨_, _, rfl⟩
  split
  · exact .error ⟨_, _, rfl⟩
  refine Raises.bind (crc16Words_raises (ints_inner words 10)) ?_
  intro payloadCrc
  split
  · exact .error ⟨_, _, rfl⟩
  split
  · exact .error ⟨_, _, rfl⟩
  · rename_i result other
    intro error raised
    rw [raised] at other
    obtain ⟨message, rfl⟩ := Frame.create_raises _ _ _ _ _ _ _ error raised
    exact absurd rfl (other message)
end HostProtocol

end BootUpgrade

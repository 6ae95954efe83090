import BootUpgrade.Common.Crc16
import BootUpgrade.Common.Protocol
import BootUpgrade.Lib.LittleEndian

/-!
# Frames on the wire

Nine header words and their CRC, the payload and its CRC, all little-endian.
Both sides build and take apart this format with code of their own.
-/

namespace BootUpgrade

export Words (joinBytes lowByte highByte bytesOf wordsOf)

namespace BootProtocol

def magic0 : UInt16 := 0xA55A
def magic1 : UInt16 := 0x5AA5

/-- The two magic words as they are sent. -/
def magicBytes : List UInt8 := [0x5A, 0xA5, 0xA5, 0x5A]

theorem magicBytes_ne : magicBytes ≠ [] := by decide

theorem bytesOf_magic (rest : List UInt16) :
    bytesOf (magic0 :: magic1 :: rest) = magicBytes ++ bytesOf rest := rfl

end BootProtocol

open BootProtocol

/-- What a frame says. -/
structure WireFrame where
  protocolVer : UInt16
  packetType : UInt16
  command : UInt16
  sequence : UInt16
  flags : UInt16
  status : UInt16
  payload : List UInt16
  deriving DecidableEq, Repr

namespace WireFrame

/-- The header words behind the magic and before the CRC. -/
def fields (frame : WireFrame) : List UInt16 :=
  [frame.protocolVer, frame.packetType, frame.command, frame.sequence, frame.flags, frame.status,
    UInt16.ofNat frame.payload.length]

def header (frame : WireFrame) : List UInt16 := magic0 :: magic1 :: frame.fields

def words (frame : WireFrame) : List UInt16 :=
  frame.header ++ [crcWords frame.header] ++ frame.payload ++ [crcWords frame.payload]

def bytes (frame : WireFrame) : List UInt8 := bytesOf frame.words

theorem length_words (frame : WireFrame) : frame.words.length = 11 + frame.payload.length := by
  simp only [words, header, fields, List.length_append, List.length_cons, List.length_nil]
  omega

theorem length_bytes (frame : WireFrame) : frame.bytes.length = 22 + 2 * frame.payload.length := by
  rw [bytes, Words.length_bytesOf, length_words]
  omega

theorem bytes_eq (frame : WireFrame) : frame.bytes =
    bytesOf (frame.header ++ [crcWords frame.header]) ++
      (bytesOf frame.payload ++ bytesOf [crcWords frame.payload]) := by
  rw [bytes, words, List.append_assoc _ frame.payload, Words.bytesOf_append,
    Words.bytesOf_append frame.payload]

theorem length_header_bytes (frame : WireFrame) :
    (bytesOf (frame.header ++ [crcWords frame.header])).length = 20 := rfl

theorem words_inj {frame other : WireFrame} (same : frame.words = other.words) : frame = other := by
  obtain ⟨v, t, c, s, f, st, payload⟩ := frame
  obtain ⟨v', t', c', s', f', st', payload'⟩ := other
  have header : [v, t, c, s, f, st] = [v', t', c', s', f', st'] :=
    congrArg (fun words => (words.drop 2).take 6) same
  have behind : payload ++ [crcWords payload] = payload' ++ [crcWords payload'] :=
    congrArg (List.drop 10) same
  cases header
  rw [(List.append_inj_left' behind rfl)]

theorem bytes_inj {frame other : WireFrame} (same : frame.bytes = other.bytes) : frame = other :=
  words_inj (Words.bytesOf_inj same)

end WireFrame

/-- What a received frame says. -/
def BootProtocolFrame.contents (frame : BootProtocolFrame) : WireFrame where
  protocolVer := frame.protocolVer
  packetType := frame.packetType
  command := frame.command
  sequence := frame.sequence
  flags := frame.flags
  status := frame.status
  payload := frame.words 0 frame.payloadWords.toNat

/-! ## Headers in a stream -/

namespace BootProtocol

/-- The header words at the start of the bytes. -/
def headerWords (bytes : List UInt8) : List UInt16 := wordsOf (bytes.take 20)

/-- The bytes start with a header whose magic and CRC are correct. -/
structure ValidHeader (bytes : List UInt8) : Prop where
  length : 20 ≤ bytes.length
  magic : magicBytes <+: bytes
  crc : crcWords ((headerWords bytes).take 9) = (headerWords bytes).getD 9 0

instance (bytes : List UInt8) : Decidable (ValidHeader bytes) :=
  decidable_of_iff (20 ≤ bytes.length ∧ magicBytes.isPrefixOf bytes = true ∧
      crcWords ((headerWords bytes).take 9) = (headerWords bytes).getD 9 0) <| by
    rw [List.isPrefixOf_iff_prefix]
    exact ⟨fun h => ⟨h.1, h.2.1, h.2.2⟩, fun h => ⟨h.length, h.magic, h.crc⟩⟩

/-- `payload_words` of the header at the start of the bytes. -/
def declaredWords (bytes : List UInt8) : UInt16 := (headerWords bytes).getD 8 0

theorem headerWords_append {bytes : List UInt8} (length : 20 ≤ bytes.length) (more : List UInt8) :
    headerWords (bytes ++ more) = headerWords bytes := by
  rw [headerWords, List.take_append_of_le_length length, headerWords]

theorem ValidHeader.append {bytes : List UInt8} (h : ValidHeader bytes) (more : List UInt8) :
    ValidHeader (bytes ++ more) := by
  constructor
  · rw [List.length_append]
    exact Nat.le_trans h.length (Nat.le_add_right _ _)
  · exact h.magic.trans (List.prefix_append _ _)
  · rw [headerWords_append h.length]
    exact h.crc

theorem ValidHeader.take {bytes : List UInt8} (valid : ValidHeader bytes) {n : Nat} (enough : 20 ≤ n) :
    ValidHeader (bytes.take n) := by
  have length := valid.length
  have four : magicBytes.length = 4 := rfl
  have words : headerWords (bytes.take n) = headerWords bytes := by
    rw [headerWords, List.take_take, Nat.min_eq_left enough, headerWords]
  have long : 20 ≤ (bytes.take n).length := by
    rw [List.length_take]
    exact Nat.le_min.2 ⟨enough, length⟩
  constructor
  · exact long
  · exact List.prefix_of_prefix_length_le valid.magic (List.take_prefix _ _) (by omega)
  · rw [words]
    exact valid.crc

/-- A header is its nine words and their CRC. -/
theorem ValidHeader.words {bytes : List UInt8} (h : ValidHeader bytes) :
    ∃ protocolVer packetType command sequence flags status payloadWords,
      headerWords bytes = [magic0, magic1, protocolVer, packetType, command, sequence, flags, status,
        payloadWords, crcWords [magic0, magic1, protocolVer, packetType, command, sequence, flags,
          status, payloadWords]] := by
  obtain ⟨rest, rfl⟩ := h.magic
  have length : (rest.take 16).length = 2 * 8 := by
    have := h.length
    rw [List.length_append] at this
    rw [List.length_take]
    simp only [magicBytes, List.length_cons, List.length_nil] at this
    omega
  have split : headerWords (magicBytes ++ rest) = magic0 :: magic1 :: wordsOf (rest.take 16) := rfl
  have count := Words.length_wordsOf length
  have crc := h.crc
  rw [split] at crc ⊢
  obtain ⟨a, b, c, d, e, f, g, received, eight⟩ : ∃ a b c d e f g received,
      wordsOf (rest.take 16) = [a, b, c, d, e, f, g, received] := by
    match wordsOf (rest.take 16), count with
    | [a, b, c, d, e, f, g, received], _ => exact ⟨a, b, c, d, e, f, g, received, rfl⟩
  rw [eight] at crc ⊢
  have last : crcWords [magic0, magic1, a, b, c, d, e, f, g] = received := crc
  exact ⟨a, b, c, d, e, f, g, by rw [last]⟩

theorem headerWords_bytes (frame : WireFrame) (rest : List UInt8) :
    headerWords (frame.bytes ++ rest) = frame.header ++ [crcWords frame.header] := by
  have length := frame.length_header_bytes
  rw [headerWords, frame.bytes_eq, List.append_assoc, List.take_left' length,
    Words.wordsOf_bytesOf]

theorem validHeader_bytes (frame : WireFrame) (rest : List UInt8) :
    ValidHeader (frame.bytes ++ rest) := by
  constructor
  · rw [List.length_append, frame.length_bytes]
    omega
  · rw [frame.bytes_eq, List.append_assoc]
    exact List.prefix_append _ _
  · have words (crc : UInt16) : (frame.header ++ [crc]).take 9 = frame.header := rfl
    have last (crc : UInt16) : (frame.header ++ [crc]).getD 9 0 = crc := rfl
    rw [headerWords_bytes, words, last]

theorem declaredWords_bytes (frame : WireFrame) (rest : List UInt8) :
    declaredWords (frame.bytes ++ rest) = UInt16.ofNat frame.payload.length := by
  rw [declaredWords, headerWords_bytes]
  rfl

end BootProtocol

end BootUpgrade

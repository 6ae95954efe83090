import BootUpgrade.Core.Receive
import BootUpgrade.Host.Frame

/-!
# The two codecs agree

Each side takes apart what the other side builds, and the host accepts nothing
but encodings.
-/

namespace BootUpgrade

open BootProtocol HostProtocol

/-- What `BootProtocol_SendResponse` sends, as a frame. -/
def responseFrame (request : BootProtocolFrame) (packetType status : UInt16)
    (payload : List UInt16) : WireFrame :=
  ⟨protocolVersion, packetType, request.command, request.sequence, protocolFlagNone, status, payload⟩

theorem sendResponse_eq (request : BootProtocolFrame) (packetType status : UInt16)
    {payload : List UInt16} (fits : payload.length ≤ 0xFFFF) :
    sendResponse request packetType status payload (UInt16.ofNat payload.length) =
      (responseFrame request packetType status payload).words := by
  have count : (UInt16.ofNat payload.length).toNat = payload.length :=
    UInt16.toNat_ofNat_of_lt' (by rw [UInt16.size]; omega)
  rw [sendResponse, count, List.take_length]
  rfl

/-- The frames of the host are received as they are, decoding undoes encoding,
nothing else is decoded, and the responses of the device are decoded as they are. -/
theorem frame_codec (frame : Frame) (buffer : BootProtocolFrame) (rest : List UInt8)
    (fits : frame.payload.length ≤ 256) :
    (∃ received, receive buffer (frame.encodeBytes ++ rest) = some ⟨.ok, received, rest⟩ ∧
      received.contents = frame.toWire) ∧
    decodeFrame (ints frame.encodeWords) 0xFFFF = .ok frame ∧
    (∀ (values : List Int) (maxPayloadWords : Int) (decoded : Frame),
      decodeFrame values maxPayloadWords = .ok decoded → values = ints decoded.encodeWords) ∧
    ∀ (request : BootProtocolFrame) (packetType status : UInt16) (payload : List UInt16),
      request.sequence ≠ 0 → payload.length ≤ 0xFFFF → ∃ response : Frame,
        decodeFrame (ints (sendResponse request packetType status payload
          (UInt16.ofNat payload.length))) 0xFFFF = .ok response ∧
        response.toWire = responseFrame request packetType status payload := by
  constructor
  · rw [frame.encodeBytes_eq]
    exact receive_bytes buffer frame.toWire fits rest
  constructor
  · rw [frame.encodeWords_eq]
    exact decodeFrame_words frame.toWire frame.admitted (Int.ofNat_le.2 frame.payload_le)
  constructor
  · exact fun values maxPayloadWords decoded => decodeFrame_ok
  · intro request packetType status payload sequence small
    have admitted : Frame.Admitted (responseFrame request packetType status payload) :=
      ⟨sequence, small⟩
    refine ⟨.ofWire _ admitted, ?_, rfl⟩
    rw [sendResponse_eq request packetType status small]
    exact decodeFrame_words _ admitted (Int.ofNat_le.2 small)

/-- A PING. -/
def pingFrame : Frame :=
  ⟨pktRequest, BootCmd.ping, 1, [], 0, BootStatus.ok, protocolVersion, by decide, by decide⟩

theorem frame_codec_ping : decodeFrame (ints pingFrame.encodeWords) 0xFFFF = .ok pingFrame :=
  (frame_codec pingFrame (.ofWords 0 0 []) [] (by decide)).2.1

end BootUpgrade

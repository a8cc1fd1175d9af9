import Obd2.Async
import Obd2.Byte
import Obd2.Error
import Obd2.Text

/-! Diagnostics over IP (ISO 13400): the generic header, packets, and packets on a byte stream.

A stream gives its bytes in pieces of any size; reading an exact number of them waits for as
many pieces as it takes. Flushing has nothing to model. -/
namespace Obd2

def doIpHeaderLen : Nat := 8
def doIpVersionDefault : UInt8 := 0x02
def doIpMaxPayloadLen : UInt32 := 16777216

/-- DoIP payload type from the generic header. -/
inductive DoIpPayloadType where
  | genericNegativeAck
  | vehicleIdentificationRequest
  | vehicleIdentificationRequestWithEid
  | vehicleIdentificationRequestWithVin
  | vehicleAnnouncement
  | routingActivationRequest
  | routingActivationResponse
  | aliveCheckRequest
  | aliveCheckResponse
  | entityStatusRequest
  | entityStatusResponse
  | diagnosticPowerModeRequest
  | diagnosticPowerModeResponse
  | diagnosticMessage
  | diagnosticPositiveAck
  | diagnosticNegativeAck
  | unknown (value : UInt16)
  deriving DecidableEq, Repr

namespace DoIpPayloadType

def fromU16 (value : UInt16) : DoIpPayloadType :=
  match value with
  | 0x0000 => .genericNegativeAck
  | 0x0001 => .vehicleIdentificationRequest
  | 0x0002 => .vehicleIdentificationRequestWithEid
  | 0x0003 => .vehicleIdentificationRequestWithVin
  | 0x0004 => .vehicleAnnouncement
  | 0x0005 => .routingActivationRequest
  | 0x0006 => .routingActivationResponse
  | 0x0007 => .aliveCheckRequest
  | 0x0008 => .aliveCheckResponse
  | 0x4001 => .entityStatusRequest
  | 0x4002 => .entityStatusResponse
  | 0x4003 => .diagnosticPowerModeRequest
  | 0x4004 => .diagnosticPowerModeResponse
  | 0x8001 => .diagnosticMessage
  | 0x8002 => .diagnosticPositiveAck
  | 0x8003 => .diagnosticNegativeAck
  | other => .unknown other

def asU16 : DoIpPayloadType → UInt16
  | genericNegativeAck => 0x0000
  | vehicleIdentificationRequest => 0x0001
  | vehicleIdentificationRequestWithEid => 0x0002
  | vehicleIdentificationRequestWithVin => 0x0003
  | vehicleAnnouncement => 0x0004
  | routingActivationRequest => 0x0005
  | routingActivationResponse => 0x0006
  | aliveCheckRequest => 0x0007
  | aliveCheckResponse => 0x0008
  | entityStatusRequest => 0x4001
  | entityStatusResponse => 0x4002
  | diagnosticPowerModeRequest => 0x4003
  | diagnosticPowerModeResponse => 0x4004
  | diagnosticMessage => 0x8001
  | diagnosticPositiveAck => 0x8002
  | diagnosticNegativeAck => 0x8003
  | unknown value => value

/-- A type that was read is written as it was. -/
theorem asU16_fromU16 (value : UInt16) : (fromU16 value).asU16 = value := by
  unfold fromU16
  split <;> rfl

end DoIpPayloadType

/-- DoIP generic header. -/
structure DoIpHeader where
  protocolVersion : UInt8
  inverseProtocolVersion : UInt8
  payloadType : DoIpPayloadType
  payloadLength : UInt32
  deriving DecidableEq, Repr

namespace DoIpHeader

def withVersion (protocolVersion : UInt8) (payloadType : DoIpPayloadType) (payloadLength : UInt32) :
    Except Obd2Error DoIpHeader :=
  if payloadLength > doIpMaxPayloadLen then
    .error (.parseError
      s!"DoIP payload length {payloadLength} exceeds configured maximum {doIpMaxPayloadLen}")
  else
    .ok ⟨protocolVersion, ~~~protocolVersion, payloadType, payloadLength⟩

def parse (bytes : List UInt8) : Except Obd2Error DoIpHeader :=
  match bytes with
  | version :: inverse :: t0 :: t1 :: l0 :: l1 :: l2 :: l3 :: _ =>
    if inverse ≠ ~~~version then
      let version := String.ofList (Text.hexByte version)
      let inverse := String.ofList (Text.hexByte inverse)
      .error (.parseError
        s!"DoIP inverse protocol version mismatch: version 0x{version}, inverse 0x{inverse}")
    else
      let payloadType := DoIpPayloadType.fromU16 (UInt16.ofNat (ofBeBytes [t0, t1]))
      let payloadLength := UInt32.ofNat (ofBeBytes [l0, l1, l2, l3])
      if payloadLength > doIpMaxPayloadLen then
        .error (.parseError
          s!"DoIP payload length {payloadLength} exceeds configured maximum {doIpMaxPayloadLen}")
      else
        .ok ⟨version, inverse, payloadType, payloadLength⟩
  | _ => .error (.parseError s!"DoIP header requires {doIpHeaderLen} bytes, got {bytes.length}")

def encode (header : DoIpHeader) : List UInt8 :=
  header.protocolVersion :: header.inverseProtocolVersion ::
    (beBytes 2 header.payloadType.asU16.toNat ++ beBytes 4 header.payloadLength.toNat)

end DoIpHeader

/-- Complete DoIP packet. -/
structure DoIpMessage where
  header : DoIpHeader
  payload : List UInt8
  deriving DecidableEq, Repr

namespace DoIpMessage

def withVersion (protocolVersion : UInt8) (payloadType : DoIpPayloadType) (payload : List UInt8) :
    Except Obd2Error DoIpMessage :=
  if payload.length > 4294967295 then
    .error (.parseError s!"DoIP payload length {payload.length} exceeds u32 header range")
  else
    match DoIpHeader.withVersion protocolVersion payloadType (UInt32.ofNat payload.length) with
    | .ok header => .ok ⟨header, payload⟩
    | .error e => .error e

def new (payloadType : DoIpPayloadType) (payload : List UInt8) : Except Obd2Error DoIpMessage :=
  withVersion doIpVersionDefault payloadType payload

/-- A buffer that is one packet. -/
def parse (bytes : List UInt8) : Except Obd2Error DoIpMessage :=
  match DoIpHeader.parse bytes with
  | .error e => .error e
  | .ok header =>
    let totalLen := doIpHeaderLen + header.payloadLength.toNat
    if bytes.length ≠ totalLen then
      .error (.parseError
        s!"DoIP packet length mismatch: header says {totalLen} bytes, buffer has {bytes.length}")
    else
      .ok ⟨header, bytes.drop doIpHeaderLen⟩

/-- One complete packet at the front of a stream buffer, with its length; nothing as long as
bytes are missing. -/
def parsePrefix (bytes : List UInt8) : Except Obd2Error (Option (DoIpMessage × Nat)) :=
  if bytes.length < doIpHeaderLen then .ok none
  else
    match DoIpHeader.parse bytes with
    | .error e => .error e
    | .ok header =>
      let totalLen := doIpHeaderLen + header.payloadLength.toNat
      if bytes.length < totalLen then .ok none
      else .ok (some (⟨header, (bytes.take totalLen).drop doIpHeaderLen⟩, totalLen))

def encode (message : DoIpMessage) : List UInt8 := message.header.encode ++ message.payload

end DoIpMessage

/-! ### On a byte stream -/

/-- A byte stream that is open: the pieces that will arrive, and the bytes written. -/
structure DoIpStreamTransport where
  incoming : List (List UInt8)
  written : List UInt8

namespace DoIpStreamTransport

/-- `read_exact`: `n` bytes off the front of the pieces, unless the stream ends before. -/
def takeExact : Nat → List (List UInt8) → Option (List UInt8 × List (List UInt8))
  | 0, pieces => some ([], pieces)
  | _ + 1, [] => none
  | n + 1, piece :: pieces =>
    if n + 1 ≤ piece.length then some (piece.take (n + 1), piece.drop (n + 1) :: pieces)
    else
      match takeExact (n + 1 - piece.length) pieces with
      | some (bytes, pieces) => some (piece ++ bytes, pieces)
      | none => none

def readExact (n : Nat) : Async Obd2Error DoIpStreamTransport (List UInt8) := do
  let stream ← .get
  match takeExact n stream.incoming with
  | some (bytes, incoming) =>
    .set {stream with incoming}
    pure bytes
  | none =>
    .set {stream with incoming := []}
    .throw (.io "early eof")

def writeAll (bytes : List UInt8) : Async Obd2Error DoIpStreamTransport Unit :=
  .modify fun stream => {stream with written := stream.written ++ bytes}

def send (message : DoIpMessage) : Async Obd2Error DoIpStreamTransport Unit := do
  writeAll message.header.encode
  writeAll message.payload

def recv : Async Obd2Error DoIpStreamTransport DoIpMessage := do
  let headerBytes ← readExact doIpHeaderLen
  let header ← .lift (DoIpHeader.parse headerBytes)
  let payload ← readExact header.payloadLength.toNat
  pure ⟨header, payload⟩

end DoIpStreamTransport

end Obd2

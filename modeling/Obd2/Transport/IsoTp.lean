import Obd2.Byte
import Obd2.Error
import Obd2.Process
import Obd2.Text

/-! Host-side ISO-TP over raw CAN data frames: segmentation, reassembly and flow control.

A transport has no state of its own besides its frame I/O, so an operation is a
process on frames: `send` is `CanFrameIo::send_frame`, `recv` is
`CanFrameIo::recv_frame`, and an I/O error ends the process there, as `?` does.
Separation delays are computed and not waited for. -/
namespace Obd2.IsoTp

def maxClassicIsoTpPayload : Nat := 4095
def maxResponsePendingFrames : Nat := 8

/-- Raw classic CAN data frame. -/
structure CanDataFrame where
  id : UInt32
  data : List UInt8
  isExtendedId : Bool
  deriving DecidableEq, Repr

namespace CanDataFrame

def withExtendedId (id : UInt32) (isExtendedId : Bool) (data : List UInt8) :
    Except Obd2Error CanDataFrame :=
  if id > 0x1FFFFFFF then
    let hex := String.ofList (Text.upperHex 0 id.toNat)
    .error (.parseError s!"CAN identifier exceeds 29 bits: 0x{hex}")
  else if data.length > 8 then
    .error (.parseError s!"classic CAN frame has {data.length} data bytes; max is 8")
  else
    .ok ⟨id, data, isExtendedId⟩

def new (id : UInt32) (data : List UInt8) : Except Obd2Error CanDataFrame :=
  withExtendedId id (id > 0x7FF) data

end CanDataFrame

/-- Connection configuration for one request/response identifier pair. -/
structure IsoTpConfig where
  requestId : UInt32
  responseId : UInt32
  blockSize : UInt8
  stMin : UInt8
  txPadding : Option UInt8
  maxPayloadLen : Nat
  maxUnrelatedFrames : Nat
  maxFlowControlWaitFrames : Nat

/-- `IsoTpConfig::new`. -/
def IsoTpConfig.new (requestId responseId : UInt32) : IsoTpConfig :=
  { requestId, responseId, blockSize := 8, stMin := 0, txPadding := some 0x00
    maxPayloadLen := maxClassicIsoTpPayload, maxUnrelatedFrames := 32, maxFlowControlWaitFrames := 16 }

inductive FlowStatus where
  | continueToSend
  | wait
  | overflow
  deriving DecidableEq, Repr

namespace FlowStatus

def fromNibble (nibble : UInt8) : Except Obd2Error FlowStatus :=
  match nibble with
  | 0x0 => .ok .continueToSend
  | 0x1 => .ok .wait
  | 0x2 => .ok .overflow
  | _ =>
    let hex := String.ofList (Text.upperHex 0 nibble.toNat)
    .error (.parseError s!"unsupported ISO-TP flow status: 0x{hex}")

def nibble : FlowStatus → UInt8
  | continueToSend => 0x0
  | wait => 0x1
  | overflow => 0x2

end FlowStatus

structure FlowControlFrame where
  status : FlowStatus
  blockSize : UInt8
  stMin : UInt8

/-- The separation delay an STmin byte asks for, in microseconds. Reserved values are
clamped to the longest millisecond delay. -/
def stMinDuration (stMin : UInt8) : Except Obd2Error Nat :=
  if stMin ≤ 0x7F then .ok (stMin.toNat * 1000)
  else if 0xF1 ≤ stMin ∧ stMin ≤ 0xF9 then .ok ((stMin.toNat - 0xF0) * 100)
  else .ok (0x7F * 1000)

/-- An operation of the transport. -/
abbrev IsoTp (α : Type) := Process Obd2Error CanDataFrame CanDataFrame α

def parseFailure {α : Type} (message : String) : IsoTp α := .fail (.parseError message)

def firstPciByte (frame : CanDataFrame) : Except Obd2Error UInt8 :=
  match frame.data with
  | pci :: _ => .ok pci
  | [] => .error (.parseError "ISO-TP CAN frame missing PCI byte")

def validateCanFrame (frame : CanDataFrame) : Except Obd2Error Unit :=
  if frame.data.length > 8 then
    .error (.parseError s!"classic CAN frame has {frame.data.length} data bytes; max is 8")
  else if frame.data.isEmpty then
    .error (.parseError "ISO-TP CAN frame missing PCI byte")
  else
    .ok ()

section Transport
variable (config : IsoTpConfig)

def validatePduLen (len : Nat) : Except Obd2Error Unit :=
  if len > config.maxPayloadLen then
    .error (.parseError s!"ISO-TP PDU length {len} exceeds configured max {config.maxPayloadLen}")
  else
    .ok ()

/-- The data bytes of an outgoing frame, filled up to eight if the connection pads. -/
def padded (data : List UInt8) : List UInt8 :=
  match config.txPadding with
  | some pad => data ++ List.replicate (8 - data.length) pad
  | none => data

def sendFrameData (data : List UInt8) : IsoTp Unit :=
  if data.length > 8 then
    parseFailure s!"ISO-TP CAN payload has {data.length} bytes; max is 8"
  else do
    let frame ← .lift (CanDataFrame.new config.requestId (padded config data))
    .send frame (.ret ())

def sendFlowControl (status : FlowStatus) : IsoTp Unit :=
  sendFrameData config [0x30 ||| status.nibble, config.blockSize, config.stMin]

/-- Frames with another identifier are dropped, `allowed` of them at most. -/
def readMatchingFrameFrom (id : UInt32) (allowed : Nat) : IsoTp CanDataFrame :=
  .recv fun frame => do
    .lift (validateCanFrame frame)
    if frame.id = id then
      .ret frame
    else
      match allowed with
      | 0 =>
        let hex := String.ofList (Text.upperHex 0 id.toNat)
        parseFailure s!"too many unrelated CAN frames while waiting for 0x{hex}"
      | allowed + 1 => readMatchingFrameFrom id allowed

def readMatchingFrame : IsoTp CanDataFrame :=
  readMatchingFrameFrom config.responseId config.maxUnrelatedFrames

def decodeFlowControl (frame : CanDataFrame) : Except Obd2Error FlowControlFrame :=
  match frame.data with
  | pci :: blockSize :: stMin :: _ =>
    if pci >>> 4 ≠ 0x3 then
      let hex := String.ofList (Text.upperHex 0 (pci >>> 4).toNat)
      .error (.parseError s!"expected ISO-TP flow-control frame, got type 0x{hex}")
    else
      match FlowStatus.fromNibble (pci &&& 0x0F) with
      | .ok status => .ok ⟨status, blockSize, stMin⟩
      | .error e => .error e
  | _ => .error (.parseError "ISO-TP flow-control frame shorter than 3 bytes")

def readFlowControl : IsoTp FlowControlFrame := do
  let frame ← readMatchingFrame config
  .lift (decodeFlowControl frame)

/-- Waits out `allowed` wait frames at most. -/
def waitForContinueToSendFrom (allowed : Nat) : IsoTp FlowControlFrame := do
  let fc ← readFlowControl config
  match fc.status with
  | .continueToSend => .ret fc
  | .wait =>
    match allowed with
    | 0 => .fail .timeout
    | allowed + 1 => waitForContinueToSendFrom allowed
  | .overflow => parseFailure "receiver reported ISO-TP flow-control overflow"

def waitForContinueToSend : IsoTp FlowControlFrame :=
  waitForContinueToSendFrom config config.maxFlowControlWaitFrames

/-! ### Sending -/

/-- The consecutive frames from `offset` on. -/
def sendConsecutiveFrames (pdu : List UInt8) (fc : FlowControlFrame) (offset : Nat)
    (sequence sentInBlock : UInt8) : IsoTp Unit :=
  if offset < pdu.length then do
    let _delay ← .lift (stMinDuration fc.stMin)
    let chunkLen := min (pdu.length - offset) 7
    sendFrameData config (((0x20 : UInt8) ||| (sequence &&& 0x0F)) :: (pdu.drop offset).take chunkLen)
    let sent := saturatingSucc sentInBlock
    if fc.blockSize ≠ 0 ∧ sent ≥ fc.blockSize ∧ offset + chunkLen < pdu.length then
      let fc ← waitForContinueToSend config
      sendConsecutiveFrames pdu fc (offset + chunkLen) ((sequence + 1) &&& 0x0F) 0
    else
      sendConsecutiveFrames pdu fc (offset + chunkLen) ((sequence + 1) &&& 0x0F) sent
  else
    .ret ()
termination_by pdu.length - offset

def sendMultiFramePdu (pdu : List UInt8) : IsoTp Unit :=
  if pdu.length > maxClassicIsoTpPayload then
    parseFailure
      s!"ISO-TP PDU length {pdu.length} exceeds classic CAN limit {maxClassicIsoTpPayload}"
  else do
    sendFrameData config
      (((0x10 : UInt8) ||| (UInt8.ofNat (pdu.length >>> 8) &&& 0x0F)) :: UInt8.ofNat (pdu.length &&& 0xFF) ::
        pdu.take 6)
    let fc ← waitForContinueToSend config
    sendConsecutiveFrames config pdu fc 6 1 0

def sendPdu (pdu : List UInt8) : IsoTp Unit :=
  if pdu.length ≤ 7 then sendFrameData config (UInt8.ofNat pdu.length :: pdu)
  else sendMultiFramePdu config pdu

/-! ### Receiving -/

def decodeSingleFrame (frame : CanDataFrame) : Except Obd2Error (List UInt8) := do
  let pci ← firstPciByte frame
  let len := (pci &&& 0x0F).toNat
  if frame.data.length < len + 1 then
    let available := frame.data.length - 1
    .error (.parseError
      s!"ISO-TP single frame declares {len} bytes but frame has {available} payload bytes")
  else
    validatePduLen config len
    .ok ((frame.data.drop 1).take len)

/-- The consecutive frames of a message of `declaredLen` bytes, `pdu` of them there already. -/
def recvConsecutiveFrames (declaredLen : Nat) (pdu : List UInt8)
    (expectedSequence receivedInBlock : UInt8) : IsoTp (List UInt8) :=
  if pdu.length < declaredLen then do
    let frame ← readMatchingFrame config
    let pci ← .lift (firstPciByte frame)
    let sequence := pci &&& 0x0F
    let remaining := declaredLen - pdu.length
    let available := frame.data.length - 1
    if pci >>> 4 ≠ 0x2 then
      let hex := String.ofList (Text.upperHex 0 (pci >>> 4).toNat)
      parseFailure s!"expected ISO-TP consecutive frame, got type 0x{hex}"
    else if sequence ≠ expectedSequence then
      parseFailure s!"ISO-TP sequence mismatch: expected {expectedSequence}, got {sequence}"
    else if available = 0 then
      parseFailure "ISO-TP consecutive frame carried no payload"
    else
      let next := pdu ++ (frame.data.drop 1).take (min remaining available)
      let received := saturatingSucc receivedInBlock
      if config.blockSize ≠ 0 ∧ received ≥ config.blockSize ∧ next.length < declaredLen then
        sendFlowControl config .continueToSend
        recvConsecutiveFrames declaredLen next ((expectedSequence + 1) &&& 0x0F) 0
      else
        recvConsecutiveFrames declaredLen next ((expectedSequence + 1) &&& 0x0F) received
  else
    .ret pdu
termination_by declaredLen - pdu.length
decreasing_by
  all_goals
    simp only [List.length_append, List.length_take, List.length_drop]
    omega

def recvMultiFramePdu (firstFrame : CanDataFrame) : IsoTp (List UInt8) :=
  match firstFrame.data with
  | pci :: low :: payload => do
    let declaredLen := ((pci &&& 0x0F).toNat <<< 8) ||| low.toNat
    if declaredLen ≤ 7 then
      parseFailure s!"ISO-TP first frame declared single-frame length {declaredLen}"
    else
      .lift (validatePduLen config declaredLen)
      let pdu := payload.take (min declaredLen payload.length)
      sendFlowControl config .continueToSend
      recvConsecutiveFrames config declaredLen pdu 1 0
  | _ => parseFailure "ISO-TP first frame missing length byte"

def recvPdu : IsoTp (List UInt8) := do
  let frame ← readMatchingFrame config
  let pci ← .lift (firstPciByte frame)
  if pci >>> 4 = 0x0 then .lift (decodeSingleFrame config frame)
  else if pci >>> 4 = 0x1 then recvMultiFramePdu config frame
  else
    let hex := String.ofList (Text.upperHex 0 (pci >>> 4).toNat)
    parseFailure s!"unexpected ISO-TP frame type while receiving PDU: 0x{hex}"

/-! ### Exchanges -/

/-- A raw diagnostic exchange; the returned bytes include the response service. -/
def exchangePdu (requestPdu : List UInt8) : IsoTp (List UInt8) :=
  if requestPdu.isEmpty then
    parseFailure "ISO-TP request PDU is empty"
  else do
    .lift (validatePduLen config requestPdu.length)
    sendPdu config requestPdu
    recvPdu config

def isResponsePendingFor (serviceId : UInt8) (responsePdu : List UInt8) : Bool :=
  responsePdu == [0x7F, serviceId, 0x78]

def stripResponseForRequest (serviceId : UInt8) (responsePdu : List UInt8) :
    Except Obd2Error (List UInt8) :=
  match responsePdu with
  | [] => .error (.parseError "ISO-TP response PDU is empty")
  | first :: rest =>
    if first = 0x7F then
      match rest with
      | service :: nrc :: _ =>
        .error (.negativeResponse service (NegativeResponse.fromByteOrUnknown nrc))
      | _ => .error (.parseError "UDS negative response shorter than 3 bytes")
    else if serviceId.toNat + 0x40 > 255 then
      let hex := String.ofList (Text.hexByte serviceId)
      .error (.parseError s!"service id 0x{hex} cannot form a positive-response id")
    else if first ≠ serviceId + 0x40 then
      let got := String.ofList (Text.hexByte first)
      let expected := String.ofList (Text.hexByte (serviceId + 0x40))
      .error (.parseError s!"unexpected response service 0x{got}; expected 0x{expected}")
    else
      .ok rest

/-- Skips up to `allowed` response-pending PDUs before `responsePdu` is the answer. -/
def awaitResponse (serviceId : UInt8) : Nat → List UInt8 → IsoTp (List UInt8)
  | 0, responsePdu =>
    if isResponsePendingFor serviceId responsePdu then .fail .timeout
    else .lift (stripResponseForRequest serviceId responsePdu)
  | allowed + 1, responsePdu =>
    if isResponsePendingFor serviceId responsePdu then do
      let responsePdu ← recvPdu config
      awaitResponse serviceId allowed responsePdu
    else
      .lift (stripResponseForRequest serviceId responsePdu)

/-- `Transport::exchange`: the request as a PDU, service byte first. -/
def exchange (pdu : List UInt8) : IsoTp (List UInt8) :=
  match pdu with
  | [] => parseFailure "ISO-TP request PDU is empty"
  | serviceId :: _ => do
    .lift (validatePduLen config pdu.length)
    sendPdu config pdu
    let responsePdu ← recvPdu config
    awaitResponse config serviceId maxResponsePendingFrames responsePdu

end Transport

end Obd2.IsoTp

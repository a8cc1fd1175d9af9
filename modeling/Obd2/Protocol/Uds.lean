import Obd2.Byte
import Obd2.Text
import Obd2.Transport.Framed

/-! UDS request/response helpers over framed diagnostic transports.

A transport returns the payload of a response with more or less of its echo taken off already,
and does not say how much. The client guesses it from the bytes: `normalizeTransportPayload`
takes a payload for a whole response if it begins like one. -/
namespace Obd2

/-- `service_id.checked_add(0x40)`. -/
def positiveResponseSid (serviceId : UInt8) : Except Obd2Error UInt8 :=
  if serviceId.toNat + 0x40 > 255 then
    let hex := String.ofList (Text.hexByte serviceId)
    .error (.parseError s!"service id 0x{hex} cannot form a positive-response id")
  else
    .ok (serviceId + 0x40)

/-- The data of a raw UDS response PDU, without the response SID. -/
def parseUdsResponse (requestServiceId : UInt8) (responsePdu : List UInt8) : Except Obd2Error (List UInt8) :=
  match responsePdu with
  | [] => .error (.parseError "UDS response PDU is empty")
  | serviceId :: data =>
    if serviceId = 0x7F then
      match data with
      | service :: nrc :: _ =>
        .error (.negativeResponse service (NegativeResponse.fromByteOrUnknown nrc))
      | _ => .error (.parseError "UDS negative response shorter than 3 bytes")
    else
      match positiveResponseSid requestServiceId with
      | .error e => .error e
      | .ok expected =>
        if serviceId ≠ expected then
          let got := String.ofList (Text.hexByte serviceId)
          let hex := String.ofList (Text.hexByte expected)
          .error (.parseError s!"unexpected UDS response SID 0x{got}; expected 0x{hex}")
        else
          .ok data

/-- How many bytes of a request its response repeats. -/
def echoLen (serviceId : UInt8) : Nat :=
  match serviceId with
  | 0x14 => 0
  | 0x22 | 0x2E => 2
  | 0x2F => 2
  | 0x31 => 3
  | _ => 1

def rawPositiveResponseMatchesEcho (serviceId : UInt8) (requestData responseData : List UInt8) : Bool :=
  if echoLen serviceId = 0 then responseData.isEmpty
  else if requestData.length < echoLen serviceId then false
  else (requestData.take (echoLen serviceId)).isPrefixOf responseData

def normalizeTransportPayload (serviceId : UInt8) (requestData payload : List UInt8) :
    Except Obd2Error (List UInt8) :=
  match payload with
  | [] => .ok payload
  | first :: rest =>
    if first = 0x7F then parseUdsResponse serviceId payload
    else
      match positiveResponseSid serviceId with
      | .error e => .error e
      | .ok expected =>
        if first = expected ∧ rawPositiveResponseMatchesEcho serviceId requestData rest = true then .ok rest
        else .ok payload

/-- The echoed byte, and what comes after it. -/
def splitRequiredEcho (payload : List UInt8) (expected : UInt8) (label : String) :
    Except Obd2Error (UInt8 × List UInt8) :=
  match payload with
  | [] => .error (.parseError s!"UDS response missing {label} echo byte")
  | echo :: rest =>
    if echo ≠ expected then
      let hex := String.ofList (Text.hexByte expected)
      let got := String.ofList (Text.hexByte echo)
      .error (.parseError s!"UDS response {label} echo mismatch: expected 0x{hex}, got 0x{got}")
    else
      .ok (echo, rest)

/-- The response of a service that repeats one byte of its request; the source has a structure
of this shape for each. -/
structure UdsSubfunctionResponse where
  subfunction : UInt8
  data : List UInt8
  deriving DecidableEq, Repr

/-- The response of a service that repeats an identifier of its request. -/
structure UdsDidResponse where
  did : UInt16
  data : List UInt8
  deriving DecidableEq, Repr

/-- The echoed identifier, and what comes after it. -/
def splitRequiredDid (payload : List UInt8) (expectedDid : UInt16) (label : String) :
    Except Obd2Error UdsDidResponse :=
  match payload with
  | high :: low :: data =>
    let echoedDid := u16FromBe high low
    if echoedDid ≠ expectedDid then
      let expected := String.ofList (Text.upperHex 4 expectedDid.toNat)
      let got := String.ofList (Text.upperHex 4 echoedDid.toNat)
      .error (.parseError s!"UDS {label} DID echo mismatch: expected 0x{expected}, got 0x{got}")
    else
      .ok ⟨echoedDid, data⟩
  | _ => .error (.parseError s!"UDS {label} response missing DID echo")

/-- `u16::to_be_bytes`. -/
def didBytes (did : UInt16) : List UInt8 := [(did >>> 8).toUInt8, did.toUInt8]

/-! ### The client -/

namespace UdsClient
variable {m : Type → Type} [Monad m] [MonadLift (Except Obd2Error) m] (transport : Transport m)

def requestService (serviceId : UInt8) (data : List UInt8) : m (List UInt8) := do
  let payload ← transport.exchange (.broadcastDiagnostic serviceId data)
  liftM (normalizeTransportPayload serviceId data payload)

def readDataByIdentifier (did : UInt16) : m (List UInt8) := do
  let payload ← requestService transport 0x22 (didBytes did)
  if (didBytes did).isPrefixOf payload then
    pure (payload.drop (didBytes did).length)
  else
    pure payload

def readObdonudsIdentifier : m (List UInt8) := readDataByIdentifier transport 0xF810

/-- A service whose response repeats the identifier of the request. -/
def requestDid (serviceId : UInt8) (did : UInt16) (data : List UInt8) (label : String) : m UdsDidResponse := do
  let payload ← requestService transport serviceId (didBytes did ++ data)
  liftM (splitRequiredDid payload did label)

def writeDataByIdentifier (did : UInt16) (data : List UInt8) : m UdsDidResponse :=
  requestDid transport 0x2E did data "writeDataByIdentifier"

def inputOutputControlByIdentifier (did : UInt16) (controlOptionRecord : List UInt8) : m UdsDidResponse :=
  requestDid transport 0x2F did controlOptionRecord "inputOutputControlByIdentifier"

/-- A service whose response repeats the first byte of the request. -/
def requestEchoed (serviceId subfunction : UInt8) (data : List UInt8) (label : String) :
    m UdsSubfunctionResponse := do
  let payload ← requestService transport serviceId (subfunction :: data)
  let (echo, rest) ← liftM (splitRequiredEcho payload subfunction label)
  pure ⟨echo, rest⟩

def diagnosticSessionControl (sessionType : UInt8) : m UdsSubfunctionResponse :=
  requestEchoed transport 0x10 sessionType [] "session type"

def readDtcInformation (subfunction : UInt8) (data : List UInt8) : m UdsSubfunctionResponse :=
  requestEchoed transport 0x19 subfunction data "DTC subfunction"

def securityAccess (subfunction : UInt8) (data : List UInt8) : m UdsSubfunctionResponse :=
  requestEchoed transport 0x27 subfunction data "security-access subfunction"

def authentication (subfunction : UInt8) (data : List UInt8) : m UdsSubfunctionResponse :=
  requestEchoed transport 0x29 subfunction data "authentication subfunction"

def controlDtcSetting (settingType : UInt8) (data : List UInt8) : m UdsSubfunctionResponse :=
  requestEchoed transport 0x85 settingType data "control-DTC-setting type"

def ecuReset (resetType : UInt8) : m UdsSubfunctionResponse :=
  requestEchoed transport 0x11 resetType [] "reset type"

def testerPresent : m Unit := do
  let _response ← requestEchoed transport 0x3E 0x00 [] "tester-present subfunction"
  pure ()

def requestSeed (securityLevel : UInt8) : m (List UInt8) := do
  let response ← securityAccess transport securityLevel []
  pure response.data

def sendKey (securityLevel : UInt8) (key : List UInt8) : m UdsSubfunctionResponse :=
  securityAccess transport securityLevel key

end UdsClient

end Obd2

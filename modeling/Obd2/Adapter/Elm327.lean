import Obd2.Adapter.Detect
import Obd2.Adapter.ElmCodec
import Obd2.Transport.Link

/-! The ELM327/STN adapter: service requests as AT commands and hex text over a link.

The adapter's state is the link under it, what it knows of the device (`info`), the header it
believes the device sends under (`currentHeader`, none for the protocol's own) and the events
it has not handed over yet. -/
namespace Obd2
open Codec

structure Elm327Adapter (L : Type) where
  transport : L
  info : AdapterInfo
  initialized : Bool
  currentHeader : Option Text
  events : List AdapterEvent

/-- An operation of the adapter. -/
abbrev Elm (L α : Type) := Async Obd2Error (Elm327Adapter L) α

namespace Elm327Adapter

/-- `default_adapter_info`. -/
def defaultAdapterInfo : AdapterInfo := ⟨.unknown, [], .auto, .none⟩

/-- `Elm327Adapter::new`. -/
def new {L : Type} (transport : L) : Elm327Adapter L := ⟨transport, defaultAdapterInfo, false, none, []⟩

section Pure

/-- The events a response gives rise to. Each text is looked for on its own, in this order. -/
def responseEvents (response : Text) : List AdapterEvent :=
  let trimmed := Text.trim response
  let seen (pattern : String) (kind : AdapterEventKind) (detail : Option Text) : List AdapterEvent :=
    if Text.contains trimmed pattern.toList then [⟨kind, detail⟩] else []
  seen "SEARCHING..." .searchingDisplayed none ++
  seen "BUS BUSY" .busBusy (some trimmed) ++
  seen "LP ALERT" (.recoveryAction "LP ALERT".toList) (some trimmed) ++
  seen "BUS ERROR" .busError (some trimmed) ++
  seen "CAN ERROR" .canError (some trimmed) ++
  seen "DATA ERROR" .dataError (some trimmed) ++
  seen "<RX ERROR" .rxError (some trimmed) ++
  seen "STOPPED" .stopped (some trimmed) ++
  seen "ERR94" .err94 (some trimmed) ++
  seen "LV RESET" .lowVoltageReset (some trimmed) ++
  if trimmed = "?".toList then [⟨.unknownCommand, none⟩] else []

/-- The response reports a fault that resets the device. -/
def reportsFault (response : Text) : Bool :=
  let trimmed := Text.trim response
  Text.contains trimmed "ERR94".toList || Text.contains trimmed "LV RESET".toList

def familyOf (protocol : Protocol) : BusFamily :=
  match protocol with
  | .can11Bit500 | .can11Bit250 | .can29Bit500 | .can29Bit250 => .can
  | .j1850Pwm | .j1850Vpw => .j1850
  | .iso9141 _ => .iso9141
  | .kwp2000 _ => .kwp2000
  | .auto => .can

/-- The header `default_broadcast_header` gives a protocol. -/
def defaultBroadcastHeader (protocol : Protocol) : Option Text :=
  match protocol with
  | .j1850Pwm | .j1850Vpw | .iso9141 _ | .kwp2000 _ => some "686AF1".toList
  | .can11Bit500 | .can11Bit250 => some "7DF".toList
  | .can29Bit500 | .can29Bit250 => some "18DB33F1".toList
  | .auto => none

/-- The header an address is spoken to under. -/
def headerOf (address : PhysicalAddress) : Option Text :=
  match address with
  | .j1850 _ (a, b, c) => some (Text.hexByte a ++ Text.hexByte b ++ Text.hexByte c)
  | .can11Bit requestId _ => some (Text.upperHex 3 requestId.toNat)
  | .can29Bit requestId _ => some (Text.upperHex 8 requestId.toNat)
  | .j1939 _ => none

/-- The command of a service request. -/
def requestCommand (serviceId : UInt8) (data : List UInt8) : Text :=
  (serviceId :: data).flatMap Text.hexByte

/-- How many bytes of a response repeat the request. -/
def skipOf (serviceId : UInt8) : Nat :=
  match serviceId with
  | 0x01 | 0x02 => 2
  | 0x03 | 0x04 | 0x07 | 0x0A => 1
  | 0x09 => 2
  | 0x22 | 0x21 => 3
  | _ => 1

def truncateKnownPayload (serviceId : UInt8) (requestData payload : List UInt8) : List UInt8 :=
  match serviceId with
  | 0x01 | 0x02 =>
    match requestData with
    | pid :: _ => payload.take (Pid.responseBytes ⟨pid⟩)
    | [] => payload
  | _ => payload

def parseSupportedPids (data : List UInt8) (basePid : UInt8) : List UInt8 :=
  (data.zipIdx.flatMap fun (byte, index) =>
    (List.range 8).filterMap fun bit =>
      if byte &&& ((0x80 : UInt8) >>> UInt8.ofNat bit) ≠ 0 then
        some (basePid + UInt8.ofNat index * 8 + UInt8.ofNat bit + 1)
      else
        none)

/-- The digits of a text two by two, whatever is between them; an odd one at the end is left. -/
def compactPairs : Option UInt8 → List UInt8 → List UInt8
  | _, [] => []
  | high, byte :: rest =>
    match Hex.hexNibble byte with
    | none => compactPairs high rest
    | some nibble =>
      match high with
      | none => compactPairs (some nibble) rest
      | some high => ((high <<< 4) ||| nibble) :: compactPairs none rest

def compactResponseBytes (response : Text) : List UInt8 := compactPairs none (Text.bytes response)

/-- The error a response stands for, if it does. -/
def checkResponseError (response : Text) : Except Obd2Error Unit :=
  let trimmed := Text.trim response
  let has (pattern : String) := Text.contains trimmed pattern.toList
  if has "NO DATA" then .error .noData
  else if has "UNABLE TO CONNECT" then .error (.adapter "unable to connect to vehicle")
  else if has "BUS INIT" && has "ERROR" then .error (.adapter "bus initialization error")
  else if has "CAN ERROR" then .error (.adapter "CAN bus error")
  else if trimmed = "?".toList then .error (.adapter "unknown command")
  else
    match compactResponseBytes trimmed with
    | 0x7F :: service :: rest =>
      match rest.reverse.findSome? NegativeResponse.fromByte with
      | some nrc => .error (.negativeResponse service nrc)
      | none => .ok ()
    | _ => .ok ()

def classifyProbeResult (response : Text) : ProbeResult :=
  let trimmed := Text.trim response
  let has (pattern : String) := Text.contains trimmed pattern.toList
  if has "UNABLE TO CONNECT" then .unableToConnect
  else if has "BUS INIT" && has "ERROR" then .busInitFailure
  else if has "BUS ERROR" || has "BUS BUSY" then .busError
  else if has "CAN ERROR" then .canError
  else if has "NO DATA" then .noResponse
  else if trimmed = "?".toList then .unsupportedProtocol
  else .adapterFault

/-- The protocol a reply to ATDPN names with its last character. -/
def parseProtocolResponse (protocolResponse : Text) : Protocol :=
  let code := Text.trim ((Text.trim protocolResponse).filter (· != '>'))
  (Protocol.fromElmCode (code.getLastD '0')).getD .auto

/-- The reply to 0100 that shows a protocol at work. -/
def showsSupportedPids (response : Text) : Bool :=
  Text.contains response "41 00".toList || Text.contains response "4100".toList

def fallbackProbeOrder : List (Protocol × Text) :=
  [(.can11Bit500, "ATTP6".toList), (.can29Bit500, "ATTP7".toList), (.can11Bit250, "ATTP8".toList),
    (.can29Bit250, "ATTP9".toList), (.j1850Vpw, "ATTP2".toList), (.j1850Pwm, "ATTP1".toList),
    (.iso9141 .slowInit, "ATTP3".toList), (.kwp2000 .fastInit, "ATTP5".toList),
    (.kwp2000 .slowInit, "ATTP4".toList)]

/-- `str::parse::<f64>`: a decimal number with an optional sign and exponent, or the name of an
infinity or of not-a-number. -/
def parseFloat (text : Text) : Option Float :=
  let (negative, text) :=
    match text with
    | '-' :: rest => (true, rest)
    | '+' :: rest => (false, rest)
    | _ => (false, text)
  let digits := text.takeWhile fun c => c.isDigit || c == '.'
  let exponent := text.dropWhile fun c => c.isDigit || c == '.'
  let fraction := ((digits.dropWhile (· != '.')).drop 1).length
  let natural (t : Text) : Nat := (t.filter Char.isDigit).foldl (fun n c => n * 10 + (c.toNat - 48)) 0
  let scaled (e : Int) : Float :=
    let shift := e - fraction
    let value := Float.ofScientific (natural digits) (shift < 0) shift.natAbs
    if negative then -value else value
  let word := text.map Char.toLower
  let infinity : Float := 1.0 / 0.0
  if word = "inf".toList || word = "infinity".toList then some (if negative then -infinity else infinity)
  else if word = "nan".toList then some (0.0 / 0.0)
  else if !AdapterInfo.isDecimal digits then none
  else
    match exponent with
    | [] => some (scaled 0)
    | mark :: rest =>
      if mark != 'e' && mark != 'E' then none
      else
        match rest with
        | '-' :: ds => if !ds.isEmpty && ds.all Char.isDigit then some (scaled (-(natural ds : Int))) else none
        | '+' :: ds => if !ds.isEmpty && ds.all Char.isDigit then some (scaled (natural ds)) else none
        | ds => if !ds.isEmpty && ds.all Char.isDigit then some (scaled (natural ds)) else none

end Pure

section Commands
variable {L : Type} [Link L]

def onTransport {α : Type} (x : Async Obd2Error L α) : Elm L α :=
  x.on (·.transport) fun transport adapter => {adapter with transport}

def pushEvents (events : List AdapterEvent) : Elm L Unit :=
  .modify fun adapter => {adapter with events := adapter.events ++ events}

def pushEvent (kind : AdapterEventKind) (detail : Option Text) : Elm L Unit :=
  pushEvents [⟨kind, detail⟩]

/-- The text of a response, without null bytes. -/
def sanitizeResponseBytes (responseBytes : List UInt8) : Elm L Text := do
  let kept := responseBytes.filter (· != 0)
  let nullCount := responseBytes.length - kept.length
  if nullCount > 0 then
    pushEvent (.nullBytesFiltered nullCount)
      (some s!"filtered {nullCount} null bytes from adapter response".toList)
  pure (Text.fromUtf8Lossy kept)

def sendCommandRaw (cmd : Text) : Elm L Text := do
  onTransport (Link.write (Text.bytes (cmd ++ ['\r'])))
  let responseBytes ← onTransport Link.read
  sanitizeResponseBytes responseBytes

/-- One command after the other, the replies read and not looked at. -/
def sendCommandsRaw : List Text → Elm L Unit
  | [] => pure ()
  | cmd :: rest => do
    let _response ← sendCommandRaw cmd
    sendCommandsRaw rest

def runtimeDefaults : List Text :=
  ["ATE0".toList, "ATL0".toList, "ATH0".toList, "ATS0".toList, "ATAT1".toList, "ATCAF1".toList,
    "ATCFC1".toList]

def applyRuntimeDefaults : Elm L Unit := sendCommandsRaw runtimeDefaults

def protocolRuntimePolicy (protocol : Protocol) : List Text :=
  match protocol with
  | .iso9141 _ => ["ATSI".toList, "ATSW96".toList, "ATWM686AF10100".toList]
  | .kwp2000 .slowInit => ["ATSI".toList, "ATSW96".toList, "ATWMC133F13E".toList]
  | .kwp2000 .fastInit => ["ATFI".toList, "ATSW96".toList, "ATWMC133F13E".toList]
  | .can11Bit500 | .can11Bit250 | .can29Bit500 | .can29Bit250 => ["ATCAF1".toList, "ATCFC1".toList]
  | .j1850Pwm | .j1850Vpw | .auto => []

def applyProtocolRuntimePolicy (protocol : Protocol) : Elm L Unit :=
  sendCommandsRaw (protocolRuntimePolicy protocol)

def recoverFromAdapterFault : Elm L Unit := do
  pushEvent (.recoveryAction "ATFE".toList) (some "recovering from fatal adapter fault".toList)
  let _response ← sendCommandRaw "ATFE".toList
  .modify fun adapter => {adapter with currentHeader := none}
  applyRuntimeDefaults

def handleFaultRecovery (response : Text) : Elm L Unit :=
  if reportsFault response then recoverFromAdapterFault else pure ()

/-- Send a command and read the response. -/
def sendCommand (cmd : Text) : Elm L Text := do
  let response ← sendCommandRaw cmd
  pushEvents (responseEvents response)
  handleFaultRecovery response
  pure response

/-! ### Targets -/

def setHeader (header : Text) : Elm L Unit := do
  let adapter ← .get
  if adapter.currentHeader = some header then
    pure ()
  else
    let response ← sendCommand ("AT SH ".toList ++ header)
    if Text.contains response "OK".toList then
      .modify fun adapter => {adapter with currentHeader := some header}
      pushEvent (.headerChanged header) none
    else
      .throw (.adapter s!"AT SH failed: {String.ofList (Text.trim response)}")

def clearTargeting : Elm L Unit := do
  let adapter ← .get
  if adapter.currentHeader = none then
    pure ()
  else
    match defaultBroadcastHeader adapter.info.protocol with
    | none => .modify fun adapter => {adapter with currentHeader := none}
    | some header =>
      setHeader header
      pushEvent (.headerReset header) (some "restored broadcast header".toList)

def applyTarget (target : PhysicalTarget) : Elm L Unit :=
  match target with
  | .broadcast => clearTargeting
  | .addressed address =>
    match headerOf address with
    | some header => setHeader header
    | none => .throw (.adapter "J1939 addressed routing is not implemented yet")

/-! ### Requests -/

/-- The payload of a response to `cmd`, or the error it stands for. -/
def decodeResponse (family : BusFamily) (serviceId : UInt8) (data : List UInt8) (response : Text) :
    Except Obd2Error (List UInt8) :=
  match ElmCodec.decodeElmResponsePayloadForCommand response family (skipOf serviceId)
      (some (requestCommand serviceId data)) with
  | .ok payload => .ok (truncateKnownPayload serviceId data payload)
  | .error decodeErr =>
    match checkResponseError response with
    | .error e => .error e
    | .ok () => .error decodeErr

def sendRoutedCommand (serviceId : UInt8) (data : List UInt8) (target : PhysicalTarget) :
    Elm L (List UInt8) := do
  applyTarget target
  let response ← sendCommand (requestCommand serviceId data)
  let adapter ← .get
  .lift (decodeResponse (familyOf adapter.info.protocol) serviceId data response)

def routedRequest (req : RoutedRequest) : Elm L (List UInt8) :=
  sendRoutedCommand req.serviceId req.data req.target

/-- `supported_pids`: the bitmaps of every base, as far as there are answers. -/
def supportedPidsFrom : List UInt8 → List Pid → Elm L (List Pid)
  | [], all => pure all
  | base :: rest, all => do
    let cmd := requestCommand 0x01 [base]
    match ← (sendCommand cmd).attempt with
    | .error _ => pure all
    | .ok response =>
      let adapter ← .get
      match ElmCodec.decodeElmResponsePayloadsForCommand response (familyOf adapter.info.protocol) 2
          (some cmd) with
      | .ok payloads =>
        let found := (payloads.filter fun data => data.length ≥ 4).flatMap fun data =>
          (parseSupportedPids (data.take 4) base).map Pid.mk
        supportedPidsFrom rest (found.foldl (fun all pid => all.insert pid) all)
      | .error _ =>
        match checkResponseError response with
        | .error _ => pure all
        | .ok () => supportedPidsFrom rest all

def supportedPids : Elm L (List Pid) := supportedPidsFrom [0x00, 0x20, 0x40, 0x60] []

def batteryVoltage : Elm L (Option Float) := do
  let response ← sendCommand "ATRV".toList
  let cleaned := response.filter fun c => !(['V', 'v', '>', '\r', '\n'].contains c)
  pure (parseFloat (Text.trim cleaned))

/-! ### Initialization -/

def probeProtocol (protocol : Protocol) (source : ProtocolSelectionSource) (command : Text) :
    Elm L ProbeAttempt := do
  let _response ← sendCommand command
  let response ← sendCommand "0100".toList
  let result := if showsSupportedPids response then .success else classifyProbeResult response
  pure ⟨protocol, source, result, some (Text.trim response)⟩

/-- Explicit probes up to the first that succeeds, with the protocol it found. -/
def probeProtocols : List (Protocol × Text) → List ProbeAttempt →
    Elm L (List ProbeAttempt × Option Protocol)
  | [], attempts => pure (attempts, none)
  | (protocol, command) :: rest, attempts => do
    let attempt ← probeProtocol protocol .explicitProbe command
    if attempt.result = .success then pure (attempts ++ [attempt], some protocol)
    else probeProtocols rest (attempts ++ [attempt])

/-- Auto-detection first, explicit probes if it fails. -/
def selectProtocol : Elm L (List ProbeAttempt × Protocol) := do
  let response ← sendCommand "0100".toList
  if showsSupportedPids response then
    let attempt : ProbeAttempt := ⟨.auto, .autoDetect, .success, some (Text.trim response)⟩
    match ← (sendCommand "ATDPN".toList).attempt with
    | .ok protocolResponse => pure ([attempt], parseProtocolResponse protocolResponse)
    | .error _ => pure ([attempt], .auto)
  else
    let attempt : ProbeAttempt :=
      ⟨.auto, .autoDetect, classifyProbeResult response, some (Text.trim response)⟩
    let (attempts, found) ← probeProtocols fallbackProbeOrder [attempt]
    pure (attempts, found.getD .auto)

/-- Commands whose replies are recorded and otherwise not looked at. -/
def sendCommands : List Text → Elm L Unit
  | [] => pure ()
  | cmd :: rest => do
    let _response ← sendCommand cmd
    sendCommands rest

def drainEvents (adapter : Elm327Adapter L) : List AdapterEvent × Elm327Adapter L :=
  (adapter.events, {adapter with events := []})

def drain : Elm L (List AdapterEvent) := do
  let adapter ← .get
  let (events, adapter) := drainEvents adapter
  .set adapter
  pure events

def initializeAdapter : Elm L InitializationReport := do
  let adapter ← .get
  if adapter.initialized then
    let events ← drain
    pure ⟨adapter.info, [], events⟩
  else
    pushEvent .reset (some "initializing adapter".toList)
    let atzResponse ← sendCommand "ATZ".toList
    let stiReply ← (sendCommand "STI".toList).attempt
    let stiResponse :=
      match stiReply with
      | .ok response => if Text.contains response "?".toList then none else some response
      | .error _ => none
    let info := AdapterInfo.detect atzResponse stiResponse
    sendCommands
      ["ATE0".toList, "ATL0".toList, "ATH0".toList, "ATS0".toList, "ATAT1".toList, "ATSP0".toList]
    pushEvent .protocolSearching (some "ATSP0".toList)
    let (probeAttempts, protocol) ← selectProtocol
    let info := {info with protocol}
    if protocol = .auto then
      pushEvent .unsupportedProtocol (some "no supported protocol could be selected".toList)
      .throw (.adapter "unable to determine active protocol")
    else
      pushEvent (.protocolSelected protocol) none
      .modify fun adapter => {adapter with info}
      applyProtocolRuntimePolicy protocol
      .modify fun adapter => {adapter with initialized := true}
      let events ← drain
      pure ⟨info, probeAttempts, events⟩

instance : Adapter (Elm327Adapter L) where
  initializeAdapter := initializeAdapter
  routedRequest := routedRequest
  batteryVoltage := batteryVoltage
  info := (·.info)
  drainEvents := drainEvents

end Commands

end Elm327Adapter

end Obd2

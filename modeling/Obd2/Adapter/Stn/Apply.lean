import Obd2.Adapter.Stn.Wire
import Obd2.Transport.Link

/-! Setting up a route over a link.

The commands of a plan are sent one after the other; each waits for its response, and the first
response that is not OK ends it. `debug` is how a text is printed in quotes (`{:?}`); nothing but the
message of an error depends on it. -/
namespace Obd2

namespace Text

def toAsciiUppercase (t : Text) : Text := t.map Char.toUpper

end Text

/-! ### Responses -/

inductive StnResponseErrorKind where
  | empty
  | unknownCommand
  | outOfMemory
  | adapterFault (kind : String)
  | unexpected
  deriving DecidableEq, Repr

instance : ToString StnResponseErrorKind where
  toString
    | .empty => "empty response"
    | .unknownCommand => "unknown command"
    | .outOfMemory => "adapter filter memory exhausted"
    | .adapterFault kind => kind
    | .unexpected => "unexpected response"

/-- The faults of an adapter by the text that reports them; the first that is found counts. -/
def stnFaults : List (String × String) :=
  [("UNABLE TO CONNECT", "unable to connect"),
    ("BUS INIT", "bus initialization error"),
    ("BUS ERROR", "bus error"),
    ("CAN ERROR", "CAN error"),
    ("DATA ERROR", "data error"),
    ("RX ERROR", "RX error"),
    ("STOPPED", "command stopped"),
    ("LV RESET", "low-voltage reset"),
    ("LP ALERT", "low-power alert")]

/-- A line of a response without prompts, NUL characters and whitespace around it. -/
def stnLine (rawLine : Text) : Text :=
  Text.trim (Text.trimMatches (fun ch => ch == '>' || ch == Char.ofNat 0 || Text.isWhitespace ch) rawLine)

/-- What a line says, if it decides the response. -/
def stnVerdict (line : Text) : Option (Except StnResponseErrorKind Unit) :=
  let uppercase := Text.toAsciiUppercase line
  if uppercase = "OK".toList then some (.ok ())
  else if uppercase = "?".toList then some (.error .unknownCommand)
  else if uppercase = "OUT OF MEMORY".toList then some (.error .outOfMemory)
  else
    (stnFaults.find? fun fault => Text.contains uppercase fault.1.toList).map fun fault =>
      .error (.adapterFault fault.2)

def parseResponseLines (sawNonempty : Bool) : List Text → Except StnResponseErrorKind Unit
  | [] => .error (if sawNonempty then .unexpected else .empty)
  | rawLine :: rest =>
    if (stnLine rawLine).isEmpty then parseResponseLines sawNonempty rest
    else (stnVerdict (stnLine rawLine)).getD (parseResponseLines true rest)

def parseCommandResponse (response : Text) : Except StnResponseErrorKind Unit :=
  parseResponseLines false (response.splitOnP fun c => c == '\r' || c == '\n')

/-! ### Errors of a plan -/

/-- `{:?}`. -/
def BackendKind.name : BackendKind → String
  | .elm327 => "Elm327"
  | .stn => "Stn"
  | .nativeCan => "NativeCan"
  | .unknown => "Unknown"

/-- `{:?}`. -/
def LinkKind.name : LinkKind → String
  | .serial => "Serial"
  | .ble => "Ble"
  | .usb => "Usb"
  | .tcp => "Tcp"
  | .nativeCan => "NativeCan"
  | .mock => "Mock"

/-- `{:?}`. -/
def TransportKind.name : TransportKind → String
  | .isoTp => "IsoTp"
  | .j1850Vpw => "J1850Vpw"
  | .j1850Pwm => "J1850Pwm"
  | .kLine => "KLine"
  | .j1939 => "J1939"
  | .doIp => "DoIp"
  | .rawCan => "RawCan"
  | .rawCanFd => "RawCanFd"

/-- `{:?}`. -/
def SecondaryBus.name : SecondaryBus → String
  | .msCan125 => "MsCan125"
  | .swCanGmlan33 => "SwCanGmlan33"
  | .msGmlan95 => "MsGmlan95"

/-- `{:?}`. -/
def CapabilityMismatchKind.name : CapabilityMismatchKind → String
  | .unsupportedLink link => s!"UnsupportedLink({link.name})"
  | .unsupportedTransport transport => s!"UnsupportedTransport({transport.name})"
  | .secondaryCanUnavailable bus => s!"SecondaryCanUnavailable({bus.name})"
  | .canFdUnavailable => "CanFdUnavailable"
  | .insufficientChannels required available =>
    s!"InsufficientChannels \x7b required: {required}, available: {available} \x7d"
  | .insufficientPdu required available =>
    s!"InsufficientPdu \x7b required: {required}, available: {available} \x7d"

instance : ToString StnRouteError where
  toString
    | .capability mismatch => s!"backend {mismatch.backend.name} cannot satisfy route: {mismatch.kind.name}"
    | .invalidBitrate bitrate => s!"invalid STN CAN bitrate {bitrate} bps"
    | .invalidTimeoutMs timeout => s!"invalid STN protocol timeout {timeout} ms"

/-! ### The exchanges -/

structure StnCommandExchange where
  command : StnCommand
  encoded : Text
  response : Text
  deriving DecidableEq, Repr

structure StnApplyReport where
  route : CanRouteConfig
  preset : StnProtocolPreset
  exchanges : List StnCommandExchange
  deriving DecidableEq, Repr

section Link
variable {L : Type} [Link L] (debug : Text → String)

/-- The error of a command whose response is none of success. -/
def stnCommandFailed (encoded response : Text) (kind : StnResponseErrorKind) : Obd2Error :=
  .adapter s!"STN command `{String.ofList encoded}` failed: {kind}; response={debug (Text.trim response)}"

/-- A command as it is written. -/
def StnCommand.line (command : StnCommand) : List UInt8 := Text.bytes command.encode ++ [13]

def sendStnCommand (command : StnCommand) : Async Obd2Error L StnCommandExchange := do
  Link.write command.line
  let responseBytes ← Link.read
  let response := Text.fromUtf8Lossy responseBytes
  match parseCommandResponse response with
  | .error kind => .throw (stnCommandFailed debug command.encode response kind)
  | .ok () => pure ⟨command, command.encode, response⟩

def applyRoutePlan (plan : StnRoutePlan) : Async Obd2Error L StnApplyReport := do
  let exchanges ← plan.commands.mapM (sendStnCommand debug)
  return ⟨plan.route, plan.preset, exchanges⟩

def applyRoute (route : CanRouteConfig) (timeoutMs : Option UInt16) : Async Obd2Error L StnApplyReport :=
  match planRoute route timeoutMs with
  | .error e => .throw (.adapter (toString e))
  | .ok plan => applyRoutePlan debug plan

end Link

/-! ### What decides a response -/

/-- **The first line that decides is the response**: lines before it that say nothing the adapter knows do
not matter, nor does anything behind it; where no line decides, the response is an error. -/
theorem parseCommandResponse_eq (response : Text) :
    parseCommandResponse response =
      let lines := (response.splitOnP fun c => c == '\r' || c == '\n').map stnLine
      let said := lines.filter fun line => !line.isEmpty
      (said.findSome? stnVerdict).getD (.error (if said.isEmpty then .empty else .unexpected)) := by
  have hlines : ∀ (lines : List Text) (sawNonempty : Bool),
      parseResponseLines sawNonempty lines =
        let said := (lines.map stnLine).filter fun line => !line.isEmpty
        (said.findSome? stnVerdict).getD
          (.error (if said.isEmpty && !sawNonempty then .empty else .unexpected)) := by
    intro lines
    induction lines with
    | nil =>
      intro sawNonempty
      cases sawNonempty <;> rfl
    | cons rawLine rest ih =>
      intro sawNonempty
      rw [parseResponseLines, List.map_cons]
      by_cases hempty : (stnLine rawLine).isEmpty = true
      · rw [if_pos hempty, ih, List.filter_cons, hempty]
        rfl
      · have hsaid : (stnLine rawLine).isEmpty = false := Bool.eq_false_iff.mpr hempty
        rw [if_neg hempty, ih, List.filter_cons, hsaid]
        cases hverdict : stnVerdict (stnLine rawLine) with
        | none => simp [hverdict]
        | some verdict => simp [hverdict]
  rw [parseCommandResponse, hlines]
  simp

end Obd2

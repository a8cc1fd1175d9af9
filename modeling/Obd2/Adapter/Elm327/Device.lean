import Obd2.Adapter.Elm327.Answer

/-! The device at the other end of the link, as far as its header goes.

What happens to a command is an `Exchange`: the device may not get it, it may reply anything,
and either half of the exchange may fail on the way. The device sends under one header. An AT SH
command that it takes changes the header, whether or not its reply arrives; ATZ and the faults it
reports by LV RESET and ERR94 restore the default of the protocol.

Beside its header the device's state has `confirmed`, the header of the last AT SH whose OK
arrived, until an ATFE that is answered. The device does not read it; conditions on runs do. -/
namespace Obd2

/-- How far a command and its reply came. -/
inductive Delivery where
  | writeFailed (e : Obd2Error)
  | readFailed (e : Obd2Error)
  | delivered
  deriving DecidableEq, Repr

/-- What happens to a command. -/
inductive Exchange where
  /-- The write fails, and the device has not got the command. -/
  | unsent (e : Obd2Error)
  /-- The device has got the command and replies. If the command is AT SH and `taken`, it has
  taken the header; a device that replies OK has. -/
  | received (taken : Bool) (reply : List UInt8) (delivery : Delivery)
  deriving DecidableEq, Repr

namespace Exchange

def textOf (reply : List UInt8) : Text := Text.fromUtf8Lossy (reply.filter (· != 0))

def saysOk (text : Text) : Bool := Text.contains text "OK".toList

/-- The device has got the command. -/
def gets : Exchange → Bool
  | unsent _ => false
  | received .. => true

/-- The header given with the command is in force. -/
def takes : Exchange → Bool
  | unsent _ => false
  | received taken reply _ => taken || saysOk (textOf reply)

/-- The device was reset by a fault. -/
def resets : Exchange → Bool
  | unsent _ => false
  | received _ reply _ => Elm327Adapter.reportsFault (textOf reply)

/-- What comes of the write. -/
def written : Exchange → Except Obd2Error Unit
  | unsent e => .error e
  | received _ _ (.writeFailed e) => .error e
  | received _ _ _ => .ok ()

/-- What comes of the read. -/
def arrives : Exchange → Except Obd2Error (List UInt8)
  | unsent e => .error e
  | received _ _ (.writeFailed e) => .error e
  | received _ _ (.readFailed e) => .error e
  | received _ reply .delivered => .ok reply

/-- The text that comes back, or the error in its place. -/
def outcome (exchange : Exchange) : Except Obd2Error Text := exchange.arrives.map textOf

/-- The reply arrived, and says OK. -/
def confirms (exchange : Exchange) : Bool :=
  match exchange.outcome with
  | .ok text => saysOk text
  | .error _ => false

/-- A reply that arrives is the device's. -/
theorem of_outcome {exchange : Exchange} {text : Text} (h : exchange.outcome = .ok text) :
    exchange.gets = true ∧ exchange.resets = Elm327Adapter.reportsFault text ∧
      exchange.confirms = saysOk text := by
  cases exchange with
  | unsent e => cases h
  | received taken reply delivery =>
    cases delivery with
    | delivered =>
      cases h
      exact ⟨rfl, rfl, rfl⟩
    | writeFailed e => cases h
    | readFailed e => cases h

theorem confirms_error {exchange : Exchange} {e : Obd2Error} (h : exchange.outcome = .error e) :
    exchange.confirms = false := by
  rw [confirms, h]

theorem takes_of_confirms {exchange : Exchange} (h : exchange.confirms = true) : exchange.takes = true := by
  cases exchange with
  | unsent e => cases h
  | received taken reply delivery =>
    cases delivery with
    | delivered =>
      rw [show (received taken reply .delivered).confirms = saysOk (textOf reply) from rfl] at h
      rw [takes, h, Bool.or_true]
    | writeFailed e => cases h
    | readFailed e => cases h

end Exchange

/-! ### Commands -/

inductive DeviceCommand where
  /-- AT SH, with the rest of the line. -/
  | header (h : List UInt8)
  | reset
  | forgetEvents
  | setting
  /-- What is not an AT command is sent to the vehicle. -/
  | diagnostic
  deriving DecidableEq, Repr

def DeviceCommand.of (line : List UInt8) : DeviceCommand :=
  if (Text.bytes "AT".toList).isPrefixOf line then
    if (Text.bytes "AT SH ".toList).isPrefixOf line then .header (line.drop 6)
    else if line = Text.bytes "ATZ\r".toList then .reset
    else if line = Text.bytes "ATFE\r".toList then .forgetEvents
    else .setting
  else .diagnostic

/-! ### The device -/

/-- A command on the link, with the header in force when it was written. -/
structure Transmission where
  line : List UInt8
  header : Option (List UInt8)
  confirmed : Option (List UInt8)
  exchange : Exchange
  deriving DecidableEq, Repr

def Transmission.command (t : Transmission) : DeviceCommand := .of t.line

/-- The device and the link to it: `script` is what will happen to the commands to come, and
past its end nothing gets through. -/
structure Device where
  script : List Exchange
  header : Option (List UInt8)
  confirmed : Option (List UInt8)
  log : List Transmission
  pending : Except Obd2Error (List UInt8)

namespace Device

def nextExchange (device : Device) : Exchange := device.script.headD (.unsent .timeout)

def headerAfter (command : DeviceCommand) (exchange : Exchange) (header : Option (List UInt8)) :
    Option (List UInt8) :=
  if exchange.resets then none
  else
    match command with
    | .header h => if exchange.takes then some h else header
    | .reset => if exchange.gets then none else header
    | _ => header

def confirmedAfter (command : DeviceCommand) (exchange : Exchange) (confirmed : Option (List UInt8)) :
    Option (List UInt8) :=
  match command with
  | .header h => if exchange.confirms then some h else confirmed
  | .forgetEvents =>
    match exchange.outcome with
    | .ok _ => none
    | .error _ => confirmed
  | _ => confirmed

def transmission (device : Device) (line : List UInt8) : Transmission :=
  ⟨line, device.header, device.confirmed, device.nextExchange⟩

/-- The device after a command. -/
def after (device : Device) (line : List UInt8) : Device :=
  let exchange := device.nextExchange
  { script := device.script.tail
    header := headerAfter (.of line) exchange device.header
    confirmed := confirmedAfter (.of line) exchange device.confirmed
    log := device.log ++ [device.transmission line]
    pending := exchange.arrives }

instance : Link Device where
  write line := do
    let device ← .get
    .set (device.after line)
    .lift device.nextExchange.written
  read := do
    let device ← .get
    .lift device.pending

/-- A command as it is written, and a header as it stands at the end of one. -/
def lineOf (cmd : Text) : List UInt8 := Text.bytes (cmd ++ ['\r'])

/-- A command is one exchange. -/
theorem exchange_run (cmd : Text) (device : Device) :
    (Elm327Adapter.exchange cmd).run device =
      (Outcome.ofExcept device.nextExchange.outcome, device.after (lineOf cmd)) := by
  have hpending : (device.after (lineOf cmd)).pending = device.nextExchange.arrives := rfl
  have hwrite : (Link.write (lineOf cmd) : Async Obd2Error Device Unit).run device =
      (Outcome.ofExcept device.nextExchange.written, device.after (lineOf cmd)) := by
    show ((Async.get >>= fun device => Async.set (device.after (lineOf cmd)) >>= fun _ =>
      Async.lift device.nextExchange.written) : Async Obd2Error Device Unit).run device = _
    rw [Async.run_bind_ok (Async.run_get device), Async.run_bind_ok (Async.run_set ..), Async.run_lift]
  have hread : (Link.read : Async Obd2Error Device (List UInt8)).run (device.after (lineOf cmd)) =
      (Outcome.ofExcept device.nextExchange.arrives, device.after (lineOf cmd)) := by
    show ((Async.get >>= fun device => Async.lift device.pending) :
      Async Obd2Error Device (List UInt8)).run _ = _
    rw [Async.run_bind_ok (Async.run_get _), Async.run_lift, hpending]
  unfold Elm327Adapter.exchange
  rw [show Text.bytes (cmd ++ ['\r']) = lineOf cmd from rfl]
  cases hexchange : device.nextExchange with
  | unsent e =>
    rw [hexchange] at hwrite
    rw [Async.run_bind_error hwrite]
    rfl
  | received taken reply delivery =>
    rw [hexchange] at hwrite hread
    cases delivery with
    | writeFailed e =>
      rw [Async.run_bind_error hwrite]
      rfl
    | readFailed e =>
      rw [Async.run_bind_ok hwrite, Async.run_bind_error hread]
      rfl
    | delivered =>
      rw [Async.run_bind_ok hwrite, Async.run_bind_ok hread]
      rfl

end Device

/-! ### The commands of the adapter -/

section Commands

theorem bytes_append (a b : Text) : Text.bytes (a ++ b) = Text.bytes a ++ Text.bytes b :=
  List.flatMap_append

theorem command_setHeader (header : Text) :
    DeviceCommand.of (Device.lineOf ("AT SH ".toList ++ header)) = .header (Device.lineOf header) := by
  have hline : Device.lineOf ("AT SH ".toList ++ header) =
      Text.bytes "AT SH ".toList ++ Device.lineOf header := by
    rw [Device.lineOf, List.append_assoc, bytes_append]
    rfl
  have hat : (Text.bytes "AT".toList).isPrefixOf (Text.bytes "AT SH ".toList ++ Device.lineOf header) = true :=
    rfl
  have hsh : (Text.bytes "AT SH ".toList).isPrefixOf
      (Text.bytes "AT SH ".toList ++ Device.lineOf header) = true := rfl
  rw [hline, DeviceCommand.of, if_pos hat, if_pos hsh]
  rfl

/-- The first digit of a request may be A; the second is no T. -/
theorem command_request (serviceId : UInt8) (data : List UInt8) :
    DeviceCommand.of (Device.lineOf (Elm327Adapter.requestCommand serviceId data)) = .diagnostic := by
  have hline : Device.lineOf (Elm327Adapter.requestCommand serviceId data) =
      Text.hexDigitByte (serviceId >>> 4) :: Text.hexDigitByte (serviceId &&& 0x0F) ::
        (data.flatMap Hex.digitsOf ++ Text.bytes ['\r']) := by
    rw [Device.lineOf, bytes_append, Elm327Adapter.requestCommand, Hex.bytes_flatMap_hexByte]
    rfl
  have hsecond : (84 : UInt8) ≠ Text.hexDigitByte (serviceId &&& 0x0F) := by
    intro h
    have hdigit := Hex.hexNibble_low serviceId
    rw [← h] at hdigit
    cases hdigit
  have hat : ¬ (Text.bytes "AT".toList).isPrefixOf
      (Device.lineOf (Elm327Adapter.requestCommand serviceId data)) = true := by
    rw [hline, List.isPrefixOf_iff_prefix]
    intro h
    exact hsecond (List.cons_prefix_cons.mp (List.cons_prefix_cons.mp h).2).1
  rw [DeviceCommand.of, if_neg hat]

theorem command_default {cmd : Text} (h : cmd ∈ Elm327Adapter.runtimeDefaults) :
    DeviceCommand.of (Device.lineOf cmd) = .setting := by
  revert cmd
  decide

end Commands

end Obd2

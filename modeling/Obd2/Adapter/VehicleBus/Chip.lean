import Obd2.Adapter.Elm327.Alike
import Obd2.Adapter.Elm327.Device
import Obd2.Adapter.VehicleBus
import Obd2.Text.Ascii
import Obd2.Transport.Prompt

/-! A chip that speaks the text protocol for the modules of a vehicle.

The chip takes characters up to a carriage return. A line is a setting, or a request for the modules, whose
answer it prints. All it prints is ASCII up to a prompt, and nothing of it is taken for an event or a fault
(`isReply_perform`). So a command on its stream is one step of the chip (`command_run`). -/
namespace Obd2
open Async Elm327Adapter

structure Elm327Chip (V : Type) where
  vehicle : V
  protocol : Protocol
  /-- The header that was set; the default of the protocol otherwise. -/
  header : Option Text
  /-- What has come of the next line. -/
  line : List UInt8

inductive ChipCommand where
  | setHeader (header : Text)
  | reset
  | voltage
  | describeProtocol
  | setting
  | request (serviceId : UInt8) (data : List UInt8)
  | unknown
  deriving DecidableEq, Repr

def ChipCommand.of (line : Text) : ChipCommand :=
  if "AT".toList.isPrefixOf line then
    if "AT SH ".toList.isPrefixOf line then .setHeader (line.drop 6)
    else if line = "ATZ".toList then .reset
    else if line = "ATRV".toList then .voltage
    else if line = "ATDPN".toList then .describeProtocol
    else .setting
  else
    match Hex.parseCompactHex line with
    | .ok (serviceId :: data) => .request serviceId data
    | _ => .unknown

/-- The digit of a protocol. -/
def Protocol.elmCode : Protocol → Char
  | .j1850Pwm => '1'
  | .j1850Vpw => '2'
  | .iso9141 _ => '3'
  | .kwp2000 .slowInit => '4'
  | .kwp2000 .fastInit => '5'
  | .can11Bit500 => '6'
  | .can29Bit500 => '7'
  | .can11Bit250 => '8'
  | .can29Bit250 => '9'
  | .auto => '0'

def voltageText (tenths : Nat) : Text :=
  Nat.toDigits 10 (tenths / 10) ++ '.' :: (Nat.toDigits 10 (tenths % 10) ++ "V\r\r>".toList)

namespace Elm327Chip
variable {V : Type} [VehicleBus V]

/-- What is printed, and the chip behind it. -/
def perform (command : ChipCommand) (chip : Elm327Chip V) : Text × Elm327Chip V :=
  match command with
  | .setHeader header => ("OK\r\r>".toList, {chip with header := some header})
  | .reset => ("ELM327 v1.5\r\r>".toList, {chip with header := none})
  | .voltage => (voltageText (VehicleBus.voltage chip.vehicle), chip)
  | .describeProtocol => ('A' :: chip.protocol.elmCode :: "\r\r>".toList, chip)
  | .setting => ("OK\r\r>".toList, chip)
  | .request serviceId data =>
    let header := chip.header.getD ((defaultBroadcastHeader chip.protocol).getD [])
    let (answer, vehicle) := VehicleBus.ask header serviceId data chip.vehicle
    (answer.text serviceId data, {chip with vehicle})
  | .unknown => ("?\r\r>".toList, chip)

instance : StreamDevice (Elm327Chip V) where
  write b chip :=
    if b = 13 then
      let (reply, chip) := {chip with line := []}.perform (.of (Text.ofAscii chip.line))
      (.ok (), (Text.bytes reply).map .byte, chip)
    else (.ok (), [], {chip with line := chip.line ++ [b]})

end Elm327Chip

/-! ### Replies without events -/

/-- The characters of digits and numbers, and of the end of a reply. -/
def isPlain (c : Char) : Bool := "0123456789ABCDEF.V\r>".toList.contains c

/-- A message with another character is in no plain text. -/
theorem not_contains_of_plain {response : Text} (h : ∀ c ∈ response, isPlain c = true) {message : Text}
    (hmessage : (message.any fun c => !isPlain c) = true) : Text.contains (Text.trim response) message = false := by
  apply Bool.eq_false_iff.mpr
  intro hcontains
  obtain ⟨c, hc, hplain⟩ := List.any_eq_true.mp hmessage
  have hpart := ((Text.contains_iff_infix _ _).mp hcontains).trans (Text.trim_infix response)
  rw [h c (hpart.subset hc)] at hplain
  cases hplain

/-- A reply of ASCII up to its prompt, which reports nothing. -/
structure IsReply (t : Text) : Prop where
  ascii : Text.Ascii t
  nonzero : ∀ c ∈ t, c.toNat ≠ 0
  prompted : ∃ body, t = body ++ ['>'] ∧ '>' ∉ body
  silent : responseEvents t = []
  faultless : reportsFault t = false

theorem isReply_of_plain {body : Text} (h : ∀ c ∈ body, isPlain c = true) (hprompt : '>' ∉ body) :
    IsReply (body ++ ['>']) := by
  have hplain : ∀ c ∈ body ++ ['>'], isPlain c = true :=
    List.forall_mem_append.mpr ⟨h, List.forall_mem_singleton.mpr (by decide)⟩
  have hchar : ∀ c, isPlain c = true → c.toNat < 128 ∧ c.toNat ≠ 0 := by
    intro c hc
    have hmem : c ∈ "0123456789ABCDEF.V\r>".toList := List.contains_iff_mem.mp hc
    have hall : ("0123456789ABCDEF.V\r>".toList.all fun c => decide (c.toNat < 128 ∧ c.toNat ≠ 0)) = true := by decide
    exact of_decide_eq_true (List.all_eq_true.mp hall c hmem)
  have hnot (message : String) (hmessage : (message.toList.any fun c => !isPlain c) = true) :
      Text.contains (Text.trim (body ++ ['>'])) message.toList = false := not_contains_of_plain hplain hmessage
  have hquestion : Text.trim (body ++ ['>']) ≠ "?".toList := by
    intro heq
    have hcontains := hnot "?" (by decide)
    rw [heq] at hcontains
    exact absurd hcontains (by decide)
  refine ⟨fun c hc => (hchar c (hplain c hc)).1, fun c hc => (hchar c (hplain c hc)).2, ⟨body, rfl, hprompt⟩, ?_, ?_⟩
  · rw [responseEvents]
    dsimp only
    rw [hnot "SEARCHING..." (by decide), hnot "BUS BUSY" (by decide), hnot "LP ALERT" (by decide),
      hnot "BUS ERROR" (by decide), hnot "CAN ERROR" (by decide), hnot "DATA ERROR" (by decide),
      hnot "<RX ERROR" (by decide), hnot "STOPPED" (by decide), hnot "ERR94" (by decide), hnot "LV RESET" (by decide),
      if_neg hquestion]
    rfl
  · rw [reportsFault, hnot "ERR94" (by decide), hnot "LV RESET" (by decide)]
    rfl

/-- A given text, checked as it is. -/
def checksReply (t : Text) : Bool :=
  t.all (fun c => decide (c.toNat < 128) && decide (c.toNat ≠ 0)) && t.getLast? == some '>' &&
    !t.dropLast.contains '>' && (responseEvents t).isEmpty && !reportsFault t

theorem isReply_of_check {t : Text} (h : checksReply t = true) : IsReply t := by
  simp only [checksReply, Bool.and_eq_true, Bool.not_eq_true', List.all_eq_true, decide_eq_true_eq, beq_iff_eq,
    List.isEmpty_iff] at h
  obtain ⟨⟨⟨⟨hchars, hlast⟩, hprompt⟩, hsilent⟩, hfault⟩ := h
  refine ⟨fun c hc => (hchars c hc).1, fun c hc => (hchars c hc).2, ⟨t.dropLast, ?_, ?_⟩, hsilent, hfault⟩
  · exact (List.dropLast_append_getLast? '>' hlast).symm
  · intro hmem
    rw [List.contains_iff_mem.mpr hmem] at hprompt
    cases hprompt

/-- Lines of digits are plain, and have no prompt within them. -/
theorem isReply_linesText (lines : List (List UInt8)) : IsReply (BusAnswer.linesText lines) := by
  have hdigits : ∀ b : UInt8, ((Text.hexByte b).all fun c => isPlain c && c != '>') = true := forall_byte (by decide +kernel)
  have hall : ∀ c ∈ lines.flatMap (fun bytes => bytes.flatMap Text.hexByte ++ ['\r']) ++ ['\r'],
      (isPlain c && c != '>') = true := by
    intro c hc
    rcases List.mem_append.mp hc with hc | hc
    · obtain ⟨bytes, -, hc⟩ := List.mem_flatMap.mp hc
      rcases List.mem_append.mp hc with hc | hc
      · obtain ⟨b, -, hc⟩ := List.mem_flatMap.mp hc
        exact List.all_eq_true.mp (hdigits b) c hc
      · rw [List.mem_singleton.mp hc]
        decide
    · rw [List.mem_singleton.mp hc]
      decide
  have htext : BusAnswer.linesText lines =
      (lines.flatMap (fun bytes => bytes.flatMap Text.hexByte ++ ['\r']) ++ ['\r']) ++ ['>'] := by
    rw [BusAnswer.linesText, List.append_assoc]
    rfl
  rw [htext]
  refine isReply_of_plain (fun c hc => (Bool.and_eq_true_iff.mp (hall c hc)).1) fun hc => ?_
  exact absurd (Bool.and_eq_true_iff.mp (hall '>' hc)).2 (by decide)

theorem isReply_answer (serviceId : UInt8) (data : List UInt8) (answer : BusAnswer) :
    IsReply (answer.text serviceId data) := by
  have hsilent : IsReply "NO DATA\r\r>".toList := isReply_of_check (by decide +kernel)
  cases answer with
  | silent => exact hsilent
  | refused code => exact isReply_linesText _
  | acknowledged => exact isReply_linesText _
  | answered first others => exact isReply_linesText _

theorem isReply_voltage (tenths : Nat) : IsReply (voltageText tenths) := by
  have htext : voltageText tenths =
      (Nat.toDigits 10 (tenths / 10) ++ '.' :: (Nat.toDigits 10 (tenths % 10) ++ "V\r\r".toList)) ++ ['>'] := by
    rw [voltageText, List.append_assoc, List.cons_append, List.append_assoc]
    rfl
  have hall : ∀ c ∈ Nat.toDigits 10 (tenths / 10) ++ '.' :: (Nat.toDigits 10 (tenths % 10) ++ "V\r\r".toList),
      (isPlain c && c != '>') = true := by
    have hdigits := Text.forall_toDigits (b := 10) (P := fun c => (isPlain c && c != '>') = true) (by decide) (by decide)
    have hend : ("V\r\r".toList.all fun c => isPlain c && c != '>') = true := by decide
    exact List.forall_mem_append.mpr ⟨hdigits _, List.forall_mem_cons.mpr
      ⟨by decide, List.forall_mem_append.mpr ⟨hdigits _, List.all_eq_true.mp hend⟩⟩⟩
  rw [htext]
  refine isReply_of_plain (fun c hc => (Bool.and_eq_true_iff.mp (hall c hc)).1) fun hc => ?_
  exact absurd (Bool.and_eq_true_iff.mp (hall '>' hc)).2 (by decide)

theorem elmCode_digit (protocol : Protocol) : protocol.elmCode ∈ "0123456789".toList := by
  cases protocol with
  | iso9141 init => cases init <;> decide
  | kwp2000 init => cases init <;> decide
  | _ => decide

/-- Whatever the chip is told, it replies. -/
theorem isReply_perform {V : Type} [VehicleBus V] (command : ChipCommand) (chip : Elm327Chip V) :
    IsReply (chip.perform command).1 := by
  have hok : IsReply "OK\r\r>".toList := isReply_of_check (by decide +kernel)
  have hbanner : IsReply "ELM327 v1.5\r\r>".toList := isReply_of_check (by decide +kernel)
  have hunknown : IsReply "?\r\r>".toList := isReply_of_check (by decide +kernel)
  cases command with
  | setHeader header => exact hok
  | reset => exact hbanner
  | voltage => exact isReply_voltage _
  | describeProtocol =>
    have hdigits : ("0123456789".toList.all fun c => checksReply ('A' :: c :: "\r\r>".toList)) = true := by decide +kernel
    exact isReply_of_check (List.all_eq_true.mp hdigits _ (elmCode_digit _))
  | setting => exact hok
  | request serviceId data => exact isReply_answer serviceId data _
  | unknown => exact hunknown

/-! ### Commands on the stream -/

/-- A text that is a line. -/
def IsCommand (cmd : Text) : Prop := ∀ c ∈ cmd, c.toNat < 128 ∧ c ≠ '\r'

/-- For texts that are given. -/
theorem isCommand_of_all {t : Text} (h : (t.all fun c => decide (c.toNat < 128) && c != '\r') = true) : IsCommand t := by
  intro c hc
  obtain ⟨hascii, hreturn⟩ := Bool.and_eq_true_iff.mp (List.all_eq_true.mp h c hc)
  exact ⟨of_decide_eq_true hascii, bne_iff_ne.mp hreturn⟩

section Stream
variable {V : Type} [VehicleBus V]

/-- The chip waits for a command, and all it has said was read. -/
structure Waiting (link : StreamLink (Elm327Chip V)) : Prop where
  line : link.device.line = []
  pending : link.pending = []

/-- The link behind a command and its reply. -/
def StreamLink.told (command : ChipCommand) (link : StreamLink (Elm327Chip V)) : StreamLink (Elm327Chip V) :=
  {link with device := (link.device.perform command).2}

theorem perform_line (command : ChipCommand) (chip : Elm327Chip V) : (chip.perform command).2.line = chip.line := by
  cases command <;> rfl

theorem Waiting.told {link : StreamLink (Elm327Chip V)} (h : Waiting link) (command : ChipCommand) :
    Waiting (link.told command) := ⟨(perform_line command link.device).trans h.line, h.pending⟩

theorem write_character {b : UInt8} (hb : b ≠ 13) (chip : Elm327Chip V) :
    StreamDevice.write b chip = (.ok (), [], {chip with line := chip.line ++ [b]}) := if_neg hb

theorem write_characters {data : List UInt8} (hdata : 13 ∉ data) (link : StreamLink (Elm327Chip V)) :
    (data.forM StreamLink.writeByte : Async Obd2Error (StreamLink (Elm327Chip V)) Unit).run link =
      (.ok (), {link with device := {link.device with line := link.device.line ++ data}}) := by
  induction data generalizing link with
  | nil =>
    rw [List.append_nil]
    rfl
  | cons b data ih =>
    have hb : b ≠ 13 := fun h => hdata (h ▸ List.mem_cons_self)
    have hwrite : (StreamLink.writeByte b : Async Obd2Error (StreamLink (Elm327Chip V)) Unit).run link =
        (.ok (), {link with device := {link.device with line := link.device.line ++ [b]}}) := by
      show (let (outcome, signals, device) := StreamDevice.write b link.device
        (outcome, {link with device, pending := link.pending ++ signals})) = _
      rw [write_character hb]
      simp only [List.append_nil]
    show (StreamLink.writeByte b >>= fun _ => data.forM StreamLink.writeByte : Async Obd2Error _ Unit).run link = _
    rw [run_bind_ok hwrite, ih fun h => hdata (List.mem_cons_of_mem b h)]
    simp only [List.append_assoc, List.singleton_append]

/-- The last character of a line, and the chip replies. -/
theorem write_end (link : StreamLink (Elm327Chip V)) :
    (StreamLink.writeByte 13 : Async Obd2Error (StreamLink (Elm327Chip V)) Unit).run link =
      let chip := {link.device with line := []}.perform (.of (Text.ofAscii link.device.line))
      (.ok (), {link with device := chip.2, pending := link.pending ++ (Text.bytes chip.1).map .byte}) := rfl

/-- A reply is read whole. -/
theorem readSignals_reply {body : List UInt8} (hbody : promptByte ∉ body) (kind : PortKind) (result : List UInt8) :
    StreamLink.readSignals kind result ((body ++ [promptByte]).map .byte) = (.ok (result ++ body ++ [promptByte]), []) := by
  induction body generalizing result with
  | nil =>
    rw [List.append_nil]
    exact if_pos rfl
  | cons b body ih =>
    have hb : b ≠ promptByte := fun h => hbody (h ▸ List.mem_cons_self)
    rw [List.cons_append, List.map_cons, StreamLink.readSignals, if_neg hb, ih fun h => hbody (List.mem_cons_of_mem b h),
      List.append_assoc, List.append_assoc, List.append_assoc]
    rfl

theorem read_run (link : StreamLink (Elm327Chip V)) :
    (Link.read : Async Obd2Error (StreamLink (Elm327Chip V)) (List UInt8)).run link =
      ((StreamLink.readSignals link.kind [] link.pending).1,
        {link with pending := (StreamLink.readSignals link.kind [] link.pending).2}) := rfl

/-- A command is written, and its reply is read. -/
theorem command_run {cmd : Text} (hcmd : IsCommand cmd) {link : StreamLink (Elm327Chip V)} (hwaiting : Waiting link) :
    ∃ link', (Link.write (Text.bytes (cmd ++ ['\r'])) : Async Obd2Error (StreamLink (Elm327Chip V)) Unit).run link =
        (.ok (), link') ∧
      (Link.read : Async Obd2Error (StreamLink (Elm327Chip V)) (List UInt8)).run link' =
        (.ok (Text.bytes (link.device.perform (.of cmd)).1), link.told (.of cmd)) := by
  obtain ⟨kind, ⟨vehicle, protocol, header, line⟩, pending⟩ := link
  obtain ⟨hline, hpending⟩ := hwaiting
  dsimp only at hline hpending
  subst hline hpending
  have hascii : Text.Ascii cmd := fun c hc => (hcmd c hc).1
  have hreturn : (13 : UInt8) ∉ Text.bytes cmd :=
    Text.not_mem_bytes hascii (d := '\r') (by decide) fun hc => (hcmd _ hc).2 rfl
  have hreply := isReply_perform (.of cmd) (⟨vehicle, protocol, header, []⟩ : Elm327Chip V)
  obtain ⟨body, hbody, hprompt⟩ := hreply.prompted
  have hbytes : Text.bytes (cmd ++ ['\r']) = Text.bytes cmd ++ [13] := bytes_append cmd ['\r']
  have hwrites : (Text.bytes cmd ++ [13]).forM (StreamLink.writeByte (D := Elm327Chip V)) =
      ((Text.bytes cmd).forM StreamLink.writeByte >>= fun _ => [13].forM StreamLink.writeByte) := List.forM_append
  refine ⟨⟨kind, ((⟨vehicle, protocol, header, []⟩ : Elm327Chip V).perform (.of cmd)).2,
    (Text.bytes ((⟨vehicle, protocol, header, []⟩ : Elm327Chip V).perform (.of cmd)).1).map .byte⟩, ?_, ?_⟩
  · show ((Text.bytes (cmd ++ ['\r'])).forM StreamLink.writeByte : Async Obd2Error _ Unit).run _ = _
    rw [hbytes, hwrites, run_bind_ok (write_characters hreturn _)]
    show (StreamLink.writeByte 13 >>= fun _ => pure () : Async Obd2Error _ Unit).run _ = _
    rw [run_bind_ok (write_end _)]
    simp only [List.nil_append, Text.ofAscii_bytes hascii]
    rfl
  · have hbodyAscii : Text.Ascii body := fun c hc => hreply.ascii c (hbody ▸ List.mem_append_left _ hc)
    have hnot : promptByte ∉ Text.bytes body := Text.not_mem_bytes hbodyAscii (d := '>') (by decide) hprompt
    have hsplit : Text.bytes (body ++ ['>']) = Text.bytes body ++ [promptByte] := bytes_append body ['>']
    rw [read_run, hbody, hsplit, readSignals_reply hnot, List.nil_append]
    rfl

end Stream

end Obd2

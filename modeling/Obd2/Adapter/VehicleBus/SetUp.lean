import Obd2.Adapter.VehicleBus.Refines

/-! How an adapter gets set up.

A new adapter finds out the protocol of the chip, if the vehicle answers the request for supported PIDs under its
default header, and is set up from then on (`initialize_agrees`). -/
namespace Obd2
open Async Elm327Adapter

section Initialization
variable {V : Type} [VehicleBus V]

/-- A chip for this vehicle waits under the default header. -/
structure AtDefault (vehicle : V) (protocol : Protocol) (link : StreamLink (Elm327Chip V)) : Prop where
  waiting : Waiting link
  header : link.device.header = none
  vehicle : link.device.vehicle = vehicle
  protocol : link.device.protocol = protocol

/-- Commands that neither set a header nor ask the modules. -/
def ChipCommand.isLocal : ChipCommand → Bool
  | setHeader _ | request _ _ => false
  | _ => true

theorem AtDefault.told {vehicle : V} {protocol : Protocol} {link : StreamLink (Elm327Chip V)}
    (h : AtDefault vehicle protocol link) {command : ChipCommand} (hcommand : command.isLocal = true) :
    AtDefault vehicle protocol (link.told command) := by
  refine ⟨h.waiting.told command, ?_, ?_, ?_⟩
  · cases command with
    | setHeader header => cases hcommand
    | request serviceId data => cases hcommand
    | reset => rfl
    | _ => exact h.header
  · cases command with
    | setHeader header => cases hcommand
    | request serviceId data => cases hcommand
    | _ => exact h.vehicle
  · cases command with
    | request serviceId data => cases hcommand
    | _ => exact h.protocol

/-- A command of the initialization. -/
def isLocalCommand (cmd : Text) : Bool :=
  cmd.all (fun c => decide (c.toNat < 128) && c != '\r') && (ChipCommand.of cmd).isLocal

theorem isCommand_of_local {cmd : Text} (h : isLocalCommand cmd = true) :
    IsCommand cmd ∧ (ChipCommand.of cmd).isLocal = true := by
  obtain ⟨hall, hlocal⟩ := Bool.and_eq_true_iff.mp h
  exact ⟨isCommand_of_all hall, hlocal⟩

section Steps
variable {vehicle : V} {protocol : Protocol}

theorem sendCommand_atDefault {cmd : Text} (hcmd : isLocalCommand cmd = true)
    {a : Elm327Adapter (StreamLink (Elm327Chip V))} (h : AtDefault vehicle protocol a.transport) :
    ∃ link, (sendCommand cmd).run a = (.ok (a.transport.device.perform (.of cmd)).1, {a with transport := link}) ∧
      AtDefault vehicle protocol link := by
  obtain ⟨hcommand, hlocal⟩ := isCommand_of_local hcmd
  exact ⟨_, sendCommand_told hcommand h.waiting, h.told hlocal⟩

theorem sendCommands_atDefault {cmds : List Text} (hcmds : cmds.all isLocalCommand = true)
    {a : Elm327Adapter (StreamLink (Elm327Chip V))} (h : AtDefault vehicle protocol a.transport) :
    ∃ link, (sendCommands cmds).run a = (.ok (), {a with transport := link}) ∧ AtDefault vehicle protocol link := by
  induction cmds generalizing a with
  | nil => exact ⟨a.transport, rfl, h⟩
  | cons cmd cmds ih =>
    obtain ⟨hcmd, hrest⟩ := Bool.and_eq_true_iff.mp hcmds
    obtain ⟨link, hrun, hdefault⟩ := sendCommand_atDefault hcmd h
    obtain ⟨link', hrun', hdefault'⟩ := ih hrest (a := {a with transport := link}) hdefault
    exact ⟨link', by rw [sendCommands, run_bind_ok hrun, hrun'], hdefault'⟩

theorem sendCommandsRaw_atDefault {cmds : List Text} (hcmds : cmds.all isLocalCommand = true)
    {a : Elm327Adapter (StreamLink (Elm327Chip V))} (h : AtDefault vehicle protocol a.transport) :
    ∃ link, (sendCommandsRaw cmds).run a = (.ok (), {a with transport := link}) ∧ AtDefault vehicle protocol link := by
  induction cmds generalizing a with
  | nil => exact ⟨a.transport, rfl, h⟩
  | cons cmd cmds ih =>
    obtain ⟨hcmd, hrest⟩ := Bool.and_eq_true_iff.mp hcmds
    obtain ⟨hcommand, hlocal⟩ := isCommand_of_local hcmd
    obtain ⟨link', hrun', hdefault'⟩ := ih hrest (a := {a with transport := a.transport.told (.of cmd)}) (h.told hlocal)
    exact ⟨link', by rw [sendCommandsRaw, run_bind_ok (sendCommandRaw_told hcommand h.waiting), hrun'], hdefault'⟩

end Steps

/-! ### The protocol -/

def BusAnswer.isPositive : BusAnswer → Bool
  | acknowledged | answered _ _ => true
  | _ => false

/-- A positive answer to the request for supported PIDs is noticed. -/
theorem showsSupportedPids_of_positive {answer : BusAnswer} (h : answer.isPositive = true) :
    showsSupportedPids (answer.text 0x01 [0x00]) = true := by
  have hcontains (bytes : List UInt8) (lines : List (List UInt8)) :
      Text.contains (BusAnswer.linesText ((0x41 :: 0x00 :: bytes) :: lines)) "4100".toList = true := by
    rw [Text.contains_iff_infix, BusAnswer.linesText_cons]
    exact (List.prefix_append "4100".toList _).isInfix
  rw [showsSupportedPids, Bool.or_eq_true_iff]
  cases answer with
  | silent => cases h
  | refused code => cases h
  | acknowledged => exact .inr (hcontains [] [])
  | answered first others => exact .inr (hcontains first.val _)

theorem parseProtocolResponse_code {protocol : Protocol} (h : Protocol.fromElmCode protocol.elmCode = some protocol) :
    parseProtocolResponse ('A' :: protocol.elmCode :: "\r\r>".toList) = protocol := by
  have hcodes : ("0123456789".toList.all fun c => decide (parseProtocolResponse ('A' :: c :: "\r\r>".toList) =
      (Protocol.fromElmCode c).getD .auto)) = true := by decide +kernel
  rw [of_decide_eq_true (List.all_eq_true.mp hcodes _ (elmCode_digit protocol)), h]
  rfl

/-- The default header under which the modules are asked first. -/
def firstHeader (protocol : Protocol) : Text := (defaultBroadcastHeader protocol).getD []

theorem selectProtocol_atDefault {vehicle : V} {protocol : Protocol} {a : Elm327Adapter (StreamLink (Elm327Chip V))}
    (h : AtDefault vehicle protocol a.transport) (hcode : Protocol.fromElmCode protocol.elmCode = some protocol)
    (hanswer : (VehicleBus.ask (firstHeader protocol) 0x01 [0x00] vehicle).1.isPositive = true) :
    ∃ attempts vehicle' link, (selectProtocol).run a = (.ok (attempts, protocol), {a with transport := link}) ∧
      AtDefault vehicle' protocol link := by
  have hcommand : IsCommand "0100".toList := requestCommand_isCommand 0x01 [0x00]
  have hsent := sendCommand_told hcommand h.waiting
  have hof : ChipCommand.of "0100".toList = .request 0x01 [0x00] := of_requestCommand 0x01 [0x00]
  have hreply : (a.transport.device.perform (.request 0x01 [0x00])).1 =
      (VehicleBus.ask (firstHeader protocol) 0x01 [0x00] vehicle).1.text 0x01 [0x00] := by
    show (VehicleBus.ask (a.transport.device.header.getD _) _ _ _).1.text _ _ = _
    rw [h.header, h.protocol, h.vehicle]
    rfl
  have hasked : AtDefault (VehicleBus.ask (firstHeader protocol) 0x01 [0x00] vehicle).2 protocol
      (a.transport.told (.request 0x01 [0x00])) := by
    refine ⟨h.waiting.told _, h.header, ?_, h.protocol⟩
    show (VehicleBus.ask (a.transport.device.header.getD _) _ _ _).2 = _
    rw [h.header, h.protocol, h.vehicle]
    rfl
  have hlocal : isLocalCommand "ATDPN".toList = true := by decide
  obtain ⟨link, hdescribed, hdefault⟩ := sendCommand_atDefault hlocal
    (a := {a with transport := a.transport.told (.request 0x01 [0x00])}) hasked
  rw [hof, hreply] at hsent
  have hdescription : ((a.transport.told (.request 0x01 [0x00])).device.perform (.of "ATDPN".toList)).1 =
      'A' :: protocol.elmCode :: "\r\r>".toList := by
    show 'A' :: (a.transport.told (.request 0x01 [0x00])).device.protocol.elmCode :: _ = _
    rw [hasked.protocol]
  rw [hdescription] at hdescribed
  have hattempt : ((sendCommand "ATDPN".toList).attempt).run {a with transport := a.transport.told (.request 0x01 [0x00])} =
      (.ok (.ok ('A' :: protocol.elmCode :: "\r\r>".toList)), {a with transport := link}) := run_attempt_of_ends hdescribed
  rw [selectProtocol, run_bind_ok hsent, showsSupportedPids_of_positive hanswer, if_pos rfl, run_bind_ok hattempt]
  dsimp only
  rw [parseProtocolResponse_code hcode]
  exact ⟨_, _, link, rfl, hdefault⟩

theorem policy_local (protocol : Protocol) : (protocolRuntimePolicy protocol).all isLocalCommand = true := by
  cases protocol with
  | iso9141 init => cases init <;> decide
  | kwp2000 init => cases init <;> decide
  | _ => decide

/-- A new adapter has told the chip its settings. -/
theorem prepare_atDefault {link : StreamLink (Elm327Chip V)} (hwaiting : Waiting link) :
    ∃ info link' events, (prepare).run (Elm327Adapter.new link) = (.ok info, {Elm327Adapter.new link' with events}) ∧
      AtDefault link.device.vehicle link.device.protocol link' := by
  let began : List AdapterEvent := [⟨.reset, some "initializing adapter".toList⟩]
  have hreset : IsCommand "ATZ".toList := isCommand_of_all (by decide)
  have hidentify : isLocalCommand "STI".toList = true := by decide
  have hsettings : ["ATE0".toList, "ATL0".toList, "ATH0".toList, "ATS0".toList, "ATAT1".toList, "ATSP0".toList].all
      isLocalCommand = true := by decide
  have hzero : (sendCommand "ATZ".toList).run {Elm327Adapter.new link with events := began} =
      (.ok "ELM327 v1.5\r\r>".toList, {Elm327Adapter.new (link.told .reset) with events := began}) :=
    sendCommand_told hreset hwaiting
  have hcleared : AtDefault link.device.vehicle link.device.protocol (link.told .reset) :=
    ⟨hwaiting.told .reset, rfl, rfl, rfl⟩
  obtain ⟨link₁, hsti, hdefault₁⟩ := sendCommand_atDefault hidentify
    (a := {Elm327Adapter.new (link.told .reset) with events := began}) hcleared
  have hunknown : ((sendCommand "STI".toList).attempt).run {Elm327Adapter.new (link.told .reset) with events := began} =
      (.ok (.ok "?\r\r>".toList), {Elm327Adapter.new link₁ with events := began}) := run_attempt_of_ends hsti
  obtain ⟨link₂, hset, hdefault₂⟩ := sendCommands_atDefault hsettings
    (a := {Elm327Adapter.new link₁ with events := began}) hdefault₁
  exact ⟨_, link₂, _, (run_bind_ok rfl _).trans ((run_bind_ok hzero _).trans ((run_bind_ok hunknown _).trans
    ((run_bind_ok hset _).trans rfl))), hdefault₂⟩

/-- The protocol is found, and the policy for it told. -/
theorem selectAndFinish_agrees {vehicle : V} {protocol : Protocol} {a : Elm327Adapter (StreamLink (Elm327Chip V))}
    (h : AtDefault vehicle protocol a.transport) (hheader : a.currentHeader = none)
    (hcode : Protocol.fromElmCode protocol.elmCode = some protocol)
    (hanswer : (VehicleBus.ask (firstHeader protocol) 0x01 [0x00] vehicle).1.isPositive = true) (info : AdapterInfo) :
    ∃ report a', (selectAndFinish info).run a = (.ok report, a') ∧ Agrees a' ∧ report.info = a'.info ∧
      a'.info.protocol = protocol := by
  have hselected : protocol ≠ .auto := by
    intro heq
    rw [heq] at hcode
    cases hcode
  obtain ⟨attempts, vehicle', link, hselect, hfound⟩ := selectProtocol_atDefault h hcode hanswer
  obtain ⟨link', hpolicy, hdefault⟩ := sendCommandsRaw_atDefault (policy_local protocol)
    (a := ⟨link, {info with protocol}, a.initialized, a.currentHeader,
      a.events ++ [⟨.protocolSelected protocol, none⟩]⟩) hfound
  rw [selectAndFinish, run_bind_ok hselect]
  dsimp only
  rw [if_neg hselected]
  exact ⟨_, _, (run_bind_ok rfl _).trans ((run_bind_ok (run_modify _ _) _).trans ((run_bind_ok hpolicy _).trans rfl)),
    ⟨rfl, hdefault.waiting, hselected, hdefault.protocol, hdefault.header.trans hheader.symm⟩, rfl, rfl⟩

/-- **An adapter that is new gets set up**, if the vehicle has a positive answer to the request for supported PIDs
under the first header and the code of its protocol stands for it: initialization succeeds, finds the protocol, and
leaves the chip to wait under the header that the adapter believes in. -/
theorem initialize_agrees {link : StreamLink (Elm327Chip V)} (hwaiting : Waiting link)
    (hcode : Protocol.fromElmCode link.device.protocol.elmCode = some link.device.protocol)
    (hanswer : (VehicleBus.ask (firstHeader link.device.protocol) 0x01 [0x00] link.device.vehicle).1.isPositive = true) :
    ∃ report a, (Elm327Adapter.initializeAdapter).run (Elm327Adapter.new link) = (.ok report, a) ∧ Agrees a ∧
      report.info = a.info ∧ a.info.protocol = link.device.protocol := by
  obtain ⟨info, link', events, hprepare, hdefault⟩ := prepare_atDefault hwaiting
  rw [initializeAdapter_of_prepare rfl hprepare]
  exact selectAndFinish_agrees hdefault rfl hcode hanswer info

end Initialization

end Obd2

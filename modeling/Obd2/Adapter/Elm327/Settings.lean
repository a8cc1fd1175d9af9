import Obd2.Adapter.Elm327.Device

/-! The device at the other end of the link, as far as its settings go.

A command that is a setting is acknowledged and applied. What is answered to any other command is
given: a reply, or an error in its place. ATZ returns the settings to the factory's, and so does a
fault that a reply reports by ERR94 or LV RESET. A protocol that a search finds is not a setting:
only what AT SP or AT TP selected is. -/
namespace Obd2

structure ElmSettings where
  echo : Bool
  linefeeds : Bool
  headers : Bool
  spaces : Bool
  /-- The mode of adaptive timing. -/
  timing : Char
  canFormatting : Bool
  flowControl : Bool
  /-- The protocol that was selected; none is a search for one. -/
  protocol : Option Char
  /-- The message that was set; none is the protocol's own. -/
  wakeupMessage : Option Text
  /-- In units of 20 ms, in hexadecimal. -/
  wakeupInterval : Text
  deriving DecidableEq, Repr

namespace ElmSettings

def factory : ElmSettings :=
  ⟨true, true, false, true, '1', true, true, none, none, "92".toList⟩

def flag (set : Bool → ElmSettings → ElmSettings) (digit : Char) : Option (ElmSettings → ElmSettings) :=
  if digit = '0' then some (set false)
  else if digit = '1' then some (set true)
  else none

/-- What a command sets, if it is a setting. ATFE lifts a block of searches, and sets none of these. -/
def setting (command : Text) : Option (ElmSettings → ElmSettings) :=
  match command with
  | ['A', 'T', 'E', digit] => flag (fun on s => {s with echo := on}) digit
  | ['A', 'T', 'L', digit] => flag (fun on s => {s with linefeeds := on}) digit
  | ['A', 'T', 'H', digit] => flag (fun on s => {s with headers := on}) digit
  | ['A', 'T', 'S', digit] => flag (fun on s => {s with spaces := on}) digit
  | ['A', 'T', 'A', 'T', mode] => some fun s => {s with timing := mode}
  | ['A', 'T', 'C', 'A', 'F', digit] => flag (fun on s => {s with canFormatting := on}) digit
  | ['A', 'T', 'C', 'F', 'C', digit] => flag (fun on s => {s with flowControl := on}) digit
  | ['A', 'T', 'S', 'P', code] => some fun s => {s with protocol := if code = '0' then none else some code}
  | ['A', 'T', 'T', 'P', code] => some fun s => {s with protocol := if code = '0' then none else some code}
  | ['A', 'T', 'S', 'W', high, low] => some fun s => {s with wakeupInterval := [high, low]}
  | 'A' :: 'T' :: 'W' :: 'M' :: message => some fun s => {s with wakeupMessage := some message}
  | ['A', 'T', 'F', 'E'] => some id
  | _ => none

end ElmSettings

structure ElmDevice where
  settings : ElmSettings
  /-- What will be answered to commands that are not settings. -/
  replies : List (Except Obd2Error (List UInt8))
  pending : Except Obd2Error (List UInt8)

namespace ElmDevice

/-- Blanks and the line end do not count. -/
def commandOf (line : List UInt8) : Text := (Text.fromUtf8Lossy line).filter fun c => !Text.isWhitespace c

def acknowledgement : List UInt8 := Text.bytes "OK\r\r>".toList

def reportsFault : Except Obd2Error (List UInt8) → Bool
  | .ok reply => Elm327Adapter.reportsFault (Exchange.textOf reply)
  | .error _ => false

def nextReply (device : ElmDevice) : Except Obd2Error (List UInt8) := device.replies.headD (.error .timeout)

/-- The settings after a command that is none, and its reply. -/
def settingsAfter (command : Text) (reply : Except Obd2Error (List UInt8)) (settings : ElmSettings) : ElmSettings :=
  if command = "ATZ".toList ∨ reportsFault reply = true then .factory else settings

/-- The device after a command. -/
def after (device : ElmDevice) (line : List UInt8) : ElmDevice :=
  match ElmSettings.setting (commandOf line) with
  | some change => {device with settings := change device.settings, pending := .ok acknowledgement}
  | none =>
    { settings := settingsAfter (commandOf line) device.nextReply device.settings
      replies := device.replies.tail
      pending := device.nextReply }

instance : Link ElmDevice where
  write line := .modify fun device => device.after line
  read := do
    let device ← .get
    .lift device.pending

end ElmDevice

/-! ### The adapter's commands on the device -/

namespace Elm327Adapter
open Async ElmDevice

theorem exchange_device (cmd : Text) (device : ElmDevice) :
    (exchange cmd).run device =
      (Outcome.ofExcept ((device.after (Device.lineOf cmd)).pending.map Exchange.textOf),
        device.after (Device.lineOf cmd)) := by
  have hread : (Link.read : Async Obd2Error ElmDevice (List UInt8)).run (device.after (Device.lineOf cmd)) =
      (Outcome.ofExcept (device.after (Device.lineOf cmd)).pending, device.after (Device.lineOf cmd)) := by
    show ((Async.get >>= fun device => Async.lift device.pending) : Async Obd2Error ElmDevice (List UInt8)).run _ = _
    rw [run_bind_ok (run_get _), run_lift]
  have hwrite : (Link.write (Device.lineOf cmd) : Async Obd2Error ElmDevice Unit).run device =
      (.ok (), device.after (Device.lineOf cmd)) := rfl
  unfold exchange
  rw [show Text.bytes (cmd ++ ['\r']) = Device.lineOf cmd from rfl, run_bind_ok hwrite, run_bind, hread]
  cases (device.after (Device.lineOf cmd)).pending with
  | ok reply => rfl
  | error e => rfl

/-- What the device makes of a command. -/
def settingOf (cmd : Text) : Option (ElmSettings → ElmSettings) :=
  ElmSettings.setting (commandOf (Device.lineOf cmd))

abbrev IsSetting (cmd : Text) : Prop := (settingOf cmd).isSome = true

/-- The settings after a command, if it is one. -/
def applied (settings : ElmSettings) (cmd : Text) : ElmSettings := (settingOf cmd).elim settings fun change => change settings

def configured (cmds : List Text) (settings : ElmSettings) : ElmSettings := cmds.foldl applied settings

/-- The settings after a recovery. -/
def recovered : ElmSettings := {ElmSettings.factory with echo := false, linefeeds := false, spaces := false}

theorem configured_defaults : configured runtimeDefaults .factory = recovered := by
  decide +kernel

/-- The device has these settings, and these replies to come. -/
structure At (settings : ElmSettings) (replies : List (Except Obd2Error (List UInt8)))
    (adapter : Elm327Adapter ElmDevice) : Prop where
  settings : adapter.transport.settings = settings
  replies : adapter.transport.replies = replies

section Commands
variable {settings : ElmSettings} {replies : List (Except Obd2Error (List UInt8))} {adapter : Elm327Adapter ElmDevice}
  {cmd : Text}

/-- A setting is acknowledged and applied. -/
theorem raw_setting (h : At settings replies adapter) (hcmd : IsSetting cmd) :
    ∃ after, (sendCommandRaw cmd).run adapter = (.ok (Exchange.textOf acknowledgement), after) ∧
      At (applied settings cmd) replies after := by
  obtain ⟨events, hrun⟩ := sendCommandRaw_run cmd adapter
  obtain ⟨change, hchange⟩ := Option.isSome_iff_exists.mp hcmd
  have hafter : adapter.transport.after (Device.lineOf cmd) =
      {adapter.transport with settings := change adapter.transport.settings, pending := .ok acknowledgement} := by
    rw [ElmDevice.after, show ElmSettings.setting (commandOf (Device.lineOf cmd)) = some change from hchange]
  rw [exchange_device, hafter] at hrun
  refine ⟨_, hrun, ?_, h.replies⟩
  rw [applied, hchange, Option.elim_some, h.settings]

/-- Another command gets the next reply. -/
theorem raw_answered (h : At settings replies adapter) (hcmd : settingOf cmd = none) :
    ∃ after, (sendCommandRaw cmd).run adapter =
        (Outcome.ofExcept ((replies.headD (.error .timeout)).map Exchange.textOf), after) ∧
      At (settingsAfter (commandOf (Device.lineOf cmd)) (replies.headD (.error .timeout)) settings) replies.tail after := by
  obtain ⟨events, hrun⟩ := sendCommandRaw_run cmd adapter
  have hafter : adapter.transport.after (Device.lineOf cmd) =
      { settings := settingsAfter (commandOf (Device.lineOf cmd)) adapter.transport.nextReply adapter.transport.settings
        replies := adapter.transport.replies.tail
        pending := adapter.transport.nextReply } := by
    rw [ElmDevice.after, show ElmSettings.setting (commandOf (Device.lineOf cmd)) = none from hcmd]
  rw [exchange_device, hafter] at hrun
  simp only [nextReply, h.settings, h.replies] at hrun
  exact ⟨_, hrun, rfl, rfl⟩

theorem raws_settings {cmds : List Text} (h : At settings replies adapter) (hcmds : ∀ cmd ∈ cmds, IsSetting cmd) :
    ∃ after, (sendCommandsRaw cmds).run adapter = (.ok (), after) ∧ At (configured cmds settings) replies after := by
  induction cmds generalizing settings adapter with
  | nil => exact ⟨adapter, rfl, h⟩
  | cons cmd rest ih =>
    obtain ⟨next, hrun, hnext⟩ := raw_setting h (hcmds cmd List.mem_cons_self)
    obtain ⟨after, hrest, hafter⟩ := ih hnext fun c hc => hcmds c (List.mem_cons_of_mem cmd hc)
    exact ⟨after, by rw [sendCommandsRaw, run_bind_ok hrun, hrest], hafter⟩

/-- A recovery is acknowledged, and leaves the defaults that the adapter sets on top of what there was. -/
theorem recover_device (h : At settings replies adapter) :
    ∃ after, (recoverFromAdapterFault : Elm ElmDevice Unit).run adapter = (.ok (), after) ∧
      At (configured runtimeDefaults settings) replies after := by
  let recorded : Elm327Adapter ElmDevice := {adapter with events := adapter.events ++
    [⟨.recoveryAction "ATFE".toList, some "recovering from fatal adapter fault".toList⟩]}
  have hrecorded : At settings replies recorded := ⟨h.settings, h.replies⟩
  have hforgets : IsSetting "ATFE".toList := by decide +kernel
  have hsame : applied settings "ATFE".toList = settings := by rfl
  have hdefaults : ∀ cmd ∈ runtimeDefaults, IsSetting cmd := by decide +kernel
  obtain ⟨forgot, hforget, hforgot⟩ := raw_setting hrecorded hforgets
  rw [hsame] at hforgot
  have hcleared : At settings replies {forgot with currentHeader := none} := ⟨hforgot.settings, hforgot.replies⟩
  obtain ⟨after, hrun, hafter⟩ := raws_settings hcleared hdefaults
  refine ⟨after, ?_, hafter⟩
  show (pushEvent _ _ >>= fun _ => _).run adapter = _
  rw [run_bind_ok (show (pushEvent (.recoveryAction "ATFE".toList)
    (some "recovering from fatal adapter fault".toList)).run adapter = (.ok (), recorded) from rfl),
    run_bind_ok hforget, run_bind_ok (run_modify ..)]
  exact hrun

/-- What a recorded command with this reply comes to: the fault it may report is recovered from. -/
theorem sendCommand_of_raw {response : Text} {sent : Elm327Adapter ElmDevice}
    (hraw : (sendCommandRaw cmd).run adapter = (.ok response, sent)) (h : At settings replies sent) :
    ∃ after, (sendCommand cmd).run adapter = (.ok response, after) ∧
      At (if reportsFault response then configured runtimeDefaults settings else settings) replies after := by
  have hrecorded : At settings replies {sent with events := sent.events ++ responseEvents response} :=
    ⟨h.settings, h.replies⟩
  by_cases hfault : reportsFault response = true
  · obtain ⟨after, hrecover, hafter⟩ := recover_device hrecorded
    refine ⟨after, ?_, by rwa [if_pos hfault]⟩
    rw [sendCommand, run_bind_ok hraw, pushEvents, run_bind_ok (run_modify ..), handleFaultRecovery, if_pos hfault,
      run_bind_ok hrecover]
    rfl
  · refine ⟨_, ?_, by rwa [if_neg hfault]⟩
    rw [sendCommand, run_bind_ok hraw, pushEvents, run_bind_ok (run_modify ..), handleFaultRecovery, if_neg hfault]
    rfl

/-- A setting is acknowledged and applied. -/
theorem send_setting (h : At settings replies adapter) (hcmd : IsSetting cmd) :
    ∃ after, (sendCommand cmd).run adapter = (.ok (Exchange.textOf acknowledgement), after) ∧
      At (applied settings cmd) replies after := by
  obtain ⟨sent, hraw, hsent⟩ := raw_setting h hcmd
  have hfault : reportsFault (Exchange.textOf acknowledgement) = false := by decide +kernel
  have hafter := sendCommand_of_raw hraw hsent
  rwa [hfault, if_neg Bool.false_ne_true] at hafter

theorem send_settings {cmds : List Text} (h : At settings replies adapter) (hcmds : ∀ cmd ∈ cmds, IsSetting cmd) :
    ∃ after, (sendCommands cmds).run adapter = (.ok (), after) ∧ At (configured cmds settings) replies after := by
  induction cmds generalizing settings adapter with
  | nil => exact ⟨adapter, rfl, h⟩
  | cons cmd rest ih =>
    obtain ⟨next, hrun, hnext⟩ := send_setting h (hcmds cmd List.mem_cons_self)
    obtain ⟨after, hrest, hafter⟩ := ih hnext fun c hc => hcmds c (List.mem_cons_of_mem cmd hc)
    exact ⟨after, by rw [sendCommands, run_bind_ok hrun, hrest], hafter⟩

/-- Another command that is answered: a fault in the reply returns the settings to the factory's, and
recovery sets the defaults. -/
theorem send_answered {reply : List UInt8} {rest : List (Except Obd2Error (List UInt8))}
    (h : At settings (.ok reply :: rest) adapter) (hcmd : settingOf cmd = none) :
    ∃ after, (sendCommand cmd).run adapter = (.ok (Exchange.textOf reply), after) ∧
      At (if reportsFault (Exchange.textOf reply) then recovered
        else settingsAfter (commandOf (Device.lineOf cmd)) (.ok reply) settings) rest after := by
  obtain ⟨sent, hraw, hsent⟩ := raw_answered h hcmd
  obtain ⟨after, hrun, hafter⟩ := sendCommand_of_raw hraw hsent
  refine ⟨after, hrun, ?_⟩
  by_cases hfault : reportsFault (Exchange.textOf reply) = true
  · have hfactory : settingsAfter (commandOf (Device.lineOf cmd)) (.ok reply) settings = .factory :=
      if_pos (.inr hfault)
    rw [if_pos hfault] at hafter ⊢
    rw [List.headD_cons, hfactory, configured_defaults] at hafter
    exact hafter
  · rw [if_neg hfault] at hafter ⊢
    exact hafter

/-- Another command without an answer ends with the error. -/
theorem send_unanswered {e : Obd2Error} (h : At settings replies adapter) (hcmd : settingOf cmd = none)
    (herror : replies.headD (.error .timeout) = .error e) :
    ∃ after, (sendCommand cmd).run adapter = (.error e, after) ∧
      At (settingsAfter (commandOf (Device.lineOf cmd)) (.error e) settings) replies.tail after := by
  obtain ⟨sent, hraw, hsent⟩ := raw_answered h hcmd
  rw [herror] at hraw hsent
  exact ⟨sent, by rw [sendCommand, run_bind_error hraw], hsent⟩

/-- A command that returns a reply, whatever it is. -/
theorem send_returned {response : Text} {after : Elm327Adapter ElmDevice} (h : At settings replies adapter)
    (hcmd : settingOf cmd = none) (hrun : (sendCommand cmd).run adapter = (.ok response, after)) :
    ∃ reply rest, replies = .ok reply :: rest ∧ response = Exchange.textOf reply ∧
      At (if reportsFault response then recovered
        else settingsAfter (commandOf (Device.lineOf cmd)) (.ok reply) settings) rest after := by
  cases hhead : replies.headD (.error .timeout) with
  | error e =>
    obtain ⟨_, herror, -⟩ := send_unanswered h hcmd hhead
    rw [hrun] at herror
    cases herror
  | ok reply =>
    cases replies with
    | nil => cases hhead
    | cons first rest =>
      obtain rfl : first = .ok reply := hhead
      obtain ⟨_, hanswered, hafter⟩ := send_answered h hcmd
      rw [hrun] at hanswered
      cases hanswered
      exact ⟨reply, rest, rfl, rfl, hafter⟩

end Commands

end Elm327Adapter

end Obd2

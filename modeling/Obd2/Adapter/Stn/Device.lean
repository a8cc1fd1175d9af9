import Obd2.Adapter.Stn.Apply
import Obd2.Async.Sequence
import Obd2.Text.Ascii

/-! An STN device at the other end of an unreliable link.

What becomes of a line is a `StnFate`: the device may act on it or not, and either half of the exchange
may fail or be given up. Only a response of success tells that the device has acted.

Closing comes first in a plan and opening last, so wherever an application ends the device is not open
with some of its settings: it is as it was, closed, or set up as a whole (`applyRoute_settles`). This goes
for any number of applications in a row (`applied_settles`). -/
namespace Obd2

/-! ### What becomes of a line -/

structure StnFate where
  /-- The device has got the line, and has done what it says. -/
  acted : Bool
  written : Outcome Obd2Error Unit
  arrives : Outcome Obd2Error (List UInt8)
  honest : ∀ reply, written = .ok () → arrives = .ok reply →
    parseCommandResponse (Text.fromUtf8Lossy reply) = .ok () → acted = true

/-- A line that gets nowhere. -/
def StnFate.lost : StnFate := ⟨false, .error .timeout, .error .timeout, fun _ h => by cases h⟩

/-- The device and the link to it: `script` is what will become of the lines to come, and past its end
nothing gets through. -/
structure StnDevice where
  state : StnState
  script : List StnFate
  log : List (List UInt8)
  pending : Outcome Obd2Error (List UInt8)

/-- A line that is none of the commands does nothing. -/
def StnState.act (s : StnState) (line : List UInt8) : StnState :=
  match StnCommand.decode (Text.ofAscii line.dropLast) with
  | some command => s.step command
  | none => s

namespace StnDevice

def nextFate (device : StnDevice) : StnFate := device.script.headD .lost

def after (device : StnDevice) (line : List UInt8) : StnDevice :=
  { state := if device.nextFate.acted then device.state.act line else device.state
    script := device.script.tail
    log := device.log ++ [line]
    pending := device.nextFate.arrives }

instance : Link StnDevice where
  write line := fun device => (device.nextFate.written, device.after line)
  read := fun device => (device.pending, device)

end StnDevice

/-! ### Lines of commands -/

theorem ascii_encodeCanIdentifier (id : CanIdentifier) : Text.Ascii (encodeCanIdentifier id) := by
  intro c hc
  cases id with
  | standard raw => exact Text.ascii_of_isAlphanum (Text.mem_upperHex hc)
  | extended raw => exact Text.ascii_of_isAlphanum (Text.mem_upperHex hc)

theorem StnCommand.ascii_encode (command : StnCommand) : Text.Ascii command.encode := by
  have hdigits (n : Nat) : Text.Ascii (Nat.toDigits 10 n) := fun c hc =>
    Text.ascii_of_isAlphanum (Text.isAlphanum_toDigits n c hc)
  cases command with
  | closeProtocol => exact Text.ascii_of_all (by decide)
  | selectProtocol preset => cases preset <;> exact Text.ascii_of_all (by decide)
  | setProtocolBaudRate bitrateBps => exact .append (Text.ascii_of_all (by decide)) (hdigits _)
  | setProtocolTimeoutMs timeoutMs => exact .append (Text.ascii_of_all (by decide)) (hdigits _)
  | useAutomaticFiltering => exact Text.ascii_of_all (by decide)
  | clearPassFilters => exact Text.ascii_of_all (by decide)
  | addPassFilter filter =>
    have hmask : Text.Ascii (',' :: encodeCanIdentifier filter.mask) :=
      List.forall_mem_cons.mpr ⟨by decide, ascii_encodeCanIdentifier filter.mask⟩
    exact .append (Text.ascii_of_all (by decide)) (.append (ascii_encodeCanIdentifier filter.id) hmask)
  | openProtocol => exact Text.ascii_of_all (by decide)

/-- A device does what the command says that was written. -/
theorem StnState.act_line (s : StnState) (command : StnCommand) : s.act command.line = s.step command.canonical := by
  rw [StnState.act, StnCommand.line, List.dropLast_concat, Text.ofAscii_bytes command.ascii_encode,
    StnCommand.decode_encode]

/-! ### One command -/

section Command
variable (debug : Text → String) (command : StnCommand) (device : StnDevice)

/-- One line is written, whatever becomes of it; success is what the device has done. -/
theorem sendStnCommand_run :
    ((sendStnCommand debug command).run device).2 = device.after command.line ∧
      (((sendStnCommand debug command).run device).1.isOk = true → device.nextFate.acted = true) := by
  have hwrite : (Link.write command.line : Async Obd2Error StnDevice Unit).run device =
      (device.nextFate.written, device.after command.line) := rfl
  have hread : (Link.read : Async Obd2Error StnDevice (List UInt8)).run (device.after command.line) =
      (device.nextFate.arrives, device.after command.line) := rfl
  have hhonest := device.nextFate.honest
  unfold sendStnCommand
  cases hwritten : device.nextFate.written with
  | error e =>
    rw [hwritten] at hwrite
    rw [Async.run_bind_error hwrite]
    exact ⟨rfl, fun h => by cases h⟩
  | dropped =>
    rw [hwritten] at hwrite
    rw [Async.run_bind_dropped hwrite]
    exact ⟨rfl, fun h => by cases h⟩
  | ok _ =>
    rw [hwritten] at hwrite
    rw [Async.run_bind_ok hwrite]
    cases harrives : device.nextFate.arrives with
    | error e =>
      rw [harrives] at hread
      rw [Async.run_bind_error hread]
      exact ⟨rfl, fun h => by cases h⟩
    | dropped =>
      rw [harrives] at hread
      rw [Async.run_bind_dropped hread]
      exact ⟨rfl, fun h => by cases h⟩
    | ok reply =>
      rw [harrives] at hread
      rw [Async.run_bind_ok hread]
      dsimp only
      cases hparse : parseCommandResponse (Text.fromUtf8Lossy reply) with
      | error kind => exact ⟨rfl, fun h => by cases h⟩
      | ok _ => exact ⟨rfl, fun _ => hhonest reply hwritten harrives hparse⟩

end Command

/-! ### A plan -/

section Plan
variable (debug : Text → String) (commands : List StnCommand) (device : StnDevice)

/-- The device has done a first part of the commands, and all of them if the run is a success. -/
theorem mapM_state :
    ∃ done, done <+: commands ∧
      ((commands.mapM (sendStnCommand debug)).run device).2.state =
        device.state.run (done.map StnCommand.canonical) ∧
      (((commands.mapM (sendStnCommand debug)).run device).1.isOk = true → done = commands) := by
  refine Async.Triple.mapM_prefix (f := sendStnCommand debug)
    (I := fun done (s : StnDevice) => s.state = device.state.run (done.map StnCommand.canonical)) ?_ [] commands
    device rfl
  · intro done command s hs
    obtain ⟨hafter, hacted⟩ := sendStnCommand_run debug command s
    rw [hafter]
    cases hfate : s.nextFate.acted with
    | true =>
      left
      rw [StnDevice.after, hfate, if_pos rfl, StnState.act_line, hs, List.map_append, StnState.run_append]
      rfl
    | false =>
      right
      refine ⟨?_, ?_⟩
      · rw [hfate] at hacted
        exact Bool.eq_false_iff.mpr fun hok => Bool.false_ne_true (hacted hok)
      · rw [StnDevice.after, hfate]
        exact hs

/-- The lines of a first part of the commands have been written, one after the other. -/
theorem mapM_log :
    ∃ written, written <+: commands ∧
      ((commands.mapM (sendStnCommand debug)).run device).2.log = device.log ++ written.map StnCommand.line ∧
      (((commands.mapM (sendStnCommand debug)).run device).1.isOk = true → written = commands) := by
  refine Async.Triple.mapM_prefix (f := sendStnCommand debug)
    (I := fun done (s : StnDevice) => s.log = device.log ++ done.map StnCommand.line) ?_ [] commands device
    (List.append_nil _).symm
  · intro done command s hs
    left
    rw [(sendStnCommand_run debug command s).1, StnDevice.after, hs, List.map_append, List.append_assoc]
    rfl

end Plan

theorem applyRoutePlan_run {L : Type} [Link L] (debug : Text → String) (plan : StnRoutePlan) (link : L) :
    ((applyRoutePlan debug plan).run link).2 = ((plan.commands.mapM (sendStnCommand debug)).run link).2 ∧
      ((applyRoutePlan debug plan).run link).1.isOk =
        ((plan.commands.mapM (sendStnCommand debug)).run link).1.isOk := by
  rw [applyRoutePlan, Async.run_bind]
  cases (plan.commands.mapM (sendStnCommand debug)).run link with
  | mk outcome s => cases outcome <;> exact ⟨rfl, rfl⟩

/-! ### No device is left half set up -/

/-- Nothing but opening opens a device. -/
theorem StnState.run_closed {s : StnState} (hclosed : s.isOpen = false) {commands : List StnCommand}
    (hopen : .openProtocol ∉ commands) : (s.run commands).isOpen = false := by
  induction commands generalizing s with
  | nil => exact hclosed
  | cons command commands ih =>
    refine ih (s := s.step command) ?_ fun hmem => hopen (List.mem_cons_of_mem _ hmem)
    cases command with
    | openProtocol => exact absurd List.mem_cons_self hopen
    | closeProtocol => rfl
    | selectProtocol preset => simp [StnState.step, StnState.set, hclosed]
    | setProtocolBaudRate bitrateBps => simp [StnState.step, StnState.set, hclosed]
    | setProtocolTimeoutMs timeoutMs => simp [StnState.step, StnState.set, hclosed]
    | useAutomaticFiltering => simp [StnState.step, StnState.set, hclosed]
    | clearPassFilters => simp [StnState.step, StnState.set, hclosed]
    | addPassFilter filter => simp [StnState.step, StnState.set, hclosed]

/-- The settings of a route, between closing and opening. -/
theorem routeCommands_eq (route : CanRouteConfig) (timeoutMs : Option UInt16) :
    ∃ settings, routeCommands route timeoutMs = .closeProtocol :: settings ++ [.openProtocol] ∧
      .openProtocol ∉ settings := by
  refine ⟨.selectProtocol (.fromRoute route) :: (baudCommands route.arbitrationBitrateBps (.fromRoute route) ++
    timeoutCommands timeoutMs ++ filterCommands route.filters), ?_, ?_⟩
  · simp [routeCommands]
  · have hbaud : StnCommand.openProtocol ∉ baudCommands route.arbitrationBitrateBps (.fromRoute route) := by
      unfold baudCommands
      split <;> simp
    have htimeout : StnCommand.openProtocol ∉ timeoutCommands timeoutMs := by
      cases timeoutMs <;> simp [timeoutCommands]
    have hfilters : StnCommand.openProtocol ∉ filterCommands route.filters := by
      unfold filterCommands
      split <;> simp
    simp [hbaud, htimeout, hfilters]

theorem canonical_openProtocol {settings : List StnCommand} (h : .openProtocol ∉ settings) :
    .openProtocol ∉ settings.map StnCommand.canonical := by
  intro hmem
  obtain ⟨command, hin, heq⟩ := List.mem_map.mp hmem
  cases command with
  | openProtocol => exact h hin
  | _ => cases heq

/-- What is left of a route whose commands were carried out in part. -/
theorem run_prefix_routeCommands (s : StnState) (route : CanRouteConfig) (timeoutMs : Option UInt16)
    {done : List StnCommand} (h : done <+: routeCommands route timeoutMs) :
    s.run (done.map StnCommand.canonical) = s ∨ (s.run (done.map StnCommand.canonical)).isOpen = false ∨
      done = routeCommands route timeoutMs := by
  obtain ⟨settings, hcommands, hopen⟩ := routeCommands_eq route timeoutMs
  rw [hcommands] at h ⊢
  rcases List.prefix_concat_iff.mp h with hall | hpart
  · exact .inr (.inr hall)
  · cases done with
    | nil => exact .inl rfl
    | cons command done =>
      obtain ⟨rfl, hdone⟩ := List.cons_prefix_cons.mp hpart
      refine .inr (.inl ?_)
      have hnone : .openProtocol ∉ done := fun hmem => hopen (hdone.subset hmem)
      exact StnState.run_closed (s := s.step .closeProtocol) rfl (canonical_openProtocol hnone)

/-- All the commands of a route, as a device reads them. -/
theorem run_canonical_routeCommands (s : StnState) (route : CanRouteConfig) (timeoutMs : Option UInt16) :
    (s.run ((routeCommands route timeoutMs).map StnCommand.canonical)).canonical =
      (route.configured (timeoutMs.getD s.timeoutMs)).canonical := by
  have htwice : ∀ preset : StnProtocolPreset, preset.canonical.canonical = preset.canonical := by
    intro preset
    cases preset <;> rfl
  have hcanonical : ∀ command : StnCommand, command.canonical.canonical = command.canonical := by
    intro command
    cases command with
    | selectProtocol preset => exact congrArg StnCommand.selectProtocol (htwice preset)
    | _ => rfl
  have hmap : ((routeCommands route timeoutMs).map StnCommand.canonical).map StnCommand.canonical =
      (routeCommands route timeoutMs).map StnCommand.canonical := by
    rw [List.map_map]
    exact List.map_congr_left fun command _ => hcanonical command
  rw [StnState.run_canonical, hmap, ← StnState.run_canonical, StnState.run_routeCommands]

/-- What an application leaves of a device: it is as it was, closed, or open with all that the route asks for. -/
theorem applyRoute_left (debug : Text → String) (route : CanRouteConfig) (timeoutMs : Option UInt16)
    (device : StnDevice) :
    let run := (applyRoute debug route timeoutMs).run device
    let configured := (route.configured (timeoutMs.getD device.state.timeoutMs)).canonical
    (run.2.state = device.state ∨ run.2.state.isOpen = false ∨ run.2.state.canonical = configured) ∧
    (run.1.isOk = true → run.2.state.canonical = configured) := by
  unfold applyRoute
  cases hplan : planRoute route timeoutMs with
  | error e => exact ⟨.inl rfl, fun h => by cases h⟩
  | ok plan =>
    obtain ⟨-, rfl⟩ := planRoute_eq_ok_iff.mp hplan
    obtain ⟨hafter, hok⟩ := applyRoutePlan_run debug ⟨route, .fromRoute route, routeCommands route timeoutMs⟩ device
    obtain ⟨done, hprefix, hstate, hall⟩ := mapM_state debug (routeCommands route timeoutMs) device
    have hconfigured : done = routeCommands route timeoutMs →
        (((routeCommands route timeoutMs).mapM (sendStnCommand debug)).run device).2.state.canonical =
          (route.configured (timeoutMs.getD device.state.timeoutMs)).canonical := by
      rintro rfl
      rw [hstate, run_canonical_routeCommands]
    dsimp only
    rw [hafter, hok]
    refine ⟨?_, fun h => hconfigured (hall h)⟩
    rcases run_prefix_routeCommands device.state route timeoutMs hprefix with hsame | hclosed | hdone
    · exact .inl (hstate.trans hsame)
    · exact .inr (.inl (hstate ▸ hclosed))
    · exact .inr (.inr (hconfigured hdone))

/-- What an application writes. -/
theorem applyRoute_log (debug : Text → String) (route : CanRouteConfig) (timeoutMs : Option UInt16)
    (device : StnDevice) :
    ∃ written, written <+: routeCommands route timeoutMs ∧
      ((applyRoute debug route timeoutMs).run device).2.log = device.log ++ written.map StnCommand.line ∧
      (((applyRoute debug route timeoutMs).run device).1.isOk = true → written = routeCommands route timeoutMs) := by
  unfold applyRoute
  cases hplan : planRoute route timeoutMs with
  | error e =>
    have hnothing : device.log = device.log ++ ([] : List StnCommand).map StnCommand.line := (List.append_nil _).symm
    exact ⟨[], List.nil_prefix, hnothing, fun h => by cases h⟩
  | ok plan =>
    obtain ⟨-, rfl⟩ := planRoute_eq_ok_iff.mp hplan
    obtain ⟨hafter, hok⟩ := applyRoutePlan_run debug ⟨route, .fromRoute route, routeCommands route timeoutMs⟩ device
    dsimp only
    rw [hafter, hok]
    exact mapM_log debug (routeCommands route timeoutMs) device

/-- **An application never leaves a device half set up.** On any device, whatever becomes of each line: the
lines of a first part of the route's commands are written, in order and each of them once; the device is as
it was, or closed, or open with all that the route asks for; and it is the last of these if the application
is a success. -/
theorem applyRoute_settles (debug : Text → String) (route : CanRouteConfig) (timeoutMs : Option UInt16)
    (device : StnDevice) :
    let run := (applyRoute debug route timeoutMs).run device
    let configured := (route.configured (timeoutMs.getD device.state.timeoutMs)).canonical
    (∃ written, written <+: routeCommands route timeoutMs ∧
      run.2.log = device.log ++ written.map StnCommand.line ∧
      (run.1.isOk = true → written = routeCommands route timeoutMs)) ∧
    (run.2.state = device.state ∨ run.2.state.isOpen = false ∨ run.2.state.canonical = configured) ∧
    (run.1.isOk = true → run.2.state.canonical = configured) :=
  ⟨applyRoute_log debug route timeoutMs device, applyRoute_left debug route timeoutMs device⟩

/-! ### Applications in a row -/

/-- The device after applications, whatever came of each. -/
def StnDevice.applied (debug : Text → String) (device : StnDevice)
    (applications : List (CanRouteConfig × Option UInt16)) : StnDevice :=
  applications.foldl (fun device a => ((applyRoute debug a.1 a.2).run device).2) device

/-- **Nor do any number of applications in a row**, of any routes and each of them failed, given up or a
success: the device is as it was at first, or closed, or open with all that one of the routes asks for. -/
theorem applied_settles (debug : Text → String) (device : StnDevice)
    (applications : List (CanRouteConfig × Option UInt16)) :
    let after := (device.applied debug applications).state
    after = device.state ∨ after.isOpen = false ∨
      ∃ a ∈ applications, ∃ timeoutMs, after.canonical = (a.1.configured timeoutMs).canonical := by
  induction applications generalizing device with
  | nil => exact .inl rfl
  | cons a applications ih =>
    rcases ih ((applyRoute debug a.1 a.2).run device).2 with hsame | hclosed | ⟨b, hb, hconfigured⟩
    · have hafter : (device.applied debug (a :: applications)).state =
          ((applyRoute debug a.1 a.2).run device).2.state := hsame
      dsimp only
      rw [hafter]
      rcases (applyRoute_left debug a.1 a.2 device).1 with h | h | h
      · exact .inl h
      · exact .inr (.inl h)
      · exact .inr (.inr ⟨a, List.mem_cons_self, _, h⟩)
    · exact .inr (.inl hclosed)
    · exact .inr (.inr ⟨b, List.mem_cons_of_mem a hb, hconfigured⟩)

end Obd2

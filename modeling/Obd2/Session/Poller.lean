import Obd2.Error.Display
import Obd2.Session.Readings
import Obd2.Session.Threshold

/-! One poll cycle.

A cycle reads PIDs through the session and sends events to a channel. Whatever the reads come to, the
events are those of each PID in turn, and then the voltage (`executePollCycle_emits`). -/
namespace Obd2
open Async

/-! ### Events -/

/-- Events emitted by a poll cycle. -/
inductive PollEvent where
  | reading (pid : Pid) (reading : Reading)
  | alert (result : ThresholdResult Extended)
  | error (pid : Option Pid) (error : String)
  | voltage (volts : Float)

structure PollConfig where
  /-- PIDs to poll each cycle. -/
  pids : List Pid
  /-- Whether to read battery voltage each cycle. -/
  readVoltage : Bool

/-- A channel of events, with what was sent and is not received yet. -/
structure EventChannel where
  isOpen : Bool
  capacity : Nat
  queue : List PollEvent

namespace EventChannel

def push (channel : EventChannel) (events : List PollEvent) : EventChannel :=
  {channel with queue := channel.queue ++ events}

/-- Whether there is room for as many events. -/
def HasRoom (channel : EventChannel) (n : Nat) : Prop :=
  channel.isOpen = true ∧ channel.queue.length + n ≤ channel.capacity

/-- Whether the event was sent. A sender waits for room, which nobody makes meanwhile. -/
def send (event : PollEvent) : Async Obd2Error EventChannel Bool := fun channel =>
  if channel.isOpen then
    if channel.queue.length < channel.capacity then (.ok true, channel.push [event]) else (.dropped, channel)
  else
    (.ok false, channel)

theorem push_nil (channel : EventChannel) : channel.push [] = channel := by
  rw [push, List.append_nil]

theorem push_push (channel : EventChannel) (events events' : List PollEvent) :
    (channel.push events).push events' = channel.push (events ++ events') := by
  rw [push, push, push, List.append_assoc]

theorem HasRoom.mono {channel : EventChannel} {m n : Nat} (h : channel.HasRoom n) (hmn : m ≤ n) : channel.HasRoom m :=
  ⟨h.1, Nat.le_trans (Nat.add_le_add_left hmn _) h.2⟩

theorem HasRoom.push {channel : EventChannel} {n : Nat} {events : List PollEvent}
    (h : channel.HasRoom (events.length + n)) : (channel.push events).HasRoom n := by
  refine ⟨h.1, ?_⟩
  show (channel.queue ++ events).length + n ≤ channel.capacity
  rw [List.length_append, Nat.add_assoc]
  exact h.2

theorem send_run {channel : EventChannel} (h : channel.HasRoom 1) (event : PollEvent) :
    (send event).run channel = (.ok true, channel.push [event]) := by
  have hroom : channel.queue.length < channel.capacity := h.2
  rw [run, send, if_pos h.1, if_pos hroom]

end EventChannel

/-! ### The cycle -/

/-- A session that is polled, and where its events go. -/
structure Polling (A : Type) where
  session : Session A
  events : EventChannel

namespace Polling
variable {A : Type} [Adapter A]

def onSession {α : Type} (x : Op A α) : Async Obd2Error (Polling A) α :=
  x.on (·.session) fun session p => {p with session}

/-- The result of sending is not looked at. -/
def emit (event : PollEvent) : Async Obd2Error (Polling A) Unit := do
  let _sent ← (EventChannel.send event).on (·.events) fun events p => {p with events}
  pure ()

def pollPid (specOverride : Option VehicleSpec) (pid : Pid) : Async Obd2Error (Polling A) Unit := do
  match ← (onSession (Session.readPid pid)).attempt with
  | .ok reading =>
    emit (.reading pid reading)
    match reading.value with
    | .scalar v =>
      let p ← .get
      match (specOverride.bind fun spec => evaluatePidThreshold (some spec) pid (.finite v)) <|>
          p.session.evaluateThreshold pid (.finite v) with
      | some result => emit (.alert result)
      | none => pure ()
    | _ => pure ()
  | .error .noData => pure ()
  | .error e => emit (.error (some pid) (toString e))

def pollVoltage : Async Obd2Error (Polling A) Unit := do
  match ← (onSession Session.batteryVoltage).attempt with
  | .ok (some volts) => emit (.voltage volts)
  | _ => pure ()

/-- Execute one poll cycle through the session-owned API. -/
def executePollCycle (config : PollConfig) (specOverride : Option VehicleSpec) : Async Obd2Error (Polling A) Unit := do
  forM config.pids (pollPid specOverride)
  if config.readVoltage then
    pollVoltage

/-! ### What is reported -/

section Report

omit [Adapter A] in
/-- The alert of a value: what the other specification says of it, or else the session's own. -/
def alertOf (specOverride spec : Option VehicleSpec) (pid : Pid) : Value → Option (ThresholdResult Extended)
  | .scalar v => (specOverride.bind fun spec => evaluatePidThreshold (some spec) pid (.finite v)) <|>
      evaluatePidThreshold spec pid (.finite v)
  | _ => none

/-- The events of a PID: a reading with its alert, nothing where there is no data, or an error. -/
def pidEvents (alert : Pid → Value → Option (ThresholdResult Extended)) (pid : Pid) :
    Except Obd2Error Reading → List PollEvent
  | .ok reading => .reading pid reading :: (alert pid reading.value).toList.map .alert
  | .error .noData => []
  | .error e => [.error (some pid) (toString e)]

/-- The events of a cycle: PID by PID, then the voltage. -/
def cycleEvents (alert : Pid → Value → Option (ThresholdResult Extended)) (pids : List Pid)
    (results : List (Except Obd2Error Reading)) (volts : Option Float) : List PollEvent :=
  (pids.zip results).flatMap (fun (pid, result) => pidEvents alert pid result) ++ volts.toList.map .voltage

/-- The reads of a cycle, each to its end: those of the PIDs, and of the voltage if it is polled. -/
inductive Polled (config : PollConfig) (s : Session A) :
    List (Except Obd2Error Reading) → Option Float → Session A → Prop where
  | pids {results : List (Except Obd2Error Reading)} {t : Session A} :
      InTurn (config.pids.map Session.readPid) s results t → config.readVoltage = false → Polled config s results none t
  | voltage {results : List (Except Obd2Error Reading)} {t u : Session A} {volts : Except Obd2Error (Option Float)} :
      InTurn (config.pids.map Session.readPid) s results t → config.readVoltage = true →
      Session.batteryVoltage.run t = (Outcome.ofExcept volts, u) → Polled config s results volts.toOption.join u

end Report

section Run
variable {s t u : Session A} {events : EventChannel} {specOverride : Option VehicleSpec} {pid : Pid}
  {results : List (Except Obd2Error Reading)}

omit [Adapter A] in
theorem nothing_emitted (s : Session A) (events : EventChannel) :
    ((.ok (), ⟨s, events⟩) : Outcome Obd2Error Unit × Polling A) = (.ok (), ⟨s, events.push []⟩) := by
  rw [EventChannel.push_nil]

omit [Adapter A] in
theorem emit_run (h : events.HasRoom 1) (event : PollEvent) :
    (emit event).run ⟨s, events⟩ = (.ok (), ⟨s, events.push [event]⟩) := by
  have hsent : ((EventChannel.send event).on (·.events) fun events (p : Polling A) => {p with events}).run ⟨s, events⟩ =
      (.ok true, ⟨s, events.push [event]⟩) := by
    rw [run_on, EventChannel.send_run h]
  rw [emit, run_bind_ok hsent]
  rfl

omit [Adapter A] in
theorem onSession_attempt {α : Type} {x : Op A α} {result : Except Obd2Error α}
    (h : x.run s = (Outcome.ofExcept result, t)) :
    (onSession x).attempt.run ⟨s, events⟩ = (.ok result, ⟨t, events⟩) :=
  run_attempt_of_ends (by rw [onSession, run_on, h])

omit [Adapter A] in
theorem onSession_attempt_dropped {α : Type} {x : Op A α} (h : (x.run s).1 = .dropped) :
    (onSession x).attempt.run ⟨s, events⟩ = (.dropped, ⟨(x.run s).2, events⟩) := by
  have hrun : (onSession x).run ⟨s, events⟩ = (.dropped, ⟨(x.run s).2, events⟩) := by rw [onSession, run_on, h]
  rw [run_attempt, hrun]

theorem readPid_sameVehicle (pid : Pid) : Across Session.SameVehicle (Session.readPid pid : Op A Reading) := by
  refine Across.bind .trans (fun s => (Session.keptByExchanges_known.ensureInitialized s).profile) fun _ => ?_
  refine Across.bind .trans (Session.sendRequest_sameVehicle _) fun data => ?_
  exact Across.bind .trans (Across.lift .refl _) fun value => Across.pure .refl _

/-- One PID. -/
theorem pollPid_run {result : Except Obd2Error Reading} (h : (Session.readPid pid).run s = (Outcome.ofExcept result, t))
    (hroom : events.HasRoom 2) :
    (pollPid specOverride pid).run ⟨s, events⟩ = (.ok (), ⟨t, events.push (pidEvents (alertOf specOverride t.spec) pid result)⟩) := by
  have hone : events.HasRoom 1 := hroom.mono (Nat.le_succ 1)
  rw [pollPid, run_bind_ok (onSession_attempt h)]
  cases result with
  | ok reading =>
    obtain ⟨value, unit, rawBytes, source⟩ := reading
    dsimp only
    rw [run_bind_ok (emit_run hone _), pidEvents]
    cases value with
    | scalar v =>
      dsimp only [alertOf]
      rw [run_bind_ok (run_get _), Session.evaluateThreshold]
      dsimp only
      split
      · next result halert =>
        rw [halert, emit_run hroom.push, EventChannel.push_push]
        rfl
      · next halert =>
        rw [halert]
        rfl
    | _ => rfl
  | error e =>
    cases e with
    | noData => exact nothing_emitted t events
    | _ => exact emit_run hone _

theorem pollPid_dropped (h : ((Session.readPid pid).run s).1 = .dropped) :
    ((pollPid specOverride pid).run ⟨s, events⟩).1 = .dropped := by
  rw [pollPid, run_bind_dropped (onSession_attempt_dropped h)]

omit [Adapter A] in
theorem length_pidEvents (alert : Pid → Value → Option (ThresholdResult Extended)) (pid : Pid)
    (result : Except Obd2Error Reading) : (pidEvents alert pid result).length ≤ 2 := by
  unfold pidEvents
  split
  · next reading =>
    rw [List.length_cons, List.length_map]
    exact Nat.succ_le_succ (Option.length_toList_le)
  · exact Nat.zero_le 2
  · exact Nat.le_succ 1

omit [Adapter A] in
theorem HasRoom.after {n : Nat} (hroom : events.HasRoom (2 * (n + 1)))
    (alert : Pid → Value → Option (ThresholdResult Extended)) (pid : Pid) (result : Except Obd2Error Reading) :
    (events.push (pidEvents alert pid result)).HasRoom (2 * n) := by
  refine (hroom.mono ?_).push
  have hlength := length_pidEvents alert pid result
  omega

/-- All PIDs. -/
theorem pollPids_run {pids : List Pid} (h : InTurn (pids.map Session.readPid) s results t)
    (hroom : events.HasRoom (2 * pids.length)) :
    (forM pids (pollPid specOverride)).run ⟨s, events⟩ =
      (.ok (), ⟨t, events.push ((pids.zip results).flatMap fun (pid, result) =>
        pidEvents (alertOf specOverride s.spec) pid result)⟩) := by
  induction pids generalizing s events results with
  | nil =>
    cases h
    exact nothing_emitted t events
  | cons pid pids ih =>
    cases h with
    | @cons _ _ _ s' _ result results hread hrest =>
      have hspec : s'.spec = s.spec := by
        have hvehicle := readPid_sameVehicle pid s
        rw [hread] at hvehicle
        exact congrArg (·.bind (·.spec)) hvehicle
      rw [List.forM_cons, run_bind_ok (pollPid_run hread (hroom.mono (by rw [List.length_cons]; omega))), hspec,
        ih hrest (HasRoom.after hroom _ pid result), EventChannel.push_push, hspec]
      rfl

theorem pollPids_or_dropped (specOverride : Option VehicleSpec) (pids : List Pid) (s : Session A) (hroom : events.HasRoom (2 * pids.length)) :
    (∃ results t, InTurn (pids.map Session.readPid) s results t) ∨
      ((forM pids (pollPid specOverride)).run ⟨s, events⟩).1 = .dropped := by
  induction pids generalizing s events with
  | nil => exact .inl ⟨[], s, .nil s⟩
  | cons pid pids ih =>
    rcases ends_or_dropped (Session.readPid pid) s with ⟨result, t, hread⟩ | hdropped
    · rw [List.forM_cons, run_bind_ok (pollPid_run hread (hroom.mono (by rw [List.length_cons]; omega)))]
      rcases ih t (HasRoom.after hroom _ pid result) with ⟨results, u, hrest⟩ | hdropped
      · exact .inl ⟨_, u, .cons hread hrest⟩
      · exact .inr hdropped
    · rw [List.forM_cons, run_bind_dropped (Prod.ext (pollPid_dropped hdropped) rfl)]
      exact .inr rfl

theorem pollVoltage_run {volts : Except Obd2Error (Option Float)}
    (h : Session.batteryVoltage.run s = (Outcome.ofExcept volts, t)) (hroom : events.HasRoom 1) :
    pollVoltage.run ⟨s, events⟩ = (.ok (), ⟨t, events.push (volts.toOption.join.toList.map .voltage)⟩) := by
  rw [pollVoltage, run_bind_ok (onSession_attempt h)]
  cases volts with
  | ok volts =>
    cases volts with
    | some volts => exact emit_run hroom _
    | none => exact nothing_emitted t events
  | error e => exact nothing_emitted t events

omit [Adapter A] in
/-- The PIDs leave room for the voltage. -/
theorem HasRoom.afterPids {pids : List Pid} (hroom : events.HasRoom (2 * pids.length + 1))
    (alert : Pid → Value → Option (ThresholdResult Extended)) (results : List (Except Obd2Error Reading)) :
    (events.push ((pids.zip results).flatMap fun (pid, result) => pidEvents alert pid result)).HasRoom 1 := by
  induction pids generalizing events results with
  | nil => exact (EventChannel.push_nil events).symm ▸ hroom
  | cons pid pids ih =>
    cases results with
    | nil => exact (EventChannel.push_nil events).symm ▸ hroom.mono (Nat.le_add_left 1 _)
    | cons result results =>
      have hpid : (events.push (pidEvents alert pid result)).HasRoom (2 * pids.length + 1) := by
        refine (hroom.mono ?_).push
        have hlength := length_pidEvents alert pid result
        rw [List.length_cons]
        omega
      have hrest := ih hpid results
      rw [EventChannel.push_push] at hrest
      exact hrest

/-- A cycle emits the events of its reads. -/
theorem executePollCycle_run {config : PollConfig} {volts : Option Float}
    (hroom : events.HasRoom (2 * config.pids.length + 1)) (h : Polled config s results volts u) :
    (executePollCycle config specOverride).run ⟨s, events⟩ = (.ok (), ⟨u, events.push
      (cycleEvents (alertOf specOverride s.spec) config.pids results volts)⟩) := by
  have hpids : events.HasRoom (2 * config.pids.length) := hroom.mono (Nat.le_succ _)
  cases h with
  | pids hreads hquiet =>
    rw [executePollCycle, run_bind_ok (pollPids_run hreads hpids), hquiet, cycleEvents]
    exact congrArg (fun events => (Outcome.ok (), (⟨u, events⟩ : Polling A)))
      (congrArg events.push (List.append_nil _).symm)
  | voltage hreads hvoltage hvolts =>
    rw [executePollCycle, run_bind_ok (pollPids_run hreads hpids), hvoltage, if_pos rfl,
      pollVoltage_run hvolts (HasRoom.afterPids hroom _ results), EventChannel.push_push, cycleEvents]

/-- A cycle that is not given up has its reads. -/
theorem polled_or_dropped (config : PollConfig) (s : Session A) (hroom : events.HasRoom (2 * config.pids.length + 1)) :
    (∃ results volts u, Polled config s results volts u) ∨
      ((executePollCycle config specOverride).run ⟨s, events⟩).1 = .dropped := by
  have hpids : events.HasRoom (2 * config.pids.length) := hroom.mono (Nat.le_succ _)
  rcases pollPids_or_dropped specOverride config.pids s hpids with ⟨results, t, hreads⟩ | hdropped
  · cases hvoltage : config.readVoltage with
    | false => exact .inl ⟨results, none, t, .pids hreads hvoltage⟩
    | true =>
      rcases ends_or_dropped Session.batteryVoltage t with ⟨volts, u, hvolts⟩ | hdropped
      · exact .inl ⟨results, _, u, .voltage hreads hvoltage hvolts⟩
      · rw [executePollCycle, run_bind_ok (pollPids_run hreads hpids), hvoltage, if_pos rfl, pollVoltage,
          run_bind_dropped (onSession_attempt_dropped hdropped)]
        exact .inr rfl
  · rw [executePollCycle, run_bind_dropped (Prod.ext hdropped rfl)]
    exact .inr rfl

/-- **A poll cycle emits the events of its reads.** Of a cycle that is not given up, each PID gives
its reading with its alert, nothing, or one error, in the order of the PIDs whatever the others give;
the voltage comes last. -/
theorem executePollCycle_emits (config : PollConfig) (specOverride : Option VehicleSpec) (p : Polling A)
    (hroom : p.events.HasRoom (2 * config.pids.length + 1)) :
    (∀ results volts u, Polled config p.session results volts u →
      (executePollCycle config specOverride).run p = (.ok (), ⟨u, p.events.push
        (cycleEvents (alertOf specOverride p.session.spec) config.pids results volts)⟩)) ∧
    (((executePollCycle config specOverride).run p).1 ≠ .dropped →
      ∃ results volts u, Polled config p.session results volts u) :=
  ⟨fun _ _ _ h => executePollCycle_run hroom h, (polled_or_dropped config p.session hroom).resolve_right⟩

end Run

/-! ### Examples -/

section Examples

/-- An engine with coolant at 110 °C, that is not asked for anything else in time. -/
structure Warm where

instance : Adapter Warm where
  initializeAdapter := pure ⟨⟨.unknown, [], .can11Bit500, .none⟩, [], []⟩
  routedRequest req warm := (if req.data = [0x05] then .ok [0x96] else .error .timeout, warm)
  batteryVoltage := pure (some 12.6)
  info _ := ⟨.unknown, [], .can11Bit500, .none⟩
  drainEvents warm := ([], warm)

/-- A specification that warns of coolant from a temperature on. -/
def coolantSpec (limit : Binary64) : VehicleSpec :=
  {communication := ⟨[]⟩, thresholds := some ⟨[⟨"coolant_temp", none, none, none, some (.finite limit), none, none, "°C"⟩], []⟩}

/-- The engine in a session whose own specification warns from 105 °C on. -/
def warm : Polling Warm where
  session := {Session.new Warm.mk with initialized := true, profile := some ⟨[], some (coolantSpec 105), []⟩}
  events := ⟨true, 16, []⟩

/-- A PID that fails does not keep the events of the others back. -/
theorem executePollCycle_warm :
    let config : PollConfig := ⟨[⟨0x0C⟩, ⟨0x05⟩], true⟩
    (∃ results volts u, Polled config warm.session results volts u ∧
      (executePollCycle config none).run warm = (.ok (), ⟨u, warm.events.push
        (cycleEvents (alertOf none warm.session.spec) config.pids results volts)⟩)) ∧
    ((executePollCycle config none).run warm).2.events.queue.length = 4 := by
  intro config
  have hok : ((executePollCycle config none).run warm).1.isOk = true := by decide +kernel
  obtain ⟨hemits, hends⟩ := executePollCycle_emits config none warm ⟨rfl, by decide⟩
  obtain ⟨results, volts, u, h⟩ := hends fun hdropped => by
    rw [hdropped] at hok
    cases hok
  exact ⟨⟨results, volts, u, h, hemits results volts u h⟩, by decide +kernel⟩

end Examples

end Polling

end Obd2

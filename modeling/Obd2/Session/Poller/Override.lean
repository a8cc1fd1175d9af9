import Obd2.Session.Poller

/-! Who decides the alerts of a cycle.

A cycle may be given a specification to go by. Where that has a threshold for a PID and the value is
within it, the session's own specification is asked all the same, so an alert may be another's. The
given specification decides a cycle exactly if no value is such (`override_decides_iff`). -/
namespace Obd2.Polling
open Async

/-- The alert of a value, if the given specification decides where it has a threshold. -/
def decidedAlert (override : VehicleSpec) (spec : Option VehicleSpec) (pid : Pid) :
    Value → Option (ThresholdResult Extended)
  | .scalar v =>
    match pidThreshold (some override) pid with
    | some threshold => threshold.evaluate (.finite v) pid.name
    | none => evaluatePidThreshold spec pid (.finite v)
  | _ => none

/-- A value is out of the threshold that the given specification has for its PID, or the session's
own specification has nothing against it. -/
def Decisive (override : VehicleSpec) (spec : Option VehicleSpec) (pid : Pid) (v : Binary64) : Prop :=
  ∀ threshold, pidThreshold (some override) pid = some threshold →
    threshold.evaluate (.finite v) pid.name ≠ none ∨ evaluatePidThreshold spec pid (.finite v) = none

theorem alertOf_eq_iff (override : VehicleSpec) (spec : Option VehicleSpec) (pid : Pid) (value : Value) :
    alertOf (some override) spec pid value = decidedAlert override spec pid value ↔
      ∀ v, value = .scalar v → Decisive override spec pid v := by
  cases value with
  | scalar v =>
    have halert : alertOf (some override) spec pid (.scalar v) =
        ((pidThreshold (some override) pid).bind (·.evaluate (.finite v) pid.name) <|>
          evaluatePidThreshold spec pid (.finite v)) := rfl
    have hscalar : (∀ w, Value.scalar v = .scalar w → Decisive override spec pid w) ↔ Decisive override spec pid v :=
      ⟨fun h => h v rfl, fun h w hw => Value.scalar.inj hw ▸ h⟩
    rw [halert, hscalar, decidedAlert, Decisive]
    cases pidThreshold (some override) pid with
    | none => simp
    | some threshold =>
      cases hevaluate : threshold.evaluate (.finite v) pid.name with
      | none => simp [hevaluate]
      | some result => simp [hevaluate]
  | _ => exact iff_of_true rfl fun v hv => by cases hv

/-! ### Traces -/

section Traces
variable {alert alert' : Pid → Value → Option (ThresholdResult Extended)}

/-- The events of reads never begin with an alert. -/
theorem ne_alert_cons (alert : Pid → Value → Option (ThresholdResult Extended))
    (entries : List (Pid × Except Obd2Error Reading)) (volts : Option Float) (result : ThresholdResult Extended)
    (rest : List PollEvent) :
    entries.flatMap (fun (pid, result) => pidEvents alert pid result) ++ volts.toList.map .voltage ≠
      .alert result :: rest := by
  induction entries with
  | nil =>
    cases volts with
    | none => exact (List.cons_ne_nil _ _).symm
    | some volts =>
      intro h
      cases h
  | cons entry entries ih =>
    obtain ⟨pid, read⟩ := entry
    cases read with
    | ok reading =>
      intro h
      cases h
    | error e =>
      cases e with
      | noData => exact ih
      | _ =>
        intro h
        cases h

/-- A trace tells the alert of each reading. -/
theorem trace_eq_iff (entries : List (Pid × Except Obd2Error Reading)) (volts : Option Float) :
    entries.flatMap (fun (pid, result) => pidEvents alert pid result) ++ volts.toList.map PollEvent.voltage =
        entries.flatMap (fun (pid, result) => pidEvents alert' pid result) ++ volts.toList.map .voltage ↔
      ∀ entry ∈ entries, ∀ reading, entry.2 = .ok reading → alert entry.1 reading.value = alert' entry.1 reading.value := by
  induction entries with
  | nil => simp
  | cons entry entries ih =>
    obtain ⟨pid, read⟩ := entry
    rw [List.forall_mem_cons, ← ih, List.flatMap_cons, List.flatMap_cons, List.append_assoc, List.append_assoc]
    cases read with
    | error e =>
      have hsame : pidEvents alert pid (.error e) = pidEvents alert' pid (.error e) := by cases e <;> rfl
      simp [hsame]
    | ok reading =>
      have hfirst : (∀ reading', Except.ok reading = (.ok reading' : Except Obd2Error Reading) →
          alert pid reading'.value = alert' pid reading'.value) ↔ alert pid reading.value = alert' pid reading.value :=
        ⟨fun h => h reading rfl, fun h reading' hread => Except.ok.inj hread ▸ h⟩
      simp only [pidEvents, List.cons_append, List.cons.injEq, true_and, hfirst]
      cases halert : alert pid reading.value with
      | none =>
        cases halert' : alert' pid reading.value with
        | none => simp
        | some result =>
          refine iff_of_false (ne_alert_cons alert entries volts result _) fun h => ?_
          cases h.1
      | some result =>
        cases halert' : alert' pid reading.value with
        | none =>
          refine iff_of_false (ne_alert_cons alert' entries volts result _).symm fun h => ?_
          cases h.1
        | some result' => simp

end Traces

/-! ### Cycles -/

section Cycles
variable {A : Type} [Adapter A]

/-- **The given specification decides the alerts of a cycle exactly if each value it has a threshold
for is out of that, or is nothing to the session's own specification.** -/
theorem override_decides_iff (config : PollConfig) (override : VehicleSpec) (p : Polling A)
    (hroom : p.events.HasRoom (2 * config.pids.length + 1)) (results : List (Except Obd2Error Reading))
    (volts : Option Float) (u : Session A) (h : Polled config p.session results volts u) :
    ((executePollCycle config (some override)).run p).2.events =
        p.events.push (cycleEvents (decidedAlert override p.session.spec) config.pids results volts) ↔
      ∀ entry ∈ config.pids.zip results, ∀ reading v, entry.2 = .ok reading → reading.value = .scalar v →
        Decisive override p.session.spec entry.1 v := by
  have hemits : (executePollCycle config (some override)).run p = _ := executePollCycle_run hroom h
  have hpush (events events' : List PollEvent) : p.events.push events = p.events.push events' ↔ events = events' :=
    ⟨fun hsame => List.append_cancel_left (congrArg EventChannel.queue hsame), fun hsame => by rw [hsame]⟩
  rw [hemits, hpush, cycleEvents, cycleEvents, trace_eq_iff]
  refine forall₂_congr fun entry _ => ?_
  constructor
  · intro halerts reading v hread hvalue
    exact (alertOf_eq_iff override p.session.spec entry.1 reading.value).mp (halerts reading hread) v hvalue
  · intro hdecisive reading hread
    exact (alertOf_eq_iff override p.session.spec entry.1 reading.value).mpr fun v hvalue =>
      hdecisive reading v hread hvalue

end Cycles

/-! ### Examples -/

section Examples

def PollEvent.isAlert : PollEvent → Bool
  | .alert _ => true
  | _ => false

/-- One cycle over the coolant temperature. -/
def coolantCycle : PollConfig := ⟨[⟨0x05⟩], false⟩

/-- The coolant temperature of the engine, as it is read. -/
def coolantRead (p : Polling Warm) : Except Obd2Error Reading :=
  match ((Session.readPid ⟨0x05⟩).run p.session).1 with
  | .ok reading => .ok reading
  | .error e => .error e
  | .dropped => .error .noData

theorem polled_coolant {p : Polling Warm} (hok : ((Session.readPid ⟨0x05⟩).run p.session).1.isOk = true) :
    Polled coolantCycle p.session [coolantRead p] none ((Session.readPid ⟨0x05⟩).run p.session).2 := by
  refine .pids (.cons (Prod.ext ?_ rfl) (.nil _)) rfl
  obtain ⟨reading, hread⟩ := Outcome.eq_ok_of_isOk hok
  rw [coolantRead, hread]
  rfl

/-- A session with no specification of its own. -/
def unspecified : Polling Warm := {warm with session := {Session.new Warm.mk with initialized := true}}

/-- There the given specification decides. -/
theorem override_decides_unspecified :
    ((executePollCycle coolantCycle (some (coolantSpec 115))).run unspecified).2.events = unspecified.events.push
      (cycleEvents (decidedAlert (coolantSpec 115) none) coolantCycle.pids [coolantRead unspecified] none) :=
  (override_decides_iff coolantCycle (coolantSpec 115) unspecified ⟨rfl, by decide⟩ _ _ _
    (polled_coolant (by decide +kernel))).mpr fun _ _ _ _ _ _ _ _ => .inr rfl

/-- The given specification has nothing against 110 °C, and there is an alert: that of the session's own. -/
theorem override_overruled :
    let events := ((executePollCycle coolantCycle (some (coolantSpec 115))).run warm).2.events
    let decided := cycleEvents (decidedAlert (coolantSpec 115) warm.session.spec) coolantCycle.pids [coolantRead warm] none
    Polled coolantCycle warm.session [coolantRead warm] none ((Session.readPid ⟨0x05⟩).run warm.session).2 ∧
      events.queue.map PollEvent.isAlert = [false, true] ∧ decided.map PollEvent.isAlert = [false] ∧
      events ≠ warm.events.push decided := by
  intro events decided
  have hevents : events.queue.map PollEvent.isAlert = [false, true] := by decide +kernel
  have hdecided : decided.map PollEvent.isAlert = [false] := by decide +kernel
  refine ⟨polled_coolant (by decide +kernel), hevents, hdecided, fun hsame => ?_⟩
  have hqueue : events.queue = decided := congrArg EventChannel.queue hsame
  rw [hqueue, hdecided] at hevents
  cases hevents

end Examples

end Obd2.Polling

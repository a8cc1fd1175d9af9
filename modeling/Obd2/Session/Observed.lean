import Obd2.Session.Requests

/-! A session over an adapter whose calls are recorded.

The adapter under it is any adapter. What a request of the session comes to is told by cases
(`sendRequest_cases`): it is refused, it is not routed, or it is one call whose outcome is its
own. Initialization is not recorded. -/
namespace Obd2

/-- A call of the session to its adapter, and how it ended. -/
inductive AdapterCall where
  | routedRequest (req : RoutedRequest) (outcome : Outcome Obd2Error (List UInt8))
  | batteryVoltage (outcome : Outcome Obd2Error (Option Float))

def Outcome.isDropped {ε α : Type} : Outcome ε α → Bool
  | .dropped => true
  | _ => false

/-- The caller gave up while it waited for the adapter. -/
def AdapterCall.isDropped : AdapterCall → Bool
  | routedRequest _ outcome => outcome.isDropped
  | batteryVoltage outcome => outcome.isDropped

structure Observed (A : Type) where
  adapter : A
  log : List AdapterCall

namespace Observed
variable {A : Type} {α : Type}

/-- The adapter's computation, recorded. -/
def call (record : Outcome Obd2Error α → AdapterCall) (x : Async Obd2Error A α) :
    Async Obd2Error (Observed A) α := fun observed =>
  let (outcome, adapter) := x.run observed.adapter
  (outcome, ⟨adapter, observed.log ++ [record outcome]⟩)

instance [Adapter A] : Adapter (Observed A) where
  initializeAdapter := Adapter.initializeAdapter.on adapter fun adapter observed => {observed with adapter}
  routedRequest req := call (.routedRequest req) (Adapter.routedRequest req)
  batteryVoltage := call .batteryVoltage Adapter.batteryVoltage
  info observed := Adapter.info observed.adapter
  drainEvents observed :=
    let (events, adapter) := Adapter.drainEvents observed.adapter
    (events, {observed with adapter})

end Observed

namespace Session

section States
variable {A : Type}

/-- What a call of the session leaves behind. -/
structure Called (s s' : Session (Observed A)) (call : AdapterCall) : Prop where
  log : s'.adapter.log = s.adapter.log ++ [call]
  requestInFlight : s'.requestInFlight = call.isDropped
  diagnosticState : s'.diagnosticState = s.diagnosticState

/-- Nothing was asked of the adapter but its initialization. -/
structure Silent (s s' : Session (Observed A)) : Prop where
  log : s'.adapter.log = s.adapter.log
  requestInFlight : s'.requestInFlight = s.requestInFlight
  diagnosticState : s'.diagnosticState = s.diagnosticState

theorem Silent.refl (s : Session (Observed A)) : Silent s s := ⟨rfl, rfl, rfl⟩

theorem Silent.trans {s t u : Session (Observed A)} (h : Silent s t) (h' : Silent t u) : Silent s u :=
  ⟨h'.log.trans h.log, h'.requestInFlight.trans h.requestInFlight,
    h'.diagnosticState.trans h.diagnosticState⟩

end States

section Requests
variable {A : Type} [Adapter A] {α : Type}

/-- A request in flight is one call, and the flag is given back unless the call is dropped. -/
theorem dispatch_call (record : Outcome Obd2Error α → AdapterCall)
    (hrecord : ∀ o, (record o).isDropped = o.isDropped) (x : Async Obd2Error A α)
    {s : Session (Observed A)} (hflag : s.requestInFlight = true) :
    ∃ o s', (dispatch (Observed.call record x)).run s = (o, s') ∧ Called s s' (record o) := by
  have hcall {o : Outcome Obd2Error α} {adapter : A} (hrun : x.run s.adapter.adapter = (o, adapter)) :
      (Observed.call record x).run s.adapter = (o, ⟨adapter, s.adapter.log ++ [record o]⟩) := by
    show (let (outcome, adapter) := x.run s.adapter.adapter
      (outcome, (⟨adapter, s.adapter.log ++ [record outcome]⟩ : Observed A))) = _
    rw [hrun]
  rcases Async.ends_or_dropped x s.adapter.adapter with ⟨result, adapter, hrun⟩ | hdropped
  · obtain ⟨s', hdispatch, hkeeps⟩ := dispatch_returns (hcall hrun)
    refine ⟨_, s', hdispatch, congrArg Observed.log hkeeps.adapter, hkeeps.requestInFlight.trans ?_,
      hkeeps.diagnosticState⟩
    rw [hrecord]
    cases result <;> rfl
  · exact ⟨_, _, dispatch_dropped (hcall (Prod.ext hdropped rfl)), rfl, hflag.trans (hrecord .dropped).symm, rfl⟩

/-- A request that is idle and resolved is one call. -/
theorem sendRequest_called {s : Session (Observed A)} (hidle : s.requestInFlight = false)
    {req : ServiceRequest} {routed : RoutedRequest} (hroute : s.resolveRequest req = .ok routed) :
    ∃ o s', (sendRequest req).run s = (o, s') ∧ Called s s' (.routedRequest routed o) := by
  have hkeeps := keeps_recordVisibleTarget routed.target {s with requestInFlight := true}
  obtain ⟨o, s', hdispatch, hcalled⟩ := dispatch_call (.routedRequest routed) (fun _ => rfl)
    (Adapter.routedRequest routed) (s := recordVisibleTarget routed.target {s with requestInFlight := true})
    hkeeps.requestInFlight
  refine ⟨o, s', ?_, ?_⟩
  · rw [sendRequest_resolved hidle hroute]
    exact hdispatch
  · exact ⟨hcalled.log.trans (congrArg (·.log ++ _) hkeeps.adapter), hcalled.requestInFlight,
      hcalled.diagnosticState.trans hkeeps.diagnosticState⟩

/-- **A request of a session**: refused because one is in flight, not routed, or one call. -/
theorem sendRequest_cases (req : ServiceRequest) (s : Session (Observed A)) :
    (s.requestInFlight = true ∧ (sendRequest req).run s = (.error .adapterBusy, s)) ∨
    (s.requestInFlight = false ∧ ∃ e s', (sendRequest req).run s = (.error e, s') ∧ Keeps s s') ∨
    (s.requestInFlight = false ∧ ∃ routed o s', s.resolveRequest req = .ok routed ∧
      (sendRequest req).run s = (o, s') ∧ Called s s' (.routedRequest routed o)) := by
  cases hflag : s.requestInFlight with
  | true =>
    exact .inl ⟨rfl, sendRequest_busy hflag req⟩
  | false =>
    cases hroute : s.resolveRequest req with
    | error e =>
      exact .inr (.inl ⟨rfl, e, {s with requestInFlight := false}, sendRequest_unresolved hflag hroute, rfl, rfl,
        hflag.symm, rfl⟩)
    | ok routed =>
      obtain ⟨o, s', hrun, hcalled⟩ := sendRequest_called hflag hroute
      exact .inr (.inr ⟨rfl, routed, o, s', rfl, hrun, hcalled⟩)

/-! ### Initialization -/

theorem initializeSession_silent :
    Async.Across Silent (initializeSession : Op (Observed A) AdapterInfo) := by
  refine Async.Across.bind Silent.trans (Async.Across.modify fun s => ⟨rfl, rfl, rfl⟩) fun _ => ?_
  refine Async.Across.bind Silent.trans (fun s => ⟨rfl, rfl, rfl⟩) fun report => ?_
  refine Async.Across.bind Silent.trans (Async.Across.modify fun s => ?_) fun _ => ?_
  · have hkeeps := keeps_applyInitializationReport report
      {s with initialized := true, connectionState := .adapterInitialized}
    exact ⟨congrArg Observed.log hkeeps.adapter, hkeeps.requestInFlight, hkeeps.diagnosticState⟩
  · exact Async.Across.bind Silent.trans (Async.Across.get .refl) fun s => Async.Across.pure .refl _

theorem ensureInitialized_silent : Async.Across Silent (ensureInitialized : Op (Observed A) Unit) := by
  refine Async.Across.bind Silent.trans (Async.Across.get .refl) fun s => ?_
  split
  · exact Async.Across.pure .refl ()
  · exact Async.Across.bind Silent.trans initializeSession_silent fun _ => Async.Across.pure .refl ()

end Requests

end Session

end Obd2

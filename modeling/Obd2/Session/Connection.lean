import Obd2.Adapter.Elm327.Quiet
import Obd2.Session.Composed

/-! The state of the connection follows the last exchange.

Some events of an exchange assign a state, the last of them the one that stays (`foldl_afterEvent`).
An exchange that succeeds recovers from each state such an event can assign while the adapter is
not initializing, so that after it the session is connected (`connection_tracks`). -/
namespace Obd2.Session
open Async

/-! ### Events -/

/-- The state an event assigns, if it bears one. -/
def assigned (event : AdapterEvent) : Option ConnectionState :=
  match faultName event.kind with
  | some name => some (.error (event.detail.getD name.toList))
  | none =>
    match event.kind with
    | .err94 | .lowVoltageReset => some .disconnected
    | .recoveryAction action => if action = "LP ALERT".toList then some .ignitionOff else none
    | .unsupportedProtocol => some .unsupportedProtocol
    | .protocolSelected _ => some .connected
    | _ => none

/-- The state assigned by the last event that bears one. -/
def lastAssigned (events : List AdapterEvent) : Option ConnectionState := events.reverse.findSome? assigned

theorem afterEvent_eq (state : ConnectionState) (event : AdapterEvent) :
    afterEvent state event = (assigned event).getD state := by
  unfold afterEvent assigned
  cases faultName event.kind with
  | some name => rfl
  | none =>
    cases event.kind with
    | recoveryAction action =>
      dsimp only
      by_cases haction : action = "LP ALERT".toList
      · rw [if_pos haction, if_pos haction]
        rfl
      · rw [if_neg haction, if_neg haction]
        rfl
    | _ => rfl

theorem foldl_afterEvent (events : List AdapterEvent) (state : ConnectionState) :
    events.foldl afterEvent state = (lastAssigned events).getD state := by
  induction events generalizing state with
  | nil => rfl
  | cons event rest ih =>
    rw [List.foldl_cons, ih, afterEvent_eq, lastAssigned, lastAssigned, List.reverse_cons, List.findSome?_append]
    cases rest.reverse.findSome? assigned with
    | none => cases hevent : assigned event <;> simp [hevent]
    | some later => rfl

theorem connectionState_applyAdapterEvents {A : Type} [Adapter A] (events : List AdapterEvent) (s : Session A) :
    (applyAdapterEvents events s).connectionState = (lastAssigned events).getD s.connectionState := by
  rw [← foldl_afterEvent, applyAdapterEvents]
  dsimp only
  split <;> rfl

theorem connectionState_recordVisibleTarget {A : Type} (target : PhysicalTarget) (s : Session A) :
    (recordVisibleTarget target s).connectionState = s.connectionState := by
  unfold recordVisibleTarget
  split
  · rfl
  · dsimp only
    split <;> rfl

/-- The states of a session between its exchanges. -/
inductive Active : ConnectionState → Prop where
  | connected : Active .connected
  | ignitionOff : Active .ignitionOff
  | disconnected : Active .disconnected
  | error (message : Text) : Active (.error message)

theorem active_assigned {event : AdapterEvent} (h : event.kind ≠ .unsupportedProtocol) {state : ConnectionState}
    (hassigned : assigned event = some state) : Active state := by
  unfold assigned at hassigned
  split at hassigned
  · cases hassigned
    exact .error _
  · split at hassigned
    · cases hassigned
      exact .disconnected
    · cases hassigned
      exact .disconnected
    · split at hassigned
      · cases hassigned
        exact .ignitionOff
      · cases hassigned
    · next hkind => exact absurd hkind h
    · cases hassigned
      exact .connected
    · cases hassigned

theorem active_lastAssigned {events : List AdapterEvent} (h : ∀ event ∈ events, event.kind ≠ .unsupportedProtocol)
    {state : ConnectionState} (hstate : Active state) : Active ((lastAssigned events).getD state) := by
  cases hlast : lastAssigned events with
  | none => exact hstate
  | some last =>
    obtain ⟨event, hmem, hassigned⟩ := List.exists_of_findSome?_eq_some hlast
    exact active_assigned (h event (List.mem_reverse.mp hmem)) hassigned

/-- Success recovers from every such state. -/
theorem connected_of_active {A : Type} {s : Session A} (h : Active s.connectionState) :
    (markConnectionActiveIfRecovered s).connectionState = .connected := by
  unfold markConnectionActiveIfRecovered
  split
  · rfl
  · rfl
  · rfl
  · next hnone hdisconnected herror =>
    cases hstate : s.connectionState with
    | connected => rfl
    | ignitionOff => exact absurd hstate hnone
    | disconnected => exact absurd hstate hdisconnected
    | error message => exact absurd hstate (herror message)
    | _ =>
      rw [hstate] at h
      cases h

/-! ### Runs -/

section Runs
variable {A : Type}

/-- What may be noted besides the state of the connection. -/
structure KeepsConnection (s s' : Session A) : Prop where
  adapter : s'.adapter = s.adapter
  initialized : s'.initialized = s.initialized
  connectionState : s'.connectionState = s.connectionState

theorem keepsConnection_recordVisibleTarget (target : PhysicalTarget) (s : Session A) :
    KeepsConnection s (recordVisibleTarget target s) := by
  have hkeeps := keeps_recordVisibleTarget target s
  exact ⟨hkeeps.adapter, hkeeps.initialized, connectionState_recordVisibleTarget target s⟩

variable [Adapter A]

/-- The sessions reached by operations after a successful initialization, also in the middle of an
operation: what has run of it is composed as it is. -/
inductive Reached : Session A → Prop where
  | initialized {s s' : Session A} {info : AdapterInfo} : initializeSession.run s = (.ok info, s') → Reached s'
  | ran {s : Session A} {α : Type} {op : Op A α} : Reached s → Composed KeepsConnection op → Reached (op.run s).2

/-- What is known of the session between exchanges. -/
structure Tracked (s : Session A) : Prop where
  initialized : s.initialized = true
  adapter : AdapterReached s.adapter
  active : Active s.connectionState

theorem Tracked.of_keeps {s s' : Session A} (h : Tracked s) (hkeeps : KeepsConnection s s') : Tracked s' := by
  refine ⟨hkeeps.initialized.trans h.initialized, ?_, ?_⟩
  · rw [hkeeps.adapter]
    exact h.adapter
  · rw [hkeeps.connectionState]
    exact h.active

/-! ### One exchange -/

variable {α : Type} {x : Async Obd2Error A α} {s : Session A}

/-- The events of an exchange from the session. -/
def exchangeEvents (x : Async Obd2Error A α) (s : Session A) : List AdapterEvent :=
  (Adapter.drainEvents (x.run s.adapter).2).1

/-- An exchange that ends: the connection is active, and connected after a success. -/
theorem dispatch_connection (honly : OnlyInitializing A) (h : Tracked s) (hx : AdapterExchange x)
    {result : Except Obd2Error α} (hrun : (x.run s.adapter).1 = Outcome.ofExcept result) :
    Tracked ((dispatch x).run s).2 ∧ ((dispatch x).run s).1 = Outcome.ofExcept result ∧
      ((dispatch x).run s).2.connectionState =
        if result.toBool then .connected else (lastAssigned (exchangeEvents x s)).getD s.connectionState := by
  have hreached : AdapterReached (x.run s.adapter).2 := .exchanged h.adapter hx
  let ended := applyAdapterEvents (exchangeEvents x s)
    {s with adapter := (Adapter.drainEvents (x.run s.adapter).2).2, requestInFlight := false}
  have hended : ended.connectionState = (lastAssigned (exchangeEvents x s)).getD s.connectionState :=
    connectionState_applyAdapterEvents _ _
  have hkeeps : Keeps {s with adapter := (Adapter.drainEvents (x.run s.adapter).2).2, requestInFlight := false} ended :=
    keeps_applyAdapterEvents _ _
  have hactive : Active ended.connectionState := by
    rw [hended]
    exact active_lastAssigned (honly _ hreached) h.active
  have htracked : Tracked ended := by
    refine ⟨hkeeps.initialized.trans h.initialized, ?_, hactive⟩
    rw [hkeeps.adapter]
    exact .drained hreached
  rw [dispatch_run (Prod.ext hrun rfl)]
  cases result with
  | error e => exact ⟨htracked, rfl, hended⟩
  | ok a =>
    have hmarked := keeps_markConnectionActive ended
    refine ⟨⟨hmarked.initialized.trans htracked.initialized, ?_, ?_⟩, rfl, connected_of_active hactive⟩
    · show AdapterReached (markConnectionActiveIfRecovered ended).adapter
      rw [hmarked.adapter]
      exact htracked.adapter
    · show Active (markConnectionActiveIfRecovered ended).connectionState
      rw [connected_of_active hactive]
      exact .connected

theorem dispatch_tracked (honly : OnlyInitializing A) (hx : AdapterExchange x) (h : Tracked s) :
    Tracked ((dispatch x).run s).2 := by
  rcases Async.ends_or_dropped x s.adapter with ⟨result, adapter, hrun⟩ | hdropped
  · exact (dispatch_connection honly h hx (congrArg Prod.fst hrun)).1
  · rw [dispatch_dropped (Prod.ext hdropped rfl)]
    exact ⟨h.initialized, .exchanged h.adapter hx, h.active⟩

/-! ### Runs of exchanges -/

theorem keptInParts_tracked (honly : OnlyInitializing A) :
    KeptInParts (A := A) (fun s s' => Tracked s → Tracked s') where
  refl _ := id
  trans h h' := fun hs => h' (h hs)
  inFlight _ _ h := h.of_keeps ⟨rfl, rfl, rfl⟩
  visible target s h := h.of_keeps (keepsConnection_recordVisibleTarget target s)
  identified _ _ h := h.of_keeps ⟨rfl, rfl, rfl⟩
  ensures s h := by
    rw [ensureInitialized_ready h.initialized]
    exact h
  exchange hx _ := dispatch_tracked honly hx

theorem tracked_of_initialized {s' : Session A} {info : AdapterInfo} (h : initializeSession.run s = (.ok info, s')) :
    Tracked s' := by
  rw [initializeSession, run_bind_ok (run_modify ..)] at h
  obtain ⟨report, t, hadapter, hrest⟩ := of_run_bind_ok h
  cases hrest
  have hkeeps := keeps_applyInitializationReport report
    {t with initialized := true, connectionState := .adapterInitialized}
  refine ⟨hkeeps.initialized, ?_, .connected⟩
  show AdapterReached (applyInitializationReport report _).adapter
  rw [hkeeps.adapter]
  rw [onAdapter, run_on] at hadapter
  obtain ⟨hreport, rfl⟩ := Prod.mk.inj hadapter
  exact .initialized (Prod.ext hreport rfl)

theorem Reached.tracked (honly : OnlyInitializing A) (h : Reached s) : Tracked s := by
  induction h with
  | initialized hrun => exact tracked_of_initialized hrun
  | ran _ hop ih => exact hop.across (keptInParts_tracked honly) (fun hkeeps hs => hs.of_keeps hkeeps) _ ih

/-- An exchange in flight is one from a session that is reached. -/
theorem Reached.inFlight (h : Reached s) (target : PhysicalTarget) :
    Reached (recordVisibleTarget target {s with requestInFlight := true}) := by
  have hflag : Composed (A := A) KeepsConnection (.modify fun s => {s with requestInFlight := true}) :=
    .modify _ fun _ => ⟨rfl, rfl, rfl⟩
  have hvisible : Composed (A := A) KeepsConnection (.modify (recordVisibleTarget target)) :=
    .modify _ (keepsConnection_recordVisibleTarget target)
  exact (h.ran hflag).ran hvisible

/-- **The state of the connection follows the last exchange**: after a success it is connected, and after
an error what the last event says, if one says anything. -/
theorem connection_tracks (honly : OnlyInitializing A) (h : Reached s) (hx : AdapterExchange x) :
    (((dispatch x).run s).1.isOk = true → ((dispatch x).run s).2.connectionState = .connected) ∧
      ∀ e, ((dispatch x).run s).1 = .error e →
        ((dispatch x).run s).2.connectionState = (lastAssigned (exchangeEvents x s)).getD s.connectionState := by
  have htracked := h.tracked honly
  cases hrun : (x.run s.adapter).1 with
  | ok a =>
    have hended : (x.run s.adapter).1 = Outcome.ofExcept (.ok a) := hrun
    obtain ⟨-, houtcome, hconnected⟩ := dispatch_connection honly htracked hx hended
    rw [houtcome]
    exact ⟨fun _ => hconnected, fun _ herror => nomatch herror⟩
  | error e =>
    have hended : (x.run s.adapter).1 = Outcome.ofExcept (.error e) := hrun
    obtain ⟨-, houtcome, hassigned⟩ := dispatch_connection honly htracked hx hended
    rw [houtcome]
    exact ⟨fun hok => (nomatch hok), fun _ _ => hassigned⟩
  | dropped =>
    rw [dispatch_dropped (Prod.ext hrun rfl)]
    exact ⟨fun hok => (nomatch hok), fun _ herror => nomatch herror⟩

end Runs

/-! ### Examples -/

/-- A vehicle that answers the probe, and then finds its bus busy. -/
def busyVehicle : Session (Elm327Adapter MockTransport) :=
  Session.new (Elm327Adapter.new (MockTransport.expecting
    [("ATZ".toList, "ELM327 v2.1\r\r>".toList), ("STI".toList, "?\r>".toList),
      ("0100".toList, "41 00 BE 3E B8 11\r>".toList), ("ATDPN".toList, "A6\r>".toList),
      ("010C".toList, "BUS BUSY\r>".toList)]))

theorem reached_busyVehicle : Reached (initializeSession.run busyVehicle).2 := by
  have hok : (initializeSession.run busyVehicle).1.isOk = true := by decide +kernel
  generalize hrun : initializeSession.run busyVehicle = initialized at hok ⊢
  obtain ⟨outcome, s⟩ := initialized
  obtain ⟨info, rfl⟩ := Outcome.eq_ok_of_isOk hok
  exact .initialized hrun

/-- The request fails, and its event is the state. -/
theorem connection_tracks_busy :
    ((dispatch (Adapter.routedRequest ⟨0x01, [0x0C], .broadcast⟩)).run
      (initializeSession.run busyVehicle).2).2.connectionState = .error "BUS BUSY\r>".toList := by
  have herror : ((dispatch (Adapter.routedRequest ⟨0x01, [0x0C], .broadcast⟩)).run
      (initializeSession.run busyVehicle).2).1 = .error (.parseError "invalid hex byte: BUS") := by
    decide +kernel
  have hlast : lastAssigned (exchangeEvents (Adapter.routedRequest ⟨0x01, [0x0C], .broadcast⟩)
      (initializeSession.run busyVehicle).2) = some (.error "BUS BUSY\r>".toList) := by
    decide +kernel
  rw [(connection_tracks Elm327Adapter.onlyInitializing reached_busyVehicle (.request _)).2 _ herror, hlast]
  rfl

end Obd2.Session

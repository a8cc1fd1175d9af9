import Obd2.Adapter.Elm327.Initialization
import Obd2.Session.Operations

/-! The discovery profile is never stale.

The session keeps the profile it has resolved, and routes by it. It is resolved again whenever
one of its inputs may have changed: that is so at the end of every request, because the events
of a request are applied (`dispatch_fresh`), and hence at the end of every operation
(`Maintaining.fresh`). What the adapter knows of the device is an input too, and does not change
once the adapter is initialized. -/
namespace Obd2.Session
open Elm327Adapter Async

section State
variable {L : Type}

/-- The stored profile is the one that would be resolved now. -/
structure Fresh (s : Session (Elm327Adapter L)) : Prop where
  initialized : s.initialized = true
  adapter : s.adapter.initialized = true
  discovery : s.discovery = some (Discovery.resolveDiscoveryProfile s.adapter.info s.spec s.probeAttempts
    s.visibleEcus)

/-- Whatever an operation does to the session, it leaves a fresh profile, unless it is dropped. -/
def LeavesFresh {α : Type} (o : Outcome Obd2Error α) (s : Session (Elm327Adapter L)) : Prop :=
  o ≠ .dropped → Fresh s

theorem fresh_refresh [Link L] {s : Session (Elm327Adapter L)} (hinitialized : s.initialized = true)
    (hadapter : s.adapter.initialized = true) : Fresh s.refreshDiscoveryProfile :=
  ⟨hinitialized, hadapter, rfl⟩

theorem Fresh.of_leavesRouting {s s' : Session (Elm327Adapter L)} (h : Fresh s) (hleaves : LeavesRouting s s') :
    Fresh s' := by
  refine ⟨hleaves.initialized.trans h.initialized, ?_, ?_⟩
  · rw [hleaves.adapter]
    exact h.adapter
  · rw [hleaves.discovery, h.discovery, hleaves.adapter, spec, spec, hleaves.profile, hleaves.probeAttempts,
      hleaves.visibleEcus]

end State

section Operations
variable {L : Type} [Link L] {α : Type}

theorem fresh_applyAdapterEvents (events : List AdapterEvent) {s : Session (Elm327Adapter L)}
    (hinitialized : s.initialized = true) (hadapter : s.adapter.initialized = true) :
    Fresh (applyAdapterEvents events s) := by
  unfold applyAdapterEvents
  dsimp only
  rw [if_pos hinitialized]
  exact fresh_refresh hinitialized hadapter

/-! ### Requests -/

/-- Whatever the request was, and whatever was noted before it. -/
theorem dispatch_fresh {x : Async Obd2Error (Elm327Adapter L) α} (hx : Across Settled x)
    {s : Session (Elm327Adapter L)} (hinitialized : s.initialized = true)
    (hadapter : s.adapter.initialized = true) :
    LeavesFresh ((dispatch x).run s).1 ((dispatch x).run s).2 := by
  have hsettled := hx s.adapter
  intro hdropped
  rcases ends_or_dropped x s.adapter with ⟨result, adapter, hrun⟩ | hgiven
  · rw [hrun] at hsettled
    have hfresh : Fresh (applyAdapterEvents (Adapter.drainEvents adapter).1
        {s with adapter := (Adapter.drainEvents adapter).2, requestInFlight := false}) :=
      fresh_applyAdapterEvents _ hinitialized (hsettled.initialized.trans hadapter)
    rw [dispatch_run hrun]
    split
    · exact hfresh.of_leavesRouting (leavesRouting_markConnectionActive _)
    · exact hfresh
  · exact absurd (congrArg Prod.fst (dispatch_dropped (Prod.ext hgiven rfl))) hdropped

/-- A request that takes the flag first, if it is free. -/
theorem taken_fresh {x : Async Obd2Error (Elm327Adapter L) α} (hx : Across Settled x)
    {update : Session (Elm327Adapter L) → Session (Elm327Adapter L)} (hupdate : ∀ s, Keeps s (update s)) :
    Triple Fresh (do
      let s ← .get
      if s.requestInFlight then
        .throw .adapterBusy
      else
        .modify fun s => {s with requestInFlight := true}
        .modify update
        dispatch x : Op (Elm327Adapter L) α) LeavesFresh := by
  intro s hs
  rw [run_bind_ok (run_get s)]
  split
  · exact fun _ => hs
  · have hkeeps := hupdate {s with requestInFlight := true}
    rw [run_bind_ok (run_modify ..), run_bind_ok (run_modify ..)]
    exact dispatch_fresh hx (hkeeps.initialized.trans hs.initialized) (by rw [hkeeps.adapter]; exact hs.adapter)

theorem sendRequest_fresh (req : ServiceRequest) :
    Triple Fresh (sendRequest req : Op (Elm327Adapter L) _) LeavesFresh := by
  intro s hs
  cases hflag : s.requestInFlight with
  | true =>
    rw [sendRequest, run_bind_ok (run_get s), if_pos hflag]
    exact fun _ => hs
  | false =>
    cases hroute : s.resolveRequest req with
    | error e =>
      rw [sendRequest, run_bind_ok (run_get s), if_neg (Bool.eq_false_iff.mp hflag), hroute]
      exact fun _ => ⟨hs.initialized, hs.adapter, hs.discovery⟩
    | ok routed =>
      have hkeeps := keeps_recordVisibleTarget routed.target {s with requestInFlight := true}
      rw [sendRequest_resolved hflag hroute]
      exact dispatch_fresh (routedRequest_settled routed) (hkeeps.initialized.trans hs.initialized)
        (by rw [hkeeps.adapter]; exact hs.adapter)

theorem rawPhysicalRequest_fresh (service : UInt8) (data : List UInt8) (address : PhysicalAddress) :
    Triple Fresh (rawPhysicalRequest service data address : Op (Elm327Adapter L) _) LeavesFresh := by
  intro s hs
  rw [rawPhysicalRequest, run_bind_ok (ensureInitialized_ready hs.initialized)]
  exact taken_fresh (routedRequest_settled ⟨service, data, .addressed address⟩)
    (keeps_recordVisibleTarget (.addressed address)) s hs

theorem batteryVoltage_fresh : Triple Fresh (batteryVoltage : Op (Elm327Adapter L) _) LeavesFresh := by
  intro s hs
  rw [batteryVoltage, run_bind_ok (ensureInitialized_ready hs.initialized)]
  have hid : ∀ s : Session (Elm327Adapter L), Keeps s (id s) := fun _ => ⟨rfl, rfl, rfl, rfl⟩
  exact taken_fresh batteryVoltage_settled hid s hs

/-! ### Initialization -/

/-- The session after an initialization that succeeded. -/
def initializedWith (s : Session (Elm327Adapter L)) (report : InitializationReport)
    (adapter : Elm327Adapter L) : Session (Elm327Adapter L) :=
  {applyInitializationReport report
      {s with adapter, initialized := true, connectionState := .adapterInitialized} with
    connectionState := .connected}.refreshDiscoveryProfile

theorem onAdapter_initialized {s : Session (Elm327Adapter L)} {o : Outcome Obd2Error InitializationReport}
    {adapter : Elm327Adapter L} (h : initializeAdapter.run s.adapter = (o, adapter)) :
    (onAdapter Adapter.initializeAdapter).run {s with connectionState := .protocolNegotiating} =
      (o, {s with connectionState := .protocolNegotiating, adapter}) := by
  have h : (Adapter.initializeAdapter : Async Obd2Error (Elm327Adapter L) _).run s.adapter = (o, adapter) := h
  rw [onAdapter, run_on, h]

theorem initializedWith_adapter (s : Session (Elm327Adapter L)) (report : InitializationReport)
    (adapter : Elm327Adapter L) : (s.initializedWith report adapter).adapter = adapter :=
  (keeps_applyInitializationReport report
    {s with adapter, initialized := true, connectionState := .adapterInitialized}).adapter

theorem initializeSession_run {s : Session (Elm327Adapter L)} {report : InitializationReport}
    {adapter : Elm327Adapter L} (h : initializeAdapter.run s.adapter = (.ok report, adapter)) :
    initializeSession.run s = (.ok adapter.info, s.initializedWith report adapter) := by
  rw [initializeSession, run_bind_ok (run_modify ..), run_bind_ok (onAdapter_initialized h)]
  show (Outcome.ok (s.initializedWith report adapter).adapter.info, s.initializedWith report adapter) = _
  rw [initializedWith_adapter]

/-- It succeeds only if that of the adapter does. -/
theorem initializeSession_ok {s s' : Session (Elm327Adapter L)} {info : AdapterInfo}
    (h : initializeSession.run s = (.ok info, s')) :
    ∃ report adapter, initializeAdapter.run s.adapter = (.ok report, adapter) ∧
      s' = s.initializedWith report adapter := by
  cases hrun : initializeAdapter.run s.adapter with
  | mk o adapter =>
    cases o with
    | ok report =>
      rw [initializeSession_run hrun] at h
      cases h
      exact ⟨report, adapter, rfl, rfl⟩
    | error e =>
      rw [initializeSession, run_bind_ok (run_modify ..), run_bind_error (onAdapter_initialized hrun)] at h
      cases h
    | dropped =>
      rw [initializeSession, run_bind_ok (run_modify ..), run_bind_dropped (onAdapter_initialized hrun)] at h
      cases h

/-- An adapter that is initialized has nothing to do. -/
theorem initializeSession_again {s : Session (Elm327Adapter L)} (h : s.adapter.initialized = true) :
    initializeSession.run s = (.ok s.adapter.info,
      s.initializedWith ⟨s.adapter.info, [], s.adapter.events⟩ {s.adapter with events := []}) :=
  initializeSession_run (initialize_again h)

theorem fresh_initializedWith (s : Session (Elm327Adapter L)) (report : InitializationReport)
    {adapter : Elm327Adapter L} (h : adapter.initialized = true) : Fresh (s.initializedWith report adapter) := by
  have hkeeps := keeps_applyInitializationReport report
    {s with adapter, initialized := true, connectionState := .adapterInitialized}
  exact fresh_refresh hkeeps.initialized (by rw [hkeeps.adapter]; exact h)

/-- **An initialization that succeeds leaves a fresh profile**, whatever the session was before. -/
theorem fresh_of_initialized {s s' : Session (Elm327Adapter L)} {info : AdapterInfo}
    (h : initializeSession.run s = (.ok info, s')) : Fresh s' := by
  obtain ⟨report, adapter, hrun, rfl⟩ := initializeSession_ok h
  apply fresh_initializedWith
  cases hinitialized : s.adapter.initialized with
  | false => exact (initialize_first hinitialized hrun).initialized
  | true =>
    rw [initialize_again hinitialized] at hrun
    cases hrun
    exact hinitialized

/-! ### Operations -/

/-- **Every operation leaves a fresh profile.** -/
theorem Maintaining.fresh {x : Op (Elm327Adapter L) α} (h : Maintaining x) : Triple Fresh x LeavesFresh := by
  induction h with
  | pure a => exact Triple.pure fun s hs _ => hs
  | throw e => exact Triple.throw fun s hs _ => hs
  | get => exact fun s hs _ => hs
  | modify f h => exact fun s hs _ => hs.of_leavesRouting (h s)
  | identifies profile => exact fun s hs _ => fresh_refresh hs.initialized hs.adapter
  | initializes =>
    intro s hs _
    rw [initializeSession_again hs.adapter]
    exact fresh_initializedWith s _ hs.adapter
  | request req => exact sendRequest_fresh req
  | voltage => exact batteryVoltage_fresh
  | physical service data address => exact rawPhysicalRequest_fresh service data address
  | bind _ _ ihx ihf =>
    exact ihx.bind (fun a => (ihf a).weaken (fun s hs => hs nofun) fun _ _ h => h) (fun e s hs _ => hs nofun)
      fun s hs hdropped => absurd rfl hdropped
  | attempt _ ih =>
    exact ih.attempt (fun a s hs _ => hs nofun) (fun e s hs _ => hs nofun)
      fun s hs hdropped => absurd rfl hdropped

/-- A session after an initialization that succeeded, and after operations that ran to their end. -/
inductive Maintained : Session (Elm327Adapter L) → Prop where
  | initialized {s : Session (Elm327Adapter L)} : (initializeSession.run s).1.isOk = true →
      Maintained (initializeSession.run s).2
  | operation {s : Session (Elm327Adapter L)} {α : Type} {x : Op (Elm327Adapter L) α} : Maintained s →
      Maintaining x → (x.run s).1 ≠ .dropped → Maintained (x.run s).2

theorem Maintained.fresh {s : Session (Elm327Adapter L)} (h : Maintained s) : Fresh s := by
  induction h with
  | initialized h =>
    obtain ⟨info, hinfo⟩ := Outcome.eq_ok_of_isOk h
    exact fresh_of_initialized (Prod.ext hinfo rfl)
  | operation _ hx hended ih => exact hx.fresh _ ih hended

/-- **The discovery profile is never stale.** -/
theorem discovery_fresh {s : Session (Elm327Adapter L)} (h : Maintained s) :
    s.discovery = some (Discovery.resolveDiscoveryProfile s.adapter.info s.spec s.probeAttempts
      s.visibleEcus) := h.fresh.discovery

end Operations

/-- A vehicle on an 11-bit CAN bus that tells its VIN. -/
def pickupTranscript : List (Text × Text) :=
  [("ATZ".toList, "ELM327 v2.1\r\r>".toList), ("STI".toList, "?\r>".toList),
    ("0100".toList, "41 00 BE 3E B8 11\r\r>".toList), ("ATDPN".toList, "A6\r>".toList),
    ("0902".toList, "49 02 01 31 47 43 48 4B 32 33 32 32 34 46 30 30 30 30 30 31\r>".toList)]

/-- The specification that is matched when the vehicle is identified is in the profile. -/
theorem discovery_fresh_identified :
    let spec : VehicleSpec := {communication := ⟨[⟨⟨"hs-can"⟩, .can11Bit500, 500000,
      [⟨⟨"ecm"⟩, "engine", .can11Bit 0x7E0 0x7E8, ⟨"hs-can"⟩⟩], none⟩]⟩}
    let initial := (initializeSession.run (Session.new (Elm327Adapter.new
      (MockTransport.expecting pickupTranscript)))).2
    let identified := ((identifyVehicle fun _ => some spec).run initial).2
    identified.discovery = some (Discovery.resolveDiscoveryProfile identified.adapter.info identified.spec
      identified.probeAttempts identified.visibleEcus) := by
  intro spec initial identified
  have hinitial : Maintained initial := .initialized (by decide +kernel)
  have hidentified : ((identifyVehicle fun _ => some spec).run initial).1.isOk = true := by decide +kernel
  refine discovery_fresh (.operation hinitial (Composed.identifyVehicle leavesRouting_pids fun _ => some spec).maintaining
    fun hdropped => ?_)
  rw [hdropped] at hidentified
  cases hidentified

end Obd2.Session

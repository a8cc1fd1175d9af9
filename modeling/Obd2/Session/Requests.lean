import Obd2.Adapter.Elm327.Answer
import Obd2.Session
import Obd2.Transport.Mock

/-! What the request plumbing of a session does to its state.

`dispatch` gives the flag back however its request ends, unless the request does not end:
that is all its lemmas say, and all that later results use of it. -/
namespace Obd2.Session

/-! ### Updates of the state -/

section Updates
variable {A : Type}

/-- What an update leaves alone that is neither event bookkeeping nor discovery. -/
structure Keeps (s s' : Session A) : Prop where
  adapter : s'.adapter = s.adapter
  initialized : s'.initialized = s.initialized
  requestInFlight : s'.requestInFlight = s.requestInFlight
  diagnosticState : s'.diagnosticState = s.diagnosticState

theorem Keeps.trans {s t u : Session A} (h : Keeps s t) (h' : Keeps t u) : Keeps s u :=
  ⟨h'.adapter.trans h.adapter, h'.initialized.trans h.initialized,
    h'.requestInFlight.trans h.requestInFlight, h'.diagnosticState.trans h.diagnosticState⟩

theorem keeps_markConnectionActive (s : Session A) : Keeps s (markConnectionActiveIfRecovered s) := by
  unfold markConnectionActiveIfRecovered
  split <;> exact ⟨rfl, rfl, rfl, rfl⟩

theorem keeps_recordVisibleTarget (target : PhysicalTarget) (s : Session A) :
    Keeps s (recordVisibleTarget target s) := by
  unfold recordVisibleTarget
  split
  · exact ⟨rfl, rfl, rfl, rfl⟩
  · dsimp only
    split
    · exact ⟨rfl, rfl, rfl, rfl⟩
    · exact ⟨rfl, rfl, rfl, rfl⟩

theorem keeps_applyAdapterEvents [Adapter A] (events : List AdapterEvent) (s : Session A) :
    Keeps s (applyAdapterEvents events s) := by
  unfold applyAdapterEvents
  dsimp only
  split
  · exact ⟨rfl, rfl, rfl, rfl⟩
  · exact ⟨rfl, rfl, rfl, rfl⟩

theorem keeps_applyInitializationReport [Adapter A] (report : InitializationReport) (s : Session A) :
    Keeps s (applyInitializationReport report s) := by
  have hevents := keeps_applyAdapterEvents report.events {s with probeAttempts := report.probeAttempts}
  exact ⟨hevents.adapter, hevents.initialized, hevents.requestInFlight, hevents.diagnosticState⟩

end Updates

/-! ### Routing -/

theorem resolveRequest_module {A : Type} {s : Session A} {service : UInt8} {data : List UInt8} {m : String}
    {routed : RoutedRequest} :
    s.resolveRequest ⟨service, data, .module m⟩ = .ok routed ↔
      ∃ address, s.resolveModuleAddress m = .ok address ∧ routed = ⟨service, data, .addressed address⟩ := by
  unfold Session.resolveRequest
  dsimp only
  cases s.resolveModuleAddress m with
  | error e => simp
  | ok address => simp [eq_comm]

theorem recordVisibleTarget_spec {A : Type} (target : PhysicalTarget) (s : Session A) :
    (recordVisibleTarget target s).spec = s.spec := by
  unfold recordVisibleTarget
  split
  · rfl
  · dsimp only
    split <;> rfl

section Plumbing
variable {A : Type} [Adapter A] {α : Type}

/-! ### The request in flight -/

/-- A request that ends: its events are applied, and success is noted. -/
theorem dispatch_run {x : Async Obd2Error A α} {s : Session A} {result : Except Obd2Error α}
    {adapter : A} (h : x.run s.adapter = (Outcome.ofExcept result, adapter)) :
    (dispatch x).run s = (Outcome.ofExcept result,
      (if result.toBool then markConnectionActiveIfRecovered else id)
        (applyAdapterEvents (Adapter.drainEvents adapter).1
          {s with adapter := (Adapter.drainEvents adapter).2, requestInFlight := false})) := by
  have hresult : (onAdapter x).attempt.run s = (.ok result, {s with adapter}) := by
    rw [Async.run_attempt, onAdapter, Async.run_on, h]
    cases result <;> rfl
  rw [dispatch, Async.run_bind_ok hresult]
  cases result <;> rfl

/-- A request that ends gives the flag back, with its result or its error. -/
theorem dispatch_returns {x : Async Obd2Error A α} {s : Session A} {result : Except Obd2Error α}
    {adapter : A} (h : x.run s.adapter = (Outcome.ofExcept result, adapter)) :
    ∃ s', (dispatch x).run s = (Outcome.ofExcept result, s') ∧
      Keeps {s with adapter := (Adapter.drainEvents adapter).2, requestInFlight := false} s' := by
  have hevents := keeps_applyAdapterEvents (Adapter.drainEvents adapter).1
    {s with adapter := (Adapter.drainEvents adapter).2, requestInFlight := false}
  refine ⟨_, dispatch_run h, ?_⟩
  split
  · exact hevents.trans (keeps_markConnectionActive _)
  · exact hevents

/-- A request that is given up while it waits leaves the session as it was. -/
theorem dispatch_dropped {x : Async Obd2Error A α} {s : Session A} {adapter : A}
    (h : x.run s.adapter = (.dropped, adapter)) :
    (dispatch x).run s = (.dropped, {s with adapter}) := by
  have hresult : (onAdapter x).attempt.run s = (.dropped, {s with adapter}) := by
    rw [Async.run_attempt, onAdapter, Async.run_on, h]
  rw [dispatch, Async.run_bind_dropped hresult]

theorem ensureInitialized_ready {s : Session A} (h : s.initialized = true) :
    ensureInitialized.run s = (.ok (), s) := by
  rw [ensureInitialized, Async.run_bind_ok (Async.run_get s), if_pos h]
  rfl

/-- A request that is idle and resolved is in flight from here on. -/
theorem sendRequest_resolved {s : Session A} (hidle : s.requestInFlight = false)
    {req : ServiceRequest} {routed : RoutedRequest} (hroute : s.resolveRequest req = .ok routed) :
    (sendRequest req).run s =
      (dispatch (Adapter.routedRequest routed)).run
        (recordVisibleTarget routed.target {s with requestInFlight := true}) := by
  have hidle : ¬ s.requestInFlight = true := by
    rw [hidle]
    exact Bool.false_ne_true
  rw [sendRequest, Async.run_bind_ok (Async.run_get s), if_neg hidle, hroute]
  rfl

/-- A request that is idle and not resolved is not sent. -/
theorem sendRequest_unresolved {s : Session A} (hidle : s.requestInFlight = false) {req : ServiceRequest}
    {e : Obd2Error} (hroute : s.resolveRequest req = .error e) :
    (sendRequest req).run s = (.error e, {s with requestInFlight := false}) := by
  have hidle : ¬ s.requestInFlight = true := by
    rw [hidle]
    exact Bool.false_ne_true
  rw [sendRequest, Async.run_bind_ok (Async.run_get s), if_neg hidle, hroute]
  rfl

/-- While a request is in flight, others are refused. -/
theorem sendRequest_busy {s : Session A} (hbusy : s.requestInFlight = true) (req : ServiceRequest) :
    (sendRequest req).run s = (.error .adapterBusy, s) := by
  rw [sendRequest, Async.run_bind_ok (Async.run_get s), if_pos hbusy]
  rfl

/-! ### What exchanges keep -/

/-- What a relation owes to be kept by an exchange with the adapter, however it ends. -/
structure KeptByExchanges (R : Session A → Session A → Prop) : Prop where
  refl : ∀ s, R s s
  trans : ∀ {s t u}, R s t → R t u → R s u
  adapter : ∀ s adapter, R s {s with adapter}
  idle : ∀ s, R s {s with requestInFlight := false}
  events : ∀ events s, R s (applyAdapterEvents events s)
  active : ∀ s, R s (markConnectionActiveIfRecovered s)
  negotiating : ∀ s, R s {s with connectionState := .protocolNegotiating}
  reported : ∀ report s, R s {applyInitializationReport report
      {s with initialized := true, connectionState := .adapterInitialized} with
    connectionState := .connected}.refreshDiscoveryProfile

namespace KeptByExchanges
variable {R : Session A → Session A → Prop}

theorem dispatch (h : KeptByExchanges R) (x : Async Obd2Error A α) : Async.Across R (dispatch x) := by
  refine Async.Across.bind h.trans (Async.Across.attempt fun s => h.adapter s _) fun result => ?_
  refine Async.Across.bind h.trans (fun s => h.adapter s _) fun events => ?_
  refine Async.Across.bind h.trans (Async.Across.modify h.idle) fun _ => ?_
  refine Async.Across.bind h.trans (Async.Across.modify (h.events events)) fun _ => ?_
  cases result with
  | ok a => exact Async.Across.bind h.trans (Async.Across.modify h.active) fun _ => Async.Across.pure h.refl a
  | error e => exact Async.Across.throw h.refl e

theorem initializeSession (h : KeptByExchanges R) : Async.Across R (initializeSession : Op A AdapterInfo) := by
  refine Async.Across.bind h.trans (Async.Across.modify h.negotiating) fun _ => ?_
  refine Async.Across.bind h.trans (fun s => h.adapter s _) fun report => ?_
  refine Async.Across.bind h.trans (Async.Across.modify (h.reported report)) fun _ => ?_
  exact Async.Across.bind h.trans (Async.Across.get h.refl) fun s => Async.Across.pure h.refl _

theorem ensureInitialized (h : KeptByExchanges R) : Async.Across R (ensureInitialized : Op A Unit) := by
  refine Async.Across.bind h.trans (Async.Across.get h.refl) fun s => ?_
  split
  · exact Async.Across.pure h.refl ()
  · exact Async.Across.bind h.trans h.initializeSession fun _ => Async.Across.pure h.refl ()

end KeptByExchanges

end Plumbing

/-! ### What is known of the vehicle -/

section Known
variable {A : Type}

/-- What a session knows of its vehicle besides the answers of its adapter. -/
structure KeepsKnown (s s' : Session A) : Prop where
  profile : s'.profile = s.profile
  visibleEcus : s'.visibleEcus = s.visibleEcus

theorem KeepsKnown.refl (s : Session A) : KeepsKnown s s := ⟨rfl, rfl⟩

theorem KeepsKnown.trans {s t u : Session A} (h : KeepsKnown s t) (h' : KeepsKnown t u) : KeepsKnown s u :=
  ⟨h'.profile.trans h.profile, h'.visibleEcus.trans h.visibleEcus⟩

/-- The vehicle, with its specification, is the same. -/
def SameVehicle (s s' : Session A) : Prop := s'.profile = s.profile

theorem keepsKnown_markConnectionActive (s : Session A) : KeepsKnown s (markConnectionActiveIfRecovered s) := by
  unfold markConnectionActiveIfRecovered
  split <;> exact ⟨rfl, rfl⟩

variable [Adapter A] {α : Type}

theorem keepsKnown_applyAdapterEvents (events : List AdapterEvent) (s : Session A) :
    KeepsKnown s (applyAdapterEvents events s) := by
  unfold applyAdapterEvents
  dsimp only
  split <;> exact ⟨rfl, rfl⟩

/-- Known is what neither an exchange nor an initialization touches. -/
theorem keptByExchanges_known : KeptByExchanges (A := A) KeepsKnown where
  refl := .refl
  trans := .trans
  adapter _ _ := ⟨rfl, rfl⟩
  idle _ := ⟨rfl, rfl⟩
  events := keepsKnown_applyAdapterEvents
  active := keepsKnown_markConnectionActive
  negotiating _ := ⟨rfl, rfl⟩
  reported report s := by
    have hevents := keepsKnown_applyAdapterEvents report.events
      {s with initialized := true, connectionState := .adapterInitialized, probeAttempts := report.probeAttempts}
    exact ⟨hevents.profile, hevents.visibleEcus⟩

omit [Adapter A] in
theorem SameVehicle.refl (s : Session A) : SameVehicle s s := rfl

omit [Adapter A] in
theorem SameVehicle.trans {s t u : Session A} (h : SameVehicle s t) (h' : SameVehicle t u) : SameVehicle s u :=
  Eq.trans h' h

/-- A request notes whom it is for; the vehicle stays the same. -/
theorem sendRequest_sameVehicle (req : ServiceRequest) :
    Async.Across SameVehicle (sendRequest req : Op A (List UInt8)) := by
  intro s
  cases hflag : s.requestInFlight with
  | true =>
    rw [sendRequest_busy hflag]
    exact .refl s
  | false =>
    cases hroute : s.resolveRequest req with
    | error e =>
      rw [sendRequest_unresolved hflag hroute]
      exact .refl s
    | ok routed =>
      rw [sendRequest_resolved hflag hroute]
      refine (keptByExchanges_known.dispatch (Adapter.routedRequest routed) _).profile.trans ?_
      unfold recordVisibleTarget
      split
      · rfl
      · dsimp only
        split <;> rfl

end Known

/-! ### Over an answering device -/

section Answered
variable {L : Type} [Link L]

/-- A session that is set up and idle, and whose device answers a request with `response`. -/
structure Answered (s : Session (Elm327Adapter L)) (req : ServiceRequest) (response : Text) : Prop where
  initialized : s.initialized = true
  idle : s.requestInFlight = false
  answers : ∃ routed, s.resolveRequest req = .ok routed ∧
    Elm327Adapter.Answers s.adapter routed response

/-- With no header set, a broadcast request is its exchange on the link. -/
theorem answered_broadcast {s : Session (Elm327Adapter L)} {service : UInt8} {data : List UInt8}
    {response : Text} (hinitialized : s.initialized = true) (hidle : s.requestInFlight = false)
    (hheader : s.adapter.currentHeader = none)
    (h : ((Elm327Adapter.exchange (Elm327Adapter.requestCommand service data)).run s.adapter.transport).1 =
      .ok response) : Answered s ⟨service, data, .broadcast⟩ response := by
  refine ⟨hinitialized, hidle, ⟨service, data, .broadcast⟩, rfl, s.adapter, _, ?_, Prod.ext h rfl⟩
  rw [Elm327Adapter.applyTarget, Elm327Adapter.clearTargeting, Async.run_bind_ok (Async.run_get s.adapter),
    if_pos hheader]
  rfl

theorem resolveRequest_request {A : Type} {s : Session A} {req : ServiceRequest}
    {routed : RoutedRequest} (h : s.resolveRequest req = .ok routed) :
    routed.serviceId = req.serviceId ∧ routed.data = req.data := by
  unfold resolveRequest at h
  split at h
  · cases h
    exact ⟨rfl, rfl⟩
  · split at h
    · cases h
      exact ⟨rfl, rfl⟩
    · cases h

/-- **An answered request is its decoded answer.** -/
theorem sendRequest_answered {s : Session (Elm327Adapter L)} {req : ServiceRequest} {response : Text}
    (h : Answered s req response) (hfault : Elm327Adapter.reportsFault response = false) :
    ∃ family s', (sendRequest req).run s =
      (Outcome.ofExcept (Elm327Adapter.decodeResponse family req.serviceId req.data response), s') := by
  obtain ⟨routed, hroute, hanswers⟩ := h.answers
  obtain ⟨hservice, hdata⟩ := resolveRequest_request hroute
  have hkeeps := keeps_recordVisibleTarget routed.target {s with requestInFlight := true}
  obtain ⟨family, adapter, hrouted⟩ := Elm327Adapter.routedRequest_of_answers hanswers hfault
  rw [hservice, hdata] at hrouted
  rw [sendRequest_resolved h.idle hroute]
  obtain ⟨s', hrun, -⟩ := dispatch_returns
    (s := recordVisibleTarget routed.target {s with requestInFlight := true})
    (x := Adapter.routedRequest routed) (by rw [hkeeps.adapter]; exact hrouted)
  exact ⟨family, s', hrun⟩

/-- **The answer to a request is its first payload.** -/
theorem sendRequest_payload {s : Session (Elm327Adapter L)} {req : ServiceRequest} {response : Text}
    (h : Answered s req response) (hlen : Elm327Adapter.skipOf req.serviceId ≤ req.data.length + 1)
    {first : List UInt8} {rests : List (List UInt8)} (hnonempty : ∀ rest ∈ first :: rests, rest ≠ [])
    (hreads : ElmCodec.Reads (Elm327Adapter.requestCommand req.serviceId req.data)
      (ElmCodec.responseLines response) ((first :: rests).map
        (ElmCodec.acknowledged req.serviceId req.data (Elm327Adapter.skipOf req.serviceId) ++ ·))) :
    ∃ s', (sendRequest req).run s =
      (.ok (Elm327Adapter.truncateKnownPayload req.serviceId req.data first), s') := by
  obtain ⟨family, s', hrun⟩ := sendRequest_answered h (Elm327Adapter.reads_no_fault hreads)
  rw [Elm327Adapter.decodeResponse_of_payloads family hlen hnonempty hreads] at hrun
  exact ⟨s', hrun⟩

/-- A session over an adapter that is set up for `protocol`, on a mock transport. -/
def readySession (protocol : Protocol) (expectations : List (Text × Text)) :
    Session (Elm327Adapter MockTransport) :=
  let adapter : Elm327Adapter MockTransport :=
    {Elm327Adapter.new (MockTransport.expecting expectations) with
      info := {Elm327Adapter.defaultAdapterInfo with protocol}, initialized := true}
  {Session.new adapter with initialized := true}

end Answered

end Obd2.Session

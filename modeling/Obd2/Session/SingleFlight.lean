import Obd2.Session.Observed
import Obd2.Session.Operations

/-! One request at a time.

An operation of a session is put together from requests, voltage readings, updates of its state
and error handling (`Operation`). Whatever it is put together to, the flag for the request in
flight is given back after it, unless a call to the adapter was dropped in it (`Operation.accounted`):
then the session refuses every request that follows. -/
namespace Obd2.Session

section Operations
variable {A : Type} [Adapter A]

/-- The operations of a session. -/
inductive Operation : {α : Type} → Op A α → Prop where
  | pure {α : Type} (a : α) : Operation (Pure.pure a : Op A α)
  | throw {α : Type} (e : Obd2Error) : Operation (.throw e : Op A α)
  | get : Operation (.get : Op A (Session A))
  | modify (f : Session A → Session A)
      (h : ∀ s, (f s).adapter = s.adapter ∧ (f s).requestInFlight = s.requestInFlight) :
      Operation (.modify f)
  | initializes : Operation initializeSession
  | request (req : ServiceRequest) : Operation (sendRequest req)
  | voltage : Operation batteryVoltage
  | physical (service : UInt8) (data : List UInt8) (address : PhysicalAddress) :
      Operation (rawPhysicalRequest service data address)
  | bind {α β : Type} {x : Op A α} {f : α → Op A β} : Operation x → (∀ a, Operation (f a)) →
      Operation (x >>= f)
  | attempt {α : Type} {x : Op A α} : Operation x → Operation x.attempt

/-- The session's own operations are among them. -/
theorem Maintaining.operation {α : Type} {x : Op A α} (h : Maintaining x) : Operation x := by
  induction h with
  | pure a => exact .pure a
  | throw e => exact .throw e
  | get => exact .get
  | modify f h => exact .modify f fun s => ⟨(h s).adapter, (h s).requestInFlight⟩
  | identifies profile => exact .modify _ fun s => ⟨rfl, rfl⟩
  | initializes => exact .initializes
  | request req => exact .request req
  | voltage => exact .voltage
  | physical service data address => exact .physical service data address
  | bind _ _ ihx ihf => exact .bind ihx ihf
  | attempt _ ih => exact .attempt ih

end Operations

/-! ### The flag -/

section Flag
variable {A : Type}

/-- The flag afterwards, by the calls in between. Once it sticks there are no more calls. -/
def Accounted (s s' : Session (Observed A)) : Prop :=
  ∃ calls, s'.adapter.log = s.adapter.log ++ calls ∧
    (s.requestInFlight = true → calls = [] ∧ s'.requestInFlight = true) ∧
    (s.requestInFlight = false → (s'.requestInFlight = false ↔ ∀ c ∈ calls, c.isDropped = false))

theorem Accounted.of_kept {s s' : Session (Observed A)} (hlog : s'.adapter.log = s.adapter.log)
    (hflag : s'.requestInFlight = s.requestInFlight) : Accounted s s' := by
  refine ⟨[], hlog.trans (List.append_nil _).symm, fun h => ⟨rfl, hflag.trans h⟩, fun h => ?_⟩
  exact iff_of_true (hflag.trans h) fun c hc => absurd hc List.not_mem_nil

theorem Accounted.refl (s : Session (Observed A)) : Accounted s s := .of_kept rfl rfl

theorem Accounted.trans {s t u : Session (Observed A)} (h : Accounted s t) (h' : Accounted t u) :
    Accounted s u := by
  obtain ⟨calls, hlog, hstuck, hfree⟩ := h
  obtain ⟨calls', hlog', hstuck', hfree'⟩ := h'
  refine ⟨calls ++ calls', ?_, fun hs => ?_, fun hs => ?_⟩
  · rw [hlog', hlog, List.append_assoc]
  · obtain ⟨hcalls, ht⟩ := hstuck hs
    obtain ⟨hcalls', hu⟩ := hstuck' ht
    exact ⟨by rw [hcalls, hcalls']; rfl, hu⟩
  · have hfree := hfree hs
    cases ht : t.requestInFlight with
    | false =>
      rw [hfree' ht, List.forall_mem_append]
      exact ⟨fun h => ⟨hfree.mp ht, h⟩, And.right⟩
    | true =>
      -- A dropped call is among the first, and the flag stays.
      obtain ⟨hcalls', hu⟩ := hstuck' ht
      rw [hcalls', List.append_nil, ← hfree, ht, hu]

theorem Accounted.of_silent {s s' : Session (Observed A)} (h : Silent s s') : Accounted s s' :=
  .of_kept h.log h.requestInFlight

theorem Accounted.of_called {s s' : Session (Observed A)} {call : AdapterCall}
    (hflag : s.requestInFlight = false) (h : Called s s' call) : Accounted s s' := by
  refine ⟨[call], h.log, fun hs => ?_, fun _ => ?_⟩
  · rw [hflag] at hs
    cases hs
  · rw [h.requestInFlight, List.forall_mem_singleton]

variable [Adapter A]

theorem sendRequest_accounted (req : ServiceRequest) :
    Async.Across Accounted (sendRequest req : Op (Observed A) (List UInt8)) := by
  intro s
  rcases sendRequest_cases req s with
    ⟨-, hrun⟩ | ⟨-, e, s', hrun, hkeeps⟩ | ⟨hflag, routed, o, s', -, hrun, hcalled⟩
  · rw [hrun]
    exact .refl s
  · rw [hrun]
    exact .of_kept (congrArg Observed.log hkeeps.adapter) hkeeps.requestInFlight
  · rw [hrun]
    exact .of_called hflag hcalled

/-- A request that takes the flag first, if it is free. -/
theorem taken_accounted {α : Type} (record : Outcome Obd2Error α → AdapterCall)
    (hrecord : ∀ o, (record o).isDropped = o.isDropped) (x : Async Obd2Error A α)
    (update : Session (Observed A) → Session (Observed A)) (hupdate : ∀ s, Keeps s (update s)) :
    Async.Across Accounted (do
      let s ← .get
      if s.requestInFlight then
        .throw .adapterBusy
      else
        .modify fun s => {s with requestInFlight := true}
        .modify update
        dispatch (Observed.call record x) : Op (Observed A) α) := by
  intro s
  rw [Async.run_bind_ok (Async.run_get s)]
  split
  · exact .refl s
  · next hflag =>
    have hflag : s.requestInFlight = false := Bool.eq_false_iff.mpr hflag
    have hkeeps := hupdate {s with requestInFlight := true}
    obtain ⟨o, s', hrun, hcalled⟩ := dispatch_call record hrecord x hkeeps.requestInFlight
    rw [Async.run_bind_ok (Async.run_modify ..), Async.run_bind_ok (Async.run_modify ..), hrun]
    exact .of_called hflag ⟨hcalled.log.trans (congrArg (·.log ++ _) hkeeps.adapter), hcalled.requestInFlight,
      hcalled.diagnosticState.trans hkeeps.diagnosticState⟩

theorem rawPhysicalRequest_accounted (service : UInt8) (data : List UInt8) (address : PhysicalAddress) :
    Async.Across Accounted (rawPhysicalRequest service data address : Op (Observed A) (List UInt8)) :=
  Async.Across.bind Accounted.trans (fun s => .of_silent (ensureInitialized_silent s)) fun _ =>
    taken_accounted _ (fun _ => rfl) (Adapter.routedRequest ⟨service, data, .addressed address⟩) _
      (keeps_recordVisibleTarget (.addressed address))

theorem batteryVoltage_accounted :
    Async.Across Accounted (batteryVoltage : Op (Observed A) (Option Float)) :=
  Async.Across.bind Accounted.trans (fun s => .of_silent (ensureInitialized_silent s)) fun _ =>
    taken_accounted .batteryVoltage (fun _ => rfl) Adapter.batteryVoltage id
      fun _ => ⟨rfl, rfl, rfl, rfl⟩

/-- **Every operation accounts for the flag.** -/
theorem Operation.accounted {α : Type} {x : Op (Observed A) α} (h : Operation x) :
    Async.Across Accounted x := by
  induction h with
  | pure a => exact Async.Across.pure .refl a
  | throw e => exact Async.Across.throw .refl e
  | get => exact Async.Across.get .refl
  | modify f h => exact Async.Across.modify fun s => .of_kept (congrArg Observed.log (h s).1) (h s).2
  | initializes => exact fun s => .of_silent (initializeSession_silent s)
  | request req => exact sendRequest_accounted req
  | voltage => exact batteryVoltage_accounted
  | physical service data address => exact rawPhysicalRequest_accounted service data address
  | bind _ _ ihx ihf => exact Async.Across.bind Accounted.trans ihx ihf
  | attempt _ ih => exact Async.Across.attempt ih

/-- The runs of a session: one operation after the other, each to its end or to the point where
it is given up. -/
inductive Run : Session (Observed A) → Prop where
  | new (adapter : A) : Run (Session.new ⟨adapter, []⟩)
  | operation {s : Session (Observed A)} {α : Type} {x : Op (Observed A) α} : Run s → Operation x →
      Run (x.run s).2

theorem run_accounted {s : Session (Observed A)} (h : Run s) :
    ∃ adapter, Accounted (Session.new ⟨adapter, []⟩) s := by
  induction h with
  | new adapter => exact ⟨adapter, .refl _⟩
  | @operation s _ _ _ hx ih =>
    obtain ⟨adapter, hrun⟩ := ih
    exact ⟨adapter, hrun.trans (hx.accounted s)⟩

/-- **The flag is free after a run exactly if no request was given up while the session waited
for its adapter.** -/
theorem requestInFlight_iff {s : Session (Observed A)} (h : Run s) :
    s.requestInFlight = false ↔ ∀ call ∈ s.adapter.log, call.isDropped = false := by
  obtain ⟨adapter, calls, hlog, -, hfree⟩ := run_accounted h
  rw [hlog]
  exact hfree rfl

end Flag

/-! ### An impatient caller -/

section Impatient

/-- An adapter whose caller gives up the first `impatience` requests, and waits for the others. -/
structure Awaited where
  impatience : Nat

instance : Adapter Awaited where
  initializeAdapter := pure ⟨⟨.unknown, [], .can11Bit500, .none⟩, [], []⟩
  routedRequest _ awaited :=
    match awaited.impatience with
    | 0 => (.ok [0x01, 0x33], awaited)
    | n + 1 => (.dropped, ⟨n⟩)
  batteryVoltage := pure none
  info _ := ⟨.unknown, [], .can11Bit500, .none⟩
  drainEvents awaited := ([], awaited)

def awaited (impatience : Nat) : Session (Observed Awaited) := Session.new ⟨⟨impatience⟩, []⟩

theorem run_awaited (impatience : Nat) : Run (awaited impatience) := Run.new (Awaited.mk impatience)

/-- A caller that waits leaves the flag free. -/
theorem requestInFlight_iff_awaited :
    (readDtcs.run (readDtcs.run (awaited 0)).2).2.requestInFlight = false := by
  have hrun : Run (readDtcs.run (readDtcs.run (awaited 0)).2).2 :=
    .operation (.operation (run_awaited 0) Composed.readDtcs.maintaining.operation) Composed.readDtcs.maintaining.operation
  have hcalls : ∀ call ∈ (readDtcs.run (readDtcs.run (awaited 0)).2).2.adapter.log,
      call.isDropped = false := by decide +kernel
  exact (requestInFlight_iff hrun).mpr hcalls

/-- A read is given up, and the next one is refused, although the adapter would answer it. -/
theorem flag_sticks :
    Run (readDtcs.run (awaited 1)).2 ∧ (readDtcs.run (awaited 1)).1 = .dropped ∧
      (readDtcs.run (awaited 1)).2.requestInFlight = true ∧
      (readDtcs.run (readDtcs.run (awaited 1)).2).1 = .error .adapterBusy := by
  refine ⟨.operation (run_awaited 1) Composed.readDtcs.maintaining.operation, ?_, ?_, ?_⟩
  · decide +kernel
  · decide +kernel
  · decide +kernel

end Impatient

end Obd2.Session

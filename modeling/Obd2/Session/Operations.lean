import Obd2.Session.Composed

/-! Operations that leave routing alone.

An operation asks its adapter for something, looks at the session, notes the outcome of a
diagnostic service or a list of supported PIDs, fails, and handles failures; identifying the
vehicle notes its profile and resolves discovery again (`Maintaining`). What the session knows
for its routing is changed in no other way. -/
namespace Obd2.Session

/-- What an update leaves alone that does not concern routing. -/
structure LeavesRouting {A : Type} (s s' : Session A) : Prop where
  adapter : s'.adapter = s.adapter
  requestInFlight : s'.requestInFlight = s.requestInFlight
  initialized : s'.initialized = s.initialized
  profile : s'.profile = s.profile
  discovery : s'.discovery = s.discovery
  probeAttempts : s'.probeAttempts = s.probeAttempts
  visibleEcus : s'.visibleEcus = s.visibleEcus

theorem leavesRouting_markConnectionActive {A : Type} (s : Session A) :
    LeavesRouting s (markConnectionActiveIfRecovered s) := by
  unfold markConnectionActiveIfRecovered
  split <;> exact ⟨rfl, rfl, rfl, rfl, rfl, rfl, rfl⟩

theorem leavesRouting_pids {A : Type} : NotesPids (A := A) LeavesRouting :=
  fun _ _ => ⟨rfl, rfl, rfl, rfl, rfl, rfl, rfl⟩

theorem leavesRouting_session {A : Type} : NotesSession (A := A) LeavesRouting :=
  fun _ _ => ⟨rfl, rfl, rfl, rfl, rfl, rfl, rfl⟩

theorem leavesRouting_unlocked {A : Type} : NotesUnlocked (A := A) LeavesRouting :=
  fun s module => leavesRouting_session s (markUnlocked module s.diagnosticState)

section Operations
variable {A : Type} [Adapter A]

/-- The operations of a session. -/
inductive Maintaining : {α : Type} → Op A α → Prop where
  | pure {α : Type} (a : α) : Maintaining (Pure.pure a : Op A α)
  | throw {α : Type} (e : Obd2Error) : Maintaining (.throw e : Op A α)
  | get : Maintaining (.get : Op A (Session A))
  | modify (f : Session A → Session A) (h : ∀ s, LeavesRouting s (f s)) : Maintaining (.modify f)
  | identifies (profile : VehicleProfile) :
      Maintaining (.modify fun s => {s with profile := some profile}.refreshDiscoveryProfile)
  | initializes : Maintaining initializeSession
  | request (req : ServiceRequest) : Maintaining (sendRequest req)
  | voltage : Maintaining batteryVoltage
  | physical (service : UInt8) (data : List UInt8) (address : PhysicalAddress) :
      Maintaining (rawPhysicalRequest service data address)
  | bind {α β : Type} {x : Op A α} {f : α → Op A β} : Maintaining x → (∀ a, Maintaining (f a)) →
      Maintaining (x >>= f)
  | attempt {α : Type} {x : Op A α} : Maintaining x → Maintaining x.attempt

theorem Maintaining.ensureInitialized : Maintaining (ensureInitialized : Op A Unit) := by
  refine .bind .get fun s => ?_
  split
  · exact .pure ()
  · exact .bind .initializes fun _ => .pure ()

/-- Whatever is composed of parts that leave routing alone. -/
theorem Composed.maintaining {α : Type} {op : Op A α} (h : Composed LeavesRouting op) : Maintaining op := by
  induction h with
  | pure a => exact .pure a
  | throw e => exact .throw e
  | get => exact .get
  | modify f hf => exact .modify f hf
  | identifies profile => exact .identifies profile
  | ensures => exact .ensureInitialized
  | request req => exact .request req
  | voltage => exact .voltage
  | physical service data address => exact .physical service data address
  | bind _ _ ihx ihf => exact .bind ihx ihf
  | attempt _ ih => exact .attempt ih

end Operations

end Obd2.Session

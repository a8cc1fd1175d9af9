import Obd2.Session.Requests

/-! What the operations of a session are put together from.

An operation makes sure that the session is initialized, asks its adapter for something, looks at
the session, notes what it found, fails, and handles failures. `Composed R` are the computations
made of such parts whose notes are within `R`; there is one lemma for each operation. The beginning
of an operation, up to any of its requests, is such a computation too.

A relation between sessions that the parts keep is kept by the operation (`Composed.across`). -/
namespace Obd2.Session
open Async

section Operations
variable {A : Type} [Adapter A]

inductive Composed (R : Session A → Session A → Prop) : {α : Type} → Op A α → Prop where
  | pure {α : Type} (a : α) : Composed R (Pure.pure a : Op A α)
  | throw {α : Type} (e : Obd2Error) : Composed R (.throw e : Op A α)
  | get : Composed R (.get : Op A (Session A))
  | modify (f : Session A → Session A) (h : ∀ s, R s (f s)) : Composed R (.modify f)
  | identifies (profile : VehicleProfile) :
      Composed R (.modify fun s => {s with profile := some profile}.refreshDiscoveryProfile)
  | ensures : Composed R ensureInitialized
  | request (req : ServiceRequest) : Composed R (sendRequest req)
  | voltage : Composed R batteryVoltage
  | physical (service : UInt8) (data : List UInt8) (address : PhysicalAddress) :
      Composed R (rawPhysicalRequest service data address)
  | bind {α β : Type} {x : Op A α} {f : α → Op A β} : Composed R x → (∀ a, Composed R (f a)) →
      Composed R (x >>= f)
  | attempt {α : Type} {x : Op A α} : Composed R x → Composed R x.attempt

/-! ### Notes -/

/-- The list of supported PIDs may be noted. -/
abbrev NotesPids (R : Session A → Session A → Prop) : Prop :=
  ∀ s pids, R s {s with supportedPidsCache := some pids}

/-- The state of the diagnostic session may be noted. -/
abbrev NotesSession (R : Session A → Session A → Prop) : Prop :=
  ∀ s diagnosticState, R s {s with diagnosticState}

/-- An unlocked module may be noted. -/
abbrev NotesUnlocked (R : Session A → Session A → Prop) : Prop :=
  ∀ s module, R s {s with diagnosticState := markUnlocked module s.diagnosticState}

namespace Composed
variable {R : Session A → Session A → Prop}

theorem lift {α : Type} (x : Except Obd2Error α) : Composed R (.lift x : Op A α) := by
  cases x with
  | ok a => exact .pure a
  | error e => exact .throw e

/-- One operation for each of a list, with what was found so far. -/
theorem forEach {α β : Type} {step : β → α → Op A β} (h : ∀ b a, Composed R (step b a)) (as : List α)
    (b : β) : Composed R (as.foldlM step b) := by
  induction as generalizing b with
  | nil => exact .pure b
  | cons a as ih =>
    rw [List.foldlM_cons]
    exact .bind (h b a) ih

/-- A request whose answer is decoded: reading a PID, freeze frame, readiness, an enhanced PID,
test results or a J1939 parameter group. -/
theorem decoded {α : Type} (req : Session A → ServiceRequest)
    (decode : List UInt8 → Except Obd2Error α) :
    Composed R (do
      Session.ensureInitialized
      let s ← .get
      let data ← sendRequest (req s)
      .lift (decode data) : Op A α) :=
  .bind .ensures fun _ => .bind .get fun _ => .bind (.request _) fun _ => lift _

/-- A request whose answer is not looked at: clearing trouble codes, releasing an actuator and
tester present. -/
theorem command (req : ServiceRequest) :
    Composed R (do
      Session.ensureInitialized
      let _data ← sendRequest req
      Pure.pure () : Op A Unit) :=
  .bind .ensures fun _ => .bind (.request _) fun _ => .pure ()

theorem rawRequest (service : UInt8) (data : List UInt8) (target : Target) :
    Composed R (rawRequest service data target : Op A (List UInt8)) :=
  .bind .ensures fun _ => .request _

/-! ### Trouble codes -/

theorem readDtcsWithTarget (serviceId : UInt8) (status : DtcStatus) (target : Target)
    (sourceModule : Option ModuleId) :
    Composed R (readDtcsWithTarget serviceId status target sourceModule : Op A (List Dtc)) := by
  refine .bind (.request _) fun data => ?_
  cases sourceModule with
  | none => exact .pure _
  | some module => exact .pure _

theorem readDtcs : Composed R (readDtcs : Op A (List Dtc)) :=
  .bind .ensures fun _ => readDtcsWithTarget ..

theorem readPendingDtcs : Composed R (readPendingDtcs : Op A (List Dtc)) :=
  .bind .ensures fun _ => readDtcsWithTarget ..

theorem readPermanentDtcs : Composed R (readPermanentDtcs : Op A (List Dtc)) :=
  .bind .ensures fun _ => readDtcsWithTarget ..

theorem readDtcsOnModule (module : ModuleId) : Composed R (readDtcsOnModule module : Op A (List Dtc)) :=
  .bind .ensures fun _ => readDtcsWithTarget ..

/-! ### Vehicle information -/

theorem readVin : Composed R (readVin : Op A Text) := by
  refine .bind .ensures fun _ => .bind (.request _) fun data => ?_
  dsimp only
  split
  · exact .pure _
  · exact .throw _

theorem querySupportedPidsFrom (bases : List UInt8) (all : List Pid) :
    Composed R (querySupportedPidsFrom bases all : Op A (List Pid)) := by
  induction bases generalizing all with
  | nil => exact .pure all
  | cons base rest ih =>
    refine .bind (.attempt (.request _)) fun result => ?_
    split
    · dsimp only
      split
      · exact ih _
      · exact .pure _
    · exact .pure _
    · exact .throw _

theorem supportedPids (hR : NotesPids R) : Composed R (supportedPids : Op A (List Pid)) := by
  refine .bind .ensures fun _ => .bind .get fun s => ?_
  split
  · exact .pure _
  · exact .bind (querySupportedPidsFrom ..) fun pids => .bind (.modify _ fun s => hR s pids) fun _ => .pure pids

theorem identifyVehicle (hR : NotesPids R) (matchVin : Text → Option VehicleSpec) :
    Composed R (identifyVehicle matchVin : Op A VehicleProfile) :=
  .bind .ensures fun _ => .bind readVin fun _ => .bind (.attempt (supportedPids hR)) fun _ =>
    .bind (.identifies _) fun _ => .pure _

/-! ### Diagnostic sessions -/

theorem enterDiagnosticSession (hR : NotesSession R) (session : DiagSession) (module : ModuleId) :
    Composed R (enterDiagnosticSession session module : Op A Unit) :=
  .bind .ensures fun _ => .bind (.request _) fun _ => .modify _ fun s => hR s _

theorem endDiagnosticSession (hR : NotesSession R) (module : ModuleId) :
    Composed R (endDiagnosticSession module : Op A Unit) :=
  .bind .ensures fun _ => .bind (.request _) fun _ => .modify _ fun s => hR s _

theorem securityAccess (hR : NotesUnlocked R) (module : ModuleId) (keyFn : List UInt8 → List UInt8) :
    Composed R (securityAccess module keyFn : Op A Unit) := by
  refine .bind .ensures fun _ => .bind (.request _) fun seed => ?_
  split
  · exact .throw _
  · split
    · exact .pure ()
    · exact .bind (.request _) fun _ => .modify _ fun s => hR s module

theorem actuatorControl (did : UInt16) (module : ModuleId) (command : ActuatorCommand) :
    Composed R (actuatorControl did module command : Op A Unit) := by
  refine .bind .ensures fun _ => .bind .get fun s => ?_
  split
  · exact .bind (.request _) fun _ => .pure ()
  · exact .throw _

end Composed

/-! ### What operations keep -/

/-- What a relation owes to be kept across operations. -/
structure KeptInParts (S : Session A → Session A → Prop) : Prop where
  refl : ∀ s, S s s
  trans : ∀ {s t u}, S s t → S t u → S s u
  inFlight : ∀ s requestInFlight, S s {s with requestInFlight}
  visible : ∀ target s, S s (recordVisibleTarget target s)
  identified : ∀ s profile, S s {s with profile := some profile}.refreshDiscoveryProfile
  ensures : Across S (ensureInitialized : Op A Unit)
  exchange : ∀ {α : Type} {x : Async Obd2Error A α}, AdapterExchange x → Across S (dispatch x)

namespace KeptInParts
variable {S : Session A → Session A → Prop}

theorem sendRequest (h : KeptInParts S) (req : ServiceRequest) :
    Across S (sendRequest req : Op A (List UInt8)) := by
  refine Across.bind h.trans (Across.get h.refl) fun s => ?_
  split
  · exact Across.throw h.refl _
  · refine Across.bind h.trans (Across.modify fun t => h.inFlight t true) fun _ => ?_
    split
    · exact Across.bind h.trans (Across.modify fun t => h.inFlight t false) fun _ => Across.throw h.refl _
    · exact Across.bind h.trans (Across.modify fun t => h.visible _ t) fun _ => h.exchange (.request _)

theorem batteryVoltage (h : KeptInParts S) : Across S (batteryVoltage : Op A (Option Float)) := by
  refine Across.bind h.trans h.ensures fun _ => Across.bind h.trans (Across.get h.refl) fun s => ?_
  split
  · exact Across.throw h.refl _
  · exact Across.bind h.trans (Across.modify fun t => h.inFlight t true) fun _ => h.exchange .voltage

theorem rawPhysicalRequest (h : KeptInParts S) (service : UInt8) (data : List UInt8) (address : PhysicalAddress) :
    Across S (rawPhysicalRequest service data address : Op A (List UInt8)) := by
  refine Across.bind h.trans h.ensures fun _ => Across.bind h.trans (Across.get h.refl) fun s => ?_
  split
  · exact Across.throw h.refl _
  · refine Across.bind h.trans (Across.modify fun t => h.inFlight t true) fun _ => ?_
    exact Across.bind h.trans (Across.modify fun t => h.visible _ t) fun _ => h.exchange (.request _)

end KeptInParts

/-- **An operation keeps what its parts and its notes keep.** -/
theorem Composed.across {R S : Session A → Session A → Prop} (h : KeptInParts S) (hR : ∀ {s t}, R s t → S s t)
    {α : Type} {op : Op A α} (hop : Composed R op) : Across S op := by
  induction hop with
  | pure a => exact Across.pure h.refl a
  | throw e => exact Across.throw h.refl e
  | get => exact Across.get h.refl
  | modify f hf => exact Across.modify fun s => hR (hf s)
  | identifies profile => exact Across.modify fun s => h.identified s profile
  | ensures => exact h.ensures
  | request req => exact h.sendRequest req
  | voltage => exact h.batteryVoltage
  | physical service data address => exact h.rawPhysicalRequest service data address
  | bind _ _ ihx ihf => exact Across.bind h.trans ihx ihf
  | attempt _ ih => exact Across.attempt ih

end Operations

end Obd2.Session

import Obd2.Adapter.Elm327.Alike
import Obd2.Session.AllDtcs
import Obd2.Session.Enhanced
import Obd2.Session.Monitoring

/-! Sessions that cannot be told apart.

Over adapters that behave alike, every operation of a session comes to the same, and leaves the same of the
session but for its adapter. There is one lemma for each operation, from those of the exchanges that all of
them go through. -/
namespace Obd2.Session
open Async
variable {A B : Type}

/-- The session, moved to another adapter. -/
def onto (adapter : B) (s : Session A) : Session B :=
  { adapter, profile := s.profile, discovery := s.discovery, connectionState := s.connectionState
    diagnosticState := s.diagnosticState, probeAttempts := s.probeAttempts, visibleEcus := s.visibleEcus
    supportedPidsCache := s.supportedPidsCache, initialized := s.initialized
    requestInFlight := s.requestInFlight }

@[simp] theorem onto_adapter (b : B) (s : Session A) : (s.onto b).adapter = b := rfl
@[simp] theorem onto_spec (b : B) (s : Session A) : (s.onto b).spec = s.spec := rfl
@[simp] theorem onto_initialized (b : B) (s : Session A) : (s.onto b).initialized = s.initialized := rfl
@[simp] theorem onto_requestInFlight (b : B) (s : Session A) : (s.onto b).requestInFlight = s.requestInFlight := rfl
@[simp] theorem onto_diagnosticState (b : B) (s : Session A) : (s.onto b).diagnosticState = s.diagnosticState := rfl
@[simp] theorem onto_supportedPidsCache (b : B) (s : Session A) :
    (s.onto b).supportedPidsCache = s.supportedPidsCache := rfl

@[simp] theorem onto_resolveRequest (b : B) (s : Session A) (req : ServiceRequest) :
    (s.onto b).resolveRequest req = s.resolveRequest req := rfl

/-- The sessions are the same but for their adapters, and these are related. -/
def Over (R : A → B → Prop) (s : Session A) (t : Session B) : Prop := ∃ b, R s.adapter b ∧ t = s.onto b

/-! ### Updates -/

section Updates
variable {R : A → B → Prop}

/-- An update that neither looks at the adapter nor touches it. -/
theorem modify_alike {f : Session A → Session A} {g : Session B → Session B}
    (hf : ∀ s, (f s).adapter = s.adapter) (hg : ∀ s b, g (s.onto b) = (f s).onto b) :
    Alike (ε := Obd2Error) (Over R) (.modify f) (.modify g) := by
  refine Alike.modify ?_
  intro s t hst
  obtain ⟨b, hb, rfl⟩ := hst
  exact ⟨b, by rwa [hf], hg s b⟩

theorem markConnectionActiveIfRecovered_alike :
    Alike (ε := Obd2Error) (Over R) (.modify markConnectionActiveIfRecovered)
      (.modify markConnectionActiveIfRecovered) := by
  refine modify_alike (fun s => (keeps_markConnectionActive s).adapter) fun s b => ?_
  unfold markConnectionActiveIfRecovered
  cases s with
  | mk adapter profile discovery connectionState =>
    cases connectionState with
    | _ => rfl

theorem recordVisibleTarget_alike (target : PhysicalTarget) :
    Alike (ε := Obd2Error) (Over R) (.modify (recordVisibleTarget target)) (.modify (recordVisibleTarget target)) := by
  refine modify_alike (fun s => (keeps_recordVisibleTarget target s).adapter) fun s b => ?_
  cases target with
  | broadcast => rfl
  | addressed address =>
    unfold recordVisibleTarget
    dsimp only
    by_cases hseen : s.visibleEcus.any (·.id == addressText address)
    · rw [if_pos hseen, if_pos (show (s.onto b).visibleEcus.any (·.id == addressText address) from hseen)]
      rfl
    · rw [if_neg hseen, if_neg (show ¬ (s.onto b).visibleEcus.any (·.id == addressText address) from hseen)]
      rfl

variable [Adapter A] [Adapter B] (h : AdaptersAlike R)
include h

theorem refreshed_over {s : Session A} {t : Session B} (hst : Over R s t) :
    Over R s.refreshDiscoveryProfile t.refreshDiscoveryProfile := by
  obtain ⟨b, hb, rfl⟩ := hst
  refine ⟨b, hb, ?_⟩
  unfold refreshDiscoveryProfile
  rw [h.info _ _ hb]
  rfl

theorem applied_over (events : List AdapterEvent) {s : Session A} {t : Session B} (hst : Over R s t) :
    Over R (applyAdapterEvents events s) (applyAdapterEvents events t) := by
  obtain ⟨b, hb, rfl⟩ := hst
  unfold applyAdapterEvents
  dsimp only
  rw [onto_initialized]
  split
  · exact refreshed_over h ⟨b, hb, rfl⟩
  · exact ⟨b, hb, rfl⟩

theorem reported_over (report : InitializationReport) {s : Session A} {t : Session B} (hst : Over R s t) :
    Over R (applyInitializationReport report s) (applyInitializationReport report t) := by
  obtain ⟨b, hb, rfl⟩ := hst
  obtain ⟨b', hb', heq⟩ := applied_over h report.events (s := {s with probeAttempts := report.probeAttempts})
    (t := {s.onto b with probeAttempts := report.probeAttempts}) ⟨b, hb, rfl⟩
  refine ⟨b', hb', ?_⟩
  unfold applyInitializationReport
  dsimp only
  rw [heq]
  rfl

end Updates

/-! ### Exchanges -/

section Exchanges
variable {R : A → B → Prop} {α : Type}

theorem onAdapter_alike {x : Async Obd2Error A α} {y : Async Obd2Error B α} (hxy : Alike R x y) :
    Alike (Over R) (onAdapter x) (onAdapter y) := by
  refine Alike.on hxy ?_ ?_
  · intro s t hst
    obtain ⟨b, hb, rfl⟩ := hst
    exact hb
  · intro s t hst a' b' hb'
    obtain ⟨b, hb, rfl⟩ := hst
    exact ⟨b', hb', rfl⟩

/-- An exchange that takes the flag, if it is free. -/
theorem taken_alike {x : Op A α} {y : Op B α} (hxy : Alike (Over R) x y) :
    Alike (Over R)
      (do
        let s ← .get
        if s.requestInFlight then
          .throw .adapterBusy
        else
          .modify fun s => {s with requestInFlight := true}
          x)
      (do
        let s ← .get
        if s.requestInFlight then
          .throw .adapterBusy
        else
          .modify fun s => {s with requestInFlight := true}
          y) := by
  refine Alike.get ?_
  intro s t hst
  obtain ⟨b, hb, rfl⟩ := hst
  rw [onto_requestInFlight]
  split
  · exact Alike.throw _
  · exact Alike.bind (modify_alike (fun _ => rfl) fun _ _ => rfl) fun _ => hxy

variable [Adapter A] [Adapter B] (h : AdaptersAlike R)
include h

theorem drainAdapterEvents_alike : Alike (Over R) (drainAdapterEvents : Op A _) drainAdapterEvents := by
  intro s t hst
  obtain ⟨b, hb, rfl⟩ := hst
  exact ⟨congrArg Outcome.ok (h.events _ _ hb), _, h.drained _ _ hb, rfl⟩

theorem dispatch_alike {x : Async Obd2Error A α} {y : Async Obd2Error B α} (hxy : Alike R x y) :
    Alike (Over R) (dispatch x) (dispatch y) := by
  refine (onAdapter_alike hxy).attempt.bind fun result => (drainAdapterEvents_alike h).bind fun events => ?_
  refine Alike.bind (modify_alike (fun _ => rfl) fun _ _ => rfl) fun _ => ?_
  refine (Alike.modify fun s t hst => applied_over h events hst).bind fun _ => ?_
  cases result with
  | ok a => exact markConnectionActiveIfRecovered_alike.bind fun _ => Alike.pure a
  | error e => exact Alike.throw e

theorem initializeSession_alike : Alike (Over R) (initializeSession : Op A AdapterInfo) initializeSession := by
  refine Alike.bind (modify_alike (fun _ => rfl) fun _ _ => rfl) fun _ => ?_
  refine (onAdapter_alike h.initializeAdapter).bind fun report => Alike.update ?_ ?_
  · intro s t hst
    obtain ⟨b, hb, rfl⟩ := hst
    have hset : Over R {s with initialized := true, connectionState := .adapterInitialized}
        {s.onto b with initialized := true, connectionState := .adapterInitialized} := ⟨b, hb, rfl⟩
    obtain ⟨b', hb', heq⟩ := reported_over h report hset
    refine refreshed_over h ⟨b', hb', ?_⟩
    rw [heq]
    rfl
  · refine Alike.get ?_
    intro s t hst
    obtain ⟨b, hb, rfl⟩ := hst
    rw [h.info _ _ hb]
    exact Alike.pure _

theorem ensureInitialized_alike : Alike (Over R) (ensureInitialized : Op A Unit) ensureInitialized := by
  refine Alike.get ?_
  intro s t hst
  obtain ⟨b, hb, rfl⟩ := hst
  rw [onto_initialized]
  split
  · exact Alike.pure ()
  · exact (initializeSession_alike h).bind fun _ => Alike.pure ()

theorem sendRequest_alike (req : ServiceRequest) :
    Alike (Over R) (sendRequest req : Op A (List UInt8)) (sendRequest req) := by
  refine Alike.get ?_
  intro s t hst
  obtain ⟨b, hb, rfl⟩ := hst
  rw [onto_requestInFlight, onto_resolveRequest]
  split
  · exact Alike.throw _
  · refine Alike.bind (modify_alike (fun _ => rfl) fun _ _ => rfl) fun _ => ?_
    split
    · exact Alike.bind (modify_alike (fun _ => rfl) fun _ _ => rfl) fun _ => Alike.throw _
    · exact (recordVisibleTarget_alike _).bind fun _ => dispatch_alike h (h.routedRequest _)

theorem batteryVoltage_alike : Alike (Over R) (batteryVoltage : Op A (Option Float)) batteryVoltage :=
  (ensureInitialized_alike h).bind fun _ => taken_alike (dispatch_alike h h.batteryVoltage)

theorem rawPhysicalRequest_alike (service : UInt8) (data : List UInt8) (address : PhysicalAddress) :
    Alike (Over R) (rawPhysicalRequest service data address : Op A (List UInt8))
      (rawPhysicalRequest service data address) :=
  (ensureInitialized_alike h).bind fun _ => taken_alike
    ((recordVisibleTarget_alike _).bind fun _ => dispatch_alike h (h.routedRequest _))

theorem rawRequest_alike (service : UInt8) (data : List UInt8) (target : Target) :
    Alike (Over R) (rawRequest service data target : Op A (List UInt8)) (rawRequest service data target) :=
  (ensureInitialized_alike h).bind fun _ => sendRequest_alike h _

/-- A request whose answer is looked at and nothing else. -/
theorem requested_alike {f : List UInt8 → Op A α} {g : List UInt8 → Op B α} (req : ServiceRequest)
    (hfg : ∀ data, Alike (Over R) (f data) (g data)) :
    Alike (Over R)
      (do
        ensureInitialized
        let data ← sendRequest req
        f data)
      (do
        ensureInitialized
        let data ← sendRequest req
        g data) :=
  (ensureInitialized_alike h).bind fun _ => (sendRequest_alike h req).bind hfg

end Exchanges

/-! ### Operations -/

section Operations
variable {R : A → B → Prop}

theorem appendRead_alike (all : List Dtc) {x : Op A (List Dtc)} {y : Op B (List Dtc)} (hxy : Alike (Over R) x y) :
    Alike (Over R) (appendRead all x) (appendRead all y) := hxy.attempt.bind fun _ => Alike.pure _

theorem panicking_alike {α : Type} (x : MayPanic α) :
    Alike (ε := Obd2Error) (Over R) (.panicking x) (.panicking x) := by
  intro s t hst
  cases x with
  | none => exact ⟨rfl, hst⟩
  | some a => exact ⟨rfl, hst⟩

theorem gather_alike {α β : Type} {x : Op A α} {y : Op B α} (hxy : Alike (Over R) x y) (add : α → β) (all : β) :
    Alike (Over R) (gather x add all) (gather y add all) := by
  refine hxy.attempt.bind fun result => ?_
  split
  · exact Alike.pure _
  · exact Alike.pure _
  · exact Alike.throw _

variable [Adapter A] [Adapter B] (h : AdaptersAlike R)
include h

theorem readDtcsWithTarget_alike (serviceId : UInt8) (status : DtcStatus) (target : Target)
    (sourceModule : Option ModuleId) :
    Alike (Over R) (readDtcsWithTarget serviceId status target sourceModule : Op A (List Dtc))
      (readDtcsWithTarget serviceId status target sourceModule) := by
  refine (sendRequest_alike h _).bind fun data => ?_
  cases sourceModule with
  | none => exact Alike.pure _
  | some module => exact Alike.pure _

theorem readDtcs_alike : Alike (Over R) (readDtcs : Op A (List Dtc)) readDtcs :=
  (ensureInitialized_alike h).bind fun _ => readDtcsWithTarget_alike h _ _ _ _

theorem readPendingDtcs_alike : Alike (Over R) (readPendingDtcs : Op A (List Dtc)) readPendingDtcs :=
  (ensureInitialized_alike h).bind fun _ => readDtcsWithTarget_alike h _ _ _ _

theorem readPermanentDtcs_alike : Alike (Over R) (readPermanentDtcs : Op A (List Dtc)) readPermanentDtcs :=
  (ensureInitialized_alike h).bind fun _ => readDtcsWithTarget_alike h _ _ _ _

theorem readDtcsOnModule_alike (module : ModuleId) :
    Alike (Over R) (readDtcsOnModule module : Op A (List Dtc)) (readDtcsOnModule module) :=
  (ensureInitialized_alike h).bind fun _ => readDtcsWithTarget_alike h _ _ _ _

theorem appendModuleDtcs_alike (all : List Dtc) (module : ModuleId) :
    Alike (Over R) (appendModuleDtcs all module : Op A (List Dtc)) (appendModuleDtcs all module) := by
  unfold appendModuleDtcs moduleReads
  rw [List.foldlM_map, List.foldlM_map]
  exact Alike.foldlM (fun all service => appendRead_alike all (readDtcsWithTarget_alike h _ _ _ _)) _ all

theorem scanModules_alike (all : List Dtc) :
    Alike (Over R) (scanModules all : Op A (List Dtc)) (scanModules all) := by
  refine Alike.get ?_
  intro s t hst
  obtain ⟨b, hb, rfl⟩ := hst
  refine Alike.bind ?_ fun all => Alike.get ?_
  · exact Alike.foldlM (fun all module => appendModuleDtcs_alike h all module) _ all
  · intro s t hst
    obtain ⟨b, hb, rfl⟩ := hst
    exact Alike.pure _

theorem readAllDtcs_alike : Alike (Over R) (readAllDtcs : Op A (List Dtc)) readAllDtcs := by
  have hlater : ∀ all, Alike (Over R)
      (appendRead all readPendingDtcs >>= fun all => appendRead all readPermanentDtcs >>= scanModules : Op A (List Dtc))
      (appendRead all readPendingDtcs >>= fun all => appendRead all readPermanentDtcs >>= scanModules) :=
    fun all => (appendRead_alike all (readPendingDtcs_alike h)).bind fun all =>
      (appendRead_alike all (readPermanentDtcs_alike h)).bind (scanModules_alike h)
  refine (ensureInitialized_alike h).bind fun _ => (readDtcs_alike h).attempt.bind fun result => ?_
  dsimp only
  split
  · exact (Alike.pure _).bind hlater
  · exact (Alike.pure []).bind hlater
  · exact (Alike.throw _).bind hlater

theorem clearDtcs_alike : Alike (Over R) (clearDtcs : Op A Unit) clearDtcs :=
  requested_alike h _ fun _ => Alike.pure ()

theorem clearDtcsOnModule_alike (module : ModuleId) :
    Alike (Over R) (clearDtcsOnModule module : Op A Unit) (clearDtcsOnModule module) :=
  requested_alike h _ fun _ => Alike.pure ()

/-! #### Vehicle information -/

theorem readVin_alike : Alike (Over R) (readVin : Op A Text) readVin := by
  refine requested_alike h _ fun data => ?_
  dsimp only
  split
  · exact Alike.pure _
  · exact Alike.throw _

theorem querySupportedPidsFrom_alike (bases : List UInt8) (all : List Pid) :
    Alike (Over R) (querySupportedPidsFrom bases all : Op A (List Pid)) (querySupportedPidsFrom bases all) := by
  induction bases generalizing all with
  | nil => exact Alike.pure all
  | cons base rest ih =>
    refine (sendRequest_alike h _).attempt.bind fun result => ?_
    split
    · dsimp only
      split
      · exact ih _
      · exact Alike.pure _
    · exact Alike.pure _
    · exact Alike.throw _

theorem supportedPids_alike : Alike (Over R) (supportedPids : Op A (List Pid)) supportedPids := by
  refine (ensureInitialized_alike h).bind fun _ => Alike.get ?_
  intro s t hst
  obtain ⟨b, hb, rfl⟩ := hst
  rw [onto_supportedPidsCache]
  split
  · exact Alike.pure _
  · refine (querySupportedPidsFrom_alike h _ _).bind fun pids => ?_
    exact Alike.bind (modify_alike (fun _ => rfl) fun _ _ => rfl) fun _ => Alike.pure pids

theorem noteProfile_alike (profile : VehicleProfile) :
    Alike (ε := Obd2Error) (Over R) (.modify fun s => {s with profile := some profile}.refreshDiscoveryProfile)
      (.modify fun s => {s with profile := some profile}.refreshDiscoveryProfile) := by
  refine Alike.modify ?_
  intro s t hst
  obtain ⟨b, hb, rfl⟩ := hst
  exact refreshed_over h ⟨b, hb, rfl⟩

theorem identifyVehicle_alike (matchVin : Text → Option VehicleSpec) :
    Alike (Over R) (identifyVehicle matchVin : Op A VehicleProfile) (identifyVehicle matchVin) :=
  (ensureInitialized_alike h).bind fun _ => (readVin_alike h).bind fun _ => (supportedPids_alike h).attempt.bind
    fun _ => (noteProfile_alike h _).bind fun _ => Alike.pure _

theorem readVehicleInfo_alike : Alike (Over R) (readVehicleInfo : Op A VehicleInfo) readVehicleInfo :=
  (ensureInitialized_alike h).bind fun _ => (readVin_alike h).bind fun _ =>
    (sendRequest_alike h _).attempt.bind fun _ => (sendRequest_alike h _).attempt.bind fun _ =>
      (sendRequest_alike h _).attempt.bind fun _ => Alike.pure _

/-! #### Diagnostic sessions -/

theorem enterDiagnosticSession_alike (session : DiagSession) (module : ModuleId) :
    Alike (Over R) (enterDiagnosticSession session module : Op A Unit) (enterDiagnosticSession session module) :=
  requested_alike h _ fun _ => modify_alike (fun _ => rfl) fun _ _ => rfl

theorem endDiagnosticSession_alike (module : ModuleId) :
    Alike (Over R) (endDiagnosticSession module : Op A Unit) (endDiagnosticSession module) :=
  requested_alike h _ fun _ => modify_alike (fun _ => rfl) fun _ _ => rfl

theorem securityAccess_alike (module : ModuleId) (keyFn : List UInt8 → List UInt8) :
    Alike (Over R) (securityAccess module keyFn : Op A Unit) (securityAccess module keyFn) := by
  refine requested_alike h _ fun seed => ?_
  split
  · exact Alike.throw _
  · split
    · exact Alike.pure ()
    · exact (sendRequest_alike h _).bind fun _ => modify_alike (fun _ => rfl) fun _ _ => rfl

theorem actuatorControl_alike (did : UInt16) (module : ModuleId) (command : ActuatorCommand) :
    Alike (Over R) (actuatorControl did module command : Op A Unit) (actuatorControl did module command) := by
  refine (ensureInitialized_alike h).bind fun _ => Alike.get ?_
  intro s t hst
  obtain ⟨b, hb, rfl⟩ := hst
  rw [onto_diagnosticState]
  split
  · exact (sendRequest_alike h _).bind fun _ => Alike.pure ()
  · exact Alike.throw _

theorem actuatorRelease_alike (did : UInt16) (module : ModuleId) :
    Alike (Over R) (actuatorRelease did module : Op A Unit) (actuatorRelease did module) :=
  requested_alike h _ fun _ => Alike.pure ()

theorem testerPresent_alike (module : ModuleId) :
    Alike (Over R) (testerPresent module : Op A Unit) (testerPresent module) :=
  requested_alike h _ fun _ => Alike.pure ()

/-! #### Readings -/

theorem readPid_alike (pid : Pid) : Alike (Over R) (readPid pid : Op A Reading) (readPid pid) :=
  requested_alike h _ fun _ => (Alike.lift _).bind fun _ => Alike.pure _

theorem readFreezeFrame_alike (pid : Pid) (frame : UInt8) :
    Alike (Over R) (readFreezeFrame pid frame : Op A Reading) (readFreezeFrame pid frame) :=
  requested_alike h _ fun _ => (Alike.lift _).bind fun _ => Alike.pure _

theorem alike_readEnhanced (did : UInt16) (module : ModuleId) :
    Alike (Over R) (readEnhanced did module : Op A Reading) (readEnhanced did module) := by
  refine (ensureInitialized_alike h).bind fun _ => Alike.get ?_
  intro s t hst
  obtain ⟨b, hb, rfl⟩ := hst
  refine (sendRequest_alike h _).bind fun data => Alike.get ?_
  intro s t hst
  obtain ⟨b, hb, rfl⟩ := hst
  exact (panicking_alike _).bind fun value => Alike.pure _

theorem readPids_alike (pids : List Pid) :
    Alike (Over R) (readPids pids : Op A (List (Pid × Reading))) (readPids pids) :=
  (ensureInitialized_alike h).bind fun _ =>
    Alike.foldlM (fun _ pid => gather_alike (readPid_alike h pid) _ _) pids []

theorem readO2Monitoring_alike (testId : UInt8) :
    Alike (Over R) (readO2Monitoring testId : Op A (List O2TestResult)) (readO2Monitoring testId) :=
  (ensureInitialized_alike h).bind fun _ =>
    Alike.foldlM (fun _ sensorByte => gather_alike (sendRequest_alike h (o2Request testId sensorByte)) _ _) o2Sensors []

theorem readAllO2Monitoring_alike :
    Alike (Over R) (readAllO2Monitoring : Op A (List O2TestResult)) readAllO2Monitoring :=
  (ensureInitialized_alike h).bind fun _ =>
    Alike.foldlM (fun _ testId => gather_alike (readO2Monitoring_alike h testId) _ _) o2Tests []

theorem readTestResults_alike (testId : UInt8) :
    Alike (Over R) (readTestResults testId : Op A (List TestResult)) (readTestResults testId) :=
  requested_alike h _ fun _ => Alike.pure _

theorem readReadiness_alike : Alike (Over R) (readReadiness : Op A ReadinessStatus) readReadiness :=
  requested_alike h _ fun _ => Alike.lift _

theorem readJ1939Pgn_alike (pgn : UInt32) :
    Alike (Over R) (readJ1939Pgn pgn : Op A (List UInt8)) (readJ1939Pgn pgn) :=
  (ensureInitialized_alike h).bind fun _ => rawRequest_alike h _ _ _

theorem readJ1939Dtcs_alike : Alike (Over R) (readJ1939Dtcs : Op A (List J1939.J1939Dtc)) readJ1939Dtcs :=
  (readJ1939Pgn_alike h _).bind fun _ => Alike.pure _

end Operations

end Obd2.Session

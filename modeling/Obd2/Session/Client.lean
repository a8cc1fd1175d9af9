import Obd2.Session.Alike

/-! A client of a session.

A client is what it calls next, by the outcomes of its calls and by what it sees of the session besides. Over
adapters that behave alike it comes to the same (`runs_alike`), also where one of the sessions is meddled with
between the calls, as long as this keeps the adapters related. -/
namespace Obd2.Session
open Async

/-- The operations of a session, by what they return. -/
inductive Call : Type → Type where
  | initializeSession : Call AdapterInfo
  | readPid (pid : Pid) : Call Reading
  | readPids (pids : List Pid) : Call (List (Pid × Reading))
  | supportedPids : Call (List Pid)
  | readDtcs : Call (List Dtc)
  | readPendingDtcs : Call (List Dtc)
  | readPermanentDtcs : Call (List Dtc)
  | readDtcsOnModule (module : ModuleId) : Call (List Dtc)
  | readAllDtcs : Call (List Dtc)
  | clearDtcs : Call Unit
  | clearDtcsOnModule (module : ModuleId) : Call Unit
  | readVin : Call Text
  | identifyVehicle (matchVin : Text → Option VehicleSpec) : Call VehicleProfile
  | readFreezeFrame (pid : Pid) (frame : UInt8) : Call Reading
  | readReadiness : Call ReadinessStatus
  | readEnhanced (did : UInt16) (module : ModuleId) : Call Reading
  | readO2Monitoring (testId : UInt8) : Call (List O2TestResult)
  | readAllO2Monitoring : Call (List O2TestResult)
  | readTestResults (testId : UInt8) : Call (List TestResult)
  | readVehicleInfo : Call VehicleInfo
  | readJ1939Pgn (pgn : UInt32) : Call (List UInt8)
  | readJ1939Dtcs : Call (List J1939.J1939Dtc)
  | enterDiagnosticSession (session : DiagSession) (module : ModuleId) : Call Unit
  | securityAccess (module : ModuleId) (keyFn : List UInt8 → List UInt8) : Call Unit
  | actuatorControl (did : UInt16) (module : ModuleId) (command : ActuatorCommand) : Call Unit
  | actuatorRelease (did : UInt16) (module : ModuleId) : Call Unit
  | testerPresent (module : ModuleId) : Call Unit
  | endDiagnosticSession (module : ModuleId) : Call Unit
  | batteryVoltage : Call (Option Float)
  | rawRequest (service : UInt8) (data : List UInt8) (target : Target) : Call (List UInt8)
  | rawPhysicalRequest (service : UInt8) (data : List UInt8) (address : PhysicalAddress) : Call (List UInt8)

def Call.op {A α : Type} [Adapter A] : Call α → Op A α
  | .initializeSession => Session.initializeSession
  | .readPid pid => Session.readPid pid
  | .readPids pids => Session.readPids pids
  | .supportedPids => Session.supportedPids
  | .readDtcs => Session.readDtcs
  | .readPendingDtcs => Session.readPendingDtcs
  | .readPermanentDtcs => Session.readPermanentDtcs
  | .readDtcsOnModule module => Session.readDtcsOnModule module
  | .readAllDtcs => Session.readAllDtcs
  | .clearDtcs => Session.clearDtcs
  | .clearDtcsOnModule module => Session.clearDtcsOnModule module
  | .readVin => Session.readVin
  | .identifyVehicle matchVin => Session.identifyVehicle matchVin
  | .readFreezeFrame pid frame => Session.readFreezeFrame pid frame
  | .readReadiness => Session.readReadiness
  | .readEnhanced did module => Session.readEnhanced did module
  | .readO2Monitoring testId => Session.readO2Monitoring testId
  | .readAllO2Monitoring => Session.readAllO2Monitoring
  | .readTestResults testId => Session.readTestResults testId
  | .readVehicleInfo => Session.readVehicleInfo
  | .readJ1939Pgn pgn => Session.readJ1939Pgn pgn
  | .readJ1939Dtcs => Session.readJ1939Dtcs
  | .enterDiagnosticSession session module => Session.enterDiagnosticSession session module
  | .securityAccess module keyFn => Session.securityAccess module keyFn
  | .actuatorControl did module command => Session.actuatorControl did module command
  | .actuatorRelease did module => Session.actuatorRelease did module
  | .testerPresent module => Session.testerPresent module
  | .endDiagnosticSession module => Session.endDiagnosticSession module
  | .batteryVoltage => Session.batteryVoltage
  | .rawRequest service data target => Session.rawRequest service data target
  | .rawPhysicalRequest service data address => Session.rawPhysicalRequest service data address

/-- A client that ends with `α`. A call may also be given up; what the client sees of the session is all of it
but the adapter, and the information on that. -/
inductive Client (α : Type) : Type 1 where
  | done (a : α)
  | call {β : Type} (call : Call β) (next : Outcome Obd2Error β → Client α)
  | look (next : AdapterInfo → Session Unit → Client α)

/-- How the operations of a session are carried out. -/
abbrev Performs (A : Type) := ∀ {β : Type}, Call β → Op A β

section Client
variable {A B α : Type} [Adapter A] [Adapter B]

def Client.run (perform : Performs A) : Client α → Session A → α × Session A
  | done a, s => (a, s)
  | call c next, s => (next ((perform c).run s).1).run perform ((perform c).run s).2
  | look next, s => (next (Adapter.info s.adapter) (s.onto ())).run perform s

/-- A run of a client on a session that `Meddles` may change between the calls. -/
inductive Client.Meddled (perform : Performs A) (Meddles : Session A → Session A → Prop) :
    Client α → Session A → α → Session A → Prop where
  | done (a : α) (s : Session A) : Meddled perform Meddles (.done a) s a s
  | call {β : Type} {c : Call β} {next : Outcome Obd2Error β → Client α} {s u : Session A} {a : α} :
      Meddled perform Meddles (next ((perform c).run s).1) ((perform c).run s).2 a u →
      Meddled perform Meddles (.call c next) s a u
  | look {next : AdapterInfo → Session Unit → Client α} {s u : Session A} {a : α} :
      Meddled perform Meddles (next (Adapter.info s.adapter) (s.onto ())) s a u →
      Meddled perform Meddles (.look next) s a u
  | meddle {client : Client α} {s t u : Session A} {a : α} : Meddles s t → Meddled perform Meddles client t a u →
      Meddled perform Meddles client s a u

/-- Nobody has to meddle. -/
theorem Client.run_meddled (perform : Performs A) (Meddles : Session A → Session A → Prop) (client : Client α)
    (s : Session A) : client.Meddled perform Meddles s (client.run perform s).1 (client.run perform s).2 := by
  induction client generalizing s with
  | done a => exact .done a s
  | call c next ih => exact .call (ih _ _)
  | look next ih => exact .look (ih _ _ s)

/-- What every call keeps, and whoever meddles, a client keeps. -/
theorem Client.meddled_keeps {I : Session A → Prop} {perform : Performs A}
    (hperform : ∀ {β : Type} (c : Call β), Preserves I (perform c))
    {Meddles : Session A → Session A → Prop} (hmeddles : ∀ {s t}, Meddles s t → I s → I t) {client : Client α}
    {s s' : Session A} {a : α} (hrun : Meddled perform Meddles client s a s') (hs : I s) : I s' := by
  induction hrun with
  | done a s => exact hs
  | call _ ih => exact ih (hperform _ _ hs)
  | look _ ih => exact ih hs
  | meddle hmeddle _ ih => exact ih (hmeddles hmeddle hs)

variable {R : A → B → Prop}

theorem Call.op_alike (h : AdaptersAlike R) (c : Call α) : Alike (Over R) (c.op : Op A α) c.op := by
  cases c with
  | initializeSession => exact initializeSession_alike h
  | readPid pid => exact readPid_alike h pid
  | readPids pids => exact readPids_alike h pids
  | supportedPids => exact supportedPids_alike h
  | readDtcs => exact readDtcs_alike h
  | readPendingDtcs => exact readPendingDtcs_alike h
  | readPermanentDtcs => exact readPermanentDtcs_alike h
  | readDtcsOnModule module => exact readDtcsOnModule_alike h module
  | readAllDtcs => exact readAllDtcs_alike h
  | clearDtcs => exact clearDtcs_alike h
  | clearDtcsOnModule module => exact clearDtcsOnModule_alike h module
  | readVin => exact readVin_alike h
  | identifyVehicle matchVin => exact identifyVehicle_alike h matchVin
  | readFreezeFrame pid frame => exact readFreezeFrame_alike h pid frame
  | readReadiness => exact readReadiness_alike h
  | readEnhanced did module => exact alike_readEnhanced h did module
  | readO2Monitoring testId => exact readO2Monitoring_alike h testId
  | readAllO2Monitoring => exact readAllO2Monitoring_alike h
  | readTestResults testId => exact readTestResults_alike h testId
  | readVehicleInfo => exact readVehicleInfo_alike h
  | readJ1939Pgn pgn => exact readJ1939Pgn_alike h pgn
  | readJ1939Dtcs => exact readJ1939Dtcs_alike h
  | enterDiagnosticSession session module => exact enterDiagnosticSession_alike h session module
  | securityAccess module keyFn => exact securityAccess_alike h module keyFn
  | actuatorControl did module command => exact actuatorControl_alike h did module command
  | actuatorRelease did module => exact actuatorRelease_alike h did module
  | testerPresent module => exact testerPresent_alike h module
  | endDiagnosticSession module => exact endDiagnosticSession_alike h module
  | batteryVoltage => exact batteryVoltage_alike h
  | rawRequest service data target => exact rawRequest_alike h service data target
  | rawPhysicalRequest service data address => exact rawPhysicalRequest_alike h service data address

/-- What a client comes to where it cannot tell the sessions apart, although one of them is meddled with. -/
theorem Client.meddled_alike (h : AdaptersAlike R) {perform : Performs A} {perform' : Performs B}
    (hperform : ∀ {β : Type} (c : Call β), Alike (Over R) (perform c) (perform' c))
    {Meddles : Session A → Session A → Prop} (hmeddles : ∀ {s t u}, Meddles s t → Over R s u → Over R t u)
    {client : Client α} {s s' : Session A} {a : α} (hrun : Meddled perform Meddles client s a s')
    {t : Session B} (hst : Over R s t) :
    (client.run perform' t).1 = a ∧ Over R s' (client.run perform' t).2 := by
  induction hrun generalizing t with
  | done a s => exact ⟨rfl, hst⟩
  | call _ ih =>
    obtain ⟨houtcome, hafter⟩ := hperform _ _ _ hst
    rw [houtcome] at ih
    exact ih hafter
  | look _ ih =>
    obtain ⟨b, hb, rfl⟩ := hst
    rw [h.info _ _ hb] at ih
    exact ih ⟨b, hb, rfl⟩
  | meddle hmeddle _ ih => exact ih (hmeddles hmeddle hst)

end Client

end Obd2.Session

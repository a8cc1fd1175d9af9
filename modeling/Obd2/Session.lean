import Obd2.Session.Discovery
import Obd2.Session.Modes

/-! The session: every operation of the library, over an adapter.

A session resolves logical modules to addresses, keeps one request in flight at a time, and
follows the state of the connection by the events its adapter reports. Its operations are
computations on its state; what it awaits is its adapter. Raw capture is not modelled, and of
a vehicle profile what routing reads of it. -/
namespace Obd2

/-- Lifecycle state of the connection to adapter and vehicle. -/
inductive ConnectionState where
  | adapterPresent
  | adapterInitialized
  | protocolNegotiating
  | connected
  | ignitionOff
  | unsupportedProtocol
  | disconnected
  | error (message : Text)
  deriving DecidableEq, Repr

/-- `diag_session::SessionState`. -/
inductive DiagnosticSessionState where
  | default
  | extended (unlockedModules : List String)
  | programming
  deriving DecidableEq, Repr

structure VehicleProfile where
  vin : Text
  spec : Option VehicleSpec
  supportedPids : List Pid

/-- A session over an adapter `A`. -/
structure Session (A : Type) where
  adapter : A
  profile : Option VehicleProfile
  discovery : Option DiscoveryProfile
  connectionState : ConnectionState
  diagnosticState : DiagnosticSessionState
  probeAttempts : List ProbeAttempt
  visibleEcus : List VisibleEcu
  supportedPidsCache : Option (List Pid)
  initialized : Bool
  requestInFlight : Bool

/-- An operation of a session. -/
abbrev Op (A α : Type) := Async Obd2Error (Session A) α

namespace Session

/-- `Session::new`. -/
def new {A : Type} (adapter : A) : Session A :=
  { adapter, profile := none, discovery := none, connectionState := .adapterPresent
    diagnosticState := .default, probeAttempts := [], visibleEcus := [], supportedPidsCache := none
    initialized := false, requestInFlight := false }

section State
variable {A : Type} [Adapter A]

/-- The matched specification. -/
def spec (s : Session A) : Option VehicleSpec := s.profile.bind (·.spec)

def refreshDiscoveryProfile (s : Session A) : Session A :=
  {s with discovery := some (Discovery.resolveDiscoveryProfile (Adapter.info s.adapter) s.spec
    s.probeAttempts s.visibleEcus)}

def markConnectionActiveIfRecovered (s : Session A) : Session A :=
  match s.connectionState with
  | .ignitionOff | .disconnected | .error _ => {s with connectionState := .connected}
  | _ => s

/-- `{:?}` of the kinds that stand for a bus fault. -/
def faultName (kind : AdapterEventKind) : Option String :=
  match kind with
  | .busBusy => some "BusBusy"
  | .busError => some "BusError"
  | .canError => some "CanError"
  | .dataError => some "DataError"
  | .rxError => some "RxError"
  | .stopped => some "Stopped"
  | _ => none

/-- The connection state after an event. -/
def afterEvent (state : ConnectionState) (event : AdapterEvent) : ConnectionState :=
  match faultName event.kind with
  | some name => .error (event.detail.getD name.toList)
  | none =>
    match event.kind with
    | .err94 | .lowVoltageReset => .disconnected
    | .recoveryAction action => if action = "LP ALERT".toList then .ignitionOff else state
    | .unsupportedProtocol => .unsupportedProtocol
    | .protocolSelected _ => .connected
    | _ => state

def applyAdapterEvents (events : List AdapterEvent) (s : Session A) : Session A :=
  let s := {s with connectionState := events.foldl afterEvent s.connectionState}
  if s.initialized then s.refreshDiscoveryProfile else s

def applyInitializationReport (report : InitializationReport) (s : Session A) : Session A :=
  let s := {s with probeAttempts := report.probeAttempts}
  let s := s.applyAdapterEvents report.events
  {s with discovery := some (Discovery.resolveDiscoveryProfile report.info s.spec s.probeAttempts
    s.visibleEcus)}

/-- The bus and module a specification declares an address for. -/
def lookupModuleForAddress (s : Session A) (address : PhysicalAddress) :
    Option BusId × Option ModuleId :=
  match s.spec with
  | none => (none, none)
  | some spec =>
    let declared := spec.communication.buses.flatMap fun bus =>
      bus.modules.filterMap fun module =>
        if module.address = address then some (bus.id, module.id) else none
    match declared with
    | (bus, module) :: _ => (some bus, some module)
    | [] => (none, none)

/-- `{:?}` of an address. -/
def addressText (address : PhysicalAddress) : String :=
  match address with
  | .j1850 node (a, b, c) => s!"J1850 \x7b node: {node}, header: [{a}, {b}, {c}] \x7d"
  | .can11Bit requestId responseId =>
    s!"Can11Bit \x7b request_id: {requestId}, response_id: {responseId} \x7d"
  | .can29Bit requestId responseId =>
    s!"Can29Bit \x7b request_id: {requestId}, response_id: {responseId} \x7d"
  | .j1939 sourceAddress => s!"J1939 \x7b source_address: {sourceAddress} \x7d"

/-- One more observation of the first entry with an identifier. -/
def observeAgain (id : String) : List VisibleEcu → List VisibleEcu
  | [] => []
  | ecu :: rest =>
    if ecu.id = id then {ecu with observationCount := ecu.observationCount + 1} :: rest
    else ecu :: observeAgain id rest

def recordVisibleTarget (target : PhysicalTarget) (s : Session A) : Session A :=
  match target with
  | .broadcast => s
  | .addressed address =>
    let id := addressText address
    if s.visibleEcus.any (·.id == id) then {s with visibleEcus := observeAgain id s.visibleEcus}
    else
      let (bus, module) := s.lookupModuleForAddress address
      {s with visibleEcus := s.visibleEcus ++ [⟨id, bus, module, some address, 1⟩]}

def resolveModuleAddress (s : Session A) (module : String) : Except Obd2Error PhysicalAddress :=
  match s.discovery with
  | none => .error (.adapter "no discovery profile available")
  | some discovery =>
    match discovery.modules.get ⟨module⟩ with
    | none => .error (.moduleNotFound module)
    | some resolved =>
      match discovery.activeBus with
      | none => .ok resolved.address
      | some activeBus =>
        if resolved.bus = activeBus.id then .ok resolved.address
        else .error (.busNotAvailable resolved.bus.id)

def resolveRequest (s : Session A) (req : ServiceRequest) : Except Obd2Error RoutedRequest :=
  match req.target with
  | .broadcast => .ok ⟨req.serviceId, req.data, .broadcast⟩
  | .module module =>
    match s.resolveModuleAddress module with
    | .ok address => .ok ⟨req.serviceId, req.data, .addressed address⟩
    | .error e => .error e

end State

/-! ### What every operation goes through -/

section Requests
variable {A : Type} [Adapter A] {α : Type}

def onAdapter (x : Async Obd2Error A α) : Op A α :=
  x.on (·.adapter) fun adapter s => {s with adapter}

/-- `Session::initialize`. -/
def initializeSession : Op A AdapterInfo := do
  .modify fun s => {s with connectionState := .protocolNegotiating}
  let report ← onAdapter Adapter.initializeAdapter
  .modify fun s =>
    let s := {s with initialized := true, connectionState := .adapterInitialized}
    let s := s.applyInitializationReport report
    {s with connectionState := .connected}.refreshDiscoveryProfile
  let s ← .get
  pure (Adapter.info s.adapter)

def ensureInitialized : Op A Unit := do
  let s ← .get
  if s.initialized then
    pure ()
  else
    let _info ← initializeSession
    pure ()

def drainAdapterEvents : Op A (List AdapterEvent) := do
  let s ← .get
  let (events, adapter) := Adapter.drainEvents s.adapter
  .set {s with adapter}
  pure events

/-- The request in flight: awaited, its events drained, and the flag given back. -/
def dispatch (x : Async Obd2Error A α) : Op A α := do
  let result ← (onAdapter x).attempt
  let events ← drainAdapterEvents
  .modify fun s => {s with requestInFlight := false}
  .modify (applyAdapterEvents events)
  match result with
  | .ok a =>
    .modify markConnectionActiveIfRecovered
    pure a
  | .error e => .throw e

def sendRequest (req : ServiceRequest) : Op A (List UInt8) := do
  let s ← .get
  if s.requestInFlight then
    .throw .adapterBusy
  else
    .modify fun s => {s with requestInFlight := true}
    match s.resolveRequest req with
    | .error e =>
      .modify fun s => {s with requestInFlight := false}
      .throw e
    | .ok routed =>
      .modify (recordVisibleTarget routed.target)
      dispatch (Adapter.routedRequest routed)

def batteryVoltage : Op A (Option Float) := do
  ensureInitialized
  let s ← .get
  if s.requestInFlight then
    .throw .adapterBusy
  else
    .modify fun s => {s with requestInFlight := true}
    dispatch Adapter.batteryVoltage

/-- Raw service request. -/
def rawRequest (service : UInt8) (data : List UInt8) (target : Target) : Op A (List UInt8) := do
  ensureInitialized
  sendRequest ⟨service, data, target⟩

/-- Raw service request to an address that is resolved already. -/
def rawPhysicalRequest (service : UInt8) (data : List UInt8) (address : PhysicalAddress) :
    Op A (List UInt8) := do
  ensureInitialized
  let s ← .get
  if s.requestInFlight then
    .throw .adapterBusy
  else
    let routed : RoutedRequest := ⟨service, data, .addressed address⟩
    .modify fun s => {s with requestInFlight := true}
    .modify (recordVisibleTarget routed.target)
    dispatch (Adapter.routedRequest routed)

end Requests

/-! ### Trouble codes -/

section Operations
variable {A : Type} [Adapter A]

def readDtcsWithTarget (serviceId : UInt8) (status : DtcStatus) (target : Target)
    (sourceModule : Option ModuleId) : Op A (List Dtc) := do
  let data ← sendRequest ⟨serviceId, [], target⟩
  let dtcs := Modes.decodeDtcBytes status data
  match sourceModule with
  | some module => pure (dtcs.map fun dtc => {dtc with sourceModule := some module.id})
  | none => pure dtcs

def readDtcs : Op A (List Dtc) := do
  ensureInitialized
  readDtcsWithTarget 0x03 .stored .broadcast none

def readPendingDtcs : Op A (List Dtc) := do
  ensureInitialized
  readDtcsWithTarget 0x07 .pending .broadcast none

def readPermanentDtcs : Op A (List Dtc) := do
  ensureInitialized
  readDtcsWithTarget 0x0A .permanent .broadcast none

def readDtcsOnModule (module : ModuleId) : Op A (List Dtc) := do
  ensureInitialized
  readDtcsWithTarget 0x03 .stored (.module module.id) (some module)

def clearDtcs : Op A Unit := do
  ensureInitialized
  let _data ← sendRequest ⟨0x04, [], .broadcast⟩
  pure ()

def clearDtcsOnModule (module : ModuleId) : Op A Unit := do
  ensureInitialized
  let _data ← sendRequest ⟨0x04, [], .module module.id⟩
  pure ()

/-! ### Vehicle information -/

def isPrintable (b : UInt8) : Bool := 0x20 ≤ b && b ≤ 0x7E

def readVin : Op A Text := do
  ensureInitialized
  let data ← sendRequest .readVin
  let vin := ((data.filter isPrintable).map fun b => Char.ofNat b.toNat).take 17
  if vin.length = 17 then pure vin
  else .throw (.parseError s!"VIN too short: {vin.length} chars")

def parseSupportedPidBitmap (data : List UInt8) (basePid : UInt8) : List UInt8 :=
  ((data.take 4).zipIdx.flatMap fun (byte, index) =>
    (List.range 8).filterMap fun bit =>
      if byte &&& ((0x80 : UInt8) >>> UInt8.ofNat bit) ≠ 0 then
        some (basePid + UInt8.ofNat index * 8 + UInt8.ofNat bit + 1)
      else
        none)

/-- The bitmaps of the bases, up to one that is short or that there is no data for. -/
def querySupportedPidsFrom : List UInt8 → List Pid → Op A (List Pid)
  | [], all => pure all
  | base :: rest, all => do
    match ← (sendRequest (.readPid ⟨base⟩)).attempt with
    | .ok data =>
      if data.length ≥ 4 then
        let found := (parseSupportedPidBitmap data base).map Pid.mk
        querySupportedPidsFrom rest (found.foldl (fun all pid => all.insert pid) all)
      else
        pure all
    | .error .noData => pure all
    | .error e => .throw e

def querySupportedPids : Op A (List Pid) := querySupportedPidsFrom [0x00, 0x20, 0x40, 0x60] []

def supportedPids : Op A (List Pid) := do
  ensureInitialized
  let s ← .get
  match s.supportedPidsCache with
  | some cached => pure cached
  | none =>
    let pids ← querySupportedPids
    .modify fun s => {s with supportedPidsCache := some pids}
    pure pids

/-- `match_vin` of the registry of specifications is a parameter. -/
def identifyVehicle (matchVin : Text → Option VehicleSpec) : Op A VehicleProfile := do
  ensureInitialized
  let vin ← readVin
  let supported ← supportedPids.attempt
  let profile : VehicleProfile := ⟨vin, matchVin vin, supported.toOption.getD []⟩
  .modify fun s => {s with profile := some profile}.refreshDiscoveryProfile
  pure profile

/-! ### Diagnostic sessions -/

/-- The sub-function of service 0x10 for a session. -/
def sessionSubFunction (session : DiagSession) : UInt8 :=
  match session with
  | .default => 0x01
  | .programming => 0x02
  | .extended => 0x03

def enterDiagnosticSession (session : DiagSession) (module : ModuleId) : Op A Unit := do
  ensureInitialized
  let _data ← sendRequest ⟨0x10, [sessionSubFunction session], .module module.id⟩
  let diagnosticState : DiagnosticSessionState :=
    match session with
    | .default => .default
    | .extended => .extended []
    | .programming => .programming
  .modify fun s => {s with diagnosticState}

/-- A module whose key was accepted, entered in the one state there is for all modules. -/
def markUnlocked (module : ModuleId) (state : DiagnosticSessionState) : DiagnosticSessionState :=
  match state with
  | .extended unlockedModules =>
    if unlockedModules.contains module.id then .extended unlockedModules
    else .extended (unlockedModules ++ [module.id])
  | _ => .extended [module.id]

/-- Seed and key exchange of service 0x27. A seed of zeros means that no key is needed. -/
def securityAccess (module : ModuleId) (keyFn : List UInt8 → List UInt8) : Op A Unit := do
  ensureInitialized
  let seed ← sendRequest ⟨0x27, [0x01], .module module.id⟩
  if seed.isEmpty then
    .throw (.adapter "empty seed from Mode 27")
  else if seed.all (· == 0) then
    pure ()
  else
    let _data ← sendRequest ⟨0x27, 0x02 :: keyFn seed, .module module.id⟩
    .modify fun s => {s with diagnosticState := markUnlocked module s.diagnosticState}

/-- An Extended session is active and lists the module as unlocked. -/
def isUnlocked (module : ModuleId) (state : DiagnosticSessionState) : Bool :=
  match state with
  | .extended unlockedModules => unlockedModules.contains module.id
  | _ => false

def actuatorData (did : UInt16) (command : ActuatorCommand) : List UInt8 :=
  (did >>> 8).toUInt8 :: (did &&& 0xFF).toUInt8 ::
    match command with
    | .returnToEcu => [0x00]
    | .activate => [0x03]
    | .adjust bytes => 0x03 :: bytes

def actuatorControl (did : UInt16) (module : ModuleId) (command : ActuatorCommand) : Op A Unit := do
  ensureInitialized
  let s ← .get
  if isUnlocked module s.diagnosticState then
    let _data ← sendRequest ⟨0x2F, actuatorData did command, .module module.id⟩
    pure ()
  else
    .throw .securityRequired

def actuatorRelease (did : UInt16) (module : ModuleId) : Op A Unit := do
  ensureInitialized
  let _data ← sendRequest ⟨0x2F, actuatorData did .returnToEcu, .module module.id⟩
  pure ()

def testerPresent (module : ModuleId) : Op A Unit := do
  ensureInitialized
  let _data ← sendRequest ⟨0x3E, [], .module module.id⟩
  pure ()

def endDiagnosticSession (module : ModuleId) : Op A Unit := do
  ensureInitialized
  let _data ← sendRequest ⟨0x10, [0x01], .module module.id⟩
  .modify fun s => {s with diagnosticState := .default}

end Operations

end Session

end Obd2

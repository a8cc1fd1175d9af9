import Obd2.Adapter

/-! Discovery profile resolution for adapter, protocol, bus and module routing. -/
namespace Obd2

structure ResolvedBus where
  id : BusId
  protocol : Protocol
  speedBps : UInt32
  description : Option String
  deriving DecidableEq, Repr

structure ResolvedModule where
  id : ModuleId
  name : String
  bus : BusId
  address : PhysicalAddress
  deriving DecidableEq, Repr

structure VisibleEcu where
  id : String
  bus : Option BusId
  module : Option ModuleId
  address : Option PhysicalAddress
  observationCount : UInt32
  deriving DecidableEq, Repr

/-- The resolved modules, one for each identifier. -/
abbrev ModuleMap := List (ModuleId × ResolvedModule)

namespace ModuleMap

def get (modules : ModuleMap) (id : ModuleId) : Option ResolvedModule := modules.lookup id

/-- A later entry of an identifier takes the place of the earlier one. -/
def insert (modules : ModuleMap) (id : ModuleId) (resolved : ResolvedModule) : ModuleMap :=
  modules.filter (·.1 != id) ++ [(id, resolved)]

end ModuleMap

structure DiscoveryProfile where
  adapter : AdapterInfo
  selectedProtocol : Protocol
  protocolChoiceSource : ProtocolSelectionSource
  activeBus : Option ResolvedBus
  modules : ModuleMap
  probeAttempts : List ProbeAttempt
  visibleEcus : List VisibleEcu
  deriving DecidableEq, Repr

namespace Discovery

def toResolvedBus (bus : BusConfig) : ResolvedBus := ⟨bus.id, bus.protocol, bus.speedBps, bus.description⟩

/-- The bus of the protocol, or the only bus there is. -/
def resolveActiveBus (protocol : Protocol) (spec : Option VehicleSpec) : Option ResolvedBus :=
  match spec with
  | none => none
  | some spec =>
    match spec.communication.buses.find? (·.protocol == protocol) with
    | some bus => some (toResolvedBus bus)
    | none =>
      match spec.communication.buses with
      | [bus] => some (toResolvedBus bus)
      | _ => none

def collectModules (target : ModuleMap) (modules : List Module) : ModuleMap :=
  modules.foldl
    (fun target module => target.insert module.id ⟨module.id, module.name, module.bus, module.address⟩)
    target

/-- The modules of the active bus; with none active, those of all buses. -/
def resolveModules (spec : Option VehicleSpec) (activeBus : Option ResolvedBus) : ModuleMap :=
  match spec with
  | none => []
  | some spec =>
    match activeBus with
    | some activeBus =>
      match spec.communication.buses.find? (·.id == activeBus.id) with
      | some bus => collectModules [] bus.modules
      | none => []
    | none => spec.communication.buses.foldl (fun target bus => collectModules target bus.modules) []

def resolveDiscoveryProfile (adapter : AdapterInfo) (spec : Option VehicleSpec)
    (probeAttempts : List ProbeAttempt) (visibleEcus : List VisibleEcu) : DiscoveryProfile :=
  let activeBus := resolveActiveBus adapter.protocol spec
  { adapter
    selectedProtocol := adapter.protocol
    protocolChoiceSource :=
      match probeAttempts.getLast? with
      | some attempt => attempt.source
      | none => .autoDetect
    activeBus
    modules := resolveModules spec activeBus
    probeAttempts
    visibleEcus }

end Discovery

end Obd2

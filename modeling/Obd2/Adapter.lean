import Obd2.Async
import Obd2.Error
import Obd2.Protocol.Service
import Obd2.Vehicle

/-! What an adapter offers a session: routed requests, and the events it saw on the way. -/
namespace Obd2

/-- Physical request target resolved from discovery data. -/
inductive PhysicalTarget where
  | broadcast
  | addressed (address : PhysicalAddress)
  deriving DecidableEq, Repr

/-- Diagnostic request with resolved physical routing. -/
structure RoutedRequest where
  serviceId : UInt8
  data : List UInt8
  target : PhysicalTarget
  deriving DecidableEq, Repr

inductive ProtocolSelectionSource where
  | autoDetect
  | explicitProbe
  | specPreference
  deriving DecidableEq, Repr

inductive ProbeResult where
  | success
  | noResponse
  | busInitFailure
  | busError
  | canError
  | unableToConnect
  | unsupportedProtocol
  | adapterFault
  deriving DecidableEq, Repr

structure ProbeAttempt where
  protocol : Protocol
  source : ProtocolSelectionSource
  result : ProbeResult
  detail : Option Text
  deriving DecidableEq, Repr

inductive AdapterEventKind where
  | reset
  | protocolSearching
  | protocolSelected (protocol : Protocol)
  | headerChanged (header : Text)
  | headerReset (header : Text)
  | nullBytesFiltered (count : Nat)
  | searchingDisplayed
  | busBusy
  | busError
  | canError
  | dataError
  | rxError
  | stopped
  | err94
  | lowVoltageReset
  | unknownCommand
  | unsupportedProtocol
  | recoveryAction (action : Text)
  deriving DecidableEq, Repr

structure AdapterEvent where
  kind : AdapterEventKind
  detail : Option Text
  deriving DecidableEq, Repr

/-- Known adapter chipset types. -/
inductive Chipset where
  | elm327Clone
  | elm327Genuine
  | stn
  | unknown
  deriving DecidableEq, Repr

structure Capabilities where
  canClearDtcs : Bool
  dualCan : Bool
  enhancedDiag : Bool
  batteryVoltage : Bool
  adaptiveTiming : Bool
  klineInit : Bool
  klineWakeup : Bool
  canFiltering : Bool
  canFlowControl : Bool
  canExtendedAddressing : Bool
  canSilentMode : Bool
  deriving DecidableEq, Repr

/-- `Capabilities::default`. -/
def Capabilities.none : Capabilities :=
  ⟨false, false, false, false, false, false, false, false, false, false, false⟩

structure AdapterInfo where
  chipset : Chipset
  firmware : Text
  protocol : Protocol
  capabilities : Capabilities
  deriving DecidableEq, Repr

structure InitializationReport where
  info : AdapterInfo
  probeAttempts : List ProbeAttempt
  events : List AdapterEvent
  deriving DecidableEq, Repr

/-- Protocol interpreter for OBD-II communication. -/
class Adapter (A : Type) where
  /-- Reset, detect the chipset, configure the protocol. -/
  initializeAdapter : Async Obd2Error A InitializationReport
  /-- Send a physically routed request; the response is data, without echoed bytes. -/
  routedRequest : RoutedRequest → Async Obd2Error A (List UInt8)
  /-- The voltage at the adapter, if it can be read. -/
  batteryVoltage : Async Obd2Error A (Option Float)
  /-- What initialization found out about the adapter. -/
  info : A → AdapterInfo
  /-- The events since the previous call. -/
  drainEvents : A → List AdapterEvent × A

section Exchanges
variable {A : Type} [Adapter A]

/-- A call a session makes to its adapter besides initialization. -/
inductive AdapterExchange : {α : Type} → Async Obd2Error A α → Prop where
  | request (routed : RoutedRequest) : AdapterExchange (Adapter.routedRequest routed)
  | voltage : AdapterExchange Adapter.batteryVoltage

/-- The adapters there are from a successful initialization on. -/
inductive AdapterReached : A → Prop where
  | initialized {a a' : A} {report : InitializationReport} :
      Adapter.initializeAdapter.run a = (.ok report, a') → AdapterReached a'
  | exchanged {a : A} {α : Type} {x : Async Obd2Error A α} : AdapterReached a → AdapterExchange x →
      AdapterReached (x.run a).2
  | drained {a : A} : AdapterReached a → AdapterReached (Adapter.drainEvents a).2

/-- The adapter records that no protocol is supported only while it initializes. -/
def OnlyInitializing (A : Type) [Adapter A] : Prop :=
  ∀ a : A, AdapterReached a → ∀ event ∈ (Adapter.drainEvents a).1, event.kind ≠ .unsupportedProtocol

end Exchanges

end Obd2

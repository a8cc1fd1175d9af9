import Obd2.Binary64.Extended
import Obd2.Protocol.Dtc
import Obd2.Protocol.Enhanced
import Obd2.Vehicle.Threshold

/-! Vehicle specifications: modules, their addresses, and the buses they are on.

Of a specification, what a session reads is modelled: the VIN matcher of its identity, the buses of
its `communication` section and their modules, the thresholds, the trouble codes, and the enhanced
PIDs. -/
namespace Obd2

/-- Logical identifier of a vehicle module. Identifiers are compared as they are
written. -/
structure ModuleId where
  id : String
  deriving DecidableEq, Repr

inductive PhysicalAddress where
  | j1850 (node : UInt8) (header : UInt8 × UInt8 × UInt8)
  | can11Bit (requestId responseId : UInt16)
  | can29Bit (requestId responseId : UInt32)
  | j1939 (sourceAddress : UInt8)
  deriving DecidableEq, Repr

inductive KLineInit where
  | slowInit
  | fastInit
  deriving DecidableEq, Repr

inductive Protocol where
  | j1850Vpw
  | j1850Pwm
  | iso9141 (init : KLineInit)
  | kwp2000 (init : KLineInit)
  | can11Bit500
  | can11Bit250
  | can29Bit500
  | can29Bit250
  | auto
  deriving DecidableEq, Repr

/-- `Protocol::from_elm_code`. -/
def Protocol.fromElmCode (code : Char) : Option Protocol :=
  match code with
  | '1' => some .j1850Pwm
  | '2' => some .j1850Vpw
  | '3' => some (.iso9141 .slowInit)
  | '4' => some (.kwp2000 .slowInit)
  | '5' => some (.kwp2000 .fastInit)
  | '6' => some .can11Bit500
  | '7' => some .can29Bit500
  | '8' => some .can11Bit250
  | '9' => some .can29Bit250
  | _ => none

structure BusId where
  id : String
  deriving DecidableEq, Repr

structure Module where
  id : ModuleId
  name : String
  address : PhysicalAddress
  bus : BusId

structure BusConfig where
  id : BusId
  protocol : Protocol
  speedBps : UInt32
  modules : List Module
  description : Option String

structure CommunicationSpec where
  buses : List BusConfig

structure VinMatcher where
  vin8thDigit : Option (List Char)
  wmiPrefixes : List Text
  yearRange : Option (UInt16 × UInt16)

structure SpecIdentity where
  vinMatch : Option VinMatcher := none

/-! ### Trouble codes -/

structure DtcEntry where
  code : String
  meaning : String
  severity : Severity
  notes : Option String

structure DtcLibrary where
  ecm : List DtcEntry
  tcm : List DtcEntry
  bcm : List DtcEntry
  network : List DtcEntry

def DtcLibrary.lookup (library : DtcLibrary) (code : String) : Option DtcEntry :=
  (library.ecm ++ library.tcm ++ library.bcm ++ library.network).find? (·.code == code)

/-! ### Specifications -/

instance : Tenths Extended := ⟨Extended.tenths⟩

structure VehicleSpec where
  identity : SpecIdentity := {}
  communication : CommunicationSpec
  thresholds : Option (ThresholdSet Extended) := none
  dtcLibrary : Option DtcLibrary := none
  enhancedPids : List EnhancedPid := []

end Obd2

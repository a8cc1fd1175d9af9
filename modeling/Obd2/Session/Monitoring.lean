import Obd2.Protocol.J1939.Dm
import Obd2.Session.Readings

/-! Monitors and test results, and the parameter groups of heavy vehicles.

The oxygen sensors are swept: every test is asked of every sensor, in order. A sensor that has no data is
passed over, and any other failure ends the sweep. -/
namespace Obd2

/-! ### Readiness -/

structure MonitorStatus where
  name : String
  supported : Bool
  complete : Bool
  deriving DecidableEq, Repr

structure ReadinessStatus where
  milOn : Bool
  dtcCount : UInt8
  compressionIgnition : Bool
  monitors : List MonitorStatus
  deriving DecidableEq, Repr

namespace Modes

def dieselMonitors : List (UInt8 × String) :=
  [(0, "EGR/VVT System"), (1, "Boost Pressure"), (2, "NOx/SCR Monitor"), (3, "NMHC Catalyst"), (4, "Misfire"),
    (5, "Fuel System"), (6, "Comprehensive Component")]

def gasMonitors : List (UInt8 × String) :=
  [(0, "Catalyst"), (1, "Heated Catalyst"), (2, "EVAP System"), (3, "Secondary Air"), (4, "A/C Refrigerant"),
    (5, "O2 Sensor"), (6, "O2 Sensor Heater"), (7, "EGR System")]

/-- A bit of `complete` that is set stands for a monitor that is not complete. -/
def monitorStatus (supported complete : UInt8) (monitor : UInt8 × String) : MonitorStatus :=
  ⟨monitor.2, (supported >>> monitor.1) &&& 1 == 1, (complete >>> monitor.1) &&& 1 != 1⟩

def decodeReadiness (data : List UInt8) : Except Obd2Error ReadinessStatus :=
  match data with
  | a :: b :: supported :: complete :: _ =>
    let compressionIgnition := (b &&& 0x08) != 0
    let monitors := if compressionIgnition then dieselMonitors else gasMonitors
    .ok ⟨(a &&& 0x80) != 0, a &&& 0x7F, compressionIgnition, monitors.map (monitorStatus supported complete)⟩
  | _ => .error (.parseError s!"readiness status needs 4 bytes, got {data.length}")

end Modes

/-! ### Test results -/

structure TestResult where
  testId : UInt8
  name : String
  value : Binary64
  min : Option Binary64
  max : Option Binary64
  passed : Bool
  unit : String

namespace Modes

/-- A record of a test: its identifier, a component, the value, and the bounds that it has to be within. -/
def testResult (tid : UInt8) (value min max : UInt16) : TestResult :=
  let number (n : UInt16) : Binary64 := n.toNat
  { testId := tid
    name := s!"Test 0x{String.ofList (Text.hexByte tid)}"
    value := number value
    min := some (number min)
    max := some (number max)
    passed := decide ((number min).value ≤ (number value).value ∧ (number value).value ≤ (number max).value)
    unit := "" }

def decodeTestResults : List UInt8 → List TestResult
  | tid :: _component :: valueHi :: valueLo :: minHi :: minLo :: maxHi :: maxLo :: rest =>
    testResult tid (u16FromBe valueHi valueLo) (u16FromBe minHi minLo) (u16FromBe maxHi maxLo) ::
      decodeTestResults rest
  | _ => []

end Modes

/-! ### Oxygen sensors -/

inductive O2SensorLocation where
  | bank1Sensor1
  | bank1Sensor2
  | bank2Sensor1
  | bank2Sensor2
  | bank3Sensor1
  | bank3Sensor2
  | bank4Sensor1
  | bank4Sensor2
  deriving DecidableEq, Repr

def O2SensorLocation.fromByte (b : UInt8) : Option O2SensorLocation :=
  match b with
  | 0x01 => some .bank1Sensor1
  | 0x02 => some .bank1Sensor2
  | 0x03 => some .bank2Sensor1
  | 0x04 => some .bank2Sensor2
  | 0x05 => some .bank3Sensor1
  | 0x06 => some .bank3Sensor2
  | 0x07 => some .bank4Sensor1
  | 0x08 => some .bank4Sensor2
  | _ => none

structure O2TestResult where
  testId : UInt8
  testName : String
  sensor : O2SensorLocation
  value : Binary64
  unit : String

/-- The name of a test, its unit, and what a raw value is multiplied with. -/
def o2TestInfo (tid : UInt8) : String × String × (UInt16 → Binary64) :=
  let scaled (q : Rat) (v : UInt16) : Binary64 := (v.toNat : Binary64) * .ofRat q
  match tid with
  | 0x01 => ("Rich-to-Lean Threshold Voltage", "V", scaled 0.005)
  | 0x02 => ("Lean-to-Rich Threshold Voltage", "V", scaled 0.005)
  | 0x03 => ("Low Sensor Voltage for Switch Time", "V", scaled 0.005)
  | 0x04 => ("High Sensor Voltage for Switch Time", "V", scaled 0.005)
  | 0x05 => ("Rich-to-Lean Switch Time", "s", scaled 0.004)
  | 0x06 => ("Lean-to-Rich Switch Time", "s", scaled 0.004)
  | 0x07 => ("Minimum Sensor Voltage", "V", scaled 0.005)
  | 0x08 => ("Maximum Sensor Voltage", "V", scaled 0.005)
  | 0x09 => ("Time Between Transitions", "s", scaled 0.04)
  | _ => ("Unknown O2 Test", "", fun v => v.toNat)

namespace Session

/-- What an answer of a sensor tells, if it is long enough. -/
def o2Result (testId sensorByte : UInt8) (data : List UInt8) : Option O2TestResult :=
  match data, O2SensorLocation.fromByte sensorByte with
  | high :: low :: _, some sensor =>
    let (testName, unit, convert) := o2TestInfo testId
    some ⟨testId, testName, sensor, convert (u16FromBe high low), unit⟩
  | _, _ => none

def o2Request (testId sensorByte : UInt8) : ServiceRequest := ⟨0x05, [testId, sensorByte], .broadcast⟩

section Operations
variable {A : Type} [Adapter A]

/-- What one more operation comes to is added. No data is passed over, and any other failure is returned. -/
def gather {α β : Type} (x : Op A α) (add : α → β) (all : β) : Op A β := do
  match ← x.attempt with
  | .ok a => pure (add a)
  | .error .noData => pure all
  | .error e => .throw e

def readO2Sensor (testId : UInt8) (results : List O2TestResult) (sensorByte : UInt8) : Op A (List O2TestResult) :=
  gather (sendRequest (o2Request testId sensorByte)) (fun data => results ++ (o2Result testId sensorByte data).toList)
    results

def o2Sensors : List UInt8 := [0x01, 0x02, 0x03, 0x04, 0x05, 0x06, 0x07, 0x08]

def readO2Monitoring (testId : UInt8) : Op A (List O2TestResult) := do
  ensureInitialized
  o2Sensors.foldlM (readO2Sensor testId) []

def o2Tests : List UInt8 := [0x01, 0x02, 0x03, 0x04, 0x05, 0x06, 0x07, 0x08, 0x09]

def appendO2Test (results : List O2TestResult) (testId : UInt8) : Op A (List O2TestResult) :=
  gather (readO2Monitoring testId) (results ++ ·) results

def readAllO2Monitoring : Op A (List O2TestResult) := do
  ensureInitialized
  o2Tests.foldlM appendO2Test []

/-! ### Other reads -/

def readTestResults (testId : UInt8) : Op A (List TestResult) := do
  ensureInitialized
  let data ← sendRequest ⟨0x06, [testId], .broadcast⟩
  pure (Modes.decodeTestResults data)

def readReadiness : Op A ReadinessStatus := do
  ensureInitialized
  let data ← sendRequest (.readPid ⟨0x01⟩)
  .lift (Modes.decodeReadiness data)

def appendReading (results : List (Pid × Reading)) (pid : Pid) : Op A (List (Pid × Reading)) :=
  gather (readPid pid) (fun reading => results ++ [(pid, reading)]) results

def readPids (pids : List Pid) : Op A (List (Pid × Reading)) := do
  ensureInitialized
  pids.foldlM appendReading []

/-- The low byte of the number comes first. -/
def pgnBytes (pgn : UInt32) : List UInt8 :=
  [(pgn &&& 0xFF).toUInt8, ((pgn >>> 8) &&& 0xFF).toUInt8, ((pgn >>> 16) &&& 0xFF).toUInt8]

def readJ1939Pgn (pgn : UInt32) : Op A (List UInt8) := do
  ensureInitialized
  rawRequest 0xEA (pgnBytes pgn) .broadcast

/-- Active trouble codes: an answer that is none of DM1 is one without codes. -/
def readJ1939Dtcs : Op A (List J1939.J1939Dtc) := do
  let data ← readJ1939Pgn 65226
  pure ((J1939.parseDm1 data).toOption.elim [] (·.dtcs))

end Operations

end Session

end Obd2

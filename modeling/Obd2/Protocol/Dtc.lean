import Obd2.Byte
import Obd2.Text

/-! Diagnostic trouble codes: two bytes, a code of five characters, and a description where
the universal table has one. -/
namespace Obd2

inductive DtcCategory where
  | powertrain
  | chassis
  | body
  | network
  deriving DecidableEq, Repr

inductive DtcStatus where
  | stored
  | pending
  | permanent
  deriving DecidableEq, Repr

inductive Severity where
  | info
  | low
  | medium
  | high
  | critical
  deriving DecidableEq, Repr

structure Dtc where
  code : String
  category : DtcCategory
  status : DtcStatus
  description : Option String
  severity : Option Severity
  sourceModule : Option String
  notes : Option String
  deriving DecidableEq, Repr

/-- The rows of `universal_dtc_description`. -/
def universalDtcDescriptions : List (String × String) :=
  [
    ("P0010", "Intake Camshaft Position Actuator Circuit (Bank 1)"),
    ("P0011", "Intake Camshaft Position Timing Over-Advanced (Bank 1)"),
    ("P0012", "Intake Camshaft Position Timing Over-Retarded (Bank 1)"),
    ("P0014", "Exhaust Camshaft Position Timing Over-Advanced (Bank 1)"),
    ("P0016", "Crankshaft Position / Camshaft Position Correlation (Bank 1 Sensor A)"),
    ("P0030", "HO2S Heater Control Circuit (Bank 1 Sensor 1)"),
    ("P0036", "HO2S Heater Control Circuit (Bank 1 Sensor 2)"),
    ("P0087", "Fuel Rail/System Pressure Too Low"),
    ("P0088", "Fuel Rail/System Pressure Too High"),
    ("P0093", "Fuel System Leak Detected (Large)"),
    ("P0100", "MAF/VAF Circuit Malfunction"),
    ("P0101", "MAF/VAF Circuit Range/Performance"),
    ("P0102", "MAF/VAF Circuit Low Input"),
    ("P0103", "MAF/VAF Circuit High Input"),
    ("P0106", "MAP/Barometric Pressure Circuit Range/Performance"),
    ("P0107", "MAP/Barometric Pressure Circuit Low Input"),
    ("P0108", "MAP/Barometric Pressure Circuit High Input"),
    ("P0110", "Intake Air Temperature Sensor 1 Circuit"),
    ("P0111", "Intake Air Temperature Sensor 1 Circuit Range/Performance"),
    ("P0112", "Intake Air Temperature Sensor 1 Circuit Low"),
    ("P0113", "Intake Air Temperature Sensor 1 Circuit High"),
    ("P0115", "Engine Coolant Temperature Circuit"),
    ("P0116", "Engine Coolant Temperature Circuit Range/Performance"),
    ("P0117", "Engine Coolant Temperature Circuit Low"),
    ("P0118", "Engine Coolant Temperature Circuit High"),
    ("P0120", "Throttle Position Sensor A Circuit"),
    ("P0121", "Throttle Position Sensor A Circuit Range/Performance"),
    ("P0122", "Throttle Position Sensor A Circuit Low"),
    ("P0123", "Throttle Position Sensor A Circuit High"),
    ("P0125", "Insufficient Coolant Temperature for Closed Loop"),
    ("P0128", "Coolant Thermostat Below Operating Temperature"),
    ("P0130", "O2 Sensor Circuit Bank 1 Sensor 1"),
    ("P0131", "O2 Sensor Circuit Low Voltage B1S1"),
    ("P0132", "O2 Sensor Circuit High Voltage B1S1"),
    ("P0133", "O2 Sensor Circuit Slow Response B1S1"),
    ("P0134", "O2 Sensor Circuit No Activity B1S1"),
    ("P0135", "O2 Sensor Heater Circuit B1S1"),
    ("P0136", "O2 Sensor Circuit Bank 1 Sensor 2"),
    ("P0137", "O2 Sensor Circuit Low Voltage B1S2"),
    ("P0138", "O2 Sensor Circuit High Voltage B1S2"),
    ("P0139", "O2 Sensor Circuit Slow Response B1S2"),
    ("P0140", "O2 Sensor Circuit No Activity B1S2"),
    ("P0141", "O2 Sensor Heater Circuit B1S2"),
    ("P0150", "O2 Sensor Circuit Bank 2 Sensor 1"),
    ("P0151", "O2 Sensor Circuit Low Voltage B2S1"),
    ("P0152", "O2 Sensor Circuit High Voltage B2S1"),
    ("P0153", "O2 Sensor Circuit Slow Response B2S1"),
    ("P0154", "O2 Sensor Circuit No Activity B2S1"),
    ("P0155", "O2 Sensor Heater Circuit B2S1"),
    ("P0156", "O2 Sensor Circuit Bank 2 Sensor 2"),
    ("P0157", "O2 Sensor Circuit Low Voltage B2S2"),
    ("P0158", "O2 Sensor Circuit High Voltage B2S2"),
    ("P0159", "O2 Sensor Circuit Slow Response B2S2"),
    ("P0160", "O2 Sensor Circuit No Activity B2S2"),
    ("P0161", "O2 Sensor Heater Circuit B2S2"),
    ("P0171", "System Too Lean Bank 1"),
    ("P0172", "System Too Rich Bank 1"),
    ("P0174", "System Too Lean Bank 2"),
    ("P0175", "System Too Rich Bank 2"),
    ("P0192", "Fuel Rail Pressure Sensor Circuit Low"),
    ("P0193", "Fuel Rail Pressure Sensor Circuit High"),
    ("P0201", "Injector Circuit/Open Cylinder 1"),
    ("P0202", "Injector Circuit/Open Cylinder 2"),
    ("P0203", "Injector Circuit/Open Cylinder 3"),
    ("P0204", "Injector Circuit/Open Cylinder 4"),
    ("P0205", "Injector Circuit/Open Cylinder 5"),
    ("P0206", "Injector Circuit/Open Cylinder 6"),
    ("P0207", "Injector Circuit/Open Cylinder 7"),
    ("P0208", "Injector Circuit/Open Cylinder 8"),
    ("P0234", "Turbo/Supercharger Overboost Condition"),
    ("P0236", "Turbocharger Boost Sensor A Circuit Range/Performance"),
    ("P0299", "Turbo/Supercharger Underboost"),
    ("P0300", "Random/Multiple Cylinder Misfire Detected"),
    ("P0301", "Cylinder 1 Misfire Detected"),
    ("P0302", "Cylinder 2 Misfire Detected"),
    ("P0303", "Cylinder 3 Misfire Detected"),
    ("P0304", "Cylinder 4 Misfire Detected"),
    ("P0305", "Cylinder 5 Misfire Detected"),
    ("P0306", "Cylinder 6 Misfire Detected"),
    ("P0307", "Cylinder 7 Misfire Detected"),
    ("P0308", "Cylinder 8 Misfire Detected"),
    ("P0325", "Knock Sensor 1 Circuit Bank 1"),
    ("P0335", "Crankshaft Position Sensor A Circuit"),
    ("P0336", "Crankshaft Position Sensor A Range/Performance"),
    ("P0340", "Camshaft Position Sensor A Circuit Bank 1"),
    ("P0341", "Camshaft Position Sensor A Range/Performance Bank 1"),
    ("P0365", "Camshaft Position Sensor B Circuit (Bank 1)"),
    ("P0366", "Camshaft Position Sensor B Circuit Range/Performance (Bank 1)"),
    ("P0380", "Glow Plug/Heater Circuit A Malfunction"),
    ("P0400", "EGR Flow Malfunction"),
    ("P0401", "EGR Flow Insufficient"),
    ("P0402", "EGR Flow Excessive"),
    ("P0404", "EGR System Range/Performance"),
    ("P0405", "EGR Position Sensor A Circuit Low"),
    ("P0406", "EGR Position Sensor A Circuit High"),
    ("P0420", "Catalyst System Efficiency Below Threshold Bank 1"),
    ("P0430", "Catalyst System Efficiency Below Threshold Bank 2"),
    ("P0440", "Evaporative Emission System Malfunction"),
    ("P0441", "Evaporative Emission System Incorrect Purge Flow"),
    ("P0442", "Evaporative Emission System Leak Detected (Small)"),
    ("P0443", "Evaporative Emission System Purge Control Valve Circuit"),
    ("P0446", "Evaporative Emission System Vent Control Circuit"),
    ("P0449", "Evaporative Emission System Vent Valve/Solenoid Circuit"),
    ("P0451", "Evaporative Emission System Pressure Sensor Range/Performance"),
    ("P0455", "Evaporative Emission System Leak Detected (Large)"),
    ("P0456", "Evaporative Emission System Leak Detected (Very Small)"),
    ("P0496", "Evaporative Emission System High Purge Flow"),
    ("P0500", "Vehicle Speed Sensor A Malfunction"),
    ("P0503", "Vehicle Speed Sensor Intermittent/Erratic/High"),
    ("P0505", "Idle Air Control System Malfunction"),
    ("P0506", "Idle Air Control System RPM Lower Than Expected"),
    ("P0507", "Idle Air Control System RPM Higher Than Expected"),
    ("P0562", "System Voltage Low"),
    ("P0563", "System Voltage High"),
    ("P0597", "Thermostat Heater Control Circuit Open"),
    ("P0598", "Thermostat Heater Control Circuit Low"),
    ("P0599", "Thermostat Heater Control Circuit High"),
    ("P0600", "Serial Communication Link Malfunction"),
    ("P0601", "Internal Control Module Memory Check Sum Error"),
    ("P0602", "Control Module Programming Error"),
    ("P0606", "ECM/PCM Processor Fault"),
    ("P0700", "Transmission Control System Malfunction"),
    ("P0705", "Transmission Range Sensor Circuit Malfunction"),
    ("P0710", "Transmission Fluid Temperature Sensor Circuit"),
    ("P0711", "Transmission Fluid Temperature Sensor Circuit Range/Performance"),
    ("P0715", "Input/Turbine Speed Sensor Circuit"),
    ("P0717", "Input/Turbine Speed Sensor Circuit No Signal"),
    ("P0720", "Output Speed Sensor Circuit"),
    ("P0725", "Engine Speed Input Circuit"),
    ("P0730", "Incorrect Gear Ratio"),
    ("P0731", "Gear 1 Incorrect Ratio"),
    ("P0732", "Gear 2 Incorrect Ratio"),
    ("P0733", "Gear 3 Incorrect Ratio"),
    ("P0734", "Gear 4 Incorrect Ratio"),
    ("P0735", "Gear 5 Incorrect Ratio"),
    ("P0740", "Torque Converter Clutch Circuit Malfunction"),
    ("P0741", "Torque Converter Clutch System Stuck Off"),
    ("P0742", "Torque Converter Clutch System Stuck On"),
    ("P0743", "Torque Converter Clutch System Electrical"),
    ("P0747", "Pressure Control Solenoid A Stuck On"),
    ("P0748", "Pressure Control Solenoid A Electrical"),
    ("P0750", "Shift Solenoid A Malfunction"),
    ("P0751", "Shift Solenoid A Performance/Stuck Off"),
    ("P0752", "Shift Solenoid A Stuck On"),
    ("P0753", "Shift Solenoid A Electrical"),
    ("P0755", "Shift Solenoid B Malfunction"),
    ("P0756", "Shift Solenoid B Performance/Stuck Off"),
    ("P0757", "Shift Solenoid B Stuck On"),
    ("P0758", "Shift Solenoid B Electrical"),
    ("P1101", "Intake Airflow System Performance"),
    ("P2097", "Post Catalyst Fuel Trim System Too Rich (Bank 1)"),
    ("P2227", "Barometric Pressure Circuit Range/Performance"),
    ("P2270", "O2 Sensor Signal Stuck Lean (Bank 1 Sensor 2)"),
    ("P2271", "O2 Sensor Signal Stuck Rich (Bank 1 Sensor 2)"),
    ("P2797", "Auxiliary Transmission Fluid Pump Performance"),
    ("B0083", "Left Side/Front Impact Sensor Circuit"),
    ("B0092", "Left Side/Rear Impact Sensor Circuit"),
    ("B0096", "Right Side/Rear Impact Sensor Circuit"),
    ("B0408", "Temperature Control A Circuit"),
    ("B1325", "Control Module General Memory Failure"),
    ("B1517", "Steering Wheel Controls Switch 1 Circuit"),
    ("C0035", "Left Front Wheel Speed Sensor Circuit"),
    ("C0040", "Right Front Wheel Speed Sensor Circuit"),
    ("C0045", "Left Rear Wheel Speed Sensor Circuit"),
    ("C0050", "Right Rear Wheel Speed Sensor Circuit"),
    ("C0110", "Pump Motor Circuit Malfunction"),
    ("C0161", "ABS/TCS Brake Switch Circuit Malfunction"),
    ("C0186", "Lateral Accelerometer Circuit"),
    ("C0196", "Yaw Rate Sensor Circuit"),
    ("C0550", "ECU Malfunction (Stability System)"),
    ("C0899", "Device Voltage Low"),
    ("C0900", "Device Voltage High"),
    ("U0001", "High Speed CAN Communication Bus"),
    ("U0073", "Control Module Communication Bus Off"),
    ("U0100", "Lost Communication with ECM/PCM"),
    ("U0101", "Lost Communication with TCM"),
    ("U0121", "Lost Communication with ABS"),
    ("U0140", "Lost Communication with BCM"),
    ("U0146", "Lost Communication with Gateway A"),
    ("U0151", "Lost Communication with SIR Module"),
    ("U0155", "Lost Communication with Instrument Panel Cluster"),
    ("U0168", "Lost Communication with HVAC Control Module"),
    ("U0184", "Lost Communication with Radio"),
    ("U0401", "Invalid Data Received from ECM/PCM A")
  ]

def universalDtcDescription (code : String) : Option String := universalDtcDescriptions.lookup code

namespace Dtc

/-- The characters of the code of two raw bytes: bits 15-14 are the category, bits 13-12
the second character, and then one nibble each. -/
def codeOf (category : DtcCategory) (a b : UInt8) : Text :=
  let letter :=
    match category with
    | .powertrain => 'P'
    | .chassis => 'C'
    | .body => 'B'
    | .network => 'U'
  [letter, Text.hexDigit ((a >>> 4) &&& 0x03), Text.hexDigit (a &&& 0x0F),
    Text.hexDigit ((b >>> 4) &&& 0x0F), Text.hexDigit (b &&& 0x0F)]

def categoryOf (a : UInt8) : DtcCategory :=
  match (a >>> 6) &&& 0x03 with
  | 0 => .powertrain
  | 1 => .chassis
  | 2 => .body
  | _ => .network

/-- Decode a DTC from two raw bytes of a Mode 03/07/0A response. -/
def fromBytes (a b : UInt8) : Dtc :=
  let category := categoryOf a
  let code := String.ofList (codeOf category a b)
  { code, category, status := .stored, description := universalDtcDescription code
    severity := none, sourceModule := none, notes := none }

/-! ### The code determines the bytes -/

/-- The byte a letter and two digits of a code stand for. -/
def highByte (code : Text) : UInt8 :=
  let top : UInt8 :=
    match code.getD 0 'P' with
    | 'P' => 0x00
    | 'C' => 0x40
    | 'B' => 0x80
    | _ => 0xC0
  top + (Text.hexValue (code.getD 1 '0')) * 16 + Text.hexValue (code.getD 2 '0')

/-- The byte the last two digits of a code stand for. -/
def lowByte (code : Text) : UInt8 :=
  Text.hexValue (code.getD 3 '0') * 16 + Text.hexValue (code.getD 4 '0')

theorem highByte_codeOf (a b : UInt8) : highByte (codeOf (categoryOf a) a b) = a := by
  show highByte (codeOf (categoryOf a) a 0) = a
  revert a
  exact forall_byte (by decide +kernel)

theorem lowByte_codeOf (category : DtcCategory) (a b : UInt8) : lowByte (codeOf category a b) = b := by
  show lowByte (codeOf .powertrain 0 b) = b
  revert b
  exact forall_byte (by decide +kernel)

theorem fromBytes_injective {a b a' b' : UInt8} (h : (fromBytes a b).code = (fromBytes a' b').code) :
    a = a' ∧ b = b' := by
  have hcode : codeOf (categoryOf a) a b = codeOf (categoryOf a') a' b' := String.ofList_injective h
  constructor
  · rw [← highByte_codeOf a b, hcode, highByte_codeOf]
  · rw [← lowByte_codeOf (categoryOf a) a b, hcode, lowByte_codeOf]

end Dtc

end Obd2

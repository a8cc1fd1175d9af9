import Obd2.Protocol.Pid

/-! The names of PIDs. -/
namespace Obd2

/-- Human-readable name for this PID. -/
def Pid.name (pid : Pid) : String :=
  match pid.code with
  | 0x00 => "Supported PIDs [01-20]"
  | 0x01 => "Monitor Status"
  | 0x03 => "Fuel System Status"
  | 0x04 => "Engine Load"
  | 0x05 => "Coolant Temperature"
  | 0x06 => "Short Term Fuel Trim (Bank 1)"
  | 0x07 => "Long Term Fuel Trim (Bank 1)"
  | 0x08 => "Short Term Fuel Trim (Bank 2)"
  | 0x09 => "Long Term Fuel Trim (Bank 2)"
  | 0x0A => "Fuel Pressure"
  | 0x0B => "Intake MAP"
  | 0x0C => "Engine RPM"
  | 0x0D => "Vehicle Speed"
  | 0x0E => "Timing Advance"
  | 0x0F => "Intake Air Temperature"
  | 0x10 => "MAF Air Flow Rate"
  | 0x11 => "Throttle Position"
  | 0x1C => "OBD Standard"
  | 0x1F => "Run Time Since Start"
  | 0xA6 => "Total Vehicle Distance"
  | 0x20 => "Supported PIDs [21-40]"
  | 0x21 => "Distance with MIL On"
  | 0x23 => "Fuel Rail Gauge Pressure"
  | 0x2C => "Commanded EGR"
  | 0x2D => "EGR Error"
  | 0x2E => "Commanded Evaporative Purge"
  | 0x2F => "Fuel Tank Level"
  | 0x30 => "Warm-ups Since Clear"
  | 0x31 => "Distance Since DTC Clear"
  | 0x33 => "Barometric Pressure"
  | 0x3C => "Catalyst Temp B1S1"
  | 0x3D => "Catalyst Temp B2S1"
  | 0x3E => "Catalyst Temp B1S2"
  | 0x3F => "Catalyst Temp B2S2"
  | 0x40 => "Supported PIDs [41-60]"
  | 0x42 => "Control Module Voltage"
  | 0x43 => "Absolute Load"
  | 0x44 => "Commanded Equivalence Ratio"
  | 0x45 => "Relative Throttle Position"
  | 0x46 => "Ambient Air Temperature"
  | 0x47 => "Absolute Throttle Position B"
  | 0x49 => "Accelerator Pedal Position D"
  | 0x4A => "Accelerator Pedal Position E"
  | 0x4C => "Commanded Throttle Actuator"
  | 0x59 => "Fuel Rail Absolute Pressure"
  | 0x5C => "Engine Oil Temperature"
  | 0x5E => "Engine Fuel Rate"
  | 0x60 => "Supported PIDs [61-80]"
  | 0x61 => "Demanded Torque"
  | 0x62 => "Actual Torque"
  | 0x63 => "Reference Torque"
  | _ => "Unknown PID"

end Obd2

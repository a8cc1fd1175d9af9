import Obd2.Protocol.Pid.Name
import Obd2.Session

/-! Threshold evaluation for a session. -/
namespace Obd2

/-- The names of the thresholds of a PID in a specification. -/
def pidThresholdName (pid : Pid) : Option (List String) :=
  match pid.code with
  | 0x05 => some ["coolant_temp", "coolant_temp_c"]
  | 0x0C => some ["rpm"]
  | 0x5C => some ["oil_temp", "oil_temp_c"]
  | 0x0B => some ["intake_map_kpa"]
  | 0x10 => some ["maf_gs"]
  | 0x42 => some ["battery_voltage"]
  | 0x2F => some ["fuel_tank_pct"]
  | 0x5E => some ["fuel_rate_lh"]
  | 0x46 => some ["ambient_temp_c", "ambient_temp"]
  | 0x0F => some ["intake_air_temp_c", "intake_air_temp"]
  | 0x33 => some ["barometric_kpa"]
  | _ => none

/-- The threshold of a PID: engine thresholds first, then transmission. -/
def pidThreshold (spec : Option VehicleSpec) (pid : Pid) : Option (Threshold Extended) := do
  let spec ← spec
  let thresholds ← spec.thresholds
  let names ← pidThresholdName pid
  let named ← (thresholds.engine ++ thresholds.transmission).find? fun named => names.contains named.name
  some named.threshold

/-- Evaluate a standard PID reading against the matched spec's thresholds. -/
def evaluatePidThreshold (spec : Option VehicleSpec) (pid : Pid) (value : Extended) :
    Option (ThresholdResult Extended) := do
  let threshold ← pidThreshold spec pid
  threshold.evaluate value pid.name

namespace Session
variable {A : Type}

def evaluateThreshold (s : Session A) (pid : Pid) (value : Extended) : Option (ThresholdResult Extended) :=
  evaluatePidThreshold s.spec pid value

end Session

end Obd2

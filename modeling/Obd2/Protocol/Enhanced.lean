import Obd2.Binary64

/-! Enhanced manufacturer-specific PIDs. The numbers of a formula are finite. -/
namespace Obd2

namespace Enhanced

/-- How to decode raw response bytes into a value. -/
inductive Formula where
  | linear (scale offset : Binary64)
  | twoByte (scale offset : Binary64)
  | centered (center divisor : Binary64)
  | bitmask (bits : List (UInt8 × String))
  | enumerated (values : List (UInt8 × String))
  | expression (text : String)

end Enhanced

/-- Enhanced manufacturer-specific PID (Mode 21/22). -/
structure EnhancedPid where
  serviceId : UInt8
  did : UInt16
  formula : Enhanced.Formula
  module : String
  commandSuffix : Option (List UInt8)

end Obd2

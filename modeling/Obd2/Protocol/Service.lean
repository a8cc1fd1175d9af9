import Obd2.Text

/-! Diagnostic service requests. -/
namespace Obd2

/-- A standard PID. -/
structure Pid where
  code : UInt8
  deriving DecidableEq, Repr

/-- Expected number of data bytes in a response. -/
def Pid.responseBytes (pid : Pid) : Nat :=
  match pid.code with
  | 0x00 | 0x01 | 0x20 | 0x40 | 0x60 | 0xA6 => 4
  | 0x0C | 0x10 | 0x1F | 0x21 | 0x23 | 0x31 | 0x3C | 0x3D | 0x3E | 0x3F | 0x42 | 0x43 | 0x44 | 0x59
  | 0x5E | 0x63 => 2
  | _ => 1

inductive DiagSession where
  | default
  | programming
  | extended
  deriving DecidableEq, Repr

inductive ActuatorCommand where
  | returnToEcu
  | adjust (bytes : List UInt8)
  | activate
  deriving DecidableEq, Repr

inductive Target where
  | broadcast
  | module (id : String)
  deriving DecidableEq, Repr

structure ServiceRequest where
  serviceId : UInt8
  data : List UInt8
  target : Target
  deriving DecidableEq, Repr

namespace ServiceRequest

def readPid (pid : Pid) : ServiceRequest := ⟨0x01, [pid.code], .broadcast⟩
def readVin : ServiceRequest := ⟨0x09, [0x02], .broadcast⟩

end ServiceRequest

end Obd2

import Obd2.MayPanic
import Obd2.Protocol.Pid
import Obd2.Session

/-! Enhanced PIDs: what a specification says of them, and how a session reads one.

The definition is looked up with a module name in any case, the module's address under its
identifier as it is written. -/
namespace Obd2
open MayPanic

namespace Enhanced

/-! ### Lookup -/

/-- List enhanced PIDs available for a module from the spec. -/
def listModulePids (spec : Option VehicleSpec) (module : ModuleId) : List EnhancedPid :=
  match spec with
  | none => []
  | some spec =>
    spec.enhancedPids.filter fun epid => Text.sameIgnoringAsciiCase epid.module.toList module.id.toList

def findEnhancedPid (spec : Option VehicleSpec) (did : UInt16) (module : ModuleId) : Option EnhancedPid :=
  spec.bind fun spec =>
    spec.enhancedPids.find? fun epid =>
      epid.did == did && Text.sameIgnoringAsciiCase epid.module.toList module.id.toList

/-- 0x21 for Honda/Toyota, 0x22 default. -/
def findServiceId (spec : Option VehicleSpec) (did : UInt16) (module : ModuleId) : UInt8 :=
  match findEnhancedPid spec did module with
  | some epid => epid.serviceId
  | none => 0x22

/-! ### Decoding -/

/-- The number a bitmask is read as. -/
def bitmaskRaw (data : List UInt8) : UInt32 :=
  let first := data.getD 0 0
  if data.length ≥ 4 then u32OfBe data
  else if data.length ≥ 2 then (first.toUInt32 <<< 8) ||| (data.getD 1 0).toUInt32
  else first.toUInt32

/-- The flags of a bitmask. -/
def bitmaskFlags (raw : UInt32) (bits : List (UInt8 × String)) : MayPanic (List (String × Bool)) :=
  bits.mapM fun (bit, name) => do
    let shifted ← shiftRight raw bit
    some (name, shifted &&& 1 == 1)

/-- Decode raw bytes using the formula from an EnhancedPid definition. -/
def decodeWithFormula (epid : EnhancedPid) (data : List UInt8) : MayPanic Value :=
  if data.isEmpty then some (.raw data)
  else
    let first := data.getD 0 0
    let a : Binary64 := (first.toNat : Binary64)
    let b : Binary64 := ((data.getD 1 0).toNat : Binary64)
    match epid.formula with
    | .linear scale offset => some (.scalar (a * scale + offset))
    | .twoByte scale offset => some (.scalar ((a * 256 + b) * scale + offset))
    | .centered center divisor => some (.scalar ((a * 256 + b - center) / divisor))
    | .bitmask bits => do
      let raw := bitmaskRaw data
      let flags ← bitmaskFlags raw bits
      some (.bitfield ⟨raw, flags⟩)
    | .enumerated values =>
      match values.find? (·.1 == first) with
      | some (_, label) => some (.state label)
      | none => some (.state s!"Unknown({first.toNat})")
    | .expression _ => some (.raw data)

def decodeEnhancedValue (spec : Option VehicleSpec) (did : UInt16) (module : ModuleId) (data : List UInt8) :
    MayPanic Value :=
  match findEnhancedPid spec did module with
  | some epid => decodeWithFormula epid data
  | none => some (.raw data)

end Enhanced

/-! ### Reading -/

/-- A step that may panic; what panics does not end. -/
def Async.panicking {ε σ α : Type} (x : MayPanic α) : Async ε σ α := fun s =>
  match x with
  | some a => (.ok a, s)
  | none => (.dropped, s)

namespace Session
variable {A : Type} [Adapter A]

/-- Look up the service ID for an enhanced PID from the spec. -/
def lookupEnhancedServiceId (s : Session A) (did : UInt16) (module : ModuleId) : UInt8 :=
  Enhanced.findServiceId s.spec did module

/-- The request for an enhanced PID. -/
def enhancedRequest (s : Session A) (did : UInt16) (module : ModuleId) : ServiceRequest :=
  let epid := Enhanced.findEnhancedPid s.spec did module
  let serviceId :=
    match epid with
    | some epid => epid.serviceId
    | none => s.lookupEnhancedServiceId did module
  let suffix := (epid.bind (·.commandSuffix)).getD []
  ⟨serviceId, [(did >>> 8).toUInt8, (did &&& 0xFF).toUInt8] ++ suffix, .module module.id⟩

/-- Read an enhanced PID from a specific module. -/
def readEnhanced (did : UInt16) (module : ModuleId) : Op A Reading := do
  ensureInitialized
  let s ← .get
  let data ← sendRequest (s.enhancedRequest did module)
  let s ← .get
  let value ← .panicking (Enhanced.decodeEnhancedValue s.spec did module data)
  pure ⟨value, "", data, .live⟩

end Session

end Obd2

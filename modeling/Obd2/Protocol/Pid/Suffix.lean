import Obd2.Adapter.Elm327
import Obd2.MayPanic
import Obd2.Protocol.Pid

/-! What parsing looks at.

Parsing data of a PID indexes it after one check of its length, and the two have their own table
each: the expected length, and what the arms index. `parseIndexed` is the parser with every index
of it. No index is out of range (`parseIndexed_eq`), and nothing behind the expected length is
looked at (`parse_take`), so it does not matter whether an adapter cuts it off. -/
namespace Obd2
open MayPanic

/-! ### Indices -/

/-- `u32::from_be_bytes([data[0], data[1], data[2], data[3]])`. -/
def wordOf (data : List UInt8) : MayPanic UInt32 := do
  let b0 ← index data 0
  let b1 ← index data 1
  let b2 ← index data 2
  let b3 ← index data 3
  some (u32OfBe [b0, b1, b2, b3])

/-- `if data.len() > i { data[i] as f64 } else { 0.0 }`. -/
def byteOrZero (data : List UInt8) (i : Nat) : MayPanic Binary64 :=
  if i < data.length then do
    let byte ← index data i
    some (byte.toNat : Binary64)
  else some 0

/-- The arms of `parse`, each with the indices it looks up. -/
def Formula.decodeIndexed (formula : Formula) (data : List UInt8) : MayPanic Value := do
  let first ← index data 0
  let a : Binary64 := (first.toNat : Binary64)
  let b ← byteOrZero data 1
  let _c ← byteOrZero data 2
  let _d ← byteOrZero data 3
  match formula with
  | .bitmap =>
    let raw ← wordOf data
    some (.bitfield ⟨raw, []⟩)
  | .monitorStatus =>
    let raw ← wordOf data
    let status ← index data 0
    let monitors ← index data 1
    let dtcCount := status &&& 0x7F
    some (.bitfield ⟨raw,
      [("MIL", status &&& 0x80 != 0),
        (s!"{dtcCount.toNat} DTCs", 0 < dtcCount),
        ("Compression Ignition", monitors &&& 0x08 != 0)]⟩)
  | .fuelSystemStatus =>
    let raw ← index data 0
    some (.bitfield ⟨raw.toUInt32, []⟩)
  | .percentage => some (.scalar (a * 100 / 255))
  | .temperature => some (.scalar (a - 40))
  | .fuelTrim => some (.scalar ((a - 128) * 100 / 128))
  | .fuelPressure => some (.scalar (a * 3))
  | .direct => some (.scalar a)
  | .rpm => some (.scalar ((256 * a + b) / 4))
  | .timingAdvance => some (.scalar (a / 2 - 64))
  | .maf => some (.scalar ((256 * a + b) / 100))
  | .obdStandard =>
    let standard ← index data 0
    some (.state s!"Standard {standard.toNat}")
  | .directWord => some (.scalar (256 * a + b))
  | .totalDistance =>
    let raw ← wordOf data
    some (.scalar ((raw.toNat : Binary64) / 10))
  | .railPressure => some (.scalar ((256 * a + b) * 10))
  | .catalystTemperature => some (.scalar ((256 * a + b) / 10 - 40))
  | .moduleVoltage => some (.scalar ((256 * a + b) / 1000))
  | .absoluteLoad => some (.scalar ((256 * a + b) * 100 / 255))
  | .equivalenceRatio => some (.scalar ((256 * a + b) / 32768))
  | .fuelRate => some (.scalar ((256 * a + b) / 20))
  | .torque => some (.scalar (a - 125))

namespace Pid

/-- `parse`, with the indices that are looked up before and in its arms. -/
def parseIndexed (pid : Pid) (data : List UInt8) : MayPanic (Except Obd2Error Value) :=
  let expected := pid.responseBytes
  if data.length < expected then
    some (.error (.parseError s!"PID {pid.hex} expects {expected} bytes, got {data.length}"))
  else do
    let _first ← index data 0
    match pid.formula with
    | some formula => (formula.decodeIndexed data).map .ok
    | none => some (.error (.parseError s!"no parse formula for PID {pid.hex}"))

end Pid

/-! ### Within the expected length -/

section Arms
variable {data : List UInt8}

theorem wordOf_eq (h : 4 ≤ data.length) : wordOf data = some (u32OfBe data) := by
  match data with
  | b0 :: b1 :: b2 :: b3 :: rest =>
    rw [← u32OfBe_take]
    rfl
  | [] | [_] | [_, _] | [_, _, _] => exact absurd h (by simp)

/-- The byte that is there, or zero. -/
theorem byteOrZero_eq (data : List UInt8) (i : Nat) :
    byteOrZero data i = some ((data.getD i 0).toNat : Binary64) := by
  rw [byteOrZero]
  split
  · next hlt =>
    rw [index_getD hlt 0]
    rfl
  · next hge =>
    rw [List.getD_eq_getElem?_getD, List.getElem?_eq_none (Nat.not_lt.mp hge)]
    rfl

/-- An arm looks up what is there. -/
theorem Formula.decodeIndexed_eq {formula : Formula} (h : formula.width ≤ data.length) :
    formula.decodeIndexed data = some (formula.decode data) := by
  have hwidth : 1 ≤ formula.width := by cases formula <;> decide
  have hfirst : index data 0 = some (data.getD 0 0) := index_getD (Nat.lt_of_lt_of_le hwidth h) 0
  rw [decodeIndexed, hfirst, byteOrZero_eq, byteOrZero_eq, byteOrZero_eq]
  cases formula with
  | bitmap => rw [wordOf_eq h]; rfl
  | monitorStatus =>
    have hsecond : index data 1 = some (data.getD 1 0) := index_getD (Nat.lt_of_lt_of_le (by decide) h) 0
    rw [wordOf_eq h, hsecond]
    rfl
  | totalDistance => rw [wordOf_eq h]; rfl
  | _ => rfl

/-- An arm does not look further than its width. -/
theorem Formula.decode_take (formula : Formula) (data : List UInt8) :
    formula.decode (data.take formula.width) = formula.decode data := by
  cases formula <;> simp [decode, width, u32OfBe_take]

end Arms

/-! ### Parsing -/

namespace Pid
variable (pid : Pid) (data : List UInt8)

/-- No index of the parser is out of range. -/
theorem parseIndexed_eq : pid.parseIndexed data = some (pid.parse data) := by
  rw [parseIndexed, parse]
  split
  · rfl
  next hlong =>
  have hfirst : index data 0 = some (data.getD 0 0) :=
    index_getD (Nat.lt_of_lt_of_le (responseBytes_pos pid) (Nat.not_lt.mp hlong)) 0
  rw [hfirst]
  cases hformula : pid.formula with
  | none => rfl
  | some formula =>
    rw [responseBytes_eq_width hformula] at hlong
    show (formula.decodeIndexed data).map Except.ok = _
    rw [Formula.decodeIndexed_eq (Nat.not_lt.mp hlong)]
    rfl

/-- Data of its length is enough. -/
theorem parse_take : pid.parse (data.take pid.responseBytes) = pid.parse data := by
  by_cases hshort : data.length ≤ pid.responseBytes
  · rw [List.take_of_length_le hshort]
  · have hlong : ¬ data.length < pid.responseBytes := by omega
    have hcut : ¬ (data.take pid.responseBytes).length < pid.responseBytes := by
      rw [List.length_take]
      omega
    rw [parse, parse, if_neg hlong, if_neg hcut]
    cases hformula : pid.formula with
    | none => rfl
    | some formula =>
      dsimp only
      rw [responseBytes_eq_width hformula, Formula.decode_take]

end Pid

/-- **A PID does not look behind its data.** Its parser never indexes out of range, fails on data
that is too short, and otherwise reads the same from the data as from its first bytes; what the
adapter cuts off the answer to a request for the PID is not missed. -/
theorem suffix_ignored (pid : Pid) (data : List UInt8) :
    pid.parseIndexed data = some (pid.parse data) ∧
      (data.length < pid.responseBytes → ∃ e, pid.parse data = .error e) ∧
      pid.parse (data.take pid.responseBytes) = pid.parse data ∧
      ∀ service rest, pid.parse (Elm327Adapter.truncateKnownPayload service (pid.code :: rest) data) = pid.parse data := by
  refine ⟨pid.parseIndexed_eq data, fun hshort => ?_, pid.parse_take data, fun service rest => ?_⟩
  · rw [Pid.parse, if_pos hshort]
    exact ⟨_, rfl⟩
  · unfold Elm327Adapter.truncateKnownPayload
    split
    · exact pid.parse_take data
    · exact pid.parse_take data
    · rfl

end Obd2

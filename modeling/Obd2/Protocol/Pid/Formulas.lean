import Obd2.Protocol.Pid
import Obd2.Text.Lemmas

/-! What the formulas compute.

A formula that gives a scalar computes a linear function of the number in its data, up to the
rounding of its one or two inexact steps (`decode_near`). The values of two numbers are further
apart than that, and what gives no scalar keeps the number itself, so data of one width is told
apart by any formula (`decode_injective`). -/
namespace Obd2.Formula
open Binary64 Text

/-- The scale and the offset of a formula that gives a scalar. -/
def linear : Formula → Option (Rat × Rat)
  | .percentage | .absoluteLoad => some (100 / 255, 0)
  | .temperature => some (1, -40)
  | .fuelTrim => some (100 / 128, -100)
  | .fuelPressure => some (3, 0)
  | .direct | .directWord => some (1, 0)
  | .rpm => some (1 / 4, 0)
  | .timingAdvance => some (1 / 2, -64)
  | .maf => some (1 / 100, 0)
  | .totalDistance => some (1 / 10, 0)
  | .railPressure => some (10, 0)
  | .catalystTemperature => some (1 / 10, -40)
  | .moduleVoltage => some (1 / 1000, 0)
  | .equivalenceRatio => some (1 / 32768, 0)
  | .fuelRate => some (1 / 20, 0)
  | .torque => some (1, -125)
  | .bitmap | .monitorStatus | .fuelSystemStatus | .obdStandard => none

/-! ### Steps of a formula -/

section Steps
variable {x : Binary64} {m : Int} {q : Rat}

theorem value_byte (b : UInt8) : (b.toNat : Binary64).value = (b.toNat : Int) :=
  value_natCast (b.toNat_lt.trans (by norm_num))

/-- The number of two bytes is exact. -/
theorem value_word (a b : UInt8) :
    (256 * (a.toNat : Binary64) + (b.toNat : Binary64)).value = (256 * a.toNat + b.toNat : Int) := by
  have ha := a.toNat_lt
  have hb := b.toNat_lt
  have hhigh := value_mul (value_ofNat (n := 256) (by norm_num)) (value_byte a) (by rw [abs_lt]; omega)
  exact value_add hhigh (value_byte b) (by rw [abs_lt]; omega)

/-- An exact result. -/
theorem near_exact (hx : x.value = m) (hq : (m : Rat) = q) : Near (2 ^ (-20 : Int)) x q :=
  near_of_value (hx.trans hq) (by positivity)

/-- A quotient of integers. -/
theorem near_quotient (hx : x.value = m) (hm : |m| < 2 ^ 33) {d : Nat} (hd : 0 < d) (hlt : d < 2 ^ 53) :
    Near (2 ^ (-21 : Int)) (x / OfNat.ofNat d) (m / d) := by
  have hone : (1 : Rat) ≤ d := by exact_mod_cast hd
  have hbound : |(m : Rat)| < 2 ^ (33 : Int) := by exact_mod_cast hm
  have hdivisor : (OfNat.ofNat d : Binary64).value = (d : Rat) := by rw [value_ofNat hlt, Int.cast_natCast]
  refine near_div hx hdivisor ?_ (by norm_num)
  rw [abs_div, Nat.abs_cast]
  exact (div_le_self (abs_nonneg _) hone).trans_lt (hbound.trans_eq (by norm_num))

theorem near_divided (hx : x.value = m) (hm : |m| < 2 ^ 33) {d : Nat} (hd : 0 < d) (hlt : d < 2 ^ 53)
    (hq : (m : Rat) / d = q) : Near (2 ^ (-20 : Int)) (x / OfNat.ofNat d) q := by
  rw [← hq]
  exact (near_quotient hx hm hd hlt).weaken (zpow_le_zpow_right₀ (by norm_num) (by norm_num))

/-- A quotient with an integer taken off. -/
theorem near_shifted (hx : x.value = m) (hm : |m| < 2 ^ 32) {d c : Nat} (hd : 0 < d) (hlt : d < 2 ^ 53)
    (hc : c < 2 ^ 16) (hq : (m : Rat) / d - c = q) :
    Near (2 ^ (-20 : Int)) (x / OfNat.ofNat d - OfNat.ofNat c) q := by
  have hone : (1 : Rat) ≤ d := by exact_mod_cast hd
  have hbound : |(m : Rat)| < 2 ^ 32 := by exact_mod_cast hm
  have hoffset : (c : Rat) < 2 ^ 16 := by exact_mod_cast hc
  have hvalue : (OfNat.ofNat c : Binary64).value = (c : Rat) := by
    rw [value_ofNat (hc.trans (by norm_num)), Int.cast_natCast]
  have hquotient : |(m : Rat) / d| < 2 ^ 32 := by
    rw [abs_div, Nat.abs_cast]
    exact (div_le_self (abs_nonneg _) hone).trans_lt hbound
  have hsub := (near_quotient hx (hm.trans (by norm_num)) hd hlt).sub hvalue (k := -21) ?_ (by norm_num)
  · rw [hq] at hsub
    exact hsub.weaken (by norm_num)
  · have hle : |(m : Rat) / d - c| ≤ |(m : Rat) / d| + |(c : Rat)| := abs_sub _ _
    rw [Nat.abs_cast] at hle
    calc |(m : Rat) / d - c| + 2 ^ (-21 : Int) < 2 ^ 32 + 2 ^ 16 + 2 ^ (-21 : Int) := by linarith
      _ < 2 ^ (-21 + 54 : Int) := by norm_num

end Steps

/-! ### Formulas -/

theorem ofBeBytes_one (a : UInt8) : ofBeBytes [a] = a.toNat := Nat.zero_add _

theorem ofBeBytes_two (a b : UInt8) : ofBeBytes [a, b] = 256 * a.toNat + b.toNat := by
  show (0 * 256 + a.toNat) * 256 + b.toNat = _
  omega

section Scalars
variable {formula : Formula} {scale offset : Rat}

/-- A formula of one byte. -/
theorem decode_near_byte (a : UInt8) (hwidth : formula.width = 1) (h : formula.linear = some (scale, offset)) :
    ∃ x, formula.decode [a] = .scalar x ∧ Near (2 ^ (-20 : Int)) x (scale * ofBeBytes [a] + offset) := by
  have hbyte := value_byte a
  have hlt := a.toNat_lt
  rw [ofBeBytes_one]
  cases formula with
  | percentage =>
    cases h
    have hscaled := value_mul hbyte (value_ofNat (n := 100) (by norm_num)) (by rw [abs_lt]; omega)
    refine ⟨_, rfl, near_divided hscaled (by rw [abs_lt]; omega) (by norm_num) (by norm_num) ?_⟩
    push_cast
    ring
  | temperature =>
    cases h
    have hshifted := value_sub hbyte (value_ofNat (n := 40) (by norm_num)) (by rw [abs_lt]; omega)
    refine ⟨_, rfl, near_exact hshifted ?_⟩
    push_cast
    ring
  | fuelTrim =>
    cases h
    have hshifted := value_sub hbyte (value_ofNat (n := 128) (by norm_num)) (by rw [abs_lt]; omega)
    have hscaled := value_mul hshifted (value_ofNat (n := 100) (by norm_num)) (by rw [abs_lt]; omega)
    refine ⟨_, rfl, near_divided hscaled (by rw [abs_lt]; omega) (by norm_num) (by norm_num) ?_⟩
    push_cast
    ring
  | fuelPressure =>
    cases h
    have hscaled := value_mul hbyte (value_ofNat (n := 3) (by norm_num)) (by rw [abs_lt]; omega)
    refine ⟨_, rfl, near_exact hscaled ?_⟩
    push_cast
    ring
  | direct =>
    cases h
    refine ⟨_, rfl, near_exact hbyte ?_⟩
    push_cast
    ring
  | timingAdvance =>
    cases h
    refine ⟨_, rfl, near_shifted hbyte (by rw [abs_lt]; omega) (by norm_num) (by norm_num) (by norm_num) ?_⟩
    push_cast
    ring
  | torque =>
    cases h
    have hshifted := value_sub hbyte (value_ofNat (n := 125) (by norm_num)) (by rw [abs_lt]; omega)
    refine ⟨_, rfl, near_exact hshifted ?_⟩
    push_cast
    ring
  | fuelSystemStatus | obdStandard => cases h
  | _ => cases hwidth

/-- A formula of two bytes. -/
theorem decode_near_word (a b : UInt8) (hwidth : formula.width = 2) (h : formula.linear = some (scale, offset)) :
    ∃ x, formula.decode [a, b] = .scalar x ∧ Near (2 ^ (-20 : Int)) x (scale * ofBeBytes [a, b] + offset) := by
  have hword := value_word a b
  have ha := a.toNat_lt
  have hb := b.toNat_lt
  rw [ofBeBytes_two]
  cases formula with
  | rpm | maf | moduleVoltage | equivalenceRatio | fuelRate =>
    cases h
    refine ⟨_, rfl, near_divided hword (by rw [abs_lt]; omega) (by norm_num) (by norm_num) ?_⟩
    push_cast
    ring
  | directWord =>
    cases h
    refine ⟨_, rfl, near_exact hword ?_⟩
    push_cast
    ring
  | railPressure =>
    cases h
    have hscaled := value_mul hword (value_ofNat (n := 10) (by norm_num)) (by rw [abs_lt]; omega)
    refine ⟨_, rfl, near_exact hscaled ?_⟩
    push_cast
    ring
  | catalystTemperature =>
    cases h
    refine ⟨_, rfl, near_shifted hword (by rw [abs_lt]; omega) (by norm_num) (by norm_num) (by norm_num) ?_⟩
    push_cast
    ring
  | absoluteLoad =>
    cases h
    have hscaled := value_mul hword (value_ofNat (n := 100) (by norm_num)) (by rw [abs_lt]; omega)
    refine ⟨_, rfl, near_divided hscaled (by rw [abs_lt]; omega) (by norm_num) (by norm_num) ?_⟩
    push_cast
    ring
  | _ => cases hwidth

/-- **A scalar is the linear function of the number in the data, up to its rounding.** -/
theorem decode_near {data : List UInt8} (hdata : data.length = formula.width)
    (h : formula.linear = some (scale, offset)) :
    ∃ x, formula.decode data = .scalar x ∧ Near (2 ^ (-20 : Int)) x (scale * ofBeBytes data + offset) := by
  match data, hdata with
  | [a], hdata => exact decode_near_byte a hdata.symm h
  | [a, b], hdata => exact decode_near_word a b hdata.symm h
  | [a, b, c, d], hdata =>
    cases formula with
    | totalDistance =>
      cases h
      have hraw := u32OfBe_toNat (Nat.le_of_eq (show [a, b, c, d].length = 4 from rfl))
      have hlt := (u32OfBe [a, b, c, d]).toNat_lt
      have hvalue := value_natCast (n := (u32OfBe [a, b, c, d]).toNat) (by omega)
      refine ⟨_, rfl, near_divided hvalue (by rw [abs_lt]; omega) (by norm_num) (by norm_num) ?_⟩
      rw [hraw]
      push_cast
      ring
    | bitmap | monitorStatus => cases h
    | _ => cases hdata
  | [], hdata => cases formula <;> cases hdata
  | [_, _, _], hdata => cases formula <;> cases hdata
  | _ :: _ :: _ :: _ :: _ :: _, hdata => cases formula <;> cases hdata

end Scalars

/-! ### Telling data apart -/

theorem scale_ge {formula : Formula} {scale offset : Rat} (h : formula.linear = some (scale, offset)) :
    2 ^ (-15 : Int) ≤ scale := by
  unfold linear at h
  split at h
  all_goals first | (cases h; norm_num) | cases h

/-- The scalars of two numbers are further apart than they are off. -/
theorem linear_apart {scale offset : Rat} (hscale : 2 ^ (-15 : Int) ≤ scale) {n n' : Nat} (h : n ≠ n') :
    2 ^ (-20 : Int) + 2 ^ (-20 : Int) < |(scale * n + offset) - (scale * n' + offset)| := by
  have hpos : (0 : Rat) < 2 ^ (-15 : Int) := by positivity
  have hapart : (1 : Rat) ≤ |(n : Rat) - n'| := by
    have hint : (1 : Int) ≤ |(n : Int) - n'| := Int.one_le_abs (sub_ne_zero.mpr (by exact_mod_cast h))
    exact_mod_cast hint
  have hsplit : (scale * n + offset) - (scale * n' + offset) = scale * (n - n') := by ring
  calc (2 : Rat) ^ (-20 : Int) + 2 ^ (-20 : Int) < 2 ^ (-15 : Int) * 1 := by norm_num
    _ ≤ scale * |(n : Rat) - n'| := mul_le_mul hscale hapart zero_le_one (hpos.le.trans hscale)
    _ = |(scale * n + offset) - (scale * n' + offset)| := by
      rw [hsplit, abs_mul, abs_of_pos (hpos.trans_le hscale)]

/-- **Data of its width is told apart by a formula.** -/
theorem decode_injective {formula : Formula} {data data' : List UInt8} (hdata : data.length = formula.width)
    (hdata' : data'.length = formula.width) (h : formula.decode data = formula.decode data') : data = data' := by
  have hlength : data.length = data'.length := hdata.trans hdata'.symm
  cases hlinear : formula.linear with
  | some line =>
    obtain ⟨scale, offset⟩ := line
    obtain ⟨x, hx, hnear⟩ := decode_near hdata hlinear
    obtain ⟨x', hx', hnear'⟩ := decode_near hdata' hlinear
    rw [hx, hx'] at h
    cases h
    refine ofBeBytes_injective hlength (Decidable.byContradiction fun hne => ?_)
    exact hnear.ne hnear' (linear_apart (scale_ge hlinear) hne) rfl
  | none =>
    cases formula with
    | bitmap | monitorStatus =>
      injection h with hbits
      injection hbits with hraw
      refine ofBeBytes_injective hlength ?_
      rw [← u32OfBe_toNat (Nat.le_of_eq hdata), ← u32OfBe_toNat (Nat.le_of_eq hdata'), hraw]
    | fuelSystemStatus =>
      obtain ⟨a, rfl⟩ := List.length_eq_one_iff.mp hdata
      obtain ⟨a', rfl⟩ := List.length_eq_one_iff.mp hdata'
      injection h with hbits
      injection hbits with hraw
      have htoNat : a.toNat = a'.toNat := congrArg UInt32.toNat hraw
      rw [UInt8.toNat_inj.mp htoNat]
    | obdStandard =>
      obtain ⟨a, rfl⟩ := List.length_eq_one_iff.mp hdata
      obtain ⟨a', rfl⟩ := List.length_eq_one_iff.mp hdata'
      injection h with htext
      have hstate : "Standard " ++ toString a.toNat = "Standard " ++ toString a'.toNat := htext
      rw [UInt8.toNat_inj.mp (toDigits_injective (String.ofList_injective ((String.append_right_inj _).mp hstate)))]
    | _ => cases hlinear

end Obd2.Formula

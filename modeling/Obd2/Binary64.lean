import Mathlib.Algebra.Order.Field.Power
import Mathlib.Algebra.Order.Field.Rat
import Mathlib.Algebra.Order.Floor.Ring
import Mathlib.Data.Int.Log
import Mathlib.Data.Rat.Floor
import Mathlib.Tactic.Linarith
import Mathlib.Tactic.Positivity

/-! Numbers of the format binary64.

A number is an integer of 53 bits times a power of two. An operation rounds its exact result to
the nearest number, and to the even one of two. Only the finite part of the format is here: there
are no infinities, zero has one sign, and no exponent is too large. -/
namespace Obd2

/-- An exact number that the format has. -/
def Representable (q : Rat) : Prop := ∃ m e : Int, |m| < 2 ^ 53 ∧ -1074 ≤ e ∧ q = m * 2 ^ e

structure Binary64 where
  value : Rat
  representable : Representable value

namespace Binary64

/-! ### Rounding -/

/-- The exponent of the last place that numbers as large as `q` have. -/
def lastPlace (q : Rat) : Int := max (Int.log 2 |q| - 52) (-1074)

/-- The nearest integer, the even one of two. -/
def nearestInt (q : Rat) : Int :=
  if q - ⌊q⌋ < 1 / 2 ∨ (q - ⌊q⌋ = 1 / 2 ∧ ⌊q⌋ % 2 = 0) then ⌊q⌋ else ⌊q⌋ + 1

def rounded (q : Rat) : Rat := nearestInt (q / 2 ^ lastPlace q) * 2 ^ lastPlace q

theorem abs_nearestInt_sub_le (q : Rat) : |nearestInt q - q| ≤ 1 / 2 := by
  have hfloor := Int.floor_le q
  have hlt := Int.lt_floor_add_one q
  unfold nearestInt
  rw [abs_le]
  split
  · next hbelow =>
    have hhalf : q - ⌊q⌋ ≤ 1 / 2 := hbelow.elim le_of_lt fun h => le_of_eq h.1
    constructor <;> linarith
  · next habove =>
    have hhalf : 1 / 2 ≤ q - ⌊q⌋ := le_of_not_gt fun h => habove (.inl h)
    push_cast
    constructor <;> linarith

@[simp] theorem nearestInt_intCast (n : Int) : nearestInt n = n := by
  rw [nearestInt, Int.floor_intCast, sub_self, if_pos (.inl (by norm_num))]

/-- The nearest integer is within the integers around. -/
theorem abs_nearestInt_le {q : Rat} {n : Int} (h : |q| < n) : |nearestInt q| ≤ n := by
  have hnear := abs_sub_abs_le_abs_sub (nearestInt q : Rat) q
  have hbound : ((|nearestInt q| : Int) : Rat) < n + 1 := by
    rw [Int.cast_abs]
    linarith [abs_nearestInt_sub_le q]
  exact Int.lt_add_one_iff.mp (by exact_mod_cast hbound)

theorem lt_two_zpow_lastPlace (q : Rat) : |q| < 2 ^ (lastPlace q + 53) := by
  have hlog := Int.lt_zpow_succ_log_self (b := 2) (by norm_num) |q|
  push_cast at hlog
  refine lt_of_lt_of_le hlog (zpow_le_zpow_right₀ (by norm_num) ?_)
  unfold lastPlace
  omega

/-- The last place is as small as the number is. -/
theorem lastPlace_le {q : Rat} {k : Int} (hq : q ≠ 0) (h : |q| < 2 ^ (k + 53)) (hk : -1074 ≤ k) :
    lastPlace q ≤ k := by
  have hlog : Int.log 2 |q| < k + 53 :=
    (Int.lt_zpow_iff_log_lt (by norm_num) (abs_pos.mpr hq)).mp (by exact_mod_cast h)
  unfold lastPlace
  omega

@[simp] theorem rounded_zero : rounded 0 = 0 := by
  have hzero := nearestInt_intCast 0
  rw [Int.cast_zero] at hzero
  rw [rounded, zero_div, hzero, Int.cast_zero, zero_mul]

/-- A number of 53 bits, or the next one: it has one bit only, and that is the next place's. -/
theorem representable_of_le {m e : Int} (hm : |m| ≤ 2 ^ 53) (he : -1074 ≤ e) :
    Representable (m * 2 ^ e) := by
  rcases lt_or_eq_of_le hm with hlt | heq
  · exact ⟨m, e, hlt, he, rfl⟩
  · have hnext : (2 : Rat) ^ (53 : Nat) * 2 ^ e = 2 ^ (52 : Nat) * 2 ^ (e + 1) := by
      rw [zpow_add_one₀ two_ne_zero]
      ring
    rcases (abs_eq (by norm_num)).mp heq with rfl | rfl
    · refine ⟨2 ^ 52, e + 1, by norm_num, by omega, ?_⟩
      push_cast
      exact hnext
    · refine ⟨-2 ^ 52, e + 1, by norm_num, by omega, ?_⟩
      push_cast
      linarith [hnext]

theorem representable_rounded (q : Rat) : Representable (rounded q) := by
  have hscaled : |q / 2 ^ lastPlace q| < ((2 ^ 53 : Int) : Rat) := by
    have hpos : (0 : Rat) < 2 ^ lastPlace q := by positivity
    rw [abs_div, abs_of_pos hpos, div_lt_iff₀ hpos]
    have hlt := lt_two_zpow_lastPlace q
    rw [zpow_add₀ two_ne_zero, mul_comm] at hlt
    exact_mod_cast hlt
  exact representable_of_le (abs_nearestInt_le hscaled) (le_max_right ..)

/-- A multiple of a power of two is an integer in units of a lower power. -/
theorem exists_units (m : Int) {e place : Int} (h : place ≤ e) :
    ∃ n : Int, (m : Rat) * 2 ^ e / 2 ^ place = n := by
  obtain ⟨k, rfl⟩ := Int.le.dest h
  refine ⟨m * 2 ^ k, ?_⟩
  rw [zpow_add₀ two_ne_zero, zpow_natCast]
  push_cast
  field_simp

/-- **What the format has is not changed.** -/
theorem rounded_of_representable {q : Rat} (h : Representable q) : rounded q = q := by
  obtain ⟨m, e, hm, he, rfl⟩ := h
  rcases eq_or_ne ((m : Rat) * 2 ^ e) 0 with hzero | hne
  · rw [hzero, rounded_zero]
  · have hbound : |(m : Rat) * 2 ^ e| < 2 ^ (e + 53) := by
      have hcast : |(m : Rat)| < 2 ^ (53 : Int) := by exact_mod_cast hm
      rw [abs_mul, abs_of_pos (by positivity : (0 : Rat) < 2 ^ e), add_comm, zpow_add₀ two_ne_zero]
      exact mul_lt_mul_of_pos_right hcast (by positivity)
    obtain ⟨n, hunits⟩ := exists_units m (lastPlace_le hne hbound he)
    rw [rounded, hunits, nearestInt_intCast, ← hunits, div_mul_cancel₀ _ (zpow_ne_zero _ two_ne_zero)]

/-- **Rounding moves a number by half its last place at most.** -/
theorem abs_rounded_sub_le {q : Rat} {k : Int} (h : |q| < 2 ^ (k + 54)) (hk : -1075 ≤ k) :
    |rounded q - q| ≤ 2 ^ k := by
  rcases eq_or_ne q 0 with rfl | hne
  · rw [rounded_zero, sub_self, abs_zero]
    positivity
  · have hplace : lastPlace q ≤ k + 1 := by
      refine lastPlace_le hne (lt_of_lt_of_eq h ?_) (by omega)
      ring_nf
    have hpos : (0 : Rat) < 2 ^ lastPlace q := by positivity
    calc |rounded q - q| = |nearestInt (q / 2 ^ lastPlace q) - q / 2 ^ lastPlace q| * 2 ^ lastPlace q := by
          rw [← abs_of_pos hpos, ← abs_mul, abs_of_pos hpos, sub_mul, div_mul_cancel₀ _ hpos.ne', rounded]
      _ ≤ 1 / 2 * 2 ^ (k + 1) := by
          refine mul_le_mul (abs_nearestInt_sub_le _) ?_ hpos.le (by norm_num)
          exact zpow_le_zpow_right₀ (by norm_num) hplace
      _ = 2 ^ k := by
          rw [zpow_add_one₀ two_ne_zero]
          ring

/-! ### Arithmetic -/

def ofRat (q : Rat) : Binary64 := ⟨rounded q, representable_rounded q⟩

instance : NatCast Binary64 := ⟨fun n => ofRat n⟩
instance (n : Nat) : OfNat Binary64 n := ⟨ofRat n⟩
instance : Add Binary64 := ⟨fun x y => ofRat (x.value + y.value)⟩
instance : Sub Binary64 := ⟨fun x y => ofRat (x.value - y.value)⟩
instance : Mul Binary64 := ⟨fun x y => ofRat (x.value * y.value)⟩
instance : Div Binary64 := ⟨fun x y => ofRat (x.value / y.value)⟩

/-! ### Integers

Integers of 53 bits are exact, and so is what is computed with them without division. -/

theorem value_ofRat_intCast {n : Int} (h : |n| < 2 ^ 53) : (ofRat n).value = n :=
  rounded_of_representable ⟨n, 0, h, by norm_num, by rw [zpow_zero, mul_one]⟩

theorem value_natCast {n : Nat} (h : n < 2 ^ 53) : (n : Binary64).value = (n : Int) :=
  value_ofRat_intCast (n := n) (by rw [Nat.abs_cast]; exact_mod_cast h)

theorem value_ofNat {n : Nat} (h : n < 2 ^ 53) : (OfNat.ofNat n : Binary64).value = (n : Int) := value_natCast h

section Integers
variable {x y : Binary64} {m n : Int}

theorem value_add (hx : x.value = m) (hy : y.value = n) (h : |m + n| < 2 ^ 53) :
    (x + y).value = (m + n : Int) := by
  show (ofRat (x.value + y.value)).value = _
  rw [hx, hy, ← Int.cast_add]
  exact value_ofRat_intCast h

theorem value_sub (hx : x.value = m) (hy : y.value = n) (h : |m - n| < 2 ^ 53) :
    (x - y).value = (m - n : Int) := by
  show (ofRat (x.value - y.value)).value = _
  rw [hx, hy, ← Int.cast_sub]
  exact value_ofRat_intCast h

theorem value_mul (hx : x.value = m) (hy : y.value = n) (h : |m * n| < 2 ^ 53) :
    (x * y).value = (m * n : Int) := by
  show (ofRat (x.value * y.value)).value = _
  rw [hx, hy, ← Int.cast_mul]
  exact value_ofRat_intCast h

end Integers

/-! ### Errors -/

/-- A number within `error` of an exact one. -/
def Near (error : Rat) (x : Binary64) (q : Rat) : Prop := |x.value - q| ≤ error

section Errors
variable {error error' p q : Rat} {x y : Binary64} {k : Int}

theorem near_of_value (h : x.value = q) (herror : 0 ≤ error) : Near error x q := by
  rw [Near, h, sub_self, abs_zero]
  exact herror

theorem Near.weaken (h : Near error x q) (hle : error ≤ error') : Near error' x q := le_trans h hle

/-- The quotient of two exact numbers is off by its rounding. -/
theorem near_div (hx : x.value = p) (hy : y.value = q) (h : |p / q| < 2 ^ (k + 54)) (hk : -1075 ≤ k) :
    Near (2 ^ k) (x / y) (p / q) := by
  rw [← hx, ← hy] at h ⊢
  exact abs_rounded_sub_le h hk

/-- A difference is off by what its minuend was, and its rounding. -/
theorem Near.sub (hx : Near error x p) (hy : y.value = q) (h : |p - q| + error < 2 ^ (k + 54))
    (hk : -1075 ≤ k) : Near (2 ^ k + error) (x - y) (p - q) := by
  have hmoved : |(x.value - y.value) - (p - q)| ≤ error := by
    rw [hy, sub_sub_sub_cancel_right]
    exact hx
  have hbound : |x.value - y.value| < 2 ^ (k + 54) := by
    linarith [abs_sub_abs_le_abs_sub (x.value - y.value) (p - q)]
  exact (abs_sub_le _ (x.value - y.value) _).trans (add_le_add (abs_rounded_sub_le hbound hk) hmoved)

/-- Numbers near exact ones that are apart are different. -/
theorem Near.ne (hx : Near error x p) (hy : Near error' y q) (h : error + error' < |p - q|) : x ≠ y := by
  rintro rfl
  have hapart := abs_sub_le p x.value q
  rw [abs_sub_comm p x.value] at hapart
  exact absurd h (not_lt.mpr (hapart.trans (add_le_add hx hy)))

end Errors

end Binary64

end Obd2

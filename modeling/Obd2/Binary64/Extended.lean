import Mathlib.Order.Defs.Unbundled
import Obd2.Binary64

/-! Numbers of the format with the infinities and NaN, as they can be written down.

They are compared, and printed with one digit after the point; NaN is in no order with anything. -/
namespace Obd2

inductive Extended where
  | finite (x : Binary64)
  | infinite (negative : Bool)
  | nan

namespace Extended

/-- `<=`. -/
def le : Extended → Extended → Bool
  | nan, _ => false
  | _, nan => false
  | infinite true, _ => true
  | _, infinite false => true
  | infinite false, _ => false
  | _, infinite true => false
  | finite x, finite y => x.value ≤ y.value

instance : LE Extended := ⟨fun x y => le x y = true⟩

instance (x y : Extended) : Decidable (x ≤ y) := inferInstanceAs (Decidable (le x y = true))

theorem le_trans {x y z : Extended} (hxy : le x y = true) (hyz : le y z = true) : le x z = true := by
  rcases x with x | (_ | _) | _ <;> rcases y with y | (_ | _) | _ <;> rcases z with z | (_ | _) | _
  case finite.finite.finite =>
    exact decide_eq_true ((of_decide_eq_true hxy).trans (of_decide_eq_true hyz))
  all_goals first
    | rfl
    | exact absurd hxy Bool.false_ne_true
    | exact absurd hyz Bool.false_ne_true

/-- NaN is in no order, so this is no preorder. -/
instance : IsTrans Extended (· ≤ ·) := ⟨fun _ _ _ => le_trans⟩

/-- A number to the nearest tenth, the even one of two. -/
def tenthsOf (q : Rat) : String :=
  let tenths := Binary64.nearestInt (|q| * 10)
  let sign := if q < 0 then "-" else ""
  s!"{sign}{tenths / 10}.{tenths % 10}"

/-- `{:.1}`. -/
def tenths : Extended → String
  | finite x => tenthsOf x.value
  | infinite true => "-inf"
  | infinite false => "inf"
  | nan => "NaN"

end Extended

end Obd2

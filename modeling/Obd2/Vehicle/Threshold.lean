/-! Thresholds: the limits of a reading, and what is reported of a reading that reaches one.

Readings and limits are compared with `≤`, whatever they are; a specification's are floats. -/
namespace Obd2

/-- What can be printed with one digit after the point. -/
class Tenths (F : Type) where
  /-- `{:.1}`. -/
  tenths : F → String

structure Threshold (F : Type) where
  min : Option F
  max : Option F
  warningLow : Option F
  warningHigh : Option F
  criticalLow : Option F
  criticalHigh : Option F
  unit : String

inductive AlertLevel where
  | normal
  | warning
  | critical
  deriving DecidableEq, Repr

/-- Levels are ordered as they are listed. -/
instance : LE AlertLevel := ⟨fun a b => a.ctorIdx ≤ b.ctorIdx⟩

instance (a b : AlertLevel) : Decidable (a ≤ b) := inferInstanceAs (Decidable (a.ctorIdx ≤ b.ctorIdx))

inductive AlertDirection where
  | low
  | high
  deriving DecidableEq, Repr

structure ThresholdResult (F : Type) where
  level : AlertLevel
  reading : F
  limit : F
  direction : AlertDirection
  message : String
  deriving DecidableEq

namespace Threshold
variable {F : Type} [LE F] [DecidableLE F] [Tenths F]
open Tenths

/-- A limit from above that is reached. -/
def atLeast (level : AlertLevel) (word unit name : String) (limit : Option F) (value : F) :
    Option (ThresholdResult F) :=
  limit.bind fun limit =>
    if value ≥ limit then
      some ⟨level, value, limit, .high, s!"{name} {word} high: {tenths value} >= {tenths limit} {unit}"⟩
    else none

/-- A limit from below that is reached. -/
def atMost (level : AlertLevel) (word unit name : String) (limit : Option F) (value : F) :
    Option (ThresholdResult F) :=
  limit.bind fun limit =>
    if value ≤ limit then
      some ⟨level, value, limit, .low, s!"{name} {word} low: {tenths value} <= {tenths limit} {unit}"⟩
    else none

/-- Evaluate a reading against this threshold: critical first. Normal is no result. -/
def evaluate (t : Threshold F) (value : F) (name : String) : Option (ThresholdResult F) :=
  atLeast .critical "critically" t.unit name t.criticalHigh value <|>
  atMost .critical "critically" t.unit name t.criticalLow value <|>
  atLeast .warning "warning" t.unit name t.warningHigh value <|>
  atMost .warning "warning" t.unit name t.warningLow value

end Threshold

structure NamedThreshold (F : Type) where
  name : String
  threshold : Threshold F

structure ThresholdSet (F : Type) where
  engine : List (NamedThreshold F)
  transmission : List (NamedThreshold F)

end Obd2

import Obd2.Session.Threshold

/-! The level of an alert.

A threshold has up to four limits, in any order. What is reported is the highest level of which a limit
is reached, and going on in the direction of an alert never lowers its level (`evaluate_exact`). Only
that readings are compared transitively is used, so this is true of floats, NaN among them. -/
namespace Obd2.Threshold

section Levels
variable {F : Type}

/-- The limit of a level in a direction. -/
def limitOf (t : Threshold F) : AlertDirection → AlertLevel → Option F
  | .high, .critical => t.criticalHigh
  | .low, .critical => t.criticalLow
  | .high, .warning => t.warningHigh
  | .low, .warning => t.warningLow
  | _, .normal => none

variable [LE F]

/-- A value is as far as another in a direction: at least that above, at most that below. -/
def AsFar : AlertDirection → F → F → Prop
  | .high, limit, value => limit ≤ value
  | .low, limit, value => value ≤ limit

/-- A limit of the level is reached. -/
def Reached (t : Threshold F) (level : AlertLevel) (value : F) : Prop :=
  ∃ direction, ∃ limit ∈ t.limitOf direction level, AsFar direction limit value

theorem AsFar.trans [IsTrans F (· ≤ ·)] {direction : AlertDirection} {a b c : F} (h : AsFar direction a b)
    (h' : AsFar direction b c) : AsFar direction a c := by
  cases direction with
  | high => exact IsTrans.trans (r := (· ≤ ·)) a b c h h'
  | low => exact IsTrans.trans (r := (· ≤ ·)) c b a h' h

theorem reached_iff (t : Threshold F) (level : AlertLevel) (value : F) :
    t.Reached level value ↔
      (∃ limit ∈ t.limitOf .high level, limit ≤ value) ∨ ∃ limit ∈ t.limitOf .low level, value ≤ limit := by
  constructor
  · rintro ⟨direction, hlimit⟩
    cases direction with
    | high => exact .inl hlimit
    | low => exact .inr hlimit
  · rintro (hlimit | hlimit)
    · exact ⟨.high, hlimit⟩
    · exact ⟨.low, hlimit⟩

variable [DecidableLE F] [Tenths F] {t : Threshold F} {name : String} {value : F} {r : ThresholdResult F}
  {level : AlertLevel} {word unit : String} {limit : Option F}

/-! ### One limit -/

theorem atLeast_eq_none_iff : atLeast level word unit name limit value = none ↔ ¬ ∃ l ∈ limit, l ≤ value := by
  cases limit with
  | none => simp [atLeast]
  | some l => simp [atLeast]

theorem atMost_eq_none_iff : atMost level word unit name limit value = none ↔ ¬ ∃ l ∈ limit, value ≤ l := by
  cases limit with
  | none => simp [atMost]
  | some l => simp [atMost]

theorem of_atLeast (h : atLeast level word unit name limit value = some r) :
    r.level = level ∧ r.direction = .high ∧ ∃ l ∈ limit, l ≤ value := by
  obtain ⟨l, hl, hsome⟩ := Option.bind_eq_some_iff.mp h
  split at hsome
  · next hle =>
    cases hsome
    exact ⟨rfl, rfl, l, hl, hle⟩
  · cases hsome

theorem of_atMost (h : atMost level word unit name limit value = some r) :
    r.level = level ∧ r.direction = .low ∧ ∃ l ∈ limit, value ≤ l := by
  obtain ⟨l, hl, hsome⟩ := Option.bind_eq_some_iff.mp h
  split at hsome
  · next hle =>
    cases hsome
    exact ⟨rfl, rfl, l, hl, hle⟩
  · cases hsome

/-! ### All limits -/

/-- No alert: no limit is reached. -/
theorem evaluate_eq_none_iff :
    t.evaluate value name = none ↔ ¬ t.Reached .critical value ∧ ¬ t.Reached .warning value := by
  rw [reached_iff, reached_iff]
  simp only [evaluate, Option.orElse_eq_orElse, Option.orElse_eq_or, Option.or_eq_none_iff, atLeast_eq_none_iff,
    atMost_eq_none_iff, not_or, and_assoc]
  rfl

/-- An alert is of a limit that is reached, and a warning comes after the critical limits. -/
theorem evaluate_reached (h : t.evaluate value name = some r) :
    (∃ limit ∈ t.limitOf r.direction r.level, AsFar r.direction limit value) ∧
      (r.level = .critical ∨ r.level = .warning ∧ ¬ t.Reached .critical value) := by
  simp only [evaluate, Option.orElse_eq_orElse, Option.orElse_eq_or, Option.or_eq_some_iff, atLeast_eq_none_iff,
    atMost_eq_none_iff] at h
  rcases h with hhigh | ⟨hnohigh, hlow | ⟨hnolow, hwarning⟩⟩
  · obtain ⟨hlevel, hdirection, hlimit⟩ := of_atLeast hhigh
    rw [hlevel, hdirection]
    exact ⟨hlimit, .inl rfl⟩
  · obtain ⟨hlevel, hdirection, hlimit⟩ := of_atMost hlow
    rw [hlevel, hdirection]
    exact ⟨hlimit, .inl rfl⟩
  · have hcritical : ¬ t.Reached .critical value := by
      rw [reached_iff]
      exact not_or.mpr ⟨hnohigh, hnolow⟩
    rcases hwarning with hhigh | ⟨-, hlow⟩
    · obtain ⟨hlevel, hdirection, hlimit⟩ := of_atLeast hhigh
      rw [hlevel, hdirection]
      exact ⟨hlimit, .inr ⟨rfl, hcritical⟩⟩
    · obtain ⟨hlevel, hdirection, hlimit⟩ := of_atMost hlow
      rw [hlevel, hdirection]
      exact ⟨hlimit, .inr ⟨rfl, hcritical⟩⟩

/-- An alert is at least of a level if a limit of that is reached. -/
theorem alerts_of_reached (name : String) (hlevel : level = .critical ∨ level = .warning) (h : t.Reached level value) :
    ∃ r, t.evaluate value name = some r ∧ level ≤ r.level := by
  cases hevaluate : t.evaluate value name with
  | none =>
    obtain ⟨hcritical, hwarning⟩ := evaluate_eq_none_iff.mp hevaluate
    rcases hlevel with rfl | rfl
    · exact absurd h hcritical
    · exact absurd h hwarning
  | some r =>
    refine ⟨r, rfl, ?_⟩
    rcases (evaluate_reached hevaluate).2 with hcritical | ⟨hwarning, hnone⟩
    · rw [hcritical]
      rcases hlevel with rfl | rfl <;> decide
    · rw [hwarning]
      rcases hlevel with rfl | rfl
      · exact absurd h hnone
      · decide

theorem critical_iff (t : Threshold F) (name : String) (value : F) :
    (∃ r, t.evaluate value name = some r ∧ r.level = .critical) ↔ t.Reached .critical value := by
  constructor
  · rintro ⟨r, hevaluate, hlevel⟩
    obtain ⟨hlimit, -⟩ := evaluate_reached hevaluate
    rw [hlevel] at hlimit
    exact ⟨r.direction, hlimit⟩
  · intro hreached
    obtain ⟨r, hevaluate, -⟩ := alerts_of_reached name (.inl rfl) hreached
    refine ⟨r, hevaluate, ?_⟩
    exact (evaluate_reached hevaluate).2.resolve_right fun h => h.2 hreached

theorem warning_iff (t : Threshold F) (name : String) (value : F) :
    (∃ r, t.evaluate value name = some r ∧ r.level = .warning) ↔
      ¬ t.Reached .critical value ∧ t.Reached .warning value := by
  constructor
  · rintro ⟨r, hevaluate, hlevel⟩
    obtain ⟨hlimit, horder⟩ := evaluate_reached hevaluate
    rw [hlevel] at hlimit horder
    exact ⟨(horder.resolve_left (by decide)).2, r.direction, hlimit⟩
  · rintro ⟨hnone, hreached⟩
    obtain ⟨r, hevaluate, -⟩ := alerts_of_reached name (.inr rfl) hreached
    refine ⟨r, hevaluate, ?_⟩
    rcases (evaluate_reached hevaluate).2 with hcritical | hwarning
    · exact absurd ((critical_iff t name value).mp ⟨r, hevaluate, hcritical⟩) hnone
    · exact hwarning.1

/-- Farther in the direction of an alert, the alert is at least of its level. -/
theorem evaluate_farther [IsTrans F (· ≤ ·)] {value' : F} (h : t.evaluate value name = some r)
    (hfar : AsFar r.direction value value') : ∃ r', t.evaluate value' name = some r' ∧ r.level ≤ r'.level := by
  obtain ⟨⟨limit, hlimit, hreached⟩, horder⟩ := evaluate_reached h
  exact alerts_of_reached name (horder.imp id And.left) ⟨r.direction, limit, hlimit, hreached.trans hfar⟩

end Levels

/-- The threshold of a PID does not depend on what is read of it. -/
theorem evaluatePidThreshold_farther {spec : Option VehicleSpec} {pid : Pid} {value value' : Extended}
    {r : ThresholdResult Extended} (h : evaluatePidThreshold spec pid value = some r)
    (hfar : AsFar r.direction value value') :
    ∃ r', evaluatePidThreshold spec pid value' = some r' ∧ r.level ≤ r'.level := by
  obtain ⟨threshold, hthreshold, hevaluate⟩ := Option.bind_eq_some_iff.mp h
  obtain ⟨r', hevaluate', hlevel⟩ := evaluate_farther hevaluate hfar
  exact ⟨r', Option.bind_eq_some_iff.mpr ⟨threshold, hthreshold, hevaluate'⟩, hlevel⟩

/-- **Levels are exact and monotone.** What is reported is critical if a critical limit is reached, a
warning if it is not and a warning limit is, and nothing otherwise; and a value above that of an alert
from above, or below that of one from below, has an alert of at least its level. -/
theorem evaluate_exact {F : Type} [LE F] [DecidableLE F] [IsTrans F (· ≤ ·)] [Tenths F] (t : Threshold F)
    (name : String) :
    (∀ value, (∃ r, t.evaluate value name = some r ∧ r.level = .critical) ↔ t.Reached .critical value) ∧
    (∀ value, (∃ r, t.evaluate value name = some r ∧ r.level = .warning) ↔
      ¬ t.Reached .critical value ∧ t.Reached .warning value) ∧
    (∀ value, t.evaluate value name = none ↔ ¬ t.Reached .critical value ∧ ¬ t.Reached .warning value) ∧
    ∀ value value' r, t.evaluate value name = some r →
      (r.direction = .high → value ≤ value' → ∃ r', t.evaluate value' name = some r' ∧ r.level ≤ r'.level) ∧
      (r.direction = .low → value' ≤ value → ∃ r', t.evaluate value' name = some r' ∧ r.level ≤ r'.level) := by
  refine ⟨critical_iff t name, warning_iff t name, fun _ => evaluate_eq_none_iff, fun value value' r h => ⟨?_, ?_⟩⟩
  · intro hdirection hle
    refine evaluate_farther h ?_
    rw [hdirection]
    exact hle
  · intro hdirection hle
    refine evaluate_farther h ?_
    rw [hdirection]
    exact hle

/-- An engine at 118 °C, and at 112 °C, where both levels have a limit from above. -/
theorem evaluate_exact_coolant :
    let coolant : Threshold Extended :=
      ⟨none, none, none, some (.finite 105), none, some (.finite 115), "°C"⟩
    (∃ r, coolant.evaluate (.finite 118) "coolant" = some r ∧ r.level = .critical) ∧
      ∃ r, coolant.evaluate (.finite 112) "coolant" = some r ∧ r.level = .warning := by
  intro coolant
  obtain ⟨hcritical, hwarning, -, -⟩ := evaluate_exact coolant "coolant"
  refine ⟨(hcritical _).mpr ((reached_iff ..).mpr (.inl ⟨.finite 115, rfl, by decide +kernel⟩)),
    (hwarning _).mpr ⟨?_, (reached_iff ..).mpr (.inl ⟨.finite 105, rfl, by decide +kernel⟩)⟩⟩
  rw [reached_iff]
  rintro (⟨limit, hlimit, hle⟩ | ⟨limit, hlimit, -⟩)
  · cases hlimit
    exact absurd hle (by decide +kernel)
  · cases hlimit

end Obd2.Threshold

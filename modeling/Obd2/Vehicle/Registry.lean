import Obd2.Text.Lemmas
import Obd2.Vehicle
import Obd2.Vehicle.Vin

/-! The registry of specifications, and the one whose matcher accepts a VIN.

A matcher and the decoder let a text through by its bytes: seventeen and more. They then take its
characters by position and its front by bytes, which fails where a text has few characters of many
bytes (`vin_answered_iff`). -/
namespace Obd2

/-! ### Matchers -/

def VinMatcher.wmiOk (matcher : VinMatcher) (wmi : Text) : Bool :=
  matcher.wmiPrefixes.isEmpty || matcher.wmiPrefixes.any (Text.sameIgnoringAsciiCase wmi)

def VinMatcher.yearOk (matcher : VinMatcher) (vin : Text) : Bool :=
  match matcher.yearRange with
  | none => true
  | some (min, max) =>
    let (current, previous) := Vehicle.Vin.decodeYearCandidates vin
    let inRange (year : Option Int) : Bool := year.any fun y => (min.toNat : Int) ≤ y && y ≤ (max.toNat : Int)
    inRange current || inRange previous

/-- The eighth character is read whenever the matcher has digits, whatever its prefixes come to. -/
def VinMatcher.matches (matcher : VinMatcher) (vin : Text) : MayPanic Bool := do
  if (Text.bytes vin).length < 17 then return false
  else
    let wmi ← MayPanic.sliceTo vin 3
    let wmiOk := matcher.wmiOk wmi
    let digitOk ←
      match matcher.vin8thDigit with
      | none => pure true
      | some digits => (digits.contains ·) <$> MayPanic.index vin 7
    return wmiOk && digitOk && matcher.yearOk vin

/-! ### Registry -/

structure SpecRegistry where
  specs : List VehicleSpec

def specMatchesVin (spec : VehicleSpec) (vin : Text) : MayPanic Bool :=
  match spec.identity.vinMatch with
  | none => pure false
  | some matcher => matcher.matches vin

/-- The scan of `match_vin`, with what was found so far. -/
def matchVinFrom (vin : Text) (found : Option VehicleSpec) : List VehicleSpec → MayPanic (Option VehicleSpec)
  | [] => pure found
  | spec :: specs => do
    if ← specMatchesVin spec vin then
      if found.isSome then return none
      else matchVinFrom vin (some spec) specs
    else matchVinFrom vin found specs

/-- The one specification that matches, if no other does. -/
def SpecRegistry.matchVin (registry : SpecRegistry) (vin : Text) : MayPanic (Option VehicleSpec) :=
  matchVinFrom vin none registry.specs

/-! ### Texts with few characters -/

/-- Seventeen bytes and more, in fewer than eight characters. -/
def TooFewChars (vin : Text) : Prop := 17 ≤ (Text.bytes vin).length ∧ vin.length < 8

theorem length_bytes_le (t : Text) : (Text.bytes t).length ≤ 4 * t.length := by
  induction t with
  | nil => exact Nat.le_refl 0
  | cons c rest ih =>
    have hsize := Char.utf8Size_le_four c
    rw [Text.bytes_cons, List.length_append, String.length_utf8EncodeChar, List.length_cons]
    omega

/-- Seventeen bytes are at least five characters: the first three are there. -/
theorem sliceTo_three {vin : Text} (h : 17 ≤ (Text.bytes vin).length) :
    MayPanic.sliceTo vin 3 = some (vin.take 3) := by
  have hlength := length_bytes_le vin
  exact MayPanic.sliceTo_of_le (by omega)

theorem VinMatcher.matches_eq_none_iff {matcher : VinMatcher} {vin : Text} :
    matcher.matches vin = none ↔ TooFewChars vin ∧ matcher.vin8thDigit.isSome = true := by
  by_cases hlong : (Text.bytes vin).length < 17
  · simp [VinMatcher.matches, hlong, TooFewChars]
  · have hfew : TooFewChars vin ↔ MayPanic.index vin 7 = none := by
      rw [MayPanic.index_eq_none_iff, TooFewChars]
      omega
    rw [hfew]
    simp only [VinMatcher.matches, if_neg hlong, sliceTo_three (Nat.not_lt.mp hlong)]
    cases matcher.vin8thDigit with
    | none => simp
    | some digits =>
      cases MayPanic.index vin 7 with
      | none => simp
      | some c => simp

/-! ### The scan -/

/-- The specification's matcher has digits, so that it reads the eighth character. -/
def VehicleSpec.ReadsDigit (spec : VehicleSpec) : Prop :=
  ∃ matcher, spec.identity.vinMatch = some matcher ∧ matcher.vin8thDigit.isSome = true

/-- What a matcher asks besides the digit: the prefix and the year. -/
def VehicleSpec.restOk (vin : Text) (spec : VehicleSpec) : Bool :=
  spec.identity.vinMatch.any fun matcher => matcher.wmiOk (vin.take 3) && matcher.yearOk vin

theorem specMatchesVin_eq_none_iff {spec : VehicleSpec} {vin : Text} :
    specMatchesVin spec vin = none ↔ TooFewChars vin ∧ spec.ReadsDigit := by
  unfold specMatchesVin VehicleSpec.ReadsDigit
  cases spec.identity.vinMatch with
  | none => simp
  | some matcher => simp [VinMatcher.matches_eq_none_iff]

/-- A matcher without digits accepts by the prefix and the year. -/
theorem specMatchesVin_no_digit {spec : VehicleSpec} {vin : Text} (h : 17 ≤ (Text.bytes vin).length)
    (hdigit : ¬ spec.ReadsDigit) : specMatchesVin spec vin = some (spec.restOk vin) := by
  unfold specMatchesVin VehicleSpec.restOk
  cases hmatcher : spec.identity.vinMatch with
  | none => rfl
  | some matcher =>
    cases hdigits : matcher.vin8thDigit with
    | none => simp [VinMatcher.matches, Nat.not_lt.mpr h, sliceTo_three h, hdigits]
    | some digits => exact absurd ⟨matcher, hmatcher, by rw [hdigits]; rfl⟩ hdigit

/-- The scan comes to a matcher with digits before it has found `room` specifications. -/
def ReachesDigit (vin : Text) (room : Nat) (specs : List VehicleSpec) : Prop :=
  ∃ before spec after, specs = before ++ spec :: after ∧ spec.ReadsDigit ∧
    before.countP (VehicleSpec.restOk vin) < room

theorem reachesDigit_cons {vin : Text} {room : Nat} {spec : VehicleSpec} {specs : List VehicleSpec}
    (hdigit : ¬ spec.ReadsDigit) :
    ReachesDigit vin room (spec :: specs) ↔
      ReachesDigit vin (if spec.restOk vin then room - 1 else room) specs := by
  constructor
  · rintro ⟨before, other, after, heq, hreads, hcount⟩
    cases before with
    | nil =>
      obtain ⟨rfl, -⟩ := List.cons.inj heq
      exact absurd hreads hdigit
    | cons first before =>
      obtain ⟨rfl, rfl⟩ := List.cons.inj heq
      refine ⟨before, other, after, rfl, hreads, ?_⟩
      rw [List.countP_cons] at hcount
      split
      · rw [if_pos ‹_›] at hcount
        omega
      · rwa [if_neg ‹_›] at hcount
  · rintro ⟨before, other, after, rfl, hreads, hcount⟩
    refine ⟨spec :: before, other, after, rfl, hreads, ?_⟩
    rw [List.countP_cons]
    split at hcount
    · rw [if_pos ‹_›]
      omega
    · rwa [if_neg ‹_›]

theorem matchVinFrom_eq_none_iff {vin : Text} (h : TooFewChars vin) {found : Option VehicleSpec}
    {specs : List VehicleSpec} :
    matchVinFrom vin found specs = none ↔ ReachesDigit vin (if found.isSome then 1 else 2) specs := by
  induction specs generalizing found with
  | nil => simp [matchVinFrom, ReachesDigit]
  | cons spec specs ih =>
    by_cases hdigit : spec.ReadsDigit
    · have hnone := specMatchesVin_eq_none_iff.mpr ⟨h, hdigit⟩
      have hroom : 0 < if found.isSome then 1 else 2 := by split <;> decide
      have hreach : ReachesDigit vin (if found.isSome then 1 else 2) (spec :: specs) :=
        ⟨[], spec, specs, rfl, hdigit, hroom⟩
      simp [matchVinFrom, hnone, hreach]
    · rw [reachesDigit_cons hdigit]
      have hsome := specMatchesVin_no_digit h.1 hdigit
      cases hrest : spec.restOk vin with
      | false => simp [matchVinFrom, hsome, hrest, ih]
      | true =>
        cases found with
        | none => simp [matchVinFrom, hsome, hrest, ih]
        | some other => simp [matchVinFrom, hsome, hrest, ReachesDigit]

/-- Where no matcher panics the scan does not. -/
theorem matchVinFrom_ne_none {vin : Text} (h : ¬ TooFewChars vin) {found : Option VehicleSpec}
    {specs : List VehicleSpec} : matchVinFrom vin found specs ≠ none := by
  induction specs generalizing found with
  | nil => exact Option.some_ne_none _
  | cons spec specs ih =>
    cases hspec : specMatchesVin spec vin with
    | none => exact absurd (specMatchesVin_eq_none_iff.mp hspec).1 h
    | some accepted =>
      cases accepted with
      | false => simpa [matchVinFrom, hspec] using ih
      | true =>
        cases found with
        | none => simpa [matchVinFrom, hspec] using ih
        | some other => simp [matchVinFrom, hspec]

theorem SpecRegistry.matchVin_eq_none_iff {registry : SpecRegistry} {vin : Text} :
    registry.matchVin vin = none ↔ TooFewChars vin ∧ ReachesDigit vin 2 registry.specs := by
  by_cases h : TooFewChars vin
  · rw [SpecRegistry.matchVin, matchVinFrom_eq_none_iff h]
    simp [h]
  · simp [h, SpecRegistry.matchVin, matchVinFrom_ne_none h]

/-! ### No VIN is refused by a panic -/

/-- A matcher, a registry and the decoder each have an answer for a text exactly where the eighth
character that is read is there, and the slices end with a character. -/
theorem vin_answered_iff (upper : Char → Text) (matcher : VinMatcher) (registry : SpecRegistry) (vin : Text) :
    (matcher.matches vin ≠ none ↔ ¬ (TooFewChars vin ∧ matcher.vin8thDigit.isSome = true)) ∧
    (registry.matchVin vin ≠ none ↔ ¬ (TooFewChars vin ∧ ReachesDigit vin 2 registry.specs)) ∧
    (Vehicle.Vin.decode upper vin ≠ none ↔
      (17 ≤ (Text.bytes vin).length → ∃ front, MayPanic.textTo vin 3 = some front ∧
        Vehicle.Vin.Sliced (Vehicle.Vin.toUppercase upper front))) := by
  refine ⟨not_congr VinMatcher.matches_eq_none_iff, not_congr SpecRegistry.matchVin_eq_none_iff, ?_⟩
  by_cases hlong : 17 ≤ (Text.bytes vin).length
  · rw [Vehicle.Vin.decode_long hlong]
    exact ⟨fun h _ => h, fun h => h hlong⟩
  · exact ⟨fun _ h => absurd h hlong, fun _ => Vehicle.Vin.decode_short (Nat.not_le.mp hlong)⟩

/-- Five characters of four bytes each: the third byte is inside the first, and there is no eighth. -/
def fiveCars : Text := List.replicate 5 (Char.ofNat 0x1F697)

def dieselMatcher : VinMatcher := ⟨some ['2'], ["1GC".toList], none⟩

theorem fiveCars_panics :
    dieselMatcher.matches fiveCars = none ∧
    SpecRegistry.matchVin ⟨[{ identity := ⟨some dieselMatcher⟩, communication := ⟨[]⟩ }]⟩ fiveCars = none ∧
    ∀ upper : Char → Text, Vehicle.Vin.decode upper fiveCars = none := by
  refine ⟨by decide, by rfl, fun upper => ?_⟩
  rfl

end Obd2

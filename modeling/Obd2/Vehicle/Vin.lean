import Obd2.MayPanic

/-! Offline decoding of a VIN (`vehicle/vin.rs`).

A VIN is any text: nothing here has checked it but for its length, which counts bytes. The tenth
byte gives the model year, the first three bytes the manufacturer and the class. -/
namespace Obd2.Vehicle.Vin

structure DecodedVin where
  year : Option Int
  yearAlt : Option Int
  manufacturer : Option String
  truckClass : Option String
  deriving DecidableEq, Repr

/-! ### Model years -/

/-- The year of a character in the cycle from 2010 to 2039; thirty years before is the cycle before. -/
def modelYears : List (Char × Int) :=
  [('A', 2010), ('B', 2011), ('C', 2012), ('D', 2013), ('E', 2014), ('F', 2015), ('G', 2016),
   ('H', 2017), ('J', 2018), ('K', 2019), ('L', 2020), ('M', 2021), ('N', 2022), ('P', 2023),
   ('R', 2024), ('S', 2025), ('T', 2026), ('V', 2027), ('W', 2028), ('X', 2029), ('Y', 2030),
   ('1', 2031), ('2', 2032), ('3', 2033), ('4', 2034), ('5', 2035), ('6', 2036), ('7', 2037),
   ('8', 2038), ('9', 2039)]

/-- Both cycles' years of the tenth byte. -/
def decodeYearCandidates (vin : Text) : Option Int × Option Int :=
  match (Text.bytes vin)[9]? with
  | none => (none, none)
  | some ch =>
    match modelYears.find? fun row => row.1.toNat == ch.toNat with
    | some (_, year) => (some year, some (year - 30))
    | none => (none, none)

def decodeYear (vin : Text) : Option Int := (decodeYearCandidates vin).1

/-! ### Manufacturers and classes -/

def manufacturers : List (List String × String) :=
  [(["1GC", "1GT", "2GC"], "Chevrolet"),
   (["1G1"], "Chevrolet"),
   (["1G2"], "Pontiac"),
   (["1GK", "1GD"], "GMC"),
   (["1G6"], "Cadillac"),
   (["1GB"], "GM Bus/Incomplete"),
   (["1FA", "1FT", "1FM", "1FD", "3FA"], "Ford"),
   (["1LN"], "Lincoln"),
   (["2FA", "2FM", "2FT"], "Ford (Canada)"),
   (["1C3", "1C6", "2C3", "2C4"], "Chrysler"),
   (["1B3", "1B7", "3B7", "3D7"], "Dodge/Ram"),
   (["1C4", "1J4", "1J8"], "Jeep"),
   (["1TM", "4T1", "5TD", "JTD", "JTE", "JTN"], "Toyota"),
   (["2T1", "2T3"], "Toyota (Canada)"),
   (["1HG", "2HG", "JHM", "5FN", "5J6"], "Honda"),
   (["JH4", "19U"], "Acura"),
   (["1N4", "1N6", "3N1", "5N1", "JN8"], "Nissan"),
   (["JN1"], "Infiniti"),
   (["JF1", "JF2", "4S3", "4S4"], "Subaru"),
   (["JM1", "JM3", "3MZ"], "Mazda"),
   (["WBA", "WBS", "WBY", "5UX", "5UJ"], "BMW"),
   (["WMW", "WME"], "MINI"),
   (["WDB", "WDC", "WDD", "4JG", "55S"], "Mercedes-Benz"),
   (["WVW", "WV1", "WV2", "3VW"], "Volkswagen"),
   (["WAU", "WA1"], "Audi"),
   (["WP0", "WP1"], "Porsche"),
   (["KMH", "5NP", "5NM"], "Hyundai"),
   (["KNA", "KND", "5XY"], "Kia"),
   (["5YJ", "7SA"], "Tesla"),
   (["YV1", "YV4"], "Volvo")]

/-- The country of origin, by the first character. -/
def countries : List (List Char × String) :=
  [(['1', '4', '5'], "United States"), (['2'], "Canada"), (['3'], "Mexico"), (['J'], "Japan"),
   (['K'], "South Korea"), (['S'], "United Kingdom"), (['W'], "Germany"), (['Z'], "Italy"),
   (['Y'], "Sweden/Finland")]

def lookupWmi (rows : List (List String × String)) (wmi : Text) : Option String :=
  (rows.find? fun row => row.1.any fun code => code.toList == wmi).map (·.2)

def lookupCountry (first : UInt8) : Option String :=
  (countries.find? fun row => row.1.any fun c => c.toNat == first.toNat).map (·.2)

/-! The upper case of a character (`char::to_uppercase`) is a parameter. It has one to three
characters, and some have more bytes or fewer than the character itself. -/

section
variable (upper : Char → Text)

/-- `str::to_uppercase`. -/
def toUppercase (t : Text) : Text := t.flatMap upper

def decodeManufacturer (wmi : Text) : MayPanic (Option String) := do
  let wmiUpper := toUppercase upper wmi
  if 3 ≤ (Text.bytes wmiUpper).length then
    let wmi3 ← MayPanic.textTo wmiUpper 3
    match lookupWmi manufacturers wmi3 with
    | some manufacturer => return some manufacturer
    | none => return (Text.bytes wmiUpper).head?.bind lookupCountry
  else return none

/-- The heavy-duty trucks of GM, of which the eighth byte tells the fuel. -/
def gmTrucks : List String := ["1GC", "1GT", "2GC"]

def classes : List (List String × String) :=
  [(["1FT", "1FD", "3FT"], "gas-truck-v8"),
   (["3D7", "1B7", "3B7", "3C6"], "gas-truck-v8"),
   (["1FM", "5FN", "5J6", "5TD"], "suv"),
   (["1G1", "1HG", "2HG", "1FA", "3FA", "4T1"], "sedan"),
   (["WBA", "WBS", "WP0"], "performance")]

def detectTruckClass (vin : Text) : MayPanic (Option String) := do
  if (Text.bytes vin).length < 17 then return none
  else
    let wmi := toUppercase upper (← MayPanic.textTo vin 3)
    if gmTrucks.any fun code => code.toList == wmi then
      return (Text.bytes vin)[7]?.map fun eighth =>
        if ['1', '2', '5', '6'].any fun c => c.toNat == eighth.toNat then "diesel-truck" else "gas-truck-v8"
    else return lookupWmi classes wmi

def decode (vin : Text) : MayPanic DecodedVin := do
  let (year, yearAlt) := decodeYearCandidates vin
  let manufacturer ←
    if 17 ≤ (Text.bytes vin).length then decodeManufacturer upper (← MayPanic.textTo vin 3) else pure none
  let truckClass ← detectTruckClass upper vin
  return ⟨year, yearAlt, manufacturer, truckClass⟩

end

/-! ### Slices -/

/-- The slice `[..3]` that a text of three bytes and more is thought to have. -/
def Sliced (t : Text) : Prop := 3 ≤ (Text.bytes t).length → MayPanic.IsCharBoundary t 3

section
variable {upper : Char → Text}

theorem decodeManufacturer_eq_none_iff {wmi : Text} :
    decodeManufacturer upper wmi = none ↔ ¬ Sliced (toUppercase upper wmi) := by
  by_cases hlong : 3 ≤ (Text.bytes (toUppercase upper wmi)).length
  · have hsliced : Sliced (toUppercase upper wmi) ↔ MayPanic.IsCharBoundary (toUppercase upper wmi) 3 :=
      ⟨fun h => h hlong, fun h _ => h⟩
    rw [hsliced, ← MayPanic.textTo_eq_none_iff]
    simp only [decodeManufacturer, if_pos hlong]
    cases MayPanic.textTo (toUppercase upper wmi) 3 with
    | none => exact ⟨fun _ => rfl, fun _ => rfl⟩
    | some wmi3 =>
      simp only [Option.bind_eq_bind, Option.bind_some]
      cases lookupWmi manufacturers wmi3 with
      | none => simp
      | some manufacturer => simp
  · have hsliced : Sliced (toUppercase upper wmi) := fun h => absurd h hlong
    simp [decodeManufacturer, hlong, hsliced]

theorem detectTruckClass_short {vin : Text} (h : (Text.bytes vin).length < 17) :
    detectTruckClass upper vin = some none := by
  simp [detectTruckClass, h]

/-- The class is read of the whole front, in upper case, and of a byte that the length check covers. -/
theorem detectTruckClass_of_front (upper : Char → Text) {vin front : Text} (h : MayPanic.textTo vin 3 = some front) :
    detectTruckClass upper vin ≠ none := by
  unfold detectTruckClass
  rw [h]
  simp only [Option.bind_eq_bind, Option.bind_some]
  split
  · exact Option.some_ne_none _
  · split
    · exact Option.some_ne_none _
    · exact Option.some_ne_none _

theorem decode_short {vin : Text} (h : (Text.bytes vin).length < 17) : decode upper vin ≠ none := by
  have hlong : ¬ 17 ≤ (Text.bytes vin).length := Nat.not_le.mpr h
  simp [decode, hlong, detectTruckClass_short h]

theorem decode_long {vin : Text} (h : 17 ≤ (Text.bytes vin).length) :
    decode upper vin ≠ none ↔
      ∃ front, MayPanic.textTo vin 3 = some front ∧ Sliced (toUppercase upper front) := by
  cases hfront : MayPanic.textTo vin 3 with
  | none => simp [decode, h, hfront]
  | some front =>
    obtain ⟨truckClass, hclass⟩ := Option.ne_none_iff_exists'.mp (detectTruckClass_of_front upper hfront)
    have hdecode : decode upper vin = none ↔ decodeManufacturer upper front = none := by
      simp only [decode, if_pos h, hfront, hclass]
      cases hm : decodeManufacturer upper front with
      | none => simp [hm]
      | some manufacturer => simp [hm]
    rw [Ne, hdecode, decodeManufacturer_eq_none_iff, not_not]
    exact ⟨fun hsliced => ⟨front, rfl, hsliced⟩, fun ⟨_, heq, hsliced⟩ => Option.some.inj heq ▸ hsliced⟩

end

end Obd2.Vehicle.Vin

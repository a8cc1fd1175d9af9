import Obd2.Error
import Obd2.Vehicle.Registry

/-! Specifications loaded into a registry, and what becomes of its answer for a VIN.

A load puts specifications after the ones that are there: of a file one or none, of a directory one
for each file in it that can be read. What the files have in them is a parameter, and may be another
thing at each load.

A specification that accepts the VIN alone stays the answer until a second one accepts it
(`stableUnderLoading_iff`). Only a text with few characters of many bytes has no such answer: there
a matcher with digits may come next, which the scan does not survive. -/
namespace Obd2

/-! ### Loading -/

/-- Paths are lists of components. -/
structure SpecFiles where
  /-- `loader::load_spec_from_file`. -/
  loadSpecFromFile : List Text → Except Obd2Error VehicleSpec
  /-- The names `std::fs::read_dir` yields, with `none` for an entry that cannot be read. -/
  readDir : List Text → Option (List (Option Text))

/-- `Path::extension` of a file with the name: what comes after the last dot, unless the dot is first. -/
def extension (name : Text) : Option Text :=
  if name = "..".toList then none
  else
    match name.reverse.dropWhile (· != '.') with
    | [] | [_] => none
    | _ => some (name.reverse.takeWhile (· != '.')).reverse

def SpecRegistry.loadFile (files : SpecFiles) (registry : SpecRegistry) (path : List Text) :
    Except Obd2Error Unit × SpecRegistry :=
  match files.loadSpecFromFile path with
  | .error e => (.error e, registry)
  | .ok spec => (.ok (), ⟨registry.specs ++ [spec]⟩)

/-- The loop over the entries of `dir`, with the files loaded so far. -/
def SpecRegistry.loadEntries (files : SpecFiles) (dir : List Text) (registry : SpecRegistry) (count : Nat) :
    List (Option Text) → Nat × SpecRegistry
  | [] => (count, registry)
  | none :: entries => loadEntries files dir registry count entries
  | some name :: entries =>
    if extension name = some "yaml".toList ∨ extension name = some "yml".toList then
      match registry.loadFile files (dir ++ [name]) with
      | (.ok _, registry) => loadEntries files dir registry (count + 1) entries
      | (.error _, registry) => loadEntries files dir registry count entries
    else loadEntries files dir registry count entries

def SpecRegistry.loadDirectory (files : SpecFiles) (registry : SpecRegistry) (dir : List Text) :
    Except Obd2Error Nat × SpecRegistry :=
  match files.readDir dir with
  | none => (.ok 0, registry)
  | some entries =>
    let (count, registry) := registry.loadEntries files dir 0 entries
    (.ok count, registry)

/-- A load of a file or a directory, with the files as they are then. -/
inductive Load where
  | file (files : SpecFiles) (path : List Text)
  | directory (files : SpecFiles) (dir : List Text)

def SpecRegistry.load (registry : SpecRegistry) : Load → SpecRegistry
  | .file files path => (registry.loadFile files path).2
  | .directory files dir => (registry.loadDirectory files dir).2

def SpecRegistry.loadAll (registry : SpecRegistry) (loads : List Load) : SpecRegistry :=
  loads.foldl SpecRegistry.load registry

/-- All of the specifications that match. -/
def SpecRegistry.matchVinAll (registry : SpecRegistry) (vin : Text) : MayPanic (List VehicleSpec) :=
  MayPanic.filter (specMatchesVin · vin) registry.specs

/-! ### What a load adds -/

theorem loadFile_extends (files : SpecFiles) (registry : SpecRegistry) (path : List Text) :
    registry.specs <+: (registry.loadFile files path).2.specs := by
  unfold SpecRegistry.loadFile
  cases files.loadSpecFromFile path with
  | error e => exact List.prefix_rfl
  | ok spec => exact List.prefix_append _ _

theorem loadEntries_extends (files : SpecFiles) (dir : List Text) (registry : SpecRegistry) (count : Nat)
    (entries : List (Option Text)) :
    registry.specs <+: (registry.loadEntries files dir count entries).2.specs := by
  induction entries generalizing registry count with
  | nil => exact List.prefix_rfl
  | cons entry entries ih =>
    cases entry with
    | none => exact ih registry count
    | some name =>
      rw [SpecRegistry.loadEntries]
      split
      · have hfile := loadFile_extends files registry (dir ++ [name])
        split
        · next later hlater =>
          rw [hlater] at hfile
          exact hfile.trans (ih later (count + 1))
        · next later hlater =>
          rw [hlater] at hfile
          exact hfile.trans (ih later count)
      · exact ih registry count

theorem load_extends (registry : SpecRegistry) (load : Load) : registry.specs <+: (registry.load load).specs := by
  cases load with
  | file files path => exact loadFile_extends files registry path
  | directory files dir =>
    rw [SpecRegistry.load, SpecRegistry.loadDirectory]
    cases files.readDir dir with
    | none => exact List.prefix_rfl
    | some entries => exact loadEntries_extends files dir registry 0 entries

/-- No load takes a specification out, or puts one before another that is there. -/
theorem loadAll_extends (registry : SpecRegistry) (loads : List Load) :
    registry.specs <+: (registry.loadAll loads).specs := by
  induction loads generalizing registry with
  | nil => exact List.prefix_rfl
  | cons load loads ih => exact (load_extends registry load).trans (ih (registry.load load))

/-! ### The scan and the filter -/

def accepts (vin : Text) (spec : VehicleSpec) : Bool := specMatchesVin spec vin == some true

/-- `spec` is in the list once, and nothing else there accepts the VIN. -/
def OnlyAccepted (vin : Text) (specs : List VehicleSpec) (spec : VehicleSpec) : Prop :=
  ∃ before after, specs = before ++ spec :: after ∧ accepts vin spec = true ∧
    ∀ other ∈ before ++ after, accepts vin other = false

theorem onlyAccepted_iff_filter {vin : Text} {specs : List VehicleSpec} {spec : VehicleSpec} :
    OnlyAccepted vin specs spec ↔ specs.filter (accepts vin) = [spec] := by
  rw [List.filter_eq_cons_iff]
  constructor
  · rintro ⟨before, after, rfl, hspec, hothers⟩
    refine ⟨before, after, rfl, ?_, hspec, ?_⟩
    · intro other hother
      rw [hothers other (List.mem_append_left _ hother)]
      exact Bool.false_ne_true
    · rw [List.filter_eq_nil_iff]
      intro other hother
      rw [hothers other (List.mem_append_right _ hother)]
      exact Bool.false_ne_true
  · rintro ⟨before, after, rfl, hbefore, hspec, hafter⟩
    refine ⟨before, after, rfl, hspec, ?_⟩
    intro other hother
    rcases List.mem_append.mp hother with hother | hother
    · exact Bool.eq_false_iff.mpr (hbefore other hother)
    · exact Bool.eq_false_iff.mpr (List.filter_eq_nil_iff.mp hafter other hother)

/-- The one element of a list of one. -/
def single : List VehicleSpec → Option VehicleSpec
  | [spec] => some spec
  | _ => none

theorem single_eq_some_iff {specs : List VehicleSpec} {spec : VehicleSpec} :
    single specs = some spec ↔ specs = [spec] := by
  cases specs with
  | nil => simp [single]
  | cons first rest =>
    cases rest with
    | nil => simp [single]
    | cons second rest => simp [single]

/-- A scan that has an answer passes a specification over, finds its first one, or ends at the second. -/
theorem matchVinFrom_cons {vin : Text} {found : Option VehicleSpec} {first : VehicleSpec}
    {specs : List VehicleSpec} {answer : Option VehicleSpec}
    (h : matchVinFrom vin found (first :: specs) = some answer) :
    (specMatchesVin first vin = some false ∧ matchVinFrom vin found specs = some answer) ∨
    (specMatchesVin first vin = some true ∧ found = none ∧ matchVinFrom vin (some first) specs = some answer) ∨
    (specMatchesVin first vin = some true ∧ found ≠ none ∧ answer = none) := by
  cases hfirst : specMatchesVin first vin with
  | none => simp [matchVinFrom, hfirst] at h
  | some matched =>
    simp only [matchVinFrom, hfirst, Option.bind_eq_bind, Option.bind_some] at h
    cases matched with
    | false => exact .inl ⟨rfl, h⟩
    | true =>
      cases found with
      | none => exact .inr (.inl ⟨rfl, rfl, h⟩)
      | some other =>
        cases h
        exact .inr (.inr ⟨rfl, Option.some_ne_none other, rfl⟩)

/-- The scan counts what the filter collects, as long as no test panics. -/
theorem matchVinFrom_of_filter {vin : Text} (found : Option VehicleSpec) {specs accepted : List VehicleSpec}
    (h : MayPanic.filter (specMatchesVin · vin) specs = some accepted) :
    matchVinFrom vin found specs = some (single (found.toList ++ accepted)) := by
  induction specs generalizing found accepted with
  | nil =>
    cases h
    cases found with
    | none => rfl
    | some other => rfl
  | cons spec specs ih =>
    cases hspec : specMatchesVin spec vin with
    | none => simp [MayPanic.filter, hspec] at h
    | some matched =>
      simp only [MayPanic.filter, hspec, Option.bind_eq_bind, Option.bind_some] at h
      cases matched with
      | false => simpa [matchVinFrom, hspec] using ih found h
      | true =>
        obtain ⟨more, hmore, rfl⟩ := Option.map_eq_some_iff.mp h
        cases found with
        | none => simpa [matchVinFrom, hspec] using ih (some spec) hmore
        | some other => simp [matchVinFrom, hspec, single]

/-- A scan that ends with a specification has asked every matcher. -/
theorem filter_of_matchVinFrom {vin : Text} {found : Option VehicleSpec} {specs : List VehicleSpec}
    {spec : VehicleSpec} (h : matchVinFrom vin found specs = some (some spec)) :
    ∃ accepted, MayPanic.filter (specMatchesVin · vin) specs = some accepted := by
  induction specs generalizing found with
  | nil => exact ⟨[], rfl⟩
  | cons first specs ih =>
    rcases matchVinFrom_cons h with ⟨hfirst, hrest⟩ | ⟨hfirst, -, hrest⟩ | ⟨-, -, hnone⟩
    · obtain ⟨accepted, haccepted⟩ := ih hrest
      exact ⟨accepted, by simp [MayPanic.filter, hfirst, haccepted]⟩
    · obtain ⟨accepted, haccepted⟩ := ih hrest
      exact ⟨first :: accepted, by simp [MayPanic.filter, hfirst, haccepted]⟩
    · cases hnone

/-- The one answer is the one of all the answers. -/
theorem matchVin_eq_some_iff {registry : SpecRegistry} {vin : Text} {spec : VehicleSpec} :
    registry.matchVin vin = some (some spec) ↔ registry.matchVinAll vin = some [spec] := by
  constructor
  · intro h
    obtain ⟨accepted, haccepted⟩ := filter_of_matchVinFrom h
    have hsingle := (matchVinFrom_of_filter none haccepted).symm.trans h
    obtain rfl := single_eq_some_iff.mp (Option.some.inj hsingle)
    exact haccepted
  · intro h
    exact matchVinFrom_of_filter none h

/-- An answer is the one specification that accepts; no matcher has panicked then. -/
theorem matchVin_only {registry : SpecRegistry} {vin : Text} {spec : VehicleSpec} :
    registry.matchVin vin = some (some spec) ↔
      (∀ other ∈ registry.specs, specMatchesVin other vin ≠ none) ∧ OnlyAccepted vin registry.specs spec := by
  rw [matchVin_eq_some_iff, onlyAccepted_iff_filter, SpecRegistry.matchVinAll, MayPanic.filter_eq_some_iff,
    eq_comm (a := [spec])]
  rfl

/-! ### What more specifications change -/

theorem matchVinFrom_rejected {vin : Text} {found : Option VehicleSpec} {specs more : List VehicleSpec}
    (h : ∀ spec ∈ more, specMatchesVin spec vin = some false) :
    matchVinFrom vin found (specs ++ more) = matchVinFrom vin found specs := by
  induction specs generalizing found with
  | nil =>
    induction more with
    | nil => rfl
    | cons spec more ih =>
      have hrest := ih fun other hother => h other (List.mem_cons_of_mem spec hother)
      simpa [matchVinFrom, h spec List.mem_cons_self] using hrest
  | cons spec specs ih => simp only [List.cons_append, matchVinFrom, ih]

/-- A scan that has found one specification goes on with it. -/
theorem matchVinFrom_append {vin : Text} {found : Option VehicleSpec} {specs : List VehicleSpec}
    {spec : VehicleSpec} (h : matchVinFrom vin found specs = some (some spec)) (more : List VehicleSpec) :
    matchVinFrom vin found (specs ++ more) = matchVinFrom vin (some spec) more := by
  induction specs generalizing found with
  | nil =>
    cases h
    rfl
  | cons first specs ih =>
    rcases matchVinFrom_cons h with ⟨hfirst, hrest⟩ | ⟨hfirst, rfl, hrest⟩ | ⟨-, -, hnone⟩
    · simpa [matchVinFrom, hfirst] using ih hrest
    · simpa [matchVinFrom, hfirst] using ih hrest
    · cases hnone

/-- What a scan has found is what it ends with, or it ends with none. -/
theorem matchVinFrom_found {vin : Text} {spec : VehicleSpec} {more : List VehicleSpec}
    {answer : Option VehicleSpec} (h : matchVinFrom vin (some spec) more = some answer) :
    answer = some spec ∨ answer = none := by
  induction more with
  | nil =>
    cases h
    exact .inl rfl
  | cons first more ih =>
    rcases matchVinFrom_cons h with ⟨-, hrest⟩ | ⟨-, hnone, -⟩ | ⟨-, -, hnone⟩
    · exact ih hrest
    · cases hnone
    · exact .inr hnone

/-! ### Answers over whole runs of loads -/

/-- The answer for a VIN is the one specification that accepts it. What is loaded later leaves it alone
if it rejects the VIN, and may at most make it ambiguous. -/
structure StableUnderLoading (registry : SpecRegistry) (vin : Text) : Prop where
  only : ∀ spec, registry.matchVin vin = some (some spec) ↔ OnlyAccepted vin registry.specs spec
  rejected : ∀ loads more, (registry.loadAll loads).specs = registry.specs ++ more →
    (∀ spec ∈ more, specMatchesVin spec vin = some false) →
    (registry.loadAll loads).matchVin vin = registry.matchVin vin
  kept : ∀ loads spec, registry.matchVin vin = some (some spec) →
    (registry.loadAll loads).matchVin vin = some (some spec) ∨ (registry.loadAll loads).matchVin vin = some none

theorem matchVin_rejected {registry later : SpecRegistry} {vin : Text} {more : List VehicleSpec}
    (hlater : later.specs = registry.specs ++ more)
    (hmore : ∀ spec ∈ more, specMatchesVin spec vin = some false) :
    later.matchVin vin = registry.matchVin vin := by
  rw [SpecRegistry.matchVin, hlater, matchVinFrom_rejected hmore]
  rfl

/-- Later the answer is the same, none or a panic. -/
theorem matchVin_kept {registry later : SpecRegistry} {vin : Text} {spec : VehicleSpec}
    (hlater : registry.specs <+: later.specs) (h : registry.matchVin vin = some (some spec)) :
    later.matchVin vin = some (some spec) ∨ later.matchVin vin = some none ∨ later.matchVin vin = none := by
  obtain ⟨more, hmore⟩ := hlater
  cases hlater : later.matchVin vin with
  | none => exact .inr (.inr rfl)
  | some answer =>
    rw [SpecRegistry.matchVin, ← hmore, matchVinFrom_append h] at hlater
    rcases matchVinFrom_found hlater with rfl | rfl
    · exact .inl rfl
    · exact .inr (.inl rfl)

/-- A matcher without a prefix and a year, which asks for the digit alone. -/
def digitSpec : VehicleSpec := { identity := ⟨some ⟨some [], [], none⟩⟩, communication := ⟨[]⟩ }

/-- The file of `digitSpec`, whatever the path. -/
def digitFiles : SpecFiles := ⟨fun _ => .ok digitSpec, fun _ => none⟩

theorem digitSpec_panics {vin : Text} (h : TooFewChars vin) : specMatchesVin digitSpec vin = none :=
  specMatchesVin_eq_none_iff.mpr ⟨h, _, rfl, rfl⟩

/-- **Where the answer is stable under loading**: on every text, but for those of few characters and
many bytes that one specification accepts alone. -/
theorem stableUnderLoading_iff (registry : SpecRegistry) (vin : Text) :
    StableUnderLoading registry vin ↔ (TooFewChars vin → ¬ ∃ spec, OnlyAccepted vin registry.specs spec) := by
  constructor
  · rintro ⟨honly, -, hkept⟩ hfew ⟨spec, hspec⟩
    have hanswer := (honly spec).mpr hspec
    -- the answer is there, and the next load makes the scan panic
    have hpanics : (registry.loadAll [.file digitFiles []]).matchVin vin = none := by
      show matchVinFrom vin none (registry.specs ++ [digitSpec]) = none
      rw [matchVinFrom_append hanswer, matchVinFrom, digitSpec_panics hfew]
      rfl
    rcases hkept [.file digitFiles []] spec hanswer with hsame | hnone
    · rw [hpanics] at hsame
      cases hsame
    · rw [hpanics] at hnone
      cases hnone
  · intro h
    refine ⟨?_, fun loads more hmore hrejected => matchVin_rejected hmore hrejected, ?_⟩
    · intro spec
      rw [matchVin_only]
      refine ⟨And.right, fun hspec => ⟨?_, hspec⟩⟩
      intro other _ hpanics
      exact h (specMatchesVin_eq_none_iff.mp hpanics).1 ⟨spec, hspec⟩
    · intro loads spec hanswer
      rcases matchVin_kept (loadAll_extends registry loads) hanswer with hsame | hnone | hpanics
      · exact .inl hsame
      · exact .inr hnone
      · have hfew := (SpecRegistry.matchVin_eq_none_iff.mp hpanics).1
        exact absurd ⟨spec, (matchVin_only.mp hanswer).2⟩ (h hfew)

/-- A matcher that asks for nothing. -/
def anyCar : VehicleSpec := { identity := ⟨some ⟨none, [], none⟩⟩, communication := ⟨[]⟩ }

/-- Only the first specification accepts the five characters, and the second has digits. -/
theorem fiveCars_unstable :
    OnlyAccepted fiveCars [anyCar, digitSpec] anyCar ∧
    SpecRegistry.matchVin ⟨[anyCar, digitSpec]⟩ fiveCars = none ∧
    SpecRegistry.matchVin ⟨[anyCar]⟩ fiveCars = some (some anyCar) ∧
    ¬ StableUnderLoading ⟨[anyCar, digitSpec]⟩ fiveCars := by
  have honly : OnlyAccepted fiveCars [anyCar, digitSpec] anyCar := by
    refine ⟨[], [digitSpec], rfl, by decide, ?_⟩
    intro other hother
    obtain rfl := List.mem_singleton.mp hother
    decide
  have hpanics : SpecRegistry.matchVin ⟨[anyCar, digitSpec]⟩ fiveCars = none := by rfl
  refine ⟨honly, hpanics, by rfl, ?_⟩
  intro hstable
  have hanswer := (hstable.only anyCar).mpr honly
  rw [hpanics] at hanswer
  cases hanswer

end Obd2

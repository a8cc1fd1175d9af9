import Obd2.Firsts
import Obd2.Vehicle

/-! Diagnostic intelligence: what is known of trouble codes besides their bytes.

Codes are told apart by what enrichment leaves alone, so it does not matter whether a list is enriched
or deduplicated first (`dedup_enrich`). -/
namespace Obd2.Diagnostics

/-- The description, severity and notes of the specification, or else a universal description. -/
def enrichDtc (spec : Option VehicleSpec) (dtc : Dtc) : Dtc :=
  match (spec.bind (·.dtcLibrary)).bind (·.lookup dtc.code) with
  | some entry => {dtc with
      description := some entry.meaning, severity := some entry.severity, notes := entry.notes}
  | none => if dtc.description.isNone then {dtc with description := universalDtcDescription dtc.code} else dtc

def enrichDtcs (spec : Option VehicleSpec) (dtcs : List Dtc) : List Dtc := dtcs.map (enrichDtc spec)

/-- By code, source module and lifecycle status. -/
def dedupKey (dtc : Dtc) : String × Option String × DtcStatus := (dtc.code, dtc.sourceModule, dtc.status)

/-- Without the codes that were seen before. -/
def dedupDtcsFrom (seen : List (String × Option String × DtcStatus)) : List Dtc → List Dtc
  | [] => []
  | dtc :: rest =>
    if seen.contains (dedupKey dtc) then dedupDtcsFrom seen rest
    else dtc :: dedupDtcsFrom (dedupKey dtc :: seen) rest

def dedupDtcs (dtcs : List Dtc) : List Dtc := dedupDtcsFrom [] dtcs

/-! ### Enrichment -/

theorem dedupKey_enrichDtc (spec : Option VehicleSpec) (dtc : Dtc) : dedupKey (enrichDtc spec dtc) = dedupKey dtc := by
  unfold enrichDtc
  split
  · rfl
  · split <;> rfl

/-- The entry of the specification is the same the second time, and a universal description is not
looked for twice. -/
theorem enrichDtc_enrichDtc (spec : Option VehicleSpec) (dtc : Dtc) :
    enrichDtc spec (enrichDtc spec dtc) = enrichDtc spec dtc := by
  have hcode : (enrichDtc spec dtc).code = dtc.code := congrArg Prod.fst (dedupKey_enrichDtc spec dtc)
  cases hentry : (spec.bind (·.dtcLibrary)).bind (·.lookup dtc.code) with
  | some entry =>
    rw [enrichDtc, hcode, hentry, enrichDtc, hentry]
  | none =>
    rw [enrichDtc, hcode, hentry, enrichDtc, hentry]
    cases hdescription : dtc.description with
    | some description => simp [hdescription]
    | none =>
      cases universalDtcDescription dtc.code with
      | some description => simp
      | none => simp

/-! ### Deduplication -/

theorem dedupDtcsFrom_eq (seen : List (String × Option String × DtcStatus)) (dtcs : List Dtc) :
    dedupDtcsFrom seen dtcs = Firsts.retainNew dedupKey seen dtcs := by
  induction dtcs generalizing seen with
  | nil => rfl
  | cons dtc rest ih => rw [dedupDtcsFrom, Firsts.retainNew, ih, ih]

/-- **Deduplication and enrichment commute.** The first keeps the first occurrence of each code, source
module and status, the second leaves the order and these; each does nothing the second time. -/
theorem dedup_enrich (spec : Option VehicleSpec) (dtcs : List Dtc) :
    dedupDtcs dtcs = Firsts.firstOccurrences dedupKey dtcs ∧
    dedupDtcs (dedupDtcs dtcs) = dedupDtcs dtcs ∧
    (enrichDtcs spec dtcs).map dedupKey = dtcs.map dedupKey ∧
    enrichDtcs spec (enrichDtcs spec dtcs) = enrichDtcs spec dtcs ∧
    dedupDtcs (enrichDtcs spec dtcs) = enrichDtcs spec (dedupDtcs dtcs) := by
  refine ⟨?_, ?_, ?_, ?_, ?_⟩
  · rw [dedupDtcs, dedupDtcsFrom_eq, Firsts.retainNew_nil]
  · rw [dedupDtcs, dedupDtcs, dedupDtcsFrom_eq, dedupDtcsFrom_eq, Firsts.retainNew_retainNew]
  · rw [enrichDtcs, List.map_map]
    exact List.map_congr_left fun dtc _ => dedupKey_enrichDtc spec dtc
  · rw [enrichDtcs, enrichDtcs, List.map_map]
    exact List.map_congr_left fun dtc _ => enrichDtc_enrichDtc spec dtc
  · rw [dedupDtcs, dedupDtcs, dedupDtcsFrom_eq, dedupDtcsFrom_eq, enrichDtcs, enrichDtcs,
      Firsts.retainNew_map (dedupKey_enrichDtc spec)]

end Obd2.Diagnostics

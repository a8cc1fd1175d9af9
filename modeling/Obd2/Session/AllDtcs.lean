import Mathlib.Data.List.Sort
import Obd2.Session.Composed
import Obd2.Session.Diagnostics

/-! Reading all trouble codes.

The codes of the vehicle are read class by class, then those of each module on the active bus. What
a read finds is kept whatever the others come to: the result is what all reads have found, without
repetitions and enriched, and only the first read can fail it (`readAllDtcs_loses_nothing`). -/
namespace Obd2.Session
open Async Diagnostics

section Model
variable {A : Type} [Adapter A]

/-- What a read has found: nothing, if it failed. -/
def found (result : Except Obd2Error (List Dtc)) : List Dtc := result.toOption.getD []

/-- The codes of one more read, if it succeeds. -/
def appendRead : List Dtc → Op A (List Dtc) → Op A (List Dtc) := collect fun all result => all ++ found result

/-- The reads of a module: stored, pending and permanent codes. -/
def moduleReads (module : ModuleId) : List (Op A (List Dtc)) :=
  [(0x03, .stored), (0x07, .pending), (0x0A, .permanent)].map fun (serviceId, status) =>
    readDtcsWithTarget serviceId status (.module module.id) (some module)

def appendModuleDtcs (all : List Dtc) (module : ModuleId) : Op A (List Dtc) :=
  (moduleReads module).foldlM appendRead all

omit [Adapter A] in
/-- The modules of the profile that are on the active bus; with none active, all of them. -/
def onActiveBus (s : Session A) : List ModuleId :=
  match s.discovery with
  | none => []
  | some discovery =>
    discovery.modules.filterMap fun (id, resolved) =>
      match discovery.activeBus with
      | some activeBus => if resolved.bus ≠ activeBus.id then none else some id
      | none => some id

/-- The order of modules by their identifiers. -/
def sortsBefore (a b : ModuleId) : Prop := a.id ≤ b.id

instance : DecidableRel sortsBefore := fun a b => inferInstanceAs (Decidable (a.id ≤ b.id))
instance : Std.Total sortsBefore := ⟨fun a b => String.le_total a.id b.id⟩
instance : IsTrans ModuleId sortsBefore := ⟨fun _ _ _ => String.le_trans⟩

def dtcScanModules (s : Session A) : List ModuleId := (onActiveBus s).insertionSort sortsBefore

/-- Read and enrich all standard DTC classes. -/
def readAllDtcs : Op A (List Dtc) := do
  ensureInitialized
  let all ←
    match ← readDtcs.attempt with
    | .ok stored => pure stored
    | .error .noData => pure []
    | .error e => .throw e
  let all ← appendRead all readPendingDtcs
  let all ← appendRead all readPermanentDtcs
  let s ← .get
  let all ← (dtcScanModules s).foldlM appendModuleDtcs all
  let s ← .get
  pure (enrichDtcs s.spec (dedupDtcs all))

end Model

/-! ### Scans -/

section Scan
variable {A : Type} [Adapter A]

/-- The modules of a scan: those on the active bus, sorted by their identifiers. -/
structure ScanOrder (s : Session A) (modules : List ModuleId) : Prop where
  onBus : modules.Perm (onActiveBus s)
  sorted : modules.Pairwise sortsBefore

/-- All reads, each to its end: of the vehicle, then of the modules that the profile has by then. -/
inductive Scanned (s : Session A) : List (Except Obd2Error (List Dtc)) → Session A → Prop where
  | reads {broadcast scanned : List (Except Obd2Error (List Dtc))} {modules : List ModuleId} {t u : Session A} :
      InTurn [readDtcs, readPendingDtcs, readPermanentDtcs] s broadcast t → ScanOrder t modules →
      InTurn (modules.flatMap moduleReads) t scanned u → Scanned s (broadcast ++ scanned) u

omit [Adapter A] in
theorem scanOrder_dtcScanModules (s : Session A) : ScanOrder s (dtcScanModules s) :=
  ⟨List.perm_insertionSort .., List.pairwise_insertionSort ..⟩

omit [Adapter A] in
/-- There is one such order. -/
theorem ScanOrder.eq_dtcScanModules {s : Session A} {modules : List ModuleId} (h : ScanOrder s modules) :
    modules = dtcScanModules s := by
  have hcode := scanOrder_dtcScanModules s
  refine (h.onBus.trans hcode.onBus.symm).eq_of_pairwise (fun a b _ _ hab hba => ?_) h.sorted hcode.sorted
  cases a
  cases b
  exact congrArg ModuleId.mk (String.le_antisymm hab hba)

/-! ### Reads -/

variable {s t u : Session A} {all : List Dtc} {results : List (Except Obd2Error (List Dtc))}

omit [Adapter A] in
theorem foldl_found (results : List (Except Obd2Error (List Dtc))) (all : List Dtc) :
    results.foldl (fun all result => all ++ found result) all = all ++ results.flatMap found := by
  induction results generalizing all with
  | nil => exact (List.append_nil all).symm
  | cons result results ih => rw [List.foldl_cons, ih, List.flatMap_cons, List.append_assoc]

omit [Adapter A] in
theorem run_appendReads {reads : List (Op A (List Dtc))} (h : InTurn reads s results u) (all : List Dtc) :
    (reads.foldlM appendRead all).run s = (.ok (all ++ results.flatMap found), u) := by
  rw [← foldl_found]
  exact h.run_foldlM_collect _ all

omit [Adapter A] in
theorem appendReads_or_dropped (reads : List (Op A (List Dtc))) (s : Session A) (all : List Dtc) :
    (∃ results u, InTurn reads s results u) ∨ ((reads.foldlM appendRead all).run s).1 = .dropped :=
  InTurn.or_dropped reads s _ all

/-- Module by module is read by read. -/
theorem foldlM_appendModuleDtcs (modules : List ModuleId) (all : List Dtc) :
    modules.foldlM appendModuleDtcs all = ((modules.flatMap moduleReads).foldlM appendRead all : Op A (List Dtc)) := by
  induction modules generalizing all with
  | nil => rfl
  | cons module modules ih =>
    rw [List.foldlM_cons, List.flatMap_cons, List.foldlM_append]
    exact congrArg (appendModuleDtcs all module >>= ·) (funext ih)

/-! ### The vehicle stays the same -/

theorem readDtcsWithTarget_sameVehicle (serviceId : UInt8) (status : DtcStatus) (target : Target)
    (sourceModule : Option ModuleId) :
    Across SameVehicle (readDtcsWithTarget serviceId status target sourceModule : Op A (List Dtc)) := by
  refine Across.bind .trans (sendRequest_sameVehicle _) fun data => ?_
  cases sourceModule with
  | none => exact Across.pure .refl _
  | some module => exact Across.pure .refl _

theorem broadcastReads_sameVehicle :
    ∀ read ∈ ([readDtcs, readPendingDtcs, readPermanentDtcs] : List (Op A (List Dtc))), Across SameVehicle read := by
  have hread (serviceId : UInt8) (status : DtcStatus) : Across SameVehicle
      (ensureInitialized >>= fun _ => readDtcsWithTarget serviceId status .broadcast none : Op A (List Dtc)) :=
    Across.bind .trans (fun s => (keptByExchanges_known.ensureInitialized s).profile) fun _ =>
      readDtcsWithTarget_sameVehicle _ _ _ _
  simp only [List.forall_mem_cons, List.not_mem_nil, false_implies, implies_true, and_true]
  exact ⟨hread 0x03 .stored, hread 0x07 .pending, hread 0x0A .permanent⟩

theorem moduleReads_sameVehicle (modules : List ModuleId) :
    ∀ read ∈ (modules.flatMap moduleReads : List (Op A (List Dtc))), Across SameVehicle read := by
  intro read hread
  obtain ⟨module, -, hread⟩ := List.mem_flatMap.mp hread
  obtain ⟨⟨serviceId, status⟩, -, rfl⟩ := List.mem_map.mp hread
  exact readDtcsWithTarget_sameVehicle _ _ _ _

theorem Scanned.spec_eq (h : Scanned s results u) : u.spec = s.spec := by
  cases h with
  | reads hbroadcast _ hscanned =>
    have hvehicle : SameVehicle s u := (Across.inTurn .refl .trans broadcastReads_sameVehicle hbroadcast).trans
      (Across.inTurn .refl .trans (moduleReads_sameVehicle _) hscanned)
    exact congrArg (·.bind (·.spec)) hvehicle

/-! ### The scan -/

/-- The reads of the modules, and what is made of all that was found. -/
def scanModules (all : List Dtc) : Op A (List Dtc) := do
  let s ← .get
  let all ← (dtcScanModules s).foldlM appendModuleDtcs all
  let s ← .get
  pure (enrichDtcs s.spec (dedupDtcs all))

theorem run_scanModules {modules : List ModuleId} (horder : ScanOrder s modules)
    (h : InTurn (modules.flatMap moduleReads) s results u) (all : List Dtc) :
    (scanModules all).run s = (.ok (enrichDtcs u.spec (dedupDtcs (all ++ results.flatMap found))), u) := by
  rw [scanModules, run_bind_ok (run_get s), foldlM_appendModuleDtcs, ← horder.eq_dtcScanModules,
    run_bind_ok (run_appendReads h all)]
  rfl

theorem scanModules_or_dropped (s : Session A) (all : List Dtc) :
    (∃ results u, InTurn ((dtcScanModules s).flatMap moduleReads) s results u) ∨
      ((scanModules all).run s).1 = .dropped := by
  rcases appendReads_or_dropped ((dtcScanModules s).flatMap moduleReads) s all with hscan | hdropped
  · exact .inl hscan
  · refine .inr ?_
    rw [scanModules, run_bind_ok (run_get s), foldlM_appendModuleDtcs, run_bind_dropped (Prod.ext hdropped rfl)]

/-- The read of the stored codes does not fail the scan. -/
def StoredRead (s : Session A) : Prop := ∀ e, (readDtcs.run s).1 = .error e → e = .noData

/-- After the stored codes. -/
theorem readAllDtcs_run (hinitialized : s.initialized = true) (hstored : StoredRead s)
    {stored : Except Obd2Error (List Dtc)} (h : readDtcs.run s = (Outcome.ofExcept stored, t)) :
    readAllDtcs.run s = ([readPendingDtcs, readPermanentDtcs].foldlM appendRead (found stored) >>= scanModules).run t := by
  have hlater (all : List Dtc) : ([readPendingDtcs, readPermanentDtcs].foldlM appendRead all >>= scanModules : Op A _) =
      (appendRead all readPendingDtcs >>= fun all => appendRead all readPermanentDtcs >>= scanModules) := by
    simp only [List.foldlM_cons, List.foldlM_nil, Async.bind_assoc, Async.pure_bind]
  rw [readAllDtcs, run_bind_ok (ensureInitialized_ready hinitialized), run_bind_ok (run_attempt_of_ends h), hlater]
  cases stored with
  | ok dtcs => exact congrArg (run · t) (Async.pure_bind dtcs _)
  | error e =>
    obtain rfl := hstored e (congrArg Prod.fst h)
    exact congrArg (run · t) (Async.pure_bind [] _)

theorem readAllDtcs_failed (hinitialized : s.initialized = true) {e : Obd2Error}
    (h : (readDtcs.run s).1 = .error e) (he : e ≠ .noData) : (readAllDtcs.run s).1 = .error e := by
  have hrun : readDtcs.attempt.run s = (.ok (.error e), (readDtcs.run s).2) :=
    run_attempt_of_ends (Prod.ext h rfl)
  rw [readAllDtcs, run_bind_ok (ensureInitialized_ready hinitialized), run_bind_ok hrun]
  cases e with
  | noData => exact absurd rfl he
  | _ => rfl

theorem readAllDtcs_dropped (hinitialized : s.initialized = true) (h : (readDtcs.run s).1 = .dropped) :
    (readAllDtcs.run s).1 = .dropped := by
  rw [readAllDtcs, run_bind_ok (ensureInitialized_ready hinitialized), run_bind_dropped (run_attempt_dropped h)]

/-- A scan finds what its reads have found. -/
theorem readAllDtcs_scanned (hinitialized : s.initialized = true) (hstored : StoredRead s) (h : Scanned s results u) :
    readAllDtcs.run s = (.ok (enrichDtcs s.spec (dedupDtcs (results.flatMap found))), u) := by
  rw [← h.spec_eq]
  cases h with
  | reads hbroadcast horder hscanned =>
    cases hbroadcast with
    | cons hread hlater =>
      rw [readAllDtcs_run hinitialized hstored hread, run_bind_ok (run_appendReads hlater _),
        run_scanModules horder hscanned, List.flatMap_append, List.flatMap_cons]

/-- A scan that is not given up. -/
theorem scanned_or_dropped (hinitialized : s.initialized = true) (hstored : StoredRead s) :
    (∃ results u, Scanned s results u) ∨ (readAllDtcs.run s).1 = .dropped := by
  rcases ends_or_dropped readDtcs s with ⟨stored, t, h⟩ | hdropped
  · rw [readAllDtcs_run hinitialized hstored h]
    rcases appendReads_or_dropped [readPendingDtcs, readPermanentDtcs] t (found stored) with
      ⟨later, t', hlater⟩ | hdropped
    · rw [run_bind_ok (run_appendReads hlater _)]
      rcases scanModules_or_dropped t' (found stored ++ later.flatMap found) with ⟨scanned, u, hscan⟩ | hdropped
      · exact .inl ⟨_, u, .reads (.cons h hlater) (scanOrder_dtcScanModules t') hscan⟩
      · exact .inr hdropped
    · exact .inr (congrArg Prod.fst (run_bind_dropped (Prod.ext hdropped rfl) _))
  · exact .inr (readAllDtcs_dropped hinitialized hdropped)

section Operation
variable {R : Session A → Session A → Prop}

theorem Composed.appendRead {read : Op A (List Dtc)} (h : Composed R read) (all : List Dtc) :
    Composed R (appendRead all read) :=
  .bind (.attempt h) fun _ => .pure _

theorem Composed.appendModuleDtcs (all : List Dtc) (module : ModuleId) :
    Composed R (appendModuleDtcs all module : Op A (List Dtc)) := by
  rw [Session.appendModuleDtcs, moduleReads, List.foldlM_map]
  exact Composed.forEach (fun all _ => Composed.appendRead (Composed.readDtcsWithTarget ..) all) _ all

theorem Composed.readAllDtcs : Composed R (readAllDtcs : Op A (List Dtc)) := by
  have hlater (all : List Dtc) : Composed R (do
      let all ← Session.appendRead all Session.readPendingDtcs
      let all ← Session.appendRead all Session.readPermanentDtcs
      let s ← .get
      let all ← (dtcScanModules s).foldlM Session.appendModuleDtcs all
      let s ← .get
      Pure.pure (enrichDtcs s.spec (dedupDtcs all)) : Op A (List Dtc)) :=
    .bind (Composed.appendRead Composed.readPendingDtcs all) fun all =>
      .bind (Composed.appendRead Composed.readPermanentDtcs all) fun all =>
        .bind .get fun _ => .bind (Composed.forEach Composed.appendModuleDtcs _ all) fun _ =>
          .bind .get fun _ => .pure _
  refine .bind .ensures fun _ => .bind (.attempt Composed.readDtcs) fun result => ?_
  dsimp only
  split
  · exact .bind (.pure _) hlater
  · exact .bind (.pure []) hlater
  · exact .bind (.throw _) hlater

end Operation

end Scan

/-! ### Examples -/

/-- A vehicle with one code of its own, one of its transmission, and an engine that does not answer. -/
structure Gateway where

instance : Adapter Gateway where
  initializeAdapter := pure ⟨⟨.unknown, [], .can11Bit500, .none⟩, [], []⟩
  routedRequest req gateway :=
    (if req.serviceId ≠ 0x03 then .error .noData
      else if req.target = .broadcast then .ok [0x04, 0x20]
      else if req.target = .addressed (.can11Bit 0x7E0 0x7E8) then .error .timeout
      else .ok [0x07, 0x00], gateway)
  batteryVoltage := pure none
  info _ := ⟨.unknown, [], .can11Bit500, .none⟩
  drainEvents gateway := ([], gateway)

def gatewaySession : Session Gateway :=
  let spec : VehicleSpec := {communication := ⟨[⟨⟨"hs-can"⟩, .can11Bit500, 500000,
    [⟨⟨"tcm"⟩, "transmission", .can11Bit 0x7E1 0x7E9, ⟨"hs-can"⟩⟩,
      ⟨⟨"ecm"⟩, "engine", .can11Bit 0x7E0 0x7E8, ⟨"hs-can"⟩⟩], none⟩]⟩}
  {Session.new Gateway.mk with initialized := true, profile := some ⟨[], some spec, []⟩}.refreshDiscoveryProfile

def codesOf : Outcome Obd2Error (List Dtc) → List (String × Option String)
  | .ok dtcs => dtcs.map fun dtc => (dtc.code, dtc.sourceModule)
  | _ => []

end Obd2.Session

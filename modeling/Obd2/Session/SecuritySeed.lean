import Obd2.Adapter.Elm327.Kept
import Obd2.Protocol.Uds.Data
import Obd2.Session.Observed

/-! The seed of security access.

The answer to a seed request repeats the level before the seed. The adapter takes off the
service byte only, so what the session takes for the seed begins with the level
(`securityAccess_calls`): the key is computed of another seed than was sent, and never left out.
The UDS client takes the level off (`requestSeed_isoTp`). -/
namespace Obd2

/-- The key a call sends. -/
def AdapterCall.key (call : AdapterCall) : Option (List UInt8) :=
  match call with
  | .routedRequest ⟨0x27, 0x02 :: key, _⟩ _ => some key
  | _ => none

namespace Session
open Elm327Adapter ElmCodec

/-! ### The routing of a module -/

section Routing
variable {A : Type}

/-- The profile was resolved for an adapter and a specification. -/
def ResolvedFor (s : Session A) (info : AdapterInfo) (spec : Option VehicleSpec) : Prop :=
  ∃ attempts ecus, s.discovery = some (Discovery.resolveDiscoveryProfile info spec attempts ecus)

/-- A module is routed alike by profiles that were resolved for the same. -/
theorem ResolvedFor.routes {s s' : Session A} {info : AdapterInfo} {spec : Option VehicleSpec}
    (h : s.ResolvedFor info spec) (h' : s'.ResolvedFor info spec) (m : String) :
    s'.resolveModuleAddress m = s.resolveModuleAddress m := by
  obtain ⟨attempts, ecus, hs⟩ := h
  obtain ⟨attempts', ecus', hs'⟩ := h'
  rw [resolveModuleAddress, resolveModuleAddress, hs, hs']
  rfl

theorem markConnectionActive_discovery (s : Session A) :
    (markConnectionActiveIfRecovered s).discovery = s.discovery := by
  unfold markConnectionActiveIfRecovered
  split <;> rfl

variable [Adapter A]

theorem resolvedFor_applyAdapterEvents (events : List AdapterEvent) {s : Session A}
    (h : s.initialized = true) :
    (applyAdapterEvents events s).ResolvedFor (Adapter.info s.adapter) s.spec := by
  unfold applyAdapterEvents
  dsimp only
  rw [if_pos h]
  exact ⟨_, _, rfl⟩

/-- A request that is answered leaves a profile that is resolved anew. -/
theorem sendRequest_resolves {s : Session A} (hinitialized : s.initialized = true)
    (hidle : s.requestInFlight = false) {req : ServiceRequest} {routed : RoutedRequest}
    (hroute : s.resolveRequest req = .ok routed) {data : List UInt8} {adapter : A}
    (hrun : (Adapter.routedRequest routed).run s.adapter = (.ok data, adapter)) :
    ∃ s', (sendRequest req).run s = (.ok data, s') ∧ s'.requestInFlight = false ∧
      s'.adapter = (Adapter.drainEvents adapter).2 ∧
      s'.ResolvedFor (Adapter.info (Adapter.drainEvents adapter).2) s.spec := by
  let noted := recordVisibleTarget routed.target {s with requestInFlight := true}
  let ended : Session A :=
    {noted with adapter := (Adapter.drainEvents adapter).2, requestInFlight := false}
  have hnoted : Keeps {s with requestInFlight := true} noted := keeps_recordVisibleTarget ..
  have hended : Keeps ended (applyAdapterEvents (Adapter.drainEvents adapter).1 ended) :=
    keeps_applyAdapterEvents ..
  have hmarked := keeps_markConnectionActive (applyAdapterEvents (Adapter.drainEvents adapter).1 ended)
  have hspec : ended.spec = s.spec := recordVisibleTarget_spec routed.target {s with requestInFlight := true}
  have hrun : (Adapter.routedRequest routed).run noted.adapter = (Outcome.ofExcept (.ok data), adapter) := by
    rw [hnoted.adapter]
    exact hrun
  refine ⟨markConnectionActiveIfRecovered (applyAdapterEvents (Adapter.drainEvents adapter).1 ended), ?_,
    (hended.trans hmarked).requestInFlight, (hended.trans hmarked).adapter, ?_⟩
  · rw [sendRequest_resolved hidle hroute]
    exact dispatch_run hrun
  · rw [ResolvedFor, markConnectionActive_discovery, ← hspec]
    exact resolvedFor_applyAdapterEvents _ (hnoted.initialized.trans hinitialized)

end Routing

/-! ### The exchange -/

section Exchange
variable {L : Type} [Link L]

/-- The session is set up and idle, and the ECU answers its request for a seed. -/
structure AnswersSeed (s : Session (Observed (Elm327Adapter L))) (module : ModuleId) (seed : List UInt8) :
    Prop where
  initialized : s.initialized = true
  idle : s.requestInFlight = false
  resolved : s.ResolvedFor s.adapter.adapter.info s.spec
  answers : ∃ routed response, s.resolveRequest ⟨0x27, [0x01], .module module.id⟩ = .ok routed ∧
    Answers s.adapter.adapter routed response ∧
    Reads (requestCommand 0x27 [0x01]) (responseLines response) [0x67 :: 0x01 :: seed]

variable {s : Session (Observed (Elm327Adapter L))} {module : ModuleId} {seed : List UInt8}

/-- The answer is the level and the seed, and the module can be spoken to as before. -/
theorem seed_received (h : AnswersSeed s module seed) :
    ∃ address s', (sendRequest ⟨0x27, [0x01], .module module.id⟩).run s = (.ok (0x01 :: seed), s') ∧
      s'.requestInFlight = false ∧ s'.resolveModuleAddress module.id = .ok address ∧
      s'.adapter.log = s.adapter.log ++
        [.routedRequest ⟨0x27, [0x01], .addressed address⟩ (.ok (0x01 :: seed))] := by
  obtain ⟨routed, response, hroute, ⟨targeted, transport, htarget, hexchange⟩, hreads⟩ := h.answers
  obtain ⟨address, hresolve, rfl⟩ := resolveRequest_module.mp hroute
  obtain ⟨events, hrun⟩ := routedRequest_run _ htarget hexchange (reads_no_fault hreads)
  have hnonempty : ∀ rest ∈ [0x01 :: seed], rest ≠ [] := List.forall_mem_singleton.mpr (List.cons_ne_nil _ _)
  rw [decodeResponse_of_payloads _ (by decide) hnonempty hreads] at hrun
  have hsettled := routedRequest_settled ⟨0x27, [0x01], .addressed address⟩ s.adapter.adapter
  rw [hrun] at hsettled
  have hcall : (Adapter.routedRequest ⟨0x27, [0x01], .addressed address⟩).run s.adapter = (.ok (0x01 :: seed),
      ⟨{targeted with transport, events}, s.adapter.log ++
        [.routedRequest ⟨0x27, [0x01], .addressed address⟩ (.ok (0x01 :: seed))]⟩) := by
    show (let (outcome, adapter) := (routedRequest ⟨0x27, [0x01], .addressed address⟩).run s.adapter.adapter
      (outcome, (⟨adapter, s.adapter.log ++ [AdapterCall.routedRequest _ outcome]⟩ : Observed _))) = _
    rw [hrun]
    rfl
  obtain ⟨s', hsend, hidle, hadapter, hresolved⟩ := sendRequest_resolves h.initialized h.idle hroute hcall
  have hinfo : s'.ResolvedFor s.adapter.adapter.info s.spec := hsettled.info ▸ hresolved
  exact ⟨address, s', hsend, hidle, (h.resolved.routes hinfo module.id).trans hresolve,
    congrArg Observed.log hadapter⟩

/-- The calls of a run. -/
def securityCalls (s : Session (Observed (Elm327Adapter L))) (module : ModuleId)
    (keyFn : List UInt8 → List UInt8) : List AdapterCall :=
  ((securityAccess module keyFn).run s).2.adapter.log.drop s.adapter.log.length

/-- **The key is computed of the level and the seed**, whatever the seed is. -/
theorem securityAccess_calls (h : AnswersSeed s module seed) (keyFn : List UInt8 → List UInt8) :
    ∃ address outcome, securityCalls s module keyFn =
      [.routedRequest ⟨0x27, [0x01], .addressed address⟩ (.ok (0x01 :: seed)),
        .routedRequest ⟨0x27, 0x02 :: keyFn (0x01 :: seed), .addressed address⟩ outcome] := by
  obtain ⟨address, s₁, hseed, hidle, hresolve, hlog⟩ := seed_received h
  obtain ⟨outcome, s₂, hkey, hcalled⟩ := sendRequest_called hidle
    (resolveRequest_module.mpr ⟨address, hresolve, rfl⟩ :
      s₁.resolveRequest ⟨0x27, 0x02 :: keyFn (0x01 :: seed), .module module.id⟩ = _)
  refine ⟨address, outcome, ?_⟩
  have hzero : ¬ ((0x01 : UInt8) :: seed).all (· == 0) = true := by
    rw [List.all_cons]
    exact Bool.false_ne_true
  have hafter : ((securityAccess module keyFn).run s).2.adapter = s₂.adapter := by
    rw [securityAccess, Async.run_bind_ok (ensureInitialized_ready h.initialized), Async.run_bind_ok hseed,
      if_neg (by exact Bool.false_ne_true), if_neg hzero]
    cases outcome with
    | ok data => rw [Async.run_bind_ok hkey]; rfl
    | error e => rw [Async.run_bind_error hkey]
    | dropped => rw [Async.run_bind_dropped hkey]
  rw [securityCalls, hafter, hcalled.log, hlog, List.append_assoc, List.drop_left]
  rfl

/-- The key function is given the seed, and its key is sent; for a seed of zeros there is none. -/
def SeedReachesKey (s : Session (Observed (Elm327Adapter L))) (module : ModuleId) (seed : List UInt8) : Prop :=
  ∀ keyFn, (securityCalls s module keyFn).filterMap AdapterCall.key =
    if seed.all (· == 0) then [] else [keyFn seed]

/-- **No seed reaches the key function as it was sent**, though the UDS client returns it so. -/
theorem seed_never_reaches_key (h : AnswersSeed s module seed) {config : IsoTp.IsoTpConfig} {closed : Obd2Error}
    {stream : List IsoTp.CanDataFrame}
    (hisoTp : IsoTp.Answered config closed 0x27 [0x01] stream (0x67 :: 0x01 :: seed)) :
    ((UdsClient.requestSeed (IsoTp.transport config) 0x01).run closed stream).result = .ok seed ∧
      ¬ SeedReachesKey s module seed := by
  refine ⟨requestSeed_isoTp hisoTp, fun hreaches => ?_⟩
  obtain ⟨address, outcome, hcalls⟩ := securityAccess_calls h id
  have hkeys : (securityCalls s module id).filterMap AdapterCall.key = [0x01 :: seed] := by
    rw [hcalls]
    rfl
  have hexpected := hkeys.symm.trans (hreaches id)
  split at hexpected
  · cases hexpected
  · have hlength := congrArg List.length (List.cons.inj hexpected).1
    rw [List.length_cons] at hlength
    exact Nat.succ_ne_self _ hlength

end Exchange

/-! ### Examples -/

def seedSpec : VehicleSpec :=
  {communication := ⟨[⟨⟨"hs-can"⟩, .can11Bit500, 500000,
    [⟨⟨"ecm"⟩, "engine", .can11Bit 0x7E0 0x7E8, ⟨"hs-can"⟩⟩], none⟩]⟩}

/-- A session whose engine module answers a request for a seed, and accepts any key. -/
def seedSession (answer : String) : Session (Observed (Elm327Adapter MockTransport)) :=
  let ready := readySession .can11Bit500 [("AT SH 7E0".toList, "OK\r>".toList),
    ("2701".toList, answer.toList), ("2702".toList, "67 02\r\r>".toList)]
  {Session.new (⟨ready.adapter, []⟩ : Observed _) with
    initialized := true, profile := some ⟨[], some seedSpec, []⟩}.refreshDiscoveryProfile

theorem answersSeed_seedSession :
    AnswersSeed (seedSession "67 01 12 34\r\r>") ⟨"ecm"⟩ [0x12, 0x34] where
  initialized := rfl
  idle := rfl
  resolved := ⟨_, _, rfl⟩
  answers := by
    refine ⟨⟨0x27, [0x01], .addressed (.can11Bit 0x7E0 0x7E8)⟩, "67 01 12 34\r\r>".toList, rfl, ?_,
      .bytes rfl (.skipped rfl (.skipped rfl .nil))⟩
    exact ⟨_, _, Prod.ext (by decide +kernel) rfl, Prod.ext (by decide +kernel) rfl⟩

/-- Over ISO-TP the same answer gives the seed itself. -/
theorem seed_never_reaches_key_1234 :
    let stream := [ecuFrame [0x04, 0x67, 0x01, 0x12, 0x34, 0x00, 0x00, 0x00]]
    ((UdsClient.requestSeed (IsoTp.transport ecuConfig) 0x01).run .timeout stream).result = .ok [0x12, 0x34] ∧
      ¬ SeedReachesKey (seedSession "67 01 12 34\r\r>") ⟨"ecm"⟩ [0x12, 0x34] := by
  intro stream
  have hisoTp : IsoTp.Answered ecuConfig .timeout 0x27 [0x01] stream [0x67, 0x01, 0x12, 0x34] :=
    ⟨by decide, rfl, 0, Nat.zero_le _, .cons rfl (.nil _)⟩
  exact seed_never_reaches_key answersSeed_seedSession hisoTp

/-- The key is computed of the level and the seed, and it is sent for a seed of zeros too. -/
theorem key_of_level_and_seed :
    let session := seedSession "67 01 12 34\r\r>"
    let unlocked := seedSession "67 01 00 00\r\r>"
    (securityCalls session ⟨"ecm"⟩ List.reverse).filterMap AdapterCall.key = [[0x34, 0x12, 0x01]] ∧
      ¬ SeedReachesKey session ⟨"ecm"⟩ [0x12, 0x34] ∧
      (securityCalls unlocked ⟨"ecm"⟩ List.reverse).filterMap AdapterCall.key = [[0x00, 0x00, 0x01]] ∧
      ¬ SeedReachesKey unlocked ⟨"ecm"⟩ [0x00, 0x00] := by
  intro session unlocked
  have hkeys : (securityCalls session ⟨"ecm"⟩ List.reverse).filterMap AdapterCall.key = [[0x34, 0x12, 0x01]] := by
    decide +kernel
  have hzeros : (securityCalls unlocked ⟨"ecm"⟩ List.reverse).filterMap AdapterCall.key =
      [[0x00, 0x00, 0x01]] := by decide +kernel
  refine ⟨hkeys, fun hreaches => ?_, hzeros, fun hreaches => ?_⟩
  · exact absurd (hkeys.symm.trans (hreaches List.reverse)) (by decide)
  · exact absurd (hzeros.symm.trans (hreaches List.reverse)) (by decide)

end Session

end Obd2

import Obd2.Session.Enhanced
import Obd2.Session.Observed

/-! The case of module names.

The definition of an enhanced PID is found under every spelling of its module's name, its address
only under the one that the discovery profile has. What is read of two spellings is the same
exactly if routing finds the same under both (`spelling_iff`). -/
namespace Obd2

/-- The identifiers differ in case only. -/
def Respelled (a b : ModuleId) : Prop := Text.sameIgnoringAsciiCase a.id.toList b.id.toList = true

namespace Enhanced

/-- A definition is found under every spelling. -/
theorem findEnhancedPid_respelled {a b : ModuleId} (h : Respelled a b) (spec : Option VehicleSpec) (did : UInt16) :
    findEnhancedPid spec did a = findEnhancedPid spec did b := by
  have hname : (fun epid : EnhancedPid =>
        epid.did == did && Text.sameIgnoringAsciiCase epid.module.toList a.id.toList) =
      fun epid => epid.did == did && Text.sameIgnoringAsciiCase epid.module.toList b.id.toList := by
    funext epid
    rw [Text.sameIgnoringAsciiCase, beq_iff_eq.mp h]
    rfl
  rw [findEnhancedPid, findEnhancedPid, hname]

theorem decodeEnhancedValue_respelled {a b : ModuleId} (h : Respelled a b) (spec : Option VehicleSpec)
    (did : UInt16) (data : List UInt8) :
    decodeEnhancedValue spec did a data = decodeEnhancedValue spec did b data := by
  rw [decodeEnhancedValue, decodeEnhancedValue, findEnhancedPid_respelled h]

end Enhanced

namespace Session

/-! ### Routing -/

section Routing
variable {A : Type} {s : Session A}

/-- What routing finds under an identifier: no module, one that is not on the active bus, or an
address. -/
def located (discovery : DiscoveryProfile) (m : ModuleId) : Option (Option PhysicalAddress) :=
  (discovery.modules.get m).map fun resolved =>
    match discovery.activeBus with
    | none => some resolved.address
    | some activeBus => if resolved.bus = activeBus.id then some resolved.address else none

/-- Routing finds the same under both identifiers. -/
def RoutedAlike (s : Session A) (a b : ModuleId) : Prop :=
  ∀ discovery, s.discovery = some discovery → located discovery a = located discovery b

variable {discovery : DiscoveryProfile} {m : ModuleId}

theorem resolveModuleAddress_none (hdiscovery : s.discovery = some discovery) (h : located discovery m = none) :
    s.resolveModuleAddress m.id = .error (.moduleNotFound m.id) := by
  have hget : discovery.modules.get ⟨m.id⟩ = none := Option.map_eq_none_iff.mp h
  rw [resolveModuleAddress, hdiscovery]
  dsimp only
  rw [hget]

theorem resolveModuleAddress_elsewhere (hdiscovery : s.discovery = some discovery)
    (h : located discovery m = some none) :
    ∃ bus, s.resolveModuleAddress m.id = .error (.busNotAvailable bus) := by
  obtain ⟨resolved, hget, hbus⟩ := Option.map_eq_some_iff.mp h
  have hget : discovery.modules.get ⟨m.id⟩ = some resolved := hget
  cases hactive : discovery.activeBus with
  | none =>
    rw [hactive] at hbus
    cases hbus
  | some activeBus =>
    rw [hactive] at hbus
    dsimp only at hbus
    split at hbus
    · cases hbus
    next helsewhere =>
    refine ⟨resolved.bus.id, ?_⟩
    rw [resolveModuleAddress, hdiscovery]
    dsimp only
    rw [hget, hactive]
    exact if_neg helsewhere

theorem resolveModuleAddress_address {address : PhysicalAddress} (hdiscovery : s.discovery = some discovery)
    (h : located discovery m = some (some address)) : s.resolveModuleAddress m.id = .ok address := by
  obtain ⟨resolved, hget, hbus⟩ := Option.map_eq_some_iff.mp h
  have hget : discovery.modules.get ⟨m.id⟩ = some resolved := hget
  rw [resolveModuleAddress, hdiscovery]
  dsimp only
  rw [hget]
  cases hactive : discovery.activeBus with
  | none =>
    rw [hactive] at hbus
    cases hbus
    rfl
  | some activeBus =>
    rw [hactive] at hbus
    dsimp only at hbus ⊢
    split at hbus
    · next hsame =>
      cases hbus
      exact if_pos hsame
    · cases hbus

end Routing

/-! ### Reading -/

section Reading
variable {A : Type} [Adapter A] {s t : Session (Observed A)} {did : UInt16} {a b m : ModuleId}

/-- What is read of an answer. -/
def readAnswer (did : UInt16) (m : ModuleId) (data : List UInt8) : Op A Reading := do
  let s ← .get
  let value ← .panicking (Enhanced.decodeEnhancedValue s.spec did m data)
  pure ⟨value, "", data, .live⟩

/-- Ends of one kind: the same reading, or errors of the same variant. -/
def SameKind : Outcome Obd2Error Reading → Outcome Obd2Error Reading → Prop
  | .ok reading, .ok reading' => reading = reading'
  | .error e, .error e' => e.ctorIdx = e'.ctorIdx
  | .dropped, .dropped => True
  | _, _ => False

/-- The same is asked of the adapter under both names, and the same comes of it. -/
def SameReading (s : Session (Observed A)) (did : UInt16) (a b : ModuleId) : Prop :=
  ((readEnhanced did a).run s).2.adapter.log = ((readEnhanced did b).run s).2.adapter.log ∧
    SameKind ((readEnhanced did a).run s).1 ((readEnhanced did b).run s).1

theorem SameKind.refl (o : Outcome Obd2Error Reading) : SameKind o o := by
  cases o with
  | ok reading => rfl
  | error e => rfl
  | dropped => trivial

theorem SameKind.isOk_eq {o o' : Outcome Obd2Error Reading} (h : SameKind o o') : o.isOk = o'.isOk := by
  cases o <;> cases o' <;> first | rfl | cases h

theorem SameReading.isOk_eq (h : SameReading s did a b) :
    ((readEnhanced did a).run s).1.isOk = ((readEnhanced did b).run s).1.isOk := h.2.isOk_eq

omit [Adapter A] in
/-- The request of a module, without its name. -/
theorem enhancedRequest_respelled (h : Respelled a b) (t : Session A) (did : UInt16) :
    ∃ service data, t.enhancedRequest did a = ⟨service, data, .module a.id⟩ ∧
      t.enhancedRequest did b = ⟨service, data, .module b.id⟩ := by
  refine ⟨_, _, rfl, ?_⟩
  simp only [enhancedRequest, lookupEnhancedServiceId, Enhanced.findServiceId, Enhanced.findEnhancedPid_respelled h]

omit [Adapter A] in
theorem readAnswer_respelled (h : Respelled a b) (did : UInt16) (data : List UInt8) :
    (readAnswer did a data : Op A Reading) = readAnswer did b data := by
  simp only [readAnswer, Enhanced.decodeEnhancedValue_respelled h]

omit [Adapter A] in
/-- Reading an answer asks nothing of the adapter. -/
theorem readAnswer_log (did : UInt16) (m : ModuleId) (data : List UInt8) (t : Session (Observed A)) :
    ((readAnswer did m data).run t).2 = t := by
  rw [readAnswer, Async.run_bind_ok (Async.run_get t)]
  cases Enhanced.decodeEnhancedValue t.spec did m data <;> rfl

/-- Once the session is initialized. -/
theorem readEnhanced_run {s t : Session A} (h : ensureInitialized.run s = (.ok (), t)) (did : UInt16) (m : ModuleId) :
    (readEnhanced did m).run s = (sendRequest (t.enhancedRequest did m) >>= readAnswer did m).run t := by
  rw [readEnhanced, Async.run_bind_ok h, Async.run_bind_ok (Async.run_get t)]
  rfl

/-- A request that is not sent. -/
theorem readEnhanced_unresolved (did : UInt16) (hready : ensureInitialized.run s = (.ok (), t))
    (hidle : t.requestInFlight = false) {e : Obd2Error} (h : t.resolveModuleAddress m.id = .error e) :
    ∃ u, (readEnhanced did m).run s = (.error e, u) ∧ u.adapter.log = t.adapter.log := by
  have hroute : t.resolveRequest (t.enhancedRequest did m) = .error e := by
    rw [enhancedRequest, resolveRequest]
    dsimp only
    rw [h]
  rw [readEnhanced_run hready, Async.run_bind_error (sendRequest_unresolved hidle hroute)]
  exact ⟨_, rfl, rfl⟩

/-- A request that is sent. -/
theorem readEnhanced_resolved (hready : ensureInitialized.run s = (.ok (), t)) (hidle : t.requestInFlight = false)
    {service : UInt8} {data : List UInt8} (hrequest : t.enhancedRequest did m = ⟨service, data, .module m.id⟩)
    {address : PhysicalAddress} (h : t.resolveModuleAddress m.id = .ok address) :
    ∃ o, ((readEnhanced did m).run s).2.adapter.log =
      t.adapter.log ++ [.routedRequest ⟨service, data, .addressed address⟩ o] := by
  have hroute : t.resolveRequest (t.enhancedRequest did m) = .ok ⟨service, data, .addressed address⟩ := by
    rw [hrequest]
    exact resolveRequest_module.mpr ⟨address, h, rfl⟩
  obtain ⟨o, u, hrun, hcalled⟩ := sendRequest_called hidle hroute
  refine ⟨o, ?_⟩
  rw [readEnhanced_run hready]
  cases o with
  | ok answer =>
    rw [Async.run_bind_ok hrun, readAnswer_log]
    exact hcalled.log
  | error e =>
    rw [Async.run_bind_error hrun]
    exact hcalled.log
  | dropped =>
    rw [Async.run_bind_dropped hrun]
    exact hcalled.log

/-! ### Two spellings -/

/-- Two names with one address are one request. -/
theorem readEnhanced_alike (h : Respelled a b) (hready : ensureInitialized.run s = (.ok (), t))
    (hidle : t.requestInFlight = false) {address : PhysicalAddress} (ha : t.resolveModuleAddress a.id = .ok address)
    (hb : t.resolveModuleAddress b.id = .ok address) : (readEnhanced did a).run s = (readEnhanced did b).run s := by
  obtain ⟨service, data, hrequest, hrequest'⟩ := enhancedRequest_respelled h t did
  have hroute : t.resolveRequest (t.enhancedRequest did a) = .ok ⟨service, data, .addressed address⟩ := by
    rw [hrequest]
    exact resolveRequest_module.mpr ⟨address, ha, rfl⟩
  have hroute' : t.resolveRequest (t.enhancedRequest did b) = .ok ⟨service, data, .addressed address⟩ := by
    rw [hrequest']
    exact resolveRequest_module.mpr ⟨address, hb, rfl⟩
  have hanswer : (readAnswer did a : List UInt8 → Op (Observed A) Reading) = readAnswer did b :=
    funext (readAnswer_respelled h did)
  rw [readEnhanced_run hready, readEnhanced_run hready, Async.run_bind, Async.run_bind,
    sendRequest_resolved hidle hroute, sendRequest_resolved hidle hroute', hanswer]

/-- What a reading comes to, by what routing finds. -/
inductive Seen (t : Session (Observed A)) (service : UInt8) (data : List UInt8) :
    Option (Option PhysicalAddress) → Outcome Obd2Error Reading × Session (Observed A) → Prop where
  | unknown {id : String} {u : Session (Observed A)} : u.adapter.log = t.adapter.log →
      Seen t service data none (.error (.moduleNotFound id), u)
  | elsewhere {bus : String} {u : Session (Observed A)} : u.adapter.log = t.adapter.log →
      Seen t service data (some none) (.error (.busNotAvailable bus), u)
  | called {address : PhysicalAddress} {answer : Outcome Obd2Error (List UInt8)} {o : Outcome Obd2Error Reading}
      {u : Session (Observed A)} :
      u.adapter.log = t.adapter.log ++ [.routedRequest ⟨service, data, .addressed address⟩ answer] →
      Seen t service data (some (some address)) (o, u)

theorem readEnhanced_seen {discovery : DiscoveryProfile} (hready : ensureInitialized.run s = (.ok (), t))
    (hidle : t.requestInFlight = false) (hdiscovery : t.discovery = some discovery) {service : UInt8}
    {data : List UInt8} (hrequest : t.enhancedRequest did m = ⟨service, data, .module m.id⟩) :
    Seen t service data (located discovery m) ((readEnhanced did m).run s) := by
  cases hlocated : located discovery m with
  | none =>
    obtain ⟨u, hrun, hlog⟩ := readEnhanced_unresolved did hready hidle (resolveModuleAddress_none hdiscovery hlocated)
    rw [hrun]
    exact .unknown hlog
  | some found =>
    cases found with
    | none =>
      obtain ⟨bus, helsewhere⟩ := resolveModuleAddress_elsewhere hdiscovery hlocated
      obtain ⟨u, hrun, hlog⟩ := readEnhanced_unresolved did hready hidle helsewhere
      rw [hrun]
      exact .elsewhere hlog
    | some address =>
      obtain ⟨answer, hlog⟩ := readEnhanced_resolved hready hidle hrequest
        (resolveModuleAddress_address hdiscovery hlocated)
      exact .called hlog

omit [Adapter A] in
/-- A call tells the address, an error that there is none. -/
theorem Seen.located_eq {service : UInt8} {data : List UInt8} {l l' : Option (Option PhysicalAddress)}
    {r r' : Outcome Obd2Error Reading × Session (Observed A)} (h : Seen t service data l r)
    (h' : Seen t service data l' r') (hlog : r.2.adapter.log = r'.2.adapter.log) (hkind : SameKind r.1 r'.1) :
    l = l' := by
  have hgrows (call : AdapterCall) : t.adapter.log ++ [call] ≠ t.adapter.log :=
    fun hsame => List.cons_ne_nil _ _ (List.append_right_eq_self.mp hsame)
  cases h with
  | unknown hquiet =>
    cases h' with
    | unknown _ => rfl
    | elsewhere _ => cases hkind
    | called hcalled => exact absurd (hcalled.symm.trans (hlog.symm.trans hquiet)) (hgrows _)
  | elsewhere hquiet =>
    cases h' with
    | unknown _ => cases hkind
    | elsewhere _ => rfl
    | called hcalled => exact absurd (hcalled.symm.trans (hlog.symm.trans hquiet)) (hgrows _)
  | called hcalled =>
    cases h' with
    | unknown hquiet => exact absurd (hcalled.symm.trans (hlog.trans hquiet)) (hgrows _)
    | elsewhere hquiet => exact absurd (hcalled.symm.trans (hlog.trans hquiet)) (hgrows _)
    | called hcalled' =>
      cases List.append_cancel_left (hcalled.symm.trans (hlog.trans hcalled'))
      rfl

/-- What comes before the request is the same for both. -/
theorem sameReading_of_run_eq (h : (readEnhanced did a).run s = (readEnhanced did b).run s) :
    SameReading s did a b := by
  rw [SameReading, h]
  exact ⟨rfl, .refl _⟩

theorem sameReading_of_located {discovery : DiscoveryProfile} (h : Respelled a b)
    (hready : ensureInitialized.run s = (.ok (), t)) (hidle : t.requestInFlight = false)
    (hdiscovery : t.discovery = some discovery) (hsame : located discovery a = located discovery b) :
    SameReading s did a b := by
  cases hlocated : located discovery b with
  | none =>
    obtain ⟨u, hrun, hlog⟩ := readEnhanced_unresolved did hready hidle
      (resolveModuleAddress_none hdiscovery (hsame.trans hlocated))
    obtain ⟨u', hrun', hlog'⟩ := readEnhanced_unresolved did hready hidle
      (resolveModuleAddress_none hdiscovery hlocated)
    rw [SameReading, hrun, hrun']
    exact ⟨hlog.trans hlog'.symm, rfl⟩
  | some found =>
    cases found with
    | none =>
      obtain ⟨bus, ha⟩ := resolveModuleAddress_elsewhere hdiscovery (hsame.trans hlocated)
      obtain ⟨bus', hb⟩ := resolveModuleAddress_elsewhere hdiscovery hlocated
      obtain ⟨u, hrun, hlog⟩ := readEnhanced_unresolved did hready hidle ha
      obtain ⟨u', hrun', hlog'⟩ := readEnhanced_unresolved did hready hidle hb
      rw [SameReading, hrun, hrun']
      exact ⟨hlog.trans hlog'.symm, rfl⟩
    | some address =>
      exact sameReading_of_run_eq (readEnhanced_alike h hready hidle
        (resolveModuleAddress_address hdiscovery (hsame.trans hlocated))
        (resolveModuleAddress_address hdiscovery hlocated))

/-- A request that is refused, or that there is no profile for, is so under every name. -/
theorem sameReading_unrouted (hready : ensureInitialized.run s = (.ok (), t))
    (h : t.requestInFlight = true ∨ t.discovery = none) : SameReading s did a b := by
  cases hflag : t.requestInFlight with
  | true =>
    have hrefused (m : ModuleId) : (readEnhanced did m).run s = (.error .adapterBusy, t) := by
      rw [readEnhanced_run hready, Async.run_bind_error (sendRequest_busy hflag _)]
    exact sameReading_of_run_eq ((hrefused a).trans (hrefused b).symm)
  | false =>
    have hdiscovery : t.discovery = none := h.resolve_left (by rw [hflag]; exact Bool.false_ne_true)
    have hunknown (m : ModuleId) :
        t.resolveModuleAddress m.id = .error (.adapter "no discovery profile available") := by
      rw [resolveModuleAddress, hdiscovery]
    obtain ⟨u, hrun, hlog⟩ := readEnhanced_unresolved did hready hflag (hunknown a)
    obtain ⟨u', hrun', hlog'⟩ := readEnhanced_unresolved did hready hflag (hunknown b)
    rw [SameReading, hrun, hrun']
    exact ⟨hlog.trans hlog'.symm, rfl⟩

/-- **Two spellings read the same exactly if routing finds the same under both.** -/
theorem spelling_iff (s : Session (Observed A)) (did : UInt16) (a b : ModuleId) (h : Respelled a b) :
    SameReading s did a b ↔ ∀ t, ensureInitialized.run s = (.ok (), t) → t.requestInFlight = false →
      RoutedAlike t a b := by
  cases hrun : ensureInitialized.run s with
  | mk o t =>
    cases o with
    | error e =>
      have hfails (m : ModuleId) : (readEnhanced did m).run s = (.error e, t) := by
        rw [readEnhanced, Async.run_bind_error hrun]
      constructor
      · intro _ t' hready
        cases hready
      · intro _
        exact sameReading_of_run_eq ((hfails a).trans (hfails b).symm)
    | dropped =>
      have hfails (m : ModuleId) : (readEnhanced did m).run s = (.dropped, t) := by
        rw [readEnhanced, Async.run_bind_dropped hrun]
      constructor
      · intro _ t' hready
        cases hready
      · intro _
        exact sameReading_of_run_eq ((hfails a).trans (hfails b).symm)
    | ok _ =>
      constructor
      · intro hsame t' hready hidle discovery hdiscovery
        cases hready
        obtain ⟨service, data, ha, hb⟩ := enhancedRequest_respelled h t did
        exact (readEnhanced_seen hrun hidle hdiscovery ha).located_eq (readEnhanced_seen hrun hidle hdiscovery hb)
          hsame.1 hsame.2
      · intro halike
        cases hflag : t.requestInFlight with
        | true => exact sameReading_unrouted hrun (.inl hflag)
        | false =>
          cases hdiscovery : t.discovery with
          | none => exact sameReading_unrouted hrun (.inr hdiscovery)
          | some discovery =>
            exact sameReading_of_located h hrun hflag hdiscovery (halike t rfl hflag discovery hdiscovery)

end Reading

/-! ### Examples -/

/-- A session whose engine module is on the active bus and answers for the oil temperature. -/
def oilSession : Session (Observed (Elm327Adapter MockTransport)) :=
  let ready := readySession .can11Bit500 [("AT SH 7E0".toList, "OK\r>".toList),
    ("221940".toList, "62 19 40 5A\r\r>".toList)]
  let communication : CommunicationSpec := ⟨[⟨⟨"hs-can"⟩, .can11Bit500, 500000,
    [⟨⟨"ecm"⟩, "engine", .can11Bit 0x7E0 0x7E8, ⟨"hs-can"⟩⟩], none⟩]⟩
  let spec : VehicleSpec := {communication, enhancedPids := [⟨0x22, 0x1940, .linear 1 0, "ecm", none⟩]}
  {Session.new (⟨ready.adapter, []⟩ : Observed _) with
    initialized := true, profile := some ⟨[], some spec, []⟩}.refreshDiscoveryProfile

/-- What routing of the session looks at. -/
def oilDiscovery : DiscoveryProfile :=
  Discovery.resolveDiscoveryProfile oilSession.adapter.adapter.info oilSession.spec [] []

theorem oilSession_discovery : oilSession.discovery = some oilDiscovery := rfl

/-- A module that is not in the profile, under two spellings. -/
theorem spelling_unknown : SameReading oilSession 0x1940 ⟨"TCM"⟩ ⟨"tcm"⟩ := by
  refine (spelling_iff oilSession 0x1940 ⟨"TCM"⟩ ⟨"tcm"⟩ (by rfl)).mpr fun t hready _ discovery hdiscovery => ?_
  rw [ensureInitialized_ready (s := oilSession) rfl] at hready
  obtain rfl : oilSession = t := (Prod.mk.inj hready).2
  obtain rfl : oilDiscovery = discovery := Option.some.inj (oilSession_discovery.symm.trans hdiscovery)
  decide +kernel

/-- The engine module is read as `ecm`; as `ECM` its PIDs are listed, and it is not found. -/
theorem spelling_lost :
    Respelled ⟨"ecm"⟩ ⟨"ECM"⟩ ∧
      (Enhanced.listModulePids oilSession.spec ⟨"ECM"⟩).length = 1 ∧
      ((readEnhanced 0x1940 ⟨"ecm"⟩).run oilSession).1.isOk = true ∧
      ((readEnhanced 0x1940 ⟨"ECM"⟩).run oilSession).1 = .error (.moduleNotFound "ECM") ∧
      ¬ SameReading oilSession 0x1940 ⟨"ecm"⟩ ⟨"ECM"⟩ := by
  have hread : ((readEnhanced 0x1940 ⟨"ecm"⟩).run oilSession).1.isOk = true := by decide +kernel
  have hlocated : located oilDiscovery ⟨"ECM"⟩ = none := by decide +kernel
  obtain ⟨u, hrun, -⟩ := readEnhanced_unresolved 0x1940 (ensureInitialized_ready (s := oilSession) rfl) rfl
    (resolveModuleAddress_none oilSession_discovery hlocated)
  have hlost : ((readEnhanced 0x1940 ⟨"ECM"⟩).run oilSession).1 = .error (.moduleNotFound "ECM") := by rw [hrun]
  refine ⟨by rfl, by decide +kernel, hread, hlost, fun hsame => ?_⟩
  have hfails : ((readEnhanced 0x1940 ⟨"ecm"⟩).run oilSession).1.isOk = false :=
    hsame.isOk_eq.trans (congrArg Outcome.isOk hlost)
  exact Bool.false_ne_true (hfails.symm.trans hread)

end Session

end Obd2

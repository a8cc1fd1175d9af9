import Obd2.Session.Observed

/-! Actuator control, and what the module itself has acknowledged.

The session keeps one diagnostic state for all modules. A module's own state is what it has
acknowledged itself (`ModuleState`): the last session control, and since then a key or a seed of
zeros. An unlocked module is armed, in an Extended session of its own, as long as no key is
accepted outside one (`diagRun_guarded`); `security_access` enters a module as unlocked whatever
its session is. -/
namespace Obd2.Session

/-! ### The module's own state -/

structure ModuleState where
  session : Option DiagSession
  unlocked : Bool
  deriving DecidableEq, Repr

/-- The session of a sub-function of service 0x10. -/
def sessionOf (subFunction : UInt8) : Option DiagSession :=
  match subFunction with
  | 0x01 => some .default
  | 0x02 => some .programming
  | 0x03 => some .extended
  | _ => none

/-- A request to send a key. -/
def sendsKey (req : RoutedRequest) : Prop := req.serviceId = 0x27 ∧ req.data.head? = some 0x02

instance (req : RoutedRequest) : Decidable (sendsKey req) := inferInstanceAs (Decidable (_ ∧ _))

/-- A request for a seed. -/
def asksSeed (req : RoutedRequest) : Prop := req.serviceId = 0x27 ∧ req.data.head? = some 0x01

instance (req : RoutedRequest) : Decidable (asksSeed req) := inferInstanceAs (Decidable (_ ∧ _))

namespace ModuleState

/-- The module after it has acknowledged a request. -/
def acknowledge (state : ModuleState) (req : RoutedRequest) (reply : List UInt8) : ModuleState :=
  if req.serviceId = 0x10 then ⟨req.data.head?.bind sessionOf, false⟩
  else if sendsKey req then {state with unlocked := true}
  else if asksSeed req ∧ reply ≠ [] ∧ reply.all (· == 0) then {state with unlocked := true}
  else state

def after (state : ModuleState) (call : AdapterCall) : ModuleState :=
  match call with
  | .routedRequest req (.ok reply) => state.acknowledge req reply
  | _ => state

/-- It is in an Extended session, and was unlocked in it. -/
def Armed (state : ModuleState) : Prop := state.session = some .extended ∧ state.unlocked = true

theorem Armed.acknowledge {state : ModuleState} (h : Armed state) {req : RoutedRequest}
    (hservice : req.serviceId ≠ 0x10) (reply : List UInt8) : Armed (state.acknowledge req reply) := by
  unfold ModuleState.acknowledge
  rw [if_neg hservice]
  split
  · exact ⟨h.1, rfl⟩
  · split
    · exact ⟨h.1, rfl⟩
    · exact h

theorem session_acknowledge (state : ModuleState) {req : RoutedRequest} (hservice : req.serviceId ≠ 0x10)
    (reply : List UInt8) : (state.acknowledge req reply).session = state.session := by
  unfold ModuleState.acknowledge
  rw [if_neg hservice]
  split
  · rfl
  · split <;> rfl

/-- A key that is accepted arms a module in an Extended session. -/
theorem armed_of_key {state : ModuleState} (hsession : state.session = some .extended) {req : RoutedRequest}
    (hkey : sendsKey req) (reply : List UInt8) : Armed (state.acknowledge req reply) := by
  have hservice : req.serviceId ≠ 0x10 := by
    rw [hkey.1]
    decide
  unfold ModuleState.acknowledge
  rw [if_neg hservice, if_pos hkey]
  exact ⟨hsession, rfl⟩

end ModuleState

/-- The modules after calls that were made for one of them. -/
def track (module : ModuleId) (modules : ModuleId → ModuleState) (calls : List AdapterCall) :
    ModuleId → ModuleState := fun m =>
  if m = module then calls.foldl ModuleState.after (modules m) else modules m

/-- Every module that the session holds for unlocked is armed. -/
def Guarded (state : DiagnosticSessionState) (modules : ModuleId → ModuleState) : Prop :=
  ∀ m, isUnlocked m state = true → (modules m).Armed

/-- No key is accepted by a module whose last session control was not Extended. -/
def KeysInSession (module : ModuleId) (modules : ModuleId → ModuleState) (calls : List AdapterCall) : Prop :=
  ∀ req reply, AdapterCall.routedRequest req (.ok reply) ∈ calls → sendsKey req →
    (modules module).session = some .extended

section Track
variable {module : ModuleId} {modules : ModuleId → ModuleState} {state : DiagnosticSessionState}
  {calls : List AdapterCall}

theorem track_self : track module modules calls module = calls.foldl ModuleState.after (modules module) :=
  if_pos rfl

theorem track_other {m : ModuleId} (h : m ≠ module) : track module modules calls m = modules m :=
  if_neg h

theorem track_cons (call : AdapterCall) :
    track module modules (call :: calls) = track module (track module modules [call]) calls := by
  funext m
  by_cases hmodule : m = module
  · subst hmodule
    rw [track_self, track_self, track_self]
    rfl
  · rw [track_other hmodule, track_other hmodule, track_other hmodule]

theorem armed_foldl {own : ModuleState} (h : own.Armed)
    (hcalls : ∀ req reply, .routedRequest req (.ok reply) ∈ calls → req.serviceId ≠ 0x10) :
    (calls.foldl ModuleState.after own).Armed := by
  induction calls generalizing own with
  | nil => exact h
  | cons call rest ih =>
    refine ih ?_ fun req reply hmem => hcalls req reply (List.mem_cons_of_mem call hmem)
    cases call with
    | batteryVoltage outcome => exact h
    | routedRequest req outcome =>
      cases outcome with
      | ok reply => exact h.acknowledge (hcalls req reply List.mem_cons_self) reply
      | error e => exact h
      | dropped => exact h

/-- Calls that change no session disarm no module. -/
theorem Guarded.track (h : Guarded state modules)
    (hcalls : ∀ req reply, .routedRequest req (.ok reply) ∈ calls → req.serviceId ≠ 0x10) :
    Guarded state (track module modules calls) := by
  intro m hm
  by_cases hmodule : m = module
  · subst hmodule
    rw [track_self]
    exact armed_foldl (h m hm) hcalls
  · rw [track_other hmodule]
    exact h m hm

theorem Guarded.acknowledged (h : Guarded state modules) {req : RoutedRequest}
    (hcontrol : req.serviceId ≠ 0x10) (reply : List UInt8) :
    Guarded state (Obd2.Session.track module modules [.routedRequest req (.ok reply)]) := by
  refine h.track fun req' reply' hmem => ?_
  obtain ⟨rfl, -⟩ := AdapterCall.routedRequest.inj (List.mem_singleton.mp hmem)
  exact hcontrol

theorem isUnlocked_markUnlocked {m : ModuleId} (h : isUnlocked m (markUnlocked module state) = true) :
    m = module ∨ isUnlocked m state = true := by
  have hid (ids : List String) (h : (ids ++ [module.id]).contains m.id = true) :
      m = module ∨ ids.contains m.id = true := by
    rw [List.contains_iff_mem, List.mem_append, List.mem_singleton] at h
    rw [List.contains_iff_mem]
    rcases h with h | h
    · exact .inr h
    · exact .inl (congrArg ModuleId.mk h)
  cases state with
  | extended unlockedModules =>
    unfold markUnlocked at h
    dsimp only at h
    split at h
    · exact .inr h
    · exact hid _ h
  | default => exact .inl ((hid [] h).resolve_right nofun)
  | programming => exact .inl ((hid [] h).resolve_right nofun)

end Track

/-! ### The calls -/

inductive DiagCall where
  | enter (session : DiagSession)
  | access (keyFn : List UInt8 → List UInt8)
  | control (did : UInt16) (command : ActuatorCommand)
  | finish

namespace DiagCall
variable {A : Type} [Adapter A]

/-- The operation on a module. -/
def op (call : DiagCall) (module : ModuleId) : Op A Unit :=
  match call with
  | enter session => enterDiagnosticSession session module
  | access keyFn => securityAccess module keyFn
  | control did command => actuatorControl did module command
  | finish => endDiagnosticSession module

end DiagCall

section Invariant
variable {A : Type} {log : List AdapterCall} {state : DiagnosticSessionState} {module : ModuleId}
  {modules : ModuleId → ModuleState}

/-- Where the session stands between its requests. -/
structure At (log : List AdapterCall) (state : DiagnosticSessionState) (s : Session (Observed A)) :
    Prop where
  log : s.adapter.log = log
  state : s.diagnosticState = state

/-- The invariant after calls for a module, if it accepted keys in session only. -/
def Kept (module : ModuleId) (modules : ModuleId → ModuleState) (log : List AdapterCall)
    (s : Session (Observed A)) : Prop :=
  ∃ calls, s.adapter.log = log ++ calls ∧
    (KeysInSession module modules calls → Guarded s.diagnosticState (track module modules calls))

theorem Kept.of_at (hguarded : Guarded state modules) {calls : List AdapterCall}
    {s : Session (Observed A)} (h : At (log ++ calls) state s)
    (hcalls : ∀ req reply, .routedRequest req (.ok reply) ∈ calls → req.serviceId ≠ 0x10) :
    Kept module modules log s :=
  ⟨calls, h.log, fun _ => by rw [h.state]; exact hguarded.track hcalls⟩

theorem Kept.of_idle (hguarded : Guarded state modules) {s : Session (Observed A)} (h : At log state s) :
    Kept module modules log s := by
  have hat : At (log ++ []) state s := ⟨h.log.trans (List.append_nil log).symm, h.state⟩
  exact .of_at hguarded hat nofun

theorem Kept.of_refused (hguarded : Guarded state modules) {calls : List AdapterCall}
    {s : Session (Observed A)} (h : At (log ++ calls) state s)
    (hnone : ∀ routed reply, .routedRequest routed (.ok reply) ∉ calls) : Kept module modules log s :=
  .of_at hguarded h fun req reply hmem => absurd hmem (hnone req reply)

/-- A first request that is no session control may be counted to what came before. -/
theorem Kept.of_after {req : RoutedRequest} (hcontrol : req.serviceId ≠ 0x10) (reply : List UInt8)
    {s : Session (Observed A)}
    (h : Kept module (track module modules [.routedRequest req (.ok reply)])
      (log ++ [.routedRequest req (.ok reply)]) s) : Kept module modules log s := by
  obtain ⟨calls, hlog, hkept⟩ := h
  refine ⟨.routedRequest req (.ok reply) :: calls, hlog.trans (List.append_assoc ..), fun hkeys => ?_⟩
  rw [track_cons]
  refine hkept fun later reply' hmem hkey => ?_
  rw [track_self]
  show ((modules module).acknowledge req reply).session = some .extended
  rw [ModuleState.session_acknowledge _ hcontrol]
  exact hkeys later reply' (List.mem_cons_of_mem _ hmem) hkey

/-- A key was accepted, and the session enters the module as unlocked. -/
theorem Kept.of_key (hguarded : Guarded state modules) {req : RoutedRequest} (hkey : sendsKey req)
    {reply : List UInt8} {s : Session (Observed A)}
    (hlog : s.adapter.log = log ++ [.routedRequest req (.ok reply)])
    (hstate : s.diagnosticState = markUnlocked module state) : Kept module modules log s := by
  refine ⟨_, hlog, fun hkeys m hm => ?_⟩
  rw [hstate] at hm
  by_cases hmodule : m = module
  · subst hmodule
    rw [track_self]
    exact ModuleState.armed_of_key (hkeys req reply (List.mem_singleton_self _) hkey) hkey reply
  · rw [track_other hmodule]
    exact hguarded m ((isUnlocked_markUnlocked hm).resolve_left hmodule)

end Invariant

section Calls
variable {A : Type} [Adapter A] {log : List AdapterCall} {state : DiagnosticSessionState}

theorem ensureInitialized_at :
    Async.Triple (At log state) (ensureInitialized : Op (Observed A) Unit) fun _ => At log state :=
  ensureInitialized_silent.triple fun _ _ h hs => ⟨h.log.trans hs.log, h.diagnosticState.trans hs.state⟩

/-- A request that is acknowledged is one call; one that is not makes none that is. -/
theorem sendRequest_at (req : ServiceRequest) :
    Async.Triple (At log state) (sendRequest req : Op (Observed A) (List UInt8)) fun o s =>
      match o with
      | .ok reply => ∃ routed, routed.serviceId = req.serviceId ∧ routed.data = req.data ∧
          At (log ++ [.routedRequest routed (.ok reply)]) state s
      | _ => ∃ calls, At (log ++ calls) state s ∧
          ∀ routed reply, .routedRequest routed (.ok reply) ∉ calls := by
  intro s h
  rcases sendRequest_cases req s with
    ⟨-, hrun⟩ | ⟨-, e, s', hrun, hkeeps⟩ | ⟨-, routed, o, s', hroute, hrun, hcalled⟩
  · rw [hrun]
    exact ⟨[], ⟨h.log.trans (List.append_nil log).symm, h.state⟩, nofun⟩
  · rw [hrun]
    exact ⟨[], ⟨((congrArg Observed.log hkeeps.adapter).trans h.log).trans (List.append_nil log).symm,
      hkeeps.diagnosticState.trans h.state⟩, nofun⟩
  · rw [hrun]
    obtain ⟨hservice, hdata⟩ := resolveRequest_request hroute
    have hat : At (log ++ [.routedRequest routed o]) state s' :=
      ⟨by rw [hcalled.log, h.log], hcalled.diagnosticState.trans h.state⟩
    cases o with
    | ok reply => exact ⟨routed, hservice, hdata, hat⟩
    | error e => exact ⟨_, hat, fun _ _ hmem => nomatch List.mem_singleton.mp hmem⟩
    | dropped => exact ⟨_, hat, fun _ _ hmem => nomatch List.mem_singleton.mp hmem⟩

variable {module : ModuleId} {modules : ModuleId → ModuleState}

theorem ensureInitialized_kept (hguarded : Guarded state modules) {α : Type} {f : Unit → Op (Observed A) α}
    (hf : Async.Triple (At log state) (f ()) fun _ => Kept module modules log) :
    Async.Triple (At log state) (ensureInitialized >>= f) fun _ => Kept module modules log :=
  ensureInitialized_at.bind (fun _ => hf) (fun _ _ h => .of_idle hguarded h)
    (fun _ h => .of_idle hguarded h)

/-- What follows a request has to be shown only for a request that is acknowledged. -/
theorem sendRequest_kept (hguarded : Guarded state modules) (req : ServiceRequest) {α : Type}
    {f : List UInt8 → Op (Observed A) α}
    (hf : ∀ routed reply, routed.serviceId = req.serviceId → routed.data = req.data →
      Async.Triple (At (log ++ [.routedRequest routed (.ok reply)]) state) (f reply)
        fun _ => Kept module modules log) :
    Async.Triple (At log state) (sendRequest req >>= f) fun _ => Kept module modules log :=
  (sendRequest_at req).bind
    (fun reply s ⟨routed, hservice, hdata, h⟩ => hf routed reply hservice hdata s h)
    (fun _ _ ⟨_, h, hnone⟩ => .of_refused hguarded h hnone)
    (fun _ ⟨_, h, hnone⟩ => .of_refused hguarded h hnone)

/-- After a session control: if it was acknowledged, the session holds no module for unlocked. -/
theorem control_kept (hguarded : Guarded state modules) (req : ServiceRequest)
    {next : DiagnosticSessionState} (hnext : ∀ m, isUnlocked m next = false) :
    Async.Triple (At log state) (do
      ensureInitialized
      let _data ← sendRequest req
      .modify fun s => {s with diagnosticState := next} : Op (Observed A) Unit)
      fun _ => Kept module modules log := by
  refine ensureInitialized_kept hguarded (sendRequest_kept hguarded req fun routed reply _ _ s h => ?_)
  refine ⟨_, h.log, fun _ m hm => ?_⟩
  have hm : isUnlocked m next = true := hm
  rw [hnext m] at hm
  cases hm

theorem enterDiagnosticSession_kept (hguarded : Guarded state modules) (session : DiagSession) :
    Async.Triple (At log state) (enterDiagnosticSession session module : Op (Observed A) Unit)
      fun _ => Kept module modules log := by
  cases session with
  | default => exact control_kept hguarded _ fun _ => rfl
  | programming => exact control_kept hguarded _ fun _ => rfl
  | extended => exact control_kept hguarded _ fun _ => rfl

theorem endDiagnosticSession_kept (hguarded : Guarded state modules) :
    Async.Triple (At log state) (endDiagnosticSession module : Op (Observed A) Unit)
      fun _ => Kept module modules log :=
  control_kept hguarded _ fun _ => rfl

theorem actuatorControl_kept (hguarded : Guarded state modules) (did : UInt16) (command : ActuatorCommand) :
    Async.Triple (At log state) (actuatorControl did module command : Op (Observed A) Unit)
      fun _ => Kept module modules log := by
  refine ensureInitialized_kept hguarded (Async.Triple.get fun s h => ?_)
  split
  · refine sendRequest_kept hguarded ⟨0x2F, actuatorData did command, .module module.id⟩
      (fun routed reply hservice _ s h => ?_) s h
    have hcontrol : routed.serviceId ≠ 0x10 := by
      rw [hservice]
      show (0x2F : UInt8) ≠ 0x10
      decide
    exact .of_after hcontrol reply (.of_idle (hguarded.acknowledged hcontrol reply) h)
  · exact .of_idle hguarded h

/-- Two requests: the seed changes no session, and the key is accepted by the module as the
seed left it. -/
theorem securityAccess_kept (hguarded : Guarded state modules) (keyFn : List UInt8 → List UInt8) :
    Async.Triple (At log state) (securityAccess module keyFn : Op (Observed A) Unit)
      fun _ => Kept module modules log := by
  refine ensureInitialized_kept hguarded (sendRequest_kept hguarded _ fun first seed hfirst _ s h => ?_)
  have hcontrol : first.serviceId ≠ 0x10 := by
    rw [hfirst]
    show (0x27 : UInt8) ≠ 0x10
    decide
  have hseeded : Guarded state (track module modules [.routedRequest first (.ok seed)]) :=
    hguarded.acknowledged hcontrol seed
  refine .of_after hcontrol seed ?_
  split
  · exact .of_idle hseeded h
  · split
    · exact .of_idle hseeded h
    · refine sendRequest_kept hseeded ⟨0x27, 0x02 :: keyFn seed, .module module.id⟩
        (fun second reply hsecond hdata s h => ?_) s h
      have hkey : sendsKey second := ⟨hsecond, by rw [hdata]; rfl⟩
      exact .of_key hseeded hkey h.log (congrArg (markUnlocked module) h.state)

/-- **No call leaves a module unlocked that is not armed**, if keys are accepted in session only. -/
theorem DiagCall.op_kept (hguarded : Guarded state modules) (call : DiagCall) :
    Async.Triple (At log state) (call.op module : Op (Observed A) Unit) fun _ => Kept module modules log := by
  cases call with
  | enter session => exact enterDiagnosticSession_kept hguarded session
  | access keyFn => exact securityAccess_kept hguarded keyFn
  | control did command => exact actuatorControl_kept hguarded did command
  | finish => exact endDiagnosticSession_kept hguarded

end Calls

/-! ### Runs -/

section Runs
variable {A : Type} [Adapter A]

/-- The session after a call, and what the call asked of the adapter. -/
def afterCall (s : Session (Observed A)) (module : ModuleId) (call : DiagCall) : Session (Observed A) :=
  ((call.op module).run s).2

def callsOf (s : Session (Observed A)) (module : ModuleId) (call : DiagCall) : List AdapterCall :=
  (afterCall s module call).adapter.log.drop s.adapter.log.length

/-- The runs of these calls on any modules, with the modules' own states. -/
inductive DiagRun (Meets : Session (Observed A) → (ModuleId → ModuleState) → ModuleId → DiagCall → Prop) :
    Session (Observed A) → (ModuleId → ModuleState) → Prop where
  | start {s : Session (Observed A)} : s.diagnosticState = .default → DiagRun Meets s fun _ => ⟨none, false⟩
  | called {s : Session (Observed A)} {modules : ModuleId → ModuleState} (module : ModuleId)
      (call : DiagCall) : DiagRun Meets s modules → Meets s modules module call →
      DiagRun Meets (afterCall s module call) (track module modules (callsOf s module call))

/-- A call in which no key is accepted out of session. -/
def InSession (s : Session (Observed A)) (modules : ModuleId → ModuleState) (module : ModuleId)
    (call : DiagCall) : Prop :=
  KeysInSession module modules (callsOf s module call)

theorem diagRun_guarded {s : Session (Observed A)} {modules : ModuleId → ModuleState}
    (h : DiagRun InSession s modules) : Guarded s.diagnosticState modules := by
  induction h with
  | start hstate =>
    intro m hm
    rw [hstate] at hm
    cases hm
  | @called s modules module call _ hmeets ih =>
    obtain ⟨calls, hlog, hkept⟩ : Kept module modules s.adapter.log (afterCall s module call) :=
      DiagCall.op_kept ih call s ⟨rfl, rfl⟩
    have hcalls : callsOf s module call = calls := by
      rw [callsOf, hlog, List.drop_left]
    unfold InSession at hmeets
    rw [hcalls] at hmeets ⊢
    exact hkept hmeets

/-- Actuator control asks nothing of the adapter for a module that is not unlocked. -/
theorem control_locked {s : Session (Observed A)} {module : ModuleId} (did : UInt16)
    (command : ActuatorCommand) (h : isUnlocked module s.diagnosticState = false) :
    callsOf s module (.control did command) = [] := by
  have hcontrol : Async.Triple (At s.adapter.log s.diagnosticState)
      (actuatorControl did module command : Op (Observed A) Unit)
      fun _ => At s.adapter.log s.diagnosticState := by
    refine ensureInitialized_at.bind (fun _ => ?_) (fun _ _ h => h) (fun _ h => h)
    refine Async.Triple.get fun t ht => ?_
    have hlocked : ¬ isUnlocked module t.diagnosticState = true := by
      rw [ht.state, h]
      exact Bool.false_ne_true
    rw [if_neg hlocked]
    exact ht
  have hlog : (afterCall s module (.control did command)).adapter.log = s.adapter.log :=
    (hcontrol s ⟨rfl, rfl⟩).log
  rw [callsOf, hlog, List.drop_length]

/-- **Whenever an actuator is controlled, its module is armed**: the last session control it
acknowledged was Extended, and it was unlocked since. -/
theorem controlled_armed {s : Session (Observed A)} {modules : ModuleId → ModuleState}
    (h : DiagRun InSession s modules) (module : ModuleId) (did : UInt16) (command : ActuatorCommand)
    {req : RoutedRequest} {outcome : Outcome Obd2Error (List UInt8)}
    (hsent : .routedRequest req outcome ∈ callsOf s module (.control did command)) :
    (modules module).Armed := by
  refine diagRun_guarded h module ?_
  cases hunlocked : isUnlocked module s.diagnosticState with
  | true => rfl
  | false =>
    rw [control_locked did command hunlocked] at hsent
    cases hsent

end Runs

/-! ### Two modules -/

section Examples

/-- An adapter whose modules acknowledge everything. -/
inductive Compliant where
  | compliant

def compliantInfo : AdapterInfo := ⟨.unknown, [], .can11Bit500, .none⟩

instance : Adapter Compliant where
  initializeAdapter := pure ⟨compliantInfo, [], []⟩
  routedRequest _ := pure [0x12, 0x34]
  batteryVoltage := pure none
  info _ := compliantInfo
  drainEvents adapter := ([], adapter)

def ecm : ModuleId := ⟨"ecm"⟩

def tcm : ModuleId := ⟨"tcm"⟩

def twoModules : VehicleSpec :=
  let bus : BusId := ⟨"hs"⟩
  {communication := ⟨[⟨bus, .can11Bit500, 500000,
    [⟨ecm, "Engine", .can11Bit 0x7E0 0x7E8, bus⟩, ⟨tcm, "Transmission", .can11Bit 0x7E1 0x7E9, bus⟩], none⟩]⟩}

/-- A session that knows two modules, before the first call. -/
def compliantSession : Session (Observed Compliant) :=
  refreshDiscoveryProfile
    {Session.new ⟨.compliant, []⟩ with initialized := true, profile := some ⟨[], some twoModules, []⟩}

def keyOf (seed : List UInt8) : List UInt8 := seed.reverse

/-- Extended session, key, actuator, all of one module. -/
theorem controlled_armed_ecm :
    (track ecm (track ecm (fun _ => ⟨none, false⟩) (callsOf compliantSession ecm (.enter .extended)))
      (callsOf (afterCall compliantSession ecm (.enter .extended)) ecm (.access keyOf)) ecm).Armed := by
  have hentered : InSession compliantSession (fun _ => ⟨none, false⟩) ecm (.enter .extended) := by
    have hcalls : callsOf compliantSession ecm (.enter .extended) =
        [.routedRequest ⟨0x10, [0x03], .addressed (.can11Bit 0x7E0 0x7E8)⟩ (.ok [0x12, 0x34])] := by rfl
    intro req reply hmem hkey
    rw [hcalls] at hmem
    obtain ⟨rfl, -⟩ := AdapterCall.routedRequest.inj (List.mem_singleton.mp hmem)
    exact absurd hkey (by decide)
  have haccessed : InSession (afterCall compliantSession ecm (.enter .extended))
      (track ecm (fun _ => ⟨none, false⟩) (callsOf compliantSession ecm (.enter .extended))) ecm
      (.access keyOf) := fun _ _ _ _ => by rfl
  have hsent : callsOf (afterCall (afterCall compliantSession ecm (.enter .extended)) ecm (.access keyOf)) ecm
      (.control 0x1234 .activate) = [.routedRequest ⟨0x2F, [0x12, 0x34, 0x03],
        .addressed (.can11Bit 0x7E0 0x7E8)⟩ (.ok [0x12, 0x34])] := by rfl
  exact controlled_armed (.called ecm (.access keyOf)
    (.called ecm (.enter .extended) (.start (by rfl)) hentered) haccessed) ecm 0x1234 .activate
    (hsent ▸ List.mem_singleton_self _)

/-- The engine is in an Extended session, and the key is given to the transmission, which is in
none. Its actuator is controlled all the same. -/
theorem unarmed_controlled :
    let session := afterCall (afterCall compliantSession ecm (.enter .extended)) tcm (.access keyOf)
    ∃ modules, DiagRun (fun _ _ _ _ => True) session modules ∧ ¬ (modules tcm).Armed ∧
      callsOf session tcm (.control 0x1234 .activate) =
        [.routedRequest ⟨0x2F, [0x12, 0x34, 0x03], .addressed (.can11Bit 0x7E1 0x7E9)⟩
          (.ok [0x12, 0x34])] := by
  refine ⟨_, .called tcm (.access keyOf) (.called ecm (.enter .extended) (.start (by rfl)) trivial) trivial,
    ?_, by rfl⟩
  rintro ⟨hsession, -⟩
  cases hsession

end Examples

end Obd2.Session

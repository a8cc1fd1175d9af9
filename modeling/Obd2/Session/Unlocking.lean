import Obd2.Session.Composed
import Obd2.Session.ActuatorGate

/-! What security access unlocks.

A module whose key was accepted is entered in the list that actuator control consults, and stays there
until the session changes (`WithinSession.kept`). A seed of zeros says that the module is unlocked
already; security access then returns without an entry, and if the module was not in the list it is
refused as before (`unlocked_iff`). -/
namespace Obd2.Session
open Async

section Runs
variable {A : Type}

/-- What may be noted while the diagnostic session stays the same. -/
structure NoSessionChange (s s' : Session A) : Prop where
  initialized : s'.initialized = s.initialized
  diagnosticState : s'.diagnosticState = s.diagnosticState ∨
    ∃ module, s'.diagnosticState = markUnlocked module s.diagnosticState

theorem noSessionChange_pids : NotesPids (A := A) NoSessionChange := fun _ _ => ⟨rfl, .inl rfl⟩

theorem noSessionChange_unlocked : NotesUnlocked (A := A) NoSessionChange :=
  fun _ module => ⟨rfl, .inr ⟨module, rfl⟩⟩

variable [Adapter A]

/-- The sessions reached by operations other than entering and ending a diagnostic session. -/
inductive WithinSession (s : Session A) : Session A → Prop where
  | here : WithinSession s s
  | ran {t : Session A} {α : Type} {op : Op A α} : WithinSession s t → Composed NoSessionChange op →
      WithinSession s (op.run t).2
  | initialized {t : Session A} : WithinSession s t → WithinSession s (initializeSession.run t).2

end Runs

/-! ### What stays unlocked -/

section Kept
variable {A : Type}

/-- The session stays initialized, and no module is locked. -/
structure KeepsUnlocked (s s' : Session A) : Prop where
  initialized : s.initialized = true → s'.initialized = true
  unlocked : ∀ m, isUnlocked m s.diagnosticState = true → isUnlocked m s'.diagnosticState = true

theorem KeepsUnlocked.refl (s : Session A) : KeepsUnlocked s s := ⟨id, fun _ => id⟩

theorem KeepsUnlocked.trans {s t u : Session A} (h : KeepsUnlocked s t) (h' : KeepsUnlocked t u) :
    KeepsUnlocked s u := ⟨fun hs => h'.initialized (h.initialized hs), fun m hm => h'.unlocked m (h.unlocked m hm)⟩

theorem KeepsUnlocked.of_eq {s s' : Session A} (hinitialized : s'.initialized = s.initialized)
    (hstate : s'.diagnosticState = s.diagnosticState) : KeepsUnlocked s s' :=
  ⟨fun h => hinitialized.trans h, fun m hm => by rw [hstate]; exact hm⟩

theorem isUnlocked_mark (m module : ModuleId) {state : DiagnosticSessionState} (h : isUnlocked m state = true) :
    isUnlocked m (markUnlocked module state) = true := by
  cases state with
  | default => cases h
  | programming => cases h
  | extended ids =>
    dsimp only [markUnlocked]
    split
    · exact h
    · simp only [isUnlocked, List.contains_iff_mem] at h ⊢
      exact List.mem_append_left _ h

theorem isUnlocked_mark_self (module : ModuleId) (state : DiagnosticSessionState) :
    isUnlocked module (markUnlocked module state) = true := by
  cases state with
  | default => simp [markUnlocked, isUnlocked]
  | programming => simp [markUnlocked, isUnlocked]
  | extended ids =>
    by_cases hmem : module.id ∈ ids
    · simp [markUnlocked, isUnlocked, hmem]
    · simp [markUnlocked, isUnlocked, hmem]

theorem NoSessionChange.keeps {s s' : Session A} (h : NoSessionChange s s') : KeepsUnlocked s s' := by
  refine ⟨fun hs => h.initialized.trans hs, fun m hm => ?_⟩
  rcases h.diagnosticState with hsame | ⟨module, hmarked⟩
  · rw [hsame]
    exact hm
  · rw [hmarked]
    exact isUnlocked_mark m module hm

variable [Adapter A]

theorem keptByExchanges_unlocked : KeptByExchanges (A := A) KeepsUnlocked where
  refl := .refl
  trans := .trans
  adapter _ _ := .of_eq rfl rfl
  idle _ := .of_eq rfl rfl
  events events s :=
    .of_eq (keeps_applyAdapterEvents events s).initialized (keeps_applyAdapterEvents events s).diagnosticState
  active s := .of_eq (keeps_markConnectionActive s).initialized (keeps_markConnectionActive s).diagnosticState
  negotiating _ := .of_eq rfl rfl
  reported report s := by
    have hkeeps := keeps_applyInitializationReport report
      {s with initialized := true, connectionState := .adapterInitialized}
    refine ⟨fun _ => hkeeps.initialized, fun m hm => ?_⟩
    show isUnlocked m (applyInitializationReport report _).diagnosticState = true
    rw [hkeeps.diagnosticState]
    exact hm

theorem keptInParts_unlocked : KeptInParts (A := A) KeepsUnlocked where
  refl := .refl
  trans := .trans
  inFlight _ _ := .of_eq rfl rfl
  visible target s := .of_eq (keeps_recordVisibleTarget target s).initialized
    (keeps_recordVisibleTarget target s).diagnosticState
  identified _ _ := .of_eq rfl rfl
  ensures := keptByExchanges_unlocked.ensureInitialized
  exchange _ := keptByExchanges_unlocked.dispatch _

/-- **Nothing is locked within a session.** -/
theorem WithinSession.kept {s t : Session A} (h : WithinSession s t) : KeepsUnlocked s t := by
  induction h with
  | here => exact .refl s
  | ran _ hop ih => exact ih.trans (hop.across keptInParts_unlocked NoSessionChange.keeps _)
  | initialized _ ih => exact ih.trans (keptByExchanges_unlocked.initializeSession _)

end Kept

/-! ### Refusals -/

section Refusals
variable {A : Type}

theorem resolveModuleAddress_error {s : Session (Observed A)} {module : String} {e : Obd2Error}
    (h : s.resolveModuleAddress module = .error e) : e ≠ .securityRequired := by
  unfold resolveModuleAddress at h
  intro heq
  subst heq
  split at h
  · cases h
  · split at h
    · cases h
    · split at h
      · cases h
      · split at h
        · cases h
        · cases h

theorem resolveRequest_error {s : Session (Observed A)} {req : ServiceRequest} {e : Obd2Error}
    (h : s.resolveRequest req = .error e) : e ≠ .securityRequired := by
  unfold resolveRequest at h
  split at h
  · cases h
  · split at h
    · cases h
    · next herror =>
      cases h
      exact resolveModuleAddress_error herror

variable [Adapter A]

/-- Actuator control ends with `SecurityRequired`, and the adapter was asked for nothing. -/
def Refused (s : Session (Observed A)) (module : ModuleId) (did : UInt16) (command : ActuatorCommand) : Prop :=
  ((actuatorControl did module command).run s).1 = .error .securityRequired ∧
    ((actuatorControl did module command).run s).2.adapter.log = s.adapter.log

/-- A request is never refused for want of security. -/
theorem sendRequest_not_refused (req : ServiceRequest) (s : Session (Observed A)) :
    ¬ (((sendRequest req).run s).1 = .error .securityRequired ∧
      ((sendRequest req).run s).2.adapter.log = s.adapter.log) := by
  rintro ⟨herror, hlog⟩
  by_cases hflag : s.requestInFlight = true
  · rw [sendRequest, run_bind_ok (run_get s), if_pos hflag] at herror
    cases herror
  · cases hroute : s.resolveRequest req with
    | error e =>
      rw [sendRequest, run_bind_ok (run_get s), if_neg hflag, hroute] at herror
      cases herror
      exact resolveRequest_error hroute rfl
    | ok routed =>
      obtain ⟨o, s', hrun, hcalled⟩ := sendRequest_called (Bool.eq_false_iff.mpr hflag) hroute
      rw [hrun, hcalled.log] at hlog
      exact List.cons_ne_nil _ _ (List.append_right_eq_self.mp hlog)

/-- **Actuator control is refused exactly for a module that is not in the list.** -/
theorem refused_iff {s : Session (Observed A)} (h : s.initialized = true) (module : ModuleId) (did : UInt16)
    (command : ActuatorCommand) : Refused s module did command ↔ isUnlocked module s.diagnosticState = false := by
  have hrun : (actuatorControl did module command).run s =
      (if isUnlocked module s.diagnosticState = true then do
        let _data ← sendRequest ⟨0x2F, actuatorData did command, .module module.id⟩
        pure ()
      else Async.throw .securityRequired : Op (Observed A) Unit).run s := by
    rw [actuatorControl, run_bind_ok (ensureInitialized_ready h), run_bind_ok (run_get s)]
  rw [Refused, hrun]
  by_cases hunlocked : isUnlocked module s.diagnosticState = true
  · rw [if_pos hunlocked, hunlocked]
    refine iff_of_false ?_ fun h => Bool.false_ne_true h.symm
    have hnot := sendRequest_not_refused ⟨0x2F, actuatorData did command, .module module.id⟩ s
    rw [run_bind]
    cases hsend : (sendRequest ⟨0x2F, actuatorData did command, .module module.id⟩).run s with
    | mk outcome s' =>
      rw [hsend] at hnot
      cases outcome with
      | ok data => exact fun hrefused => nomatch hrefused.1
      | error e => exact fun hrefused => hnot ⟨congrArg _ (Outcome.error.inj hrefused.1), hrefused.2⟩
      | dropped => exact fun hrefused => nomatch hrefused.1
  · rw [if_neg hunlocked]
    exact iff_of_true ⟨rfl, rfl⟩ (Bool.eq_false_iff.mpr hunlocked)

end Refusals

/-! ### Security access -/

section Access
variable {A : Type} [Adapter A] {s s' : Session (Observed A)} {module : ModuleId}

theorem initialized_of_ensure {u : Unit} (h : ensureInitialized.run s = (.ok u, s')) : s'.initialized = true := by
  by_cases hinitialized : s.initialized = true
  · rw [ensureInitialized_ready hinitialized] at h
    cases h
    exact hinitialized
  · rw [ensureInitialized, run_bind_ok (run_get s), if_neg hinitialized] at h
    obtain ⟨info, t, hinit, hpure⟩ := of_run_bind_ok h
    cases hpure
    rw [initializeSession, run_bind_ok (run_modify ..)] at hinit
    obtain ⟨report, u, -, hrest⟩ := of_run_bind_ok hinit
    cases hrest
    exact (keeps_applyInitializationReport report
      {u with initialized := true, connectionState := .adapterInitialized}).initialized

/-- A request that is answered is one call. -/
theorem sendRequest_ok {req : ServiceRequest} {data : List UInt8} (h : (sendRequest req).run s = (.ok data, s')) :
    ∃ routed, Called s s' (.routedRequest routed (.ok data)) := by
  rcases sendRequest_cases req s with ⟨-, hrun⟩ | ⟨-, e, t, hrun, -⟩ | ⟨-, routed, o, t, -, hrun, hcalled⟩
  · rw [hrun] at h
    cases h
  · rw [hrun] at h
    cases h
  · rw [hrun] at h
    cases h
    exact ⟨routed, hcalled⟩

/-- Where security access succeeds the module is entered, unless the seed is zeros. -/
theorem securityAccess_ok {keyFn : List UInt8 → List UInt8} (h : (securityAccess module keyFn).run s = (.ok (), s')) :
    s'.initialized = true ∧ ∃ routed seed rest,
      s'.adapter.log = s.adapter.log ++ .routedRequest routed (.ok seed) :: rest ∧
      s'.diagnosticState =
        if seed.all (· == 0) then s.diagnosticState else markUnlocked module s.diagnosticState := by
  obtain ⟨u, s₁, hensure, h⟩ := of_run_bind_ok h
  obtain ⟨seed, s₂, hseed, h⟩ := of_run_bind_ok h
  have hsilent : Silent s s₁ := by
    have hacross := ensureInitialized_silent s
    rw [hensure] at hacross
    exact hacross
  obtain ⟨routed, hcalled⟩ := sendRequest_ok hseed
  have hinitialized : s₂.initialized = true := by
    have hkept := keptInParts_unlocked.sendRequest ⟨0x27, [0x01], .module module.id⟩ s₁
    rw [hseed] at hkept
    exact hkept.initialized (initialized_of_ensure hensure)
  have hlog : s₂.adapter.log = s.adapter.log ++ [.routedRequest routed (.ok seed)] := by
    rw [hcalled.log, hsilent.log]
  have hstate : s₂.diagnosticState = s.diagnosticState := hcalled.diagnosticState.trans hsilent.diagnosticState
  by_cases hempty : seed.isEmpty = true
  · rw [if_pos hempty] at h
    cases h
  · rw [if_neg hempty] at h
    by_cases hzeros : seed.all (· == 0) = true
    · rw [if_pos hzeros] at h
      cases h
      refine ⟨hinitialized, routed, seed, [], hlog, ?_⟩
      rw [if_pos hzeros, hstate]
    · rw [if_neg hzeros] at h
      obtain ⟨data, s₃, hkey, h⟩ := of_run_bind_ok h
      obtain ⟨routed', hcalled'⟩ := sendRequest_ok hkey
      have hkept := keptInParts_unlocked.sendRequest ⟨0x27, 0x02 :: keyFn seed, .module module.id⟩ s₂
      rw [hkey] at hkept
      cases h
      refine ⟨hkept.initialized hinitialized, routed, seed, [.routedRequest routed' (.ok data)], ?_, ?_⟩
      · show s₃.adapter.log = _
        rw [hcalled'.log, hlog, List.append_assoc]
        rfl
      · show markUnlocked module s₃.diagnosticState = _
        rw [if_neg hzeros, hcalled'.diagnosticState, hstate]

/-- **After security access a module can be controlled until the session changes exactly if the seed
was not zeros, or the module was in the list before.** -/
theorem unlocked_iff {ids : List String} {keyFn : List UInt8 → List UInt8} {routed : RoutedRequest} {seed : List UInt8}
    {rest : List AdapterCall} (hextended : s.diagnosticState = .extended ids)
    (hrun : (securityAccess module keyFn).run s = (.ok (), s'))
    (hseed : s'.adapter.log = s.adapter.log ++ .routedRequest routed (.ok seed) :: rest) :
    (∀ t, WithinSession s' t → ∀ did command, ¬ Refused t module did command) ↔
      (∃ b ∈ seed, b ≠ 0) ∨ module.id ∈ ids := by
  obtain ⟨hinitialized, routed', seed', rest', hlog, hstate⟩ := securityAccess_ok hrun
  have hsame : seed' = seed := by
    rw [hlog] at hseed
    have hcons := List.append_cancel_left hseed
    exact Outcome.ok.inj (AdapterCall.routedRequest.inj (List.cons.inj hcons).1).2
  subst hsame
  have hzeros : seed'.all (· == 0) = false ↔ ∃ b ∈ seed', b ≠ 0 := by simp
  have hlisted : isUnlocked module s.diagnosticState = true ↔ module.id ∈ ids := by
    rw [hextended, isUnlocked, List.contains_iff_mem]
  have hunlocked : isUnlocked module s'.diagnosticState = true ↔ (∃ b ∈ seed', b ≠ 0) ∨ module.id ∈ ids := by
    rw [hstate, ← hzeros, ← hlisted]
    cases seed'.all (· == 0) with
    | true => simp
    | false => simp [isUnlocked_mark_self]
  rw [← hunlocked]
  constructor
  · intro hnever
    have hnot := hnever s' .here 0 .activate
    rw [refused_iff hinitialized] at hnot
    exact eq_true_of_ne_false hnot
  · intro h t hreached did command hrefused
    have hkept := hreached.kept
    rw [refused_iff (hkept.initialized hinitialized), hkept.unlocked module h] at hrefused
    cases hrefused

end Access

/-! ### Two seeds -/

section Examples

/-- An adapter whose modules send this seed, and accept every key. -/
structure Seeded where
  seed : List UInt8

instance : Adapter Seeded where
  initializeAdapter := pure ⟨compliantInfo, [], []⟩
  routedRequest req := fun adapter => (.ok (if asksSeed req then adapter.seed else []), adapter)
  batteryVoltage := pure none
  info _ := compliantInfo
  drainEvents adapter := ([], adapter)

/-- An Extended session in which no module is unlocked. -/
def extendedSession (seed : List UInt8) : Session (Observed Seeded) :=
  refreshDiscoveryProfile
    {Session.new ⟨⟨seed⟩, []⟩ with
      initialized := true, profile := some ⟨[], some twoModules, []⟩, diagnosticState := .extended []}

/-- A seed, and its key: what was reported as unlocked is not refused. -/
theorem unlocked_iff_key :
    ((securityAccess ecm keyOf).run (extendedSession [0xAA, 0xBB])).1 = .ok () ∧
      ∀ t, WithinSession ((securityAccess ecm keyOf).run (extendedSession [0xAA, 0xBB])).2 t →
        ∀ did command, ¬ Refused t ecm did command := by
  have hrun : (securityAccess ecm keyOf).run (extendedSession [0xAA, 0xBB]) =
      (.ok (), ((securityAccess ecm keyOf).run (extendedSession [0xAA, 0xBB])).2) := by rfl
  have hseed : ((securityAccess ecm keyOf).run (extendedSession [0xAA, 0xBB])).2.adapter.log =
      [] ++ .routedRequest ⟨0x27, [0x01], .addressed (.can11Bit 0x7E0 0x7E8)⟩ (.ok [0xAA, 0xBB]) ::
        [.routedRequest ⟨0x27, [0x02, 0xBB, 0xAA], .addressed (.can11Bit 0x7E0 0x7E8)⟩ (.ok [])] := by rfl
  refine ⟨congrArg Prod.fst hrun, ?_⟩
  exact (unlocked_iff rfl hrun hseed).mpr (.inl ⟨0xAA, List.mem_cons_self, by decide⟩)

/-- The module says that it is unlocked, security access succeeds, and actuator control is refused. -/
theorem zero_seed_refused :
    let access := (securityAccess ecm keyOf).run (extendedSession [0x00, 0x00])
    access.1 = .ok () ∧ access.2.adapter.log =
      [.routedRequest ⟨0x27, [0x01], .addressed (.can11Bit 0x7E0 0x7E8)⟩ (.ok [0x00, 0x00])] ∧
      Refused access.2 ecm 0x1234 .activate :=
  ⟨rfl, rfl, rfl, rfl⟩

end Examples

end Obd2.Session

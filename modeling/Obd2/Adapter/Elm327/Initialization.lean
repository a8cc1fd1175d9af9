import Obd2.Adapter.Elm327.Kept

/-! Initialization of the adapter, the first time and again.

The first time it ends with an adapter that is set up and with the attempts that found the
protocol; there is always one (`initialize_first`). From then on there is nothing to do: no
command is sent, and the report has no attempts (`initialize_again`).

Where no attempt succeeds it ends with an error, and with one more event that nobody has taken
(`initialize_unselected`). -/
namespace Obd2.Elm327Adapter
open Async

variable {L : Type} [Link L]

/-- What a first initialization leaves, and what it reports. -/
structure SetUp (report : InitializationReport) (adapter : Elm327Adapter L) : Prop where
  initialized : adapter.initialized = true
  info : adapter.info = report.info
  attempted : report.probeAttempts ≠ []

/-! ### The attempts -/

/-- There are attempts among what was found. -/
abbrev Attempted {α : Type} (found : List ProbeAttempt × α) (_ : Elm327Adapter L) : Prop := found.1 ≠ []

theorem probeProtocols_attempted (order : List (Protocol × Text)) {attempts : List ProbeAttempt}
    (h : attempts ≠ []) :
    Triple (fun _ => True) (probeProtocols order attempts : Elm L _) (Triple.Returns Attempted) := by
  induction order generalizing attempts with
  | nil => exact Triple.returns_pure fun _ _ => h
  | cons first rest ih =>
    refine Triple.returns_after _ fun attempt => ?_
    have hmore : attempts ++ [attempt] ≠ [] := List.append_ne_nil_of_right_ne_nil _ (List.cons_ne_nil _ _)
    split
    · exact Triple.returns_pure fun _ _ => hmore
    · exact ih hmore

theorem selectProtocol_attempted :
    Triple (fun _ => True) (selectProtocol : Elm L _) (Triple.Returns Attempted) := by
  refine Triple.returns_after _ fun response => ?_
  split
  · refine Triple.returns_after _ fun reply => ?_
    cases reply with
    | ok protocolResponse => exact Triple.returns_pure fun _ _ => List.cons_ne_nil _ _
    | error e => exact Triple.returns_pure fun _ _ => List.cons_ne_nil _ _
  · refine Triple.returns_bind (probeProtocols_attempted _ (List.cons_ne_nil _ _)) fun found => ?_
    exact Triple.returns_pure fun _ hfound => hfound

/-! ### The first time, and again -/

/-- What is left once the protocol is known. -/
theorem finish_setUp (info : AdapterInfo) {probeAttempts : List ProbeAttempt} (h : probeAttempts ≠ []) :
    Triple (fun _ => True) (do
      pushEvent (.protocolSelected info.protocol) none
      .modify fun adapter => {adapter with info}
      applyProtocolRuntimePolicy info.protocol
      .modify fun adapter => {adapter with initialized := true}
      let events ← drain
      pure ⟨info, probeAttempts, events⟩ : Elm L InitializationReport) (Triple.Returns SetUp) := by
  refine Triple.returns_after _ fun _ => ?_
  refine Triple.modify (fun a => a.info = info) (fun _ _ => rfl) ?_
  have hpolicy : Triple (fun a => a.info = info) (applyProtocolRuntimePolicy info.protocol : Elm L Unit)
      (Triple.Returns fun _ a => a.info = info) := by
    have hsettled : Across Settled (sendCommandsRaw (protocolRuntimePolicy info.protocol) : Elm L Unit) :=
      kept_settled.sendCommandsRaw fun _ _ => trivial
    refine (hsettled.triple fun a b hab ha => hab.info.trans ha).weaken (fun _ h => h) fun o a ha => ?_
    cases o with
    | ok u => exact ha
    | error e => trivial
    | dropped => trivial
  refine Triple.returns_bind hpolicy fun _ => ?_
  exact fun a ha => ⟨rfl, ha, h⟩

/-- **The first initialization, if it succeeds, leaves the adapter set up.** -/
theorem initialize_first {adapter adapter' : Elm327Adapter L} {report : InitializationReport}
    (h : adapter.initialized = false) (hrun : initializeAdapter.run adapter = (.ok report, adapter')) :
    SetUp report adapter' := by
  rw [initializeAdapter, run_bind_ok (run_get adapter), if_neg (Bool.eq_false_iff.mp h)] at hrun
  refine Triple.returns_run (P := fun _ => True) ?_ trivial hrun
  refine Triple.returns_after _ fun _ => ?_
  refine Triple.returns_after _ fun atzResponse => ?_
  refine Triple.returns_after _ fun stiReply => ?_
  refine Triple.returns_after _ fun _ => ?_
  refine Triple.returns_after _ fun _ => ?_
  refine Triple.returns_bind selectProtocol_attempted fun found => ?_
  obtain ⟨probeAttempts, protocol⟩ := found
  dsimp only
  split
  · exact Triple.returns_after _ fun _ => Triple.returns_throw _
  · exact fun a hattempted => finish_setUp _ hattempted a trivial

/-- **After it there is nothing to do, and nothing is sent.** -/
theorem initialize_again {adapter : Elm327Adapter L} (h : adapter.initialized = true) :
    initializeAdapter.run adapter = (.ok ⟨adapter.info, [], adapter.events⟩, {adapter with events := []}) := by
  rw [initializeAdapter, run_bind_ok (run_get adapter), if_pos h]
  rfl

/-! ### Where no protocol is found -/

/-- Initialization up to the search for the protocol. -/
def prepare : Elm L AdapterInfo := do
  pushEvent .reset (some "initializing adapter".toList)
  let atzResponse ← sendCommand "ATZ".toList
  let stiReply ← (sendCommand "STI".toList).attempt
  let stiResponse :=
    match stiReply with
    | .ok response => if Text.contains response "?".toList then none else some response
    | .error _ => none
  sendCommands
    ["ATE0".toList, "ATL0".toList, "ATH0".toList, "ATS0".toList, "ATAT1".toList, "ATSP0".toList]
  pushEvent .protocolSearching (some "ATSP0".toList)
  pure (AdapterInfo.detect atzResponse stiResponse)

/-- Initialization from there on. -/
def selectAndFinish (info : AdapterInfo) : Elm L InitializationReport := do
  let (probeAttempts, protocol) ← selectProtocol
  let info := {info with protocol}
  if protocol = .auto then
    pushEvent .unsupportedProtocol (some "no supported protocol could be selected".toList)
    .throw (.adapter "unable to determine active protocol")
  else
    pushEvent (.protocolSelected protocol) none
    .modify fun adapter => {adapter with info}
    applyProtocolRuntimePolicy protocol
    .modify fun adapter => {adapter with initialized := true}
    let events ← drain
    pure ⟨info, probeAttempts, events⟩

theorem initializeAdapter_split {adapter : Elm327Adapter L} (h : adapter.initialized = false) :
    initializeAdapter.run adapter = (prepare >>= selectAndFinish).run adapter := by
  rw [initializeAdapter, run_bind_ok (run_get adapter), if_neg (Bool.eq_false_iff.mp h)]
  simp only [prepare, bind_assoc]
  rfl

theorem initializeAdapter_of_prepare {adapter prepared : Elm327Adapter L} {info : AdapterInfo}
    (h : adapter.initialized = false) (hprepare : prepare.run adapter = (.ok info, prepared)) :
    initializeAdapter.run adapter = (selectAndFinish info).run prepared := by
  rw [initializeAdapter_split h, run_bind_ok hprepare]

/-- None of the attempts found a protocol. -/
abbrev Unsuccessful (attempts : List ProbeAttempt) : Prop := ∀ attempt ∈ attempts, attempt.result ≠ .success

theorem probeProtocols_unsuccessful (order : List (Protocol × Text)) (attempts : List ProbeAttempt) :
    Triple (fun _ => True) (probeProtocols order attempts : Elm L _)
      (Triple.Returns fun found _ => Unsuccessful found.1 → found.2 = none) := by
  induction order generalizing attempts with
  | nil => exact Triple.returns_pure fun _ _ _ => rfl
  | cons first rest ih =>
    refine Triple.returns_after _ fun attempt => ?_
    by_cases hsuccess : attempt.result = .success
    · rw [if_pos hsuccess]
      apply Triple.returns_pure
      intro _ _ hunsuccessful
      exact absurd hsuccess (hunsuccessful attempt (List.mem_append_right _ List.mem_cons_self))
    · rw [if_neg hsuccess]
      exact ih _

theorem selectProtocol_unsuccessful :
    Triple (fun _ => True) (selectProtocol : Elm L _)
      (Triple.Returns fun found _ => Unsuccessful found.1 → found.2 = .auto) := by
  refine Triple.returns_after _ fun response => ?_
  by_cases hshows : showsSupportedPids response = true
  · rw [if_pos hshows]
    refine Triple.returns_after _ fun reply => ?_
    cases reply with
    | ok protocolResponse =>
      apply Triple.returns_pure
      intro _ _ hunsuccessful
      exact absurd rfl (hunsuccessful _ List.mem_cons_self)
    | error e => exact Triple.returns_pure fun _ _ _ => rfl
  · rw [if_neg hshows]
    refine Triple.returns_bind (probeProtocols_unsuccessful _ _) fun found => ?_
    apply Triple.returns_pure
    intro _ hfound hunsuccessful
    dsimp only
    rw [hfound hunsuccessful]
    rfl

/-- **Without a protocol initialization fails, and the event that says so stays with the adapter.** -/
theorem initialize_unselected {adapter prepared searched : Elm327Adapter L} {info : AdapterInfo}
    {attempts : List ProbeAttempt} {protocol : Protocol} (h : adapter.initialized = false)
    (hprepare : prepare.run adapter = (.ok info, prepared))
    (hsearch : selectProtocol.run prepared = (.ok (attempts, protocol), searched))
    (hunsuccessful : Unsuccessful attempts) :
    initializeAdapter.run adapter = (.error (.adapter "unable to determine active protocol"),
      {searched with events := searched.events ++
        [⟨.unsupportedProtocol, some "no supported protocol could be selected".toList⟩]}) := by
  have hauto : protocol = .auto := by
    have hfound := Triple.returns_run selectProtocol_unsuccessful trivial hsearch
    exact hfound hunsuccessful
  rw [initializeAdapter_of_prepare h hprepare, selectAndFinish, run_bind_ok hsearch]
  dsimp only
  rw [if_pos hauto]
  rfl

end Obd2.Elm327Adapter

import Obd2.Session.Freshness

/-! Initializing a session again.

The adapter sends nothing the second time, and its report has no attempts. The session takes that
report for the whole story: the attempts of the first time are gone, and with them the reason for
the choice of the protocol (`initialize_again_iff`). The rest stays (`initialize_again_keeps`). -/
namespace Obd2.Session
open Elm327Adapter Async

section Again
variable {L : Type} [Link L]

/-- Nothing was sent, and what the session tells of its initialization is the same. -/
structure Unchanged (s s' : Session (Elm327Adapter L)) : Prop where
  transport : s'.adapter.transport = s.adapter.transport
  probeAttempts : s'.probeAttempts = s.probeAttempts
  connectionState : s'.connectionState = s.connectionState
  discovery : s'.discovery = s.discovery

/-- The profile after an initialization. -/
theorem initializedWith_discovery (s : Session (Elm327Adapter L)) (report : InitializationReport)
    (adapter : Elm327Adapter L) :
    (s.initializedWith report adapter).discovery = some (Discovery.resolveDiscoveryProfile adapter.info s.spec
      report.probeAttempts s.visibleEcus) := rfl

/-- The first report has attempts, unless the adapter was initialized before. -/
theorem probeAttempts_eq_nil_iff {adapter adapter' : Elm327Adapter L} {report : InitializationReport}
    (h : initializeAdapter.run adapter = (.ok report, adapter')) :
    report.probeAttempts = [] ↔ adapter.initialized = true := by
  cases hinitialized : adapter.initialized with
  | false => exact iff_of_false (initialize_first hinitialized h).attempted Bool.false_ne_true
  | true =>
    rw [initialize_again hinitialized] at h
    cases h
    exact iff_of_true rfl rfl

variable {s s' : Session (Elm327Adapter L)} {info : AdapterInfo}

/-- **Initializing again sends nothing and succeeds**, and bus and modules are those there were. -/
theorem initialize_again_keeps (h : initializeSession.run s = (.ok info, s')) :
    let again := initializeSession.run s'
    again.1 = .ok info ∧ again.2.adapter.transport = s'.adapter.transport ∧
      again.2.connectionState = s'.connectionState ∧
      again.2.discovery.map (·.activeBus) = s'.discovery.map (·.activeBus) ∧
      again.2.discovery.map (·.modules) = s'.discovery.map (·.modules) := by
  intro again
  have hfresh := fresh_of_initialized h
  obtain ⟨report, adapter, hrun, rfl⟩ := initializeSession_ok h
  have hagain : again = _ := initializeSession_again hfresh.adapter
  rw [initializeSession_run hrun] at h
  rw [hagain, initializedWith_adapter]
  exact ⟨congrArg Prod.fst h, rfl, rfl, rfl, rfl⟩

/-- **Initializing again changes nothing exactly if the adapter was initialized before the first
time.** -/
theorem initialize_again_iff (h : initializeSession.run s = (.ok info, s')) :
    ((initializeSession.run s').1 = .ok info ∧ Unchanged s' (initializeSession.run s').2) ↔
      s.adapter.initialized = true := by
  have hfresh := fresh_of_initialized h
  obtain ⟨report, adapter, hrun, rfl⟩ := initializeSession_ok h
  rw [← probeAttempts_eq_nil_iff hrun, initializeSession_again hfresh.adapter, initializedWith_adapter]
  rw [initializeSession_run hrun] at h
  constructor
  · rintro ⟨-, hsame⟩
    exact hsame.probeAttempts.symm
  · intro hnone
    refine ⟨congrArg Prod.fst h, rfl, hnone.symm, rfl, ?_⟩
    rw [initializedWith_discovery, initializedWith_discovery, hnone]
    rfl

end Again

/-- A session over an adapter that is initialized already. -/
theorem initialize_again_iff_ready :
    let session := (initializeSession.run (readySession .can11Bit500 [])).2
    Unchanged session (initializeSession.run session).2 := by
  intro session
  exact ((initialize_again_iff (s := readySession .can11Bit500 []) rfl).mpr rfl).2

/-- An adapter whose vehicle answers under the first protocol probed after auto-detection failed. -/
def probedTranscript : List (Text × Text) :=
  [("ATZ".toList, "ELM327 v2.1\r\r>".toList), ("STI".toList, "?\r>".toList),
    ("0100".toList, "NO DATA\r>".toList), ("0100".toList, "41 00 BE 3E B8 11\r>".toList)]

/-- The session forgets its probes, and takes the protocol for auto-detected. -/
theorem initialize_again_forgets :
    let first := initializeSession.run (Session.new (Elm327Adapter.new
      (MockTransport.expecting probedTranscript)))
    let again := initializeSession.run first.2
    first.1.isOk = true ∧ first.2.probeAttempts.length = 2 ∧
      first.2.discovery.map (·.protocolChoiceSource) = some .explicitProbe ∧
      again.1.isOk = true ∧ again.2.probeAttempts = [] ∧
      again.2.discovery.map (·.protocolChoiceSource) = some .autoDetect := by
  refine ⟨?_, ?_, ?_, ?_, ?_, ?_⟩
  · decide +kernel
  · decide +kernel
  · decide +kernel
  · decide +kernel
  · decide +kernel
  · decide +kernel

end Obd2.Session

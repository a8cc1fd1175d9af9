import Obd2.Session.Freshness

/-! A session whose vehicle speaks no protocol that was tried.

The events of an initialization reach the session in its report, and a failed one has none. The
session stays where the search began, and what the adapter had to say about it waits for the next
exchange (`failure_hidden`). -/
namespace Obd2.Session
open Elm327Adapter Async

/-- What an attempt that found no protocol should come to. -/
structure FailureVisible {L : Type} (after : Outcome Obd2Error AdapterInfo × Session (Elm327Adapter L)) : Prop where
  failed : ∃ e, after.1 = .error e
  surfaced : after.2.connectionState = .unsupportedProtocol
  drained : after.2.adapter.events = []

/-- The event that no protocol could be selected. -/
def nothingSelected : AdapterEvent :=
  ⟨.unsupportedProtocol, some "no supported protocol could be selected".toList⟩

/-- **A search without success is reported, and neither surfaced nor drained**, whatever the session
was before. -/
theorem failure_hidden {L : Type} [Link L] {s : Session (Elm327Adapter L)} {prepared searched : Elm327Adapter L}
    {info : AdapterInfo} {attempts : List ProbeAttempt} {protocol : Protocol}
    (h : s.adapter.initialized = false) (hprepare : prepare.run s.adapter = (.ok info, prepared))
    (hsearch : selectProtocol.run prepared = (.ok (attempts, protocol), searched))
    (hunsuccessful : Unsuccessful attempts) :
    let after := initializeSession.run s
    ¬ FailureVisible after ∧ after.1 = .error (.adapter "unable to determine active protocol") ∧
      after.2.connectionState = .protocolNegotiating ∧ nothingSelected ∈ after.2.adapter.events := by
  intro after
  have hadapter := initialize_unselected h hprepare hsearch hunsuccessful
  have hafter : after = (.error (.adapter "unable to determine active protocol"),
      {s with
        connectionState := .protocolNegotiating
        adapter := {searched with events := searched.events ++ [nothingSelected]}}) := by
    show initializeSession.run s = _
    rw [initializeSession, run_bind_ok (run_modify ..), run_bind_error (onAdapter_initialized hadapter)]
    rfl
  have hnegotiating : after.2.connectionState = .protocolNegotiating := by rw [hafter]
  refine ⟨?_, by rw [hafter], hnegotiating, ?_⟩
  · intro hvisible
    have hsurfaced := hvisible.surfaced
    rw [hnegotiating] at hsurfaced
    cases hsurfaced
  · rw [hafter]
    exact List.mem_append_right _ List.mem_cons_self

/-! ### Examples -/

/-- A device behind which nobody answers. -/
def silentSession : Session (Elm327Adapter MockTransport) :=
  Session.new (Elm327Adapter.new (MockTransport.expecting [("ATZ".toList, "ELM327 v2.1\r\r>".toList)]))

/-- Ten attempts, each of them answered with `NO DATA`. -/
def silentAttempts : List ProbeAttempt :=
  ⟨.auto, .autoDetect, .noResponse, some "NO DATA\r>".toList⟩ :: fallbackProbeOrder.map fun probe =>
    ⟨probe.1, .explicitProbe, .noResponse, some "NO DATA\r>".toList⟩

theorem silent_prepared : (prepare.run silentSession.adapter).1.isOk = true := by
  decide +kernel

theorem silent_searched :
    ((selectProtocol : Elm MockTransport _).run (prepare.run silentSession.adapter).2).1 =
      .ok (silentAttempts, .auto) := by
  decide +kernel

theorem silent_unsuccessful : Unsuccessful silentAttempts := by
  decide

theorem failure_hidden_silent :
    let after := initializeSession.run silentSession
    ¬ FailureVisible after ∧ after.1 = .error (.adapter "unable to determine active protocol") ∧
      after.2.connectionState = .protocolNegotiating ∧ nothingSelected ∈ after.2.adapter.events := by
  obtain ⟨info, hinfo⟩ := Outcome.eq_ok_of_isOk silent_prepared
  generalize hprepared : (prepare.run silentSession.adapter).2 = prepared
  have hprepare : prepare.run silentSession.adapter = (.ok info, prepared) := Prod.ext hinfo hprepared
  have hsearch := silent_searched
  rw [hprepared] at hsearch
  generalize hsearched : ((selectProtocol : Elm MockTransport _).run prepared).2 = searched
  have hsearch : (selectProtocol : Elm MockTransport _).run prepared = (.ok (silentAttempts, .auto), searched) :=
    Prod.ext hsearch hsearched
  exact failure_hidden rfl hprepare hsearch silent_unsuccessful

/-- The session still searches, and the event is the last of those that wait. -/
theorem silence_not_surfaced :
    (initializeSession.run silentSession).2.connectionState = .protocolNegotiating ∧
      (initializeSession.run silentSession).2.adapter.events.getLast? = some nothingSelected ∧
      ¬ FailureVisible (initializeSession.run silentSession) := by
  have hnegotiating : (initializeSession.run silentSession).2.connectionState = .protocolNegotiating := by
    decide +kernel
  refine ⟨hnegotiating, by decide +kernel, ?_⟩
  intro hvisible
  have hsurfaced := hvisible.surfaced
  rw [hnegotiating] at hsurfaced
  cases hsurfaced

end Obd2.Session

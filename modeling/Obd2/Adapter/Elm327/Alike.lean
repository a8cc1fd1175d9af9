import Obd2.Adapter.Elm327
import Obd2.Async.Alike

/-! Adapters that cannot be told apart.

An adapter is known by the outcomes of its calls, its information and its events. Over links that behave alike
the ELM327 adapters do (`over_alike`): whatever is different about the links stays below the adapter. -/
namespace Obd2
open Async

/-- What a relation of links owes for writes and reads to be alike. -/
structure LinksAlike {L L' : Type} [Link L] [Link L'] (S : L → L' → Prop) : Prop where
  write : ∀ data, Alike S (Link.write data : Async Obd2Error L Unit) (Link.write data)
  read : Alike S (Link.read : Async Obd2Error L (List UInt8)) Link.read

/-- What a relation of adapters owes for a session not to tell them apart. -/
structure AdaptersAlike {A B : Type} [Adapter A] [Adapter B] (R : A → B → Prop) : Prop where
  initializeAdapter : Alike R (Adapter.initializeAdapter : Async Obd2Error A _) Adapter.initializeAdapter
  routedRequest : ∀ req, Alike R (Adapter.routedRequest req : Async Obd2Error A _) (Adapter.routedRequest req)
  batteryVoltage : Alike R (Adapter.batteryVoltage : Async Obd2Error A _) Adapter.batteryVoltage
  info : ∀ a b, R a b → Adapter.info a = Adapter.info b
  events : ∀ a b, R a b → (Adapter.drainEvents a).1 = (Adapter.drainEvents b).1
  drained : ∀ a b, R a b → R (Adapter.drainEvents a).2 (Adapter.drainEvents b).2

namespace Elm327Adapter
variable {L L' : Type}

/-- The adapter, moved to another link. -/
def onto (transport : L') (a : Elm327Adapter L) : Elm327Adapter L' :=
  ⟨transport, a.info, a.initialized, a.currentHeader, a.events⟩

@[simp] theorem onto_info (l : L') (a : Elm327Adapter L) : (a.onto l).info = a.info := rfl
@[simp] theorem onto_initialized (l : L') (a : Elm327Adapter L) : (a.onto l).initialized = a.initialized := rfl
@[simp] theorem onto_currentHeader (l : L') (a : Elm327Adapter L) : (a.onto l).currentHeader = a.currentHeader := rfl

/-- The adapters are the same but for their links, and these are related. -/
def Over (S : L → L' → Prop) (a : Elm327Adapter L) (b : Elm327Adapter L') : Prop :=
  ∃ l, S a.transport l ∧ b = a.onto l

section Over
variable {S : L → L' → Prop}

theorem pushEvents_alike (events : List AdapterEvent) :
    Alike (Over S) (pushEvents events : Elm L Unit) (pushEvents events) := by
  refine Alike.modify ?_
  intro a b hab
  obtain ⟨l, hl, rfl⟩ := hab
  exact ⟨l, hl, rfl⟩

theorem forget_alike :
    Alike (Over S) (.modify fun adapter => {adapter with currentHeader := none} : Elm L Unit)
      (.modify fun adapter => {adapter with currentHeader := none}) := by
  refine Alike.modify ?_
  intro a b hab
  obtain ⟨l, hl, rfl⟩ := hab
  exact ⟨l, hl, rfl⟩

theorem onTransport_alike {α : Type} {x : Async Obd2Error L α} {y : Async Obd2Error L' α} (h : Alike S x y) :
    Alike (Over S) (onTransport x) (onTransport y) := by
  refine Alike.on h ?_ ?_
  · intro a b hab
    obtain ⟨l, hl, rfl⟩ := hab
    exact hl
  · intro a b hab l' m' hm
    obtain ⟨l, hl, rfl⟩ := hab
    exact ⟨m', hm, rfl⟩

theorem sanitizeResponseBytes_alike (responseBytes : List UInt8) :
    Alike (Over S) (sanitizeResponseBytes responseBytes : Elm L Text) (sanitizeResponseBytes responseBytes) := by
  unfold sanitizeResponseBytes
  dsimp only
  split
  · exact (pushEvents_alike _).bind fun _ => Alike.pure _
  · exact Alike.pure _

theorem drain_alike : Alike (Over S) (drain : Elm L (List AdapterEvent)) drain := by
  intro a b hab
  obtain ⟨l, hl, rfl⟩ := hab
  exact ⟨rfl, l, hl, rfl⟩

variable [Link L] [Link L'] (h : LinksAlike S)
include h

theorem sendCommandRaw_alike (cmd : Text) :
    Alike (Over S) (sendCommandRaw cmd : Elm L Text) (sendCommandRaw cmd) :=
  (onTransport_alike (h.write _)).bind fun _ => (onTransport_alike h.read).bind fun responseBytes =>
    sanitizeResponseBytes_alike responseBytes

theorem sendCommandsRaw_alike (cmds : List Text) :
    Alike (Over S) (sendCommandsRaw cmds : Elm L Unit) (sendCommandsRaw cmds) := by
  induction cmds with
  | nil => exact Alike.pure ()
  | cons cmd rest ih => exact (sendCommandRaw_alike h cmd).bind fun _ => ih

theorem handleFaultRecovery_alike (response : Text) :
    Alike (Over S) (handleFaultRecovery response : Elm L Unit) (handleFaultRecovery response) := by
  unfold handleFaultRecovery
  split
  · refine (pushEvents_alike _).bind fun _ => (sendCommandRaw_alike h _).bind fun _ => ?_
    exact forget_alike.bind fun _ => sendCommandsRaw_alike h runtimeDefaults
  · exact Alike.pure ()

theorem sendCommand_alike (cmd : Text) : Alike (Over S) (sendCommand cmd : Elm L Text) (sendCommand cmd) :=
  (sendCommandRaw_alike h cmd).bind fun response => (pushEvents_alike _).bind fun _ =>
    (handleFaultRecovery_alike h response).bind fun _ => Alike.pure response

theorem sendCommands_alike (cmds : List Text) :
    Alike (Over S) (sendCommands cmds : Elm L Unit) (sendCommands cmds) := by
  induction cmds with
  | nil => exact Alike.pure ()
  | cons cmd rest ih => exact (sendCommand_alike h cmd).bind fun _ => ih

/-! ### Requests -/

theorem setHeader_alike (header : Text) : Alike (Over S) (setHeader header : Elm L Unit) (setHeader header) := by
  refine Alike.get ?_
  intro a b hab
  obtain ⟨l, hl, rfl⟩ := hab
  rw [onto_currentHeader]
  split
  · exact Alike.pure ()
  · refine (sendCommand_alike h _).bind fun response => ?_
    split
    · refine Alike.update ?_ (pushEvents_alike _)
      intro a b hab
      obtain ⟨l, hl, rfl⟩ := hab
      exact ⟨l, hl, rfl⟩
    · exact Alike.throw _

theorem applyTarget_alike (target : PhysicalTarget) :
    Alike (Over S) (applyTarget target : Elm L Unit) (applyTarget target) := by
  cases target with
  | broadcast =>
    refine Alike.get ?_
    intro a b hab
    obtain ⟨l, hl, rfl⟩ := hab
    rw [onto_currentHeader, onto_info]
    split
    · exact Alike.pure ()
    · split
      · exact forget_alike
      · exact (setHeader_alike h _).bind fun _ => pushEvents_alike _
  | addressed address =>
    unfold applyTarget
    dsimp only
    split
    · exact setHeader_alike h _
    · exact Alike.throw _

theorem routedRequest_alike (req : RoutedRequest) :
    Alike (Over S) (routedRequest req : Elm L (List UInt8)) (routedRequest req) := by
  refine (applyTarget_alike h req.target).bind fun _ => (sendCommand_alike h _).bind fun response => Alike.get ?_
  intro a b hab
  obtain ⟨l, hl, rfl⟩ := hab
  exact Alike.lift _

theorem batteryVoltage_alike : Alike (Over S) (batteryVoltage : Elm L (Option Float)) batteryVoltage :=
  (sendCommand_alike h _).bind fun _ => Alike.pure _

/-! ### Initialization -/

theorem probeProtocols_alike (order : List (Protocol × Text)) (attempts : List ProbeAttempt) :
    Alike (Over S) (probeProtocols order attempts : Elm L _) (probeProtocols order attempts) := by
  induction order generalizing attempts with
  | nil => exact Alike.pure _
  | cons first rest ih =>
    obtain ⟨protocol, command⟩ := first
    have hprobe : Alike (Over S) (probeProtocol protocol .explicitProbe command : Elm L ProbeAttempt)
        (probeProtocol protocol .explicitProbe command) :=
      (sendCommand_alike h command).bind fun _ => (sendCommand_alike h _).bind fun response => Alike.pure _
    refine hprobe.bind fun attempt => ?_
    split
    · exact Alike.pure _
    · exact ih _

theorem selectProtocol_alike : Alike (Over S) (selectProtocol : Elm L _) selectProtocol := by
  refine (sendCommand_alike h _).bind fun response => ?_
  split
  · refine (sendCommand_alike h _).attempt.bind fun reply => ?_
    cases reply with
    | ok protocolResponse => exact Alike.pure _
    | error e => exact Alike.pure _
  · exact (probeProtocols_alike h fallbackProbeOrder _).bind fun found => Alike.pure _

theorem initializeAdapter_alike : Alike (Over S) (initializeAdapter : Elm L InitializationReport) initializeAdapter := by
  refine Alike.get ?_
  intro a b hab
  obtain ⟨l, hl, rfl⟩ := hab
  rw [onto_initialized, onto_info]
  split
  · exact drain_alike.bind fun events => Alike.pure _
  · refine (pushEvents_alike _).bind fun _ => (sendCommand_alike h _).bind fun atzResponse => ?_
    refine (sendCommand_alike h _).attempt.bind fun stiReply => (sendCommands_alike h _).bind fun _ => ?_
    refine (pushEvents_alike _).bind fun _ => (selectProtocol_alike h).bind fun found => ?_
    obtain ⟨probeAttempts, protocol⟩ := found
    dsimp only
    split
    · exact (pushEvents_alike _).bind fun _ => Alike.throw _
    · refine (pushEvents_alike _).bind fun _ => Alike.update ?_ ?_
      · intro a b hab
        obtain ⟨l, hl, rfl⟩ := hab
        exact ⟨l, hl, rfl⟩
      · refine (sendCommandsRaw_alike h _).bind fun _ => Alike.update ?_ (drain_alike.bind fun events => Alike.pure _)
        intro a b hab
        obtain ⟨l, hl, rfl⟩ := hab
        exact ⟨l, hl, rfl⟩

/-- Over links that behave alike, so do the adapters. -/
theorem over_alike : AdaptersAlike (Over S) where
  initializeAdapter := initializeAdapter_alike h
  routedRequest := routedRequest_alike h
  batteryVoltage := batteryVoltage_alike h
  info := by
    intro a b hab
    obtain ⟨l, hl, rfl⟩ := hab
    rfl
  events := by
    intro a b hab
    obtain ⟨l, hl, rfl⟩ := hab
    rfl
  drained := by
    intro a b hab
    obtain ⟨l, hl, rfl⟩ := hab
    exact ⟨l, hl, rfl⟩

end Over

end Elm327Adapter

end Obd2

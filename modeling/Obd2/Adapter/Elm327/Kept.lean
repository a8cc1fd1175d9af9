import Obd2.Adapter.Elm327.Answer

/-! What the adapter's operations keep.

An operation is made of commands, of events, and of what the adapter notes of them. A relation
that these keep is kept by the operation (`Kept`); what has to be shown of it is said once. The
commands it is shown for may be restricted by a predicate.

No operation but initialization changes what the adapter knows of the device (`Settled`). -/
namespace Obd2.Elm327Adapter
open Async

/-- What a relation owes to be kept across commands that satisfy `P`. -/
structure Kept {L : Type} [Link L] (P : Text → Prop) (R : Elm327Adapter L → Elm327Adapter L → Prop) :
    Prop where
  refl : ∀ a, R a a
  trans : ∀ {a b c}, R a b → R b c → R a c
  raw : ∀ {cmd}, P cmd → Across R (sendCommandRaw cmd)
  events : ∀ a events, R a {a with events}
  forget : ∀ a, R a {a with currentHeader := none}
  recovery : ∀ cmd ∈ "ATFE".toList :: runtimeDefaults, P cmd

namespace Kept
variable {L : Type} [Link L] {P : Text → Prop} {R : Elm327Adapter L → Elm327Adapter L → Prop}

theorem next (h : Kept P R) {α β : Type} {x : Elm L α} {f : α → Elm L β} (hx : Across R x)
    (hf : ∀ a, Across R (f a)) : Across R (x >>= f) := Across.bind h.trans hx hf

theorem done (h : Kept P R) {α : Type} (a : α) : Across R (pure a : Elm L α) := Across.pure h.refl a

theorem pushEvents (h : Kept P R) (events : List AdapterEvent) :
    Across R (pushEvents events : Elm L Unit) := Across.modify fun _ => h.events ..

theorem sendCommandsRaw (h : Kept P R) {cmds : List Text} (hcmds : ∀ cmd ∈ cmds, P cmd) :
    Across R (sendCommandsRaw cmds : Elm L Unit) := by
  induction cmds with
  | nil => exact h.done ()
  | cons cmd rest ih =>
    exact h.next (h.raw (hcmds cmd List.mem_cons_self)) fun _ =>
      ih fun c hc => hcmds c (List.mem_cons_of_mem cmd hc)

theorem handleFaultRecovery (h : Kept P R) (response : Text) :
    Across R (handleFaultRecovery response : Elm L Unit) := by
  unfold Elm327Adapter.handleFaultRecovery
  split
  · refine h.next (h.pushEvents _) fun _ => ?_
    refine h.next (h.raw (h.recovery _ List.mem_cons_self)) fun _ => ?_
    refine h.next (Across.modify h.forget) fun _ => ?_
    exact h.sendCommandsRaw fun cmd hcmd => h.recovery cmd (List.mem_cons_of_mem _ hcmd)
  · exact h.done ()

theorem sendCommand (h : Kept P R) {cmd : Text} (hcmd : P cmd) : Across R (sendCommand cmd : Elm L Text) := by
  refine h.next (h.raw hcmd) fun response => ?_
  refine h.next (h.pushEvents _) fun _ => ?_
  exact h.next (h.handleFaultRecovery response) fun _ => h.done response

theorem sendCommands (h : Kept P R) {cmds : List Text} (hcmds : ∀ cmd ∈ cmds, P cmd) :
    Across R (sendCommands cmds : Elm L Unit) := by
  induction cmds with
  | nil => exact h.done ()
  | cons cmd rest ih =>
    exact h.next (h.sendCommand (hcmds cmd List.mem_cons_self)) fun _ =>
      ih fun c hc => hcmds c (List.mem_cons_of_mem cmd hc)

theorem probeProtocols (h : Kept P R) (hprobe : P "0100".toList) {order : List (Protocol × Text)}
    (horder : ∀ p ∈ order, P p.2) (attempts : List ProbeAttempt) :
    Across R (probeProtocols order attempts : Elm L _) := by
  induction order generalizing attempts with
  | nil => exact h.done _
  | cons first rest ih =>
    obtain ⟨protocol, command⟩ := first
    have hfirst : Across R (probeProtocol protocol .explicitProbe command) := by
      refine h.next (h.sendCommand (horder _ List.mem_cons_self)) fun _ => ?_
      exact h.next (h.sendCommand hprobe) fun response => h.done _
    refine h.next hfirst fun attempt => ?_
    split
    · exact h.done _
    · exact ih (fun p hp => horder p (List.mem_cons_of_mem _ hp)) _

theorem selectProtocol (h : Kept P R) (hprobe : P "0100".toList) (hask : P "ATDPN".toList)
    (horder : ∀ p ∈ fallbackProbeOrder, P p.2) : Across R (selectProtocol : Elm L _) := by
  refine h.next (h.sendCommand hprobe) fun response => ?_
  split
  · refine h.next (Across.attempt (h.sendCommand hask)) fun reply => ?_
    cases reply with
    | ok protocolResponse => exact h.done _
    | error e => exact h.done _
  · exact h.next (h.probeProtocols hprobe horder _) fun found => h.done _

end Kept

/-! ### What the adapter knows of the device -/

/-- The adapter is as much initialized as it was, and on the same protocol. -/
structure Settled {L : Type} (a b : Elm327Adapter L) : Prop where
  info : b.info = a.info
  initialized : b.initialized = a.initialized

theorem Settled.trans {L : Type} {a b c : Elm327Adapter L} (h : Settled a b) (h' : Settled b c) :
    Settled a c := ⟨h'.info.trans h.info, h'.initialized.trans h.initialized⟩

section Settled
variable {L : Type} [Link L]

theorem kept_settled : Kept (fun _ => True) (Settled (L := L)) where
  refl _ := ⟨rfl, rfl⟩
  trans := Settled.trans
  raw {cmd} _ a := by
    obtain ⟨events, hrun⟩ := sendCommandRaw_run cmd a
    rw [hrun]
    exact ⟨rfl, rfl⟩
  events _ _ := ⟨rfl, rfl⟩
  forget _ := ⟨rfl, rfl⟩
  recovery _ _ := trivial

theorem setHeader_settled (header : Text) : Across Settled (setHeader header : Elm L Unit) := by
  refine kept_settled.next (Across.get kept_settled.refl) fun adapter => ?_
  split
  · exact kept_settled.done ()
  · refine kept_settled.next (kept_settled.sendCommand trivial) fun response => ?_
    split
    · exact kept_settled.next (Across.modify fun _ => ⟨rfl, rfl⟩) fun _ => kept_settled.pushEvents _
    · exact Across.throw kept_settled.refl _

theorem applyTarget_settled (target : PhysicalTarget) : Across Settled (applyTarget target : Elm L Unit) := by
  cases target with
  | broadcast =>
    refine kept_settled.next (Across.get kept_settled.refl) fun adapter => ?_
    split
    · exact kept_settled.done ()
    · split
      · exact Across.modify fun _ => ⟨rfl, rfl⟩
      · exact kept_settled.next (setHeader_settled _) fun _ => kept_settled.pushEvents _
  | addressed address =>
    unfold applyTarget
    dsimp only
    split
    · exact setHeader_settled _
    · exact Across.throw kept_settled.refl _

/-- **A request leaves what the adapter knows of the device as it is.** -/
theorem routedRequest_settled (req : RoutedRequest) : Across Settled (routedRequest req : Elm L _) := by
  refine kept_settled.next (applyTarget_settled req.target) fun _ => ?_
  refine kept_settled.next (kept_settled.sendCommand trivial) fun response => ?_
  refine kept_settled.next (Across.get kept_settled.refl) fun adapter => ?_
  cases decodeResponse (familyOf adapter.info.protocol) req.serviceId req.data response with
  | ok payload => exact kept_settled.done payload
  | error e => exact Across.throw kept_settled.refl e

theorem batteryVoltage_settled : Across Settled (batteryVoltage : Elm L _) :=
  kept_settled.next (kept_settled.sendCommand trivial) fun _ => kept_settled.done _

end Settled

end Obd2.Elm327Adapter

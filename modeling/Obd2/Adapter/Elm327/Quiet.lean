import Obd2.Adapter.Elm327.Initialization

/-! The event that no protocol is supported.

Only initialization records it, and an initialization that succeeds hands its events over. So an
adapter that is initialized and answers requests never has it (`onlyInitializing`). -/
namespace Obd2

namespace Elm327Adapter
open Async

section Quiet
variable {L : Type}

def QuietEvents (events : List AdapterEvent) : Prop := ∀ event ∈ events, event.kind ≠ .unsupportedProtocol

/-- What may be added to the events. -/
def StaysQuiet (a b : Elm327Adapter L) : Prop := QuietEvents a.events → QuietEvents b.events

theorem StaysQuiet.refl (a : Elm327Adapter L) : StaysQuiet a a := id

theorem StaysQuiet.trans {a b c : Elm327Adapter L} (h : StaysQuiet a b) (h' : StaysQuiet b c) : StaysQuiet a c :=
  fun ha => h' (h ha)

theorem quiet_append {events more : List AdapterEvent} (h : QuietEvents events) (h' : QuietEvents more) :
    QuietEvents (events ++ more) := by
  intro event hevent
  rcases List.mem_append.mp hevent with hevent | hevent
  · exact h event hevent
  · exact h' event hevent

theorem quiet_one {kind : AdapterEventKind} (h : kind ≠ .unsupportedProtocol) (detail : Option Text) :
    QuietEvents [⟨kind, detail⟩] := List.forall_mem_singleton.mpr h

theorem quiet_if {condition : Prop} [Decidable condition] {kind : AdapterEventKind}
    (h : kind ≠ .unsupportedProtocol) (detail : Option Text) :
    QuietEvents (if condition then [⟨kind, detail⟩] else []) := by
  split
  · exact quiet_one h detail
  · exact List.forall_mem_nil _

theorem quiet_responseEvents (response : Text) : QuietEvents (responseEvents response) := by
  unfold responseEvents
  dsimp only
  refine quiet_append (quiet_append (quiet_append (quiet_append (quiet_append (quiet_append (quiet_append
    (quiet_append (quiet_append (quiet_append ?_ ?_) ?_) ?_) ?_) ?_) ?_) ?_) ?_) ?_) ?_
  all_goals
    apply quiet_if
    intro h
    cases h

theorem pushEvents_quiet {events : List AdapterEvent} (h : QuietEvents events) :
    Across StaysQuiet (pushEvents events : Elm L Unit) := Across.modify fun _ ha => quiet_append ha h

variable [Link L]

theorem sendCommandRaw_quiet (cmd : Text) : Across StaysQuiet (sendCommandRaw cmd : Elm L Text) := by
  refine Across.bind .trans (fun _ => id) fun _ => Across.bind .trans (fun _ => id) fun responseBytes => ?_
  unfold sanitizeResponseBytes
  dsimp only
  split
  · exact Across.bind .trans (pushEvents_quiet (quiet_one (by simp) _)) fun _ => Across.pure .refl _
  · exact Across.pure .refl _

theorem sendCommandsRaw_quiet (cmds : List Text) : Across StaysQuiet (sendCommandsRaw cmds : Elm L Unit) := by
  induction cmds with
  | nil => exact Across.pure .refl ()
  | cons cmd rest ih => exact Across.bind .trans (sendCommandRaw_quiet cmd) fun _ => ih

theorem sendCommand_quiet (cmd : Text) : Across StaysQuiet (sendCommand cmd : Elm L Text) := by
  refine Across.bind .trans (sendCommandRaw_quiet cmd) fun response => ?_
  refine Across.bind .trans (pushEvents_quiet (quiet_responseEvents response)) fun _ => ?_
  refine Across.bind .trans ?_ fun _ => Across.pure .refl response
  unfold handleFaultRecovery
  split
  · refine Across.bind .trans (pushEvents_quiet (quiet_one (by simp) _)) fun _ => ?_
    refine Across.bind .trans (sendCommandRaw_quiet _) fun _ => ?_
    exact Across.bind .trans (Across.modify fun _ => id) fun _ => sendCommandsRaw_quiet runtimeDefaults
  · exact Across.pure .refl ()

theorem setHeader_quiet (header : Text) : Across StaysQuiet (setHeader header : Elm L Unit) := by
  refine Across.bind .trans (Across.get .refl) fun adapter => ?_
  split
  · exact Across.pure .refl ()
  · refine Across.bind .trans (sendCommand_quiet _) fun response => ?_
    split
    · exact Across.bind .trans (Across.modify fun _ => id) fun _ =>
        pushEvents_quiet (quiet_one (by simp) _)
    · exact Across.throw .refl _

theorem applyTarget_quiet (target : PhysicalTarget) : Across StaysQuiet (applyTarget target : Elm L Unit) := by
  cases target with
  | broadcast =>
    refine Across.bind .trans (Across.get .refl) fun adapter => ?_
    split
    · exact Across.pure .refl ()
    · split
      · exact Across.modify fun _ => id
      · exact Across.bind .trans (setHeader_quiet _) fun _ => pushEvents_quiet (quiet_one (by simp) _)
  | addressed address =>
    unfold applyTarget
    dsimp only
    split
    · exact setHeader_quiet _
    · exact Across.throw .refl _

theorem exchange_quiet {α : Type} {x : Async Obd2Error (Elm327Adapter L) α} (hx : AdapterExchange x) :
    Across StaysQuiet x := by
  cases hx with
  | request routed =>
    refine Across.bind .trans (applyTarget_quiet routed.target) fun _ => ?_
    refine Across.bind .trans (sendCommand_quiet _) fun response => ?_
    refine Across.bind .trans (Across.get .refl) fun adapter => ?_
    cases decodeResponse (familyOf adapter.info.protocol) routed.serviceId routed.data response with
    | ok payload => exact Across.pure .refl payload
    | error e => exact Across.throw .refl e
  | voltage => exact Across.bind .trans (sendCommand_quiet _) fun _ => Across.pure .refl _

/-- An initialization that succeeds leaves no events. -/
theorem initializeAdapter_drained : Triple (fun _ => True) (initializeAdapter : Elm L InitializationReport)
    (Triple.Returns fun _ adapter => adapter.events = []) := by
  have hdrain (report : List AdapterEvent → InitializationReport) :
      Triple (fun _ => True) (drain >>= fun events => pure (report events) : Elm L InitializationReport)
        (Triple.Returns fun _ adapter => adapter.events = []) := fun _ _ => rfl
  refine Triple.get fun adapter _ => ?_
  split
  · exact hdrain _ adapter trivial
  · refine Triple.returns_after (P := fun _ => True) _ (fun _ => ?_) adapter trivial
    refine Triple.returns_after _ fun atzResponse => Triple.returns_after _ fun stiReply => ?_
    refine Triple.returns_after _ fun _ => Triple.returns_after _ fun _ => Triple.returns_after _ fun found => ?_
    obtain ⟨probeAttempts, protocol⟩ := found
    dsimp only
    split
    · exact Triple.returns_after _ fun _ => Triple.returns_throw _
    · refine Triple.returns_after _ fun _ => Triple.returns_after _ fun _ => ?_
      exact Triple.returns_after _ fun _ => Triple.returns_after _ fun _ => hdrain _

/-- **The adapter records that no protocol is supported only while it initializes**, whatever its link. -/
theorem onlyInitializing : OnlyInitializing (Elm327Adapter L) := by
  have hquiet : ∀ a : Elm327Adapter L, AdapterReached a → QuietEvents a.events := by
    intro a h
    induction h with
    | initialized hrun =>
      rw [Triple.returns_run initializeAdapter_drained trivial hrun]
      exact List.forall_mem_nil _
    | exchanged _ hx ih => exact exchange_quiet hx _ ih
    | drained _ _ => exact List.forall_mem_nil _
  exact hquiet

end Quiet

end Elm327Adapter

end Obd2

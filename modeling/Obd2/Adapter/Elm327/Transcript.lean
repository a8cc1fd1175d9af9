import Obd2.Adapter.Elm327.Kept

/-! Broadcast requests over a transcript.

A transcript is what a device answers to one command after the other. Broadcast requests take
from it one after the other: the default header is set before the first of them if it has to be,
and from then on the commands are all there is (`applyTarget_broadcasting`). -/
namespace Obd2.Elm327Adapter
open Async ElmCodec

section Transcript
variable {L : Type} [Link L]

/-- The device answers the commands, in this order. -/
inductive Transcript : L → List (Text × Text) → Prop where
  | nil (transport : L) : Transcript transport []
  | cons {transport transport' : L} {cmd response : Text} {rest : List (Text × Text)} :
      (exchange cmd).run transport = (.ok response, transport') → Transcript transport' rest →
      Transcript transport ((cmd, response) :: rest)

/-- The device sends under its default header, as far as the adapter knows. -/
def Broadcasting (adapter : Elm327Adapter L) : Prop :=
  adapter.currentHeader = none ∨ adapter.currentHeader = defaultBroadcastHeader adapter.info.protocol

theorem setHeader_current (header : Text) :
    Triple (fun _ => True) (setHeader header : Elm L Unit)
      (Triple.Returns fun _ adapter => adapter.currentHeader = some header) := by
  refine Triple.get fun adapter _ => ?_
  by_cases hcurrent : adapter.currentHeader = some header
  · rw [if_pos hcurrent]
    exact hcurrent
  · rw [if_neg hcurrent]
    refine Triple.returns_after (P := fun _ => True) _ (fun response => ?_) adapter trivial
    split
    · refine Triple.modify (fun a : Elm327Adapter L => a.currentHeader = some header) (fun _ _ => rfl) ?_
      exact fun a ha => ha
    · exact Triple.returns_throw _

/-- A broadcast target that is taken leaves the default header. -/
theorem broadcasting_of_applyTarget {adapter targeted : Elm327Adapter L}
    (h : (applyTarget .broadcast).run adapter = (.ok (), targeted)) : Broadcasting targeted := by
  have hsettled := applyTarget_settled .broadcast adapter
  rw [h] at hsettled
  rw [applyTarget, clearTargeting, run_bind_ok (run_get adapter)] at h
  by_cases hcurrent : adapter.currentHeader = none
  · rw [if_pos hcurrent] at h
    cases h
    exact .inl hcurrent
  · rw [if_neg hcurrent] at h
    cases hdefault : defaultBroadcastHeader adapter.info.protocol with
    | none =>
      rw [hdefault] at h
      cases h
      exact .inl rfl
    | some header =>
      rw [hdefault] at h
      have hset : Triple (fun _ => True) (do
          setHeader header
          pushEvent (.headerReset header) (some "restored broadcast header".toList) : Elm L Unit)
          (Triple.Returns fun _ a => a.currentHeader = some header) :=
        Triple.returns_bind (setHeader_current header)
          fun _ (a : Elm327Adapter L) (ha : a.currentHeader = some header) => ha
      have hcurrent' := Triple.returns_run hset trivial h
      exact .inr (by rw [hcurrent', hsettled.info, hdefault])

/-- From there on nothing has to be sent for it. -/
theorem applyTarget_broadcasting (adapter : Elm327Adapter L) (h : Broadcasting adapter) :
    ∃ targeted, (applyTarget .broadcast).run adapter = (.ok (), targeted) ∧
      targeted.transport = adapter.transport := by
  rw [applyTarget, clearTargeting, run_bind_ok (run_get adapter)]
  by_cases hcurrent : adapter.currentHeader = none
  · rw [if_pos hcurrent]
    exact ⟨adapter, rfl, rfl⟩
  · rw [if_neg hcurrent, ← h.resolve_left hcurrent]
    cases hheader : adapter.currentHeader with
    | none => exact absurd hheader hcurrent
    | some header =>
      have hset : (setHeader header).run adapter = (.ok (), adapter) := by
        rw [setHeader, run_bind_ok (run_get adapter), if_pos hheader]
        rfl
      exact ⟨_, run_bind_ok hset _, rfl⟩

end Transcript

end Obd2.Elm327Adapter

import Obd2.Process.Rules

/-! A process over a layer.

A layer turns what a process sends and receives into exchanges on other channels (`through`). If it hands on
certain messages of a stream and then fails, the process over it ends on the stream as it ends by itself on
these messages, with that failure as the end of them (`Layer.Serves.run_over`).

The layer of `skipping` receives until a message is accepted, passing over so many others; what it hands on
is `heard`. -/
namespace Obd2

/-- How the messages of a process go over channels of others. -/
structure Layer (ε ι ο ι' ο' : Type) where
  send : ο → Process ε ι' ο' Unit
  recv : Process ε ι' ο' ι

namespace Process
variable {ε ι ο ι' ο' α β : Type}

instance : LawfulMonad (Process ε ι ο) := LawfulMonad.mk' (Process ε ι ο) bind_ret ret_bind bind_assoc

def through (layer : Layer ε ι ο ι' ο') : Process ε ι ο α → Process ε ι' ο' α
  | ret a => .ret a
  | fail e => .fail e
  | send m next => layer.send m >>= fun _ => through layer next
  | recv next => layer.recv >>= fun m => through layer (next m)

end Process

namespace Layer
open Process
variable {ε ι ο ι' ο' α : Type}

/-- What the layer makes of a stream that ends with `closed`: messages it hands on, one receive after the
other, and the error it fails with behind them. What is sendable is put on the channel as one message. -/
structure Serves (layer : Layer ε ι ο ι' ο') (closed : ε) (heard : List ι' → List ι → ε → Prop)
    (sendable : ο → Prop) (put : ο → ο') : Prop where
  send : ∀ {m} xs, sendable m → (layer.send m).run closed xs = ⟨.ok (), [put m], xs⟩
  recv : ∀ {xs y ys e}, heard xs (y :: ys) e → ∃ xs', layer.recv.run closed xs = ⟨.ok y, [], xs'⟩ ∧ heard xs' ys e
  silent : ∀ {xs e}, heard xs [] e → ∃ xs', layer.recv.run closed xs = ⟨.error e, [], xs'⟩

/-- **Over a layer a process ends as it does on what the layer hands on.** -/
theorem Serves.run_over {layer : Layer ε ι ο ι' ο'} {closed : ε} {heard : List ι' → List ι → ε → Prop}
    {sendable : ο → Prop} {put : ο → ο'} (h : layer.Serves closed heard sendable put) {p : Process ε ι ο α}
    (hp : SendsOnly sendable p) {xs : List ι'} {ys : List ι} {e : ε} (hheard : heard xs ys e) :
    ((through layer p).run closed xs).result = (p.run e ys).result ∧
      ((through layer p).run closed xs).sent = (p.run e ys).sent.map put ∧
      ∀ a, (p.run e ys).result = .ok a → heard ((through layer p).run closed xs).rest (p.run e ys).rest e := by
  induction hp generalizing xs ys with
  | ret a => exact ⟨rfl, rfl, fun _ _ => hheard⟩
  | fail e' => exact ⟨rfl, rfl, fun _ hok => by cases hok⟩
  | @send m next hm _ ih =>
    obtain ⟨hresult, hsent, hrest⟩ := ih hheard
    rw [through, run_bind, h.send xs hm]
    exact ⟨hresult, congrArg (put m :: ·) hsent, hrest⟩
  | @recv next _ ih =>
    rw [through, run_bind]
    cases ys with
    | nil =>
      obtain ⟨xs', hsilent⟩ := h.silent hheard
      rw [hsilent]
      exact ⟨rfl, rfl, fun _ hok => by cases hok⟩
    | cons y ys =>
      obtain ⟨xs', hrecv, hrest⟩ := h.recv hheard
      rw [hrecv]
      exact ih y hrest

end Layer

/-! ### Passing over messages -/

namespace Process
variable {ε ι ο α : Type}

/-- The next message that is accepted; of others `allowed` are passed over. A message that cannot be judged
is an error. -/
def skipping (judge : ι → Except ε Bool) (gaveUp : ε) : Nat → Process ε ι ο ι
  | 0 => .recv fun m => do
    if ← .lift (judge m) then .ret m else .fail gaveUp
  | allowed + 1 => .recv fun m => do
    if ← .lift (judge m) then .ret m else skipping judge gaveUp allowed

/-- What the reader hands on out of a stream that ends with `closed`, and what it fails with then; `allowed`
is what is left of the patience for the next one. -/
def heard (judge : ι → Except ε Bool) (gaveUp closed : ε) (most : Nat) : Nat → List ι → List ι × ε
  | _, [] => ([], closed)
  | allowed, m :: ms =>
    match judge m with
    | .error e => ([], e)
    | .ok true => (m :: (heard judge gaveUp closed most most ms).1, (heard judge gaveUp closed most most ms).2)
    | .ok false =>
      match allowed with
      | 0 => ([], gaveUp)
      | allowed + 1 => heard judge gaveUp closed most allowed ms

/-- The reader on one message: what it does with it, and what it goes on with. -/
theorem skipping_bind (judge : ι → Except ε Bool) (gaveUp : ε) (allowed : Nat) (k : ι → Process ε ι ο α) :
    ∃ g, (skipping judge gaveUp allowed >>= k) = .recv g ∧
      (∀ m, judge m = .ok true → g m = k m) ∧
      (∀ m e, judge m = .error e → g m = .fail e) ∧
      ∀ m, judge m = .ok false →
        (∃ e, g m = .fail e) ∨ ∃ left, left < allowed ∧ g m = skipping judge gaveUp left >>= k := by
  cases allowed with
  | zero =>
    refine ⟨_, rfl, ?_, ?_, ?_⟩
    · intro m hm
      simp only [hm, lift_ok, ret_bind, if_true]
      rfl
    · intro m e hm
      simp only [hm, lift_error, fail_bind]
      rfl
    · intro m hm
      refine .inl ⟨gaveUp, ?_⟩
      simp only [hm, lift_ok, ret_bind, Bool.false_eq_true, if_false]
      rfl
  | succ allowed =>
    refine ⟨_, rfl, ?_, ?_, ?_⟩
    · intro m hm
      simp only [hm, lift_ok, ret_bind, if_true]
      rfl
    · intro m e hm
      simp only [hm, lift_error, fail_bind]
      rfl
    · intro m hm
      refine .inr ⟨allowed, Nat.lt_succ_self allowed, ?_⟩
      simp only [hm, lift_ok, ret_bind, Bool.false_eq_true, if_false]
      rfl

section Heard
variable {judge : ι → Except ε Bool} {gaveUp : ε} (closed : ε) (most allowed : Nat)

theorem heard_error {m : ι} {e : ε} (hm : judge m = .error e) (ms : List ι) :
    heard judge gaveUp closed most allowed (m :: ms) = ([], e) := by
  simp only [heard, hm]

theorem heard_accepted {m : ι} (hm : judge m = .ok true) (ms : List ι) :
    heard judge gaveUp closed most allowed (m :: ms) =
      (m :: (heard judge gaveUp closed most most ms).1, (heard judge gaveUp closed most most ms).2) := by
  simp only [heard, hm]

theorem heard_rejected {m : ι} (hm : judge m = .ok false) (ms : List ι) :
    heard judge gaveUp closed most allowed (m :: ms) =
      match allowed with
      | 0 => ([], gaveUp)
      | allowed + 1 => heard judge gaveUp closed most allowed ms := by
  cases allowed <;> simp only [heard, hm]

theorem run_skipping (xs : List ι) :
    (∀ y ys e, heard judge gaveUp closed most allowed xs = (y :: ys, e) →
      ∃ xs', (skipping judge gaveUp allowed : Process ε ι ο ι).run closed xs = ⟨.ok y, [], xs'⟩ ∧
        heard judge gaveUp closed most most xs' = (ys, e)) ∧
    ∀ e, heard judge gaveUp closed most allowed xs = ([], e) →
      ∃ xs', (skipping judge gaveUp allowed : Process ε ι ο ι).run closed xs = ⟨.error e, [], xs'⟩ := by
  induction xs generalizing allowed with
  | nil =>
    refine ⟨fun y ys e h => ?_, fun e h => ⟨[], ?_⟩⟩
    · rw [heard] at h
      cases h
    · rw [heard] at h
      obtain rfl : closed = e := congrArg Prod.snd h
      cases allowed <;> rfl
  | cons m xs ih =>
    obtain ⟨g, hg, haccept, herror, hreject⟩ := skipping_bind (ο := ο) judge gaveUp allowed .ret
    rw [bind_ret] at hg
    cases hm : judge m with
    | error e' =>
      rw [heard_error closed most allowed hm, hg, run, herror m e' hm]
      refine ⟨fun y ys e h => (by cases h), fun e h => ⟨xs, ?_⟩⟩
      obtain rfl : e' = e := congrArg Prod.snd h
      rfl
    | ok accepted =>
      cases accepted with
      | true =>
        rw [heard_accepted closed most allowed hm, hg, run, haccept m hm]
        refine ⟨fun y ys e h => ⟨xs, ?_, ?_⟩, fun e h => (by cases h)⟩
        · obtain rfl : m = y := (List.cons.inj (congrArg Prod.fst h)).1
          rfl
        · have hfirst := (List.cons.inj (congrArg Prod.fst h)).2
          have hsecond : (heard judge gaveUp closed most most xs).2 = e := congrArg Prod.snd h
          exact Prod.ext hfirst hsecond
      | false =>
        rw [heard_rejected closed most allowed hm]
        cases allowed with
        | zero =>
          refine ⟨fun y ys e h => (by cases h), fun e h => ⟨xs, ?_⟩⟩
          obtain rfl : gaveUp = e := congrArg Prod.snd h
          simp only [skipping, run, hm, lift_ok, ret_bind, Bool.false_eq_true, if_false]
        | succ allowed =>
          simp only [skipping, run, hm, lift_ok, ret_bind, Bool.false_eq_true, if_false]
          exact ih allowed

/-- Where everything can be judged, and no more is to be passed over at once than the reader does, it hands
on all that is accepted. -/
theorem heard_eq_filter {most : Nat} {xs : List ι} (hjudged : ∀ m ∈ xs, ∃ accepted, judge m = .ok accepted)
    (hgaps : ∀ gap, gap <:+: xs → (∀ m ∈ gap, judge m = .ok false) → gap.length ≤ most) :
    heard judge gaveUp closed most most xs = (xs.filter fun m => (judge m).toOption == some true, closed) := by
  have hall : ∀ allowed, (∀ gap, gap <+: xs → (∀ m ∈ gap, judge m = .ok false) → gap.length ≤ allowed) →
      heard judge gaveUp closed most allowed xs = (xs.filter fun m => (judge m).toOption == some true, closed) := by
    induction xs with
    | nil =>
      intro allowed _
      rfl
    | cons m xs ih =>
      intro allowed hallowed
      have hrest := ih (fun m' h => hjudged m' (List.mem_cons_of_mem m h))
        fun gap h => hgaps gap (h.trans (List.infix_cons List.infix_rfl))
      obtain ⟨accepted, hm⟩ := hjudged m List.mem_cons_self
      rw [List.filter_cons]
      cases accepted with
      | true =>
        have hmost := hrest most fun gap h => hgaps gap (h.isInfix.trans (List.infix_cons List.infix_rfl))
        rw [heard_accepted closed most allowed hm, hmost, hm]
        rfl
      | false =>
        have hone : 1 ≤ allowed := hallowed [m] ⟨xs, rfl⟩ (List.forall_mem_singleton.mpr hm)
        obtain ⟨left, rfl⟩ : ∃ left, allowed = left + 1 := ⟨allowed - 1, by omega⟩
        rw [heard_rejected closed most _ hm, hm]
        refine hrest left fun gap h hgap => ?_
        have hlonger := hallowed (m :: gap) (List.cons_prefix_cons.mpr ⟨rfl, h⟩) (List.forall_mem_cons.mpr ⟨hm, hgap⟩)
        exact Nat.le_of_succ_le_succ hlonger
  exact hall most fun gap h => hgaps gap h.isInfix

end Heard

end Process

/-- Messages are vetted before they are sent, and passed over by the reader. -/
def Layer.skipping {ε ι ο : Type} (vet : ο → Except ε Unit) (judge : ι → Except ε Bool) (gaveUp : ε) (most : Nat) :
    Layer ε ι ο ι ο where
  send m := do
    .lift (vet m)
    .send m (.ret ())
  recv := Process.skipping judge gaveUp most

theorem Layer.skipping_serves {ε ι ο : Type} (vet : ο → Except ε Unit) (judge : ι → Except ε Bool) (gaveUp closed : ε)
    (most : Nat) :
    (Layer.skipping vet judge gaveUp most).Serves closed
      (fun xs ys e => Process.heard judge gaveUp closed most most xs = (ys, e)) (fun m => vet m = .ok ()) id where
  send := by
    intro m xs hm
    simp only [Layer.skipping, hm, Process.lift_ok, Process.ret_bind]
    rfl
  recv := fun h => (Process.run_skipping closed most most _).1 _ _ _ h
  silent := fun h => (Process.run_skipping closed most most _).2 _ h

end Obd2

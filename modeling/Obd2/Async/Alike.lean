import Obd2.Async

/-! Computations that behave alike on different states.

Two computations are alike for a relation if from related states they end with the same outcome, in related
states. What is put together from parts that are alike is alike, so the relation has to be shown for the
primitive operations only, and whatever is built of these cannot tell the one state from the other. -/
namespace Obd2.Async
variable {ε σ τ υ σ' τ' α β κ : Type}

/-- From related states the two end alike, in related states. -/
def Alike (R : σ → τ → Prop) (x : Async ε σ α) (y : Async ε τ α) : Prop :=
  ∀ s t, R s t → (x.run s).1 = (y.run t).1 ∧ R (x.run s).2 (y.run t).2

namespace Alike
variable {R : σ → τ → Prop} {x : Async ε σ α} {y : Async ε τ α}

theorem pure (a : α) : Alike R (pure a : Async ε σ α) (pure a) := fun _ _ h => ⟨rfl, h⟩

theorem throw (e : ε) : Alike R (throw e : Async ε σ α) (throw e) := fun _ _ h => ⟨rfl, h⟩

theorem lift (z : Except ε α) : Alike R (lift z : Async ε σ α) (lift z) := by
  cases z with
  | ok a => exact pure a
  | error e => exact throw e

theorem modify {f : σ → σ} {g : τ → τ} (h : ∀ s t, R s t → R (f s) (g t)) :
    Alike R (modify f : Async ε σ Unit) (modify g) := fun s t hR => ⟨rfl, h s t hR⟩

theorem bind {f : α → Async ε σ β} {g : α → Async ε τ β} (h : Alike R x y) (hf : ∀ a, Alike R (f a) (g a)) :
    Alike R (x >>= f) (y >>= g) := by
  intro s t hR
  obtain ⟨houtcome, hafter⟩ := h s t hR
  rw [run_bind, run_bind]
  cases hx : x.run s with
  | mk outcome s' =>
    cases hy : y.run t with
    | mk outcome' t' =>
      rw [hx, hy] at houtcome hafter
      obtain rfl : outcome = outcome' := houtcome
      cases outcome with
      | ok a => exact hf a s' t' hafter
      | error e => exact ⟨rfl, hafter⟩
      | dropped => exact ⟨rfl, hafter⟩

/-- What follows may look at the state, as far as it is the same in related ones. -/
theorem get {f : σ → Async ε σ β} {g : τ → Async ε τ β} (h : ∀ s t, R s t → Alike R (f s) (g t)) :
    Alike R (get >>= f) (get >>= g) := fun s t hR => h s t hR s t hR

/-- An update, and what follows it. -/
theorem update {f : σ → σ} {g : τ → τ} {x : Async ε σ β} {y : Async ε τ β} (h : ∀ s t, R s t → R (f s) (g t))
    (hxy : Alike R x y) :
    Alike R ((Async.modify f : Async ε σ Unit) >>= fun _ => x) ((Async.modify g : Async ε τ Unit) >>= fun _ => y) :=
  (modify h).bind fun _ => hxy

theorem attempt (h : Alike R x y) : Alike R x.attempt y.attempt := by
  intro s t hR
  obtain ⟨houtcome, hafter⟩ := h s t hR
  rw [run_attempt, run_attempt]
  cases hx : x.run s with
  | mk outcome s' =>
    cases hy : y.run t with
    | mk outcome' t' =>
      rw [hx, hy] at houtcome hafter
      obtain rfl : outcome = outcome' := houtcome
      cases outcome with
      | ok a => exact ⟨rfl, hafter⟩
      | error e => exact ⟨rfl, hafter⟩
      | dropped => exact ⟨rfl, hafter⟩

/-- On parts of the states that are related, where these stay related with what the parts become. -/
theorem on {S : σ' → τ' → Prop} {x : Async ε σ' α} {y : Async ε τ' α} {part : σ → σ'} {put : σ' → σ → σ}
    {part' : τ → τ'} {put' : τ' → τ → τ} (h : Alike S x y) (hpart : ∀ s t, R s t → S (part s) (part' t))
    (hput : ∀ s t, R s t → ∀ a b, S a b → R (put a s) (put' b t)) :
    Alike R (x.on part put) (y.on part' put') := by
  intro s t hR
  obtain ⟨houtcome, hafter⟩ := h _ _ (hpart s t hR)
  exact ⟨houtcome, hput s t hR _ _ hafter⟩

/-- An update on one side only. -/
theorem before {f : σ → σ} (hf : ∀ s t, R s t → R (f s) t) (h : Alike R x y) :
    Alike R ((Async.modify f : Async ε σ Unit) >>= fun _ => x) y := fun s t hR => h (f s) t (hf s t hR)

/-- What comes to the same value behind one side only. -/
theorem after {f : α → Async ε σ α} (h : Alike R x y) (hf : ∀ a, Alike R (f a) (Pure.pure a)) :
    Alike R (x >>= f) y := by
  rw [← bind_pure y]
  exact h.bind hf

theorem foldlM {f : β → κ → Async ε σ β} {g : β → κ → Async ε τ β} (h : ∀ b k, Alike R (f b k) (g b k))
    (ks : List κ) (b : β) : Alike R (ks.foldlM f b) (ks.foldlM g b) := by
  induction ks generalizing b with
  | nil => exact pure b
  | cons k ks ih =>
    rw [List.foldlM_cons, List.foldlM_cons]
    exact (h b k).bind ih

end Alike

/-! ### Invariants -/

/-- The invariant holds behind the computation if it held before, however this ends. -/
def Preserves (I : σ → Prop) (x : Async ε σ α) : Prop := ∀ s, I s → I (x.run s).2

namespace Preserves
variable {I : σ → Prop} {x : Async ε σ α}

theorem pure (a : α) : Preserves I (pure a : Async ε σ α) := fun _ h => h

theorem throw (e : ε) : Preserves I (throw e : Async ε σ α) := fun _ h => h

theorem lift (z : Except ε α) : Preserves I (lift z : Async ε σ α) := by
  cases z with
  | ok a => exact pure a
  | error e => exact throw e

theorem modify {f : σ → σ} (h : ∀ s, I s → I (f s)) : Preserves I (modify f : Async ε σ Unit) := h

theorem bind {f : α → Async ε σ β} (hx : Preserves I x) (hf : ∀ a, Preserves I (f a)) : Preserves I (x >>= f) :=
  Across.bind (R := fun s s' => I s → I s') (fun h h' hs => h' (h hs)) hx hf

/-- What follows may rely on the invariant of the state it looks at. -/
theorem get {f : σ → Async ε σ β} (h : ∀ s, I s → Preserves I (f s)) : Preserves I (get >>= f) := fun s hs => h s hs s hs

theorem attempt (hx : Preserves I x) : Preserves I x.attempt := Across.attempt (R := fun s s' => I s → I s') hx

/-- A computation that keeps an invariant is alike to itself in states that are the same and satisfy it. -/
theorem alike (hx : Preserves I x) : Alike (fun s t => t = s ∧ I s) x x := by
  rintro s t ⟨rfl, hs⟩
  exact ⟨rfl, rfl, hx t hs⟩

end Preserves

end Obd2.Async

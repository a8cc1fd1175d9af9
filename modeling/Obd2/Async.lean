/-! Computations that await, on a state.

A computation runs on a state it leaves changed however it ends: with a value, with
an error, or not at all. It does not end when its caller gives it up while it waits,
and the state is then what it was at that point (`Outcome.dropped`). An error can be
caught (`attempt`); giving up cannot.

What computations keep of their state is told by two rules. A relation that holds
across every part holds across the whole (`Across`), and a pre- and postcondition of
the whole is put together from those of the parts (`Triple`). -/
namespace Obd2

/-- How an awaited computation ended. -/
inductive Outcome (ε α : Type) where
  | ok (a : α)
  | error (e : ε)
  | dropped
  deriving DecidableEq, Repr

def Outcome.ofExcept {ε α : Type} : Except ε α → Outcome ε α
  | .ok a => .ok a
  | .error e => .error e

theorem Outcome.ofExcept_inj {ε α : Type} {x y : Except ε α} : ofExcept x = ofExcept y ↔ x = y := by
  cases x <;> cases y <;> simp [ofExcept]

def Outcome.isOk {ε α : Type} : Outcome ε α → Bool
  | .ok _ => true
  | _ => false

theorem Outcome.eq_ok_of_isOk {ε α : Type} {o : Outcome ε α} (h : o.isOk = true) : ∃ a, o = .ok a := by
  cases o with
  | ok a => exact ⟨a, rfl⟩
  | error e => cases h
  | dropped => cases h

/-- A computation on a state `σ` that returns `α`, fails with `ε`, or is dropped. -/
def Async (ε σ α : Type) : Type := σ → Outcome ε α × σ

namespace Async
variable {ε σ τ α β γ : Type}

def run (x : Async ε σ α) (s : σ) : Outcome ε α × σ := x s

def bind (x : Async ε σ α) (f : α → Async ε σ β) : Async ε σ β := fun s =>
  match x.run s with
  | (.ok a, s') => (f a).run s'
  | (.error e, s') => (.error e, s')
  | (.dropped, s') => (.dropped, s')

instance : Monad (Async ε σ) where
  pure a := fun s => (.ok a, s)
  bind := bind

def get : Async ε σ σ := fun s => (.ok s, s)
def set (s : σ) : Async ε σ Unit := fun _ => (.ok (), s)
def modify (f : σ → σ) : Async ε σ Unit := fun s => (.ok (), f s)
def throw (e : ε) : Async ε σ α := fun s => (.error e, s)

/-- A fallible pure step. -/
def lift : Except ε α → Async ε σ α
  | .ok a => pure a
  | .error e => throw e

instance : MonadLift (Except ε) (Async ε σ) := ⟨lift⟩

/-- The result of a computation, error or not, as a value. -/
def attempt (x : Async ε σ α) : Async ε σ (Except ε α) := fun s =>
  match x.run s with
  | (.ok a, s') => (.ok (.ok a), s')
  | (.error e, s') => (.ok (.error e), s')
  | (.dropped, s') => (.dropped, s')

/-- A computation on a part of the state. -/
def on (part : σ → τ) (put : τ → σ → σ) (x : Async ε τ α) : Async ε σ α := fun s =>
  let (outcome, t) := x.run (part s)
  (outcome, put t s)

@[simp] theorem run_pure (a : α) (s : σ) : (pure a : Async ε σ α).run s = (.ok a, s) := rfl
@[simp] theorem run_get (s : σ) : (get : Async ε σ σ).run s = (.ok s, s) := rfl
@[simp] theorem run_set (s t : σ) : (set t : Async ε σ Unit).run s = (.ok (), t) := rfl
@[simp] theorem run_modify (f : σ → σ) (s : σ) :
    (modify f : Async ε σ Unit).run s = (.ok (), f s) := rfl
@[simp] theorem run_throw (e : ε) (s : σ) : (throw e : Async ε σ α).run s = (.error e, s) := rfl
@[simp] theorem lift_ok (a : α) : (lift (.ok a) : Async ε σ α) = pure a := rfl
@[simp] theorem lift_error (e : ε) : (lift (.error e) : Async ε σ α) = throw e := rfl

theorem run_lift (x : Except ε α) (s : σ) :
    (lift x : Async ε σ α).run s = (Outcome.ofExcept x, s) := by
  cases x <;> rfl

theorem run_bind (x : Async ε σ α) (f : α → Async ε σ β) (s : σ) :
    (x >>= f).run s =
      match x.run s with
      | (.ok a, s') => (f a).run s'
      | (.error e, s') => (.error e, s')
      | (.dropped, s') => (.dropped, s') := rfl

theorem run_bind_ok {x : Async ε σ α} {s s' : σ} {a : α} (h : x.run s = (.ok a, s'))
    (f : α → Async ε σ β) : (x >>= f).run s = (f a).run s' := by
  rw [run_bind, h]

theorem run_bind_error {x : Async ε σ α} {s s' : σ} {e : ε} (h : x.run s = (.error e, s'))
    (f : α → Async ε σ β) : (x >>= f).run s = (.error e, s') := by
  rw [run_bind, h]

theorem run_bind_dropped {x : Async ε σ α} {s s' : σ} (h : x.run s = (.dropped, s'))
    (f : α → Async ε σ β) : (x >>= f).run s = (.dropped, s') := by
  rw [run_bind, h]

/-- A value of the whole is one of the part before, and then of what follows it. -/
theorem of_run_bind_ok {x : Async ε σ α} {f : α → Async ε σ β} {s u : σ} {b : β}
    (h : (x >>= f).run s = (.ok b, u)) : ∃ a t, x.run s = (.ok a, t) ∧ (f a).run t = (.ok b, u) := by
  rw [run_bind] at h
  cases hrun : x.run s with
  | mk outcome t =>
    rw [hrun] at h
    cases outcome with
    | ok a => exact ⟨a, t, rfl, h⟩
    | error e => cases h
    | dropped => cases h

theorem bind_assoc (x : Async ε σ α) (f : α → Async ε σ β) (g : β → Async ε σ γ) :
    (x >>= f) >>= g = x >>= fun a => f a >>= g := by
  funext s
  show ((x >>= f) >>= g).run s = (x >>= fun a => f a >>= g).run s
  rw [run_bind, run_bind, run_bind]
  cases x.run s with
  | mk outcome s' => cases outcome <;> rfl

theorem pure_bind (a : α) (f : α → Async ε σ β) : (pure a : Async ε σ α) >>= f = f a := rfl

instance : LawfulMonad (Async ε σ) :=
  LawfulMonad.mk' (Async ε σ)
    (fun x => by
      funext s
      show (x >>= pure).run s = x.run s
      rw [run_bind]
      cases x.run s with
      | mk outcome s' => cases outcome <;> rfl)
    pure_bind bind_assoc

theorem run_attempt (x : Async ε σ α) (s : σ) :
    x.attempt.run s =
      match x.run s with
      | (.ok a, s') => (.ok (.ok a), s')
      | (.error e, s') => (.ok (.error e), s')
      | (.dropped, s') => (.dropped, s') := rfl

theorem run_attempt_of_ends {x : Async ε σ α} {s s' : σ} {result : Except ε α}
    (h : x.run s = (Outcome.ofExcept result, s')) : x.attempt.run s = (.ok result, s') := by
  rw [run_attempt, h]
  cases result <;> rfl

theorem run_attempt_dropped {x : Async ε σ α} {s : σ} (h : (x.run s).1 = .dropped) :
    x.attempt.run s = (.dropped, (x.run s).2) := by
  rw [run_attempt, show x.run s = (.dropped, (x.run s).2) from Prod.ext h rfl]

theorem ends_or_dropped (x : Async ε σ α) (s : σ) :
    (∃ result t, x.run s = (Outcome.ofExcept result, t)) ∨ (x.run s).1 = .dropped := by
  cases hrun : x.run s with
  | mk outcome t =>
    cases outcome with
    | ok a => exact .inl ⟨.ok a, t, rfl⟩
    | error e => exact .inl ⟨.error e, t, rfl⟩
    | dropped => exact .inr rfl

theorem run_on (part : σ → τ) (put : τ → σ → σ) (x : Async ε τ α) (s : σ) :
    (x.on part put).run s = ((x.run (part s)).1, put (x.run (part s)).2 s) := rfl

/-! ### One after the other -/

/-- The computations end one after the other, whatever each ends with. -/
inductive InTurn : List (Async ε σ α) → σ → List (Except ε α) → σ → Prop where
  | nil (s : σ) : InTurn [] s [] s
  | cons {x : Async ε σ α} {xs : List (Async ε σ α)} {s t u : σ} {result : Except ε α} {results : List (Except ε α)} :
      x.run s = (Outcome.ofExcept result, t) → InTurn xs t results u → InTurn (x :: xs) s (result :: results) u

/-- A computation whose result, error or not, goes into what was found so far. -/
def collect (f : β → Except ε α → β) (found : β) (x : Async ε σ α) : Async ε σ β := do
  let result ← x.attempt
  pure (f found result)

namespace InTurn
variable {xs : List (Async ε σ α)} {s u : σ} {results : List (Except ε α)}

/-- Everything goes in, in its order. -/
theorem run_foldlM_collect (h : InTurn xs s results u) (f : β → Except ε α → β) (found : β) :
    (xs.foldlM (collect f) found).run s = (.ok (results.foldl f found), u) := by
  induction h generalizing found with
  | nil s => rfl
  | cons hrun _ ih =>
    have hcollect : (collect f found _).run _ = _ := run_bind_ok (run_attempt_of_ends hrun) _
    rw [List.foldlM_cons, run_bind_ok hcollect]
    exact ih _

/-- They end in turn, or one of them is given up. -/
theorem or_dropped (xs : List (Async ε σ α)) (s : σ) (f : β → Except ε α → β) (found : β) :
    (∃ results u, InTurn xs s results u) ∨ ((xs.foldlM (collect f) found).run s).1 = .dropped := by
  induction xs generalizing s found with
  | nil => exact .inl ⟨[], s, .nil s⟩
  | cons x xs ih =>
    rcases ends_or_dropped x s with ⟨result, t, hrun⟩ | hdropped
    · have hcollect : (collect f found x).run s = (.ok (f found result), t) := run_bind_ok (run_attempt_of_ends hrun) _
      rcases ih t (f found result) with ⟨results, u, hrest⟩ | hdropped
      · exact .inl ⟨_, u, .cons hrun hrest⟩
      · rw [List.foldlM_cons, run_bind_ok hcollect]
        exact .inr hdropped
    · have hcollect : (collect f found x).run s = (.dropped, (x.run s).2) :=
        run_bind_dropped (run_attempt_dropped hdropped) _
      rw [List.foldlM_cons, run_bind_dropped hcollect]
      exact .inr rfl

end InTurn

/-! ### Pre- and postconditions -/

/-- From a state that satisfies `P`, the outcome and the state it is left in satisfy `Q`. -/
def Triple (P : σ → Prop) (x : Async ε σ α) (Q : Outcome ε α → σ → Prop) : Prop :=
  ∀ s, P s → Q (x.run s).1 (x.run s).2

namespace Triple
variable {P : σ → Prop} {x : Async ε σ α} {Q : Outcome ε α → σ → Prop}

theorem weaken {P' : σ → Prop} {Q' : Outcome ε α → σ → Prop} (h : Triple P x Q)
    (hP : ∀ s, P' s → P s) (hQ : ∀ o s, Q o s → Q' o s) : Triple P' x Q' :=
  fun s hs => hQ _ _ (h s (hP s hs))

theorem pure {a : α} (h : ∀ s, P s → Q (.ok a) s) : Triple P (pure a) Q := h

theorem throw {e : ε} (h : ∀ s, P s → Q (.error e) s) : Triple P (throw e) Q := h

/-- An update, and what follows it. -/
theorem modify {f : σ → σ} {y : Async ε σ β} (P' : σ → Prop) {R : Outcome ε β → σ → Prop}
    (hf : ∀ s, P s → P' (f s)) (hy : Triple P' y R) :
    Triple P ((modify f : Async ε σ Unit) >>= fun _ => y) R :=
  fun s hs => hy (f s) (hf s hs)

/-- What follows may look at the state. -/
theorem get {f : σ → Async ε σ β} {R : Outcome ε β → σ → Prop}
    (hf : ∀ s, P s → R ((f s).run s).1 ((f s).run s).2) : Triple P (get >>= f) R := hf

/-- What follows a value starts from what holds of it; an end without one is the end of both. -/
theorem bind {f : α → Async ε σ β} {R : Outcome ε β → σ → Prop} (h : Triple P x Q)
    (hf : ∀ a, Triple (Q (.ok a)) (f a) R) (herror : ∀ e s, Q (.error e) s → R (.error e) s)
    (hdropped : ∀ s, Q .dropped s → R .dropped s) : Triple P (x >>= f) R := by
  intro s hs
  have hx := h s hs
  rw [run_bind]
  cases hrun : x.run s with
  | mk outcome s' =>
    rw [hrun] at hx
    cases outcome with
    | ok a => exact hf a s' hx
    | error e => exact herror e s' hx
    | dropped => exact hdropped s' hx

/-- A caught error is a value. -/
theorem attempt {R : Outcome ε (Except ε α) → σ → Prop} (h : Triple P x Q)
    (hok : ∀ a s, Q (.ok a) s → R (.ok (.ok a)) s) (herror : ∀ e s, Q (.error e) s → R (.ok (.error e)) s)
    (hdropped : ∀ s, Q .dropped s → R .dropped s) : Triple P x.attempt R := by
  intro s hs
  have hx := h s hs
  rw [run_attempt]
  cases hrun : x.run s with
  | mk outcome s' =>
    rw [hrun] at hx
    cases outcome with
    | ok a => exact hok a s' hx
    | error e => exact herror e s' hx
    | dropped => exact hdropped s' hx

/-! #### Of values

Where only the value matters that a computation returns if it returns one. -/

/-- Holds of the value and the state, if there is a value. -/
def Returns (Q : α → σ → Prop) : Outcome ε α → σ → Prop
  | .ok a, s => Q a s
  | .error _, _ => True
  | .dropped, _ => True

theorem returns_pure {Q : α → σ → Prop} {a : α} (h : ∀ s, P s → Q a s) :
    Triple P (Pure.pure a : Async ε σ α) (Returns Q) := h

theorem returns_throw {Q : α → σ → Prop} (e : ε) : Triple P (Async.throw e : Async ε σ α) (Returns Q) :=
  fun _ _ => trivial

theorem returns_bind {Q : α → σ → Prop} {f : α → Async ε σ β} {R : β → σ → Prop}
    (h : Triple P x (Returns Q)) (hf : ∀ a, Triple (Q a) (f a) (Returns R)) :
    Triple P (x >>= f) (Returns R) :=
  h.bind hf (fun _ _ _ => trivial) fun _ _ => trivial

/-- What comes first may do anything. -/
theorem returns_after (x : Async ε σ α) {f : α → Async ε σ β} {R : β → σ → Prop}
    (hf : ∀ a, Triple (fun _ => True) (f a) (Returns R)) : Triple P (x >>= f) (Returns R) := by
  have hx : Triple P x (Returns fun _ _ => True) := by
    intro s _
    cases (x.run s).1 with
    | ok a => trivial
    | error e => trivial
    | dropped => trivial
  exact returns_bind hx hf

theorem returns_run {Q : α → σ → Prop} (h : Triple P x (Returns Q)) {s s' : σ} {a : α} (hs : P s)
    (hrun : x.run s = (.ok a, s')) : Q a s' := by
  have hx := h s hs
  rw [hrun] at hx
  exact hx

end Triple

/-! ### Relations across a run -/

/-- Whatever the outcome, the state before and the state after are related. -/
def Across (R : σ → σ → Prop) (x : Async ε σ α) : Prop := ∀ s, R s (x.run s).2

namespace Across
variable {R : σ → σ → Prop}

theorem pure (hrefl : ∀ s, R s s) (a : α) : Across R (pure a : Async ε σ α) := hrefl

theorem throw (hrefl : ∀ s, R s s) (e : ε) : Across R (throw e : Async ε σ α) := hrefl

theorem get (hrefl : ∀ s, R s s) : Across R (get : Async ε σ σ) := hrefl

theorem modify {f : σ → σ} (h : ∀ s, R s (f s)) : Across R (modify f : Async ε σ Unit) := h

theorem lift (hrefl : ∀ s, R s s) (x : Except ε α) : Across R (lift x : Async ε σ α) := by
  cases x with
  | ok a => exact hrefl
  | error e => exact hrefl

theorem bind {x : Async ε σ α} {f : α → Async ε σ β} (htrans : ∀ {s t u}, R s t → R t u → R s u)
    (hx : Across R x) (hf : ∀ a, Across R (f a)) : Across R (x >>= f) := by
  intro s
  have hs := hx s
  rw [run_bind]
  cases hrun : x.run s with
  | mk outcome s' =>
    rw [hrun] at hs
    cases outcome with
    | ok a => exact htrans hs (hf a s')
    | error e => exact hs
    | dropped => exact hs

theorem attempt {x : Async ε σ α} (hx : Across R x) : Across R x.attempt := by
  intro s
  have hs := hx s
  rw [run_attempt]
  cases hrun : x.run s with
  | mk outcome s' =>
    rw [hrun] at hs
    cases outcome with
    | ok a => exact hs
    | error e => exact hs
    | dropped => exact hs

theorem inTurn {xs : List (Async ε σ α)} (hrefl : ∀ s, R s s) (htrans : ∀ {s t u}, R s t → R t u → R s u)
    (hxs : ∀ x ∈ xs, Across R x) {s u : σ} {results : List (Except ε α)} (h : InTurn xs s results u) : R s u := by
  induction h with
  | nil s => exact hrefl s
  | @cons x xs s t u result results hrun _ ih =>
    have hx := hxs x List.mem_cons_self s
    rw [hrun] at hx
    exact htrans hx (ih fun y hy => hxs y (List.mem_cons_of_mem x hy))

/-- What the relation carries over is a postcondition of every outcome. -/
theorem triple {x : Async ε σ α} {P P' : σ → Prop} (hx : Across R x)
    (h : ∀ s t, R s t → P s → P' t) : Triple P x fun _ => P' :=
  fun s hs => h s _ (hx s) hs

end Across

end Async

end Obd2

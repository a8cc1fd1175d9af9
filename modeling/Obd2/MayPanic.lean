import Mathlib.Data.List.Infix
import Obd2.Text

/-! Computations that can panic.

A computation of the source that indexes, slices or shifts either has its value or panics. A panic
is not an error the source handles: what the source returns, its own options and results among
them, is inside. -/
namespace Obd2

/-- A value, or a panic (`none`). -/
abbrev MayPanic (α : Type) := Option α

namespace MayPanic
variable {α : Type}

/-- `xs[i]`. -/
def index (xs : List α) (i : Nat) : MayPanic α := xs[i]?

/-- `&xs[..n]`. -/
def sliceTo (xs : List α) (n : Nat) : MayPanic (List α) := if n ≤ xs.length then some (xs.take n) else none

@[simp] theorem index_zero (x : α) (xs : List α) : index (x :: xs) 0 = some x := rfl

@[simp] theorem index_succ (x : α) (xs : List α) (i : Nat) : index (x :: xs) (i + 1) = index xs i := rfl

theorem index_eq_none_iff {xs : List α} {i : Nat} : index xs i = none ↔ xs.length ≤ i := List.getElem?_eq_none_iff

theorem index_getD {xs : List α} {i : Nat} (h : i < xs.length) (d : α) : index xs i = some (xs.getD i d) := by
  rw [index, List.getD_eq_getElem?_getD, List.getElem?_eq_getElem h]
  rfl

theorem sliceTo_of_le {xs : List α} {n : Nat} (h : n ≤ xs.length) : sliceTo xs n = some (xs.take n) := if_pos h

/-- `&s[..n]` of a string: the part of `n` bytes at its front, if a character ends there. -/
def textTo (t : Text) (n : Nat) : MayPanic Text := t.inits.find? fun front => (Text.bytes front).length == n

/-- `str::is_char_boundary`. -/
def IsCharBoundary (t : Text) (n : Nat) : Prop := ∃ front, front <+: t ∧ (Text.bytes front).length = n

theorem textTo_eq_none_iff {t : Text} {n : Nat} : textTo t n = none ↔ ¬ IsCharBoundary t n := by
  rw [textTo, List.find?_eq_none, IsCharBoundary]
  simp

/-- `x >> n`. A shift by all of the bits overflows: it panics with overflow checks, and is a shift by
what is left of `n` without them. -/
def shiftRight (x : UInt32) (n : UInt8) : MayPanic UInt32 := if n < 32 then some (x >>> n.toUInt32) else none

/-- One computation for each element has its values if each has its own. -/
theorem mapM_eq_map_iff {β : Type} {f : α → MayPanic β} {g : α → β} {xs : List α} :
    xs.mapM f = some (xs.map g) ↔ ∀ x ∈ xs, f x = some (g x) := by
  induction xs with
  | nil => simp
  | cons x xs ih =>
    rw [List.mapM_cons, List.map_cons, List.forall_mem_cons, ← ih]
    cases hx : f x with
    | none => simp
    | some y =>
      cases hxs : xs.mapM f with
      | none => simp
      | some ys => simp

/-- The elements for which `p` holds. -/
def filter (p : α → MayPanic Bool) : List α → MayPanic (List α)
  | [] => some []
  | x :: xs => do
    if ← p x then (x :: ·) <$> filter p xs
    else filter p xs

/-- A filter has its elements if each test has its answer. -/
theorem filter_eq_some_iff {p : α → MayPanic Bool} {xs ys : List α} :
    filter p xs = some ys ↔ (∀ x ∈ xs, p x ≠ none) ∧ ys = xs.filter fun x => p x == some true := by
  induction xs generalizing ys with
  | nil => simp [filter, eq_comm]
  | cons x xs ih =>
    rw [List.forall_mem_cons, List.filter_cons]
    cases hx : p x with
    | none => simp [filter, hx]
    | some accepted =>
      cases accepted with
      | false => simp [filter, hx, ih]
      | true =>
        simp only [filter, hx, Option.bind_eq_bind, Option.bind_some, if_true, Option.map_eq_map,
          Option.map_eq_some_iff, ih]
        constructor
        · rintro ⟨zs, ⟨hsome, rfl⟩, rfl⟩
          exact ⟨⟨Option.some_ne_none _, hsome⟩, rfl⟩
        · rintro ⟨⟨-, hsome⟩, rfl⟩
          exact ⟨_, ⟨hsome, rfl⟩, rfl⟩

end MayPanic

end Obd2

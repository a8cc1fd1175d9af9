import Mathlib.Data.List.Nodup

/-! The first occurrences of keys in a list.

A list is gone through once with the set of the keys that were seen; what has a new key is kept. What
is kept are the elements that no earlier one shares its key with (`retainNew_nil`), and keeping is the
same before and after a change that leaves the keys (`retainNew_map`). -/
namespace Obd2.Firsts
variable {α κ : Type} [BEq κ]

/-- `retain` with a set that takes in the keys. -/
def retainNew (key : α → κ) (seen : List κ) : List α → List α
  | [] => []
  | x :: rest => if seen.contains (key x) then retainNew key seen rest else x :: retainNew key (key x :: seen) rest

/-- The elements whose keys no element before them has, in their order. -/
def firstOccurrences (key : α → κ) (xs : List α) : List α :=
  (xs.zipIdx.filter fun entry => !((xs.take entry.2).map key).contains (key entry.1)).map (·.1)

variable [LawfulBEq κ] {key : α → κ} {seen : List κ} {xs : List α}

/-- Behind the first element its key counts as seen. -/
theorem contains_behind {x : α} {rest : List α} {seen' : List κ} (hseen' : ∀ k, k ∈ seen' ↔ k = key x ∨ k ∈ seen)
    (n : Nat) (k : κ) :
    (seen ++ ((x :: rest).take (n + 1)).map key).contains k = (seen' ++ (rest.take n).map key).contains k := by
  rw [List.take_succ_cons, Bool.eq_iff_iff]
  simp only [List.contains_iff_mem, List.map_cons, List.mem_append, List.mem_cons, hseen']
  tauto

/-- What is kept is told by what comes before each element; positions are counted from `k`. -/
theorem retainNew_eq (key : α → κ) (seen : List κ) (xs : List α) (k : Nat) :
    retainNew key seen xs =
      ((xs.zipIdx k).filter fun entry =>
        !(seen ++ (xs.take (entry.2 - k)).map key).contains (key entry.1)).map (·.1) := by
  induction xs generalizing seen k with
  | nil => rfl
  | cons x rest ih =>
    have hrest (seen' : List κ) (hseen' : ∀ k, k ∈ seen' ↔ k = key x ∨ k ∈ seen) :
        (rest.zipIdx (k + 1)).filter (fun entry =>
            !(seen ++ ((x :: rest).take (entry.2 - k)).map key).contains (key entry.1)) =
          (rest.zipIdx (k + 1)).filter fun entry =>
            !(seen' ++ (rest.take (entry.2 - (k + 1))).map key).contains (key entry.1) := by
      refine List.filter_congr fun entry hentry => ?_
      have hbehind := List.le_snd_of_mem_zipIdx hentry
      have hposition : entry.2 - k = entry.2 - (k + 1) + 1 := by omega
      rw [hposition, contains_behind hseen']
    have hfirst : (seen ++ ((x :: rest).take (k - k)).map key).contains (key x) = seen.contains (key x) := by
      rw [Nat.sub_self, List.take_zero, List.map_nil, List.append_nil]
    rw [retainNew, List.zipIdx_cons, List.filter_cons, hfirst]
    cases hseen : seen.contains (key x) with
    | true =>
      have hknown : ∀ k, k ∈ seen ↔ k = key x ∨ k ∈ seen :=
        fun k => ⟨.inr, fun h => h.elim (fun heq => heq ▸ List.contains_iff_mem.mp hseen) id⟩
      rw [if_pos rfl, if_neg (by decide), hrest seen hknown]
      exact ih seen (k + 1)
    | false =>
      rw [if_neg (by decide), if_pos (by decide), List.map_cons, hrest _ fun _ => List.mem_cons]
      exact congrArg (x :: ·) (ih (key x :: seen) (k + 1))

/-- **Exactly the first occurrences are kept.** -/
theorem retainNew_nil (key : α → κ) (xs : List α) : retainNew key [] xs = firstOccurrences key xs :=
  retainNew_eq key [] xs 0

/-- The keys of what is kept were not seen, and no two of them are the same. -/
theorem keys_retainNew (key : α → κ) (seen : List κ) (xs : List α) :
    ((retainNew key seen xs).map key).Nodup ∧ ∀ x ∈ retainNew key seen xs, key x ∉ seen := by
  induction xs generalizing seen with
  | nil => exact ⟨List.nodup_nil, fun x hx => absurd hx List.not_mem_nil⟩
  | cons x rest ih =>
    rw [retainNew]
    split
    · exact ih seen
    · next hnew =>
      obtain ⟨hnodup, hunseen⟩ := ih (key x :: seen)
      refine ⟨List.nodup_cons.mpr ⟨fun hmem => ?_, hnodup⟩, fun y hy => ?_⟩
      · obtain ⟨y, hy, heq⟩ := List.mem_map.mp hmem
        exact hunseen y hy (heq ▸ List.mem_cons_self)
      · rcases List.mem_cons.mp hy with rfl | hy
        · exact fun hmem => hnew (List.contains_iff_mem.mpr hmem)
        · exact fun hmem => hunseen y hy (List.mem_cons_of_mem _ hmem)

theorem retainNew_of_new {xs : List α} (hnodup : (xs.map key).Nodup) (hunseen : ∀ x ∈ xs, key x ∉ seen) :
    retainNew key seen xs = xs := by
  induction xs generalizing seen with
  | nil => rfl
  | cons x rest ih =>
    obtain ⟨hfirst, hrest⟩ := List.nodup_cons.mp hnodup
    obtain ⟨hx, hunseen⟩ := List.forall_mem_cons.mp hunseen
    rw [retainNew, if_neg fun hmem => hx (List.contains_iff_mem.mp hmem), ih hrest fun y hy hmem => ?_]
    rcases List.mem_cons.mp hmem with heq | hmem
    · exact hfirst (heq ▸ List.mem_map_of_mem hy)
    · exact hunseen y hy hmem

/-- What was kept once is kept. -/
theorem retainNew_retainNew (key : α → κ) (xs : List α) :
    retainNew key [] (retainNew key [] xs) = retainNew key [] xs :=
  retainNew_of_new (keys_retainNew key [] xs).1 fun _ _ => List.not_mem_nil

omit [LawfulBEq κ] in
/-- A change that leaves the keys makes no difference to what is kept. -/
theorem retainNew_map {f : α → α} (hf : ∀ x, key (f x) = key x) (seen : List κ) (xs : List α) :
    retainNew key seen (xs.map f) = (retainNew key seen xs).map f := by
  induction xs generalizing seen with
  | nil => rfl
  | cons x rest ih =>
    rw [List.map_cons, retainNew, retainNew, hf]
    split
    · exact ih seen
    · rw [ih, List.map_cons]

end Obd2.Firsts

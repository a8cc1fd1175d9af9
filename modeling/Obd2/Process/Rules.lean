import Obd2.Process

/-! What a process sends, and how often it receives, whatever it receives.

Each of the three predicates is about the whole tree of a process, so it holds against every
stream, and against a peer that chooses its messages by what it was sent. Each has a rule for
every way a process is built, `bind` included, and one theorem about runs. -/
namespace Obd2.Process
variable {ε ι ο α β : Type}

/-- The process sends `messages` in this order, unless it fails before the end of them. -/
inductive Emits : List ο → Process ε ι ο α → Prop where
  | ret (a : α) : Emits [] (.ret a)
  | fail (messages : List ο) (e : ε) : Emits messages (.fail e)
  | send (m : ο) {messages : List ο} {next : Process ε ι ο α} : Emits messages next →
      Emits (m :: messages) (.send m next)
  | recv {messages : List ο} {next : ι → Process ε ι ο α} : (∀ m, Emits messages (next m)) →
      Emits messages (.recv next)

namespace Emits

theorem bind {first second : List ο} {p : Process ε ι ο α} {f : α → Process ε ι ο β}
    (hp : Emits first p) (hf : ∀ a, Emits second (f a)) : Emits (first ++ second) (p >>= f) := by
  induction hp with
  | ret a => exact hf a
  | fail messages e => exact .fail _ e
  | send m _ ih => exact .send m ih
  | recv _ ih => exact .recv ih

theorem lift (x : Except ε α) : Emits [] (Process.lift x : Process ε ι ο α) := by
  cases x with
  | ok a => exact .ret a
  | error e => exact .fail [] e

/-- What a run sends begins the list, and is all of it if the run succeeds. -/
theorem run {messages : List ο} {p : Process ε ι ο α} (h : Emits messages p) (closed : ε)
    (stream : List ι) :
    (p.run closed stream).sent <+: messages ∧
      ∀ a, (p.run closed stream).result = .ok a → (p.run closed stream).sent = messages := by
  induction h generalizing stream with
  | ret a => exact ⟨List.prefix_rfl, fun _ _ => rfl⟩
  | fail messages e => exact ⟨List.nil_prefix, fun _ h => by cases h⟩
  | send m _ ih =>
    obtain ⟨hbegins, hall⟩ := ih stream
    exact ⟨List.cons_prefix_cons.mpr ⟨rfl, hbegins⟩, fun a h => congrArg (m :: ·) (hall a h)⟩
  | recv _ ih =>
    cases stream with
    | nil => exact ⟨List.nil_prefix, fun _ h => by cases h⟩
    | cons m stream => exact ih m stream

end Emits

/-- The process sends messages of one kind only. -/
inductive SendsOnly (kind : ο → Prop) : Process ε ι ο α → Prop where
  | ret (a : α) : SendsOnly kind (.ret a)
  | fail (e : ε) : SendsOnly kind (.fail e)
  | send {m : ο} {next : Process ε ι ο α} : kind m → SendsOnly kind next → SendsOnly kind (.send m next)
  | recv {next : ι → Process ε ι ο α} : (∀ m, SendsOnly kind (next m)) → SendsOnly kind (.recv next)

namespace SendsOnly
variable {kind : ο → Prop}

theorem bind {p : Process ε ι ο α} {f : α → Process ε ι ο β} (hp : SendsOnly kind p)
    (hf : ∀ a, SendsOnly kind (f a)) : SendsOnly kind (p >>= f) := by
  induction hp with
  | ret a => exact hf a
  | fail e => exact .fail e
  | send hm _ ih => exact .send hm ih
  | recv _ ih => exact .recv ih

theorem lift (x : Except ε α) : SendsOnly kind (Process.lift x : Process ε ι ο α) := by
  cases x with
  | ok a => exact .ret a
  | error e => exact .fail e

theorem run {p : Process ε ι ο α} (h : SendsOnly kind p) (closed : ε) (stream : List ι) :
    ∀ m ∈ (p.run closed stream).sent, kind m := by
  induction h generalizing stream with
  | ret a =>
    intro m hm
    cases hm
  | fail e =>
    intro m hm
    cases hm
  | send hm _ ih =>
    intro m' hmem
    obtain rfl | hmem := List.mem_cons.mp hmem
    · exact hm
    · exact ih stream m' hmem
  | recv _ ih =>
    cases stream with
    | nil =>
      intro m hm
      cases hm
    | cons m stream => exact ih m stream

/-- A process that sends a list sends what is in it. -/
theorem of_emits {messages : List ο} {p : Process ε ι ο α} (h : Emits messages p)
    (hkind : ∀ m ∈ messages, kind m) : SendsOnly kind p := by
  induction h with
  | ret a => exact .ret a
  | fail messages e => exact .fail e
  | send m _ ih => exact .send (hkind m List.mem_cons_self) (ih fun m' h => hkind m' (List.mem_cons_of_mem m h))
  | recv _ ih => exact .recv fun m => ih m hkind

end SendsOnly

/-! ### How often it receives -/

/-- The process receives `n` times at most. -/
inductive AtMost : Nat → Process ε ι ο α → Prop where
  | ret (n : Nat) (a : α) : AtMost n (.ret a)
  | fail (n : Nat) (e : ε) : AtMost n (.fail e)
  | send (m : ο) {n : Nat} {next : Process ε ι ο α} : AtMost n next → AtMost n (.send m next)
  | recv {n : Nat} {next : ι → Process ε ι ο α} : (∀ m, AtMost n (next m)) → AtMost (n + 1) (.recv next)

namespace AtMost

theorem mono {n n' : Nat} {p : Process ε ι ο α} (h : AtMost n p) (hle : n ≤ n') : AtMost n' p := by
  induction h generalizing n' with
  | ret n a => exact .ret n' a
  | fail n e => exact .fail n' e
  | send m _ ih => exact .send m (ih hle)
  | @recv n next _ ih =>
    obtain ⟨k, rfl⟩ : ∃ k, n' = k + 1 := ⟨n' - 1, by omega⟩
    exact .recv fun m => ih m (Nat.le_of_succ_le_succ hle)

theorem bind {n k : Nat} {p : Process ε ι ο α} {f : α → Process ε ι ο β} (hp : AtMost n p)
    (hf : ∀ a, AtMost k (f a)) : AtMost (n + k) (p >>= f) := by
  induction hp with
  | ret n a => exact (hf a).mono (Nat.le_add_left ..)
  | fail n e => exact .fail _ e
  | send m _ ih => exact .send m ih
  | recv _ ih =>
    rw [Nat.add_right_comm]
    exact .recv ih

theorem lift (n : Nat) (x : Except ε α) : AtMost n (Process.lift x : Process ε ι ο α) := by
  cases x with
  | ok a => exact .ret n a
  | error e => exact .fail n e

theorem lift_bind {n : Nat} {x : Except ε α} {f : α → Process ε ι ο β} (hf : ∀ a, AtMost n (f a)) :
    AtMost n (Process.lift x >>= f) := by
  cases x with
  | ok a => exact hf a
  | error e => exact .fail n e

end AtMost

/-- The first `n` messages of a stream that never ends. -/
def firsts (stream : Nat → ι) (n : Nat) : List ι := (List.range n).map stream

/-- How often the process receives from a stream that never ends. -/
def receives : Process ε ι ο α → (Nat → ι) → Nat
  | ret _, _ => 0
  | fail _, _ => 0
  | send _ next, stream => next.receives stream
  | recv next, stream => (next (stream 0)).receives (fun i => stream (i + 1)) + 1

theorem firsts_succ (stream : Nat → ι) (n : Nat) :
    firsts stream (n + 1) = stream 0 :: firsts (fun i => stream (i + 1)) n := by
  rw [firsts, List.range_succ_eq_map, List.map_cons, List.map_map]
  rfl

theorem AtMost.receives_le {n : Nat} {p : Process ε ι ο α} (h : AtMost n p) (stream : Nat → ι) :
    p.receives stream ≤ n := by
  induction h generalizing stream with
  | ret n a => exact Nat.zero_le n
  | fail n e => exact Nat.zero_le n
  | send m _ ih => exact ih stream
  | recv _ ih => exact Nat.succ_le_succ (ih _ _)

/-- The process is over when it has received so often: what follows is left alone, and the end
of the stream is not reached. -/
theorem run_receives (p : Process ε ι ο α) (stream : Nat → ι) :
    ∃ result sent, ∀ closed rest,
      p.run closed (firsts stream (p.receives stream) ++ rest) = ⟨result, sent, rest⟩ := by
  induction p generalizing stream with
  | ret a => exact ⟨.ok a, [], fun closed rest => rfl⟩
  | fail e => exact ⟨.error e, [], fun closed rest => rfl⟩
  | send m next ih =>
    obtain ⟨result, sent, hrun⟩ := ih stream
    refine ⟨result, m :: sent, fun closed rest => ?_⟩
    rw [receives, run, hrun]
  | recv next ih =>
    obtain ⟨result, sent, hrun⟩ := ih (stream 0) fun i => stream (i + 1)
    refine ⟨result, sent, fun closed rest => ?_⟩
    rw [receives, firsts_succ, List.cons_append, run, hrun]

end Obd2.Process

/-! Processes that exchange messages over channels.

A `Process` sends messages of one type, waits for messages of another, and ends
with a value or an error. Two things are done with one: it is run against a stream
of messages that are already there (`run`), or it is put at one end of a pair of
FIFO channels with another process at the other (`Network`).

The network is deterministic although its two ends take their turns in any order:
steps of different ends commute (`Step.diamond`). So one schedule that ends
decides them all (`Reaches.ends`). -/
namespace Obd2

/-- A process that fails with `ε`, receives `ι`, sends `ο` and returns `α`. -/
inductive Process (ε ι ο α : Type) where
  | ret (a : α)
  | fail (e : ε)
  | send (m : ο) (next : Process ε ι ο α)
  | recv (next : ι → Process ε ι ο α)

namespace Process
variable {ε ι ο α β γ : Type}

def bind : Process ε ι ο α → (α → Process ε ι ο β) → Process ε ι ο β
  | ret a, f => f a
  | fail e, _ => fail e
  | send m next, f => send m (next.bind f)
  | recv next, f => recv fun m => (next m).bind f

instance : Monad (Process ε ι ο) where
  pure := ret
  bind := bind

@[simp] theorem pure_eq (a : α) : (pure a : Process ε ι ο α) = ret a := rfl
@[simp] theorem ret_bind (a : α) (f : α → Process ε ι ο β) : (ret a >>= f) = f a := rfl
@[simp] theorem fail_bind (e : ε) (f : α → Process ε ι ο β) : (fail e >>= f) = fail e := rfl
@[simp] theorem send_bind (m : ο) (p : Process ε ι ο α) (f : α → Process ε ι ο β) :
    (send m p >>= f) = send m (p >>= f) := rfl
@[simp] theorem recv_bind (k : ι → Process ε ι ο α) (f : α → Process ε ι ο β) :
    (recv k >>= f) = recv fun m => k m >>= f := rfl

@[simp] theorem bind_ret (p : Process ε ι ο α) : (p >>= ret) = p := by
  induction p with
  | ret a => rfl
  | fail e => rfl
  | send m next ih => exact congrArg (send m) ih
  | recv next ih => exact congrArg recv (funext ih)

theorem bind_assoc (p : Process ε ι ο α) (f : α → Process ε ι ο β) (g : β → Process ε ι ο γ) :
    (p >>= f) >>= g = p >>= fun a => f a >>= g := by
  induction p with
  | ret a => rfl
  | fail e => rfl
  | send m next ih => exact congrArg (send m) ih
  | recv next ih => exact congrArg recv (funext ih)

/-- A fallible pure step. -/
def lift : Except ε α → Process ε ι ο α
  | .ok a => ret a
  | .error e => fail e

instance : MonadLift (Except ε) (Process ε ι ο) := ⟨lift⟩

@[simp] theorem lift_ok (a : α) : (lift (.ok a) : Process ε ι ο α) = ret a := rfl
@[simp] theorem lift_error (e : ε) : (lift (.error e) : Process ε ι ο α) = fail e := rfl

/-! ### Against a stream -/

/-- How a run ended, what was sent, and what was not read. -/
structure Run (ε ι ο α : Type) where
  result : Except ε α
  sent : List ο
  rest : List ι

/-- The process on a stream of incoming messages; past its end every receive fails with
`closed`. -/
def run (closed : ε) : Process ε ι ο α → List ι → Run ε ι ο α
  | ret a, stream => ⟨.ok a, [], stream⟩
  | fail e, stream => ⟨.error e, [], stream⟩
  | send m next, stream =>
    let r := next.run closed stream
    {r with sent := m :: r.sent}
  | recv _, [] => ⟨.error closed, [], []⟩
  | recv next, m :: stream => (next m).run closed stream

/-- A run continued: what comes after a returned value. -/
def Run.andThen (r : Run ε ι ο α) (f : α → List ι → Run ε ι ο β) : Run ε ι ο β :=
  match r.result with
  | .ok a => {f a r.rest with sent := r.sent ++ (f a r.rest).sent}
  | .error e => ⟨.error e, r.sent, r.rest⟩

theorem run_bind (closed : ε) (p : Process ε ι ο α) (f : α → Process ε ι ο β) (stream : List ι) :
    (p >>= f).run closed stream = (p.run closed stream).andThen fun a => (f a).run closed := by
  induction p generalizing stream with
  | ret a => rfl
  | fail e => rfl
  | send m next ih =>
    show (let r := (next >>= f).run closed stream; {r with sent := m :: r.sent}) = _
    simp only [ih, run, Run.andThen]
    cases (next.run closed stream).result <;> rfl
  | recv next ih =>
    cases stream with
    | nil => rfl
    | cons x rest => exact ih x rest

theorem run_bind_ok {closed : ε} {p : Process ε ι ο α} {stream : List ι} {a : α}
    (h : (p.run closed stream).result = .ok a) (f : α → Process ε ι ο β) :
    ((p >>= f).run closed stream).result = ((f a).run closed (p.run closed stream).rest).result := by
  rw [run_bind, Run.andThen, h]

theorem run_bind_error {closed : ε} {p : Process ε ι ο α} {stream : List ι} {e : ε}
    (h : (p.run closed stream).result = .error e) (f : α → Process ε ι ο β) :
    ((p >>= f).run closed stream).result = .error e := by
  rw [run_bind, Run.andThen, h]

theorem run_lift (closed : ε) (x : Except ε α) (stream : List ι) :
    (lift x : Process ε ι ο α).run closed stream = ⟨x, [], stream⟩ := by
  cases x <;> rfl

/-- The process returns `a` when it has received exactly `consumed`. -/
inductive Returns : Process ε ι ο α → List ι → α → Prop where
  | ret (a : α) : Returns (.ret a) [] a
  | send (m : ο) {next : Process ε ι ο α} {consumed : List ι} {a : α} :
      Returns next consumed a → Returns (.send m next) consumed a
  | recv {next : ι → Process ε ι ο α} {m : ι} {consumed : List ι} {a : α} :
      Returns (next m) consumed a → Returns (.recv next) (m :: consumed) a

namespace Returns

/-- Of two processes in a row, the second starts where the first one has returned. -/
theorem of_bind {p : Process ε ι ο α} {f : α → Process ε ι ο β} {consumed : List ι} {b : β}
    (h : Returns (p >>= f) consumed b) :
    ∃ a first second, consumed = first ++ second ∧ Returns p first a ∧ Returns (f a) second b := by
  induction p generalizing consumed with
  | ret a => exact ⟨a, [], consumed, rfl, .ret a, h⟩
  | fail e => cases h
  | send m next ih =>
    cases h with
    | send _ h =>
      obtain ⟨a, first, second, rfl, hfirst, hsecond⟩ := ih h
      exact ⟨a, first, second, rfl, .send m hfirst, hsecond⟩
  | recv next ih =>
    cases h with
    | @recv _ m _ _ h =>
      obtain ⟨a, first, second, rfl, hfirst, hsecond⟩ := ih m h
      exact ⟨a, m :: first, second, rfl, .recv hfirst, hsecond⟩

theorem of_lift {x : Except ε α} {consumed : List ι} {a : α}
    (h : Returns (Process.lift x : Process ε ι ο α) consumed a) : x = .ok a ∧ consumed = [] := by
  cases x with
  | ok a' =>
    cases h
    exact ⟨rfl, rfl⟩
  | error e => cases h

/-- A fallible pure step does not touch the stream. -/
theorem of_lift_bind {x : Except ε α} {f : α → Process ε ι ο β} {consumed : List ι} {b : β}
    (h : Returns (Process.lift x >>= f) consumed b) : ∃ a, x = .ok a ∧ Returns (f a) consumed b := by
  obtain ⟨a, first, second, rfl, hfirst, hsecond⟩ := h.of_bind
  obtain ⟨hx, rfl⟩ := of_lift hfirst
  exact ⟨a, hx, hsecond⟩

/-- A run that ends with a value has consumed what the process returns after. -/
theorem of_run {closed : ε} {p : Process ε ι ο α} {stream : List ι} {a : α}
    (h : (p.run closed stream).result = .ok a) :
    ∃ consumed, stream = consumed ++ (p.run closed stream).rest ∧ Returns p consumed a := by
  induction p generalizing stream with
  | ret a' =>
    cases h
    exact ⟨[], rfl, .ret a⟩
  | fail e => cases h
  | send m next ih =>
    obtain ⟨consumed, hstream, hreturns⟩ := ih h
    exact ⟨consumed, hstream, .send m hreturns⟩
  | recv next ih =>
    cases stream with
    | nil => cases h
    | cons m stream =>
      obtain ⟨consumed, hstream, hreturns⟩ := ih m h
      exact ⟨m :: consumed, congrArg (m :: ·) hstream, .recv hreturns⟩

end Returns

/-- Every receive of the process is made by `reader`. -/
inductive ReadsThrough (reader : Process ε ι ο γ) : Process ε ι ο α → Prop where
  | ret (a : α) : ReadsThrough reader (.ret a)
  | fail (e : ε) : ReadsThrough reader (.fail e)
  | send (m : ο) {next : Process ε ι ο α} : ReadsThrough reader next →
      ReadsThrough reader (.send m next)
  | read {k : γ → Process ε ι ο α} : (∀ c, ReadsThrough reader (k c)) →
      ReadsThrough reader (reader >>= k)

namespace ReadsThrough
variable {reader : Process ε ι ο γ}

theorem reader_self : ReadsThrough reader reader := by
  have : ReadsThrough reader (reader >>= .ret) := .read fun c => .ret c
  rwa [bind_ret] at this

theorem bind {p : Process ε ι ο α} {f : α → Process ε ι ο β} (hp : ReadsThrough reader p)
    (hf : ∀ a, ReadsThrough reader (f a)) : ReadsThrough reader (p >>= f) := by
  induction hp with
  | ret a => exact hf a
  | fail e => exact .fail e
  | send m _ ih => exact .send m ih
  | read _ ih =>
    rw [bind_assoc]
    exact .read ih

theorem lift (x : Except ε α) : ReadsThrough reader (Process.lift x : Process ε ι ο α) := by
  cases x with
  | ok a => exact .ret a
  | error e => exact .fail e

/-- Streams on which the reader behaves alike, and goes on to streams on which it
behaves alike, cannot be told apart by a process that reads through it. -/
theorem run_congr {closed : ε} {R : List ι → List ι → Prop} {p : Process ε ι ο α}
    (hp : ReadsThrough reader p)
    (hreader : ∀ xs ys, R xs ys →
      (reader.run closed xs).result = (reader.run closed ys).result ∧
        (reader.run closed xs).sent = (reader.run closed ys).sent ∧
        R (reader.run closed xs).rest (reader.run closed ys).rest)
    {xs ys : List ι} (h : R xs ys) :
    (p.run closed xs).result = (p.run closed ys).result ∧
      (p.run closed xs).sent = (p.run closed ys).sent := by
  induction hp generalizing xs ys with
  | ret a => exact ⟨rfl, rfl⟩
  | fail e => exact ⟨rfl, rfl⟩
  | send m _ ih =>
    obtain ⟨hr, hs⟩ := ih h
    exact ⟨hr, congrArg (m :: ·) hs⟩
  | read _ ih =>
    obtain ⟨hr, hs, hrest⟩ := hreader xs ys h
    simp only [run_bind, Run.andThen, hr, hs]
    cases (reader.run closed ys).result with
    | error e => exact ⟨rfl, rfl⟩
    | ok c =>
      obtain ⟨hr', hs'⟩ := ih c hrest
      exact ⟨hr', congrArg (_ ++ ·) hs'⟩

end ReadsThrough

/-- The process does not begin with a receive. -/
inductive Ready : Process ε ι ο α → Prop where
  | ret (a : α) : Ready (.ret a)
  | fail (e : ε) : Ready (.fail e)
  | send (m : ο) (next : Process ε ι ο α) : Ready (.send m next)

namespace Ready

theorem lift (x : Except ε α) : Ready (Process.lift x : Process ε ι ο α) := by
  cases x with
  | ok a => exact .ret a
  | error e => exact .fail e

theorem lift_bind (x : Except ε α) {f : α → Process ε ι ο β} (h : ∀ a, Ready (f a)) :
    Ready (Process.lift x >>= f) := by
  cases x with
  | ok a => exact h a
  | error e => exact .fail e

/-- It is over, or it sends something, before the stream matters. -/
theorem run_cases {p : Process ε ι ο α} (h : Ready p) (closed : ε) :
    (∃ result, ∀ stream, p.run closed stream = ⟨result, [], stream⟩) ∨
      ∀ stream, (p.run closed stream).sent ≠ [] := by
  cases h with
  | ret a => exact .inl ⟨.ok a, fun stream => rfl⟩
  | fail e => exact .inl ⟨.error e, fun stream => rfl⟩
  | send m next => exact .inr fun stream => List.cons_ne_nil _ _

end Ready

end Process

/-! ### Two processes and two channels -/

/-- The left process receives `A` and sends `B`, the right one the reverse. -/
structure Network (ε A B α β : Type) where
  left : Process ε A B α
  right : Process ε B A β
  toRight : List B
  toLeft : List A

namespace Network
variable {ε A B α β : Type}

/-- Either end takes its turn; an end that waits on an empty channel has none. -/
inductive Step : Network ε A B α β → Network ε A B α β → Prop where
  | leftSend {m p q r l} : Step ⟨.send m p, q, r, l⟩ ⟨p, q, r ++ [m], l⟩
  | leftRecv {k m q r l} : Step ⟨.recv k, q, r, m :: l⟩ ⟨k m, q, r, l⟩
  | rightSend {m p q r l} : Step ⟨p, .send m q, r, l⟩ ⟨p, q, r, l ++ [m]⟩
  | rightRecv {k m p r l} : Step ⟨p, .recv k, m :: r, l⟩ ⟨p, k m, r, l⟩

/-- Turns of different ends commute; turns of one end are the same turn. -/
theorem Step.diamond {s t u : Network ε A B α β} (h : Step s t) (h' : Step s u) :
    t = u ∨ ∃ v, Step t v ∧ Step u v := by
  cases h <;> cases h'
  case leftSend.leftSend => exact .inl rfl
  case leftSend.rightSend => exact .inr ⟨_, .rightSend, .leftSend⟩
  case leftSend.rightRecv => exact .inr ⟨_, .rightRecv, .leftSend⟩
  case leftRecv.leftRecv => exact .inl rfl
  case leftRecv.rightSend => exact .inr ⟨_, .rightSend, .leftRecv⟩
  case leftRecv.rightRecv => exact .inr ⟨_, .rightRecv, .leftRecv⟩
  case rightSend.leftSend => exact .inr ⟨_, .leftSend, .rightSend⟩
  case rightSend.leftRecv => exact .inr ⟨_, .leftRecv, .rightSend⟩
  case rightSend.rightSend => exact .inl rfl
  case rightRecv.leftSend => exact .inr ⟨_, .leftSend, .rightRecv⟩
  case rightRecv.leftRecv => exact .inr ⟨_, .leftRecv, .rightRecv⟩
  case rightRecv.rightRecv => exact .inl rfl

/-- A run of the network, with its length. -/
inductive Steps : Nat → Network ε A B α β → Network ε A B α β → Prop where
  | zero (s) : Steps 0 s s
  | succ {n s t u} : Step s t → Steps n t u → Steps (n + 1) s u

theorem Steps.trans {m n : Nat} {s t u : Network ε A B α β} (h : Steps m s t) (h' : Steps n t u) :
    Steps (m + n) s u := by
  induction h with
  | zero => simpa using h'
  | succ hstep _ ih =>
    rw [Nat.add_right_comm]
    exact .succ hstep (ih h')

/-- Neither end can take a turn. -/
def Terminal (s : Network ε A B α β) : Prop := ∀ t, ¬ Step s t

/-- Both ends are done and nothing is in flight. -/
theorem done_terminal (a : α) (b : β) :
    Terminal (⟨.ret a, .ret b, [], []⟩ : Network ε A B α β) := by
  intro t h
  cases h

/-- Every run, whatever the interleaving, has at most `n` turns and goes on to `t`; and
there it stops. -/
def Ends (s t : Network ε A B α β) : Prop :=
  Terminal t ∧ ∃ n, ∀ k u, Steps k s u → ∃ m, k + m = n ∧ Steps m u t

/-- No first turn leads away from the end of a run. -/
theorem Steps.strip {n : Nat} {s t u : Network ε A B α β} (h : Steps n s t) (ht : Terminal t)
    (hu : Step s u) : ∃ m, n = m + 1 ∧ Steps m u t := by
  induction h generalizing u with
  | zero => exact absurd hu (ht u)
  | @succ n s s' t hstep hrest ih =>
    rcases hstep.diamond hu with rfl | ⟨v, hv, huv⟩
    · exact ⟨n, rfl, hrest⟩
    · obtain ⟨m, rfl, hm⟩ := ih ht hv
      exact ⟨m + 1, rfl, .succ huv hm⟩

/-- **One schedule that ends decides all schedules.** -/
theorem Steps.ends {n : Nat} {s t : Network ε A B α β} (h : Steps n s t) (ht : Terminal t) :
    Ends s t := by
  refine ⟨ht, n, fun k u hu => ?_⟩
  induction hu generalizing n with
  | zero => exact ⟨n, Nat.zero_add n, h⟩
  | succ hstep _ ih =>
    obtain ⟨m, rfl, hm⟩ := h.strip ht hstep
    obtain ⟨m', rfl, hm'⟩ := ih hm
    exact ⟨m', by omega, hm'⟩

/-- Some schedule leads there. -/
def Reaches (s t : Network ε A B α β) : Prop := ∃ n, Steps n s t

namespace Reaches

theorem refl (s : Network ε A B α β) : Reaches s s := ⟨0, .zero s⟩

theorem trans {s t u : Network ε A B α β} (h : Reaches s t) (h' : Reaches t u) : Reaches s u :=
  let ⟨_, hm⟩ := h
  let ⟨_, hn⟩ := h'
  ⟨_, hm.trans hn⟩

theorem ends {s t : Network ε A B α β} (h : Reaches s t) (ht : Terminal t) : Ends s t :=
  let ⟨_, hn⟩ := h
  hn.ends ht

/-- A message handed from left to right over an empty channel. -/
theorem handRight (m : B) (p : Process ε A B α) (k : B → Process ε B A β) :
    Reaches (⟨.send m p, .recv k, [], []⟩ : Network ε A B α β) ⟨p, k m, [], []⟩ :=
  ⟨2, .succ .leftSend (.succ .rightRecv (.zero _))⟩

/-- A message handed from right to left over an empty channel. -/
theorem handLeft (m : A) (k : A → Process ε A B α) (q : Process ε B A β) :
    Reaches (⟨.recv k, .send m q, [], []⟩ : Network ε A B α β) ⟨k m, q, [], []⟩ :=
  ⟨2, .succ .rightSend (.succ .leftRecv (.zero _))⟩

end Reaches

end Network

end Obd2

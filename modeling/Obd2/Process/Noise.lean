import Obd2.Process.Layer

/-! Networks on which others send as well.

The two ends read through layers that pass over what they do not accept, and between the messages of the
two there may be any others, at any time. Every turn of such a network is one of the network without the
others, or no turn at all (`Related.step`); so an end that returns has returned what it returns without
them (`noisy_safe`). Nor do the ends wait for each other for ever (`noisy_complete`): what others can do is make
an end give up. -/
namespace Obd2

theorem Process.SendsOnly.mono {ε ι ο α : Type} {kind kind' : ο → Prop} {p : Process ε ι ο α}
    (h : SendsOnly kind p) (hkind : ∀ m, kind m → kind' m) : SendsOnly kind' p := by
  induction h with
  | ret a => exact .ret a
  | fail e => exact .fail e
  | send hm _ ih => exact .send (hkind _ hm) ih
  | recv _ ih => exact .recv ih

/-! ### Turns -/

namespace Network
variable {ε A B α β : Type}

/-- What comes after does not change a turn. -/
theorem Step.bind {α' β' : Type} {s t : Network ε A B α β} (h : Step s t) (f : α → Process ε A B α')
    (g : β → Process ε B A β') :
    Step ⟨s.left >>= f, s.right >>= g, s.toRight, s.toLeft⟩ ⟨t.left >>= f, t.right >>= g, t.toRight, t.toLeft⟩ := by
  cases h with
  | leftSend => exact .leftSend
  | leftRecv => exact .leftRecv
  | rightSend => exact .rightSend
  | rightRecv => exact .rightRecv

theorem Reaches.bind {α' β' : Type} {s t : Network ε A B α β} (h : Reaches s t) (f : α → Process ε A B α')
    (g : β → Process ε B A β') :
    Reaches ⟨s.left >>= f, s.right >>= g, s.toRight, s.toLeft⟩ ⟨t.left >>= f, t.right >>= g, t.toRight, t.toLeft⟩ := by
  obtain ⟨n, hsteps⟩ := h
  refine ⟨n, ?_⟩
  induction hsteps with
  | zero s => exact .zero _
  | succ hstep _ ih => exact .succ (hstep.bind f g) ih

def swap (s : Network ε A B α β) : Network ε B A β α := ⟨s.right, s.left, s.toLeft, s.toRight⟩

theorem Step.swap {s t : Network ε A B α β} (h : Step s t) : Step s.swap t.swap := by
  cases h with
  | leftSend => exact .rightSend
  | leftRecv => exact .rightRecv
  | rightSend => exact .leftSend
  | rightRecv => exact .leftRecv

theorem Reaches.swap {s t : Network ε A B α β} (h : Reaches s t) : Reaches s.swap t.swap := by
  obtain ⟨n, hsteps⟩ := h
  refine ⟨n, ?_⟩
  induction hsteps with
  | zero s => exact .zero _
  | succ hstep _ ih => exact .succ hstep.swap ih

/-- A turn of one of the ends, or of others. -/
inductive NoisyStep (noiseRight : B → Prop) (noiseLeft : A → Prop) :
    Network ε A B α β → Network ε A B α β → Prop where
  | turn {s t} : Step s t → NoisyStep noiseRight noiseLeft s t
  | toRight {p q r l m} : noiseRight m → NoisyStep noiseRight noiseLeft ⟨p, q, r, l⟩ ⟨p, q, r ++ [m], l⟩
  | toLeft {p q r l m} : noiseLeft m → NoisyStep noiseRight noiseLeft ⟨p, q, r, l⟩ ⟨p, q, r, l ++ [m]⟩

inductive NoisySteps (noiseRight : B → Prop) (noiseLeft : A → Prop) :
    Network ε A B α β → Network ε A B α β → Prop where
  | refl (s) : NoisySteps noiseRight noiseLeft s s
  | head {s t u} : NoisyStep noiseRight noiseLeft s t → NoisySteps noiseRight noiseLeft t u →
      NoisySteps noiseRight noiseLeft s u

/-- An end that has returned stays so. -/
theorem Steps.returned {n : Nat} {s t : Network ε A B α β} (h : Steps n s t) :
    (∀ a, s.left = .ret a → t.left = .ret a) ∧ ∀ b, s.right = .ret b → t.right = .ret b := by
  induction h with
  | zero s => exact ⟨fun _ h => h, fun _ h => h⟩
  | succ hstep _ ih =>
    cases hstep with
    | leftSend => exact ⟨fun a h => (by cases h), ih.2⟩
    | leftRecv => exact ⟨fun a h => (by cases h), ih.2⟩
    | rightSend => exact ⟨ih.1, fun b h => (by cases h)⟩
    | rightRecv => exact ⟨ih.1, fun b h => (by cases h)⟩

end Network

/-! ### One end -/

/-- What an end vets before it sends, which messages it accepts, and how many others it passes over. -/
structure Screen (ε ι ο : Type) where
  vet : ο → Except ε Unit
  judge : ι → Except ε Bool
  gaveUp : ε
  most : Nat

namespace Screen
open Process
variable {ε ι ο α : Type} (screen : Screen ε ι ο)

def layer : Layer ε ι ο ι ο := .skipping screen.vet screen.judge screen.gaveUp screen.most

def accepts (m : ι) : Bool := (screen.judge m).toOption == some true

theorem judge_of_accepts {m : ι} (h : screen.accepts m = true) : screen.judge m = .ok true := by
  unfold accepts at h
  cases hjudge : screen.judge m with
  | error e =>
    rw [hjudge] at h
    cases h
  | ok accepted =>
    rw [hjudge] at h
    rw [show accepted = true by simpa [Except.toOption] using h]

theorem accepts_of_judge {m : ι} (h : screen.judge m = .ok true) : screen.accepts m = true := by
  rw [accepts, h]
  rfl

/-- Where the end is while the process is at `p`: it has come as far, or has passed over messages since, or
has failed. -/
inductive At : Process ε ι ο α → Process ε ι ο α → Prop where
  | here (p : Process ε ι ο α) : At p (through screen.layer p)
  | reading (next : ι → Process ε ι ο α) (left : Nat) : left ≤ screen.most →
      At (.recv next) (skipping screen.judge screen.gaveUp left >>= fun m => through screen.layer (next m))
  | failed (p : Process ε ι ο α) (e : ε) : At p (.fail e)

variable {screen}

theorem over_send (m : ο) (next : Process ε ι ο α) :
    through screen.layer (.send m next) =
      match screen.vet m with
      | .error e => .fail e
      | .ok () => .send m (through screen.layer next) := by
  show (Process.lift (screen.vet m) >>= fun _ => Process.send m (.ret ())) >>= _ = _
  cases screen.vet m <;> rfl

/-- What an end does next. -/
theorem At.cases {p actual : Process ε ι ο α} (h : screen.At p actual) :
    (∃ a, p = .ret a ∧ actual = .ret a) ∨ (∃ e, actual = .fail e) ∨
      (∃ m next, p = .send m next ∧ actual = .send m (through screen.layer next)) ∨
      ∃ next left, p = .recv next ∧ left ≤ screen.most ∧
        actual = skipping screen.judge screen.gaveUp left >>= fun m => through screen.layer (next m) := by
  cases h with
  | failed _ e => exact .inr (.inl ⟨e, rfl⟩)
  | reading next left hleft => exact .inr (.inr (.inr ⟨next, left, rfl, hleft, rfl⟩))
  | here =>
    cases p with
    | ret a => exact .inl ⟨a, rfl, rfl⟩
    | fail e => exact .inr (.inl ⟨e, rfl⟩)
    | recv next => exact .inr (.inr (.inr ⟨next, screen.most, rfl, Nat.le_refl _, rfl⟩))
    | send m next =>
      rw [over_send]
      cases screen.vet m with
      | error e => exact .inr (.inl ⟨e, rfl⟩)
      | ok _ => exact .inr (.inr (.inl ⟨m, next, rfl, rfl⟩))

/-- A reader waits. -/
theorem reader_recv (left : Nat) (next : ι → Process ε ι ο α) :
    ∃ g, (skipping screen.judge screen.gaveUp left >>= fun m => through screen.layer (next m)) = .recv g :=
  (skipping_bind screen.judge screen.gaveUp left fun m => through screen.layer (next m)).imp fun _ h => h.1

theorem At.of_ret {p : Process ε ι ο α} {a : α} (h : screen.At p (.ret a)) : p = .ret a := by
  rcases h.cases with ⟨a', rfl, heq⟩ | ⟨e, heq⟩ | ⟨m, next, -, heq⟩ | ⟨next, left, -, -, heq⟩
  · exact heq.symm
  · cases heq
  · cases heq
  · obtain ⟨g, hg⟩ := reader_recv left next
    cases heq.trans hg

/-- An end that sends is where the process sends. -/
theorem At.of_send {p : Process ε ι ο α} {m : ο} {actual : Process ε ι ο α} (h : screen.At p (.send m actual)) :
    ∃ next, p = .send m next ∧ screen.At next actual := by
  rcases h.cases with ⟨a', -, heq⟩ | ⟨e, heq⟩ | ⟨m', next, rfl, heq⟩ | ⟨next, left, -, -, heq⟩
  · cases heq
  · cases heq
  · cases heq
    exact ⟨next, rfl, .here next⟩
  · obtain ⟨g, hg⟩ := reader_recv left next
    cases heq.trans hg

/-- An end that waits is where the process waits, and a message that it does not accept leaves it there. -/
theorem At.of_recv {p : Process ε ι ο α} {k : ι → Process ε ι ο α} (h : screen.At p (.recv k)) :
    ∃ next, p = .recv next ∧ (∀ m, screen.accepts m = true → screen.At (next m) (k m)) ∧
      ∀ m, screen.accepts m = false → screen.At p (k m) := by
  rcases h.cases with ⟨a', -, heq⟩ | ⟨e, heq⟩ | ⟨m', next, -, heq⟩ | ⟨next, left, rfl, hleft, heq⟩
  · cases heq
  · cases heq
  · cases heq
  · obtain ⟨g, hg, haccept, herror, hreject⟩ := skipping_bind screen.judge screen.gaveUp left
      fun m => through screen.layer (next m)
    obtain rfl : k = g := Process.recv.inj (heq.trans hg)
    refine ⟨next, rfl, fun m hm => ?_, fun m hm => ?_⟩
    · rw [haccept m (screen.judge_of_accepts hm)]
      exact .here (next m)
    · cases hjudge : screen.judge m with
      | error e =>
        rw [herror m e hjudge]
        exact .failed _ e
      | ok accepted =>
        cases accepted with
        | true => exact absurd (screen.accepts_of_judge hjudge) (Bool.eq_false_iff.mp hm)
        | false =>
          rcases hreject m hjudge with ⟨e, hfail⟩ | ⟨left', hlt, hgo⟩
          · rw [hfail]
            exact .failed _ e
          · have hleft' : left' ≤ screen.most := by omega
            rw [hgo]
            exact .reading next left' hleft'

/-- An end that has not failed does what the process does. -/
theorem At.ret_of {a : α} {actual : Process ε ι ο α} (h : screen.At (.ret a) actual)
    (hfail : ∀ e, actual ≠ .fail e) : actual = .ret a := by
  rcases h.cases with ⟨a', heq, hactual⟩ | ⟨e, heq⟩ | ⟨m, next, heq, -⟩ | ⟨next, left, heq, -⟩
  · rw [hactual, ← heq]
  · exact absurd heq (hfail e)
  · cases heq
  · cases heq

theorem At.send_of {m : ο} {next actual : Process ε ι ο α} (h : screen.At (.send m next) actual)
    (hfail : ∀ e, actual ≠ .fail e) : ∃ m' rest, actual = .send m' rest := by
  rcases h.cases with ⟨a, heq, -⟩ | ⟨e, heq⟩ | ⟨m', rest, -, hactual⟩ | ⟨rest, left, heq, -⟩
  · cases heq
  · exact absurd heq (hfail e)
  · exact ⟨m', _, hactual⟩
  · cases heq

theorem At.recv_of {next : ι → Process ε ι ο α} {actual : Process ε ι ο α} (h : screen.At (.recv next) actual)
    (hfail : ∀ e, actual ≠ .fail e) : ∃ k, actual = .recv k := by
  rcases h.cases with ⟨a, heq, -⟩ | ⟨e, heq⟩ | ⟨m, rest, heq, -⟩ | ⟨rest, left, -, -, hactual⟩
  · cases heq
  · exact absurd heq (hfail e)
  · cases heq
  · obtain ⟨g, hg⟩ := reader_recv left rest
    exact ⟨g, hactual.trans hg⟩

end Screen

/-! ### Both ends -/

namespace Network
open Process
variable {ε A B α β : Type} (screenLeft : Screen ε A B) (screenRight : Screen ε B A)

/-- The network with its ends behind their screens. -/
def screened (s : Network ε A B α β) : Network ε A B α β :=
  ⟨through screenLeft.layer s.left, through screenRight.layer s.right, s.toRight, s.toLeft⟩

/-- The two networks at one point of a run: without what is not accepted, the channels hold the same. All
that the ends have to send is accepted by the other. -/
structure Related (s clean : Network ε A B α β) : Prop where
  left : screenLeft.At clean.left s.left
  right : screenRight.At clean.right s.right
  toRight : s.toRight.filter screenRight.accepts = clean.toRight
  toLeft : s.toLeft.filter screenLeft.accepts = clean.toLeft
  leftSends : SendsOnly (fun m => screenRight.accepts m = true) clean.left
  rightSends : SendsOnly (fun m => screenLeft.accepts m = true) clean.right

variable {screenLeft screenRight}

theorem related_screened {clean : Network ε A B α β}
    (hleft : SendsOnly (fun m => screenRight.accepts m = true) clean.left)
    (hright : SendsOnly (fun m => screenLeft.accepts m = true) clean.right)
    (htoRight : clean.toRight = []) (htoLeft : clean.toLeft = []) :
    Related screenLeft screenRight (clean.screened screenLeft screenRight) clean where
  left := .here clean.left
  right := .here clean.right
  toRight := by
    rw [screened, htoRight]
    rfl
  toLeft := by
    rw [screened, htoLeft]
    rfl
  leftSends := hleft
  rightSends := hright

/-- What is not accepted leaves no trace. -/
theorem filter_foreign {ι : Type} {accepts : ι → Bool} {m : ι} (h : accepts m = false) (ms : List ι) :
    (ms ++ [m]).filter accepts = ms.filter accepts := by
  rw [List.filter_append, List.filter_cons, h]
  exact List.append_nil _

theorem filter_own {ι : Type} {accepts : ι → Bool} {m : ι} (h : accepts m = true) (ms : List ι) :
    (ms ++ [m]).filter accepts = ms.filter accepts ++ [m] := by
  rw [List.filter_append, List.filter_cons, h]
  rfl

/-- **A turn is a turn without the others, or none.** -/
theorem Related.step {s clean t : Network ε A B α β} (h : Related screenLeft screenRight s clean)
    (hstep : NoisyStep (fun m => screenRight.accepts m = false) (fun m => screenLeft.accepts m = false) s t) :
    ∃ clean', Reaches clean clean' ∧ Related screenLeft screenRight t clean' := by
  obtain ⟨p, q, r, l⟩ := clean
  obtain ⟨hleft, hright, htoRight, htoLeft, hleftSends, hrightSends⟩ := h
  cases hstep with
  | toRight hm => exact ⟨_, .refl _, hleft, hright, (filter_foreign hm _).trans htoRight, htoLeft, hleftSends, hrightSends⟩
  | toLeft hm => exact ⟨_, .refl _, hleft, hright, htoRight, (filter_foreign hm _).trans htoLeft, hleftSends, hrightSends⟩
  | turn hturn =>
    cases hturn with
    | @leftSend m p' q' r' l' =>
      obtain ⟨next, rfl, hnext⟩ := hleft.of_send
      cases hleftSends with
      | send hm hsends =>
        refine ⟨_, ⟨1, .succ .leftSend (.zero _)⟩, hnext, hright, ?_, htoLeft, hsends, hrightSends⟩
        exact (filter_own hm r').trans (congrArg (· ++ [m]) htoRight)
    | @rightSend m p' q' r' l' =>
      obtain ⟨next, rfl, hnext⟩ := hright.of_send
      cases hrightSends with
      | send hm hsends =>
        refine ⟨_, ⟨1, .succ .rightSend (.zero _)⟩, hleft, hnext, htoRight, ?_, hleftSends, hsends⟩
        exact (filter_own hm l').trans (congrArg (· ++ [m]) htoLeft)
    | @leftRecv k m q' r' l' =>
      obtain ⟨next, rfl, haccepted, hforeign⟩ := hleft.of_recv
      cases hm : screenLeft.accepts m with
      | false =>
        refine ⟨_, .refl _, hforeign m hm, hright, htoRight, ?_, hleftSends, hrightSends⟩
        rwa [List.filter_cons, hm] at htoLeft
      | true =>
        rw [List.filter_cons, hm] at htoLeft
        subst htoLeft
        cases hleftSends with
        | recv hsends =>
          exact ⟨_, ⟨1, .succ .leftRecv (.zero _)⟩, haccepted m hm, hright, htoRight, rfl, hsends m, hrightSends⟩
    | @rightRecv k m p' r' l' =>
      obtain ⟨next, rfl, haccepted, hforeign⟩ := hright.of_recv
      cases hm : screenRight.accepts m with
      | false =>
        refine ⟨_, .refl _, hleft, hforeign m hm, ?_, htoLeft, hleftSends, hrightSends⟩
        rwa [List.filter_cons, hm] at htoRight
      | true =>
        rw [List.filter_cons, hm] at htoRight
        subst htoRight
        cases hrightSends with
        | recv hsends =>
          exact ⟨_, ⟨1, .succ .rightRecv (.zero _)⟩, hleft, haccepted m hm, rfl, htoLeft, hleftSends, hsends m⟩

theorem Related.steps {s clean t : Network ε A B α β} (h : Related screenLeft screenRight s clean)
    (hsteps : NoisySteps (fun m => screenRight.accepts m = false) (fun m => screenLeft.accepts m = false) s t) :
    ∃ clean', Reaches clean clean' ∧ Related screenLeft screenRight t clean' := by
  induction hsteps generalizing clean with
  | refl s => exact ⟨clean, .refl clean, h⟩
  | head hstep _ ih =>
    obtain ⟨next, hreaches, hrelated⟩ := h.step hstep
    obtain ⟨clean', hreaches', hrelated'⟩ := ih hrelated
    exact ⟨clean', hreaches.trans hreaches', hrelated'⟩

/-- **What an end returns it returns without the others**, whatever they send and when. -/
theorem noisy_safe {clean t : Network ε A B α β} {a : α} {b : β}
    (hleft : SendsOnly (fun m => screenRight.accepts m = true) clean.left)
    (hright : SendsOnly (fun m => screenLeft.accepts m = true) clean.right)
    (htoRight : clean.toRight = []) (htoLeft : clean.toLeft = []) (hends : Ends clean ⟨.ret a, .ret b, [], []⟩)
    (hsteps : NoisySteps (fun m => screenRight.accepts m = false) (fun m => screenLeft.accepts m = false)
      (clean.screened screenLeft screenRight) t) :
    (∀ a', t.left = .ret a' → a' = a) ∧ ∀ b', t.right = .ret b' → b' = b := by
  obtain ⟨clean', ⟨n, hreaches⟩, hrelated⟩ := (related_screened hleft hright htoRight htoLeft).steps hsteps
  obtain ⟨-, total, hall⟩ := hends
  obtain ⟨m, -, hrest⟩ := hall n clean' hreaches
  obtain ⟨hstaysLeft, hstaysRight⟩ := hrest.returned
  refine ⟨fun a' ha' => ?_, fun b' hb' => ?_⟩
  · have hclean := Screen.At.of_ret (ha' ▸ hrelated.left)
    exact (Process.ret.inj (hstaysLeft a' hclean)).symm
  · have hclean := Screen.At.of_ret (hb' ▸ hrelated.right)
    exact (Process.ret.inj (hstaysRight b' hclean)).symm

/-- Where neither end can take a turn, and none has failed, there is nothing to do without the others either. -/
theorem Related.terminal {s clean : Network ε A B α β} (h : Related screenLeft screenRight s clean)
    (hterminal : Terminal s) (hleft : ∀ e, s.left ≠ .fail e) (hright : ∀ e, s.right ≠ .fail e) : Terminal clean := by
  obtain ⟨p, q, r, l⟩ := s
  obtain ⟨hleftAt, hrightAt, htoRight, htoLeft, -, -⟩ := h
  intro t hstep
  cases hstep with
  | leftSend =>
    obtain ⟨m, rest, rfl⟩ : ∃ m rest, p = .send m rest := hleftAt.send_of hleft
    exact hterminal _ .leftSend
  | rightSend =>
    obtain ⟨m, rest, rfl⟩ : ∃ m rest, q = .send m rest := hrightAt.send_of hright
    exact hterminal _ .rightSend
  | leftRecv =>
    obtain ⟨k, rfl⟩ : ∃ k, p = .recv k := hleftAt.recv_of hleft
    cases l with
    | nil => cases htoLeft
    | cons first rest => exact hterminal _ .leftRecv
  | rightRecv =>
    obtain ⟨k, rfl⟩ : ∃ k, q = .recv k := hrightAt.recv_of hright
    cases r with
    | nil => cases htoRight
    | cons first rest => exact hterminal _ .rightRecv

/-- **Others cannot keep the ends waiting for each other**: where neither end can take another turn, and none
has failed, both have returned what they return without the others. -/
theorem noisy_complete {clean t : Network ε A B α β} {a : α} {b : β}
    (hleft : SendsOnly (fun m => screenRight.accepts m = true) clean.left)
    (hright : SendsOnly (fun m => screenLeft.accepts m = true) clean.right)
    (htoRight : clean.toRight = []) (htoLeft : clean.toLeft = []) (hends : Ends clean ⟨.ret a, .ret b, [], []⟩)
    (hsteps : NoisySteps (fun m => screenRight.accepts m = false) (fun m => screenLeft.accepts m = false)
      (clean.screened screenLeft screenRight) t)
    (hterminal : Terminal t) (hleftFail : ∀ e, t.left ≠ .fail e) (hrightFail : ∀ e, t.right ≠ .fail e) :
    t.left = .ret a ∧ t.right = .ret b := by
  obtain ⟨clean', ⟨n, hreaches⟩, hrelated⟩ := (related_screened hleft hright htoRight htoLeft).steps hsteps
  obtain ⟨-, total, hall⟩ := hends
  obtain ⟨m, -, hrest⟩ := hall n clean' hreaches
  have hdone := hrelated.terminal hterminal hleftFail hrightFail
  cases hrest with
  | succ hstep _ => exact absurd hstep (hdone _)
  | zero => exact ⟨hrelated.left.ret_of hleftFail, hrelated.right.ret_of hrightFail⟩

end Network

end Obd2

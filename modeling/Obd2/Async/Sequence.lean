import Obd2.Async

/-! Commands one after the other, up to the first that does not return.

What holds of the commands carried out so far is kept command by command. A run that returns has
carried out all of them; one that does not has carried out a first part of them. -/
namespace Obd2.Async.Triple
variable {ε σ α κ : Type} {f : κ → Async ε σ α} {I : List κ → σ → Prop}

/-- `I done` tells of the state when `done` are carried out. A command that returns is carried out, and one
that does not may have been. -/
theorem mapM_prefix
    (hf : ∀ done command, Triple (I done) (f command) fun outcome s =>
      I (done ++ [command]) s ∨ outcome.isOk = false ∧ I done s)
    (before commands : List κ) :
    Triple (I before) (commands.mapM f) fun outcome s =>
      ∃ done, done <+: commands ∧ I (before ++ done) s ∧ (outcome.isOk = true → done = commands) := by
  induction commands generalizing before with
  | nil =>
    rw [List.mapM_nil]
    refine Triple.pure fun s hs => ⟨[], List.prefix_rfl, ?_, fun _ => rfl⟩
    rwa [List.append_nil]
  | cons command commands ih =>
    rw [List.mapM_cons]
    -- whatever does not return leaves the command carried out or not
    have hends : ∀ (outcome : Outcome ε (List α)) s, outcome.isOk = false →
        I (before ++ [command]) s ∨ I before s →
        ∃ done, done <+: command :: commands ∧ I (before ++ done) s ∧
          (outcome.isOk = true → done = command :: commands) := by
      intro outcome s hfails hs
      have hnot : outcome.isOk = true → ∀ done : List κ, done = command :: commands :=
        fun hok => absurd (hfails.symm.trans hok) Bool.false_ne_true
      rcases hs with hs | hs
      · exact ⟨[command], ⟨commands, rfl⟩, hs, fun hok => hnot hok _⟩
      · exact ⟨[], List.nil_prefix, by rwa [List.append_nil], fun hok => hnot hok _⟩
    refine Triple.bind (hf before command) (fun a => ?_) (fun e s hs => ?_) (fun s hs => ?_)
    · have hrest := ih (before ++ [command])
      refine Triple.bind (hrest.weaken (fun s hs => ?_) fun _ _ h => h) (fun as => ?_) (fun e s hs => ?_)
        fun s hs => ?_
      · rcases hs with hs | ⟨hfails, -⟩
        · exact hs
        · cases hfails
      · refine Triple.pure ?_
        rintro s ⟨done, -, hdone, hall⟩
        obtain rfl := hall rfl
        exact ⟨command :: done, List.prefix_rfl, by rwa [List.append_assoc] at hdone, fun _ => rfl⟩
      · obtain ⟨done, hprefix, hdone, -⟩ := hs
        exact ⟨command :: done, List.cons_prefix_cons.mpr ⟨rfl, hprefix⟩, by rwa [List.append_assoc] at hdone,
          fun hok => absurd hok Bool.false_ne_true⟩
      · obtain ⟨done, hprefix, hdone, -⟩ := hs
        exact ⟨command :: done, List.cons_prefix_cons.mpr ⟨rfl, hprefix⟩, by rwa [List.append_assoc] at hdone,
          fun hok => absurd hok Bool.false_ne_true⟩
    · exact hends _ s rfl (hs.imp_right fun h => h.2)
    · exact hends _ s rfl (hs.imp_right fun h => h.2)

end Obd2.Async.Triple

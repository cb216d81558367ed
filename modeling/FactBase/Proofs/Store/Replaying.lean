import FactBase.Store.Patterns
import FactBase.Proofs.Basic

/-!
# What replays are made of

A replay matches facts, withdraws matches and takes notes in the pattern trees, with the guard held.
What each of these steps does to a fact base, patterns that are added and replays do.
-/

namespace FactBase.Store

variable {N : Type} [JoinNetwork N] {s s' : Store N}

/-- A relation that all steps of a replay uphold. -/
structure Replayable (Rel : Store N → Store N → Prop) : Prop where
  refl : ∀ s, Rel s s
  trans : ∀ {s s' s''}, Rel s s' → Rel s' s'' → Rel s s''
  recorded : ∀ (s : Store N) (t : TemplateId) (h : Handle),
    Rel s { s with patterns := s.patterns.updateTree t (·.recordReplayed h) }
  marked : ∀ (s : Store N) (t : TemplateId),
    Rel s { s with patterns := s.patterns.updateTree t (·.markInitialized) }
  guarded : ∀ (s : Store N) (guarded : Bool), Rel s { s with guarded }
  matchFact : ∀ {s s' : Store N} {h : Handle} {mode : MatchMode} {o : MatchOutcome},
    s.matchFact h mode = .ok (o, s') → Rel s s'
  withdraw : ∀ {s s' : Store N} {h : Handle} {ids : List MatchId} {notices : List Notice},
    s.withdraw h ids = .ok (notices, s') → Rel s s'

namespace Replayable

variable {Rel : Store N → Store N → Prop}

theorem replayFacts (steps : Replayable Rel) {t : TemplateId} {hs : List Handle}
    {o : ReplayOutcome} (done : Store.replayFacts t hs s = .ok (o, s')) : Rel s s' := by
  induction hs generalizing s o with
  | nil =>
    obtain ⟨-, rfl⟩ := Prod.mk.inj (Except.ok.inj done)
    exact steps.refl s
  | cons h rest ih =>
    unfold Store.replayFacts at done
    split at done
    · exact ih done
    · obtain ⟨⟨o, u⟩, matched, done⟩ := bind_eq_ok.mp done
      have first := steps.matchFact matched
      dsimp only at done
      split at done
      · obtain ⟨⟨notices, v⟩, withdrawn, done⟩ := bind_eq_ok.mp done
        obtain ⟨-, rfl⟩ := Prod.mk.inj (Except.ok.inj done)
        exact steps.trans first (steps.withdraw withdrawn)
      · obtain ⟨⟨r, v⟩, others, done⟩ := bind_eq_ok.mp done
        obtain ⟨-, rfl⟩ := Prod.mk.inj (Except.ok.inj done)
        exact steps.trans first (steps.trans (steps.recorded u t h) (ih others))

theorem replay (steps : Replayable Rel) {t : TemplateId} {o : ReplayOutcome}
    (done : s.replay t = .ok (o, s')) : Rel s s' := by
  obtain ⟨⟨r, u⟩, replayed, done⟩ := bind_eq_ok.mp done
  obtain ⟨-, rfl⟩ := Prod.mk.inj (Except.ok.inj done)
  have all : Rel s { u with guarded := s.guarded } :=
    steps.trans (steps.guarded s true)
      (steps.trans (steps.replayFacts replayed) (steps.guarded u s.guarded))
  split
  · exact steps.trans all (steps.marked _ t)
  · exact all

theorem addPattern (steps : Replayable Rel) {p : Pattern} {label : String}
    {r : Except PatternError EntryId} {notices : List Notice}
    (added : ∀ template id patterns, s.templates.get? p.template = some template →
      s.patterns.add template p label = .ok (id, patterns) → Rel s { s with patterns })
    (done : s.addPattern p label = .ok (r, notices, s')) : Rel s s' := by
  unfold Store.addPattern at done
  split at done
  · simp only [Except.ok.injEq, Prod.mk.injEq] at done
    exact done.2.2 ▸ steps.refl s
  · rename_i template known
    split at done
    · simp only [Except.ok.injEq, Prod.mk.injEq] at done
      exact done.2.2 ▸ steps.refl s
    · rename_i id patterns grown
      have added := added template id patterns known grown
      dsimp only at done
      split at done
      · obtain ⟨⟨o, u⟩, replayed, done⟩ := bind_eq_ok.mp done
        simp only [Except.ok.injEq, Prod.mk.injEq] at done
        obtain ⟨-, -, rfl⟩ := done
        exact steps.trans added (steps.replay replayed)
      · simp only [Except.ok.injEq, Prod.mk.injEq] at done
        exact done.2.2 ▸ added

theorem replayAll (steps : Replayable Rel) {ts : List TemplateId} {n : Nat} {notices : List Notice}
    (done : Store.replayAll ts s = .ok (n, notices, s')) : Rel s s' := by
  induction ts generalizing s n notices with
  | nil =>
    simp only [Store.replayAll, Except.ok.injEq, Prod.mk.injEq] at done
    exact done.2.2 ▸ steps.refl s
  | cons t rest ih =>
    obtain ⟨⟨o, u⟩, replayed, done⟩ := bind_eq_ok.mp done
    obtain ⟨⟨m, ns, v⟩, others, done⟩ := bind_eq_ok.mp done
    simp only [Except.ok.injEq, Prod.mk.injEq] at done
    obtain ⟨-, -, rfl⟩ := done
    exact steps.trans (steps.replay replayed) (ih others)

end Replayable

end FactBase.Store

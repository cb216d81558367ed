import FactBase.Proofs.Pattern.Lenience
import FactBase.Proofs.Store.Untested

/-!
# Fact bases that take failures for answers

Of two fact bases one takes the tests that fail in the other not to hold. They stay the same in
everything but the record of failures: they match and replay the same facts with the same matches.
-/

namespace FactBase

def Notice.isTestFailure : Notice → Bool
  | .testFailed _ _ => true
  | _ => false

/-- What is let known if no test fails. -/
def Notice.forgiven (ns : List Notice) : List Notice := ns.filter (!·.isTestFailure)

/-- The outcome of matching if the failures are taken for answers. -/
def Store.MatchOutcome.forgiven (o : Store.MatchOutcome) : Store.MatchOutcome :=
  { o with failed := false, notices := Notice.forgiven o.notices }

def Store.ReplayOutcome.forgiven (o : Store.ReplayOutcome) : Store.ReplayOutcome :=
  { o with notices := Notice.forgiven o.notices }

namespace Store

variable {N ε α β γ : Type} {s s' u : Store N}

/-- The second fact base takes the failures of the first one for answers and is the same otherwise,
except for the record of failures. -/
def Lenient (s s' : Store N) : Prop :=
  ∃ failed errors, s' = s.under ⟨s.probe.lenient, failed, errors⟩

/-- Two steps end in the same way: with the same error, or with related results and fact bases. -/
def Abreast (R : α → α → Prop) (x x' : Except ε (α × Store N)) : Prop :=
  match x, x' with
  | .ok (a, s), .ok (a', s') => R a a' ∧ Lenient s s'
  | .error e, .error e' => e = e'
  | _, _ => False

theorem abreast_bind {R : α → α → Prop} {Q : β → β → Prop} {x x' : Except ε (α × Store N)}
    {k k' : α × Store N → Except ε (β × Store N)} (first : Abreast R x x')
    (rest : ∀ a a' s s', R a a' → Lenient s s' → Abreast Q (k (a, s)) (k' (a', s'))) :
    Abreast Q (x >>= k) (x' >>= k') := by
  unfold Abreast at first
  split at first
  · exact rest _ _ _ _ first.1 first.2
  · exact first
  · exact first.elim

theorem abreast_bind_paired {R : α × β → α × β → Prop} {Q : γ → γ → Prop}
    {x x' : Except ε (α × β × Store N)} {k k' : α × β × Store N → Except ε (γ × Store N)}
    (first : Abreast R (paired x) (paired x'))
    (rest : ∀ a a' s s', R a a' → Lenient s s' →
      Abreast Q (k (a.1, a.2, s)) (k' (a'.1, a'.2, s'))) :
    Abreast Q (x >>= k) (x' >>= k') := by
  have split (x : Except ε (α × β × Store N)) (k : α × β × Store N → Except ε (γ × Store N)) :
      x >>= k = paired x >>= fun y => k (y.1.1, y.1.2, y.2) := by cases x <;> rfl
  rw [split x, split x']
  exact abreast_bind first rest

theorem paired_bind {δ : Type} (x : Except ε δ) (k : δ → Except ε (α × β × Store N)) :
    paired (x >>= k) = x >>= fun y => paired (k y) := by cases x <;> rfl

theorem Lenient.mk (s : Store N) (failed : Bool) (errors : Nat) :
    Lenient s (s.under ⟨s.probe.lenient, failed, errors⟩) := ⟨failed, errors, rfl⟩

theorem Lenient.update (lenient : Lenient s s') {f : Store N → Store N}
    (untested : ∀ s t, f (s.under t) = (f s).under t) : Lenient (f s) (f s') := by
  obtain ⟨failed, errors, rfl⟩ := lenient
  have same : f s = (f s).under s.testing := untested s s.testing
  have kept := congrArg Store.probe same
  refine ⟨failed, errors, ?_⟩
  rw [untested, kept]
  rfl

/-- A step that tests nothing leaves the tests and the record of failures as they are. -/
theorem Untested.testing_eq {f : Store N → Except ε (α × Store N)} (untested : Untested f) {a : α}
    (done : f s = .ok (a, u)) : u.testing = s.testing := by
  have same : f s = passing s.testing (f s) := untested s s.testing
  rw [done] at same
  obtain ⟨-, kept⟩ := Prod.mk.inj (Except.ok.inj same)
  rw [kept]
  rfl

/-- A step that tests nothing does the same of both fact bases. -/
theorem Untested.abreast {f : Store N → Except ε (α × Store N)} (untested : Untested f)
    (lenient : Lenient s s') : Abreast Eq (f s) (f s') := by
  obtain ⟨failed, errors, rfl⟩ := lenient
  rw [untested]
  cases done : f s with
  | error e => rfl
  | ok y =>
    obtain ⟨a, u⟩ := y
    refine ⟨rfl, failed, errors, ?_⟩
    rw [show u.probe = s.probe from congrArg Testing.probe (untested.testing_eq done)]

/-! ### Matching -/

variable [JoinNetwork N]

/-- The network is given the same matches. -/
theorem deliverAll_filter (h : Handle) (f : Fact) (ds : List Delivery) (n : N) :
    deliverAll h f (ds.filter (!·.isFailed)) n =
      ((deliverAll h f ds n).1.forgiven, (deliverAll h f ds n).2) := by
  induction ds generalizing n with
  | nil => rfl
  | cons d ds ih =>
    cases d with
    | matched e markers =>
      rw [List.filter_cons_of_pos (by rfl)]
      simp only [deliverAll, ih]
      rfl
    | failed test =>
      rw [List.filter_cons_of_neg (by exact Bool.false_ne_true)]
      simp only [deliverAll, ih]
      rfl

/-- A fact is matched with the same matches and halted at the same place. -/
theorem abreast_matchFact (lenient : Lenient s s') (h : Handle) (mode : MatchMode) :
    Abreast (fun o o' => o' = o.forgiven) (s.matchFact h mode) (s'.matchFact h mode) := by
  obtain ⟨failed, errors, rfl⟩ := lenient
  unfold matchFact
  rw [show (s.under _).get? h = s.get? h from rfl]
  split
  · rfl
  · rename_i f _
    rw [show (s.under _).patterns = s.patterns from rfl]
    split
    · exact ⟨rfl, .mk s failed errors⟩
    · rename_i tree _
      have walk := MatchContext.forgives_run (c := ⟨Probe.judge, tree, f.values, mode⟩) rfl
        ⟨s.probe, false⟩
      change MatchContext.run ⟨Probe.judge, tree, f.values, mode⟩ ⟨s.probe.lenient, false⟩ = _ at walk
      rw [show (s.under ⟨s.probe.lenient, failed, errors⟩).probe = s.probe.lenient from rfl,
        show (s.under ⟨s.probe.lenient, failed, errors⟩).network = s.network from rfl]
      dsimp only
      rw [walk, deliverAll_filter]
      obtain ⟨ds, walked⟩ := MatchContext.run ⟨Probe.judge, tree, f.values, mode⟩ ⟨s.probe, false⟩
      obtain ⟨o, network⟩ := deliverAll h f ds s.network
      refine ⟨rfl, ?_⟩
      dsimp only
      split
      · exact ⟨failed, errors, rfl⟩
      · exact ⟨failed, errors, rfl⟩

/-! ### Dropping matches -/

/-- The same is let known, and nothing of it is a failure of a test. -/
def Plain (ns ns' : List Notice) : Prop := ns' = ns ∧ Notice.forgiven ns = ns

/-- Matches are dropped in the same way. What the network refuses is no failure of a test. -/
theorem abreast_retractMatches (lenient : Lenient s s') (h : Handle) (ids : List MatchId)
    {report : EvalError → Notice} (other : ∀ e, (report e).isTestFailure = false) :
    Abreast (fun a a' => a'.1 = a.1 ∧ Plain a.2 a'.2) (paired (s.retractMatches h ids report))
      (paired (s'.retractMatches h ids report)) := by
  obtain ⟨failed, errors, rfl⟩ := lenient
  unfold retractMatches
  split
  · exact ⟨⟨rfl, rfl, rfl⟩, failed, errors, rfl⟩
  · rw [show (s.under _).network = s.network from rfl]
    cases JoinNetwork.retract h ids s.network with
    | error e => rfl
    | ok answer =>
      obtain ⟨_ | e, network⟩ := answer
      · exact ⟨⟨rfl, rfl, rfl⟩, failed, errors, rfl⟩
      · refine ⟨⟨rfl, rfl, ?_⟩, _, _, rfl⟩
        refine List.filter_eq_self.mpr fun n inside => ?_
        rcases List.mem_cons.mp inside with rfl | inside
        · rfl
        · rw [List.mem_singleton.mp inside, other]
          rfl

theorem abreast_detach (lenient : Lenient s s') (h : Handle) :
    Abreast (fun d d' => d' = d ∧ Notice.forgiven d.notices = d.notices) (s.detach h)
      (s'.detach h) := by
  obtain ⟨failed, errors, rfl⟩ := lenient
  unfold detach
  rw [show (s.under _).get? h = s.get? h from rfl, show (s.under _).index = s.index from rfl]
  split
  · rfl
  · rename_i f _
    obtain ⟨found, index⟩ := s.index.remove f.hash h
    cases found with
    | false => rfl
    | true =>
      have lenient : Lenient { s with index }
          { s.under ⟨s.probe.lenient, failed, errors⟩ with index } := ⟨failed, errors, rfl⟩
      refine abreast_bind_paired ((untested_unlink f.templateId h).abreast lenient)
        fun a a' u u' same lenient => ?_
      subst same
      obtain ⟨failed, errors, rfl⟩ := lenient
      dsimp only
      split
      · rfl
      · refine abreast_bind_paired (abreast_retractMatches ⟨failed, errors, rfl⟩ h f.matched
          fun _ => rfl) fun b b' v v' same lenient => ?_
        obtain ⟨failed, notices⟩ := b
        obtain ⟨rfl, rfl, plain⟩ := same
        exact ⟨⟨rfl, plain⟩, lenient⟩

/-! ### Replaying -/

theorem abreast_withdraw (lenient : Lenient s s') (h : Handle) (ids : List MatchId) :
    Abreast Plain (s.withdraw h ids) (s'.withdraw h ids) := by
  obtain ⟨failed, errors, rfl⟩ := lenient
  refine abreast_bind_paired (abreast_retractMatches ⟨failed, errors, rfl⟩ h ids fun _ => rfl)
    fun a a' u u' same lenient => ?_
  exact ⟨same.2, lenient⟩

theorem forgiven_append (ns ms : List Notice) :
    Notice.forgiven (ns ++ ms) = Notice.forgiven ns ++ Notice.forgiven ms := List.filter_append ..

theorem abreast_replayFacts (lenient : Lenient s s') (t : TemplateId) (hs : List Handle) :
    Abreast (fun r r' => r' = r.forgiven) (replayFacts t hs s) (replayFacts t hs s') := by
  induction hs generalizing s s' with
  | nil => exact ⟨rfl, lenient⟩
  | cons h rest ih =>
    unfold replayFacts
    have patterns : s'.patterns = s.patterns := by
      obtain ⟨_, _, rfl⟩ := lenient
      rfl
    rw [patterns]
    split
    · exact ih lenient
    · refine abreast_bind (abreast_matchFact lenient h .replay) fun o o' u u' same lenient => ?_
      subst same
      dsimp only [MatchOutcome.forgiven]
      split
      · refine abreast_bind (abreast_withdraw lenient h o.ids) fun ns ns' v v' same lenient => ?_
        obtain ⟨rfl, plain⟩ := same
        refine ⟨?_, lenient⟩
        dsimp only [ReplayOutcome.forgiven]
        rw [forgiven_append, forgiven_append, plain]
        rfl
      · obtain ⟨failed, errors, rfl⟩ := lenient
        refine abreast_bind (ih ⟨failed, errors, rfl⟩) fun r r' v v' same lenient => ?_
        subst same
        refine ⟨?_, lenient⟩
        dsimp only [ReplayOutcome.forgiven]
        rw [forgiven_append]

theorem abreast_replay (lenient : Lenient s s') (t : TemplateId) :
    Abreast (fun r r' => r' = r.forgiven) (s.replay t) (s'.replay t) := by
  obtain ⟨failed, errors, rfl⟩ := lenient
  refine abreast_bind (abreast_replayFacts ⟨failed, errors, rfl⟩ t (s.templateFacts t))
    fun r r' u u' same lenient => ?_
  subst same
  obtain ⟨failed, errors, rfl⟩ := lenient
  obtain ⟨produced, complete, notices⟩ := r
  refine ⟨rfl, ?_⟩
  cases complete with
  | false => exact ⟨failed, errors, rfl⟩
  | true => exact ⟨failed, errors, rfl⟩

theorem abreast_addPattern (lenient : Lenient s s') (p : Pattern) (label : String) :
    Abreast (fun a a' => a' = (a.1, Notice.forgiven a.2)) (paired (s.addPattern p label))
      (paired (s'.addPattern p label)) := by
  obtain ⟨failed, errors, rfl⟩ := lenient
  unfold addPattern
  rw [show (s.under _).templates = s.templates from rfl,
    show (s.under _).patterns = s.patterns from rfl, show (s.under _).config = s.config from rfl]
  split
  · exact ⟨rfl, failed, errors, rfl⟩
  · split
    · exact ⟨rfl, failed, errors, rfl⟩
    · rename_i id patterns _
      dsimp only
      split
      · have lenient : Lenient { s with patterns }
            { s.under ⟨s.probe.lenient, failed, errors⟩ with patterns } := ⟨failed, errors, rfl⟩
        rw [paired_bind, paired_bind]
        refine abreast_bind (abreast_replay lenient p.template) fun r r' u u' same lenient => ?_
        subst same
        exact ⟨rfl, lenient⟩
      · exact ⟨rfl, failed, errors, rfl⟩

theorem abreast_replayAll (lenient : Lenient s s') (ts : List TemplateId) :
    Abreast (fun a a' => a' = (a.1, Notice.forgiven a.2)) (paired (replayAll ts s))
      (paired (replayAll ts s')) := by
  induction ts generalizing s s' with
  | nil => exact ⟨rfl, lenient⟩
  | cons t rest ih =>
    unfold replayAll
    rw [paired_bind, paired_bind]
    refine abreast_bind (abreast_replay lenient t) fun r r' u u' same lenient => ?_
    subst same
    rw [paired_bind, paired_bind]
    refine abreast_bind_paired (ih lenient) fun a a' v v' same lenient => ?_
    subst same
    refine ⟨?_, lenient⟩
    dsimp only [ReplayOutcome.forgiven]
    rw [forgiven_append]

theorem abreast_replayNewPatterns (lenient : Lenient s s') :
    Abreast (fun a a' => a' = (a.1, Notice.forgiven a.2)) (paired s.replayNewPatterns)
      (paired s'.replayNewPatterns) := by
  have patterns : s'.patterns = s.patterns := by
    obtain ⟨_, _, rfl⟩ := lenient
    rfl
  unfold replayNewPatterns
  rw [patterns]
  exact abreast_replayAll lenient _

end Store

end FactBase

import FactBase.Proofs.Memory.Records
import FactBase.Proofs.Store.Arena
import FactBase.Proofs.Pattern.Network

/-!
# What matching a fact delivers

Matching drives a fact through the tree of its template. Unless it is halted, an entry of a ledger
is delivered the matches of its pattern on the fact if it is due any: in an assert if the facts
before were replayed into it, in a replay if they were not.
-/

namespace FactBase.Store
open PatternTree

variable {N : Type} {s s' : Store N} {h : Handle} {f : Fact} {mode : MatchMode} {L : Ledger}

/-- The walk of a fact through the tree of its template, if there is one. -/
def walked (s : Store N) (f : Fact) (mode : MatchMode) : List Delivery × WalkState Probe :=
  match s.patterns.tree? f.templateId with
  | none => ([], ⟨s.probe, false⟩)
  | some tree => (MatchContext.mk Probe.judge tree f.values mode).run ⟨s.probe, false⟩

/-- Matching hands what the walk delivers to the network, which numbers it for the fact. -/
theorem matchFact_eq_ok [JoinNetwork N] {o : MatchOutcome}
    (done : s.matchFact h mode = .ok (o, s')) : ∃ f, s.get? h = some f ∧
      o.ids = (deliverAll h f (s.walked f mode).1 s.network).1.ids ∧
      o.halted = (s.walked f mode).2.halted ∧
      s'.network = (deliverAll h f (s.walked f mode).1 s.network).2 ∧
      s'.probe = (s.walked f mode).2.probe ∧ s'.patterns = s.patterns ∧
      s'.get? h = some { f with matched := f.matched ++ o.ids } ∧
      ∀ k, k ≠ h → s'.get? k = s.get? k := by
  unfold matchFact at done
  split at done
  · cases done
  · rename_i f found
    refine ⟨f, found, ?_⟩
    unfold walked
    cases grown : s.patterns.tree? f.templateId with
    | none =>
      simp only [grown, Except.ok.injEq, Prod.mk.injEq] at done
      obtain ⟨rfl, rfl⟩ := done
      refine ⟨rfl, rfl, rfl, rfl, rfl, ?_, fun _ _ => rfl⟩
      rw [found, List.append_nil]
    | some tree =>
      simp only [grown, Except.ok.injEq, Prod.mk.injEq] at done
      obtain ⟨rfl, rfl⟩ := done
      -- Taking note of a failure concerns neither facts nor network.
      have noted {s u : Store N} (failed : Bool) :
          (if failed then u.recordFailure else u).facts = u.facts ∧
          (if failed then u.recordFailure else u).network = u.network ∧
          (if failed then u.recordFailure else u).probe = u.probe ∧
          (if failed then u.recordFailure else u).patterns = u.patterns := by
        cases failed <;> exact ⟨rfl, rfl, rfl, rfl⟩
      refine ⟨rfl, rfl, (noted (s := s) _).2.1, (noted (s := s) _).2.2.1, (noted (s := s) _).2.2.2,
        ?_, fun k other => ?_⟩
      · rw [Store.get?, (noted (s := s) _).1, Arena.get?_update, if_pos rfl,
          show s.facts.get? h = some f from found]
        rfl
      · rw [Store.get?, (noted (s := s) _).1, Arena.get?_update, if_neg other]
        rfl

/-! ### Predicates -/

/-- A walk leaves the rules as they are, and unless a halt is raised in the end none was before. -/
theorem walked_probe (keeps : s.patterns.Keeps L) (pure : s.probe.predicates.Pure) (f : Fact)
    (mode : MatchMode) : (s.walked f mode).2.probe.predicates.rules = s.probe.predicates.rules ∧
      ((s.walked f mode).2.probe.halted = false →
        s.probe.halted = false ∧ (s.walked f mode).2.halted = false) := by
  unfold walked
  cases grown : s.patterns.tree? f.templateId with
  | none => exact ⟨rfl, fun off => ⟨off, rfl⟩⟩
  | some tree =>
    exact run_probe (c := .mk Probe.judge tree f.values mode) rfl (keeps.trees _ tree grown) pure

/-- Where no halt will be requested, a walk is not halted, and none will be requested after. -/
theorem walked_quiet (keeps : s.patterns.Keeps L) (quiet : s.probe.Quiet) (f : Fact)
    (mode : MatchMode) : (s.walked f mode).2.probe.Quiet ∧ (s.walked f mode).2.halted = false := by
  unfold walked
  cases grown : s.patterns.tree? f.templateId with
  | none => exact ⟨quiet, rfl⟩
  | some tree =>
    let c : MatchContext Probe := .mk Probe.judge tree f.values mode
    have kept : c.tree.Keeps _ := keeps.trees _ tree grown
    have yields := MatchContext.yields_run (c := c) quiet.steady kept (MatchContext.ledBy_true ⟨0⟩ _)
    exact ⟨(yields.kept ⟨s.probe, false⟩ ⟨rfl, quiet⟩).2, run_quiet rfl kept quiet⟩

/-! ### Deliveries -/

/-- Probes of the same rules decide alike if these are pure. -/
theorem answer_eq {p q : Probe} (pure : p.predicates.Pure)
    (same : q.predicates.rules = p.predicates.rules) : q.answer = p.answer := by
  funext test view
  exact ((Probe.steady_of_pure pure).decide test view q same).1 trivial

/-- An entry that a mode means is delivered the matches of its pattern. -/
theorem markersOf_walked {x : EntryId × Pattern} (keeps : s.patterns.Keeps L)
    (pure : s.probe.predicates.Pure) (unhalted : (s.walked f mode).2.halted = false) (listed : x ∈ L)
    (same : f.templateId = x.2.template)
    (meant : s.patterns.Initialized x.2.template x.1 ↔ mode = .assert) {template : Template}
    (known : s.patterns.template? x.2.template = some template) :
    markersOf x.1 (s.walked f mode).1 =
      x.2.matchList (holdsBy s.probe.answer) template f.values := by
  obtain ⟨tree, grown, rfl⟩ := Option.map_eq_some_iff.mp known
  have kept := keeps.trees _ tree grown
  have walk : s.walked f mode =
      (MatchContext.mk Probe.judge tree f.values mode).run ⟨s.probe, false⟩ := by
    rw [walked, same, grown]
  rw [walk] at unhalted ⊢
  let c : MatchContext Probe := .mk Probe.judge tree f.values mode
  have due : c.eligible x.1 = true := by
    rw [MatchContext.eligible_iff, ← meant, PatternNetwork.Initialized]
    simp only [grown, Option.some.injEq, exists_eq_left']
    rfl
  rw [markersOf_run (c := c) rfl kept pure rfl unhalted]
  exact MatchContext.due_allRoutes (c := c) kept
    (PatternNetwork.mem_ofTemplate.mpr ⟨listed, rfl⟩) due

/-- Any other entry is delivered nothing. -/
theorem markersOf_walked_eq_nil {e : EntryId} (keeps : s.patterns.Keeps L)
    (pure : s.probe.predicates.Pure) (unhalted : (s.walked f mode).2.halted = false)
    (unmeant : ∀ x ∈ L, x.1 = e → f.templateId = x.2.template →
      ¬ (s.patterns.Initialized x.2.template x.1 ↔ mode = .assert)) :
    markersOf e (s.walked f mode).1 = [] := by
  unfold walked at unhalted ⊢
  cases grown : s.patterns.tree? f.templateId with
  | none => rfl
  | some tree =>
    rw [grown] at unhalted
    have kept := keeps.trees _ tree grown
    let c : MatchContext Probe := .mk Probe.judge tree f.values mode
    refine (markersOf_run (c := c) rfl kept pure rfl unhalted e).trans ?_
    by_cases inside : e ∈ (PatternNetwork.ofTemplate f.templateId L).map (·.1)
    · obtain ⟨x, hx, rfl⟩ := List.mem_map.mp inside
      obtain ⟨listed, same⟩ := PatternNetwork.mem_ofTemplate.mp hx
      have off := unmeant x listed rfl same.symm
      rw [PatternNetwork.Initialized, same] at off
      simp only [grown, Option.some.injEq, exists_eq_left'] at off
      have ineligible : ¬ c.eligible x.1 = true := fun on => off (MatchContext.eligible_iff.mp on)
      rw [MatchContext.due, if_neg ineligible]
    · exact MatchContext.due_eq_nil (c := c) kept inside

end FactBase.Store

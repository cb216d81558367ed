import FactBase.Proofs.Pattern.Walk
import FactBase.Store.Attach

/-!
# What a match run hands to the network

Whatever patterns a tree was built from and in whatever order they came and went, a run that is not
halted hands over the matches of its patterns on the fact, each once, and nothing else.
-/

namespace FactBase
open PatternNode MatchContext Walk

/-! ### Predicates that depend on the view -/

/-- Rules that answer by the view, however often they were asked. -/
def PredicateTable.Pure (t : PredicateTable) : Prop :=
  ∀ (i : Nat) (rule : Rule), t.rules[i]? = some rule →
    ∀ n m view, (rule n view).result = (rule m view).result

/-- Rules that request no halt. -/
def PredicateTable.Calm (t : PredicateTable) : Prop :=
  ∀ (i : Nat) (rule : Rule), t.rules[i]? = some rule → ∀ n view, (rule n view).halts = false

/-- No halt is requested or will be. -/
structure Probe.Quiet (p : Probe) : Prop where
  running : p.halted = false
  undisturbed : ∀ raised ∈ p.interrupts, raised = false
  pure : p.predicates.Pure
  calm : p.predicates.Calm

/-- What a test says of a view. -/
def Probe.answer (p : Probe) (test : FieldTest) (view : FieldView) : Except EvalError Bool :=
  (p.decide test view).1

theorem PredicateTable.evaluate_rules (t : PredicateTable) (p : Predicate) (view : FieldView) :
    (t.evaluate p view).2.rules = t.rules := by
  unfold evaluate
  split <;> rfl

/-- Pure predicates answer alike as long as the rules are the same. -/
theorem PredicateTable.Pure.evaluate {t u : PredicateTable} (pure : t.Pure)
    (same : u.rules = t.rules) (p : Predicate) (view : FieldView) :
    (u.evaluate p view).1.result = (t.evaluate p view).1.result := by
  unfold PredicateTable.evaluate
  rw [same]
  cases found : t.rules[p.number]? with
  | none => rfl
  | some rule => exact pure p.number rule found _ _ view

theorem PredicateTable.Calm.evaluate {t : PredicateTable} (calm : t.Calm) (p : Predicate)
    (view : FieldView) : (t.evaluate p view).1.halts = false := by
  unfold PredicateTable.evaluate
  cases found : t.rules[p.number]? with
  | none => rfl
  | some rule => exact calm p.number rule found _ view

namespace Probe

/-- Deciding leaves the rules as they are and withdraws no halt. -/
theorem decide_spec (q : Probe) (test : FieldTest) (view : FieldView) :
    (q.decide test view).2.predicates.rules = q.predicates.rules ∧
      (q.halted = true → (q.decide test view).2.halted = true) := by
  cases test with
  | any | constant _ | notConstant _ => exact ⟨rfl, id⟩
  | expression predicate =>
    refine ⟨q.predicates.evaluate_rules predicate view, fun halted => ?_⟩
    simp [Probe.decide, halted]

/-- So does looking for a halt, which is then raised if there is one. -/
theorem poll_spec (q : Probe) : q.poll.2.predicates = q.predicates ∧
    (q.halted = true → q.poll.2.halted = true) ∧ (q.poll.1 = true → q.poll.2.halted = true) := by
  unfold Probe.poll
  split
  · exact ⟨rfl, id, id⟩
  · exact ⟨rfl, fun halted => by simp [halted], id⟩

/-- Probes decide as pure predicates do and see a halt only when one is raised. -/
theorem steady_of_pure {p : Probe} (pure : p.predicates.Pure) : Probe.judge.Steady
    (fun q => q.predicates.rules = p.predicates.rules) (·.halted = true) (fun _ => True)
    p.answer where
  decide test view q same := by
    obtain ⟨rules, still⟩ := q.decide_spec test view
    refine ⟨fun _ => ?_, rules.trans same, still⟩
    cases test with
    | any | constant _ | notConstant _ => rfl
    | expression predicate => exact pure.evaluate same predicate view
  poll q same :=
    ⟨(congrArg PredicateTable.rules q.poll_spec.1).trans same, q.poll_spec.2⟩
  constant _ _ := rfl

theorem Quiet.decide {p : Probe} (quiet : p.Quiet) (test : FieldTest) (view : FieldView) :
    (p.decide test view).2.Quiet := by
  cases test with
  | any | constant _ | notConstant _ => exact quiet
  | expression predicate =>
    have rules := p.predicates.evaluate_rules predicate view
    refine ⟨?_, quiet.undisturbed, fun i rule found => ?_, fun i rule found => ?_⟩
    · simp [Probe.decide, quiet.calm.evaluate, quiet.running]
    · exact quiet.pure i rule (rules ▸ found)
    · exact quiet.calm i rule (rules ▸ found)

theorem Quiet.poll {p : Probe} (quiet : p.Quiet) : p.poll.2.Quiet := by
  obtain ⟨running, undisturbed, pure, calm⟩ := quiet
  unfold Probe.poll
  split
  · exact ⟨running, undisturbed, pure, calm⟩
  · rename_i raised interrupts schedule
    rw [schedule, List.forall_mem_cons] at undisturbed
    exact ⟨by rw [running, undisturbed.1]; rfl, undisturbed.2, pure, calm⟩

/-- While no halt is requested, none is seen. -/
theorem Quiet.steady {p : Probe} (quiet : p.Quiet) : Probe.judge.Steady
    (fun q => q.predicates.rules = p.predicates.rules ∧ q.Quiet) (·.halted = true) (fun _ => True)
    p.answer where
  decide test view q good := by
    obtain ⟨answered, rules, still⟩ := (steady_of_pure quiet.pure).decide test view q good.1
    exact ⟨answered, ⟨rules, good.2.decide test view⟩, still⟩
  poll q good := by
    obtain ⟨rules, still⟩ := (steady_of_pure quiet.pure).poll q good.1
    exact ⟨⟨rules, good.2.poll⟩, still⟩
  constant _ _ := rfl

end Probe

/-! ### What an entry is due -/

namespace MatchContext
variable {σ : Type} {c : MatchContext σ} {holds : Holds} {ps : PatternTree.Ledger} {e : EntryId}

/-- Of the routes of a tree one leads to an entry of its ledger, and it is that of its pattern. -/
theorem due_allRoutes (keeps : c.tree.Keeps ps) {p : Pattern} (listed : (e, p) ∈ ps)
    (meant : c.eligible e = true) :
    c.due holds e c.tree.allRoutes none 0 [] = p.matchList holds c.tree.template c.values := by
  have compiled : (PatternTree.compile c.tree.template p, e) ∈
      ps.map fun x => (PatternTree.compile c.tree.template x.2, x.1) :=
    List.mem_map.mpr ⟨(e, p), listed, rfl⟩
  obtain ⟨r, hr, pair⟩ := List.mem_map.mp (keeps.routed.mem_iff.mpr compiled)
  obtain ⟨path, same⟩ := Prod.mk.inj pair
  have mem : r ∈ c.tree.allRoutes.filter (·.2 == e) := List.mem_filter.mpr ⟨hr, by simp [same]⟩
  have few : (c.tree.allRoutes.filter (·.2 == e)).length ≤ 1 :=
    length_filter_le_one keeps.nodup_entries
  have only : c.tree.allRoutes.filter (·.2 == e) = [r] := by
    obtain ⟨x, hx⟩ := List.length_eq_one_iff.mp
      (Nat.le_antisymm few (List.length_pos_of_mem mem))
    rw [hx, List.mem_singleton] at mem
    rw [hx, mem]
  unfold due
  rw [if_pos meant, only, List.flatMap_cons, List.flatMap_nil, List.append_nil]
  exact alongPath_compile path.symm

/-- An entry that is not in the ledger is due nothing. -/
theorem due_eq_nil (keeps : c.tree.Keeps ps) (unlisted : e ∉ ps.map (·.1)) :
    c.due holds e c.tree.allRoutes none 0 [] = [] := by
  unfold due
  split
  · rw [List.flatMap_eq_nil_iff]
    intro r hr
    obtain ⟨hr, same⟩ := List.mem_filter.mp hr
    have pair := keeps.routed.mem_iff.mp (List.mem_map.mpr ⟨r, hr, rfl⟩)
    obtain ⟨x, hx, hpair⟩ := List.mem_map.mp pair
    have entry : x.1 = r.2 := congrArg Prod.snd hpair
    exact absurd (List.mem_map.mpr ⟨x, hx, entry.trans (beq_iff_eq.mp same)⟩) unlisted
  · rfl

/-- Live entries are meant in one of the two modes, by whether they were replayed. -/
theorem eligible_iff {id : EntryId} : c.eligible id = true ↔
    (c.tree.IsInitialized id ↔ c.mode = .assert) := by
  unfold eligible PatternTree.IsInitialized
  cases c.mode <;> cases (c.tree.entryOf? id).any (·.initialized) <;> decide

end MatchContext

/-! ### Deliveries and what the network gets -/

/-- The matches handed over, in order. -/
def pushes (notices : List Notice) : List AlphaMatch :=
  notices.filterMap fun
    | .pushed given => some given
    | _ => none

/-- What a delivery hands over for a fact. -/
def handed (h : Handle) (f : Fact) : Delivery → Option AlphaMatch
  | .matched entry markers => some ⟨h, f.index, entry, f.values, markers⟩
  | .failed _ => none

namespace Store
variable {N : Type} [JoinNetwork N]

theorem pushes_deliverAll (h : Handle) (f : Fact) (ds : List Delivery) (network : N) :
    pushes (deliverAll h f ds network).1.notices = ds.filterMap (handed h f) := by
  induction ds generalizing network with
  | nil => rfl
  | cons d ds ih =>
    cases d with
    | matched entry markers => exact congrArg (_ :: ·) (ih _)
    | failed test => exact ih network

/-- The network sees the matches handed over and nothing else. -/
theorem deliverAll_network (h : Handle) (f : Fact) (ds : List Delivery) (network : N) :
    (deliverAll h f ds network).2 =
      (ds.filterMap (handed h f)).foldl (fun n given => (JoinNetwork.push given n).2) network := by
  induction ds generalizing network with
  | nil => rfl
  | cons d ds ih =>
    cases d with
    | matched entry markers => exact ih _
    | failed test => exact ih network

end Store

theorem mem_handed {h : Handle} {f : Fact} {ds : List Delivery} {a : AlphaMatch} :
    a ∈ ds.filterMap (handed h f) ↔
      a.fact = h ∧ a.index = f.index ∧ a.values = f.values ∧ a.markers ∈ markersOf a.entry ds := by
  rw [markersOf, List.mem_filterMap, List.mem_filterMap]
  constructor
  · rintro ⟨d, hd, given⟩
    cases d with
    | failed test => cases given
    | matched entry markers =>
      obtain rfl := Option.some.inj given
      exact ⟨rfl, rfl, rfl, .matched entry markers, hd, if_pos rfl⟩
  · rintro ⟨rfl, index, values, d, hd, taken⟩
    cases d with
    | failed test => cases taken
    | matched entry markers =>
      refine ⟨.matched entry markers, hd, ?_⟩
      change (if entry = a.entry then some markers else none) = some a.markers at taken
      by_cases same : entry = a.entry
      · rw [if_pos same] at taken
        rw [handed, same, Option.some.inj taken, ← index, ← values]
      · rw [if_neg same] at taken
        cases taken

/-- Deliveries that repeat no match of an entry hand nothing over twice. -/
theorem nodup_handed {h : Handle} {f : Fact} {ds : List Delivery}
    (once : ∀ e, (markersOf e ds).Nodup) : (ds.filterMap (handed h f)).Nodup := by
  induction ds with
  | nil => exact List.nodup_nil
  | cons d ds ih =>
    cases d with
    | failed test => exact ih once
    | matched entry markers =>
      have split (e : EntryId) : markersOf e (.matched entry markers :: ds) =
          if entry = e then markers :: markersOf e ds else markersOf e ds := by
        by_cases same : entry = e <;> simp [markersOf, same]
      refine List.nodup_cons.mpr ⟨fun again => ?_, ih fun e => ?_⟩
      · have here := once entry
        rw [split, if_pos rfl] at here
        exact (List.nodup_cons.mp here).1 (mem_handed.mp again).2.2.2
      · have here := once e
        rw [split] at here
        by_cases same : entry = e
        · rw [if_pos same] at here
          exact (List.nodup_cons.mp here).2
        · rwa [if_neg same] at here

/-- What a run delivers to an entry that is not halted: the matches of its pattern, if the mode means
it. -/
theorem markersOf_run {c : MatchContext Probe} {ps : PatternTree.Ledger} {probe q : Probe}
    (judged : c.judge = Probe.judge) (keeps : c.tree.Keeps ps) (pure : probe.predicates.Pure)
    (same : q.predicates.rules = probe.predicates.rules)
    (unhalted : (c.run ⟨q, false⟩).2.halted = false) (e : EntryId) :
    markersOf e (c.run ⟨q, false⟩).1 =
      c.due (holdsBy probe.answer) e c.tree.allRoutes none 0 [] :=
  (yields_run (judged ▸ Probe.steady_of_pure pure) keeps (ledBy_true e _)).delivers ⟨q, false⟩ same
    unhalted

/-- A run leaves the rules as they are. It is halted only when a halt is raised and withdraws none. -/
theorem run_probe {c : MatchContext Probe} {ps : PatternTree.Ledger} {q : Probe}
    (judged : c.judge = Probe.judge) (keeps : c.tree.Keeps ps) (pure : q.predicates.Pure) :
    let walked := (c.run ⟨q, false⟩).2
    walked.probe.predicates.rules = q.predicates.rules ∧
      (walked.probe.halted = false → q.halted = false ∧ walked.halted = false) := by
  have yields := yields_run (judged ▸ Probe.steady_of_pure pure) keeps (ledBy_true ⟨0⟩ _)
  refine ⟨yields.kept ⟨q, false⟩ rfl, fun off => ?_⟩
  refine ⟨Bool.eq_false_iff.mpr fun halted => ?_, Bool.eq_false_iff.mpr fun halted => ?_⟩
  · exact Bool.eq_false_iff.mp off (yields.raises ⟨q, false⟩ rfl halted)
  · exact Bool.eq_false_iff.mp off (yields.heeds ⟨q, false⟩ rfl rfl halted)

/-- While no halt is requested, a run is not halted. -/
theorem run_quiet {c : MatchContext Probe} {ps : PatternTree.Ledger} {probe : Probe}
    (judged : c.judge = Probe.judge) (keeps : c.tree.Keeps ps) (quiet : probe.Quiet) :
    (c.run ⟨probe, false⟩).2.halted = false := by
  have yields := yields_run (judged ▸ quiet.steady) keeps (ledBy_true ⟨0⟩ _)
  refine Bool.eq_false_iff.mpr fun halted => ?_
  have raised := yields.heeds ⟨probe, false⟩ ⟨rfl, quiet⟩ rfl halted
  exact Bool.eq_false_iff.mp (yields.kept ⟨probe, false⟩ ⟨rfl, quiet⟩).2.running raised

/-- A run hands over the matches of the live patterns whose entries its mode means, each once, and
nothing else; how the tree came about does not matter. -/
theorem run_hands_over_matches {N : Type} [JoinNetwork N] {template : Template} {threshold : Nat}
    {t : PatternTree} {ps : PatternTree.Ledger}
    (reached : PatternTree.Reached template threshold t ps) {probe : Probe} (quiet : probe.Quiet)
    (mode : MatchMode) (h : Handle) (f : Fact) (network : N) :
    let walked := (MatchContext.mk Probe.judge t f.values mode).run ⟨probe, false⟩
    let delivered := Store.deliverAll h f walked.1 network
    let given := pushes delivered.1.notices
    given.Nodup ∧
      (∀ a, a ∈ given ↔ a.fact = h ∧ a.index = f.index ∧ a.values = f.values ∧
        (t.IsInitialized a.entry ↔ mode = .assert) ∧
        ∃ p, (a.entry, p) ∈ ps ∧ p.Matches (holdsBy probe.answer) template f.values a.markers) ∧
      delivered.2 = given.foldl (fun n a => (JoinNetwork.push a n).2) network := by
  intro walked delivered given
  have keeps : (MatchContext.mk Probe.judge t f.values mode).tree.Keeps ps := reached.keeps
  have handover : given = walked.1.filterMap (handed h f) := Store.pushes_deliverAll h f _ _
  have due (e : EntryId) : markersOf e walked.1 = _ :=
    markersOf_run rfl keeps quiet.pure rfl (run_quiet rfl keeps quiet) e
  refine ⟨?_, fun a => ?_, ?_⟩
  · rw [handover]
    refine nodup_handed fun e => ?_
    rw [due]
    by_cases listed : e ∈ ps.map (·.1)
    · obtain ⟨x, hx, rfl⟩ := List.mem_map.mp listed
      by_cases meant : (MatchContext.mk Probe.judge t f.values mode).eligible x.1 = true
      · rw [due_allRoutes keeps hx meant]
        exact Pattern.nodup_matchList _ _ _ _
      · rw [MatchContext.due, if_neg meant]
        exact List.nodup_nil
    · rw [due_eq_nil keeps listed]
      exact List.nodup_nil
  · rw [handover, mem_handed, due]
    refine and_congr_right fun _ => and_congr_right fun _ => and_congr_right fun _ => ?_
    rw [show (t.IsInitialized a.entry ↔ mode = .assert) ↔ _ from
      (eligible_iff (c := .mk Probe.judge t f.values mode)).symm]
    constructor
    · intro hm
      have meant : (MatchContext.mk Probe.judge t f.values mode).eligible a.entry = true := by
        by_contra off
        rw [MatchContext.due, if_neg off] at hm
        cases hm
      refine ⟨meant, ?_⟩
      by_cases listed : a.entry ∈ ps.map (·.1)
      · obtain ⟨⟨e, p⟩, hx, same⟩ := List.mem_map.mp listed
        obtain rfl : e = a.entry := same
        rw [due_allRoutes keeps hx meant] at hm
        exact ⟨p, hx, reached.template_eq ▸ Pattern.mem_matchList.mp hm⟩
      · rw [due_eq_nil keeps listed] at hm
        cases hm
    · rintro ⟨meant, p, hx, hm⟩
      rw [due_allRoutes keeps hx meant]
      exact Pattern.mem_matchList.mpr (reached.template_eq.symm ▸ hm)
  · rw [handover]
    exact Store.deliverAll_network h f _ _

/-- An element between two runs: one of the matches on a fact of two fields. -/
theorem run_hands_over_matches_between_runs :
    let p : Pattern := ⟨⟨1⟩, [⟨0, [.multi .any, .single .any, .multi .any]⟩]⟩
    let f : Fact := { template := .implied "data" "MAIN", templateId := ⟨1⟩, index := 1
                      fields := [{ value := .multifield [.nil, .nil] }] }
    ∃ t, PatternTree.add { template := f.template, threshold := 2 } ⟨1⟩ "between" p = .ok t ∧
      let walked := (MatchContext.mk Probe.judge t.markInitialized f.values .assert).run ⟨{}, false⟩
      let given := pushes (Store.deliverAll ⟨0, 0⟩ f walked.1 ({} : MatchCounter)).1.notices
      given.Nodup ∧
        ⟨⟨0, 0⟩, 1, ⟨1⟩, f.values, [⟨0, 0, 0, 1⟩, ⟨0, 2, 2, 0⟩]⟩ ∈ given := by
  intro p f
  cases added : PatternTree.add { template := f.template, threshold := 2 } ⟨1⟩ "between" p with
  | error e =>
    simp [PatternTree.add, PatternTree.compile, PatternTree.stepsFrom, PatternTree.slotSteps, p, f,
      Template.implied, Template.slot?, bind, Except.bind] at added
  | ok t =>
    refine ⟨t, rfl, ?_⟩
    have quiet : Probe.Quiet {} :=
      ⟨rfl, by simp, fun i rule found => by simp at found, fun i rule found => by simp at found⟩
    obtain ⟨nodup, mem, _⟩ := run_hands_over_matches (.mark (.add .empty rfl added)) quiet .assert
      ⟨0, 0⟩ f ({} : MatchCounter)
    refine ⟨nodup, (mem _).mpr ⟨rfl, rfl, rfl, ⟨fun _ => rfl, fun _ => ?_⟩, p, by simp, ?_⟩⟩
    · obtain ⟨path, _, rfl⟩ := PatternTree.add_eq_ok added
      rfl
    · rw [Pattern.Matches, List.mergeSort_singleton]
      have tiled : SlotPattern.Matches (holdsBy (Probe.answer {})) f.template f.values
          ⟨0, [.multi .any, .single .any, .multi .any]⟩ [⟨0, 0, 0, 1⟩, ⟨0, 2, 2, 0⟩] :=
        ⟨_, _, rfl, rfl, _, rfl, .multi [.nil] rfl (.single rfl (.multi [] rfl (.nil _ _)))⟩
      exact .cons tiled .nil

end FactBase

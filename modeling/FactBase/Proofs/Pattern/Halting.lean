import FactBase.Proofs.Memory.Walks
import FactBase.Proofs.Store.Total

/-!
# Walks that are halted

A halt may be raised at any moment of a walk, by a test or from outside. With tests that depend on
the view alone, what is delivered by then is the beginning of what the same walk delivers without a
halt, and all of it unless the walk is halted. A halt is not looked for between a test and the
deliveries behind it, so it is the walks that follow that have to stop.
-/

namespace FactBase

variable {σ τ : Type}

/-- A judge that goes by the test and the view alone, as long as its state is good. Whether it sees
a halt when it looks for one is left open. -/
structure Judge.GoesBy (judge : Judge σ) (answer : FieldTest → FieldView → Except EvalError Bool)
    (good : σ → Prop) : Prop where
  decide : ∀ test view p, good p →
    (judge.decide test view p).1 = answer test view ∧ good (judge.decide test view p).2
  poll : ∀ p, good p → good (judge.poll p).2

/-- A judge that never sees a halt, either. -/
structure Judge.Unhalted (judge : Judge τ) (answer : FieldTest → FieldView → Except EvalError Bool)
    (calm : τ → Prop) : Prop extends judge.GoesBy answer calm where
  unseen : ∀ p, calm p → (judge.poll p).1 = false

namespace Walk

/-- Once a halt was seen, nothing is delivered and nothing is asked. -/
def Stops (w : Walk σ) : Prop := ∀ s, s.halted = true → w s = ([], s)

theorem stops_skip : Stops (skip : Walk σ) := fun _ _ => rfl

theorem Stops.andThen {a b : Walk σ} (first : Stops a) (second : Stops b) :
    Stops (a.andThen b) := by
  intro s halted
  simp only [Walk.andThen, first s halted, second s halted, List.append_nil]

theorem stops_unlessHalted (judge : Judge σ) (w : Walk σ) : Stops (.unlessHalted judge w) := by
  intro s halted
  rw [unlessHalted_eq, if_pos halted]

/-- A walk that may be halted delivers the beginning of what another one delivers that never is, and
all of it unless it is halted. -/
structure CutFrom (good : σ → Prop) (calm : τ → Prop) (w : Walk σ) (whole : Walk τ) : Prop where
  kept : ∀ s, good s.probe → good (w s).2.probe
  onward : ∀ t, calm t.probe → t.halted = false →
    calm (whole t).2.probe ∧ (whole t).2.halted = false
  delivers : ∀ s t, good s.probe → calm t.probe → s.halted = false → t.halted = false →
    (w s).1 <+: (whole t).1 ∧ ((w s).2.halted = false → (w s).1 = (whole t).1)

variable {good : σ → Prop} {calm : τ → Prop}

theorem cutFrom_deliver (ds : List Delivery) :
    CutFrom good calm (deliver ds : Walk σ) (deliver ds : Walk τ) :=
  ⟨fun _ holds => holds, fun _ holds off => ⟨holds, off⟩,
    fun _ _ _ _ _ _ => ⟨List.prefix_refl ds, fun _ => rfl⟩⟩

theorem cutFrom_skip : CutFrom good calm (skip : Walk σ) (skip : Walk τ) := cutFrom_deliver []

/-- What follows a walk that is halted has to stop. -/
theorem CutFrom.andThen {a b : Walk σ} {first second : Walk τ} (ha : CutFrom good calm a first)
    (hb : CutFrom good calm b second) (stops : Stops b) :
    CutFrom good calm (a.andThen b) (first.andThen second) where
  kept s holds := hb.kept _ (ha.kept s holds)
  onward t holds off := by
    obtain ⟨still, on⟩ := ha.onward t holds off
    exact hb.onward _ still on
  delivers s t holds calm unhalted off := by
    obtain ⟨begun, all⟩ := ha.delivers s t holds calm unhalted off
    obtain ⟨still, on⟩ := ha.onward t calm off
    simp only [Walk.andThen]
    cases between : (a s).2.halted with
    | true =>
      rw [stops _ between, List.append_nil, between]
      exact ⟨begun.trans (List.prefix_append _ _), fun resumed => absurd resumed (by decide)⟩
    | false =>
      obtain ⟨more, rest⟩ := hb.delivers _ _ (ha.kept s holds) still between on
      rw [all between]
      exact ⟨(List.prefix_append_right_inj _).mpr more, fun ended => by rw [rest ended]⟩

theorem cutFrom_all {α : Type} {xs : List α} {f : α → Walk σ} {whole : α → Walk τ}
    (each : ∀ x, CutFrom good calm (f x) (whole x)) (stops : ∀ x, Stops (f x)) :
    CutFrom good calm (.all (xs.map f)) (.all (xs.map whole)) ∧ Stops (.all (xs.map f)) := by
  induction xs with
  | nil => exact ⟨cutFrom_skip, stops_skip⟩
  | cons x xs ih => exact ⟨(each x).andThen ih.1 ih.2, (stops x).andThen ih.2⟩

variable {answer : FieldTest → FieldView → Except EvalError Bool} {judge : Judge σ}
  {unhalted : Judge τ}

theorem CutFrom.unlessHalted {w : Walk σ} {whole : Walk τ} (cut : CutFrom good calm w whole)
    (goes : judge.GoesBy answer good) (never : unhalted.Unhalted answer calm) :
    CutFrom good calm (.unlessHalted judge w) (.unlessHalted unhalted whole) where
  kept s holds := by
    have still := goes.poll s.probe holds
    rw [unlessHalted_eq]
    split
    · exact holds
    · split
      · exact still
      · exact cut.kept _ still
  onward t calm off := by
    rw [unlessHalted_eq, off, never.unseen _ calm, if_neg Bool.false_ne_true,
      if_neg Bool.false_ne_true]
    exact cut.onward _ (never.poll _ calm) rfl
  delivers s t holds calm running off := by
    rw [unlessHalted_eq judge, running, if_neg Bool.false_ne_true, unlessHalted_eq unhalted, off,
      never.unseen _ calm, if_neg Bool.false_ne_true, if_neg Bool.false_ne_true]
    split
    · exact ⟨List.nil_prefix, fun resumed => absurd resumed Bool.true_eq_false.mp⟩
    · exact cut.delivers _ _ (goes.poll _ holds) (never.poll _ calm) rfl rfl

end Walk

namespace MatchContext

open Walk

/-- The same matching with another judge. -/
def judgedBy (c : MatchContext σ) (judge : Judge τ) : MatchContext τ :=
  { judge, tree := c.tree, values := c.values, mode := c.mode }

variable {c : MatchContext σ} {unhalted : Judge τ} {good : σ → Prop} {calm : τ → Prop}
  {answer : FieldTest → FieldView → Except EvalError Bool}

theorem cutFrom_emit (entries : List EntryId) (markers : List Marker) :
    CutFrom good calm (c.emit entries markers) ((c.judgedBy unhalted).emit entries markers) :=
  cutFrom_deliver _

/-- Between a test and what is behind it no halt is looked for, though the test may have raised
one. -/
theorem cutFrom_whereHolds (goes : c.judge.GoesBy answer good)
    (never : unhalted.Unhalted answer calm) (n : PatternNode) (view : FieldView) (place : Nat)
    {w : Walk σ} {whole : Walk τ} (cut : CutFrom good calm w whole) :
    CutFrom good calm (c.whereHolds n view place w)
      ((c.judgedBy unhalted).whereHolds n view place whole) := by
  cases selects : n.head.test with
  | selector =>
    have here : c.whereHolds n view place w = w := by
      funext s
      simp only [whereHolds, selects]
    have there : (c.judgedBy unhalted).whereHolds n view place whole = whole := by
      funext t
      simp only [whereHolds, selects]
    rw [here, there]
    exact cut
  | field test =>
    refine ⟨fun s holds => ?_, fun t calm off => ?_, fun s t holds calm running off => ?_⟩
    · obtain ⟨-, still⟩ := goes.decide test view s.probe holds
      rw [whereHolds_eq selects]
      split
      · exact cut.kept _ still
      · exact still
      · exact still
    · obtain ⟨-, still⟩ := never.decide test view t.probe calm
      rw [whereHolds_eq selects]
      split
      · exact cut.onward _ still off
      · exact ⟨still, off⟩
      · exact ⟨still, off⟩
    · obtain ⟨same, still⟩ := goes.decide test view s.probe holds
      obtain ⟨same', still'⟩ := never.decide test view t.probe calm
      rw [whereHolds_eq selects, whereHolds_eq selects, same, judgedBy, same']
      split
      · exact cut.delivers _ _ still still' running off
      · exact ⟨List.prefix_refl _, fun _ => rfl⟩
      · exact ⟨List.prefix_refl _, fun _ => rfl⟩

theorem stops_visit (n : PatternNode) (slot : Option Nat) (next : Nat) (markers : List Marker)
    (dispatched : Bool) : Stops (c.visit n slot next markers dispatched) := by
  cases n
  unfold visit
  exact stops_unlessHalted _ _

theorem stops_visitAll (ns : List PatternNode) (slot : Option Nat) (next : Nat)
    (markers : List Marker) : Stops (c.visitAll ns slot next markers) := by
  induction ns with
  | nil =>
    unfold visitAll
    exact stops_skip
  | cons n ns ih =>
    unfold visitAll
    exact (stops_visit n slot next markers false).andThen ih

mutual

theorem cutFrom_visit (goes : c.judge.GoesBy answer good) (never : unhalted.Unhalted answer calm)
    (n : PatternNode) (slot : Option Nat) (next : Nat) (markers : List Marker) (dispatched : Bool) :
    CutFrom good calm (c.visit n slot next markers dispatched)
      ((c.judgedBy unhalted).visit n slot next markers dispatched) := by
  obtain ⟨head, children⟩ := n
  have inside (slot : Option Nat) (next : Nat) (markers : List Marker) : CutFrom good calm
      ((c.emit head.entries markers).andThen (c.visitAll children slot next markers))
      (((c.judgedBy unhalted).emit head.entries markers).andThen
        ((c.judgedBy unhalted).visitAll children slot next markers)) :=
    (cutFrom_emit head.entries markers).andThen
      (cutFrom_visitAll goes never children slot next markers) (stops_visitAll _ _ _ _)
  unfold visit
  refine CutFrom.unlessHalted ?_ goes never
  rw [show (c.judgedBy unhalted).slotValue? head dispatched = c.slotValue? head dispatched from rfl]
  cases c.slotValue? head dispatched with
  | none => exact cutFrom_skip
  | some v =>
    dsimp only
    by_cases multi : head.shape.isMulti = true
    · rw [if_pos multi, if_pos multi]
      cases v.members? with
      | none => exact cutFrom_skip
      | some members =>
        refine (cutFrom_all (fun length => ?_) fun length => stops_unlessHalted _ _).1
        exact (cutFrom_whereHolds goes never _ _ _ (inside _ _ _)).unlessHalted goes never
    · rw [if_neg multi, if_neg multi]
      cases fieldAt? head.shape v (if slot = some head.shape.slot then next else 0) with
      | none => exact cutFrom_skip
      | some field =>
        dsimp only
        split
        · exact cutFrom_visitCase goes never children _ _ _ _
        · split
          · exact inside _ _ _
          · exact cutFrom_whereHolds goes never _ _ _ (inside _ _ _)

theorem cutFrom_visitAll (goes : c.judge.GoesBy answer good)
    (never : unhalted.Unhalted answer calm) (ns : List PatternNode) (slot : Option Nat) (next : Nat)
    (markers : List Marker) : CutFrom good calm (c.visitAll ns slot next markers)
      ((c.judgedBy unhalted).visitAll ns slot next markers) := by
  cases ns with
  | nil =>
    unfold visitAll
    exact cutFrom_skip
  | cons n ns =>
    unfold visitAll
    exact (cutFrom_visit goes never n slot next markers false).andThen
      (cutFrom_visitAll goes never ns slot next markers) (stops_visitAll _ _ _ _)

theorem cutFrom_visitCase (goes : c.judge.GoesBy answer good)
    (never : unhalted.Unhalted answer calm) (ns : List PatternNode) (field : Value)
    (slot : Option Nat) (next : Nat) (markers : List Marker) :
    CutFrom good calm (c.visitCase ns field slot next markers)
      ((c.judgedBy unhalted).visitCase ns field slot next markers) := by
  cases ns with
  | nil =>
    unfold visitCase
    exact cutFrom_skip
  | cons n ns =>
    unfold visitCase
    split
    · exact cutFrom_visit goes never n slot next markers true
    · exact cutFrom_visitCase goes never ns field slot next markers

end

/-- A walk through a tree that is halted delivers the beginning of what it delivers without a halt.
-/
theorem cutFrom_run (goes : c.judge.GoesBy answer good) (never : unhalted.Unhalted answer calm) :
    CutFrom good calm c.run (c.judgedBy unhalted).run := by
  unfold run
  exact ((cutFrom_emit _ _).andThen (cutFrom_visitAll goes never _ _ _ _)
    (stops_visitAll _ _ _ _)).unlessHalted goes never

end MatchContext

/-! ### Probes without halts -/

/-- The rules of a table with what they answer, but none asks for a halt. -/
def PredicateTable.unhalted (t : PredicateTable) : PredicateTable :=
  { t with rules := t.rules.map fun rule n view => { rule n view with halts := false } }

/-- A probe with the same answers under which no halt is requested by anyone. -/
def Probe.unhalted (p : Probe) : Probe :=
  { predicates := p.predicates.unhalted, halted := false, interrupts := [] }

theorem PredicateTable.rules_unhalted {t : PredicateTable} {i : Nat} {rule : Rule}
    (found : t.unhalted.rules[i]? = some rule) : ∃ original, t.rules[i]? = some original ∧
      ∀ n view, rule n view = { original n view with halts := false } := by
  unfold unhalted at found
  rw [Array.getElem?_map] at found
  obtain ⟨original, kept, rfl⟩ := Option.map_eq_some_iff.mp found
  exact ⟨original, kept, fun _ _ => rfl⟩

theorem Probe.quiet_unhalted {p : Probe} (pure : p.predicates.Pure) : p.unhalted.Quiet := by
  refine ⟨rfl, fun _ none => absurd none List.not_mem_nil, fun i rule found => ?_,
    fun i rule found => ?_⟩
  · obtain ⟨original, kept, same⟩ := PredicateTable.rules_unhalted found
    intro n m view
    rw [same, same]
    exact pure i original kept n m view
  · obtain ⟨original, -, same⟩ := PredicateTable.rules_unhalted found
    intro n view
    rw [same]

theorem Probe.answer_unhalted (p : Probe) : p.unhalted.answer = p.answer := by
  funext test view
  cases test with
  | any | constant _ | notConstant _ => rfl
  | expression predicate =>
    change (p.predicates.unhalted.evaluate predicate view).1.result =
      (p.predicates.evaluate predicate view).1.result
    unfold PredicateTable.evaluate PredicateTable.unhalted
    rw [Array.getElem?_map]
    cases p.predicates.rules[predicate.number]? <;> rfl

theorem Probe.goesBy {p : Probe} (pure : p.predicates.Pure) :
    Probe.judge.GoesBy p.answer fun q => q.predicates.rules = p.predicates.rules := by
  have steady := Probe.steady_of_pure pure
  refine ⟨fun test view q same => ?_, fun q same => (steady.poll q same).1⟩
  obtain ⟨answered, rules, -⟩ := steady.decide test view q same
  exact ⟨answered trivial, rules⟩

theorem Probe.Quiet.unhalted {p : Probe} (quiet : p.Quiet) : Probe.judge.Unhalted p.answer
    fun q => q.predicates.rules = p.predicates.rules ∧ q.Quiet := by
  have steady := quiet.steady
  refine ⟨⟨fun test view q good => ?_, fun q good => (steady.poll q good).1⟩, fun q good => ?_⟩
  · obtain ⟨answered, kept, -⟩ := steady.decide test view q good
    exact ⟨answered trivial, kept⟩
  · obtain ⟨kept, -, raised⟩ := steady.poll q good
    exact Bool.eq_false_iff.mpr fun seen => Bool.eq_false_iff.mp kept.2.running (raised seen)

/-! ### What the network is given -/

namespace Store

variable {N : Type} [JoinNetwork N] {s s' : Store N} {h : Handle} {f : Fact}

/-- The fact base without any request to halt, now or later. -/
def unhalted (s : Store N) : Store N := { s with probe := s.probe.unhalted }

omit [JoinNetwork N] in
/-- A walk of a fact delivers the beginning of what it delivers without a halt. -/
theorem walked_cut (pure : s.probe.predicates.Pure) (f : Fact) (mode : MatchMode) :
    (s.unhalted.walked f mode).2.halted = false ∧
      (s.walked f mode).1 <+: (s.unhalted.walked f mode).1 ∧
      ((s.walked f mode).2.halted = false →
        (s.walked f mode).1 = (s.unhalted.walked f mode).1) := by
  unfold walked
  rw [show s.unhalted.patterns = s.patterns from rfl]
  cases s.patterns.tree? f.templateId with
  | none => exact ⟨rfl, List.prefix_refl [], fun _ => rfl⟩
  | some tree =>
    have quiet := Probe.quiet_unhalted pure
    have never := quiet.unhalted
    rw [Probe.answer_unhalted] at never
    have cut := MatchContext.cutFrom_run (c := .mk Probe.judge tree f.values mode)
      (Probe.goesBy pure) never
    exact ⟨(cut.onward ⟨s.probe.unhalted, false⟩ ⟨rfl, quiet⟩ rfl).2,
      cut.delivers ⟨s.probe, false⟩ ⟨s.probe.unhalted, false⟩ rfl ⟨rfl, quiet⟩ rfl rfl⟩

/-- What is delivered later changes nothing about the names given before. -/
theorem ids_deliverAll_append (h : Handle) (f : Fact) (ds es : List Delivery) (network : N) :
    (deliverAll h f (ds ++ es) network).1.ids = (deliverAll h f ds network).1.ids ++
      (deliverAll h f es (deliverAll h f ds network).2).1.ids := by
  induction ds generalizing network with
  | nil => rfl
  | cons d ds ih =>
    cases d with
    | matched entry markers => exact congrArg (_ :: ·) (ih _)
    | failed test => exact ih network

theorem matchFact_notices {mode : MatchMode} {o : MatchOutcome} (found : s.get? h = some f)
    (done : s.matchFact h mode = .ok (o, s')) :
    pushes o.notices = (s.walked f mode).1.filterMap (handed h f) := by
  unfold matchFact at done
  unfold walked
  simp only [found] at done
  cases grown : s.patterns.tree? f.templateId with
  | none =>
    simp only [grown, Except.ok.injEq, Prod.mk.injEq] at done
    obtain ⟨rfl, -⟩ := done
    rfl
  | some tree =>
    simp only [grown, Except.ok.injEq, Prod.mk.injEq] at done
    obtain ⟨rfl, -⟩ := done
    exact pushes_deliverAll h f _ _

/-- Whenever a halt is raised while a fact is matched, the network was given the first of the
matches that it is given without the halt, under the same names, and all of them unless the outcome
says that the run was halted. -/
theorem matchFact_cut (pure : s.probe.predicates.Pure) (found : s.get? h = some f)
    (mode : MatchMode) : ∃ o u whole v, s.matchFact h mode = .ok (o, u) ∧
      s.unhalted.matchFact h mode = .ok (whole, v) ∧ whole.halted = false ∧
      pushes o.notices <+: pushes whole.notices ∧ o.ids <+: whole.ids ∧
      (o.halted = false → pushes o.notices = pushes whole.notices ∧ o.ids = whole.ids) := by
  obtain ⟨o, u, done⟩ := matchFact_total found mode
  obtain ⟨whole, v, done'⟩ := matchFact_total (s := s.unhalted) found mode
  obtain ⟨_, found₁, ids, halted, -⟩ := matchFact_eq_ok done
  obtain rfl := Option.some.inj (found.symm.trans found₁)
  obtain ⟨_, found₂, ids', halted', -⟩ := matchFact_eq_ok done'
  obtain rfl := Option.some.inj (found.symm.trans found₂)
  obtain ⟨never, begun, all⟩ := walked_cut pure f mode
  refine ⟨o, u, whole, v, done, done', halted'.trans never, ?_, ?_, fun running => ?_⟩
  · rw [matchFact_notices found done, matchFact_notices (s := s.unhalted) found done']
    exact begun.filterMap _
  · obtain ⟨rest, split⟩ := begun
    rw [ids, ids', ← split, ids_deliverAll_append]
    exact List.prefix_append _ _
  · rw [matchFact_notices found done, matchFact_notices (s := s.unhalted) found done', ids, ids',
      all (halted ▸ running)]
    exact ⟨rfl, rfl⟩

end Store

end FactBase

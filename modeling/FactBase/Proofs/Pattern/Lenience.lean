import FactBase.Proofs.Pattern.Walk
import FactBase.Proofs.Store.Exchange

/-!
# Failures taken for answers

A predicate that fails may as well be taken not to hold. Then nothing fails any more, and a walk
delivers the same matches in the same order, evaluates every predicate as often as before and is
halted at the same place: a failure cuts off no more of a walk than a test that does not hold.
-/

namespace FactBase

/-- A failure is taken for the answer that a predicate does not hold. -/
def Verdict.lenient (v : Verdict) : Verdict :=
  { v with result := .ok (v.result.toOption.getD false) }

def Rule.lenient (rule : Rule) : Rule := fun n view => (rule n view).lenient

def PredicateTable.lenient (t : PredicateTable) : PredicateTable :=
  { t with rules := t.rules.map Rule.lenient }

def Probe.lenient (p : Probe) : Probe := { p with predicates := p.predicates.lenient }

theorem PredicateTable.evaluate_lenient (t : PredicateTable) (p : Predicate) (view : FieldView) :
    t.lenient.evaluate p view =
      ((t.evaluate p view).1.lenient, (t.evaluate p view).2.lenient) := by
  unfold evaluate lenient
  rw [Array.getElem?_map]
  cases t.rules[p.number]? <;> rfl

theorem Probe.decide_lenient (p : Probe) (test : FieldTest) (view : FieldView) :
    p.lenient.decide test view =
      (.ok ((p.decide test view).1.toOption.getD false), (p.decide test view).2.lenient) := by
  cases test with
  | expression predicate =>
    have evaluated := p.predicates.evaluate_lenient predicate view
    change ((p.predicates.lenient.evaluate predicate view).1.result, Probe.mk
      (p.predicates.lenient.evaluate predicate view).2 (p.halted ||
        (p.predicates.lenient.evaluate predicate view).1.halts) p.interrupts) = _
    rw [evaluated]
    rfl
  | _ => rfl

theorem Probe.poll_lenient (p : Probe) : p.lenient.poll = (p.poll.1, p.poll.2.lenient) := by
  obtain ⟨predicates, halted, interrupts⟩ := p
  cases interrupts <;> rfl

def WalkState.lenient (s : WalkState Probe) : WalkState Probe := { s with probe := s.probe.lenient }

namespace Walk

/-- A walk that goes the same way if failures are taken for answers. -/
def Forgives (w : Walk Probe) : Prop :=
  ∀ s, w s.lenient = ((w s).1.filter (!·.isFailed), (w s).2.lenient)

theorem forgives_skip : Forgives skip := fun _ => rfl

theorem Forgives.andThen {a b : Walk Probe} (first : Forgives a) (second : Forgives b) :
    Forgives (a.andThen b) := by
  intro s
  simp only [Walk.andThen, first s, second (a s).2, List.filter_append]

theorem forgives_all {α : Type} {xs : List α} {f : α → Walk Probe} (each : ∀ x, Forgives (f x)) :
    Forgives (.all (xs.map f)) := by
  induction xs with
  | nil => exact forgives_skip
  | cons x xs ih => exact (each x).andThen ih

theorem Forgives.unlessHalted {w : Walk Probe} (goesOn : Forgives w) :
    Forgives (.unlessHalted Probe.judge w) := by
  intro s
  have poll : Probe.judge.poll s.lenient.probe =
      ((Probe.judge.poll s.probe).1, (Probe.judge.poll s.probe).2.lenient) := s.probe.poll_lenient
  rw [unlessHalted_eq, unlessHalted_eq, poll, show s.lenient.halted = s.halted from rfl]
  split
  · rfl
  · split
    · rfl
    · exact goesOn ⟨(Probe.judge.poll s.probe).2, false⟩

end Walk

namespace MatchContext

open Walk

variable {c : MatchContext Probe}

theorem forgives_emit (entries : List EntryId) (markers : List Marker) :
    Forgives (c.emit entries markers) := by
  intro s
  have kept : ∀ d ∈ (entries.filter c.eligible).map (Delivery.matched · markers),
      (!d.isFailed) = true := by
    intro d inside
    obtain ⟨e, -, rfl⟩ := List.mem_map.mp inside
    rfl
  exact congrArg (·, s.lenient) (List.filter_eq_self.mpr kept).symm

/-- A test that fails cuts off what a test that does not hold cuts off. -/
theorem forgives_whereHolds (judge : c.judge = Probe.judge) (n : PatternNode) (view : FieldView)
    (place : Nat) {w : Walk Probe} (goesOn : Forgives w) :
    Forgives (c.whereHolds n view place w) := by
  intro s
  unfold whereHolds
  split
  · exact goesOn s
  · rename_i test _
    have decided : c.judge.decide test view s.lenient.probe =
        (.ok ((c.judge.decide test view s.probe).1.toOption.getD false),
          (c.judge.decide test view s.probe).2.lenient) := by
      rw [judge]
      exact s.probe.decide_lenient test view
    rw [decided]
    obtain ⟨answer, probe⟩ := c.judge.decide test view s.probe
    rcases answer with e | holds
    · rfl
    · cases holds with
      | false => rfl
      | true => exact goesOn { s with probe }

mutual

theorem forgives_visit (judge : c.judge = Probe.judge) (n : PatternNode) (slot : Option Nat)
    (next : Nat) (markers : List Marker) (dispatched : Bool) :
    Forgives (c.visit n slot next markers dispatched) := by
  obtain ⟨head, children⟩ := n
  have below (slot : Option Nat) (next : Nat) (markers : List Marker) :
      Forgives (c.visitAll children slot next markers) :=
    forgives_visitAll judge children slot next markers
  have inside (slot : Option Nat) (next : Nat) (markers : List Marker) :
      Forgives ((c.emit head.entries markers).andThen (c.visitAll children slot next markers)) :=
    (forgives_emit head.entries markers).andThen (below slot next markers)
  unfold visit
  rw [judge]
  refine Forgives.unlessHalted ?_
  split
  · exact forgives_skip
  · dsimp only
    split
    · split
      · exact forgives_skip
      · refine forgives_all fun length => Forgives.unlessHalted ?_
        exact forgives_whereHolds judge _ _ _ (inside _ _ _)
    · split
      · exact forgives_skip
      · split
        · exact forgives_visitCase judge children _ _ _ _
        · split
          · exact inside _ _ _
          · exact forgives_whereHolds judge _ _ _ (inside _ _ _)

theorem forgives_visitAll (judge : c.judge = Probe.judge) (ns : List PatternNode) (slot : Option Nat)
    (next : Nat) (markers : List Marker) : Forgives (c.visitAll ns slot next markers) := by
  cases ns with
  | nil =>
    unfold visitAll
    exact forgives_skip
  | cons n ns =>
    unfold visitAll
    exact (forgives_visit judge n slot next markers false).andThen
      (forgives_visitAll judge ns slot next markers)

theorem forgives_visitCase (judge : c.judge = Probe.judge) (ns : List PatternNode) (field : Value)
    (slot : Option Nat) (next : Nat) (markers : List Marker) :
    Forgives (c.visitCase ns field slot next markers) := by
  cases ns with
  | nil =>
    unfold visitCase
    exact forgives_skip
  | cons n ns =>
    unfold visitCase
    split
    · exact forgives_visit judge n slot next markers true
    · exact forgives_visitCase judge ns field slot next markers

end

/-- A walk through a tree goes the same way if failures are taken for answers. -/
theorem forgives_run (judge : c.judge = Probe.judge) : Forgives c.run := by
  unfold run
  rw [judge]
  exact ((forgives_emit _ _).andThen (forgives_visitAll judge _ _ _ _)).unlessHalted

end MatchContext

end FactBase

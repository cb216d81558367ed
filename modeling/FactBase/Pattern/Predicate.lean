import FactBase.Pattern
import FactBase.Error
/-! How predicates are decided. A rule is told how often its predicate was evaluated before and
may ask for a halt besides giving its answer. -/
namespace FactBase

structure Verdict where
  result : Except EvalError Bool
  /-- Whether the evaluation asked for a halt. -/
  halts : Bool := false

/-- Decides the `n`-th evaluation of a predicate, counted from 1. -/
abbrev Rule := Nat → FieldView → Verdict

/-- The rules of all predicates and how often each was evaluated. -/
structure PredicateTable where
  rules : Array Rule := #[]
  calls : Array Nat := #[]
deriving Inhabited

namespace PredicateTable

/-- A new predicate with a rule of its own. -/
def add (t : PredicateTable) (label : String) (rule : Rule) : Predicate × PredicateTable :=
  (⟨t.rules.size, label⟩, ⟨t.rules.push rule, t.calls.push 0⟩)

/-- Evaluates a predicate once more. One that is not in the table holds of nothing. -/
def evaluate (t : PredicateTable) (p : Predicate) (view : FieldView) : Verdict × PredicateTable :=
  match t.rules[p.number]? with
  | none => (⟨.ok false, false⟩, t)
  | some rule =>
    let n := t.calls[p.number]?.getD 0 + 1
    (rule n view, { t with calls := t.calls.setIfInBounds p.number n })

end PredicateTable

/-- A small language of rules. -/
inductive RuleSpec where
  | fixed (answer : Bool)
  | fails (message : String)
  | greater (bound : Binary64)
  | less (bound : Binary64)
  | hasType (type : ValueType)
  | equals (value : Value)
  | spanLength (least greatest : Nat)
  | contains (value : Value)
  /-- Holds of one evaluation only. -/
  | onCall (n : Nat)
  /-- Holds always, and asks for a halt when the inner rule holds. -/
  | haltIf (rule : RuleSpec)
  | not (rule : RuleSpec)
  | all (rules : List RuleSpec)
  | any (rules : List RuleSpec)
deriving Inhabited, Repr

namespace RuleSpec

/-- Compares the one numeric field of a view. -/
def judgeNumber (view : FieldView) (holds : Binary64 → Bool) : Verdict :=
  match view with
  | .single v =>
    match v.number? with
    | some x => ⟨.ok (holds x), false⟩
    | none => ⟨.error ⟨"not a number"⟩, false⟩
  | .span _ => ⟨.error ⟨"not a number"⟩, false⟩

mutual
/-- The rule that a specification stands for. -/
def judge : RuleSpec → Rule
  | .fixed b, _, _ => ⟨.ok b, false⟩
  | .fails m, _, _ => ⟨.error ⟨m⟩, false⟩
  | .greater x, _, view => judgeNumber view (·.compare? x == some .gt)
  | .less x, _, view => judgeNumber view (·.compare? x == some .lt)
  | .hasType t, _, .single v => ⟨.ok (v.type == t), false⟩
  | .hasType _, _, .span _ => ⟨.ok false, false⟩
  | .equals v, _, view => ⟨.ok (view.shows v), false⟩
  | .spanLength lo hi, _, .span vs => ⟨.ok (lo ≤ vs.length && vs.length ≤ hi), false⟩
  | .spanLength _ _, _, .single _ => ⟨.error ⟨"not a span"⟩, false⟩
  | .contains v, _, .single w => ⟨.ok (w == v), false⟩
  | .contains v, _, .span ws => ⟨.ok (ws.contains v), false⟩
  | .onCall k, n, _ => ⟨.ok (n == k), false⟩
  | .haltIf r, n, view =>
    match judge r n view with
    | ⟨.ok b, halts⟩ => ⟨.ok true, halts || b⟩
    | v => v
  | .not r, n, view =>
    match judge r n view with
    | ⟨.ok b, halts⟩ => ⟨.ok !b, halts⟩
    | v => v
  | .all rs, n, view => judgeUntil false rs n view
  | .any rs, n, view => judgeUntil true rs n view

/-- Judges from left to right up to the first answer `stop`, or the first failure. -/
def judgeUntil (stop : Bool) : List RuleSpec → Rule
  | [], _, _ => ⟨.ok !stop, false⟩
  | r :: rs, n, view =>
    match judge r n view with
    | ⟨.ok b, halts⟩ =>
      if b == stop then ⟨.ok stop, halts⟩
      else
        let v := judgeUntil stop rs n view
        { v with halts := halts || v.halts }
    | v => v
end

end RuleSpec

/-- The state that deciding tests reads and changes: the predicates and the halt request. -/
structure Probe where
  predicates : PredicateTable := {}
  halted : Bool := false
  /-- Whether a halt is requested from outside before each further look at the request; from the
  end of the list on none is. -/
  interrupts : List Bool := []
deriving Inhabited

/-- Decides a field test on a view. -/
def Probe.decide (p : Probe) (test : FieldTest) (view : FieldView) :
    Except EvalError Bool × Probe :=
  match test with
  | .any => (.ok true, p)
  | .constant v => (.ok (view.shows v), p)
  | .notConstant v => (.ok !view.shows v, p)
  | .expression predicate =>
    let (verdict, predicates) := p.predicates.evaluate predicate view
    (verdict.result, { p with predicates, halted := p.halted || verdict.halts })

/-- Looks whether a halt is requested by now. -/
def Probe.poll (p : Probe) : Bool × Probe :=
  match p.interrupts with
  | [] => (p.halted, p)
  | raised :: interrupts =>
    let halted := p.halted || raised
    (halted, { p with halted, interrupts })

/-- Decides a field test on several views in order. -/
def Probe.decideAll (p : Probe) (test : FieldTest) :
    List FieldView → List (Except EvalError Bool) × Probe
  | [] => ([], p)
  | view :: views =>
    let (r, p) := p.decide test view
    let (rs, p) := p.decideAll test views
    (r :: rs, p)

/-- Decides several tests, one after the other, on the same views. -/
def Probe.decideTable (p : Probe) (views : List FieldView) :
    List FieldTest → List (List (Except EvalError Bool)) × Probe
  | [] => ([], p)
  | test :: tests =>
    let (row, p) := p.decideAll test views
    let (rows, p) := p.decideTable views tests
    (row :: rows, p)

end FactBase

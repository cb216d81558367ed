import FactBase.Query
/-! A small language of query tests: comparisons of slots of bound facts with each other and with
given values. -/
namespace FactBase

inductive Term where
  | value (v : Value)
  /-- A slot of the fact bound to a variable. -/
  | slot (name slot : String)
deriving DecidableEq, Repr

inductive QueryTest where
  | fixed (answer : Bool)
  | fails (message : String)
  | equal (left right : Term)
  /-- Holds if the left value comes before the right one; values without an order fail. -/
  | less (left right : Term)
  /-- Holds if two variables are bound to different facts. -/
  | distinct (left right : String)
  /-- Holds of one evaluation only. -/
  | onCall (n : Nat)
  /-- Holds always, and asks for a halt when the inner test holds. -/
  | haltIf (test : QueryTest)
  | not (test : QueryTest)
  | all (tests : List QueryTest)
  | any (tests : List QueryTest)
deriving Inhabited, Repr

/-- The fact bound to a variable. -/
def Binding.fact (b : Binding) (name : String) : Except EvalError Handle :=
  match b.lookup name with
  | some h => .ok h
  | none => .error ⟨s!"unbound variable {name}"⟩

namespace Term

def eval {N : Type} (s : Store N) (b : Binding) : Term → Except EvalError Value
  | .value v => .ok v
  | .slot name field => do
    let h ← b.fact name
    match (s.get? h).bind (·.slotValue? field) with
    | some v => .ok v
    | none => .error ⟨s!"no slot {field}"⟩

end Term

namespace QueryTest
variable {N : Type}

def less? (v w : Value) : Except EvalError Bool :=
  match v.compare? w with
  | some o => .ok (o == .lt)
  | none => .error ⟨"not comparable"⟩

mutual
/-- Judges the `n`-th binding of a query. -/
def judge (s : Store N) (b : Binding) (n : Nat) : QueryTest → Verdict
  | .fixed answer => ⟨.ok answer, false⟩
  | .fails m => ⟨.error ⟨m⟩, false⟩
  | .equal l r => ⟨do return decide ((← l.eval s b) = (← r.eval s b)), false⟩
  | .less l r => ⟨do
      let v ← l.eval s b
      let w ← r.eval s b
      less? v w, false⟩
  | .distinct x y => ⟨do return (← b.fact x) != (← b.fact y), false⟩
  | .onCall k => ⟨.ok (n == k), false⟩
  | .haltIf t =>
    match judge s b n t with
    | ⟨.ok answer, halts⟩ => ⟨.ok true, halts || answer⟩
    | v => v
  | .not t =>
    match judge s b n t with
    | ⟨.ok answer, halts⟩ => ⟨.ok !answer, halts⟩
    | v => v
  | .all ts => judgeUntil s b n false ts
  | .any ts => judgeUntil s b n true ts

/-- Judges from left to right up to the first answer `stop`, or the first failure. -/
def judgeUntil (s : Store N) (b : Binding) (n : Nat) (stop : Bool) : List QueryTest → Verdict
  | [] => ⟨.ok !stop, false⟩
  | t :: ts =>
    match judge s b n t with
    | ⟨.ok answer, halts⟩ =>
      if answer == stop then ⟨.ok stop, halts⟩
      else
        let v := judgeUntil s b n stop ts
        { v with halts := halts || v.halts }
    | v => v
end

end QueryTest
end FactBase

import FactBase.Pattern.Tree
import FactBase.Pattern.Predicate
/-! Matching one fact against a pattern tree. The walk is depth first; a multifield node tries
every run length that leaves enough fields for the elements after it, the longest first. What a
walk delivers is the list of matches and failed tests in the order they occur. A request to halt
is looked for at every node and every run; once seen it ends the walk. -/
namespace FactBase

/-- How a walk decides tests and learns of halt requests. -/
structure Judge (σ : Type) where
  decide : FieldTest → FieldView → σ → Except EvalError Bool × σ
  /-- Whether a halt is requested by now. -/
  poll : σ → Bool × σ

/-- Tests decided by rules, halts requested by rules or from outside. -/
def Probe.judge : Judge Probe where
  decide test view p := p.decide test view
  poll p := p.poll

/-- A pattern test that failed to give an answer. -/
structure FailedTest where
  slot : String
  /-- The place in the slot at which the field or run begins. -/
  field : Nat
  /-- The labels of the patterns that lead through the test, sorted. -/
  labels : List String
  error : EvalError
deriving DecidableEq, Repr

inductive Delivery where
  | matched (entry : EntryId) (markers : List Marker)
  | failed (test : FailedTest)
deriving DecidableEq, Repr

structure WalkState (σ : Type) where
  probe : σ
  halted : Bool := false

/-- A part of a walk: what it delivers and the state it leaves. -/
abbrev Walk (σ : Type) := WalkState σ → List Delivery × WalkState σ

namespace Walk
variable {σ : Type}

def skip : Walk σ := fun s => ([], s)

def deliver (ds : List Delivery) : Walk σ := fun s => (ds, s)

def andThen (a b : Walk σ) : Walk σ := fun s =>
  let (ds, s) := a s
  let (es, s) := b s
  (ds ++ es, s)

def all : List (Walk σ) → Walk σ
  | [] => skip
  | w :: ws => w.andThen (all ws)

/-- Goes on only while no halt is requested. -/
def unlessHalted (judge : Judge σ) (w : Walk σ) : Walk σ := fun s =>
  if s.halted then ([], s)
  else match judge.poll s.probe with
    | (true, probe) => ([], ⟨probe, true⟩)
    | (false, probe) => w ⟨probe, false⟩

end Walk

/-- What stays the same during one walk. -/
structure MatchContext (σ : Type) where
  judge : Judge σ
  tree : PatternTree
  values : List Value
  mode : MatchMode

namespace MatchContext
variable {σ : Type}

/-- The entries that receive matches in this mode. An assertion reaches an entry only once the
facts before it were replayed into it. -/
def eligible (c : MatchContext σ) (id : EntryId) : Bool :=
  ((c.tree.entryOf? id).any (·.initialized)) != (c.mode == .replay)

def emit (c : MatchContext σ) (entries : List EntryId) (markers : List Marker) : Walk σ :=
  .deliver ((entries.filter c.eligible).map (.matched · markers))

/-- The slot value a node looks at, unless the node is passed over: in a replay for being
initialized, or for a field count that no match can have. -/
def slotValue? (c : MatchContext σ) (head : NodeHead) (dispatched : Bool) : Option Value :=
  if c.mode == .replay && head.initialized then none
  else (c.values[head.shape.slot]?).filter fun v =>
    dispatched || head.shape.length.all (·.accepts v.fieldCount)

/-- The field at a place of a slot value. -/
def fieldAt? (shape : Shape) (v : Value) (place : Nat) : Option Value :=
  if shape.inMultiSlot then v.members?.bind (·[place]?) else some v

/-- The run lengths a multifield node tries from a place on: the last one in a slot takes what
the elements after it leave over. -/
def runLengths (shape : Shape) (place count : Nat) : List Nat :=
  if place + shape.singlesAfter ≤ count then
    let widest := count - place - shape.singlesAfter
    if shape.multisAfter = 0 then [widest] else (List.range (widest + 1)).reverse
  else []

def failedTest (c : MatchContext σ) (n : PatternNode) (place : Nat) (e : EvalError) :
    FailedTest :=
  { slot := ((c.tree.template.slot? n.head.shape.slot).map (·.name)).getD "?"
    field := place
    labels := c.tree.reachableLabels n
    error := e }

/-- Goes on where a node's test holds of a view. -/
def whereHolds (c : MatchContext σ) (n : PatternNode) (view : FieldView) (place : Nat)
    (w : Walk σ) : Walk σ := fun s =>
  match n.head.test with
  | .selector => w s
  | .field test =>
    match c.judge.decide test view s.probe with
    | (.ok true, probe) => w { s with probe }
    | (.ok false, probe) => ([], { s with probe })
    | (.error e, probe) => ([.failed (c.failedTest n place e)], { s with probe })

mutual
/-- Walks a node and what is below it. `slot` is the slot of the node before, `next` the place
after the fields taken there, and `dispatched` says that a selector has done the test. -/
def visit (c : MatchContext σ) :
    PatternNode → Option Nat → Nat → List Marker → Bool → Walk σ
  | .node head children, slot, next, markers, dispatched =>
    .unlessHalted c.judge <|
      match c.slotValue? head dispatched with
      | none => .skip
      | some v =>
        let here := some head.shape.slot
        let place := if slot = here then next else 0
        if head.shape.isMulti then
          match v.members? with
          | none => .skip
          | some members =>
            .all <| (runLengths head.shape place members.length).map fun length =>
              let run := (members.drop place).take length
              let markers := markers ++ [⟨head.shape.slot, head.shape.element, place, length⟩]
              .unlessHalted c.judge <| c.whereHolds (.node head children) (.span run) place <|
                (c.emit head.entries markers).andThen
                  (visitAll c children here (place + length) markers)
        else
          match fieldAt? head.shape v place with
          | none => .skip
          | some field =>
            if head.test == .selector then visitCase c children field here place markers
            else
              let inside := (c.emit head.entries markers).andThen
                (visitAll c children here (place + 1) markers)
              if dispatched then inside
              else c.whereHolds (.node head children) (.single field) place inside

def visitAll (c : MatchContext σ) : List PatternNode → Option Nat → Nat → List Marker → Walk σ
  | [], _, _, _ => .skip
  | n :: ns, slot, next, markers =>
    (visit c n slot next markers false).andThen (visitAll c ns slot next markers)

/-- Walks the child of a selector that stands for a field. -/
def visitCase (c : MatchContext σ) :
    List PatternNode → Value → Option Nat → Nat → List Marker → Walk σ
  | [], _, _, _, _ => .skip
  | n :: ns, field, slot, next, markers =>
    if n.isCase field then visit c n slot next markers true
    else visitCase c ns field slot next markers
end

/-- Walks the whole tree. -/
def run (c : MatchContext σ) : Walk σ :=
  .unlessHalted c.judge <|
    (c.emit c.tree.rootEntries []).andThen (c.visitAll c.tree.roots none 0 [])

end MatchContext
end FactBase

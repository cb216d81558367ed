import FactBase.Session.Templates
import FactBase.Session.Facts
import FactBase.Session.Patterns
import FactBase.Session.Lookup
import FactBase.Session.Control
import FactBase.Session.Builders
/-! Sessions: commands carried out one after the other on a new fact base. Hooks and query actions
carry out commands themselves, so commands nest; `depth` bounds how deeply. -/
namespace FactBase.Session
open Turn

/-! ### Hooks -/

def HookKind.of : Event → HookKind
  | .beforeAssert _ => .beforeAssert
  | .afterAssert _ => .afterAssert
  | .beforeRetract _ => .beforeRetract
  | .afterRetract _ => .afterRetract
  | .beforeModify _ => .beforeModify
  | .afterModify _ _ => .afterModify

/-- The names under which a hook finds the facts of an event. -/
def eventFacts : Event → List (String × Handle)
  | .beforeAssert h | .afterAssert h | .beforeRetract h | .afterRetract h => [("$fact", h)]
  | .beforeModify old => [("$old", old)]
  | .afterModify old new => [("$old", old), ("$new", new)]

def glimpse (s : Store Network) (h : Handle) : FactGlimpse :=
  { fact := h
    index := (s.get? h).map (·.index)
    isAsserted := s.isAsserted h }

/-- Does some work while names stand for given facts; afterwards they are what they were. -/
def withFacts {α : Type} (facts : List (String × Handle)) (p : Session α) : Session α := do
  let before := (← getHost).facts
  updateHost fun host =>
    { host with facts := facts.foldl (fun names (name, h) => names.set name h) host.facts }
  let a ← p
  updateHost fun host =>
    { host with facts := facts.foldl (fun names (name, _) => names.restore name before) host.facts }
  return a

def remark (r : Remark) : Session Unit := Process.record (.remark r)

/-- Carries out a command of a hook or an action. -/
def answerInside (inner : Command → Session Answer) (c : Command) : Session Answer := do
  let a ← inner c
  remark (.answered a)
  return a

/-- What the listeners of a session do: the commands of the hook, if the script has it. -/
def hooks (inner : Command → Session Answer) : Hooks Network Host Remark := fun id e => do
  if let some script := (← getHost).scripts.lookup id then
    if let some commands := script.hooks.lookup (HookKind.of e) then
      let s ← Process.getStore
      let facts := eventFacts e
      remark (.hook script.listener (HookKind.of e) (facts.map fun f => glimpse s f.2) s.guarded)
      withFacts facts do
        for c in commands do
          let _ ← answerInside inner c

def listen (name : String) (priority : Int) (script : List (HookKind × List Command)) :
    Turn Answer := do
  let (id, listeners) ← orFail .store ((← store).listeners.add name priority)
  (Process.updateStore fun s => { s with listeners } : Session Unit)
  updateHost fun host => { host with scripts := (id, ⟨name, script⟩) :: host.scripts }
  return .done

/-! ### Queries -/

/-- Counts and judges a binding. -/
def judgeBinding (test : QueryTest) : Query.Test Network Host Remark := fun b => do
  updateHost fun host => { host with evaluations := host.evaluations + 1 }
  let s ← Process.getStore
  let verdict := test.judge s b (← getHost).evaluations
  if verdict.halts then
    Process.updateStore fun s => { s with probe := { s.probe with halted := true } }
  return verdict.result

/-- Carries out commands in order; the first failure that counts ends them. -/
def actAll (inner : Command → Session Answer) (strict : Bool) :
    List Command → Session (Except EvalError Unit)
  | [] => return .ok ()
  | c :: rest => do
    match (← answerInside inner c).failureMessage?, strict with
    | some message, true => return .error ⟨message⟩
    | _, _ => actAll inner strict rest

/-- Acts on a binding: its variables are names of facts meanwhile. -/
def actOn (inner : Command → Session Answer) (commands : List Command) (strict : Bool) :
    Query.Act Network Host Remark := fun b => do
  remark (.action b)
  withFacts (b.map fun (name, h) => ("?" ++ name, h)) (actAll inner strict commands)

/-- The result of a query in one of its modes. -/
def queryResult (inner : Command → Session Answer) (mode : QueryMode)
    (restrictions : List Restriction) (test : QueryTest) (commands : List Command)
    (strict : Bool) : Session QueryResult := do
  let test := judgeBinding test
  let act := actOn inner commands strict
  let result ← match mode with
    | .any => do pure ((← Query.any test restrictions).map .found)
    | .findFirst => do pure ((← Query.findFirst test restrictions).map .first)
    | .findAll => do pure ((← Query.findAll test restrictions).map .all)
    | .doForFirst => do pure ((← Query.doForFirst test act restrictions).map .found)
    | .doForAll => do pure ((← Query.doForAll test act restrictions).map .count)
    | .delayedDoForAll => do pure ((← Query.delayedDoForAll test act restrictions).map .count)
  match result with
  | .ok r => return r
  | .error e => return .failure e

/-- Runs a query and counts its evaluations apart from those of queries around it. -/
def query (inner : Command → Session Answer) (mode : QueryMode)
    (restrictions : List Restriction) (test : QueryTest) (commands : List Command)
    (strict : Bool) : Session Answer := do
  let outer := (← getHost).evaluations
  updateHost fun host => { host with evaluations := 0 }
  let result ← queryResult inner mode restrictions test commands strict
  let evaluations := (← getHost).evaluations
  updateHost fun host => { host with evaluations := outer }
  return .query result evaluations

/-! ### Commands -/

/-- Carries out a command; `inner` carries out the commands of hooks and actions. -/
def perform (inner : Command → Session Answer) (rounds : Nat) : Command → Turn Answer
  | .template c => performTemplate c
  | .fact c => performFact (hooks inner) rounds c
  | .pattern c => performPattern c
  | .lookup c => performLookup c
  | .control c => performControl c
  | .atom c => performAtom c
  | .builder c => performBuilder (hooks inner) c
  | .modifier c => performModifier (hooks inner) c
  | .listen name priority script => listen name priority script
  | .query mode restrictions test commands strict =>
    query inner mode restrictions test commands strict

/-- Carries out a command at most so deeply nested. -/
def execute : (depth : Nat) → Command → Session Answer
  | 0, _ => throw .nesting
  | depth + 1, c => (perform (execute depth) depth c).finish

/-! ### Steps -/

/-- The state of a fact base after a step. -/
structure StateView where
  indices : List Nat
  garbage : Nat
  nextIndex : Nat
  alphaMatches : Nat
deriving DecidableEq, Repr

def StateView.of (s : Store Network) : StateView :=
  { indices := s.order.filterMap fun h => (s.get? h).map (·.index)
    garbage := s.garbage.length
    nextIndex := s.nextIndex
    alphaMatches := s.counters.alphaMatches }

/-- One command's answer and journal, and the state after it. There is no state after a fault. -/
structure Step where
  answer : Answer
  journal : List (Entry Remark)
  state : Option StateView

def Fault.answer : Fault → Answer
  | .breach b => .broken b
  | .nesting => .tooDeep

/-- Whether an entry is shown: calls to the network only if it is locked. -/
def isShown (network : Network) : Entry Remark → Bool
  | .notice (.pushed _) | .notice (.dropped _ _) => network.locked?.isSome
  | _ => true

/-- Steps through commands up to the first fault. -/
def steps (depth : Nat) : List Command → World Network Host Remark → List Step
  | [], _ => []
  | c :: rest, w =>
    match (execute depth c).run w with
    | .ok a w =>
      ⟨a, w.journal.toList.filter (isShown w.store.network), some (.of w.store)⟩ ::
        steps depth rest { w with journal := #[] }
    | .error fault w =>
      [⟨Fault.answer fault, w.journal.toList.filter (isShown w.store.network), none⟩]

/-- The nesting and the number of retractions in one command that a session puts up with. -/
def depthLimit : Nat := 1000000

/-- Carries out commands on a new fact base. -/
def run (config : Config) (network : Network) (commands : List Command) : List Step :=
  steps depthLimit commands { store := .empty config network, host := {} }

end FactBase.Session

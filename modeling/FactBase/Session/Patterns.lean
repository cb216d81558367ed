import FactBase.Session.Host
/-! Commands about patterns and the matches they have. -/
namespace FactBase.Session
open Turn

/-- A new predicate with a rule. -/
def addPredicate (label : String) (rule : RuleSpec) : Session Predicate :=
  Process.step fun s =>
    let (p, predicates) := s.probe.predicates.add label rule.judge
    .ok (p, { s with probe := { s.probe with predicates } })

/-- The label of predicates that belong to one test. -/
def ownLabel : String := "fresh"

def buildTest : TestSource → Turn FieldTest
  | .plain test => pure test
  | .named name => do
    return .expression (← bound name ((← getHost).predicates.lookup name))
  | .rule spec => do return .expression (← addPredicate ownLabel spec)

def buildElement (e : ElementSource) : Turn Element := do
  let test ← buildTest e.test
  return if e.isMulti then .multi test else .single test

def buildSlots (slots : List (Nat × List ElementSource)) : Turn (List SlotPattern) :=
  slots.mapM fun (slot, elements) => do return ⟨slot, ← elements.mapM buildElement⟩

/-- Works on the alpha memory, if the network has one. -/
def withMemory (f : AlphaMemory → Answer) : Turn Answer := do
  match (← store).network.memory? with
  | some m => return f m
  | none => return .noMemory

def networkView (s : Store Network) : NetworkView :=
  { patterns := s.patterns.patternCount
    nodes := s.patterns.nodeCount
    needingReplay := s.patterns.needingReplay
    refusals := s.network.locked?.map fun n => (n.pushed, n.refused) }

def performPattern : PatternCommand → Turn Answer
  | .predicate label rule name => do
    let p ← addPredicate label rule
    updateHost fun host => { host with predicates := host.predicates.set name p }
    return .done
  | .add t slots label name => do
    let template ← findTemplate t
    let slots ← buildSlots slots
    let e ← attempt .pattern (Process.addPattern ⟨template, slots⟩ label)
    if let some name := name then
      updateHost fun host => { host with entries := host.entries.set name e }
    return .pattern e
  | .remove e => do
    let id ← findEntry e
    attempt .pattern (Process.attemptChange (·.removePattern id))
    return .done
  | .replay => do return .number (← (Process.replayNewPatterns : Session Nat))
  | .describeTree t => do
    let id ← findTemplate t
    return .tree (((← store).patterns.tree? id).map TreeView.of)
  | .describeNetwork => do return .network (networkView (← store))
  | .describeEntry e => do
    let id ← findEntry e
    let patterns := (← store).patterns
    let owner := patterns.owner? id
    return .entry owner ((owner.bind patterns.tree?).bind (·.entryOf? id))
  | .memory e => do
    let id ← findEntry e
    withMemory fun m => .memory (MemoryView.of m id)
  | .readMemory e => do
    let id ← findEntry e
    match (← store).network with
    | .remembering m =>
      let (records, m) := m.read id
      (Process.updateStore fun s => { s with network := .remembering m } : Session Unit)
      return .records records
    | _ => return .records none
  | .memoryOfFact f => do
    let h ← findFact f
    withMemory fun m => .records (m.matchesFor h)
  | .memoryStats => withMemory .memoryStats

end FactBase.Session

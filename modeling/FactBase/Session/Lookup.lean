import FactBase.Session.Host
/-! Commands that only look: at facts, the order they are in, and the hash index. -/
namespace FactBase.Session

def factView? (s : Store Network) (h : Handle) : Option FactView := (s.get? h).map (FactView.of h)

/-- Views of facts in order. -/
def factViews (s : Store Network) (hs : List Handle) : List FactView := hs.filterMap (factView? s)

/-- Whether the hash index finds a fact under the hash the fact was indexed by. -/
def hashFinds (s : Store Network) (h : Handle) (f : Fact) : Bool :=
  (s.index.find? f.hash (· == h)).isSome

def performLookup : LookupCommand → Turn Answer
  | .fact f => do
    let h ← findFact f
    return .fact (factView? (← store) h)
  | .values f => do
    let h ← findFact f
    return .values (((← store).get? h).map fun fact => (fact.template.name, fact.values))
  | .json f => do
    let h ← findFact f
    return .json (((← store).get? h).map (·.toJson))
  | .slot f slot => do
    let h ← findFact f
    return .value (((← store).get? h).bind (·.slotValue? slot))
  | .byIndex n => do return .handle ((← store).byIndex? n)
  | .isAsserted f => do
    let h ← findFact f
    return .truth ((← store).isAsserted h)
  | .next previous => do
    let previous ← findStart previous
    return .handle ((← store).next? previous)
  | .nextInScope previous => do
    let previous ← findStart previous
    return .handle ((← store).nextInScope? previous)
  | .nextInTemplate t previous => do
    let id ← findTemplate t
    let previous ← findStart previous
    return .handle ((← store).nextInTemplate? id previous)
  | .facts => do
    let s ← store
    return .facts (factViews s s.order)
  | .templateFacts t => do
    let id ← findTemplate t
    let s ← store
    return .listing (factViews s (s.templateFacts id))
  | .handleText f => do return .text (← findFact f).text
  | .hashFinds f => do
    let h ← findFact f
    let s ← store
    return .hashFinds ((s.get? h).map (hashFinds s h))

end FactBase.Session

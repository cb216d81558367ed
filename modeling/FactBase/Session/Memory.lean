import FactBase.Session.Answer
/-! Sessions with an alpha memory by itself. -/
namespace FactBase.Session

inductive MemoryCommand where
  | push (given : AlphaMatch)
  | retract (fact : Handle) (ids : List MatchId)
  | read (entry : EntryId)
  | entry (entry : EntryId)
  | fact (fact : Handle)
  | stats
deriving DecidableEq, Repr

inductive MemoryAnswer where
  | done
  | pushed (id : MatchId)
  | records (records : Option (List MatchRecord))
  | view (view : MemoryView)
  | stats
  | broken (b : Breach)
deriving DecidableEq, Repr

def performMemory (m : AlphaMemory) : MemoryCommand → MemoryAnswer × AlphaMemory
  | .push given =>
    let (id, m) := m.push given
    (.pushed id, m)
  | .retract fact ids =>
    match m.retract fact ids with
    | .ok m => (.done, m)
    | .error b => (.broken b, m)
  | .read e =>
    let (records, m) := m.read e
    (.records records, m)
  | .entry e => (.view (MemoryView.of m e), m)
  | .fact h => (.records (some (m.matchesFor h)), m)
  | .stats => (.stats, m)

/-- Every answer with the memory after it, up to a breach. -/
def memorySteps (m : AlphaMemory) : List MemoryCommand → List (MemoryAnswer × AlphaMemory)
  | [] => []
  | c :: rest =>
    match performMemory m c with
    | (.broken b, m) => [(.broken b, m)]
    | (a, m) => (a, m) :: memorySteps m rest

end FactBase.Session

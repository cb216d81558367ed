import FactBase.Store
import FactBase.Binary64.Decimal
/-! A summary of a fact base in numbers, and its printed form. -/
namespace FactBase

structure Stats where
  liveFacts : Nat := 0
  garbageFacts : Nat := 0
  templates : Nat := 0
  patterns : Nat := 0
  patternNodes : Nat := 0
  hashCapacity : Nat := 0
  hashResizes : Nat := 0
  atoms : Nat := 0
  nextIndex : Nat := 0
  counters : Counters := {}
deriving DecidableEq, Inhabited, Repr

def Store.stats {N : Type} (s : Store N) : Stats :=
  { liveFacts := s.factCount
    garbageFacts := s.garbage.length
    templates := s.templates.size
    patterns := s.patterns.patternCount
    patternNodes := s.patterns.nodeCount
    hashCapacity := s.index.capacity
    hashResizes := s.index.resizes
    atoms := s.atoms.size
    nextIndex := s.nextIndex
    counters := s.counters }

namespace Stats

/-- How many asserts were tried, in a counter of 64 bits that starts again at zero. -/
def attempts (s : Stats) : Nat :=
  (s.counters.asserted + s.counters.duplicatesRejected) % UInt64.size

/-- The share of asserts that were rejected as duplicates, in percent. -/
def duplicateRate (s : Stats) : Binary64 :=
  if s.attempts = 0 then .zero
  else (Binary64.divideCounts s.counters.duplicatesRejected s.attempts).mul (.ofInt 100)

/-- Live facts per hash bucket. -/
def loadFactor (s : Stats) : Binary64 :=
  if s.hashCapacity = 0 then .zero else .divideCounts s.liveFacts s.hashCapacity

def lines (s : Stats) : List String :=
  let c := s.counters
  [ "=== Fact Store Statistics ===", "", "Facts:",
    s!"  Live: {s.liveFacts}",
    s!"  Awaiting reclamation: {s.garbageFacts}",
    s!"  Next index: f-{s.nextIndex}",
    s!"  Asserted: {c.asserted}",
    s!"  Duplicates rejected: {c.duplicatesRejected} ({s.duplicateRate.fixedText 1}%)",
    s!"  Retracted: {c.retracted}",
    s!"  Modified: {c.modified}",
    s!"  Reclaimed: {c.reclaimed} in {c.gcRuns} collections", "", "Hash index:",
    s!"  Buckets: {s.hashCapacity}",
    s!"  Load factor: {s.loadFactor.fixedText 3}",
    s!"  Resizes: {s.hashResizes}", "", "Pattern network:",
    s!"  Templates: {s.templates}",
    s!"  Patterns: {s.patterns}",
    s!"  Nodes: {s.patternNodes}",
    s!"  Alpha matches: {c.alphaMatches}",
    s!"  Match retractions: {c.matchRetractions}",
    s!"  Evaluation errors: {c.evaluationErrors}",
    s!"  Reentrant calls refused: {c.guardRejections}",
    s!"  Atoms: {s.atoms}" ]

def text (s : Stats) : String := String.intercalate "\n" s.lines

end Stats
end FactBase

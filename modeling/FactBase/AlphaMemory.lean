import FactBase.JoinNetwork
/-! The network that remembers matches. Every pattern entry that ever had a match has a memory
with running counts; the records of all memories are kept in the order of arrival. -/
namespace FactBase

structure MatchRecord where
  id : MatchId
  fact : Handle
  index : Nat
  entry : EntryId
  markers : List Marker
deriving DecidableEq, Repr

/-- The running counts of one memory. -/
structure MemoryCounts where
  entry : EntryId
  reads : Nat := 0
  added : Nat := 0
  removed : Nat := 0
deriving DecidableEq, Repr

structure AlphaMemory where
  /-- The live matches in the order of arrival, which is the order of their numbers. -/
  records : List MatchRecord := []
  /-- The memories, by entry. -/
  memories : List MemoryCounts := []
  issued : Nat := 0
  found : Nat := 0
  retracted : Nat := 0
  /-- How often matches were taken back, whatever their number. -/
  retractions : Nat := 0
deriving DecidableEq, Inhabited, Repr

namespace AlphaMemory

def hasMemory (m : AlphaMemory) (e : EntryId) : Bool := m.memories.any (·.entry == e)

/-- Changes the counts of a memory. -/
def count (m : AlphaMemory) (e : EntryId) (f : MemoryCounts → MemoryCounts) : AlphaMemory :=
  { m with memories := m.memories.map fun c => if c.entry == e then f c else c }

/-- Makes sure that an entry has a memory. -/
def ensure (m : AlphaMemory) (e : EntryId) : AlphaMemory :=
  if m.hasMemory e then m else { m with memories := m.memories ++ [{ entry := e }] }

def push (a : AlphaMatch) (m : AlphaMemory) : MatchId × AlphaMemory :=
  let id : MatchId := ⟨m.issued + 1⟩
  let m := (m.ensure a.entry).count a.entry fun c => { c with added := c.added + 1 }
  (id, { m with
    records := m.records ++ [⟨id, a.fact, a.index, a.entry, a.markers⟩]
    issued := m.issued + 1
    found := m.found + 1 })

/-- Takes back one match of a fact. -/
def retractOne (fact : Handle) (m : AlphaMemory) (id : MatchId) : Except Breach AlphaMemory :=
  match m.records.find? (·.id == id) with
  | none => .error (.matchUnknown id fact)
  | some r =>
    if r.fact = fact then
      let m := m.count r.entry fun c => { c with removed := c.removed + 1 }
      .ok { m with records := m.records.eraseP (·.id == id), retracted := m.retracted + 1 }
    else .error (.matchForeign id fact)

def retract (fact : Handle) (ids : List MatchId) (m : AlphaMemory) : Except Breach AlphaMemory :=
  ids.foldlM (retractOne fact) { m with retractions := m.retractions + 1 }

instance : JoinNetwork AlphaMemory where
  push := push
  retract fact ids m := (m.retract fact ids).map (none, ·)

/-- The matches of an entry. -/
def matchesOf (m : AlphaMemory) (e : EntryId) : List MatchRecord :=
  m.records.filter (·.entry == e)

/-- The matches of a fact in all memories. -/
def matchesFor (m : AlphaMemory) (fact : Handle) : List MatchRecord :=
  m.records.filter (·.fact == fact)

/-- Reads a memory and counts the reading; there may be no memory. -/
def read (m : AlphaMemory) (e : EntryId) : Option (List MatchRecord) × AlphaMemory :=
  if m.hasMemory e then
    (some (m.matchesOf e), m.count e fun c => { c with reads := c.reads + 1 })
  else (none, m)

/-- The counts of all memories in the order of their entries, each with its live matches. -/
def summary (m : AlphaMemory) : List (MemoryCounts × Nat) :=
  (m.memories.mergeSort fun a b => a.entry.number ≤ b.entry.number).map fun c =>
    (c, (m.matchesOf c.entry).length)

end AlphaMemory
end FactBase

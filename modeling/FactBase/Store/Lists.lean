import FactBase.Arena
import FactBase.Breach
import FactBase.Fact
/-! Doubly linked lists of facts, threaded through the arena. The links are kept with the facts; a
list only knows its ends and its length. Every asserted fact is in two lists, that of all facts
and that of its template. -/
namespace FactBase

/-- Where an asserted fact goes in the list of all facts. -/
inductive Position where
  | tail
  | head
  /-- Directly behind an asserted fact. -/
  | after (fact : Handle)
deriving DecidableEq, Inhabited, Repr

/-- Which links of a fact a list uses. -/
inductive Thread where
  /-- The list of all facts. -/
  | global
  | inTemplate
deriving DecidableEq, Repr

namespace Fact

def links (thread : Thread) (f : Fact) : Links :=
  match thread with
  | .global => f.global
  | .inTemplate => f.inTemplate

def setLinks (thread : Thread) (links : Links) (f : Fact) : Fact :=
  match thread with
  | .global => { f with global := links }
  | .inTemplate => { f with inTemplate := links }

end Fact

structure FactList where
  head : Option Handle := none
  tail : Option Handle := none
  length : Nat := 0
deriving Inhabited

namespace FactList

def linksOf (facts : Arena Fact) (thread : Thread) (h : Handle) : Except Breach Links :=
  match facts.get? h with
  | some f => .ok (f.links thread)
  | none => .error (.linkBroken h)

/-- Changes the links of a fact. -/
def relink (facts : Arena Fact) (thread : Thread) (h : Handle) (change : Links → Links) :
    Except Breach (Arena Fact) := do
  let links ← linksOf facts thread h
  .ok (facts.update h (·.setLinks thread (change links)))

/-- Makes a fact the successor of another, or the head. -/
def setNext (l : FactList) (facts : Arena Fact) (thread : Thread) (previous next : Option Handle) :
    Except Breach (FactList × Arena Fact) :=
  match previous with
  | some p => (relink facts thread p ({ · with next })).map (l, ·)
  | none => .ok ({ l with head := next }, facts)

/-- Makes a fact the predecessor of another, or the tail. -/
def setPrevious (l : FactList) (facts : Arena Fact) (thread : Thread)
    (previous next : Option Handle) : Except Breach (FactList × Arena Fact) :=
  match next with
  | some n => (relink facts thread n ({ · with previous })).map (l, ·)
  | none => .ok ({ l with tail := previous }, facts)

/-- The fact behind another, or the head. -/
def behind (l : FactList) (facts : Arena Fact) (thread : Thread) :
    Option Handle → Except Breach (Option Handle)
  | some p => (linksOf facts thread p).map (·.next)
  | none => .ok l.head

/-- Puts a fact behind another, or at the head. -/
def linkAfter (l : FactList) (facts : Arena Fact) (thread : Thread) (previous : Option Handle)
    (h : Handle) : Except Breach (FactList × Arena Fact) := do
  let next ← l.behind facts thread previous
  let facts ← relink facts thread h fun _ => ⟨previous, next⟩
  let (l, facts) ← l.setNext facts thread previous (some h)
  let (l, facts) ← l.setPrevious facts thread (some h) next
  .ok ({ l with length := l.length + 1 }, facts)

/-- Takes a fact out; returns the one in front of it. -/
def unlink (l : FactList) (facts : Arena Fact) (thread : Thread) (h : Handle) :
    Except Breach (Option Handle × FactList × Arena Fact) := do
  let links ← linksOf facts thread h
  let facts ← relink facts thread h fun _ => {}
  let (l, facts) ← l.setNext facts thread links.previous links.next
  let (l, facts) ← l.setPrevious facts thread links.previous links.next
  if l.length = 0 then .error .listEmpty
  else .ok (links.previous, { l with length := l.length - 1 }, facts)

/-- The facts met on the way along the successors, as long as there are steps left. -/
def walk (facts : Arena Fact) (thread : Thread) : Nat → Option Handle → List Handle
  | 0, _ | _, none => []
  | steps + 1, some h =>
    match facts.get? h with
    | none => []
    | some f => h :: walk facts thread steps (f.links thread).next

/-- The facts from one on; more than there are storage slots are never met. -/
def onward (facts : Arena Fact) (thread : Thread) (start : Option Handle) : List Handle :=
  walk facts thread facts.slots.size start

end FactList
end FactBase

import FactBase.Config
import FactBase.Fact
import FactBase.Arena
import FactBase.HashIndex
import FactBase.Listener
import FactBase.JoinNetwork
import FactBase.Pattern.Match
import FactBase.Pattern.Network
import FactBase.Store.Lists
import FactBase.Template.Registry
/-! The fact base: its facts, where they are listed and indexed, and the counts it keeps. `N` is
the type of the join network that receives matches. -/
namespace FactBase

structure Counters where
  asserted : Nat := 0
  duplicatesRejected : Nat := 0
  retracted : Nat := 0
  modified : Nat := 0
  reclaimed : Nat := 0
  gcRuns : Nat := 0
  alphaMatches : Nat := 0
  matchRetractions : Nat := 0
  evaluationErrors : Nat := 0
  guardRejections : Nat := 0
deriving DecidableEq, Inhabited, Repr

structure Store (N : Type) where
  config : Config := {}
  templates : TemplateRegistry := {}
  /-- How often the producer of a slot's default was asked. -/
  draws : List ((TemplateId × Nat) × Nat) := []
  atoms : AtomTable := {}
  /-- Every stored fact: unattached, asserted or garbage. -/
  facts : Arena Fact := {}
  /-- The list of the asserted facts. -/
  global : FactList := {}
  /-- The list of the asserted facts of each template. -/
  templateLists : List (TemplateId × FactList) := []
  index : HashIndex
  /-- The content hash that asserted facts are indexed by. -/
  contentHash : TemplateId → List Value → UInt64
  patterns : PatternNetwork
  network : N
  /-- The predicates in use and the halt request. -/
  probe : Probe := {}
  listeners : ListenerRegistry := {}
  /-- Retracted facts that are not collected yet, in the order of retraction. -/
  garbage : List Handle := []
  nextIndex : Nat := 1
  /-- Whether an assert, retract, modify or replay is at work. -/
  guarded : Bool := false
  /-- Whether a test or the network has failed since the flag was cleared. -/
  evaluationError : Bool := false
  /-- How many change lists are being applied, one inside the other. -/
  openChanges : Nat := 0
  counters : Counters := {}

/-! ### Content hashes -/

/-- Mixes a number into a hash. -/
def mixHash64 (h : UInt64) (n : UInt64) : UInt64 :=
  let h := (h ^^^ n) * 0x9e3779b97f4a7c15
  h ^^^ (h >>> 29)

def mixText (h : UInt64) (s : String) : UInt64 :=
  s.toList.foldl (fun h c => mixHash64 h (UInt64.ofNat c.toNat)) (mixHash64 h 0xff)

mutual
def Value.mix (h : UInt64) : Value → UInt64
  | .symbol s => mixText (mixHash64 h 0) s
  | .string s => mixText (mixHash64 h 1) s
  | .integer n => mixHash64 (mixHash64 h 2) n.toUInt64
  | .float x => mixHash64 (mixHash64 h 3) x.bits
  | .multifield vs => Value.mixAll (mixHash64 (mixHash64 h 4) (UInt64.ofNat vs.length)) vs

def Value.mixAll (h : UInt64) : List Value → UInt64
  | [] => h
  | v :: vs => Value.mixAll (Value.mix h v) vs
end

/-- The usual content hash. -/
def hashContent (t : TemplateId) (vs : List Value) : UInt64 :=
  Value.mixAll (mixHash64 (mixHash64 0x243f6a8885a308d3 (UInt64.ofNat t.number))
    (UInt64.ofNat vs.length)) vs

namespace Store
variable {N : Type}

/-- An empty fact base. -/
def empty (config : Config) (network : N) : Store N :=
  { config, network, index := .empty config.effectiveFloor, contentHash := hashContent
    patterns := { threshold := config.selectorThreshold } }

/-! ### Looking things up -/

def get? (s : Store N) (h : Handle) : Option Fact := s.facts.get? h

def isAsserted (s : Store N) (h : Handle) : Bool := (s.get? h).any (·.isAsserted)

def factCount (s : Store N) : Nat := s.global.length

/-- The asserted facts in order. -/
def order (s : Store N) : List Handle := FactList.onward s.facts .global s.global.head

/-- The list of a template's asserted facts; an empty one if there is none yet. -/
def listOf (s : Store N) (t : TemplateId) : FactList := (s.templateLists.lookup t).getD {}

def templateFactCount (s : Store N) (t : TemplateId) : Nat := (s.listOf t).length

/-- The asserted facts of a template in order. -/
def templateFacts (s : Store N) (t : TemplateId) : List Handle :=
  FactList.onward s.facts .inTemplate (s.listOf t).head

/-- An asserted fact by its index. -/
def byIndex? (s : Store N) (index : Nat) : Option Handle :=
  s.order.find? fun h => (s.get? h).any (·.index == index)

/-- The fact from which a walk goes on; a walk cannot go on from a retracted or freed fact. -/
def cursor? (s : Store N) (h : Handle) : Option Fact := (s.get? h).filter (!·.isGarbage)

/-- The asserted fact behind another, or the first one. -/
def next? (s : Store N) (previous : Option Handle) : Option Handle :=
  match previous with
  | none => s.global.head
  | some h => (s.cursor? h).bind (·.global.next)

/-- The asserted fact of a template behind another, or the first one. -/
def nextInTemplate? (s : Store N) (t : TemplateId) (previous : Option Handle) : Option Handle :=
  match previous with
  | none => (s.listOf t).head
  | some h => (s.cursor? h).bind (·.inTemplate.next)

/-- Whether a fact's template is in scope from the current module. -/
def isInScope (s : Store N) (h : Handle) : Bool :=
  (s.get? h).any fun f => s.templates.isVisible f.templateId

/-- The next asserted fact in scope behind another, or the first one. -/
def nextInScope? (s : Store N) (previous : Option Handle) : Option Handle :=
  (FactList.onward s.facts .global (s.next? previous)).find? s.isInScope

/-- What refers to a template besides its busy count and its builders: each stored fact of it, and
its pattern tree. -/
def templateShares (s : Store N) (t : TemplateId) : Nat :=
  s.facts.values.countP (·.templateId == t) + if (s.patterns.tree? t).isSome then 1 else 0

/-- Whether a stored fact uses the table's storage of an atom. -/
def holdsAtom (s : Store N) (a : Atom) : Bool := s.facts.values.any (·.holdsAtom a)

def isHalted (s : Store N) : Bool := s.probe.halted

/-! ### Templates -/

def defineTemplate (s : Store N) (t : Template) : Except TemplateError (TemplateId × Store N) :=
  match s.templates.define t with
  | .error e => .error e
  | .ok (id, templates) => .ok (id, { s with templates })

/-- Removes a template that nothing refers to. -/
def undefineTemplate (s : Store N) (name : String) : Except TemplateError (Store N) :=
  match s.templates.undefine name s.templateShares with
  | .error e => .error e
  | .ok templates =>
    let gone (t : TemplateId) : Bool := s.templates.find? name == some t
    .ok { s with
      templates
      templateLists := s.templateLists.filter fun p => !gone p.1
      atoms := match s.templates.find? name with
        | some t => s.atoms.settle (.template t)
        | none => s.atoms }

/-- The default of a slot; asking a producer counts. -/
def drawDefault (s : Store N) (t : TemplateId) (position : Nat) : Option Value × Store N :=
  match (s.templates.get? t).bind (·.slot? position) with
  | none => (none, s)
  | some slot =>
    let drawn := (s.draws.lookup (t, position)).getD 0
    (slot.defaultValue? drawn,
      if slot.hasProducer then
        { s with draws := ((t, position), drawn + 1) :: s.draws.filter (·.1 != (t, position)) }
      else s)

end Store
end FactBase

import FactBase.AlphaMemory
import FactBase.Process
import FactBase.Query
import FactBase.Stats
/-! Answers of a session to its commands, as values of the domain. Views show what there is to see
of a fact, a template or a pattern tree at one moment. -/
namespace FactBase

namespace Session

/-- Why a command made no sense to the session. -/
inductive Complaint where
  | unbound (name : String)
  | noFact (index : Nat)
  | noTemplate (name : String)
  | unboundRegister
deriving DecidableEq, Repr

def Complaint.message : Complaint → String
  | .unbound name => s!"unbound {name}"
  | .noFact index => s!"no fact f-{index}"
  | .noTemplate name => s!"no template {name}"
  | .unboundRegister => "unbound register"

structure FactView where
  handle : Handle
  index : Nat
  text : String
  busy : Nat
  isGarbage : Bool
  isAsserted : Bool
  matchCount : Nat
  template : TemplateId
deriving DecidableEq, Repr

def FactView.of (h : Handle) (f : Fact) : FactView :=
  { handle := h
    index := f.index
    text := f.text
    busy := f.busy
    isGarbage := f.isGarbage
    isAsserted := f.isAsserted
    matchCount := f.matched.length
    template := f.templateId }

/-- What is known of a template's number, with the template if there is one. -/
structure TemplateView where
  id : TemplateId
  template : Option Template
  busy : Nat
  isVisible : Bool
  factCount : Nat

structure TreeView where
  template : String
  entries : List PatternEntry
  nodes : Nat
  selectors : Nat
  width : Nat
  needsReplay : Bool
deriving DecidableEq, Repr

def TreeView.of (t : PatternTree) : TreeView :=
  { template := t.template.name
    entries := t.entries
    nodes := t.nodeCount
    selectors := t.selectorCount
    width := t.width
    needsReplay := t.needsReplay }

structure NetworkView where
  patterns : Nat
  nodes : Nat
  needingReplay : List TemplateId
  /-- How many matches a locked network was given, and how many calls it refused. -/
  refusals : Option (Nat × Nat)
deriving DecidableEq, Repr

/-- The matches of an entry; no records if it has no memory. -/
structure MemoryView where
  indices : List Nat
  records : Option (List MatchRecord)
deriving DecidableEq, Repr

/-- The memory of a pattern entry, without a reading being counted. -/
def MemoryView.of (m : AlphaMemory) (e : EntryId) : MemoryView :=
  { indices := (m.matchesOf e).map (·.index)
    records := if m.hasMemory e then some (m.matchesOf e) else none }

structure FlagsView where
  isHalted : Bool
  evaluationError : Bool
  isGuarded : Bool
  factCount : Nat
deriving DecidableEq, Repr

inductive QueryResult where
  | found (any : Bool)
  | first (binding : Option Binding)
  | all (bindings : List Binding)
  | count (n : Nat)
  | failure (e : QueryError)
deriving DecidableEq, Repr

inductive Answer where
  | done
  | truth (b : Bool)
  | number (n : Nat)
  | optionalNumber (n : Option Nat)
  | text (s : String)
  | value (v : Option Value)
  /-- A value that is kept from now on. -/
  | held (v : Value)
  | handle (fact : Option Handle)
  | asserted (a : Asserted)
  | template (view : TemplateView)
  | templates (all : List (TemplateId × Template)) (current : String)
  /-- The module in use before and now. -/
  | modules (previous current : String)
  | pattern (entry : EntryId)
  | tree (view : Option TreeView)
  | network (view : NetworkView)
  | entry (template : Option TemplateId) (entry : Option PatternEntry)
  | memory (view : MemoryView)
  | records (records : Option (List MatchRecord))
  | memoryStats (memory : AlphaMemory)
  /-- The network keeps no matches. -/
  | noMemory
  | fact (view : Option FactView)
  | facts (views : List FactView)
  /-- Facts of one template. -/
  | listing (views : List FactView)
  /-- The name of a fact's template, and its values. -/
  | values (content : Option (String × List Value))
  | json (document : Option Json)
  | hashFinds (found : Option Bool)
  /-- A flag before and after it was set. -/
  | switched (previous current : Bool)
  | flags (view : FlagsView)
  | stats (s : Stats)
  | statsText (s : Stats)
  | hashIndex (size capacity resizes : Nat)
  | atomCount (installs size : Nat)
  | changes (any : Bool)
  | query (result : QueryResult) (evaluations : Nat)
  | failure (f : Failure)
  | complaint (c : Complaint)
  | broken (b : Breach)
  /-- Commands were nested too deeply. -/
  | tooDeep

/-- The message of an answer that reports a failure. -/
def Answer.failureMessage? : Answer → Option String
  | .failure f => some (f.message?.getD "")
  | .complaint c => some c.message
  | _ => none

end Session
end FactBase

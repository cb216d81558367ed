import FactBase.Session.Answer
import FactBase.Session.Command
import FactBase.Builder
import FactBase.Modifier
/-! What a session keeps beside the fact base: names, the commands of listeners, and the network
it chose. A turn is the work on one command; it may end early with its answer. -/
namespace FactBase.Session

/-! ### Names -/

/-- What names stand for. -/
abbrev Names (α : Type) := List (String × α)

namespace Names
variable {α : Type}

def unset (names : Names α) (name : String) : Names α := names.filter (·.1 != name)

def set (names : Names α) (name : String) (a : α) : Names α := (name, a) :: names.unset name

/-- Makes a name stand for what it stood for in other names, or for nothing. -/
def restore (names : Names α) (name : String) (before : Names α) : Names α :=
  match before.lookup name with
  | some a => names.set name a
  | none => names.unset name

end Names

/-! ### Networks -/

/-- The networks a session can work with. -/
inductive Network where
  | counting (n : MatchCounter)
  | remembering (m : AlphaMemory)
  | locked (n : LockedNetwork)
deriving Repr

namespace Network

instance : JoinNetwork Network where
  push given n :=
    match n with
    | .counting n => (JoinNetwork.push given n).map id .counting
    | .remembering m => (JoinNetwork.push given m).map id .remembering
    | .locked n => (JoinNetwork.push given n).map id .locked
  retract fact ids n :=
    match n with
    | .counting n => do return (← JoinNetwork.retract fact ids n).map id .counting
    | .remembering m => do return (← JoinNetwork.retract fact ids m).map id .remembering
    | .locked n => do return (← JoinNetwork.retract fact ids n).map id .locked

def memory? : Network → Option AlphaMemory
  | .remembering m => some m
  | _ => none

def locked? : Network → Option LockedNetwork
  | .locked n => some n
  | _ => none

end Network

/-! ### The host -/

/-- A listener's hooks, as commands. -/
structure Script where
  listener : String
  hooks : List (HookKind × List Command)

structure Host where
  facts : Names Handle := []
  entries : Names EntryId := []
  predicates : Names Predicate := []
  builders : Names Builder := []
  modifiers : Names Modifier := []
  held : Names Value := []
  /-- The scripts of all listeners there ever were. -/
  scripts : List (ListenerId × Script) := []
  /-- How many bindings the running query has tested. -/
  evaluations : Nat := 0

/-- What a hook could see of a fact: its index, if the fact is stored, and whether it is
asserted. -/
structure FactGlimpse where
  fact : Handle
  index : Option Nat
  isAsserted : Bool
deriving DecidableEq, Repr

/-- What a session adds to the journal. -/
inductive Remark where
  /-- A hook began. -/
  | hook (listener : String) (kind : HookKind) (facts : List FactGlimpse) (guarded : Bool)
  /-- A query's action began. -/
  | action (binding : Binding)
  /-- A hook or an action carried out a command. -/
  | answered (a : Answer)

end Session

/-- Work on a session's world. -/
abbrev Session := Process Session.Network Session.Host Session.Remark

namespace Session
variable {α ε : Type}

/-- Work on one command. -/
abbrev Turn := ExceptT Answer Session

def getHost : Session Host := do return (← get).host

def updateHost (f : Host → Host) : Session Unit := modify fun w => { w with host := f w.host }

/-- The store as it is now. -/
def store : Turn (Store Network) := show Session (Except Answer (Store Network)) from do
  return .ok (← Process.getStore)

namespace Turn

/-- The answer of a turn, however it came about. -/
def finish (t : Turn Answer) : Session Answer := do
  match ← t.run with
  | .ok a | .error a => return a

def complain (c : Complaint) : Turn α := throw (.complaint c)

def fail (f : Failure) : Turn α := throw (.failure f)

/-- Takes a result or ends the turn with its failure. -/
def orFail (failure : ε → Failure) : Except ε α → Turn α
  | .ok a => pure a
  | .error e => fail (failure e)

/-- A step of the fact base that may fail. -/
def attempt (failure : ε → Failure) (p : Session (Except ε α)) : Turn α := do
  orFail failure (← (p : Session (Except ε α)))

end Turn

/-! ### References -/

/-- What a name stands for. -/
def bound (name : String) (a : Option α) : Turn α :=
  match a with
  | some a => pure a
  | none => Turn.complain (.unbound name)

def findFact : FactRef → Turn Handle
  | .named name => do bound name ((← getHost).facts.lookup name)
  | .handle h => pure h
  | .indexed n => do
    match (← store).byIndex? n with
    | some h => return h
    | none => Turn.complain (.noFact n)

def findTemplate : TemplateRef → Turn TemplateId
  | .numbered id => pure id
  | .named name => do
    match (← store).templates.find? name with
    | some id => return id
    | none => Turn.complain (.noTemplate name)

def findEntry : EntryRef → Turn EntryId
  | .numbered id => pure id
  | .named name => do bound name ((← getHost).entries.lookup name)

/-- A fact to start from, or none. -/
def findStart : Option FactRef → Turn (Option Handle)
  | none => pure none
  | some f => some <$> findFact f

/-- Names a fact, if there is a name for it. -/
def nameFact (name : Option String) (h : Handle) : Session Unit :=
  match name with
  | none => pure ()
  | some name => updateHost fun host => { host with facts := host.facts.set name h }

end Session
end FactBase

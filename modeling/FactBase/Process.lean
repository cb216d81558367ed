import FactBase.Store.Patterns
/-! Operations that call listeners. A world is a fact base with its surroundings: `ρ` is whatever
the listeners and callers keep for themselves, and the journal takes down notices, together with
remarks of type `ν` that listeners and callers add. What a listener does is a parameter, so these
definitions hold for every behaviour of listeners. -/
namespace FactBase

/-- Why a process ended for good. -/
inductive Fault where
  | breach (breach : Breach)
  /-- Operations were nested more deeply than allowed. -/
  | nesting
deriving DecidableEq, Repr

/-- An entry of the journal. -/
inductive Entry (ν : Type) where
  | notice (notice : Notice)
  | remark (remark : ν)

structure World (N ρ ν : Type) where
  store : Store N
  host : ρ
  journal : Array (Entry ν) := #[]

/-- A computation on a world, which a fault may end. -/
abbrev Process (N ρ ν : Type) := EStateM Fault (World N ρ ν)

/-- What listeners do about events. -/
abbrev Hooks (N ρ ν : Type) := ListenerId → Event → Process N ρ ν Unit

/-- The outcome of an assert that succeeded. -/
inductive Asserted where
  | new (fact : Handle)
  /-- The fact submitted is gone; this one has the same content. -/
  | duplicate (existing : Handle)
deriving DecidableEq, Repr

namespace Asserted

def handle : Asserted → Handle
  | .new h | .duplicate h => h

def isNew : Asserted → Bool
  | .new _ => true
  | .duplicate _ => false

end Asserted

namespace Process
variable {N ρ ν α : Type}

def getStore : Process N ρ ν (Store N) := do return (← get).store

def setStore (s : Store N) : Process N ρ ν Unit := modify fun w => { w with store := s }

def updateStore (f : Store N → Store N) : Process N ρ ν Unit :=
  modify fun w => { w with store := f w.store }

def record (e : Entry ν) : Process N ρ ν Unit :=
  modify fun w => { w with journal := w.journal.push e }

def notify (n : Notice) : Process N ρ ν Unit := record (.notice n)

def notifyAll (ns : List Notice) : Process N ρ ν Unit :=
  modify fun w => { w with journal := w.journal ++ (ns.map Entry.notice).toArray }

/-- Ends the process over a broken invariant, which is reported first. -/
def breach (b : Breach) : Process N ρ ν α := do
  notify (.broken b)
  throw (.breach b)

/-- Takes the result of a step that may break an invariant. -/
def orBreach : Except Breach α → Process N ρ ν α
  | .ok a => pure a
  | .error b => breach b

/-- A step on the fact base. -/
def step (f : Store N → Except Breach (α × Store N)) : Process N ρ ν α := do
  let (a, s) ← orBreach (f (← getStore))
  setStore s
  return a

/-- A step without a result. -/
def change (f : Store N → Except Breach (Store N)) : Process N ρ ν Unit := do
  setStore (← orBreach (f (← getStore)))

/-- A step that may be declined without effect. -/
def attempt {ε : Type} (f : Store N → Except ε (α × Store N)) : Process N ρ ν (Except ε α) := do
  match f (← getStore) with
  | .error e => return .error e
  | .ok (a, s) =>
    setStore s
    return .ok a

/-- A step without a result that may be declined without effect. -/
def attemptChange {ε : Type} (f : Store N → Except ε (Store N)) :
    Process N ρ ν (Except ε Unit) :=
  attempt fun s => (f s).map ((), ·)

/-- Looks whether a halt is requested by now. -/
def pollHalt : Process N ρ ν Bool := do
  let (halted, probe) := (← getStore).probe.poll
  updateStore fun s => { s with probe }
  return halted

/-! ### Events -/

def setRunning (running : List ListenerId) : Process N ρ ν Unit :=
  updateStore fun s => { s with listeners := { s.listeners with running } }

/-- Runs the hooks of registrations in order. A listener that is running further up takes no part
in an event. -/
def callAll (hooks : Hooks N ρ ν) (e : Event) : List Registration → Process N ρ ν Unit
  | [] => pure ()
  | r :: rest => do
    let running := (← getStore).listeners.running
    unless running.contains r.id do
      setRunning (r.id :: running)
      hooks r.id e
      setRunning running
    callAll hooks e rest

/-- Tells the listeners registered by now of an event. -/
def signal (hooks : Hooks N ρ ν) (e : Event) : Process N ρ ν Unit := do
  callAll hooks e (← getStore).listeners.entries

/-! ### Assert -/

def setGuarded (guarded : Bool) : Process N ρ ν Unit := updateStore fun s => { s with guarded }

/-- Refuses an operation because the guard is held. -/
def refuse (operation : GuardedOperation) : Process N ρ ν Unit := do
  updateStore fun s =>
    { s with counters := { s.counters with guardRejections := s.counters.guardRejections + 1 } }
  notify (.refused operation)

/-- The predecessor that a position in the list of all facts stands for. -/
def predecessor (s : Store N) : Position → Except AssertError (Option Handle)
  | .tail => .ok s.global.tail
  | .head => .ok none
  | .after h => if s.isAsserted h then .ok (some h) else .error (.unknownFact h)

/-- Frees a fact whose content is asserted already. -/
def rejectDuplicate (h : Handle) : Process N ρ ν Unit := do
  change (·.free h)
  updateStore fun s =>
    { s with counters := { s.counters with duplicatesRejected := s.counters.duplicatesRejected + 1 } }

/-- Matches an asserted fact and passes the notices on. -/
def matchAsserted [JoinNetwork N] (h : Handle) : Process N ρ ν Bool := do
  let o ← step (·.matchFact h .assert)
  notifyAll o.notices
  return o.failed

/-- Attaches an unattached fact, matches it and calls the listeners. An asserted fact is returned
as it is. If duplicates are not allowed and the content is asserted already, the submitted fact is
freed and the fact that has the content is returned. -/
def assertAt [JoinNetwork N] (hooks : Hooks N ρ ν) (h : Handle) (position : Position) :
    Process N ρ ν (Except AssertError Asserted) := do
  let s ← getStore
  match s.get? h with
  | none => return .error (.unknownFact h)
  | some f =>
    if f.isGarbage then return .error (.factRetracted h)
    if f.index ≠ 0 then return .ok (.new h)
    if s.guarded then
      refuse .assert
      return .error .couldNotAssert
    match predecessor s position with
    | .error e => return .error e
    | .ok previous =>
      let hash := s.hashOf f
      match s.duplicateOf? h f hash with
      | some existing =>
        rejectDuplicate h
        return .ok (.duplicate existing)
      | none =>
        let templatePrevious := (s.listOf f.templateId).tail
        let index ← step (·.attach h none hash previous templatePrevious)
        updateStore fun s =>
          { s with counters := { s.counters with asserted := s.counters.asserted + 1 } }
        setGuarded true
        signal hooks (.beforeAssert h)
        let failed ← matchAsserted h
        setGuarded false
        signal hooks (.afterAssert h)
        change (·.maybeCollect)
        return if failed then .error (.ruleNetwork h index) else .ok (.new h)

/-- Asserts at the tail. -/
def assertFact [JoinNetwork N] (hooks : Hooks N ρ ν) (h : Handle) :
    Process N ρ ν (Except AssertError Asserted) :=
  assertAt hooks h .tail

/-- Makes and asserts an ordered fact; a fact that was not attached does not stay behind. -/
def assertOrdered [JoinNetwork N] (hooks : Hooks N ρ ν) (relation : String)
    (values : List Value) : Process N ρ ν (Except Failure Asserted) := do
  match ← step (·.createOrdered relation values) with
  | .error e => return .error (.store e)
  | .ok h =>
    match ← assertFact hooks h with
    | .ok a => return .ok a
    | .error e =>
      if ((← getStore).get? h).any (·.index == 0) then change (·.free h)
      return .error (.assert e)

/-! ### Retract -/

/-- Detaches a fact and passes the notices on. -/
def detach [JoinNetwork N] (h : Handle) : Process N ρ ν Store.Detached := do
  let d ← step (·.detach h)
  notifyAll d.notices
  return d

/-- Detaches an asserted fact, withdraws its matches and calls the listeners. Retracting garbage
does nothing. -/
def retract [JoinNetwork N] (hooks : Hooks N ρ ν) (h : Handle) :
    Process N ρ ν (Except RetractError Unit) := do
  let s ← getStore
  match s.get? h with
  | none => return .error (.unknownFact h)
  | some f =>
    if f.isGarbage then return .ok ()
    if f.index = 0 then return .error (.notAsserted h)
    if s.guarded then
      refuse .retract
      return .error .couldNotRetract
    setGuarded true
    signal hooks (.beforeRetract h)
    let d ← detach h
    setGuarded false
    signal hooks (.afterRetract h)
    change (·.maybeCollect)
    return if d.networkFailed then .error (.ruleNetwork h f.index) else .ok ()

/-- Retracts the first fact until none is left; returns how many there were. Listeners may keep
asserting facts, so the number of rounds is limited. -/
def retractAll [JoinNetwork N] (hooks : Hooks N ρ ν) : Nat → Process N ρ ν (Except RetractError Nat)
  | 0 => throw .nesting
  | rounds + 1 => do
    match (← getStore).global.head with
    | none => return .ok 0
    | some h =>
      match ← retract hooks h with
      | .error e => return .error e
      | .ok () =>
        match ← retractAll hooks rounds with
        | .error e => return .error e
        | .ok n => return .ok (n + 1)

def collectGarbage : Process N ρ ν Nat := step (·.collectGarbage)

/-- Retracts everything and collects what can be freed. Numbering starts again only if no
retracted fact is left, so that no number names two stored facts. -/
def clear [JoinNetwork N] (hooks : Hooks N ρ ν) (rounds : Nat) :
    Process N ρ ν (Except RetractError Nat) := do
  match ← retractAll hooks rounds with
  | .error e => return .error e
  | .ok n =>
    let _ ← collectGarbage
    if (← getStore).garbage.isEmpty then updateStore fun s => { s with nextIndex := 1 }
    return .ok n

/-! ### Modify -/

/-- Runs a process on whose behalf a change list lends its texts. -/
def lending (p : Process N ρ ν α) : Process N ρ ν α := do
  let depth := (← getStore).openChanges
  updateStore fun s => { s with openChanges := depth + 1 }
  let a ← p
  updateStore fun s => { s with openChanges := depth, atoms := s.atoms.settle (.changes depth) }
  return a

/-- Replaces an asserted fact by a copy with other fields, of the same index and in the same
places. If another asserted fact has the new content, the old fact goes and that one is returned. -/
def replaceFact [JoinNetwork N] (hooks : Hooks N ρ ν) (h : Handle) (f : Fact)
    (fields : List Field) : Process N ρ ν (Except ModifyError Handle) := do
  let replacement ← step (·.createWith f.templateId f.template fields)
  let s ← getStore
  let copy := { f with fields }
  let hash := s.hashOf copy
  let duplicate := s.duplicateOf? replacement copy hash
  setGuarded true
  signal hooks (.beforeModify h)
  let d ← detach h
  let (result, failed) ← match duplicate with
    | some existing => do
      rejectDuplicate replacement
      pure (existing, false)
    | none => do
      let _ ← step (·.attach replacement (some f.index) hash d.previous d.templatePrevious)
      pure (replacement, ← matchAsserted replacement)
  setGuarded false
  updateStore fun s => { s with counters := { s.counters with modified := s.counters.modified + 1 } }
  signal hooks (.afterModify h result)
  change (·.maybeCollect)
  return if d.networkFailed || failed then .error (.ruleNetwork result f.index) else .ok result

/-- Replaces slot values of an asserted fact in one step. If no value changes, nothing happens. -/
def modifyFact [JoinNetwork N] (hooks : Hooks N ρ ν) (h : Handle) (changes : List (Nat × Value)) :
    Process N ρ ν (Except ModifyError Handle) := do
  let s ← getStore
  match s.patched h changes with
  | .error e => return .error e
  | .ok (f, fields) =>
    if fields.map (·.value) = f.values then return .ok h
    if s.guarded then
      refuse .modify
      return .error .couldNotModify
    lending (replaceFact hooks h f fields)

/-- Asserts a changed copy of an asserted fact. -/
def duplicateFact [JoinNetwork N] (hooks : Hooks N ρ ν) (h : Handle)
    (changes : List (Nat × Value)) : Process N ρ ν (Except ModifyError Asserted) := do
  let s ← getStore
  match s.patched h changes with
  | .error e => return .error e
  | .ok (f, fields) =>
    if s.guarded then
      refuse .duplicate
      return .error .couldNotModify
    lending do
      let copy ← step (·.createWith f.templateId f.template fields)
      match ← assertFact hooks copy with
      | .ok a => return .ok a
      | .error (.ruleNetwork fact index) => return .error (.ruleNetwork fact index)
      | .error _ => return .error .couldNotModify

/-! ### Patterns -/

def addPattern [JoinNetwork N] (p : Pattern) (label : String) :
    Process N ρ ν (Except PatternError EntryId) := do
  let (result, notices) ← step fun s =>
    (s.addPattern p label).map fun (result, notices, s) => ((result, notices), s)
  notifyAll notices
  return result

def replayNewPatterns [JoinNetwork N] : Process N ρ ν Nat := do
  let (n, notices) ← step fun s =>
    s.replayNewPatterns.map fun (n, notices, s) => ((n, notices), s)
  notifyAll notices
  return n

end Process
end FactBase

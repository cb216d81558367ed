import FactBase.Session.Host
/-! Commands that make, assert, retract and change facts. -/
namespace FactBase.Session
open Turn
variable (hooks : Hooks Network Host Remark) (rounds : Nat)

/-- A step that may fail or break an invariant. -/
def stepOrFail {ε α : Type} (failure : ε → Failure)
    (f : Store Network → Except Breach (Except ε α × Store Network)) : Turn α :=
  attempt failure (Process.step f)

/-- Names the fact of an assert and answers with it. -/
def asserted (name : Option String) (a : Asserted) : Turn Answer := do
  nameFact name a.handle
  return .asserted a

/-- The busy count of a fact. -/
def busyCount (h : Handle) : Turn Answer := do
  return .number ((((← store).get? h).map (·.busy)).getD 0)

def findPlace : Place → Turn Position
  | .tail => pure .tail
  | .head => pure .head
  | .after f => .after <$> findFact f

/-- Asserts a new ordered fact for each of `count` integers; returns how many were new. -/
def assertRange (relation : String) : Nat → Int → Turn Nat
  | 0, _ => pure 0
  | count + 1, n => do
    let a ← attempt id (Process.assertOrdered hooks relation [.integer (.ofInt n)])
    let rest ← assertRange relation count (n + 1)
    return if a.isNew then rest + 1 else rest

/-- Sets slots of an unattached fact in order. -/
def putAll (h : Handle) : List (String × Value) → Turn Unit
  | [] => pure ()
  | (slot, v) :: rest => do
    attempt .store (Process.attemptChange (·.putSlot h slot v))
    putAll h rest

def performFact : FactCommand → Turn Answer
  | .create template name => do
    let h ← stepOrFail .store (·.createFact template)
    nameFact name h
    return .handle h
  | .createOrdered relation values name => do
    let h ← stepOrFail .store (·.createOrdered relation values)
    nameFact name h
    return .handle h
  | .put f slot v => do
    let h ← findFact f
    attempt .store (Process.attemptChange (·.putSlot h slot v))
    return .done
  | .putAt f position v => do
    let h ← findFact f
    attempt .store (Process.attemptChange (·.putSlotAt h position v))
    return .done
  | .discard f => do
    let h ← findFact f
    stepOrFail .store (·.discard h)
    return .done
  | .assert f place name => do
    let h ← findFact f
    let position ← findPlace place
    asserted name (← attempt .assert (Process.assertAt hooks h position))
  | .assertNew template slots name => do
    let h ← stepOrFail .store (·.createFact template)
    nameFact name h
    putAll h slots
    asserted name (← attempt .assert (Process.assertFact hooks h))
  | .assertOrdered relation values name => do
    asserted name (← attempt id (Process.assertOrdered hooks relation values))
  | .assertRange relation first limit => do
    return .number (← assertRange hooks relation (limit - first).toNat first)
  | .retract f => do
    let h ← findFact f
    attempt .retract (Process.retract hooks h)
    return .done
  | .retractAll => do return .number (← attempt .retract (Process.retractAll hooks rounds))
  | .clear => do return .number (← attempt .retract (Process.clear hooks rounds))
  | .modify f changes name => do
    let h ← findFact f
    let h ← attempt .modify (Process.modifyFact hooks h changes)
    nameFact name h
    return .handle h
  | .duplicate f changes name => do
    let h ← findFact f
    asserted name (← attempt .modify (Process.duplicateFact hooks h changes))
  | .retain f => do
    let h ← findFact f
    attempt .store (Process.attemptChange (·.retain h))
    busyCount h
  | .release f => do
    let h ← findFact f
    stepOrFail .store (·.release h)
    busyCount h
  | .install f => do
    let h ← findFact f
    attempt .store (Process.attemptChange (·.install h))
    busyCount h
  | .deinstall f => do
    let h ← findFact f
    stepOrFail .store (·.deinstall h)
    busyCount h
  | .collect => do return .number (← (Process.collectGarbage : Session Nat))

end FactBase.Session

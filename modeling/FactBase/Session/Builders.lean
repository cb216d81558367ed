import FactBase.Session.Host
/-! Commands on builders and modifiers. A builder goes without a name while it works; a modifier
loses its name for good when it commits or aborts. -/
namespace FactBase.Session
open Turn
variable (hooks : Hooks Network Host Remark)

/-- Names a builder. One that had the name before is given up. -/
def nameBuilder (name : String) (b : Builder) : Session Unit := do
  if let some old := (← getHost).builders.lookup name then
    Process.updateStore old.drop
  updateHost fun host => { host with builders := host.builders.set name b }

/-- Takes a builder away from its name. -/
def takeBuilder (name : String) : Turn Builder := do
  let b ← bound name ((← getHost).builders.lookup name)
  updateHost fun host => { host with builders := host.builders.unset name }
  return b

/-- Works on a builder, which gets its name back afterwards. -/
def withBuilder {α : Type} (name : String)
    (f : Builder → Session (Except BuilderError α × Builder)) : Turn α := do
  let b ← takeBuilder name
  let (result, b) ← (f b : Session _)
  nameBuilder name b
  orFail .builder result

/-- Runs on another store; the present one is as before afterwards. -/
def elsewhere {α : Type} (other : Store Network) (p : Session α) : Session α := do
  let here ← Process.getStore
  Process.setStore other
  let a ← p
  Process.setStore here
  return a

/-- A fact base apart from the session's, with the given templates as far as they are valid. -/
def otherStore (here : Store Network) (templates : List Template) : Store Network :=
  let s : Store Network := .empty {} (.remembering {})
  let s := { s with templates := { s.templates with realm := here.templates.realm + 1 } }
  templates.foldl (fun s t => ((s.defineTemplate t).map (·.2)).toOption.getD s) s

def performBuilder : BuilderCommand → Turn Answer
  | .make template name => do
    let b ← attempt .builder (Process.attempt (Builder.make template))
    nameBuilder name b
    return .text b.template.name
  | .put name slot v => do
    withBuilder name fun b =>
      match b.putSlot slot v with
      | .ok b => return (.ok (), b)
      | .error e => return (.error e, b)
    return .done
  | .isSet name slot => do
    return .truth (← withBuilder name fun b => return (.ok (b.isSet slot), b))
  | .commit name as? => do
    let a ← withBuilder name (Builder.commit hooks)
    nameFact as? a.handle
    return .asserted a
  | .abort name => do
    withBuilder name fun b => return (.ok (), b.reset)
    return .done
  | .drop name => do
    let b ← takeBuilder name
    (Process.updateStore b.drop : Session Unit)
    return .done
  | .commitElsewhere name templates => do
    let s ← store
    return .asserted (← withBuilder name fun b =>
      elsewhere (otherStore s templates) (b.commit fun _ _ => pure ()))

/-! ### Modifiers -/

def findModifier (name : String) : Turn Modifier := do
  bound name ((← getHost).modifiers.lookup name)

def nameModifier (name : String) (m : Modifier) : Session Unit :=
  updateHost fun host => { host with modifiers := host.modifiers.set name m }

/-- Takes a modifier away from its name. -/
def takeModifier (name : String) : Turn Modifier := do
  let m ← findModifier name
  updateHost fun host => { host with modifiers := host.modifiers.unset name }
  return m

def performModifier : ModifierCommand → Turn Answer
  | .make f name => do
    let h ← findFact f
    let m ← attempt .modify (Process.attempt (Modifier.make h))
    nameModifier name m
    return .handle h
  | .put name slot v => do
    let m ← findModifier name
    let m ← orFail .modify (m.putSlot (← store) slot v)
    nameModifier name m
    return .changes m.hasChanges
  | .hasChanges name => do return .truth (← findModifier name).hasChanges
  | .commit name as? => do
    let m ← takeModifier name
    let h ← attempt .modify (m.commit hooks)
    nameFact as? h
    return .handle h
  | .abort name => do
    let m ← takeModifier name
    attempt .modify m.abort
    return .done

end FactBase.Session

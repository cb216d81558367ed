import FactBase.Error
/-! Listeners around changes of the fact base. They run in descending priority, those of equal
priority in the order of registration. The "before" hooks run while the guard is held. -/
namespace FactBase

inductive Event where
  | beforeAssert (fact : Handle)
  | afterAssert (fact : Handle)
  | beforeRetract (fact : Handle)
  | afterRetract (fact : Handle)
  /-- The fact is still asserted. -/
  | beforeModify (old : Handle)
  /-- The second fact may be one that existed before, of the same content. -/
  | afterModify (old new : Handle)
deriving DecidableEq, Repr

/-- A registered listener's identity; a name registered again is another listener. -/
structure ListenerId where
  number : Nat
deriving DecidableEq, Inhabited, Repr

structure Registration where
  name : String
  priority : Int
  id : ListenerId
deriving DecidableEq, Repr

structure ListenerRegistry where
  /-- The registered listeners in the order in which they run. -/
  entries : List Registration := []
  nextId : Nat := 0
  /-- The listeners whose hooks are running, the innermost in front. -/
  running : List ListenerId := []
deriving Inhabited, Repr

namespace ListenerRegistry

def names (r : ListenerRegistry) : List String := r.entries.map (·.name)

/-- Registers a listener behind those of equal or higher priority. -/
def add (r : ListenerRegistry) (name : String) (priority : Int) :
    Except StoreError (ListenerId × ListenerRegistry) :=
  if r.names.contains name then .error (.duplicateListener name)
  else
    let id : ListenerId := ⟨r.nextId⟩
    let (ahead, behind) := r.entries.span (priority ≤ ·.priority)
    .ok (id, { r with
      entries := ahead ++ { name, priority, id } :: behind
      nextId := r.nextId + 1 })

/-- Removes a listener; tells whether there was one. -/
def remove (r : ListenerRegistry) (name : String) : Bool × ListenerRegistry :=
  (r.names.contains name, { r with entries := r.entries.filter (·.name != name) })

end ListenerRegistry
end FactBase

import FactBase.Process
/-! Modifiers collect changes to an asserted fact, which they pin, and apply them in one step. -/
namespace FactBase

structure Modifier where
  fact : Handle
  /-- The changes to apply, by slot position; a value the slot has already is no change. -/
  changes : List (Nat × Value) := []
deriving Inhabited, Repr

namespace Modifier
variable {N ρ ν : Type}

/-- A modifier of an asserted fact, whose template must not be implied. -/
def make (h : Handle) (s : Store N) : Except ModifyError (Modifier × Store N) := do
  let f ← s.asserted h
  if f.template.isImplied then .error (.impliedTemplate f.template.name)
  else match s.retain h with
    | .error _ => .error (.unknownFact h)
    | .ok s => .ok ({ fact := h }, s)

/-- Stages a change in place of an earlier one of the same slot. -/
def putSlot (m : Modifier) (s : Store N) (slot : String) (v : Value) :
    Except ModifyError Modifier :=
  match s.get? m.fact with
  | none => .error (.unknownFact m.fact)
  | some f =>
    match f.template.slotPosition? slot with
    | none => .error (.putSlot (.slotNotFound f.template.name slot))
    | some position =>
      match f.template.slot? position with
      | none => .error (.putSlot (.slotNotFound f.template.name slot))
      | some definition =>
        match definition.check v with
        | .error e => .error (.putSlot e)
        | .ok () =>
          let others := m.changes.filter (·.1 != position)
          .ok { m with changes :=
            if f.value? position = some v then others else others ++ [(position, v)] }

def hasChanges (m : Modifier) : Bool := !m.changes.isEmpty

/-- Gives back the pin. -/
def unpin (m : Modifier) : Process N ρ ν (Except ModifyError Unit) := do
  match ← Process.step (·.release m.fact) with
  | .error (.unknownFact h) => return .error (.unknownFact h)
  | .error _ => return .error (.unknownFact m.fact)
  | .ok () => return .ok ()

/-- Gives back the pin and applies the changes, if there are any. -/
def commit [JoinNetwork N] (hooks : Hooks N ρ ν) (m : Modifier) :
    Process N ρ ν (Except ModifyError Handle) := do
  match ← m.unpin with
  | .error e => return .error e
  | .ok () =>
    if m.changes.isEmpty then return .ok m.fact
    Process.modifyFact hooks m.fact m.changes

/-- Gives back the pin and drops the changes. -/
def abort (m : Modifier) : Process N ρ ν (Except ModifyError Unit) := m.unpin

end Modifier
end FactBase

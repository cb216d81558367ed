import FactBase.Process
/-! Builders collect the slot values of a new fact and assert it when they are complete. A builder
outlives its commits and keeps its template from being removed. -/
namespace FactBase

structure Builder where
  /-- The fact base the builder was made for. -/
  realm : Nat
  templateId : TemplateId
  template : Template
  /-- The values set so far, by slot position. -/
  staged : List (Option Value)
deriving Inhabited

namespace Builder
variable {N ρ ν : Type}

/-- A builder for facts of a template, which must not be implied. -/
def make (name : String) (s : Store N) : Except BuilderError (Builder × Store N) :=
  match s.templates.byName? name with
  | none => .error (.unknownTemplate name)
  | some e =>
    if e.template.isImplied then .error (.impliedTemplate name)
    else .ok (⟨s.templates.realm, e.id, e.template, e.template.slots.map fun _ => none⟩,
      { s with templates := s.templates.update e.id fun e => { e with builders := e.builders + 1 } })

/-- Gives up a builder. -/
def drop (b : Builder) (s : Store N) : Store N :=
  { s with
    templates := s.templates.update b.templateId fun e => { e with builders := e.builders - 1 } }

/-- Sets a slot that is left unset on every commit until it is set again. -/
def putSlot (b : Builder) (slot : String) (v : Value) : Except BuilderError Builder :=
  match b.template.slotPosition? slot with
  | none => .error (.putSlot (.slotNotFound b.template.name slot))
  | some position =>
    match b.template.slot? position with
    | none => .error (.putSlot (.slotNotFound b.template.name slot))
    | some definition =>
      match definition.check v with
      | .error e => .error (.putSlot e)
      | .ok () => .ok { b with staged := b.staged.set position (some v) }

def isSet (b : Builder) (slot : String) : Bool :=
  (b.template.slotPosition? slot).any fun position => (b.staged[position]?.join).isSome

/-- Forgets all values set. -/
def reset (b : Builder) : Builder := { b with staged := b.staged.map fun _ => none }

/-- Whether a fact base still has the template the builder was made from. -/
def isCurrent (b : Builder) (s : Store N) : Bool :=
  b.realm == s.templates.realm && (s.templates.get? b.templateId).isSome

/-- The fields of the fact to come: values set, and defaults for the other slots. -/
def fields (b : Builder) :
    List ((Slot × Option Value) × Nat) → Store N → Except BuilderError (List Field) × Store N
  | [], s => (.ok [], s)
  | ((_, some v), _) :: rest, s =>
    let (r, s) := fields b rest s
    (r.map (⟨v, .own⟩ :: ·), s)
  | ((slot, none), position) :: rest, s =>
    match s.defaultField b.templateId slot position with
    | (none, s) => (.error (.slotRequired b.template.name slot.name), s)
    | (some field, s) =>
      let (r, s) := fields b rest s
      (r.map (field :: ·), s)

/-- Asserts a fact of the values set and forgets them. They are kept if the guard refuses or a
required slot is unset, and forgotten if the template is not there any more. -/
def commit [JoinNetwork N] (hooks : Hooks N ρ ν) (b : Builder) :
    Process N ρ ν (Except BuilderError Asserted × Builder) := do
  let s ← Process.getStore
  if s.guarded then return (.error .couldNotAssert, b)
  if !b.isCurrent s then return (.error (.unknownTemplate b.template.name), b.reset)
  let (fields, s) := b.fields (b.template.slots.zip b.staged).zipIdx s
  Process.setStore s
  match fields with
  | .error e => return (.error e, b)
  | .ok fields =>
    let h ← Process.step (·.createWith b.templateId b.template fields)
    match ← Process.assertFact hooks h with
    | .ok a => return (.ok a, b.reset)
    | .error e => return (.error (.ofAssertError e), b.reset)

end Builder
end FactBase

import FactBase.Slot
/-! Templates: named lists of slots, each living in a module. A template of ordered facts is
implied; its fields are the members of one multifield slot. -/
namespace FactBase

/-- The module of templates that name no other. -/
def mainModule : String := "MAIN"

/-- The name of the multifield slot of an implied template. -/
def impliedSlot : String := "implied"

structure Template where
  name : String
  module : String := mainModule
  slots : List Slot := []
  isImplied : Bool := false
deriving Inhabited

namespace Template

/-- The template of ordered facts of one relation. -/
def implied (relation module : String) : Template :=
  { name := relation, module, slots := [{ name := impliedSlot, isMulti := true }],
    isImplied := true }

def arity (t : Template) : Nat := t.slots.length

def slot? (t : Template) (position : Nat) : Option Slot := t.slots[position]?

def slotPosition? (t : Template) (name : String) : Option Nat :=
  t.slots.findIdx? (·.name == name)

/-- Checks slots in order: no earlier slot of the same name, and a fixed default that the slot
itself accepts. -/
def validateSlots (template : String) (earlier : List String) :
    List Slot → Except TemplateError Unit
  | [] => .ok ()
  | s :: ss =>
    if earlier.contains s.name then .error (.duplicateSlot template s.name)
    else
      let rest := validateSlots template (s.name :: earlier) ss
      match s.default with
      | .fixed v =>
        match s.check v with
        | .error cause => .error (.invalidDefault template s.name cause)
        | .ok () => rest
      | _ => rest

def validate (t : Template) : Except TemplateError Unit := validateSlots t.name [] t.slots

end Template
end FactBase

import FactBase.Atoms
import FactBase.Template
import FactBase.Value.Json
/-! Facts: a template and one value per slot. A fact without an index was never asserted; a fact
that was retracted stays readable as garbage until it is collected. -/
namespace FactBase

/-- Where the texts of a field are stored. -/
inductive Source where
  /-- With the field alone. -/
  | own
  /-- With the default that the field was filled from. -/
  | default
  /-- With the change list that is being applied. -/
  | changes (depth : Nat)
  /-- In the atom table. -/
  | table
deriving DecidableEq, Repr

structure Field where
  value : Value
  source : Source := .own
deriving Inhabited, Repr

/-- The neighbours of a fact in a list. -/
structure Links where
  previous : Option Handle := none
  next : Option Handle := none
deriving DecidableEq, Inhabited, Repr

structure Fact where
  template : Template
  templateId : TemplateId
  fields : List Field
  /-- The number given when the fact was asserted, 0 before. -/
  index : Nat := 0
  /-- The content hash under which the fact is indexed. -/
  hash : UInt64 := 0
  /-- How many holders keep the fact from being collected; being asserted counts as one. -/
  busy : Nat := 0
  isGarbage : Bool := false
  /-- The neighbours among all asserted facts. -/
  global : Links := {}
  /-- The neighbours among the asserted facts of the template. -/
  inTemplate : Links := {}
  /-- The matches the fact answers for. -/
  matched : List MatchId := []
deriving Inhabited

namespace Fact

def values (f : Fact) : List Value := f.fields.map (·.value)

def isAsserted (f : Fact) : Bool := f.index != 0 && !f.isGarbage

/-- Whether the fact is neither asserted nor retracted. -/
def isUnattached (f : Fact) : Bool := f.index == 0 && !f.isGarbage

def value? (f : Fact) (position : Nat) : Option Value := f.values[position]?

def slotValue? (f : Fact) (slot : String) : Option Value :=
  (f.template.slotPosition? slot).bind f.value?

/-- Who besides the fact holds the texts of one of its fields. -/
def lender? (f : Fact) (field : Field) : Option Lender :=
  match field.source with
  | .default => some (.template f.templateId)
  | .changes depth => some (.changes depth)
  | .own | .table => none

/-- Whether one of the fact's fields uses the table's storage of an atom. -/
def holdsAtom (f : Fact) (a : Atom) : Bool :=
  f.fields.any fun field => field.source == .table && field.value.atoms.contains a

/-- A member list with a blank before each. -/
def spaced (vs : List Value) : String := String.join (vs.map fun v => " " ++ v.text)

/-- The written form: ordered facts as a plain list, others slot by slot. -/
def text (f : Fact) : String :=
  let body :=
    if f.template.isImplied then spaced (((f.values.head?).bind Value.members?).getD [])
    else String.join ((f.template.slots.zip f.values).map fun (s, v) =>
      match v with
      | .multifield vs => s!" ({s.name}{spaced vs})"
      | v => s!" ({s.name} {v.text})")
  s!"({f.template.name}{body})"

/-- The fact as a JSON document. -/
def toJson (f : Fact) : Json :=
  let content :=
    if f.template.isImplied then
      ("fields", ((f.values.head?).map Value.toJson).getD (.array []))
    else
      ("slots", .object ((f.template.slots.zip f.values).map fun (s, v) => (s.name, v.toJson)))
  .object [("template", .string f.template.name),
    ("index", .number (.unsigned (UInt64.ofNat f.index))), content]

end Fact
end FactBase

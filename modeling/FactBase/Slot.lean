import FactBase.Error
/-! Slot definitions: which values a slot takes and what it holds while nobody has set it. -/
namespace FactBase

/-- Conditions on the fields of a slot; an absent condition allows everything. -/
structure Constraints where
  types : Option (List ValueType) := none
  values : Option (List Value) := none
  least : Option Binary64 := none
  greatest : Option Binary64 := none
  /-- Bounds on the member count of a multifield slot. -/
  minCount : Nat := 0
  maxCount : Option Nat := none
deriving DecidableEq, Inhabited, Repr

/-- Where the value of an unset slot comes from. -/
inductive DefaultSpec where
  /-- A value made from the constraints. -/
  | derived
  | fixed (value : Value)
  /-- A producer, asked anew each time; it is told how often it was asked before. -/
  | dynamic (draw : Nat → Value)
  /-- No default: the slot has to be set. -/
  | required
deriving Inhabited

def DefaultSpec.text : DefaultSpec → String
  | .derived => "Derived"
  | .fixed value => s!"Static({value.text})"
  | .dynamic _ => "Dynamic(<fn>)"
  | .required => "None"

structure Slot where
  name : String
  /-- Whether the slot holds a multifield rather than one field. -/
  isMulti : Bool := false
  constraints : Constraints := {}
  default : DefaultSpec := .derived
deriving Inhabited

namespace Constraints

/-- Checks one field: its type, then the allowed values, then the numeric range. A NaN bound
bounds nothing. -/
def checkField (c : Constraints) (slot : String) (v : Value) : Except PutSlotError Unit :=
  if c.types.any (!·.contains v.type) then .error (.type slot v.type)
  else if c.values.any (!·.contains v) then .error (.allowedValues slot v)
  else match v.number? with
    | none => .ok ()
    | some x =>
      if c.least.any (x.compare? · == some .lt) || c.greatest.any (x.compare? · == some .gt) then
        .error (.range slot v)
      else .ok ()

/-- Checks the members of a multifield in order. -/
def checkFields (c : Constraints) (slot : String) : List Value → Except PutSlotError Unit
  | [] => .ok ()
  | v :: vs =>
    match c.checkField slot v with
    | .error e => .error e
    | .ok () => c.checkFields slot vs

/-- The type a derived default has: a symbol where symbols are allowed. -/
def preferredType (c : Constraints) : ValueType :=
  match c.types with
  | none => .symbol
  | some types => if types.contains .symbol then .symbol else types.head?.getD .symbol

/-- The first allowed value, or else the least number or the blank text of the preferred type. -/
def derivedField (c : Constraints) : Value :=
  match c.values.bind List.head? with
  | some v => v
  | none =>
    match c.preferredType with
    | .string => .string ""
    | .integer => .integer ((c.least.map Binary64.ceilInt64).getD 0)
    | .float => .float (c.least.getD .zero)
    | .symbol | .multifield => .nil

end Constraints

namespace Slot

/-- Checks a value against the slot: one field or a multifield of allowed length, and then the
constraints on each field. -/
def check (s : Slot) (v : Value) : Except PutSlotError Unit :=
  match s.isMulti, v with
  | false, .multifield _ => .error (.cardinality s.name .singleField)
  | false, v => s.constraints.checkField s.name v
  | true, .multifield vs =>
    if vs.length < s.constraints.minCount || s.constraints.maxCount.any (· < vs.length) then
      .error (.cardinality s.name (.fields s.constraints.minCount s.constraints.maxCount))
    else s.constraints.checkFields s.name vs
  | true, _ => .error (.cardinality s.name .multifield)

/-- The value of the unset slot after `draws` earlier requests; none when it is required. -/
def defaultValue? (s : Slot) (draws : Nat) : Option Value :=
  match s.default with
  | .fixed v => some v
  | .dynamic draw => some (draw draws)
  | .required => none
  | .derived =>
    if s.isMulti then
      some (.multifield (List.replicate s.constraints.minCount s.constraints.derivedField))
    else some s.constraints.derivedField

/-- Whether the default may differ from one request to the next. -/
def hasProducer (s : Slot) : Bool :=
  match s.default with
  | .dynamic _ => true
  | _ => false

/-- What a slot without a default holds until it is set. -/
def blank (s : Slot) : Value := if s.isMulti then .multifield [] else .nil

/-- Whether a default is a copy of a value in the definition, and so shares its texts. -/
def lendsDefault (s : Slot) : Bool :=
  match s.default with
  | .fixed _ | .dynamic _ => true
  | .derived => (s.constraints.values.bind List.head?).isSome
  | .required => false

end Slot
end FactBase

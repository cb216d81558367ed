import FactBase.Handle
/-! Patterns: tests on some slots of one template. An element of a slot pattern looks at one field
or, in a multifield slot, at a run of fields of any length. -/
namespace FactBase

/-- What a test looks at. -/
inductive FieldView where
  | single (value : Value)
  /-- The run of fields taken by a multifield element. -/
  | span (values : List Value)
deriving DecidableEq, Repr

/-- A test that is decided elsewhere, known by number; the label is for diagnostics. Two tests
are the same if both agree. -/
structure Predicate where
  number : Nat
  label : String
deriving DecidableEq, Inhabited, Repr

/-- The form in which a predicate is shown. -/
def Predicate.text (p : Predicate) : String := s!"Predicate({p.label})"

inductive FieldTest where
  /-- Holds of everything. -/
  | any
  | constant (value : Value)
  | notConstant (value : Value)
  | expression (predicate : Predicate)
deriving DecidableEq, Repr

/-- Whether a view shows a value: as the one field, or as the members of a multifield. -/
def FieldView.shows (v : Value) : FieldView → Bool
  | .single w => w == v
  | .span ws => v.members? == some ws

inductive Element where
  /-- Takes exactly one field. -/
  | single (test : FieldTest)
  /-- Takes a run of zero or more fields. -/
  | multi (test : FieldTest)
deriving DecidableEq, Repr

namespace Element

def test : Element → FieldTest
  | .single t | .multi t => t

def isMulti : Element → Bool
  | .single _ => false
  | .multi _ => true

end Element

structure SlotPattern where
  slot : Nat
  elements : List Element
deriving DecidableEq, Repr

structure Pattern where
  template : TemplateId
  slots : List SlotPattern
deriving DecidableEq, Repr

/-- Where a multifield element landed: `length` fields of a slot from `start` on. -/
structure Marker where
  slot : Nat
  /-- The element's place in its slot pattern. -/
  element : Nat
  start : Nat
  length : Nat
deriving DecidableEq, Inhabited, Repr

/-- Whether a match run follows an assertion or a replay of facts asserted earlier. -/
inductive MatchMode where
  /-- All nodes are visited; only entries that were replayed get matches. -/
  | assert
  /-- Only nodes and entries added since the last replay are visited. -/
  | replay
deriving DecidableEq, Repr

end FactBase

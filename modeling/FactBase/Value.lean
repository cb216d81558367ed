import FactBase.Binary64
/-! Values held by the slots of facts. A multifield is a sequence of values; the type does not
forbid nesting, callers may. Equality is equality of content, floats by their bits, so an integer
and a float of the same number are different values although `compare?` calls them equal. -/
namespace FactBase

inductive Value where
  | symbol (name : String)
  | string (text : String)
  | integer (n : Int64)
  | float (x : Binary64)
  | multifield (members : List Value)
deriving Inhabited, Repr

inductive ValueType where
  | symbol | string | integer | float | multifield
deriving DecidableEq, Repr

/-- The type's name in messages. -/
def ValueType.label : ValueType → String
  | .symbol => "SYMBOL"
  | .string => "STRING"
  | .integer => "INTEGER"
  | .float => "FLOAT"
  | .multifield => "MULTIFIELD"

/-- The type's plain name. -/
def ValueType.name : ValueType → String
  | .symbol => "symbol"
  | .string => "string"
  | .integer => "integer"
  | .float => "float"
  | .multifield => "multifield"

namespace Value

mutual
def beq : Value → Value → Bool
  | .symbol a, .symbol b => a == b
  | .string a, .string b => a == b
  | .integer a, .integer b => a == b
  | .float a, .float b => a == b
  | .multifield as, .multifield bs => beqAll as bs
  | _, _ => false

def beqAll : List Value → List Value → Bool
  | [], [] => true
  | a :: as, b :: bs => beq a b && beqAll as bs
  | _, _ => false
end

mutual
theorem eq_of_beq : (a b : Value) → beq a b = true → a = b
  | .symbol _, .symbol _, h => by simpa [beq] using h
  | .string _, .string _, h => by simpa [beq] using h
  | .integer _, .integer _, h => by simpa [beq] using h
  | .float _, .float _, h => by simpa [beq] using h
  | .multifield as, .multifield bs, h => by
    simp only [beq] at h
    rw [eq_of_beqAll as bs h]
  | .symbol _, .string _, h | .symbol _, .integer _, h | .symbol _, .float _, h
  | .symbol _, .multifield _, h | .string _, .symbol _, h | .string _, .integer _, h
  | .string _, .float _, h | .string _, .multifield _, h | .integer _, .symbol _, h
  | .integer _, .string _, h | .integer _, .float _, h | .integer _, .multifield _, h
  | .float _, .symbol _, h | .float _, .string _, h | .float _, .integer _, h
  | .float _, .multifield _, h | .multifield _, .symbol _, h | .multifield _, .string _, h
  | .multifield _, .integer _, h | .multifield _, .float _, h => by simp [beq] at h

theorem eq_of_beqAll : (as bs : List Value) → beqAll as bs = true → as = bs
  | [], [], _ => rfl
  | a :: as, b :: bs, h => by
    simp only [beqAll, Bool.and_eq_true] at h
    rw [eq_of_beq a b h.1, eq_of_beqAll as bs h.2]
  | [], _ :: _, h | _ :: _, [], h => by simp [beqAll] at h
end

mutual
theorem beq_self : (a : Value) → beq a a = true
  | .symbol _ | .string _ | .integer _ | .float _ => by simp [beq]
  | .multifield as => by simp only [beq]; exact beqAll_self as

theorem beqAll_self : (as : List Value) → beqAll as as = true
  | [] => rfl
  | a :: as => by simp only [beqAll, beq_self a, beqAll_self as, Bool.and_self]
end

theorem beq_iff (a b : Value) : beq a b = true ↔ a = b :=
  ⟨eq_of_beq a b, fun h => h ▸ beq_self a⟩

instance : DecidableEq Value := fun a b => decidable_of_iff _ (beq_iff a b)

/-- The symbol that stands for an absent value. -/
def nil : Value := .symbol "nil"

def type : Value → ValueType
  | .symbol _ => .symbol
  | .string _ => .string
  | .integer _ => .integer
  | .float _ => .float
  | .multifield _ => .multifield

def isMultifield : Value → Bool
  | .multifield _ => true
  | _ => false

/-- The members of a multifield. -/
def members? : Value → Option (List Value)
  | .multifield vs => some vs
  | _ => none

/-- The text of a symbol or a string. -/
def lexeme? : Value → Option String
  | .symbol s | .string s => some s
  | _ => none

def integer? : Value → Option Int64
  | .integer n => some n
  | _ => none

/-- A numeric value as a float; integers beyond 53 bits are rounded. -/
def number? : Value → Option Binary64
  | .integer n => some (.ofInt n.toInt)
  | .float x => some x
  | _ => none

/-- The number of fields a value takes up in a fact. -/
def fieldCount : Value → Nat
  | .multifield vs => vs.length
  | _ => 1

/-- The order of values: texts of one kind by code points, numbers numerically, integers taken
as floats when the other side is one. Everything else, multifields included, is incomparable. -/
def compare? : Value → Value → Option Ordering
  | .symbol a, .symbol b | .string a, .string b => some (compare a b)
  | .integer a, .integer b => some (compare a.toInt b.toInt)
  | .float a, .float b => a.compare? b
  | .integer a, .float b => (Binary64.ofInt a.toInt).compare? b
  | .float a, .integer b => a.compare? (.ofInt b.toInt)
  | _, _ => none

end Value
end FactBase

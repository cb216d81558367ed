import FactBase.Value
/-! Values as JSON documents, in two forms. The plain form writes `TRUE`, `FALSE` and `nil` as
the JSON constants and so forgets the difference between symbols and strings. The tagged form
names the constructor of every value and forgets nothing but the payload of non-finite floats. -/
namespace FactBase

/-- A JSON number: integers and floats are kept apart, integers by their sign's range. -/
inductive JsonNumber where
  | signed (n : Int64)
  | unsigned (n : UInt64)
  | float (x : Binary64)
deriving DecidableEq, Repr

inductive Json where
  | null
  | bool (b : Bool)
  | number (n : JsonNumber)
  | string (s : String)
  | array (items : List Json)
  | object (fields : List (String × Json))
deriving Inhabited, Repr

/-- A float as a number; there is none for infinities and NaNs. -/
def Json.ofBinary64 (x : Binary64) : Json :=
  if x.isFinite then .number (.float x) else .null

namespace Value

/-- Why a document is no value. -/
inductive JsonError where
  | nestedArray
  | object
deriving DecidableEq, Repr

def JsonError.message : JsonError → String
  | .nestedArray => "Multifield values cannot be nested"
  | .object => "JSON objects have no slot value representation"

mutual
/-- The plain form. -/
def toJson : Value → Json
  | .symbol "TRUE" => .bool true
  | .symbol "FALSE" => .bool false
  | .symbol "nil" => .null
  | .symbol s => .string s
  | .string s => .string s
  | .integer n => .number (.signed n)
  | .float x => .ofBinary64 x
  | .multifield vs => .array (toJsons vs)

def toJsons : List Value → List Json
  | [] => []
  | v :: vs => toJson v :: toJsons vs
end

/-- An unsigned number is an integer while it fits and the nearest float beyond. -/
def ofJsonNumber : JsonNumber → Value
  | .signed n => .integer n
  | .unsigned n => if n.toNat < Nat.pow 2 63 then .integer n.toInt64 else .float (.ofInt n.toNat)
  | .float x => .float x

mutual
/-- Reads the plain form. Members are read before nesting is refused, so a document with both
faults reports the first object inside. -/
def ofJson : Json → Except JsonError Value
  | .null => .ok nil
  | .bool b => .ok (.symbol (if b then "TRUE" else "FALSE"))
  | .number n => .ok (ofJsonNumber n)
  | .string s => .ok (.string s)
  | .array items => do
    let vs ← ofJsons items
    if vs.any isMultifield then .error .nestedArray else .ok (.multifield vs)
  | .object _ => .error .object

def ofJsons : List Json → Except JsonError (List Value)
  | [] => .ok []
  | j :: js => do
    let v ← ofJson j
    let vs ← ofJsons js
    .ok (v :: vs)
end

mutual
/-- The tagged form. -/
def toTaggedJson : Value → Json
  | .symbol s => .object [("Symbol", .string s)]
  | .string s => .object [("String", .string s)]
  | .integer n => .object [("Integer", .number (.signed n))]
  | .float x => .object [("Float", .ofBinary64 x)]
  | .multifield vs => .object [("Multifield", .array (toTaggedJsons vs))]

def toTaggedJsons : List Value → List Json
  | [] => []
  | v :: vs => toTaggedJson v :: toTaggedJsons vs
end

mutual
/-- Reads the tagged form; integers may stand for floats but not the other way round. -/
def ofTaggedJson? : Json → Option Value
  | .object [("Symbol", .string s)] => some (.symbol s)
  | .object [("String", .string s)] => some (.string s)
  | .object [("Integer", .number (.signed n))] => some (.integer n)
  | .object [("Integer", .number (.unsigned n))] =>
    if n.toNat < Nat.pow 2 63 then some (.integer n.toInt64) else none
  | .object [("Float", .number (.float x))] => some (.float x)
  | .object [("Float", .number (.signed n))] => some (.float (.ofInt n.toInt))
  | .object [("Float", .number (.unsigned n))] => some (.float (.ofInt n.toNat))
  | .object [("Multifield", .array items)] => (ofTaggedJsons? items).map .multifield
  | _ => none

def ofTaggedJsons? : List Json → Option (List Value)
  | [] => some []
  | j :: js => do
    let v ← ofTaggedJson? j
    let vs ← ofTaggedJsons? js
    some (v :: vs)
end

end Value
end FactBase

/-! The tree of tables that a TOML document stands for, and the rules by which it grows. A key is
given a value once. A header opens a table that did not exist or that came into being only on the
way to another header's table; dotted keys extend only what dotted keys made; tables in braces
and arrays are closed. -/
namespace FactBase.Toml

/-- How a table came into being. -/
inductive Origin where
  /-- By its own header. -/
  | header
  /-- On the way to the table of another header. -/
  | onTheWay
  /-- By a dotted key. -/
  | dotted
deriving DecidableEq, Repr

/-- What a key leads to. Floats and dates are told apart from the rest only. -/
inductive Item where
  | string (text : String)
  | integer (n : Int64)
  | float
  | bool (b : Bool)
  | datetime
  | array (items : List Item)
  /-- A table in braces. -/
  | inline (fields : List (String × Item))
  | table (origin : Origin) (fields : List (String × Item))
  /-- The tables of equal headers in double brackets, in order. -/
  | tables (list : List (List (String × Item)))
deriving Inhabited, Repr

abbrev Table := List (String × Item)

namespace Table

/-- Puts an item in place of the present one of a key. -/
def replace (t : Table) (key : String) (item : Item) : Table :=
  t.map fun p => (p.1, if p.1 == key then item else p.2)

/-- A key with a table of one value below it for each further part of a dotted key. -/
def nested : List String → String → Item → Table
  | [], key, item => [(key, item)]
  | part :: parts, key, item => [(part, .table .dotted (nested parts key item))]

/-- Gives a value to a dotted key, which is the last of its parts. -/
def assign : List String → String → Item → Table → Option Table
  | [], key, item, t => if (t.lookup key).isSome then none else some (t ++ [(key, item)])
  | part :: parts, key, item, t =>
    match t.lookup part with
    | none => some (t ++ [(part, .table .dotted (nested parts key item))])
    | some (.table origin sub) =>
      if origin = .header ∨ (parts.isEmpty ∧ origin ≠ .dotted) then none
      else (assign parts key item sub).map fun sub => t.replace part (.table origin sub)
    | some (.tables list) =>
      if parts.isEmpty then none
      else do
        let sub ← assign parts key item (← list.getLast?)
        some (t.replace part (.tables (list.dropLast ++ [sub])))
    | some _ => none

/-- Changes the table that the parts of a header lead to. Tables missing on the way are made; the
last of several tables is meant. -/
def alter (f : Table → Option Table) : List String → Table → Option Table
  | [], t => f t
  | part :: parts, t =>
    match t.lookup part with
    | none => (alter f parts []).map fun sub => t ++ [(part, .table .onTheWay sub)]
    | some (.table origin sub) =>
      (alter f parts sub).map fun sub => t.replace part (.table origin sub)
    | some (.tables list) => do
      let sub ← alter f parts (← list.getLast?)
      some (t.replace part (.tables (list.dropLast ++ [sub])))
    | some _ => none

end Table

/-- A value for a dotted key. -/
structure Assignment where
  parts : List String
  key : String
  item : Item
deriving Inhabited, Repr

/-- The part of a document under one header. -/
structure Section where
  parts : List String
  key : String
  /-- Whether the header has double brackets. -/
  repeats : Bool
  assignments : List Assignment
deriving Inhabited, Repr

namespace Table

def assignAll (assignments : List Assignment) (t : Table) : Option Table :=
  assignments.foldlM (fun t a => assign a.parts a.key a.item t) t

/-- Adds the table of a section to the table its header goes through last. -/
def open? (s : Section) (t : Table) : Option Table :=
  match s.repeats, t.lookup s.key with
  | false, none => (assignAll s.assignments []).map fun sub => t ++ [(s.key, .table .header sub)]
  | false, some (.table .onTheWay sub) =>
    (assignAll s.assignments sub).map fun sub => t.replace s.key (.table .header sub)
  | true, none => (assignAll s.assignments []).map fun sub => t ++ [(s.key, .tables [sub])]
  | true, some (.tables list) =>
    (assignAll s.assignments []).map fun sub => t.replace s.key (.tables (list ++ [sub]))
  | _, _ => none

/-- The tree of a document: the assignments before the first header, and the sections. -/
def ofSections (first : List Assignment) (sections : List Section) : Option Table := do
  let t ← assignAll first []
  sections.foldlM (fun t s => alter (open? s) s.parts t) t

/-- The table in braces that assignments of its own make. -/
def inlineOf (assignments : List Assignment) : Option Item :=
  (assignAll assignments []).map .inline

end Table
end FactBase.Toml

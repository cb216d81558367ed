import FactBase.Config
import FactBase.Toml.Reader
/-! Settings from configuration files. A file names the settings it changes; keys that are no
settings are passed over, and a setting of the wrong kind spoils the file. -/
namespace FactBase.Config

open Toml (Item Table)

def bool? : Item → Option Bool
  | .bool b => some b
  | _ => none

/-- A count is an integer that is not negative. -/
def count? : Item → Option Nat
  | .integer n => if 0 ≤ n.toInt then some n.toInt.toNat else none
  | _ => none

def text? : Item → Option String
  | .string s => some s
  | _ => none

/-- The setting of a key, or the present one if the key is missing. -/
def field {α : Type} (t : Table) (key : String) (read : Item → Option α) (present : α) :
    Option α :=
  match t.lookup key with
  | none => some present
  | some item => read item

/-- The setting at a place of a list, or the present one if the list is shorter. -/
def place {α : Type} (items : List Item) (n : Nat) (read : Item → Option α) (present : α) :
    Option α :=
  match items[n]? with
  | none => some present
  | some item => read item

/-- The logging settings: a table, or a list of level and form. A date counts as a table without
settings. -/
def withLogging (c : Config) : Item → Option Config
  | .table _ t | .inline t => do
    let logLevel ← field t "level" text? c.logLevel
    let logJson ← field t "json" bool? c.logJson
    some { c with logLevel, logJson }
  | .array items => do
    let logLevel ← place items 0 text? c.logLevel
    let logJson ← place items 1 bool? c.logJson
    some { c with logLevel, logJson }
  | .datetime => some c
  | _ => none

/-- The settings of a document over the usual ones. -/
def ofTable? (t : Table) : Option Config := do
  let c : Config := {}
  let allowDuplicates ← field t "allow_duplicates" bool? c.allowDuplicates
  let hashFloor ← field t "hash_table_floor" count? c.hashFloor
  let gcThreshold ← field t "gc_threshold" count? c.gcThreshold
  let incrementalReset ← field t "incremental_reset" bool? c.incrementalReset
  let selectorThreshold ← field t "selector_threshold" count? c.selectorThreshold
  let c := { c with
    allowDuplicates, hashFloor, gcThreshold, incrementalReset, selectorThreshold }
  field t "logging" c.withLogging c

def ofText (s : String) : Except ConfigError Config :=
  match (Table.ofText? s).bind ofTable? with
  | some c => .ok c
  | none => .error .parse

/-- A configuration file as it is found. -/
inductive File where
  | missing (path : String)
  | found (text : String)
deriving Repr

def ofFile : File → Except ConfigError Config
  | .missing path => .error (.io path)
  | .found text => ofText text

/-- The settings in force: those of a file, if one is named and exists, with overrides applied,
provided they are valid. -/
def load (file : Option File) (lookup : String → Option String) : Except ConfigError Config := do
  let c ← match file with
    | some (.found text) => ofText text
    | some (.missing _) | none => .ok {}
  let c ← c.withOverrides lookup
  c.validate
  return c

end FactBase.Config

import FactBase.Error
/-! Settings of a fact base, and the variables that override them. -/
namespace FactBase

structure Config where
  /-- Whether facts of identical content may be asserted side by side. -/
  allowDuplicates : Bool := false
  /-- The bucket count the hash index starts at and returns to. -/
  hashFloor : Nat := 16231
  /-- The number of retracted facts that starts a collection; 0 never does. -/
  gcThreshold : Nat := 64
  /-- Whether a new pattern sees the facts asserted before it right away. -/
  incrementalReset : Bool := true
  /-- The number of constant tests on one field from which on they are grouped. -/
  selectorThreshold : Nat := 3
  logLevel : String := "info"
  logJson : Bool := false
deriving DecidableEq, Inhabited, Repr

namespace Config

/-- The bucket count in use: at least one, and odd. -/
def effectiveFloor (c : Config) : Nat := if c.hashFloor % 2 = 0 then c.hashFloor + 1 else c.hashFloor

def validate (c : Config) : Except ConfigError Unit :=
  if c.hashFloor = 0 then .error (.invalid "hash_table_floor" .zeroFloor)
  else if c.selectorThreshold < 2 then .error (.invalid "selector_threshold" .lowThreshold)
  else .ok ()

/-! ### Overrides -/

/-- The blanks that may surround the text of a setting. -/
def isBlank (c : Char) : Bool :=
  let n := c.toNat
  (0x9 ≤ n && n ≤ 0xd) || n == 0x20 || n == 0x85 || n == 0xa0 || n == 0x1680
    || (0x2000 ≤ n && n ≤ 0x200a) || n == 0x2028 || n == 0x2029 || n == 0x202f || n == 0x205f
    || n == 0x3000

def trim (s : String) : List Char :=
  ((s.toList.dropWhile isBlank).reverse.dropWhile isBlank).reverse

/-- The greatest number a setting can hold. -/
def maxNumber : Nat := UInt64.size - 1

/-- Reads decimal digits after those of `n`; the first fault from the left is reported. -/
def readDigits (n : Nat) : List Char → Except NumberFault Nat
  | [] => .ok n
  | c :: cs =>
    if c.isDigit then
      let n := n * 10 + (c.toNat - '0'.toNat)
      if maxNumber < n then .error .tooLarge else readDigits n cs
    else .error .invalidDigit

/-- Reads an unsigned number; a plus sign may precede its digits. -/
def readNumber : List Char → Except NumberFault Nat
  | [] => .error .empty
  | ['+'] => .error .invalidDigit
  | '+' :: cs => readDigits 0 cs
  | cs => readDigits 0 cs

def parseBool (setting text : String) : Except ConfigError Bool :=
  if trim text = "true".toList then .ok true
  else if trim text = "false".toList then .ok false
  else .error (.invalid setting (.notBool text))

def parseNumber (setting text : String) : Except ConfigError Nat :=
  match readNumber (trim text) with
  | .ok n => .ok n
  | .error fault => .error (.invalid setting (.notNumber text fault))

/-- Replaces a setting if there is a text for it. -/
def override {α : Type} (text : Option String) (old : α) (parse : String → Except ConfigError α) :
    Except ConfigError α :=
  match text with
  | none => .ok old
  | some t => parse t

/-- Applies the overrides that a lookup of variables yields, in a fixed order. -/
def withOverrides (c : Config) (lookup : String → Option String) : Except ConfigError Config := do
  let allowDuplicates ← override (lookup "DOVETAIL_ALLOW_DUPLICATES") c.allowDuplicates
    (parseBool "allow_duplicates")
  let hashFloor ← override (lookup "DOVETAIL_HASH_TABLE_FLOOR") c.hashFloor
    (parseNumber "hash_table_floor")
  let gcThreshold ← override (lookup "DOVETAIL_GC_THRESHOLD") c.gcThreshold
    (parseNumber "gc_threshold")
  let incrementalReset ← override (lookup "DOVETAIL_INCREMENTAL_RESET") c.incrementalReset
    (parseBool "incremental_reset")
  let logLevel := (lookup "DOVETAIL_LOG_LEVEL").getD c.logLevel
  .ok { c with allowDuplicates, hashFloor, gcThreshold, incrementalReset, logLevel }

end Config
end FactBase

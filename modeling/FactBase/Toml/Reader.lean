import FactBase.Toml.Tree
import FactBase.Binary64
/-! Reading TOML documents. A reader takes a beginning of the text that is left, or declines it;
the grammar is the one of version 1.0 of the format. -/
namespace FactBase.Toml

/-- Takes characters off the front of a text. -/
abbrev Reader := StateT (List Char) Option

namespace Reader
variable {α β : Type}

/-- The text that is left. -/
def rest : Reader (List Char) := get

def peek? : Reader (Option Char) := return (← rest).head?

/-- One character of a kind. -/
def one (p : Char → Bool) : Reader Char := fun cs =>
  match cs with
  | c :: cs => if p c then some (c, cs) else none
  | [] => none

def char (c : Char) : Reader Unit := do let _ ← one (· == c)

def text (s : String) : Reader Unit := s.toList.forM char

/-- Characters of a kind, as many as there are. -/
def run (p : Char → Bool) : Reader (List Char) := fun cs => some (cs.span p)

/-- Characters of a kind, at least one. -/
def run1 (p : Char → Bool) : Reader (List Char) := do
  let cs ← run p
  if cs.isEmpty then failure else return cs

def endOfText : Reader Unit := do unless (← rest).isEmpty do failure

/-- Repeats a reader until it declines or takes nothing. -/
def manyFrom (p : Reader α) (cs : List Char) : List α × List Char :=
  match p cs with
  | none => ([], cs)
  | some (a, rest) =>
    if _h : rest.length < cs.length then
      let (as, rest) := manyFrom p rest
      (a :: as, rest)
    else ([a], rest)
termination_by cs.length

def many (p : Reader α) : Reader (List α) := fun cs => some (manyFrom p cs)

/-- One or more, with separators between. -/
def separated (separator : Reader β) (p : Reader α) : Reader (List α) := do
  let a ← p
  let as ← many (do let _ ← separator; p)
  return a :: as

end Reader

open Reader

/-! ### Blanks, line ends and comments -/

def isBlank (c : Char) : Bool := c == ' ' || c == '\t'

def blanks : Reader Unit := do let _ ← run isBlank

def newline : Reader Unit := text "\n" <|> text "\r\n"

/-- Characters that comments and texts may hold as they are. -/
def isPlain (c : Char) : Bool := c == '\t' || (0x20 ≤ c.toNat && c.toNat != 0x7f)

def comment : Reader Unit := do
  char '#'
  let _ ← run isPlain

/-- What may follow on the line of a header or an assignment. -/
def endOfLine : Reader Unit := do
  blanks
  let _ ← optional comment
  newline <|> endOfText

/-- Blanks, comments and line ends between the items of an array. -/
def gap : Reader Unit := do
  let _ ← many (one isBlank *> pure () <|> newline <|> (comment *> newline))

/-! ### Texts -/

def isHexDigit (c : Char) : Bool :=
  c.isDigit || ('a' ≤ c && c ≤ 'f') || ('A' ≤ c && c ≤ 'F')

def digitValue (c : Char) : Nat :=
  if c.isDigit then c.toNat - '0'.toNat
  else if 'a' ≤ c then c.toNat - 'a'.toNat + 10
  else c.toNat - 'A'.toNat + 10

/-- The number written by digits. -/
def digitsValue (radix : Nat) (cs : List Char) : Nat :=
  cs.foldl (fun n c => n * radix + digitValue c) 0

def exactly (n : Nat) (p : Char → Bool) : Reader (List Char) := (List.replicate n p).mapM one

/-- A character by its code point. -/
def codePoint (digits : Nat) : Reader Char := do
  let n := digitsValue 16 (← exactly digits isHexDigit)
  if n.isValidChar then return Char.ofNat n else failure

def escape : Reader Char := do
  char '\\'
  match ← one fun _ => true with
  | 'b' => return '\x08'
  | 't' => return '\t'
  | 'n' => return '\n'
  | 'f' => return '\x0c'
  | 'r' => return '\r'
  | '"' => return '"'
  | '\\' => return '\\'
  | 'u' => codePoint 4
  | 'U' => codePoint 8
  | _ => failure

def quotedText : Reader String := do
  char '"'
  let cs ← many (one (fun c => isPlain c && c != '"' && c != '\\') <|> escape)
  char '"'
  return String.ofList cs

/-- Text in single quotes, without escapes. -/
def literalText : Reader String := do
  char '\''
  let cs ← run fun c => isPlain c && c != '\''
  char '\''
  return String.ofList cs

/-- Quotes inside a text of several lines: at most two in a row. -/
def innerQuotes (quote : Char) : Reader (List Char) := do
  let cs ← run1 (· == quote)
  if cs.length ≤ 2 then return cs else failure

/-- A text between three quotes. A line end right after the first three is left out, and up to two
quotes before the last three belong to the text. -/
def longText (quote : Char) (piece : Reader (List Char)) : Reader String := do
  for _ in [0, 1, 2] do char quote
  let _ ← optional newline
  let pieces ← many (piece <|> innerQuotes quote)
  let final ← run (· == quote)
  if final.length < 3 ∨ 5 < final.length then failure
  return String.ofList (pieces.flatten ++ final.drop 3)

def lineBreak : Reader (List Char) := do
  newline
  return ['\n']

/-- A backslash at the end of a line: it and the blanks and line ends after it are left out. -/
def continuation : Reader (List Char) := do
  char '\\'
  blanks
  newline
  let _ ← many (one isBlank *> pure () <|> newline)
  return []

def longQuotedText : Reader String :=
  longText '"' (([·]) <$> one (fun c => isPlain c && c != '"' && c != '\\')
    <|> lineBreak <|> continuation <|> ([·]) <$> escape)

def longLiteralText : Reader String :=
  longText '\'' (([·]) <$> one (fun c => isPlain c && c != '\'') <|> lineBreak)

def anyText : Reader String := longQuotedText <|> quotedText <|> longLiteralText <|> literalText

/-! ### Numbers -/

/-- Digits of a kind; single underscores may stand between them. -/
def digits (p : Char → Bool) : Reader (List Char) := do
  let c ← one p
  let cs ← many (one p <|> (char '_' *> one p))
  return c :: cs

/-- A sign, or none. -/
def sign : Reader Bool := do
  match ← optional (one fun c => c == '+' || c == '-') with
  | some '-' => return true
  | _ => return false

/-- Decimal digits without a needless zero in front. -/
def decimalDigits : Reader (List Char) :=
  (do
    if (← peek?) == some '0' then failure
    digits Char.isDigit) <|> ([·]) <$> one Char.isDigit

/-- An integer in the signed 64-bit range. -/
def inRange (n : Int) : Reader Item :=
  if Int64.minValue.toInt ≤ n ∧ n ≤ Int64.maxValue.toInt then return .integer (.ofInt n)
  else failure

def radixInteger (mark : String) (radix : Nat) (p : Char → Bool) : Reader Item := do
  text mark
  inRange (digitsValue radix (← digits p))

def decimalInteger : Reader Item := do
  let negative ← sign
  let n : Int := digitsValue 10 (← decimalDigits)
  inRange (if negative then -n else n)

def integer : Reader Item :=
  radixInteger "0x" 16 isHexDigit
    <|> radixInteger "0o" 8 (fun c => '0' ≤ c && c ≤ '7')
    <|> radixInteger "0b" 2 (fun c => c == '0' || c == '1')
    <|> decimalInteger

/-- Whether `m * 10 ^ e` is within the range of floats. -/
def isRepresentable (m : Nat) (e : Int) : Bool :=
  let size := (Nat.toDigits 10 m).length + e
  if m = 0 ∨ size < 300 then true
  else if 400 < size then false
  else !(if 0 ≤ e then Binary64.ofRatio false (m * Nat.pow 10 e.toNat) 1
    else Binary64.ofRatio false m (Nat.pow 10 (-e).toNat)).isInfinite

def exponent : Reader Int := do
  let _ ← one fun c => c == 'e' || c == 'E'
  let negative ← sign
  let n : Int := digitsValue 10 (← digits Char.isDigit)
  return if negative then -n else n

/-- A number with a fraction or an exponent; a positive one must not be too large. -/
def float : Reader Item := do
  let negative ← sign
  let whole ← decimalDigits
  let fraction ← optional (char '.' *> digits Char.isDigit)
  let e ← optional exponent
  if fraction.isNone && e.isNone then failure
  let fraction := fraction.getD []
  if negative || isRepresentable (digitsValue 10 (whole ++ fraction)) (e.getD 0 - fraction.length)
  then return .float
  else failure

def specialFloat : Reader Item := do
  let _ ← sign
  text "inf" <|> text "nan"
  return .float

/-! ### Dates and times -/

/-- A number of so many digits within bounds. -/
def bounded (count least greatest : Nat) : Reader Nat := do
  let n := digitsValue 10 (← exactly count Char.isDigit)
  if least ≤ n ∧ n ≤ greatest then return n else failure

def daysIn (year month : Nat) : Nat :=
  if month = 2 then
    if year % 4 = 0 ∧ (year % 100 ≠ 0 ∨ year % 400 = 0) then 29 else 28
  else if month ∈ [4, 6, 9, 11] then 30
  else 31

def date : Reader Unit := do
  let year ← bounded 4 0 9999
  char '-'
  let month ← bounded 2 1 12
  char '-'
  let _ ← bounded 2 1 (daysIn year month)

def hourMinute : Reader Unit := do
  let _ ← bounded 2 0 23
  char ':'
  let _ ← bounded 2 0 59

/-- A time of day; the last second of a day may be a leap second. -/
def time : Reader Unit := do
  hourMinute
  char ':'
  let _ ← bounded 2 0 60
  let _ ← optional (char '.' *> run1 Char.isDigit)

def offset : Reader Unit :=
  one (fun c => c == 'Z' || c == 'z') *> pure ()
    <|> one (fun c => c == '+' || c == '-') *> hourMinute

def datetime : Reader Item :=
  (do
    date
    let _ ← optional do
      let _ ← one fun c => c == 'T' || c == 't' || c == ' '
      time
      let _ ← optional offset
    return .datetime) <|> (do time; return .datetime)

/-! ### Keys and values -/

/-- The number of levels at which arrays, tables in braces and parts of keys end. -/
def levelLimit : Nat := 80

def isKeyChar (c : Char) : Bool := c.isAlphanum || c == '_' || c == '-'

def keyPart : Reader String := do
  blanks
  let part ← quotedText <|> literalText <|> String.ofList <$> run1 isKeyChar
  blanks
  return part

/-- A dotted key: the parts before the last one, and the last one. -/
def key : Reader (List String × String) := do
  let parts ← separated (char '.') keyPart
  if levelLimit ≤ parts.length then failure
  match parts.getLast? with
  | some last => return (parts.dropLast, last)
  | none => failure

def assignment (value : Reader Item) : Reader Assignment := do
  let (parts, last) ← key
  char '='
  blanks
  return ⟨parts, last, ← value⟩

def scalar : Reader Item :=
  .string <$> anyText
    <|> datetime <|> float <|> specialFloat <|> integer
    <|> (text "true" *> pure (.bool true)) <|> (text "false" *> pure (.bool false))

/-- Values in brackets; a comma may follow the last. -/
def array (value : Reader Item) : Reader Item := do
  char '['
  let items ← optional do
    let items ← separated (char ',') (gap *> value <* gap)
    let _ ← optional (char ',')
    return items
  gap
  char ']'
  return .array (items.getD [])

/-- Assignments in braces, on one line. -/
def inline (value : Reader Item) : Reader Item := do
  char '\x7b'
  let assignments ← optional (separated (char ',') (assignment value <* blanks))
  blanks
  char '\x7d'
  match Table.inlineOf (assignments.getD []) with
  | some item => return item
  | none => failure

/-- A value with at most so many levels of brackets and braces. -/
def value : Nat → Reader Item
  | 0 => scalar
  | levels + 1 => scalar <|> array (value levels) <|> inline (value levels)

/-! ### Documents -/

def emptyLine : Reader Unit := do
  blanks
  comment *> (newline <|> endOfText) <|> newline

/-- The assignments up to the next header. -/
def assignments : Reader (List Assignment) := do
  let lines ← many ((emptyLine *> pure none) <|>
    (do
      let a ← assignment (value (levelLimit - 1))
      endOfLine
      return some a))
  return lines.reduceOption

def header : Reader (Bool × List String × String) :=
  (do
    blanks
    text "[["
    let k ← key
    text "]]"
    return (true, k)) <|>
  (do
    blanks
    char '['
    let k ← key
    char ']'
    return (false, k))

def section? : Reader Section := do
  let (repeats, parts, last) ← header
  endOfLine
  return ⟨parts, last, repeats, ← assignments⟩

def document : Reader (Option Table) := do
  let _ ← optional (char '\ufeff')
  let first ← assignments
  let sections ← many section?
  blanks
  endOfText
  return Table.ofSections first sections

/-- The tree of a document; none if the text is malformed or defines something twice. -/
def Table.ofText? (s : String) : Option Table := (document s.toList).bind (·.1)

end FactBase.Toml

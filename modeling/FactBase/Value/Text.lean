import FactBase.Value
import FactBase.Binary64.Decimal
/-! The written form of values: symbols bare, strings quoted, multifields in parentheses. -/
namespace FactBase.Value

/-- A string in quotes; quotes and backslashes in it follow a backslash. -/
def quote (s : String) : String :=
  "\"" ++ String.ofList (s.toList.flatMap fun c =>
    if c = '"' ∨ c = '\\' then ['\\', c] else [c]) ++ "\""

mutual
def text : Value → String
  | .symbol s => s
  | .string s => quote s
  | .integer n => toString n.toInt
  | .float x => x.text
  | .multifield vs => "(" ++ String.intercalate " " (texts vs) ++ ")"

def texts : List Value → List String
  | [] => []
  | v :: vs => text v :: texts vs
end

end FactBase.Value

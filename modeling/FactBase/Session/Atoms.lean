import FactBase.Session.Host
/-! Sessions with an atom table by itself. Registers hold on to values. -/
namespace FactBase.Session

/-- A value written down, or the one in a register. -/
inductive ValueSource where
  | given (v : Value)
  | register (name : String)
deriving DecidableEq, Repr

inductive TableCommand where
  | intern (v : Value) (register : Option String)
  | install (v : ValueSource) (register : Option String)
  | deinstall (v : ValueSource)
  | count (v : ValueSource)
  | drop (register : String)
  | sweep
deriving DecidableEq, Repr

inductive TableAnswer where
  | done
  | value (v : Value)
  | number (n : Nat)
  | truth (b : Bool)
  | complaint (c : Complaint)
  | broken (b : Breach)
deriving DecidableEq, Repr

/-- An atom table and the values in registers. -/
structure Desk where
  table : AtomTable := {}
  registers : Names Value := []

namespace Desk

/-- Lets go of the value in a register. -/
def clear (d : Desk) (register : String) : Desk :=
  match d.registers.lookup register with
  | none => d
  | some v => ⟨d.table.letGo v, d.registers.unset register⟩

/-- Holds a value in a register, if one is named. -/
def keep (d : Desk) (register : Option String) (v : Value) : Desk :=
  match register with
  | none => d
  | some name =>
    let d := { d with table := d.table.hold v }.clear name
    { d with registers := d.registers.set name v }

def value? (d : Desk) : ValueSource → Option Value
  | .given v => some v
  | .register name => d.registers.lookup name

/-- Works on a value; a register has to hold one. -/
def withValue (d : Desk) (source : ValueSource) (f : Value → TableAnswer × Desk) :
    TableAnswer × Desk :=
  match d.value? source with
  | some v => f v
  | none => (.complaint .unboundRegister, d)

def perform (d : Desk) : TableCommand → TableAnswer × Desk
  | .intern v register =>
    (.value v, { d with table := v.atoms.foldl (·.intern ·) d.table }.keep register v)
  | .install source register => d.withValue source fun v =>
    (.done, { d with table := d.table.install none v }.keep register v)
  | .deinstall source => d.withValue source fun v =>
    match d.table.deinstall v with
    | .ok table => (.done, { d with table })
    | .error b => (.broken b, d)
  | .count source => d.withValue source fun v => (.number (d.table.installCount v), d)
  | .drop register => (.truth (d.registers.lookup register).isSome, d.clear register)
  | .sweep =>
    let table := d.table.sweep fun _ => false
    (.number (d.table.size - table.size), { d with table })

/-- Every answer with the table after it, up to a breach. -/
def steps (d : Desk) : List TableCommand → List (TableAnswer × AtomTable)
  | [] => []
  | c :: rest =>
    match d.perform c with
    | (.broken b, d) => [(.broken b, d.table)]
    | (a, d) => (a, d.table) :: d.steps rest

end Desk
end FactBase.Session

import FactBase.Breach
import FactBase.Value
/-! The table of atoms: the texts of symbols and strings, each stored once for all facts that
hold it. An atom counts its installations. A sweep drops the atoms that are neither installed nor
held by somebody else; who else can hold the very storage of an atom is a holder that asked for
it, a template or a running change list that lent it when it was first installed, or a fact whose
field was made to use it. -/
namespace FactBase

inductive AtomKind where
  | symbol | string
deriving DecidableEq, Repr

structure Atom where
  kind : AtomKind
  text : String
deriving DecidableEq, Repr

/-- Who shares the storage of a text that a fact brings along. -/
inductive Lender where
  /-- The defaults of a template, while it is defined. -/
  | template (id : TemplateId)
  /-- The running change list at this depth of nesting. -/
  | changes (depth : Nat)
deriving DecidableEq, Repr

mutual
/-- The atoms of a value from left to right, repetitions included. -/
def Value.atoms : Value → List Atom
  | .symbol s => [⟨.symbol, s⟩]
  | .string s => [⟨.string, s⟩]
  | .integer _ | .float _ => []
  | .multifield vs => Value.allAtoms vs

def Value.allAtoms : List Value → List Atom
  | [] => []
  | v :: vs => Value.atoms v ++ Value.allAtoms vs
end

structure AtomEntry where
  atom : Atom
  installs : Nat := 0
  /-- Who lent the storage and still shares it. -/
  lender : Option Lender := none
deriving Repr

structure AtomTable where
  entries : List AtomEntry := []
  /-- Atoms held from outside, once per holder. -/
  held : List Atom := []
deriving Inhabited, Repr

namespace AtomTable

def entryOf? (t : AtomTable) (a : Atom) : Option AtomEntry := t.entries.find? (·.atom == a)

def size (t : AtomTable) : Nat := t.entries.length

def update (t : AtomTable) (a : Atom) (f : AtomEntry → AtomEntry) : AtomTable :=
  { t with entries := t.entries.map fun e => if e.atom == a then f e else e }

/-- Makes sure that an atom is in the table. -/
def intern (t : AtomTable) (a : Atom) : AtomTable :=
  if (t.entryOf? a).isSome then t else { t with entries := t.entries ++ [{ atom := a }] }

/-- Counts one more installation of an atom. A new atom takes over the storage it comes in. -/
def installAtom (t : AtomTable) (lender : Option Lender) (a : Atom) : AtomTable :=
  if (t.entryOf? a).isSome then t.update a fun e => { e with installs := e.installs + 1 }
  else { t with entries := t.entries ++ [{ atom := a, installs := 1, lender }] }

/-- Installs every atom of a value. -/
def install (t : AtomTable) (lender : Option Lender) (v : Value) : AtomTable :=
  v.atoms.foldl (·.installAtom lender) t

def deinstallAtom (t : AtomTable) (a : Atom) : Except Breach AtomTable :=
  match t.entryOf? a with
  | some { installs := _ + 1, .. } =>
    .ok (t.update a fun e => { e with installs := e.installs - 1 })
  | _ => .error (.atomNeverInstalled a.text)

/-- Takes back one installation of every atom of a value. -/
def deinstall (t : AtomTable) (v : Value) : Except Breach AtomTable :=
  v.atoms.foldlM deinstallAtom t

/-- How often a symbol or string is installed; other values never are. -/
def installCount (t : AtomTable) : Value → Nat
  | .symbol s => ((t.entryOf? ⟨.symbol, s⟩).map (·.installs)).getD 0
  | .string s => ((t.entryOf? ⟨.string, s⟩).map (·.installs)).getD 0
  | _ => 0

/-- A holder keeps every atom of a value. -/
def hold (t : AtomTable) (v : Value) : AtomTable := { t with held := v.atoms ++ t.held }

/-- A holder lets go of every atom of a value. -/
def letGo (t : AtomTable) (v : Value) : AtomTable :=
  { t with held := v.atoms.foldl (·.erase ·) t.held }

/-- A lender is gone; what it lent is now the table's alone. -/
def settle (t : AtomTable) (lender : Lender) : AtomTable :=
  { t with entries := t.entries.map fun e =>
      if e.lender == some lender then { e with lender := none } else e }

/-- Drops the atoms nobody uses; `inUse` tells which atoms stored facts hold on to. -/
def sweep (t : AtomTable) (inUse : Atom → Bool) : AtomTable :=
  { t with entries := t.entries.filter fun e =>
      0 < e.installs || e.lender.isSome || t.held.contains e.atom || inUse e.atom }

end AtomTable
end FactBase

import FactBase.Pattern.Tree
/-! The pattern trees of all templates. A template has a tree while it has patterns. -/
namespace FactBase

structure PatternNetwork where
  trees : List (TemplateId × PatternTree) := []
  /-- The template of every live entry. -/
  owners : List (EntryId × TemplateId) := []
  nextEntry : Nat := 0
  /-- The number of constant siblings from which on trees group them. -/
  threshold : Nat

namespace PatternNetwork

def tree? (n : PatternNetwork) (t : TemplateId) : Option PatternTree := n.trees.lookup t

def owner? (n : PatternNetwork) (e : EntryId) : Option TemplateId := n.owners.lookup e

/-- Puts a tree in place of the template's present one; an empty tree is dropped. -/
def setTree (n : PatternNetwork) (t : TemplateId) (tree : PatternTree) : PatternNetwork :=
  let others := n.trees.filter (·.1 != t)
  { n with trees := if tree.isEmpty then others else (t, tree) :: others }

/-- Changes the tree of a template, if it has one. -/
def updateTree (n : PatternNetwork) (t : TemplateId) (f : PatternTree → PatternTree) :
    PatternNetwork :=
  { n with trees := n.trees.map fun (id, tree) => (id, if id == t then f tree else tree) }

/-- Compiles a pattern of a template into its tree, under a new entry. -/
def add (n : PatternNetwork) (template : Template) (p : Pattern) (label : String) :
    Except PatternError (EntryId × PatternNetwork) := do
  let id : EntryId := ⟨n.nextEntry⟩
  let tree := (n.tree? p.template).getD { template, threshold := n.threshold }
  let tree ← tree.add id label p
  .ok (id, { n.setTree p.template tree with
    owners := n.owners ++ [(id, p.template)], nextEntry := n.nextEntry + 1 })

def remove (n : PatternNetwork) (id : EntryId) : Except PatternError PatternNetwork :=
  match n.owner? id with
  | none => .error (.unknownEntry id)
  | some t =>
    match n.tree? t with
    | none => .error (.unknownTemplate t)
    | some tree => do
      let tree ← tree.remove id
      .ok { n.setTree t tree with owners := n.owners.filter (·.1 != id) }

def patternCount (n : PatternNetwork) : Nat := n.owners.length

def nodeCount (n : PatternNetwork) : Nat :=
  n.trees.foldl (fun count (_, tree) => count + tree.nodeCount) 0

/-- Templates with entries that have not seen the facts before them, in ascending order. -/
def needingReplay (n : PatternNetwork) : List TemplateId :=
  ((n.trees.filter (·.2.needsReplay)).map (·.1)).mergeSort fun a b => a.number ≤ b.number

end PatternNetwork
end FactBase

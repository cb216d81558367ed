import FactBase.Pattern
import FactBase.Template
import FactBase.Error
/-! The discrimination tree of one template. A pattern becomes a path of nodes, one per element,
slot by slot; paths share nodes while their nodes look at the same field in the same way. When
enough siblings test one field against constants they move under a selector, which finds the
child for a value by one look-up. -/
namespace FactBase

/-- The field counts a multifield slot pattern can match. -/
inductive SlotLength where
  | exactly (n : Nat)
  | atLeast (n : Nat)
deriving DecidableEq, Repr

def SlotLength.accepts : SlotLength → Nat → Bool
  | .exactly n, length => length == n
  | .atLeast n, length => n ≤ length

/-- Which field a node looks at, and how its element sits among those of the slot. -/
structure Shape where
  slot : Nat
  /-- The element's place in its slot pattern. -/
  element : Nat := 0
  /-- Whether the node takes a run of fields rather than one. -/
  isMulti : Bool := false
  /-- Whether the slot is a multifield slot. -/
  inMultiSlot : Bool := false
  /-- The elements after this one in the slot that take one field. -/
  singlesAfter : Nat := 0
  /-- The elements after this one in the slot that take a run. -/
  multisAfter : Nat := 0
  /-- Checked by the first node of a multifield slot. -/
  length : Option SlotLength := none
deriving DecidableEq, Inhabited, Repr

/-- One step of a compiled pattern. -/
structure PathStep where
  shape : Shape
  test : FieldTest
deriving DecidableEq, Repr

/-- The value of a step that tests one field against a constant. -/
def PathStep.constant? (s : PathStep) : Option Value :=
  match s.shape.isMulti, s.test with
  | false, .constant v => some v
  | _, _ => none

inductive NodeTest where
  | field (test : FieldTest)
  /-- Passes a field on to the child whose constant it is. -/
  | selector
deriving DecidableEq, Repr

structure NodeHead where
  shape : Shape
  test : NodeTest
  /-- Whether every entry below has seen the facts asserted before it. -/
  initialized : Bool := false
  /-- The pattern entries that end here. -/
  entries : List EntryId := []
deriving DecidableEq, Repr

inductive PatternNode where
  | node (head : NodeHead) (children : List PatternNode)

namespace PatternNode

def head : PatternNode → NodeHead
  | .node head _ => head

def children : PatternNode → List PatternNode
  | .node _ children => children

def isSelector (n : PatternNode) : Bool := n.head.test == .selector

/-- Whether a node is the test of one step. -/
def performs (n : PatternNode) (s : PathStep) : Bool :=
  n.head.shape == s.shape && n.head.test == .field s.test

/-- Whether a node selects among the constants of a shape. -/
def selects (n : PatternNode) (shape : Shape) : Bool := n.head.shape == shape && n.isSelector

/-- Whether a node tests a field of a shape against some constant. -/
def isConstant (n : PatternNode) (shape : Shape) : Bool :=
  n.head.shape == shape && match n.head.test with
    | .field (.constant _) => true
    | _ => false

/-- Whether a node tests its field against this constant. -/
def isCase (n : PatternNode) (v : Value) : Bool := n.head.test == .field (.constant v)

end PatternNode

structure PatternEntry where
  id : EntryId
  label : String
  /-- Whether the facts asserted before the entry were replayed into it. -/
  initialized : Bool := false
deriving DecidableEq, Repr

structure PatternTree where
  template : Template
  roots : List PatternNode := []
  /-- Entries of patterns that constrain no slot. -/
  rootEntries : List EntryId := []
  /-- The live entries in the order of their numbers. -/
  entries : List PatternEntry := []
  /-- The number of constant siblings from which on they are grouped. -/
  threshold : Nat
  /-- Facts that a halted replay has dealt with already. -/
  replayed : List Handle := []

namespace PatternTree

/-! ### Compiling patterns -/

/-- The steps of a multifield slot's elements from `position` on. -/
def multiSteps (slot : Nat) (length : SlotLength) : Nat → List Element → List PathStep
  | _, [] => []
  | position, e :: rest =>
    let multis := rest.countP (·.isMulti)
    { shape :=
        { slot, element := position, isMulti := e.isMulti, inMultiSlot := true,
          singlesAfter := rest.length - multis, multisAfter := multis,
          length := if position = 0 then some length else none },
      test := e.test } :: multiSteps slot length (position + 1) rest

/-- The field counts that a sequence of elements can take. -/
def elementLength (elements : List Element) : SlotLength :=
  let singles := elements.countP (!·.isMulti)
  if singles = elements.length then .exactly singles else .atLeast singles

/-- The steps of one slot pattern. -/
def slotSteps (definition : Slot) (p : SlotPattern) : Except PatternError (List PathStep) :=
  if definition.isMulti then
    if p.elements.isEmpty then .error (.emptySlotPattern definition.name)
    else .ok (multiSteps p.slot (elementLength p.elements) 0 p.elements)
  else match p.elements with
    | [.single test] => .ok [{ shape := { slot := p.slot }, test }]
    | elements => .error (.singleSlotShape definition.name elements.length)

/-- The steps of slot patterns that are in the order of their slots. -/
def stepsFrom (t : Template) (previous : Option Nat) :
    List SlotPattern → Except PatternError (List PathStep)
  | [] => .ok []
  | p :: ps =>
    match t.slot? p.slot with
    | none => .error (.slotOutOfRange p.slot t.arity)
    | some definition =>
      if previous == some p.slot then .error (.duplicateSlot definition.name)
      else do
        let steps ← slotSteps definition p
        let rest ← stepsFrom t (some p.slot) ps
        .ok (steps ++ rest)

/-- The path of a pattern: its elements in the order of slots. -/
def compile (t : Template) (p : Pattern) : Except PatternError (List PathStep) :=
  stepsFrom t none (p.slots.mergeSort fun a b => a.slot ≤ b.slot)

/-! ### Adding and removing entries -/

/-- Moves the constant tests of a shape under a selector in place of the first of them, once
there are enough. -/
def groupConstants (threshold : Nat) (shape : Shape) (siblings : List PatternNode) :
    List PatternNode :=
  let constants := siblings.filter (·.isConstant shape)
  if constants.length < threshold then siblings
  else
    let head : NodeHead :=
      { shape, test := .selector, initialized := constants.all (·.head.initialized) }
    let before := siblings.takeWhile (!·.isConstant shape)
    let after := (siblings.dropWhile (!·.isConstant shape)).filter (!·.isConstant shape)
    before ++ .node head constants :: after

/-- Changes the first element that satisfies a condition. -/
def modifyFirst {α : Type} (p : α → Bool) (f : α → α) : List α → List α
  | [] => []
  | x :: xs => if p x then f x :: xs else x :: modifyFirst p f xs

/-- Leads an entry along a path below siblings, sharing nodes where they exist. All nodes on the
path have to be visited by the next replay. -/
def insertPath (threshold : Nat) (entry : EntryId) :
    List PathStep → List PatternNode → List PatternNode
  | [], siblings => siblings
  | step :: rest, siblings =>
    let descend : PatternNode → PatternNode := fun n =>
      .node
        { n.head with
          initialized := false
          entries := if rest.isEmpty then n.head.entries ++ [entry] else n.head.entries }
        (insertPath threshold entry rest n.children)
    let leaf := descend (.node { shape := step.shape, test := .field step.test } [])
    match step.constant? with
    | some v =>
      if siblings.any (·.selects step.shape) then
        modifyFirst (·.selects step.shape) (fun n =>
          .node { n.head with initialized := false }
            (if n.children.any (·.isCase v) then modifyFirst (·.isCase v) descend n.children
              else n.children ++ [leaf])) siblings
      else if siblings.any (·.performs step) then modifyFirst (·.performs step) descend siblings
      else groupConstants threshold step.shape (siblings ++ [leaf])
    | none =>
      if siblings.any (·.performs step) then modifyFirst (·.performs step) descend siblings
      else siblings ++ [leaf]

/-- Compiles a pattern into the tree, ending at a new entry. -/
def add (t : PatternTree) (id : EntryId) (label : String) (p : Pattern) :
    Except PatternError PatternTree := do
  let path ← compile t.template p
  .ok { t with
    roots := insertPath t.threshold id path t.roots
    rootEntries := if path.isEmpty then t.rootEntries ++ [id] else t.rootEntries
    entries := t.entries ++ [{ id, label }] }

mutual
/-- Takes an entry out of a node and what is below it; a node left without entries and children
goes too. -/
def prune (id : EntryId) : PatternNode → Option PatternNode
  | .node head children =>
    let entries := head.entries.filter (· != id)
    let rest := pruneAll id children
    if entries.isEmpty && rest.isEmpty then none else some (.node { head with entries } rest)

def pruneAll (id : EntryId) : List PatternNode → List PatternNode
  | [] => []
  | n :: ns =>
    match prune id n with
    | none => pruneAll id ns
    | some n => n :: pruneAll id ns
end

/-- Removes an entry with the nodes only it used. -/
def remove (t : PatternTree) (id : EntryId) : Except PatternError PatternTree :=
  if t.entries.any (·.id == id) then
    .ok { t with
      roots := pruneAll id t.roots
      rootEntries := t.rootEntries.filter (· != id)
      entries := t.entries.filter (·.id != id) }
  else .error (.unknownEntry id)

/-! ### Replays -/

mutual
def initializeNode : PatternNode → PatternNode
  | .node head children => .node { head with initialized := true } (initializeNodes children)

def initializeNodes : List PatternNode → List PatternNode
  | [] => []
  | n :: ns => initializeNode n :: initializeNodes ns
end

/-- Takes note that all facts have been replayed into all entries. -/
def markInitialized (t : PatternTree) : PatternTree :=
  { t with
    roots := initializeNodes t.roots
    entries := t.entries.map fun e => { e with initialized := true }
    replayed := [] }

def recordReplayed (t : PatternTree) (fact : Handle) : PatternTree :=
  { t with replayed := fact :: t.replayed }

def isReplayed (t : PatternTree) (fact : Handle) : Bool := t.replayed.contains fact

def needsReplay (t : PatternTree) : Bool := t.entries.any (!·.initialized)

/-! ### Looking things up -/

def entryOf? (t : PatternTree) (id : EntryId) : Option PatternEntry :=
  t.entries.find? (·.id == id)

def isEmpty (t : PatternTree) : Bool := t.entries.isEmpty

mutual
/-- The entries at and below a node. -/
def entriesBelow : PatternNode → List EntryId
  | .node head children => head.entries ++ entriesBelowAll children

def entriesBelowAll : List PatternNode → List EntryId
  | [] => []
  | n :: ns => entriesBelow n ++ entriesBelowAll ns
end

/-- The labels of all patterns that lead through a node, sorted. -/
def reachableLabels (t : PatternTree) (n : PatternNode) : List String :=
  ((entriesBelow n).filterMap fun id => (t.entryOf? id).map (·.label)).mergeSort (· ≤ ·)

mutual
/-- The number of nodes that satisfy a condition. -/
def countNode (p : PatternNode → Bool) : PatternNode → Nat
  | .node head children => (if p (.node head children) then 1 else 0) + countNodes p children

def countNodes (p : PatternNode → Bool) : List PatternNode → Nat
  | [] => 0
  | n :: ns => countNode p n + countNodes p ns
end

def nodeCount (t : PatternTree) : Nat := countNodes (fun _ => true) t.roots

def selectorCount (t : PatternTree) : Nat := countNodes (·.isSelector) t.roots

/-- The nodes directly under the root, selectors included. -/
def width (t : PatternTree) : Nat := t.roots.length

end PatternTree
end FactBase

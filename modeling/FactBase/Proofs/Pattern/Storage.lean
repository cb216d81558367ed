import FactBase.Proofs.Pattern.Calls

/-!
# A pattern tree in numbered slots

The nodes of a tree are kept in a row of slots and refer to each other by the numbers of their slots.
A slot that was given up is used again for the next node. An operation that comes upon a reference to
an empty slot ends with it.
-/

namespace FactBase

/-- The number of the slot that a node is kept in. -/
abbrev NodeId := Nat

inductive StoredTest where
  | field (test : FieldTest)
  /-- Which child stands for which value. -/
  | selector (table : List (Value × NodeId))
deriving DecidableEq

namespace StoredTest

def toTest : StoredTest → NodeTest
  | .field test => .field test
  | .selector _ => .selector

/-- A table has one row for a value; a new one takes the place of the old one. -/
def insert (v : Value) (child : NodeId) : StoredTest → StoredTest
  | .selector table => .selector (table.filter (·.1 != v) ++ [(v, child)])
  | .field test => .field test

def erase (child : NodeId) : StoredTest → StoredTest
  | .selector table => .selector (table.filter (·.2 != child))
  | .field test => .field test

def lookup (v : Value) : StoredTest → Option NodeId
  | .selector table => table.lookup v
  | .field _ => none

end StoredTest

structure StoredNode where
  shape : Shape
  test : StoredTest
  initialized : Bool := false
  /-- The pattern entries that end here. -/
  entries : List EntryId := []
  parent : Option NodeId := none
  children : List NodeId := []
deriving DecidableEq

namespace StoredNode

/-- What a node is without its place. -/
def head (n : StoredNode) : NodeHead := ⟨n.shape, n.test.toTest, n.initialized, n.entries⟩

/-- Whether a node selects among the constants of a shape. -/
def selects (n : StoredNode) (shape : Shape) : Bool :=
  n.shape == shape && n.test.toTest == .selector

/-- Whether a node is the test of one step. -/
def performs (n : StoredNode) (step : PathStep) : Bool :=
  n.shape == step.shape && n.test.toTest == .field step.test

/-- The constant that a node tests a field of a shape against. -/
def constantOf? (n : StoredNode) (shape : Shape) : Option Value :=
  if n.shape = shape then
    match n.test with
    | .field (.constant v) => some v
    | _ => none
  else none

/-- A child more, in the table of a selector under a value. -/
def link (v : Value) (child : NodeId) (n : StoredNode) : StoredNode :=
  { n with children := n.children ++ [child], test := n.test.insert v child }

/-- A child less, in the table of a selector too. -/
def unlink (child : NodeId) (n : StoredNode) : StoredNode :=
  { n with children := n.children.filter (· != child), test := n.test.erase child }

end StoredNode

structure NodeStore where
  slots : Array (Option StoredNode) := #[]
  /-- The slots that were given up, the last one first. -/
  free : List NodeId := []
  /-- The nodes directly under the root. -/
  roots : List NodeId := []

namespace NodeStore

def get? (s : NodeStore) (id : NodeId) : Option StoredNode := (s.slots[id]?).join

/-- Follows a reference. -/
def node (s : NodeStore) (id : NodeId) : Except NodeId StoredNode :=
  match s.get? id with
  | some n => .ok n
  | none => .error id

def modify (s : NodeStore) (id : NodeId) (f : StoredNode → StoredNode) :
    Except NodeId NodeStore := do
  let n ← s.node id
  .ok { s with slots := s.slots.setIfInBounds id (some (f n)) }

/-- Takes the slot that was given up last, or a new one. -/
def alloc (s : NodeStore) (n : StoredNode) : NodeId × NodeStore :=
  match s.free with
  | id :: free => (id, { s with slots := s.slots.setIfInBounds id (some n), free })
  | [] => (s.slots.size, { s with slots := s.slots.push (some n) })

def release (s : NodeStore) (id : NodeId) : NodeStore :=
  { s with slots := s.slots.setIfInBounds id none, free := id :: s.free }

/-- The nodes below a node, or below the root. -/
def childrenOf (s : NodeStore) : Option NodeId → Except NodeId (List NodeId)
  | none => .ok s.roots
  | some id => do
    let n ← s.node id
    .ok n.children

def setChildren (s : NodeStore) (parent : Option NodeId) (f : List NodeId → List NodeId) :
    Except NodeId NodeStore :=
  match parent with
  | none => .ok { s with roots := f s.roots }
  | some id => s.modify id fun n => { n with children := f n.children }

/-- The first of some nodes that satisfies a condition. -/
def find (s : NodeStore) (p : StoredNode → Bool) : List NodeId → Except NodeId (Option NodeId)
  | [] => .ok none
  | id :: ids => do
    let n ← s.node id
    if p n then .ok (some id) else s.find p ids

/-! ### Adding nodes -/

/-- A node that tests a field of a shape against a constant. -/
structure Constant where
  id : NodeId
  value : Value
  initialized : Bool

def constants (s : NodeStore) (shape : Shape) : List NodeId → Except NodeId (List Constant)
  | [] => .ok []
  | id :: ids => do
    let n ← s.node id
    let rest ← s.constants shape ids
    match n.constantOf? shape with
    | some v => .ok (⟨id, v, n.initialized⟩ :: rest)
    | none => .ok rest

def reparent (selector : NodeId) (s : NodeStore) : List Constant → Except NodeId NodeStore
  | [] => .ok s
  | c :: cs => do
    let s ← s.modify c.id fun n => { n with parent := some selector }
    s.reparent selector cs

/-- Puts a selector in place of the first of the nodes it groups, and takes out the others. -/
def regroup (grouped : List NodeId) (selector : NodeId) (children : List NodeId) : List NodeId :=
  let children :=
    match children.findIdx? (grouped.contains ·) with
    | some first => children.set first selector
    | none => children
  children.filter (!grouped.contains ·)

/-- Moves the constant tests of a shape under a selector once there are enough of them. -/
def groupConstants (threshold : Nat) (s : NodeStore) (parent : Option NodeId) (shape : Shape) :
    Except NodeId NodeStore := do
  let constants ← s.constants shape (← s.childrenOf parent)
  if constants.length < threshold then .ok s
  else
    let (selector, s) := s.alloc { shape, test := .selector [], parent }
    let s ← s.reparent selector constants
    let s ← s.modify selector fun n =>
      { n with
        children := constants.map (·.id)
        test := constants.foldl (fun test c => test.insert c.value c.id) (.selector [])
        initialized := constants.all (·.initialized) }
    s.setChildren parent (regroup (constants.map (·.id)) selector)

/-- The selector for a constant step, if there is one among siblings. -/
def selectorFor (s : NodeStore) (step : PathStep) (siblings : List NodeId) :
    Except NodeId (Option (Value × NodeId)) :=
  match step.constant? with
  | none => .ok none
  | some v => do
    let selector ← s.find (·.selects step.shape) siblings
    .ok (selector.map (v, ·))

/-- The node of a step below a parent, a new one if there is none. -/
def findOrInsert (threshold : Nat) (s : NodeStore) (parent : Option NodeId) (step : PathStep) :
    Except NodeId (NodeId × NodeStore) := do
  let siblings ← s.childrenOf parent
  match ← s.selectorFor step siblings with
  | some (v, selector) =>
    let n ← s.node selector
    match n.test.lookup v with
    | some child => .ok (child, s)
    | none =>
      let (child, s) := s.alloc
        { shape := step.shape, test := .field step.test, parent := some selector }
      let s ← s.modify selector (·.link v child)
      .ok (child, s)
  | none =>
    match ← s.find (·.performs step) siblings with
    | some existing => .ok (existing, s)
    | none =>
      let (child, s) := s.alloc { shape := step.shape, test := .field step.test, parent }
      let s ← s.setChildren parent (· ++ [child])
      if step.constant?.isSome then
        let s ← s.groupConstants threshold parent step.shape
        .ok (child, s)
      else .ok (child, s)

/-- Leads a path down from a parent, to the node where it ends. -/
def descend (threshold : Nat) (s : NodeStore) (parent : Option NodeId) :
    List PathStep → Except NodeId (Option NodeId × NodeStore)
  | [] => .ok (parent, s)
  | step :: rest => do
    let (id, s) ← s.findOrInsert threshold parent step
    s.descend threshold (some id) rest

/-- Takes back the flags from a node upwards, over no more nodes than there are slots. -/
def unflag (s : NodeStore) : Nat → Option NodeId → Except NodeId NodeStore
  | _, none => .ok s
  | 0, some id => .error id
  | slots + 1, some id => do
    let n ← s.node id
    let s ← s.modify id fun n => { n with initialized := false }
    s.unflag slots n.parent

/-! ### Removing nodes -/

def detach (s : NodeStore) (id : NodeId) : Option NodeId → Except NodeId NodeStore
  | none => .ok { s with roots := s.roots.filter (· != id) }
  | some parent => s.modify parent (·.unlink id)

/-- Gives up nodes from one upwards as long as they lead nowhere. -/
def pruneFrom (s : NodeStore) : Nat → Option NodeId → Except NodeId NodeStore
  | _, none => .ok s
  | 0, some id => .error id
  | slots + 1, some id => do
    let n ← s.node id
    if n.entries.isEmpty && n.children.isEmpty then
      let s ← s.detach id n.parent
      (s.release id).pruneFrom slots n.parent
    else .ok s

/-! ### Reading the tree -/

/-- The node in a slot with all that is below it, over no more levels than there are slots. -/
def read (s : NodeStore) : Nat → NodeId → Except NodeId PatternNode
  | 0, id => .error id
  | slots + 1, id => do
    let n ← s.node id
    let children ← n.children.mapM (s.read slots)
    .ok (.node n.head children)

/-- The steps from the root to a node, selectors left out. -/
def stepsTo (s : NodeStore) : Nat → Option NodeId → Except NodeId (List PathStep)
  | _, none => .ok []
  | 0, some id => .error id
  | slots + 1, some id => do
    let n ← s.node id
    let before ← s.stepsTo slots n.parent
    match n.test with
    | .field test => .ok (before ++ [⟨n.shape, test⟩])
    | .selector _ => .ok before

end NodeStore

structure StoredEntry where
  id : EntryId
  label : String
  initialized : Bool := false
  /-- Where the pattern ends; patterns that constrain no slot end at the root. -/
  node : Option NodeId
deriving DecidableEq

/-- An entry without its place. -/
def StoredEntry.toEntry (e : StoredEntry) : PatternEntry := ⟨e.id, e.label, e.initialized⟩

/-- A pattern tree with its nodes in slots. -/
structure StoredTree where
  template : Template
  store : NodeStore := {}
  rootEntries : List EntryId := []
  entries : List StoredEntry := []
  threshold : Nat
  replayed : List Handle := []

namespace StoredTree

/-- Leads an entry along a path; the nodes on it have to be visited by the next replay. -/
def plant (t : StoredTree) (id : EntryId) (label : String) (path : List PathStep) :
    Except NodeId StoredTree := do
  let (node, store) ← t.store.descend t.threshold none path
  let entries := t.entries ++ [{ id, label, node }]
  match node with
  | none => .ok { t with store, entries, rootEntries := t.rootEntries ++ [id] }
  | some place =>
    let store ← store.modify place fun n => { n with entries := n.entries ++ [id] }
    let store ← store.unflag store.slots.size node
    .ok { t with store, entries }

/-- Takes an entry out of its node, with the nodes that no longer lead anywhere. -/
def uproot (t : StoredTree) (e : StoredEntry) : Except NodeId StoredTree := do
  let entries := t.entries.filter (·.id != e.id)
  match e.node with
  | none => .ok { t with entries, rootEntries := t.rootEntries.filter (· != e.id) }
  | some place =>
    let store ← t.store.modify place fun n => { n with entries := n.entries.filter (· != e.id) }
    let store ← store.pruneFrom store.slots.size (some place)
    .ok { t with store, entries }

def markInitialized (t : StoredTree) : StoredTree :=
  { t with
    store := { t.store with
      slots := t.store.slots.map (·.map fun n => { n with initialized := true }) }
    entries := t.entries.map fun e => { e with initialized := true }
    replayed := [] }

/-- A call that is refused leaves the tree as it is. -/
def perform (t : StoredTree) : TreeCall → Except NodeId StoredTree
  | .add id label p =>
    match PatternTree.compile t.template p with
    | .ok path => t.plant id label path
    | .error _ => .ok t
  | .remove id =>
    match t.entries.find? (·.id == id) with
    | some e => t.uproot e
    | none => .ok t
  | .mark => .ok t.markInitialized
  | .record fact => .ok { t with replayed := fact :: t.replayed }

def play (t : StoredTree) : List TreeCall → Except NodeId StoredTree
  | [] => .ok t
  | call :: calls => do
    let t ← t.perform call
    t.play calls

/-- The tree that the slots stand for. -/
def toTree (t : StoredTree) : Except NodeId PatternTree := do
  let roots ← t.store.roots.mapM (t.store.read t.store.slots.size)
  .ok
    { template := t.template
      roots
      rootEntries := t.rootEntries
      entries := t.entries.map (·.toEntry)
      threshold := t.threshold
      replayed := t.replayed }

end StoredTree

end FactBase

import FactBase.Proofs.Pattern.Storage
import FactBase.Proofs.Basic
import Mathlib.Data.List.Perm.Subperm

/-!
# Nodes and their slots

A tree whose nodes carry the numbers of their slots says in full what the slots hold: one row for each
node, with the number of its parent and those of its children. What an operation does to the slots is
said of these rows.
-/

namespace FactBase

/-- A node of a tree with the number of its slot. -/
inductive PlacedNode where
  | node (id : NodeId) (head : NodeHead) (children : List PlacedNode)

/-- What a slot holds. -/
abbrev SlotRow := NodeId × StoredNode

namespace PlacedNode

def id : PlacedNode → NodeId
  | .node id _ _ => id

def head : PlacedNode → NodeHead
  | .node _ head _ => head

def children : PlacedNode → List PlacedNode
  | .node _ _ children => children

theorem induction {P : PlacedNode → Prop}
    (step : ∀ id head children, (∀ c ∈ children, P c) → P (.node id head children)) : ∀ c, P c
  | .node id head children => step id head children fun c _ => induction step c
termination_by c => c
decreasing_by
  have := List.sizeOf_lt_of_mem ‹c ∈ children›
  simp only [node.sizeOf_spec]
  omega

mutual
/-- The node without numbers. -/
def tree : PlacedNode → PatternNode
  | .node _ head children => .node head (trees children)

def trees : List PlacedNode → List PatternNode
  | [] => []
  | c :: cs => tree c :: trees cs
end

/-- The constant that a node tests its field against. -/
def constant? (c : PlacedNode) : Option Value :=
  match c.head.test with
  | .field (.constant v) => some v
  | _ => none

/-- Which of some nodes stands for which value. -/
def tableOf (cs : List PlacedNode) : List (Value × NodeId) :=
  cs.filterMap fun c => c.constant?.map (·, c.id)

def storedTest (test : NodeTest) (children : List PlacedNode) : StoredTest :=
  match test with
  | .field test => .field test
  | .selector => .selector (tableOf children)

/-- How a node is kept that has these below it. -/
def stored (parent : Option NodeId) (head : NodeHead) (children : List PlacedNode) : StoredNode :=
  { shape := head.shape
    test := storedTest head.test children
    initialized := head.initialized
    entries := head.entries
    parent
    children := children.map id }

mutual
/-- What the slots hold of a node and all that is below it. -/
def rows (parent : Option NodeId) : PlacedNode → List SlotRow
  | .node id head children => (id, stored parent head children) :: rowsAll (some id) children

def rowsAll (parent : Option NodeId) : List PlacedNode → List SlotRow
  | [] => []
  | c :: cs => rows parent c ++ rowsAll parent cs
end

variable {c : PlacedNode} {cs ds : List PlacedNode} {parent : Option NodeId}

@[simp] theorem tree_node (id : NodeId) (head : NodeHead) (children : List PlacedNode) :
    tree (.node id head children) = .node head (trees children) := by rw [tree]

theorem trees_eq_map (cs : List PlacedNode) : trees cs = cs.map tree := by
  induction cs with
  | nil => rw [trees, List.map_nil]
  | cons c cs ih => rw [trees, ih, List.map_cons]

theorem tree_mem (inside : c ∈ cs) : c.tree ∈ trees cs :=
  trees_eq_map cs ▸ List.mem_map_of_mem inside

@[simp] theorem trees_append (cs ds : List PlacedNode) : trees (cs ++ ds) = trees cs ++ trees ds := by
  simp only [trees_eq_map, List.map_append]

@[simp] theorem trees_cons (c : PlacedNode) (cs : List PlacedNode) :
    trees (c :: cs) = c.tree :: trees cs := by rw [trees]

@[simp] theorem trees_nil : trees [] = [] := by rw [trees]

@[simp] theorem head_tree (c : PlacedNode) : c.tree.head = c.head := by
  obtain ⟨id, head, children⟩ := c
  rw [tree]
  rfl

theorem children_tree (c : PlacedNode) : c.tree.children = trees c.children := by
  obtain ⟨id, head, children⟩ := c
  rw [tree]
  rfl

theorem rows_node (parent : Option NodeId) (id : NodeId) (head : NodeHead)
    (children : List PlacedNode) : rows parent (.node id head children) =
      (id, stored parent head children) :: rowsAll (some id) children := by rw [rows]

theorem rows_eq (parent : Option NodeId) (c : PlacedNode) : rows parent c =
    (c.id, stored parent c.head c.children) :: rowsAll (some c.id) c.children := by
  obtain ⟨id, head, children⟩ := c
  rw [rows]
  rfl

@[simp] theorem rowsAll_nil (parent : Option NodeId) : rowsAll parent [] = [] := by rw [rowsAll]

@[simp] theorem rowsAll_cons (parent : Option NodeId) (c : PlacedNode) (cs : List PlacedNode) :
    rowsAll parent (c :: cs) = rows parent c ++ rowsAll parent cs := by rw [rowsAll]

theorem rowsAll_eq_flatMap (parent : Option NodeId) (cs : List PlacedNode) :
    rowsAll parent cs = cs.flatMap (rows parent) := by
  induction cs with
  | nil => rw [rowsAll_nil, List.flatMap_nil]
  | cons c cs ih => rw [rowsAll_cons, ih, List.flatMap_cons]

@[simp] theorem rowsAll_append (parent : Option NodeId) (cs ds : List PlacedNode) :
    rowsAll parent (cs ++ ds) = rowsAll parent cs ++ rowsAll parent ds := by
  simp only [rowsAll_eq_flatMap, List.flatMap_append]

theorem rowsAll_perm (parent : Option NodeId) (h : cs.Perm ds) :
    (rowsAll parent cs).Perm (rowsAll parent ds) := by
  simp only [rowsAll_eq_flatMap]
  exact h.flatMap_right _

theorem rowsAll_middle (parent : Option NodeId) (before after : List PlacedNode) (d : PlacedNode) :
    (rowsAll parent (before ++ d :: after)).Perm
      (rows parent d ++ rowsAll parent (before ++ after)) := by
  rw [← rowsAll_cons]
  exact rowsAll_perm parent List.perm_middle

/-- A node's own row is among the rows of its siblings. -/
theorem row_mem (inside : c ∈ cs) :
    (c.id, stored parent c.head c.children) ∈ rowsAll parent cs := by
  rw [rowsAll_eq_flatMap]
  refine List.mem_flatMap.mpr ⟨c, inside, ?_⟩
  rw [rows_eq]
  exact List.mem_cons_self

/-- Without the number of one of some siblings the others are left. -/
theorem filter_ids {l r : List PlacedNode} (once : ((l ++ c :: r).map id).Nodup) :
    ((l ++ c :: r).map id).filter (· != c.id) = (l ++ r).map id := by
  have before : c.id ∉ l.map id := fun inside => by
    rw [List.map_append, List.map_cons] at once
    exact (List.nodup_append.mp once).2.2 _ inside _ List.mem_cons_self rfl
  rw [← once.erase_eq_filter, List.map_append, List.map_cons, List.erase_append_right _ before,
    List.erase_cons_head, List.map_append]

theorem tableOf_append (cs ds : List PlacedNode) : tableOf (cs ++ ds) = tableOf cs ++ tableOf ds :=
  List.filterMap_append

theorem tableOf_cons_some {v : Value} (constant : c.constant? = some v) (cs : List PlacedNode) :
    tableOf (c :: cs) = (v, c.id) :: tableOf cs := by
  rw [tableOf, List.filterMap_cons, constant]
  rfl

theorem tableOf_cons_none (other : c.constant? = none) (cs : List PlacedNode) :
    tableOf (c :: cs) = tableOf cs := by
  rw [tableOf, List.filterMap_cons, other]
  rfl

theorem mem_tableOf {row : Value × NodeId} :
    row ∈ tableOf cs ↔ ∃ c ∈ cs, c.constant? = some row.1 ∧ c.id = row.2 := by
  obtain ⟨v, i⟩ := row
  rw [tableOf, List.mem_filterMap]
  constructor
  · rintro ⟨c, listed, same⟩
    obtain ⟨w, named, same⟩ := Option.map_eq_some_iff.mp same
    obtain ⟨rfl, rfl⟩ := Prod.mk.injEq .. ▸ same
    exact ⟨c, listed, named, rfl⟩
  · rintro ⟨c, listed, named, rfl⟩
    exact ⟨c, listed, by rw [named]; rfl⟩

theorem filter_tableOf {i : NodeId} (absent : i ∉ cs.map id) :
    (tableOf cs).filter (·.2 != i) = tableOf cs := by
  refine List.filter_eq_self.mpr fun x inside => ?_
  obtain ⟨c, listed, -, same⟩ := mem_tableOf.mp inside
  have other := ne_of_mem_of_not_mem (List.mem_map_of_mem (f := id) listed) absent
  rw [same] at other
  simpa using other

/-- A node less is a node less in all that is kept of its siblings. -/
theorem unlink_stored (parent : Option NodeId) (head : NodeHead) {l r : List PlacedNode}
    (once : ((l ++ c :: r).map id).Nodup) :
    (stored parent head (l ++ c :: r)).unlink c.id = stored parent head (l ++ r) := by
  have ids := once
  rw [List.map_append, List.map_cons] at ids
  obtain ⟨-, last, apart⟩ := List.nodup_append.mp ids
  have before : c.id ∉ l.map id := fun inside => apart _ inside _ List.mem_cons_self rfl
  have table : (tableOf (l ++ c :: r)).filter (·.2 != c.id) = tableOf (l ++ r) := by
    have own : (tableOf [c]).filter (·.2 != c.id) = [] := by
      unfold tableOf
      cases h : c.constant? <;> simp [h]
    rw [← List.singleton_append, tableOf_append, tableOf_append, tableOf_append, List.filter_append,
      List.filter_append, own, filter_tableOf before, filter_tableOf (List.nodup_cons.mp last).1,
      List.nil_append]
  unfold StoredNode.unlink stored
  rw [filter_ids once]
  cases head.test with
  | field t => rfl
  | selector => rw [storedTest, storedTest, StoredTest.erase, table]

theorem head_stored (parent : Option NodeId) (head : NodeHead) (children : List PlacedNode) :
    (stored parent head children).head = head := by
  obtain ⟨shape, test, initialized, entries⟩ := head
  cases test <;> rfl

theorem toTest_stored (parent : Option NodeId) (head : NodeHead) (children : List PlacedNode) :
    (stored parent head children).test.toTest = head.test :=
  congrArg NodeHead.test (head_stored parent head children)

end PlacedNode

namespace NodeStore

open PlacedNode

/-- The slots hold certain rows and nothing else, and certain nodes are under the root. -/
structure Holds (s : NodeStore) (roots : List NodeId) (rows : List SlotRow) : Prop where
  roots_eq : s.roots = roots
  live : ∀ id n, s.get? id = some n ↔ (id, n) ∈ rows
  once : (rows.map Prod.fst).Nodup
  /-- The slots that are free are empty, and each is free once. -/
  spent : s.free.Nodup
  empty : ∀ id ∈ s.free, s.slots[id]? = some none

variable {s : NodeStore} {roots : List NodeId} {rows rows' : List SlotRow} {id : NodeId}
  {n : StoredNode}

theorem holds_nil : Holds {} [] [] where
  roots_eq := rfl
  live id n := by simp [get?]
  once := .nil
  spent := .nil
  empty _ none := absurd none List.not_mem_nil

theorem Holds.perm (holds : s.Holds roots rows) (h : rows.Perm rows') : s.Holds roots rows' where
  roots_eq := holds.roots_eq
  live id n := (holds.live id n).trans h.mem_iff
  once := (h.map _).nodup_iff.mp holds.once
  spent := holds.spent
  empty := holds.empty

theorem Holds.node (holds : s.Holds roots rows) (inside : (id, n) ∈ rows) : s.node id = .ok n := by
  rw [NodeStore.node, (holds.live id n).mpr inside]

theorem Holds.bound (holds : s.Holds roots rows) (inside : (id, n) ∈ rows) : id < s.slots.size := by
  have found := (holds.live id n).mpr inside
  unfold get? at found
  by_contra beyond
  rw [Array.getElem?_eq_none (Nat.le_of_not_lt beyond)] at found
  cases found

/-- There are no more nodes than slots. -/
theorem Holds.length_le (holds : s.Holds roots rows) : rows.length ≤ s.slots.size := by
  have among : rows.map Prod.fst ⊆ List.range s.slots.size := fun id inside => by
    obtain ⟨row, listed, rfl⟩ := List.mem_map.mp inside
    exact List.mem_range.mpr (holds.bound listed)
  have counted := (List.subperm_of_subset holds.once among).length_le
  rwa [List.length_map, List.length_range] at counted

theorem get?_set (s : NodeStore) (free : List NodeId) (row : Option StoredNode)
    (bound : id < s.slots.size) (other : NodeId) :
    get? { s with slots := s.slots.setIfInBounds id row, free } other =
      if other = id then row else s.get? other := by
  unfold get?
  rw [Array.getElem?_setIfInBounds]
  by_cases same : other = id
  · rw [if_pos same, if_pos same.symm, if_pos (same ▸ bound)]
    rfl
  · rw [if_neg same, if_neg (Ne.symm same)]

theorem get?_push (s : NodeStore) (row : Option StoredNode) (other : NodeId) :
    get? { s with slots := s.slots.push row } other =
      if other = s.slots.size then row else s.get? other := by
  unfold get?
  rw [Array.getElem?_push]
  split <;> rfl

theorem not_mem_of_new (new : id ∉ rows.map Prod.fst) (n : StoredNode) : (id, n) ∉ rows :=
  fun inside => new (List.mem_map.mpr ⟨_, inside, rfl⟩)

/-- A slot is written that no other row has. -/
theorem live_write {s' : NodeStore} (new : id ∉ rows.map Prod.fst)
    (written : ∀ other, s'.get? other = if other = id then some n else s.get? other)
    (live : ∀ other m, other ≠ id → (s.get? other = some m ↔ (other, m) ∈ rows)) (other : NodeId)
    (m : StoredNode) : s'.get? other = some m ↔ (other, m) ∈ (id, n) :: rows := by
  rw [written, List.mem_cons, Prod.mk.injEq]
  split
  · rename_i same
    subst same
    rw [Option.some.injEq]
    exact ⟨fun same => .inl ⟨rfl, same.symm⟩, fun either => either.elim (fun same => same.2.symm)
      fun inside => absurd inside (not_mem_of_new new m)⟩
  · rename_i distinct
    rw [live other m distinct]
    exact ⟨.inr, fun either => either.elim (fun same => absurd same.1 distinct) fun found => found⟩

/-- A slot in use is not free. -/
theorem Holds.not_free (holds : s.Holds roots rows) (inside : (id, n) ∈ rows) : id ∉ s.free := by
  intro spent
  have found := (holds.live id n).mpr inside
  rw [get?, holds.empty id spent] at found
  cases found

/-- Only the slot of a node is written when it is changed. -/
theorem Holds.modify (holds : s.Holds roots ((id, n) :: rows)) (f : StoredNode → StoredNode) :
    ∃ s', s.modify id f = .ok s' ∧ s'.Holds roots ((id, f n) :: rows) ∧
      s'.slots.size = s.slots.size := by
  have bound := holds.bound List.mem_cons_self
  have used := holds.not_free List.mem_cons_self
  obtain ⟨new, -⟩ := List.nodup_cons.mp holds.once
  refine ⟨{ s with slots := s.slots.setIfInBounds id (some (f n)) }, ?_, ?_,
    Array.size_setIfInBounds⟩
  · rw [NodeStore.modify, holds.node List.mem_cons_self]
    rfl
  · refine ⟨holds.roots_eq, live_write new (get?_set s _ _ bound) fun other m distinct => ?_,
      holds.once, holds.spent, fun other spent => ?_⟩
    · rw [holds.live other m, List.mem_cons, Prod.mk.injEq]
      exact ⟨fun either => either.elim (fun same => absurd same.1 distinct) (fun found => found), .inr⟩
    · rw [Array.getElem?_setIfInBounds, if_neg (ne_of_mem_of_not_mem spent used).symm]
      exact holds.empty other spent

/-- A new node gets a slot that no node has. -/
theorem Holds.alloc (holds : s.Holds roots rows) (n : StoredNode) :
    (s.alloc n).2.Holds roots (((s.alloc n).1, n) :: rows) := by
  unfold NodeStore.alloc
  split
  · rename_i fresh free spent
    have vacant := holds.empty fresh (spent ▸ List.mem_cons_self)
    have new : fresh ∉ rows.map Prod.fst := fun inside => by
      obtain ⟨row, listed, rfl⟩ := List.mem_map.mp inside
      exact holds.not_free listed (spent ▸ List.mem_cons_self)
    have once := holds.spent
    rw [spent] at once
    obtain ⟨gone, once⟩ := List.nodup_cons.mp once
    refine ⟨holds.roots_eq, live_write new
      (get?_set s _ _ (Array.getElem?_eq_some_iff.mp vacant).1) fun other m _ => holds.live other m,
      List.nodup_cons.mpr ⟨new, holds.once⟩, once, fun other inside => ?_⟩
    rw [Array.getElem?_setIfInBounds, if_neg (ne_of_mem_of_not_mem inside gone).symm]
    exact holds.empty other (spent ▸ List.mem_cons_of_mem _ inside)
  · rename_i none
    have new : s.slots.size ∉ rows.map Prod.fst := fun inside => by
      obtain ⟨row, listed, same⟩ := List.mem_map.mp inside
      exact Nat.lt_irrefl _ (same ▸ holds.bound listed)
    exact ⟨holds.roots_eq, live_write new (get?_push s _) fun other m _ => holds.live other m,
      List.nodup_cons.mpr ⟨new, holds.once⟩, holds.spent,
      fun other inside => absurd inside (none ▸ List.not_mem_nil)⟩

/-- A node that is given up leaves its slot. -/
theorem Holds.release (holds : s.Holds roots ((id, n) :: rows)) :
    (s.release id).Holds roots rows ∧ (s.release id).slots.size = s.slots.size := by
  have bound := holds.bound List.mem_cons_self
  have used := holds.not_free List.mem_cons_self
  obtain ⟨new, once⟩ := List.nodup_cons.mp holds.once
  refine ⟨⟨holds.roots_eq, fun other m => ?_, once, List.nodup_cons.mpr ⟨used, holds.spent⟩,
    fun other spent => ?_⟩, Array.size_setIfInBounds⟩
  · rw [NodeStore.release, get?_set s _ _ bound]
    split
    · rename_i same
      subst same
      exact ⟨(nomatch ·), fun inside => absurd inside (not_mem_of_new new m)⟩
    · rename_i distinct
      rw [holds.live other m, List.mem_cons, Prod.mk.injEq]
      exact ⟨fun either => either.elim (fun same => absurd same.1 distinct) (fun found => found), .inr⟩
  · unfold NodeStore.release
    rw [Array.getElem?_setIfInBounds]
    rcases List.mem_cons.mp spent with rfl | spent
    · rw [if_pos rfl, if_pos bound]
    · rw [if_neg (ne_of_mem_of_not_mem spent used).symm]
      exact holds.empty other spent

end NodeStore

/-! ### Siblings and what is above them -/

/-- A node whose children are looked at. -/
structure Stem where
  id : NodeId
  head : NodeHead
  parent : Option NodeId

namespace NodeStore

open PlacedNode

/-- The row of the node above siblings; at the root there is none. -/
def stemRow (stem : Option Stem) (cs : List PlacedNode) : List SlotRow :=
  match stem with
  | none => []
  | some p => [(p.id, stored p.parent p.head cs)]

/-- The nodes under the root, if these are siblings there. -/
def rootsWith (stem : Option Stem) (cs : List PlacedNode) (roots : List NodeId) : List NodeId :=
  match stem with
  | none => cs.map PlacedNode.id
  | some _ => roots

/-- Certain siblings are below a stem, and besides the stem the slots hold certain rows. -/
def Grows (s : NodeStore) (stem : Option Stem) (roots : List NodeId) (cs : List PlacedNode)
    (rows : List SlotRow) : Prop :=
  s.Holds (rootsWith stem cs roots) (stemRow stem cs ++ rows)

variable {s : NodeStore} {stem : Option Stem} {roots : List NodeId} {cs ds : List PlacedNode}
  {rows rows' : List SlotRow} {id : NodeId} {n : StoredNode}

theorem grows_some {p : Stem} : s.Grows (some p) roots cs rows ↔
    s.Holds roots ((p.id, stored p.parent p.head cs) :: rows) := Iff.rfl

theorem Grows.perm (grows : s.Grows stem roots cs rows) (h : rows.Perm rows') :
    s.Grows stem roots cs rows' :=
  Holds.perm grows (h.append_left _)

theorem Grows.node (grows : s.Grows stem roots cs rows) (inside : (id, n) ∈ rows) :
    s.node id = .ok n :=
  Holds.node grows (List.mem_append_right _ inside)

theorem Grows.childrenOf (grows : s.Grows stem roots cs rows) :
    s.childrenOf (stem.map (·.id)) = .ok (cs.map PlacedNode.id) := by
  cases stem with
  | none => exact congrArg Except.ok grows.roots_eq
  | some p =>
    rw [Option.map_some, NodeStore.childrenOf, Holds.node grows List.mem_cons_self]
    rfl

/-- The children of a stem are changed; a selector is no stem here, for its table goes with them. -/
theorem Grows.setChildren (grows : s.Grows stem roots cs rows)
    (field : ∀ p ∈ stem, p.head.test ≠ .selector) {f : List NodeId → List NodeId}
    (changed : f (cs.map PlacedNode.id) = ds.map PlacedNode.id) :
    ∃ s', s.setChildren (stem.map (·.id)) f = .ok s' ∧ s'.Grows stem roots ds rows := by
  cases stem with
  | none =>
    refine ⟨_, rfl, ?_⟩
    exact ⟨(congrArg f grows.roots_eq).trans changed, grows.live, grows.once, grows.spent, grows.empty⟩
  | some p =>
    obtain ⟨s', done, holds, -⟩ := Holds.modify grows fun n => { n with children := f n.children }
    refine ⟨s', done, ?_⟩
    have same : { stored p.parent p.head cs with children := f (cs.map PlacedNode.id) } =
        stored p.parent p.head ds := by
      unfold stored
      rw [changed]
      cases test : p.head.test with
      | field t => rfl
      | selector => exact absurd test (field p rfl)
    rw [grows_some, ← same]
    exact holds

/-- A child is taken out, from the table of a selector too. -/
theorem Grows.detach {l r : List PlacedNode} {c : PlacedNode}
    (grows : s.Grows stem roots (l ++ c :: r) rows)
    (once : ((l ++ c :: r).map PlacedNode.id).Nodup) :
    ∃ s', s.detach c.id (stem.map (·.id)) = .ok s' ∧ s'.Grows stem roots (l ++ r) rows ∧
      s'.slots.size = s.slots.size := by
  cases stem with
  | none =>
    refine ⟨_, rfl, ?_, rfl⟩
    have roots_eq : s.roots.filter (· != c.id) = (l ++ r).map PlacedNode.id := by
      rw [grows.roots_eq]
      exact filter_ids once
    exact ⟨roots_eq, grows.live, grows.once, grows.spent, grows.empty⟩
  | some p =>
    obtain ⟨s', done, holds, size⟩ := Holds.modify grows (·.unlink c.id)
    refine ⟨s', done, ?_, size⟩
    rw [grows_some, ← unlink_stored p.parent p.head once]
    exact holds

/-- A search among siblings looks at them as they are in the tree. -/
theorem Holds.find (holds : s.Holds roots rows) {parent : Option NodeId} (p : StoredNode → Bool)
    (q : PlacedNode → Bool) (same : ∀ c ∈ cs, p (stored parent c.head c.children) = q c)
    (inside : ∀ c ∈ cs, (c.id, stored parent c.head c.children) ∈ rows) :
    s.find p (cs.map PlacedNode.id) = .ok ((cs.find? q).map PlacedNode.id) := by
  induction cs with
  | nil => rfl
  | cons c cs ih =>
    obtain ⟨here, inside⟩ := List.forall_mem_cons.mp inside
    obtain ⟨first, same⟩ := List.forall_mem_cons.mp same
    rw [List.map_cons, NodeStore.find, holds.node here]
    change (if p _ = true then _ else _) = _
    rw [first, List.find?_cons]
    cases q c with
    | true => rfl
    | false => exact ih same inside

end NodeStore

end FactBase

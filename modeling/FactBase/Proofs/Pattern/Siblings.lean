import FactBase.Proofs.Pattern.Slots

/-!
# Siblings in slots

A node is changed in its place among siblings, directly there or below a selector, and the slots of
the others stay as they are. Gathering the constants of a shape under a selector keeps everything that
is below them.
-/

namespace FactBase

namespace PlacedNode

open PatternNode PatternTree

variable {c d : PlacedNode} {cs ds : List PlacedNode} {shape : Shape} {step : PathStep}

mutual
/-- Which entry ends at which node. -/
def seats : PlacedNode → List (NodeId × EntryId)
  | .node id head children => head.entries.map (id, ·) ++ seatsAll children

def seatsAll : List PlacedNode → List (NodeId × EntryId)
  | [] => []
  | c :: cs => seats c ++ seatsAll cs
end

theorem seats_node (id : NodeId) (head : NodeHead) (children : List PlacedNode) :
    seats (.node id head children) = head.entries.map (id, ·) ++ seatsAll children := by rw [seats]

theorem seatsAll_eq_flatMap (cs : List PlacedNode) : seatsAll cs = cs.flatMap seats := by
  induction cs with
  | nil => rw [seatsAll, List.flatMap_nil]
  | cons c cs ih => rw [seatsAll, ih, List.flatMap_cons]

theorem seatsAll_perm (h : cs.Perm ds) : (seatsAll cs).Perm (seatsAll ds) := by
  simp only [seatsAll_eq_flatMap]
  exact h.flatMap_right _

theorem seatsAll_middle (before after : List PlacedNode) (d : PlacedNode) :
    (seatsAll (before ++ d :: after)).Perm (seats d ++ seatsAll (before ++ after)) := by
  have middle : (seatsAll (before ++ d :: after)).Perm (seatsAll (d :: (before ++ after))) :=
    seatsAll_perm List.perm_middle
  rwa [seatsAll] at middle

/-! ### A node among others -/

theorem selects_stored (parent : Option NodeId) (c : PlacedNode) (shape : Shape) :
    (stored parent c.head c.children).selects shape = c.tree.selects shape := by
  rw [StoredNode.selects, toTest_stored, PatternNode.selects, isSelector, head_tree]
  rfl

theorem performs_stored (parent : Option NodeId) (c : PlacedNode) (step : PathStep) :
    (stored parent c.head c.children).performs step = c.tree.performs step := by
  rw [StoredNode.performs, toTest_stored, PatternNode.performs, head_tree]
  rfl

theorem isCase_tree (c : PlacedNode) (v : Value) : c.tree.isCase v = (c.constant? == some v) := by
  rw [Bool.eq_iff_iff, isCase_iff, head_tree, constant?, beq_iff_eq]
  cases c.head.test with
  | selector => exact ⟨(nomatch ·), (nomatch ·)⟩
  | field t =>
    cases t with
    | constant w => rw [NodeTest.field.injEq, FieldTest.constant.injEq, Option.some.injEq]
    | any | notConstant | expression => exact ⟨(nomatch ·), (nomatch ·)⟩

/-- What is looked up in the table of a selector is found among its children. -/
theorem lookup_tableOf (cs : List PlacedNode) (v : Value) :
    (tableOf cs).lookup v = (cs.find? (·.tree.isCase v)).map id := by
  induction cs with
  | nil => rfl
  | cons c cs ih =>
    rw [List.find?_cons, isCase_tree]
    cases named : c.constant? with
    | none => rw [tableOf_cons_none named]; exact ih
    | some w =>
      rw [tableOf_cons_some named, List.lookup_cons]
      by_cases same : w = v
      · simp [same]
      · have other : (v == w) = false := by simpa using Ne.symm same
        have other' : (some w == some v) = false := by simpa using same
        rw [other, other']
        exact ih

/-- A place among siblings: directly there, or below one of them that is a selector. -/
inductive Gap where
  | direct (before after : List PlacedNode)
  | chosen (before : List PlacedNode) (id : NodeId) (head : NodeHead)
      (left right after : List PlacedNode)

namespace Gap

/-- The siblings with a node in the place. -/
def fill (g : Gap) (d : PlacedNode) : List PlacedNode :=
  match g with
  | .direct before after => before ++ d :: after
  | .chosen before id head left right after =>
    before ++ .node id head (left ++ d :: right) :: after

/-- What is above the place, if the siblings are below a parent. -/
def above (g : Gap) (parent : Option NodeId) : Option NodeId :=
  match g with
  | .direct _ _ => parent
  | .chosen _ id _ _ _ _ => some id

/-- The same place with the flag of the selector taken back. -/
def unflagged : Gap → Gap
  | .direct before after => .direct before after
  | .chosen before id head left right after =>
    .chosen before id { head with initialized := false } left right after

/-- What the slots hold of the siblings besides the node in the place. -/
def around (g : Gap) (parent : Option NodeId) (d : PlacedNode) : List SlotRow :=
  match g with
  | .direct before after => rowsAll parent (before ++ after)
  | .chosen before id head left right after =>
    (id, stored parent head (left ++ d :: right)) ::
      (rowsAll (some id) (left ++ right) ++ rowsAll parent (before ++ after))

theorem rowsAll_fill (g : Gap) (parent : Option NodeId) (d : PlacedNode) :
    (rowsAll parent (g.fill d)).Perm (rows (g.above parent) d ++ g.around parent d) := by
  cases g with
  | direct before after =>
    exact rowsAll_middle parent before after d
  | chosen before id head left right after =>
    have outer := rowsAll_middle parent before after (.node id head (left ++ d :: right))
    have inner := rowsAll_middle (some id) left right d
    rw [rows_node] at outer
    refine outer.trans ?_
    rw [List.cons_append]
    refine ((inner.append_right _).cons _).trans ?_
    rw [List.append_assoc]
    exact List.perm_middle.symm

variable {d' : PlacedNode}

theorem tableOf_replace (same : d'.id = d.id) (constant : d'.constant? = d.constant?)
    (cs ds : List PlacedNode) : tableOf (cs ++ d' :: ds) = tableOf (cs ++ d :: ds) := by
  rw [tableOf, tableOf, List.filterMap_append, List.filterMap_append, List.filterMap_cons,
    List.filterMap_cons, same, constant]

/-- What is kept of siblings does not tell what is below them. -/
theorem stored_replace (same : d'.id = d.id) (constant : d'.constant? = d.constant?)
    (parent : Option NodeId) (head : NodeHead) (cs ds : List PlacedNode) :
    stored parent head (cs ++ d' :: ds) = stored parent head (cs ++ d :: ds) := by
  unfold stored storedTest
  rw [tableOf_replace same constant, List.map_append, List.map_append, List.map_cons, List.map_cons,
    same]

theorem ids_fill (g : Gap) (same : d'.id = d.id) : (g.fill d').map id = (g.fill d).map id := by
  cases g with
  | direct before after => simp only [fill, List.map_append, List.map_cons, same]
  | chosen before i head left right after => simp only [fill, List.map_append, List.map_cons]; rfl

theorem stored_fill (g : Gap) (same : d'.id = d.id) (constant : d'.constant? = d.constant?)
    (parent : Option NodeId) (head : NodeHead) :
    stored parent head (g.fill d') = stored parent head (g.fill d) := by
  cases g with
  | direct before after => exact stored_replace same constant parent head before after
  | chosen before i own left right after =>
    exact stored_replace (by rfl) (by rfl) parent head before after

theorem around_replace (g : Gap) (same : d'.id = d.id) (constant : d'.constant? = d.constant?)
    (parent : Option NodeId) : g.around parent d' = g.around parent d := by
  cases g with
  | direct before after => rfl
  | chosen before i head left right after =>
    rw [around, around, stored_replace same constant]

end Gap

end PlacedNode

namespace NodeStore

open PlacedNode

variable {s : NodeStore} {stem : Option Stem} {roots : List NodeId} {cs : List PlacedNode}
  {rows : List SlotRow} {id : NodeId} {n : StoredNode} {g : Gap} {d d' : PlacedNode}

/-- Certain siblings with all that is below them are below a stem. -/
def Bears (s : NodeStore) (stem : Option Stem) (roots : List NodeId) (cs : List PlacedNode)
    (rows : List SlotRow) : Prop :=
  s.Grows stem roots cs (rowsAll (stem.map (·.id)) cs ++ rows)

/-- All nodes are below the root. -/
theorem bears_root : s.Bears none [] cs [] ↔ s.Holds (cs.map PlacedNode.id) (rowsAll none cs) := by
  unfold Bears
  rw [List.append_nil]
  rfl

/-- The slots seen from one node among siblings. -/
theorem Bears.focus (bears : s.Bears stem roots (g.fill d) rows) :
    s.Holds (rootsWith stem (g.fill d) roots) (PlacedNode.rows (g.above (stem.map (·.id))) d ++
      (stemRow stem (g.fill d) ++ (g.around (stem.map (·.id)) d ++ rows))) := by
  refine Holds.perm bears ?_
  refine .trans ?_ (List.perm_append_comm_assoc _ _ _)
  rw [← List.append_assoc (PlacedNode.rows _ d)]
  exact ((g.rowsAll_fill _ d).append_right rows).append_left _

/-- Another node in the place of one, with the same number and of the same kind, leaves the rest as
it is. -/
theorem Bears.of_focus (same : d'.id = d.id) (constant : d'.constant? = d.constant?)
    (holds : s.Holds (rootsWith stem (g.fill d) roots)
      (PlacedNode.rows (g.above (stem.map (·.id))) d' ++
        (stemRow stem (g.fill d) ++ (g.around (stem.map (·.id)) d ++ rows)))) :
    s.Bears stem roots (g.fill d') rows := by
  have above : stemRow stem (g.fill d') = stemRow stem (g.fill d) := by
    cases stem with
    | none => rfl
    | some p => rw [stemRow, stemRow, g.stored_fill same constant]
  have under : rootsWith stem (g.fill d') roots = rootsWith stem (g.fill d) roots := by
    cases stem with
    | none => exact g.ids_fill same
    | some p => rfl
  unfold Bears Grows
  rw [above, under]
  refine holds.perm ?_
  rw [← g.around_replace same constant]
  refine (List.perm_append_comm_assoc _ _ _).trans ?_
  rw [← List.append_assoc (PlacedNode.rows _ d')]
  exact ((g.rowsAll_fill _ d').symm.append_right rows).append_left _

/-! ### Taking flags back -/

theorem Holds.unflag (holds : s.Holds roots ((id, n) :: rows)) :
    ∃ s' : NodeStore, (∀ k, s.unflag (k + 1) (some id) = s'.unflag k n.parent) ∧
      s'.Holds roots ((id, { n with initialized := false }) :: rows) ∧
      s'.slots.size = s.slots.size := by
  obtain ⟨s', done, holds', size⟩ := holds.modify fun n => { n with initialized := false }
  refine ⟨s', fun k => ?_, holds', size⟩
  rw [NodeStore.unflag, holds.node List.mem_cons_self]
  change (s.modify id _ >>= fun s' => s'.unflag k n.parent) = _
  rw [done]
  rfl

/-- From a place among siblings the flags are taken back up to the stem. -/
theorem Bears.unflag (bears : s.Bears stem roots (g.fill d) rows) :
    ∃ (s' : NodeStore) (k : Nat),
      (∀ j, s.unflag (j + k) (g.above (stem.map (·.id))) = s'.unflag j (stem.map (·.id))) ∧
      s'.Bears stem roots (g.unflagged.fill d) rows ∧ s'.slots.size = s.slots.size ∧
      k ≤ (g.unflagged.around (stem.map (·.id)) d).length := by
  cases g with
  | direct before after => exact ⟨s, 0, fun _ => rfl, bears, rfl, Nat.zero_le _⟩
  | chosen before i head left right after =>
    have bears' : s.Bears stem roots ((Gap.direct before after).fill
      (.node i head (left ++ d :: right))) rows := bears
    have holds := bears'.focus
    rw [rows_node, List.cons_append] at holds
    obtain ⟨s', climbs, holds', size⟩ := holds.unflag
    refine ⟨s', 1, climbs, ?_, size, Nat.succ_le_succ (Nat.zero_le _)⟩
    have restored : s'.Bears stem roots ((Gap.direct before after).fill
        (.node i { head with initialized := false } (left ++ d :: right))) rows := by
      refine Bears.of_focus (d := .node i head (left ++ d :: right)) rfl rfl ?_
      rw [rows_node]
      exact holds'
    exact restored

end NodeStore

/-! ### Grouping constants -/

namespace PlacedNode

open PatternNode

variable {c : PlacedNode} {cs ks : List PlacedNode} {shape : Shape}

/-- What grouping takes down of a constant. -/
def asConstant? (c : PlacedNode) : Option NodeStore.Constant :=
  c.constant?.map (⟨c.id, ·, c.head.initialized⟩)

theorem constant?_of_isConstant (constant : c.tree.isConstant shape = true) :
    ∃ v, c.constant? = some v := by
  obtain ⟨v, named⟩ := isConstant_iff.mp constant
  have test : c.head.test = .field (.constant v) := head_tree c ▸ congrArg Prod.snd named
  exact ⟨v, by rw [constant?, test]⟩

theorem constantOf?_stored (parent : Option NodeId) (c : PlacedNode) (shape : Shape) :
    (stored parent c.head c.children).constantOf? shape =
      if c.tree.isConstant shape then c.constant? else none := by
  rw [StoredNode.constantOf?, PatternNode.isConstant, head_tree, constant?]
  obtain ⟨id, ⟨own, test, flag, entries⟩, children⟩ := c
  change (if own = shape then _ else none) = if (own == shape && _) = true then _ else _
  by_cases same : own = shape
  · rw [if_pos same, same, beq_self_eq_true, Bool.true_and]
    cases test with
    | selector => rfl
    | field t => cases t <;> rfl
  · rw [if_neg same, beq_eq_false_iff_ne.mpr same, Bool.false_and, if_neg Bool.false_ne_true]

theorem ids_constants (named : ∀ c ∈ ks, ∃ v, c.constant? = some v) :
    (ks.filterMap asConstant?).map (·.id) = ks.map id := by
  induction ks with
  | nil => rfl
  | cons c ks ih =>
    obtain ⟨⟨v, constant⟩, named⟩ := List.forall_mem_cons.mp named
    rw [List.filterMap_cons, asConstant?, constant]
    exact congrArg _ (ih named)

theorem flags_constants (named : ∀ c ∈ ks, ∃ v, c.constant? = some v) :
    (ks.filterMap asConstant?).all (·.initialized) = ks.all (·.head.initialized) := by
  induction ks with
  | nil => rfl
  | cons c ks ih =>
    obtain ⟨⟨v, constant⟩, named⟩ := List.forall_mem_cons.mp named
    rw [List.filterMap_cons, asConstant?, constant]
    exact congrArg _ (ih named)

/-- Putting constants in a table row by row makes the table of the nodes, if no value comes twice. -/
theorem table_constants {table : List (Value × NodeId)}
    (once : ((table ++ tableOf ks).map Prod.fst).Nodup) :
    (ks.filterMap asConstant?).foldl (fun test c => StoredTest.insert c.value c.id test)
      (StoredTest.selector table) = StoredTest.selector (table ++ tableOf ks) := by
  induction ks generalizing table with
  | nil => exact congrArg StoredTest.selector (List.append_nil table).symm
  | cons c ks ih =>
    cases constant : c.constant? with
    | none =>
      rw [tableOf_cons_none constant] at once ⊢
      rw [List.filterMap_cons, asConstant?, constant]
      exact ih once
    | some v =>
      rw [tableOf_cons_some constant] at once ⊢
      rw [List.filterMap_cons, asConstant?, constant]
      have new : v ∉ table.map Prod.fst := fun inside => by
        rw [List.map_append] at once
        exact (List.nodup_append.mp once).2.2 v inside v List.mem_cons_self rfl
      have kept : table.filter (·.1 != v) = table := List.filter_eq_self.mpr fun x inside => by
        simpa using ne_of_mem_of_not_mem (List.mem_map_of_mem (f := Prod.fst) inside) new
      rw [List.append_cons] at once ⊢
      rw [Option.map_some, List.foldl_cons, StoredTest.insert, kept]
      exact ih once

/-- Constants of one shape that are kept apart have different values. -/
theorem values_nodup (distinct : Distinct (trees ks))
    (constants : ∀ c ∈ ks, c.tree.isConstant shape = true) : ((tableOf ks).map Prod.fst).Nodup := by
  have keys : (trees ks).map key =
      ((tableOf ks).map Prod.fst).map fun v => (shape, .field (.constant v)) := by
    clear distinct
    induction ks with
    | nil => simp [tableOf]
    | cons c ks ih =>
      obtain ⟨here, constants⟩ := List.forall_mem_cons.mp constants
      obtain ⟨v, named⟩ := isConstant_iff.mp here
      have test : c.head.test = .field (.constant v) := head_tree c ▸ congrArg Prod.snd named
      have constant : c.constant? = some v := by rw [constant?, test]
      rw [trees_cons, List.map_cons, ih constants, named, tableOf_cons_some constant]
      rfl
  rw [Distinct, keys] at distinct
  exact distinct.of_map _

/-- The first of the grouped nodes makes way for the selector, and the others go. -/
theorem regroup_ids {grouped : List NodeId} {selector : NodeId} {q : PlacedNode → Bool}
    (same : ∀ c ∈ cs, grouped.contains c.id = q c) (new : grouped.contains selector = false)
    (some : cs.any q = true) : NodeStore.regroup grouped selector (cs.map id) =
      (cs.takeWhile (!q ·)).map id ++ selector :: ((cs.dropWhile (!q ·)).filter (!q ·)).map id := by
  induction cs with
  | nil => cases some
  | cons c cs ih =>
    obtain ⟨here, same⟩ := List.forall_mem_cons.mp same
    cases first : q c with
    | true =>
      have others : (cs.map id).filter (!grouped.contains ·) = (cs.filter (!q ·)).map id := by
        rw [List.filter_map]
        exact congrArg _ (List.filter_congr fun c inside => congrArg _ (same c inside))
      have found : ((c :: cs).map id).findIdx? (grouped.contains ·) = Option.some 0 := by
        rw [List.map_cons, List.findIdx?_cons, here, first, if_pos rfl]
      rw [NodeStore.regroup, found]
      dsimp only
      rw [List.map_cons, List.set_cons_zero, List.filter_cons_of_pos (by rw [new]; rfl), others,
        List.takeWhile_cons_of_neg (by rw [first]; decide),
        List.dropWhile_cons_of_neg (by rw [first]; decide),
        List.filter_cons_of_neg (by rw [first]; decide)]
      rfl
    | false =>
      have later : cs.any q = true := by simpa [first] using some
      have keep : NodeStore.regroup grouped selector ((c :: cs).map id) =
          c.id :: NodeStore.regroup grouped selector (cs.map id) := by
        rw [NodeStore.regroup, NodeStore.regroup, List.map_cons, List.findIdx?_cons, here, first,
          if_neg Bool.false_ne_true]
        cases (cs.map id).findIdx? (grouped.contains ·) with
        | none => exact List.filter_cons_of_pos (by rw [here, first]; rfl)
        | some i => exact List.filter_cons_of_pos (by rw [here, first]; rfl)
      rw [keep, ih same later, List.takeWhile_cons_of_pos (by rw [first]; rfl),
        List.dropWhile_cons_of_pos (by rw [first]; rfl)]
      rfl

/-- What the selector over some constants is like. -/
def selectorHead (shape : Shape) (ks : List PlacedNode) : NodeHead :=
  { shape, test := .selector, initialized := ks.all (·.head.initialized) }

/-- Siblings with the constants of a shape under a selector in place of the first of them. -/
def gathered (selector : NodeId) (shape : Shape) (cs : List PlacedNode) : List PlacedNode :=
  let constants := cs.filter (·.tree.isConstant shape)
  cs.takeWhile (!·.tree.isConstant shape) ++ .node selector (selectorHead shape constants) constants ::
    (cs.dropWhile (!·.tree.isConstant shape)).filter (!·.tree.isConstant shape)

theorem gathered_perm (selector : NodeId) (shape : Shape) (cs : List PlacedNode) :
    (gathered selector shape cs).Perm
      (.node selector (selectorHead shape (cs.filter (·.tree.isConstant shape)))
        (cs.filter (·.tree.isConstant shape)) :: cs.filter (!·.tree.isConstant shape)) := by
  have front : (cs.takeWhile (!·.tree.isConstant shape)).filter (!·.tree.isConstant shape) =
      cs.takeWhile (!·.tree.isConstant shape) :=
    List.filter_eq_self.mpr fun c inside => List.all_eq_true.mp List.all_takeWhile c inside
  have others : cs.takeWhile (!·.tree.isConstant shape) ++
      (cs.dropWhile (!·.tree.isConstant shape)).filter (!·.tree.isConstant shape) =
        cs.filter (!·.tree.isConstant shape) := by
    rw [← front, ← List.filter_append, List.takeWhile_append_dropWhile]
  rw [← others]
  exact List.perm_middle

/-- Regrouping leads to the numbers of the siblings that are gathered. -/
theorem ids_gathered {selector : NodeId} (once : (cs.map id).Nodup) (new : selector ∉ cs.map id)
    (some : cs.any (·.tree.isConstant shape) = true) :
    NodeStore.regroup ((cs.filter (·.tree.isConstant shape)).map id) selector (cs.map id) =
      (gathered selector shape cs).map id := by
  have fewer : (cs.filter (·.tree.isConstant shape)).map id ⊆ cs.map id :=
    List.map_subset _ (List.filter_subset_self cs)
  have same (c : PlacedNode) (inside : c ∈ cs) :
      ((cs.filter (·.tree.isConstant shape)).map id).contains c.id = c.tree.isConstant shape := by
    rw [Bool.eq_iff_iff, List.contains_iff_mem]
    constructor
    · intro grouped
      obtain ⟨k, constant, same⟩ := List.mem_map.mp grouped
      obtain ⟨listed, constant⟩ := List.mem_filter.mp constant
      obtain rfl := List.inj_on_of_nodup_map once listed inside same
      exact constant
    · exact fun constant => List.mem_map_of_mem (List.mem_filter.mpr ⟨inside, constant⟩)
  have apart : ((cs.filter (·.tree.isConstant shape)).map id).contains selector = false := by
    rw [← Bool.not_eq_true, List.contains_iff_mem]
    exact fun inside => new (fewer inside)
  rw [regroup_ids same apart some, gathered, List.map_append, List.map_cons]
  rfl

/-- The numbers of siblings are among those of all that is below them. -/
theorem ids_sublist (parent : Option NodeId) (cs : List PlacedNode) :
    (cs.map id).Sublist ((rowsAll parent cs).map Prod.fst) := by
  induction cs with
  | nil => exact List.nil_sublist _
  | cons c cs ih =>
    rw [rowsAll_cons, rows_eq, List.map_cons, List.cons_append, List.map_cons, List.map_append]
    exact (ih.trans (List.sublist_append_right _ _)).cons_cons _

end PlacedNode

namespace NodeStore

open PlacedNode PatternNode

variable {s : NodeStore} {stem : Option Stem} {roots : List NodeId} {cs ks : List PlacedNode}
  {rows : List SlotRow} {id : NodeId} {n : StoredNode} {shape : Shape} {threshold : Nat}

theorem Bears.ids_nodup (bears : s.Bears stem roots cs rows) : (cs.map PlacedNode.id).Nodup := by
  have once := bears.once
  rw [List.map_append, List.map_append] at once
  exact (List.nodup_append.mp (List.nodup_append.mp once).2.1).1.sublist (ids_sublist _ cs)

theorem Bears.childrenOf (bears : s.Bears stem roots cs rows) :
    s.childrenOf (stem.map (·.id)) = .ok (cs.map PlacedNode.id) :=
  Grows.childrenOf bears

theorem Bears.row_mem {c : PlacedNode} (bears : s.Bears stem roots cs rows) (inside : c ∈ cs) :
    s.node c.id = .ok (stored (stem.map (·.id)) c.head c.children) :=
  Grows.node bears (List.mem_append_left _ (PlacedNode.row_mem inside))

/-- The constants among siblings are those of the tree. -/
theorem Holds.constants (holds : s.Holds roots rows) {parent : Option NodeId}
    (inside : ∀ c ∈ cs, (c.id, stored parent c.head c.children) ∈ rows) :
    s.constants shape (cs.map PlacedNode.id) =
      .ok ((cs.filter (·.tree.isConstant shape)).filterMap asConstant?) := by
  induction cs with
  | nil => rfl
  | cons c cs ih =>
    obtain ⟨here, inside⟩ := List.forall_mem_cons.mp inside
    rw [List.map_cons, NodeStore.constants, holds.node here]
    change (s.constants shape (cs.map PlacedNode.id) >>= fun rest => _) = _
    rw [ih inside]
    have own := constantOf?_stored parent c shape
    by_cases constant : c.tree.isConstant shape = true
    · obtain ⟨v, named⟩ := constant?_of_isConstant constant
      rw [if_pos constant, named] at own
      simp only [bind, Except.bind, own]
      rw [List.filter_cons_of_pos (p := fun x : PlacedNode => x.tree.isConstant shape) constant,
        List.filterMap_cons, asConstant?, named]
      rfl
    · rw [if_neg constant] at own
      simp only [bind, Except.bind, own]
      rw [List.filter_cons_of_neg (p := fun x : PlacedNode => x.tree.isConstant shape) constant]

/-- The grouped nodes get another parent, and with them goes all that is below. -/
theorem Holds.reparent {parent : Option NodeId} (selector : NodeId)
    (named : ∀ c ∈ ks, ∃ v, c.constant? = some v)
    (holds : s.Holds roots (rowsAll parent ks ++ rows)) :
    ∃ s', s.reparent selector (ks.filterMap asConstant?) = .ok s' ∧
      s'.Holds roots (rowsAll (some selector) ks ++ rows) := by
  induction ks generalizing s rows with
  | nil => exact ⟨s, rfl, holds⟩
  | cons c ks ih =>
    obtain ⟨⟨v, constant⟩, named⟩ := List.forall_mem_cons.mp named
    rw [rowsAll_cons, rows_eq, List.append_assoc, List.cons_append] at holds
    obtain ⟨s', done, holds', -⟩ := holds.modify fun n => { n with parent := some selector }
    have moved : { stored parent c.head c.children with parent := some selector } =
        stored (some selector) c.head c.children := rfl
    rw [moved, ← List.cons_append, ← rows_eq] at holds'
    have next : s'.Holds roots (rowsAll parent ks ++ (PlacedNode.rows (some selector) c ++ rows)) :=
      holds'.perm (List.perm_append_comm_assoc _ _ _)
    obtain ⟨s'', rest, holds''⟩ := ih named next
    refine ⟨s'', ?_, ?_⟩
    · rw [List.filterMap_cons, asConstant?, constant]
      change (s.modify c.id _ >>= fun s' => _) = _
      rw [done]
      exact rest
    · rw [rowsAll_cons, List.append_assoc]
      exact holds''.perm (List.perm_append_comm_assoc _ _ _)

theorem Bears.constants (bears : s.Bears stem roots cs rows) (shape : Shape) :
    s.constants shape (cs.map PlacedNode.id) =
      .ok ((cs.filter (·.tree.isConstant shape)).filterMap asConstant?) :=
  Holds.constants bears fun _ inside =>
    List.mem_append_right _ (List.mem_append_left _ (PlacedNode.row_mem inside))

theorem named_of_filter : ∀ c ∈ cs.filter (·.tree.isConstant shape), ∃ v, c.constant? = some v :=
  fun _ inside => constant?_of_isConstant (List.mem_filter.mp inside).2

theorem length_constants (named : ∀ c ∈ ks, ∃ v, c.constant? = some v) :
    (ks.filterMap asConstant?).length = ks.length := by
  have ids := congrArg List.length (ids_constants named)
  rwa [List.length_map, List.length_map] at ids

theorem Bears.groupConstants_few (bears : s.Bears stem roots cs rows)
    (few : (cs.filter (·.tree.isConstant shape)).length < threshold) :
    s.groupConstants threshold (stem.map (·.id)) shape = .ok s := by
  rw [NodeStore.groupConstants, bears.childrenOf]
  change (s.constants shape (cs.map PlacedNode.id) >>= fun constants => _) = _
  rw [bears.constants]
  change (if _ then _ else _) = _
  rw [length_constants named_of_filter, if_pos few]

/-- What a selector takes down of its constants is what is kept of it. -/
theorem stored_constants (parent : Option NodeId) (shape : Shape) (distinct : Distinct (trees ks))
    (constants : ∀ c ∈ ks, c.tree.isConstant shape = true) :
    ({ shape
       test := (ks.filterMap asConstant?).foldl
          (fun test c => StoredTest.insert c.value c.id test) (StoredTest.selector [])
       initialized := (ks.filterMap asConstant?).all (·.initialized)
       parent
       children := (ks.filterMap asConstant?).map (·.id) } : StoredNode) =
      stored parent (selectorHead shape ks) ks := by
  have named : ∀ c ∈ ks, ∃ v, c.constant? = some v :=
    fun c inside => constant?_of_isConstant (constants c inside)
  rw [ids_constants named, flags_constants named, table_constants (values_nodup distinct constants)]
  rfl

/-- Where there are enough constants of a shape they are gathered under a new selector. -/
theorem Bears.groupConstants (bears : s.Bears stem roots cs rows)
    (field : ∀ p ∈ stem, p.head.test ≠ .selector) (distinct : Distinct (trees cs))
    (present : cs.any (·.tree.isConstant shape) = true)
    (enough : ¬(cs.filter (·.tree.isConstant shape)).length < threshold) :
    ∃ selector s', s.groupConstants threshold (stem.map (·.id)) shape = .ok s' ∧
      s'.Bears stem roots (gathered selector shape cs) rows := by
  have named : ∀ c ∈ cs.filter (·.tree.isConstant shape), ∃ v, c.constant? = some v :=
    named_of_filter
  have perm := fun selector => rowsAll_perm (stem.map (·.id)) (gathered_perm selector shape cs)
  have constants : ∀ c ∈ cs.filter (·.tree.isConstant shape), c.tree.isConstant shape = true :=
    fun c inside => (List.mem_filter.mp inside).2
  have apart : Distinct (trees (cs.filter (·.tree.isConstant shape))) := by
    unfold Distinct at distinct ⊢
    rw [trees_eq_map] at distinct ⊢
    exact distinct.sublist ((List.filter_sublist.map _).map _)
  have split := rowsAll_perm (stem.map (·.id)) (List.filter_append_perm (·.tree.isConstant shape) cs)
  rw [rowsAll_append] at split
  have middle := (split.append_right rows).symm
  rw [List.append_assoc] at middle
  have middle := (middle.append_left (stemRow stem cs)).trans (List.perm_append_comm_assoc _ _ _)
  -- the selector gets its slot
  have alloc := Holds.alloc bears { shape, test := .selector [], parent := stem.map (·.id) }
  rcases allocated : s.alloc { shape, test := .selector [], parent := stem.map (·.id) } with
    ⟨selector, s₁⟩
  rw [allocated] at alloc
  have new : selector ∉ cs.map PlacedNode.id := fun inside => by
    have fresh := (List.nodup_cons.mp alloc.once).1
    rw [List.map_append, List.map_append] at fresh
    exact fresh (List.mem_append_right _ (List.mem_append_left _ ((ids_sublist _ cs).subset inside)))
  -- the constants move under it
  have sorted : s₁.Holds (rootsWith stem cs roots)
      (rowsAll (stem.map (·.id)) (cs.filter (·.tree.isConstant shape)) ++
        (selector, { shape, test := .selector [], parent := stem.map (·.id) }) ::
          (stemRow stem cs ++
            (rowsAll (stem.map (·.id)) (cs.filter (!·.tree.isConstant shape)) ++ rows))) :=
    alloc.perm ((middle.cons _).trans List.perm_middle.symm)
  obtain ⟨s₂, moved, holds₂⟩ := Holds.reparent selector named sorted
  -- and it takes them down
  obtain ⟨s₃, taken, holds₃, -⟩ := (holds₂.perm List.perm_middle).modify fun n =>
      { n with
        children := ((cs.filter (·.tree.isConstant shape)).filterMap asConstant?).map (·.id)
        test := ((cs.filter (·.tree.isConstant shape)).filterMap asConstant?).foldl
          (fun test c => test.insert c.value c.id) (.selector [])
        initialized :=
          ((cs.filter (·.tree.isConstant shape)).filterMap asConstant?).all (·.initialized) }
  dsimp only at holds₃
  rw [stored_constants _ shape apart constants] at holds₃
  have grows : s₃.Grows stem roots cs
      (rowsAll (stem.map (·.id)) (gathered selector shape cs) ++ rows) := by
    refine holds₃.perm ?_
    have all := ((perm selector).append_right rows).append_left (stemRow stem cs)
    rw [rowsAll_cons, rows_node, List.append_assoc] at all
    exact (List.perm_append_comm_assoc (_ :: _) _ _).trans all.symm
  obtain ⟨s₄, placed, grows'⟩ := grows.setChildren field (ids_gathered bears.ids_nodup new present)
  refine ⟨selector, s₄, ?_, grows'⟩
  rw [← ids_constants named] at placed
  simp only [NodeStore.groupConstants, bears.childrenOf, bears.constants, length_constants named,
    if_neg enough, allocated, moved, taken, placed, bind, Except.bind]

end NodeStore

end FactBase

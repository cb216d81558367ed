import FactBase.Proofs.Pattern.Siblings

/-!
# Adding entries to nodes in slots

Where a step finds no node it takes a slot for one. Once an entry has gone down its path and the flags
on the way back are taken, the slots hold the tree that leading the entry along the path makes of the
tree that they held before.
-/

namespace FactBase

namespace PatternNode

open PatternTree

variable {ms ns : List PatternNode} {n : PatternNode} {head : NodeHead} {step : PathStep}
  {rest : List PathStep} {threshold : Nat} {entry : EntryId} {v : Value}

theorem modifyFirst_middle {α : Type} {p : α → Bool} {f : α → α} {xs ys : List α} {x : α}
    (before : ∀ a ∈ xs, p a = false) (here : p x = true) :
    modifyFirst p f (xs ++ x :: ys) = xs ++ f x :: ys := by
  induction xs with
  | nil => rw [List.nil_append, modifyFirst, if_pos here, List.nil_append]
  | cons a xs ih =>
    obtain ⟨first, before⟩ := List.forall_mem_cons.mp before
    rw [List.cons_append, modifyFirst, first, if_neg Bool.false_ne_true, ih before, List.cons_append]

theorem any_middle {α : Type} {p : α → Bool} {xs ys : List α} {x : α} (here : p x = true) :
    (xs ++ x :: ys).any p = true :=
  List.any_eq_true.mpr ⟨x, List.mem_append_right _ List.mem_cons_self, here⟩

theorem any_none {α : Type} {p : α → Bool} {xs : List α} (none : ∀ a ∈ xs, p a = false) :
    xs.any p = false :=
  List.any_eq_false.mpr fun a inside => by rw [none a inside]; exact Bool.false_ne_true

/-! ### The ways in which an entry is led on -/

theorem insertPath_selected (constant : step.constant? = some v)
    (before : ∀ m ∈ ms, m.selects step.shape = false) (here : n.selects step.shape = true) :
    insertPath threshold entry (step :: rest) (ms ++ n :: ns) =
      ms ++ enterCase threshold entry step rest v n :: ns := by
  rw [insertPath_cons, constant]
  dsimp only
  rw [any_middle (p := fun m : PatternNode => m.selects step.shape) here, if_pos rfl,
    modifyFirst_middle before here]

theorem insertPath_shared
    (free : ∀ v, step.constant? = some v → ∀ m ∈ ms ++ n :: ns, m.selects step.shape = false)
    (before : ∀ m ∈ ms, m.performs step = false) (here : n.performs step = true) :
    insertPath threshold entry (step :: rest) (ms ++ n :: ns) =
      ms ++ enter threshold entry rest n :: ns := by
  rw [insertPath_cons, any_middle (p := fun m : PatternNode => m.performs step) here, if_pos rfl,
    modifyFirst_middle before here]
  cases constant : step.constant? with
  | none => rfl
  | some v =>
    dsimp only
    rw [any_none (free v constant), if_neg Bool.false_ne_true]

theorem insertPath_other (constant : step.constant? = none)
    (none : ∀ m ∈ ns, m.performs step = false) :
    insertPath threshold entry (step :: rest) ns =
      ns ++ [enter threshold entry rest (blank step)] := by
  rw [insertPath_cons, constant]
  dsimp only
  rw [any_none none, if_neg Bool.false_ne_true]

theorem insertPath_constant (constant : step.constant? = some v)
    (free : ∀ m ∈ ns, m.selects step.shape = false) (none : ∀ m ∈ ns, m.performs step = false) :
    insertPath threshold entry (step :: rest) ns =
      groupConstants threshold step.shape (ns ++ [enter threshold entry rest (blank step)]) := by
  rw [insertPath_cons, constant]
  dsimp only
  rw [any_none free, if_neg Bool.false_ne_true, any_none none, if_neg Bool.false_ne_true]

theorem enterCase_found (before : ∀ m ∈ ms, m.isCase v = false) (here : n.isCase v = true) :
    enterCase threshold entry step rest v (.node head (ms ++ n :: ns)) =
      .node { head with initialized := false } (ms ++ enter threshold entry rest n :: ns) := by
  unfold enterCase
  rw [show (PatternNode.node head (ms ++ n :: ns)).children = ms ++ n :: ns from rfl,
    any_middle (p := fun m : PatternNode => m.isCase v) here, if_pos rfl,
    modifyFirst_middle before here]
  rfl

theorem enterCase_new (none : ∀ m ∈ ns, m.isCase v = false) :
    enterCase threshold entry step rest v (.node head ns) =
      .node { head with initialized := false } (ns ++ [enter threshold entry rest (blank step)]) := by
  unfold enterCase
  rw [show (PatternNode.node head ns).children = ns from rfl, any_none none,
    if_neg Bool.false_ne_true]
  rfl

end PatternNode

namespace PlacedNode

open PatternNode PatternTree

variable {cs ks l r l' r' : List PlacedNode} {d : PlacedNode} {i j : NodeId} {head : NodeHead}
  {step : PathStep} {threshold : Nat} {v : Value}

/-- A step leads from siblings to a node in a place. Once an entry has entered the node, the siblings
are what the entry makes of them. -/
structure Leads (threshold : Nat) (step : PathStep) (cs : List PlacedNode) (g : Gap)
    (d : PlacedNode) : Prop where
  sound : Sound d.tree
  performs : d.tree.performs step = true
  seats : (seatsAll (g.fill d)).Perm (seatsAll cs)
  enters : ∀ entry rest d', d'.tree = enter threshold entry rest d.tree →
    trees (g.unflagged.fill d') = insertPath threshold entry (step :: rest) (trees cs)

/-- The node that a step leads to is no selector. -/
theorem Leads.field {cs : List PlacedNode} {g : Gap} {d : PlacedNode}
    (leads : Leads threshold step cs g d) : d.head.test ≠ .selector := by
  have named := congrArg Prod.snd (performs_iff.mp leads.performs)
  have test : d.head.test = .field step.test := head_tree d ▸ named
  rw [test]
  nofun

theorem forall_trees {q : PatternNode → Bool} (none : ∀ c ∈ cs, q c.tree = false) :
    ∀ n ∈ trees cs, q n = false := by
  rw [trees_eq_map]
  exact List.forall_mem_map.mpr none

/-- The node for a step that no sibling performs, in a new slot. -/
def placedBlank (j : NodeId) (step : PathStep) : PlacedNode :=
  .node j { shape := step.shape, test := .field step.test } []

theorem tree_placedBlank (j : NodeId) (step : PathStep) : (placedBlank j step).tree = blank step := by
  rw [placedBlank, tree, trees_nil]
  rfl

theorem seats_placedBlank (j : NodeId) (step : PathStep) : (placedBlank j step).seats = [] := by
  rw [placedBlank, seats_node, seatsAll]
  rfl

/-- The constant has its place below a selector. -/
theorem leads_case (constant : step.constant? = some v)
    (sound : SoundAll (trees (l ++ .node i head (l' ++ d :: r') :: r)))
    (before : ∀ c ∈ l, c.tree.selects step.shape = false)
    (selects : (tree (.node i head (l' ++ d :: r'))).selects step.shape = true)
    (others : ∀ c ∈ l', c.tree.isCase v = false) (case : d.tree.isCase v = true) :
    Leads threshold step (l ++ .node i head (l' ++ d :: r') :: r) (.chosen l i head l' r' r) d := by
  rw [trees_append, trees_cons, tree_node, trees_append, trees_cons] at sound
  rw [tree_node, trees_append, trees_cons] at selects
  have above := sound.2 _ (List.mem_append_right _ List.mem_cons_self)
  have inside : d.tree ∈ trees l' ++ d.tree :: trees r' := List.mem_append_right _ List.mem_cons_self
  refine ⟨above.children.2 _ inside, (enterCase_performs above constant selects inside).mp case,
    .refl _, fun entry rest d' entered => ?_⟩
  rw [trees_append, trees_cons, tree_node, trees_append, trees_cons,
    insertPath_selected constant (forall_trees before) selects,
    enterCase_found (forall_trees others) case, Gap.unflagged, Gap.fill, trees_append, trees_cons,
    tree_node, trees_append, trees_cons, entered]

/-- The constant gets a place below a selector. -/
theorem leads_newCase (constant : step.constant? = some v)
    (before : ∀ c ∈ l, c.tree.selects step.shape = false)
    (selects : (tree (.node i head ks)).selects step.shape = true)
    (others : ∀ c ∈ ks, c.tree.isCase v = false) (j : NodeId) :
    Leads threshold step (l ++ .node i head ks :: r) (.chosen l i head ks [] r)
      (placedBlank j step) := by
  rw [tree_node] at selects
  refine ⟨by rw [tree_placedBlank]; exact sound_blank step,
    by rw [tree_placedBlank]; exact blank_performs step, ?_, fun entry rest d' entered => ?_⟩
  · rw [Gap.fill]
    simp only [seatsAll_eq_flatMap, List.flatMap_append, List.flatMap_cons, List.flatMap_nil,
      seats_node, seats_placedBlank, List.append_nil]
    exact .refl _
  · rw [tree_placedBlank] at entered
    rw [trees_append, trees_cons, tree_node,
      insertPath_selected constant (forall_trees before) selects,
      enterCase_new (forall_trees others), Gap.unflagged, Gap.fill, trees_append, trees_cons,
      tree_node, trees_append, trees_cons, trees_nil, entered]

/-- A sibling performs the step. -/
theorem leads_shared (sound : SoundAll (trees (l ++ d :: r)))
    (free : ∀ v, step.constant? = some v → ∀ c ∈ l ++ d :: r, c.tree.selects step.shape = false)
    (before : ∀ c ∈ l, c.tree.performs step = false) (here : d.tree.performs step = true) :
    Leads threshold step (l ++ d :: r) (.direct l r) d := by
  have free' : ∀ v, step.constant? = some v →
      ∀ m ∈ trees l ++ d.tree :: trees r, m.selects step.shape = false := fun v constant => by
    rw [← trees_cons, ← trees_append]
    exact forall_trees (free v constant)
  rw [trees_append, trees_cons] at sound
  refine ⟨sound.2 _ (List.mem_append_right _ List.mem_cons_self), here, .refl _,
    fun entry rest d' entered => ?_⟩
  rw [trees_append, trees_cons, insertPath_shared free' (forall_trees before) here, Gap.unflagged,
    Gap.fill, trees_append, trees_cons, entered]

theorem filter_trees (q : PatternNode → Bool) (cs : List PlacedNode) :
    (trees cs).filter q = trees (cs.filter (q ·.tree)) := by
  rw [trees_eq_map, trees_eq_map, List.filter_map]
  rfl

theorem takeWhile_trees (q : PatternNode → Bool) (cs : List PlacedNode) :
    (trees cs).takeWhile q = trees (cs.takeWhile (q ·.tree)) := by
  rw [trees_eq_map, trees_eq_map, List.takeWhile_map]
  rfl

theorem dropWhile_trees (q : PatternNode → Bool) (cs : List PlacedNode) :
    (trees cs).dropWhile q = trees (cs.dropWhile (q ·.tree)) := by
  rw [trees_eq_map, trees_eq_map, List.dropWhile_map]
  rfl

theorem isConstant_enter (threshold : Nat) (entry : EntryId) (rest : List PathStep)
    (constant : step.constant? = some v) :
    (enter threshold entry rest (blank step)).isConstant step.shape = true := by
  obtain ⟨-, test⟩ := constant?_eq_some constant
  refine isConstant_iff.mpr ⟨v, ?_⟩
  rw [key_enter, ← test]
  rfl

theorem isConstant_placedBlank (j : NodeId) (constant : step.constant? = some v) :
    (placedBlank j step).tree.isConstant step.shape = true := by
  obtain ⟨-, test⟩ := constant?_eq_some constant
  rw [tree_placedBlank]
  exact isConstant_iff.mpr ⟨v, test ▸ rfl⟩

/-- An entry has entered a new sibling, which is one more constant. -/
theorem filter_entered (threshold : Nat) (entry : EntryId) (rest : List PathStep)
    (constant : step.constant? = some v) (j : NodeId) (cs : List PlacedNode) :
    (trees cs ++ [enter threshold entry rest (blank step)]).filter (·.isConstant step.shape) =
        trees (cs.filter (·.tree.isConstant step.shape)) ++
          [enter threshold entry rest (blank step)] ∧
      (cs ++ [placedBlank j step]).filter (·.tree.isConstant step.shape) =
        cs.filter (·.tree.isConstant step.shape) ++ [placedBlank j step] := by
  have here := isConstant_enter threshold entry rest constant
  have there := isConstant_placedBlank j constant
  rw [List.filter_append, List.filter_append, filter_trees]
  exact ⟨by simp [here], by simp [there]⟩

theorem takeWhile_concat {α : Type} {p : α → Bool} {x : α} (no : p x = false) (xs : List α) :
    (xs ++ [x]).takeWhile p = xs.takeWhile p := by
  induction xs with
  | nil => simp [no]
  | cons a xs ih =>
    cases first : p a with
    | true => simpa [first] using ih
    | false => simp [first]

theorem filter_dropWhile_concat {α : Type} {p : α → Bool} {x : α} (no : p x = false) (xs : List α) :
    ((xs ++ [x]).dropWhile p).filter p = (xs.dropWhile p).filter p := by
  induction xs with
  | nil => simp [no]
  | cons a xs ih =>
    cases first : p a with
    | true => simpa [first] using ih
    | false => simp [first, no]

theorem seatsAll_append (cs ks : List PlacedNode) :
    seatsAll (cs ++ ks) = seatsAll cs ++ seatsAll ks := by
  simp only [seatsAll_eq_flatMap, List.flatMap_append]

/-- Nothing ends at a new node. -/
theorem seatsAll_concat_blank (j : NodeId) (step : PathStep) (cs : List PlacedNode) :
    seatsAll (cs ++ [placedBlank j step]) = seatsAll cs := by
  rw [seatsAll_append, seatsAll, seats_placedBlank, seatsAll, List.append_nil, List.append_nil]

/-- Gathering leaves all entries where they are. -/
theorem seatsAll_gathered (i : NodeId) (shape : Shape) (cs : List PlacedNode) :
    (seatsAll (gathered i shape cs)).Perm (seatsAll cs) := by
  refine (seatsAll_perm (gathered_perm i shape cs)).trans ?_
  rw [seatsAll, seats_node, selectorHead, List.map_nil, List.nil_append, ← seatsAll_append]
  exact seatsAll_perm (List.filter_append_perm _ cs)

/-- A new sibling performs the step, and does not make for a selector. -/
theorem leads_fresh (none : ∀ c ∈ cs, c.tree.performs step = false)
    (few : ∀ v, step.constant? = some v → (∀ c ∈ cs, c.tree.selects step.shape = false) ∧
      ((cs ++ [placedBlank j step]).filter (·.tree.isConstant step.shape)).length < threshold) :
    Leads threshold step cs (.direct cs []) (placedBlank j step) := by
  refine ⟨by rw [tree_placedBlank]; exact sound_blank step,
    by rw [tree_placedBlank]; exact blank_performs step, ?_, fun entry rest d' entered => ?_⟩
  · exact .of_eq (seatsAll_concat_blank j step cs)
  · rw [tree_placedBlank] at entered
    rw [Gap.unflagged, Gap.fill, trees_append, trees_cons, trees_nil, entered]
    cases constant : step.constant? with
    | none => exact (insertPath_other constant (forall_trees none)).symm
    | some v =>
      obtain ⟨free, few⟩ := few v constant
      obtain ⟨tested, placed⟩ := filter_entered threshold entry rest constant j cs
      rw [insertPath_constant constant (forall_trees free) (forall_trees none), groupConstants_few]
      rw [placed, List.length_append] at few
      rw [tested, List.length_append, trees_eq_map, List.length_map]
      exact Nat.not_le.mpr few

/-- The place that a new constant gets if the constants of its shape are gathered. -/
def gatheredGap (i j : NodeId) (step : PathStep) (cs : List PlacedNode) : Gap :=
  .chosen (cs.takeWhile (!·.tree.isConstant step.shape)) i
    (selectorHead step.shape (cs.filter (·.tree.isConstant step.shape) ++ [placedBlank j step]))
    (cs.filter (·.tree.isConstant step.shape)) []
    ((cs.dropWhile (!·.tree.isConstant step.shape)).filter (!·.tree.isConstant step.shape))

/-- A new sibling performs the step, and goes under a selector with the other constants. -/
theorem leads_gathered (constant : step.constant? = some v)
    (free : ∀ c ∈ cs, c.tree.selects step.shape = false)
    (none : ∀ c ∈ cs, c.tree.performs step = false)
    (enough : ¬((cs ++ [placedBlank j step]).filter (·.tree.isConstant step.shape)).length < threshold)
    (i : NodeId) : ∃ g : Gap, g.fill (placedBlank j step) =
        gathered i step.shape (cs ++ [placedBlank j step]) ∧
      Leads threshold step cs g (placedBlank j step) := by
  have there := isConstant_placedBlank j constant
  obtain ⟨-, placed⟩ := filter_entered threshold ⟨0⟩ [] constant j cs
  have front := takeWhile_concat (p := fun c : PlacedNode => !c.tree.isConstant step.shape)
    (x := placedBlank j step) (by rw [there]; rfl) cs
  have back := filter_dropWhile_concat (p := fun c : PlacedNode => !c.tree.isConstant step.shape)
    (x := placedBlank j step) (by rw [there]; rfl) cs
  have filled : (gatheredGap i j step cs).fill (placedBlank j step) =
      gathered i step.shape (cs ++ [placedBlank j step]) := by
    rw [gathered, placed, front, back]
    rfl
  refine ⟨gatheredGap i j step cs, filled, by rw [tree_placedBlank]; exact sound_blank step,
    by rw [tree_placedBlank]; exact blank_performs step, ?_, fun entry rest d' entered => ?_⟩
  · rw [filled]
    exact (seatsAll_gathered i step.shape _).trans (.of_eq (seatsAll_concat_blank j step cs))
  · rw [tree_placedBlank] at entered
    have here := isConstant_enter threshold entry rest constant
    have front' := takeWhile_concat (p := fun n : PatternNode => !n.isConstant step.shape)
      (x := enter threshold entry rest (blank step)) (by rw [here]; rfl) (trees cs)
    have back' := filter_dropWhile_concat (p := fun n : PatternNode => !n.isConstant step.shape)
      (x := enter threshold entry rest (blank step)) (by rw [here]; rfl) (trees cs)
    obtain ⟨tested, -⟩ := filter_entered threshold entry rest constant j cs
    rw [placed, List.length_append] at enough
    rw [insertPath_constant constant (forall_trees free) (forall_trees none), groupConstants, tested]
    dsimp only
    rw [front', back', if_neg (by rwa [List.length_append, trees_eq_map, List.length_map])]
    -- the new constant is not flagged, so the selector is not
    have unflagged (ns : List PatternNode) :
        (ns ++ [enter threshold entry rest (blank step)]).all (·.head.initialized) = false := by
      rw [List.all_append]
      exact Bool.and_false _
    rw [unflagged, takeWhile_trees, dropWhile_trees, filter_trees, gatheredGap, Gap.unflagged,
      Gap.fill, trees_append, trees_cons, tree_node, trees_append, trees_cons, trees_nil, entered]
    rfl

end PlacedNode

namespace NodeStore

open PlacedNode PatternNode PatternTree

variable {s : NodeStore} {stem : Option Stem} {roots : List NodeId} {cs : List PlacedNode}
  {rows : List SlotRow} {step : PathStep} {threshold : Nat}

theorem Bears.find (bears : s.Bears stem roots cs rows) (p : StoredNode → Bool)
    (q : PlacedNode → Bool)
    (same : ∀ c ∈ cs, p (stored (stem.map (·.id)) c.head c.children) = q c) :
    s.find p (cs.map PlacedNode.id) = .ok ((cs.find? q).map PlacedNode.id) :=
  Holds.find bears p q same fun _ inside =>
    List.mem_append_right _ (List.mem_append_left _ (PlacedNode.row_mem inside))

/-- The selector for a step is looked for if the step is a constant. -/
theorem Bears.selectorFor (bears : s.Bears stem roots cs rows) (step : PathStep) :
    s.selectorFor step (cs.map PlacedNode.id) = .ok (step.constant?.bind fun v =>
      (cs.find? (·.tree.selects step.shape)).map fun c => (v, c.id)) := by
  unfold NodeStore.selectorFor
  cases step.constant? with
  | none => rfl
  | some v =>
    dsimp only
    rw [bears.find (·.selects step.shape) (·.tree.selects step.shape)
      fun c _ => selects_stored _ c step.shape]
    change Except.ok _ = Except.ok _
    rw [Option.map_map, Option.bind_some]
    rfl

theorem find?_eq_append {α : Type} {p : α → Bool} {xs : List α} {x : α} (found : xs.find? p = some x) :
    ∃ ys zs, xs = ys ++ x :: zs ∧ p x = true ∧ ∀ y ∈ ys, p y = false := by
  obtain ⟨here, ys, zs, rfl, before⟩ := List.find?_eq_some_iff_append.mp found
  exact ⟨ys, zs, rfl, here, fun y inside => by simpa using before y inside⟩

theorem constant?_placedBlank {v : Value} (j : NodeId) (constant : step.constant? = some v) :
    (placedBlank j step).constant? = some v := by
  obtain ⟨-, test⟩ := constant?_eq_some constant
  rw [PlacedNode.constant?, placedBlank, PlacedNode.head, test]

/-- A new case of a selector is kept below it, and in its table. -/
theorem link_stored {v : Value} {ks : List PlacedNode} {head : NodeHead} (parent : Option NodeId)
    (j : NodeId) (constant : step.constant? = some v) (selector : head.test = .selector)
    (none : ks.find? (·.tree.isCase v) = none) :
    (stored parent head ks).link v j = stored parent head (ks ++ [placedBlank j step]) := by
  have kept : (tableOf ks).filter (·.1 != v) = tableOf ks := by
    refine List.filter_eq_self.mpr fun x inside => ?_
    obtain ⟨c, listed, named, -⟩ := mem_tableOf.mp inside
    have other := List.find?_eq_none.mp none c listed
    rw [isCase_tree, named] at other
    simpa using other
  have row : tableOf [placedBlank j step] = [(v, j)] :=
    tableOf_cons_some (constant?_placedBlank j constant) []
  unfold StoredNode.link stored
  rw [selector, storedTest, storedTest, StoredTest.insert, kept, tableOf_append, row, List.map_append]
  rfl

/-- Below a selector a case gets a slot if there is none for its value. -/
theorem Bears.newCase {l r ks : List PlacedNode} {i : NodeId} {head : NodeHead} {v : Value}
    (bears : s.Bears stem roots (l ++ .node i head ks :: r) rows) (constant : step.constant? = some v)
    (selector : head.test = .selector) (none : ks.find? (·.tree.isCase v) = none) :
    ∃ j s₁ s', s.alloc { shape := step.shape, test := .field step.test, parent := some i } = (j, s₁) ∧
      s₁.modify i (·.link v j) = .ok s' ∧
      s'.Bears stem roots (l ++ .node i head (ks ++ [placedBlank j step]) :: r) rows := by
  have focus := Bears.focus (g := .direct l r) bears
  have alloc := Holds.alloc focus { shape := step.shape, test := .field step.test, parent := some i }
  rcases allocated : s.alloc { shape := step.shape, test := .field step.test, parent := some i } with
    ⟨j, s₁⟩
  rw [allocated, rows_node] at alloc
  obtain ⟨s', done, holds, -⟩ := (alloc.perm (.swap _ _ _)).modify (·.link v j)
  refine ⟨j, s₁, s', rfl, done, ?_⟩
  change s'.Bears stem roots
    ((Gap.direct l r).fill (.node i head (ks ++ [placedBlank j step]))) rows
  refine Bears.of_focus (d := .node i head ks) rfl rfl ?_
  rw [rows_node, ← link_stored _ j constant selector none, rowsAll_append, rowsAll_cons, rowsAll_nil,
    List.append_nil, placedBlank, rows_node, rowsAll_nil]
  refine holds.perm (.cons _ ?_)
  change List.Perm (_ :: (rowsAll _ ks ++ _)) ((rowsAll _ ks ++ [_]) ++ _)
  rw [List.append_assoc]
  exact List.perm_middle.symm

/-- Below a stem a node gets a slot. -/
theorem Bears.newChild (bears : s.Bears stem roots cs rows)
    (field : ∀ p ∈ stem, p.head.test ≠ .selector) (step : PathStep) :
    ∃ j s₁ s', s.alloc { shape := step.shape, test := .field step.test, parent := stem.map (·.id) } =
        (j, s₁) ∧ s₁.setChildren (stem.map (·.id)) (· ++ [j]) = .ok s' ∧
      s'.Bears stem roots (cs ++ [placedBlank j step]) rows := by
  have alloc := Holds.alloc bears
    { shape := step.shape, test := .field step.test, parent := stem.map (·.id) }
  rcases allocated : s.alloc
    { shape := step.shape, test := .field step.test, parent := stem.map (·.id) } with ⟨j, s₁⟩
  rw [allocated] at alloc
  have grows : s₁.Grows stem roots cs _ := alloc.perm List.perm_middle.symm
  have added : cs.map PlacedNode.id ++ [j] = (cs ++ [placedBlank j step]).map PlacedNode.id := by
    rw [List.map_append]
    rfl
  obtain ⟨s', done, grows'⟩ := grows.setChildren field (f := (· ++ [j])) added
  refine ⟨j, s₁, s', rfl, done, grows'.perm ?_⟩
  rw [rowsAll_append, rowsAll_cons, rowsAll_nil, List.append_nil, placedBlank, rows_node, rowsAll_nil,
    List.append_assoc]
  exact List.perm_middle.symm

/-- What the table of a selector gives for a value is found among its children. -/
theorem lookup_stored {ks : List PlacedNode} {head : NodeHead} (parent : Option NodeId)
    (selector : head.test = .selector) (v : Value) :
    (stored parent head ks).test.lookup v = (ks.find? (·.tree.isCase v)).map PlacedNode.id := by
  rw [stored, selector]
  exact lookup_tableOf ks v

/-- A constant that joins its siblings keeps them apart from one another. -/
theorem distinct_concat_blank (sound : SoundAll (trees cs))
    (none : ∀ c ∈ cs, c.tree.performs step = false) (j : NodeId) :
    Distinct (trees (cs ++ [placedBlank j step])) := by
  rw [trees_append, trees_cons, trees_nil, tree_placedBlank]
  refine (soundAll_append sound (sound_blank step) fun inside => ?_).1
  obtain ⟨m, listed, same⟩ := List.mem_map.mp inside
  have performs := performs_iff.mpr same
  rw [forall_trees (q := (·.performs step)) none m listed] at performs
  exact Bool.false_ne_true performs

/-- A new child goes under a selector with the constants of its shape once there are enough. -/
theorem Bears.gather {v : Value} {j : NodeId}
    (bears : s.Bears stem roots (cs ++ [placedBlank j step]) rows)
    (field : ∀ p ∈ stem, p.head.test ≠ .selector) (sound : SoundAll (trees cs))
    (constant : step.constant? = some v)
    (free : ∀ c ∈ cs, c.tree.selects step.shape = false)
    (none : ∀ c ∈ cs, c.tree.performs step = false) (threshold : Nat) :
    ∃ (g : Gap) (s' : NodeStore), s.groupConstants threshold (stem.map (·.id)) step.shape = .ok s' ∧
      s'.Bears stem roots (g.fill (placedBlank j step)) rows ∧
      Leads threshold step cs g (placedBlank j step) := by
  by_cases few :
      ((cs ++ [placedBlank j step]).filter (·.tree.isConstant step.shape)).length < threshold
  · exact ⟨.direct cs [], s, bears.groupConstants_few few, bears,
      leads_fresh none fun _ _ => ⟨free, few⟩⟩
  · have some : (cs ++ [placedBlank j step]).any (·.tree.isConstant step.shape) = true :=
      any_middle (isConstant_placedBlank j constant)
    obtain ⟨i, s', gathers, bears'⟩ :=
      bears.groupConstants field (distinct_concat_blank sound none j) some few
    obtain ⟨g, filled, leads⟩ := leads_gathered constant free none few i
    exact ⟨g, s', gathers, filled ▸ bears', leads⟩

/-- A selector among siblings leads a constant to one of its cases, a new one if there is none. -/
theorem Bears.findOrInsert_case {l r ks : List PlacedNode} {i : NodeId} {head : NodeHead} {v : Value}
    (bears : s.Bears stem roots (l ++ .node i head ks :: r) rows)
    (sound : SoundAll (trees (l ++ .node i head ks :: r))) (threshold : Nat)
    (constant : step.constant? = some v)
    (selects : (PlacedNode.node i head ks).tree.selects step.shape = true)
    (before : ∀ c ∈ l, c.tree.selects step.shape = false)
    (selected : s.selectorFor step ((l ++ .node i head ks :: r).map PlacedNode.id) =
      .ok (some (v, i))) :
    ∃ (g : Gap) (d : PlacedNode) (s' : NodeStore),
      s.findOrInsert threshold (stem.map (·.id)) step = .ok (d.id, s') ∧
      s'.Bears stem roots (g.fill d) rows ∧
      Leads threshold step (l ++ .node i head ks :: r) g d := by
  have below := bears.childrenOf
  have selector : head.test = .selector := by
    have key := congrArg Prod.snd (selects_iff.mp selects)
    rwa [tree_node] at key
  have node : s.node i = .ok (stored (stem.map (·.id)) head ks) :=
    bears.row_mem (c := .node i head ks) (by simp)
  have lookup : (stored (stem.map (·.id)) head ks).test.lookup v = _ :=
    lookup_stored (stem.map (·.id)) selector v
  cases case : ks.find? (·.tree.isCase v) with
  | some d =>
    rw [case] at lookup
    obtain ⟨l', r', rfl, here, others⟩ := find?_eq_append case
    refine ⟨.chosen l i head l' r' r, d, s, ?_, bears,
      leads_case constant sound before selects others here⟩
    simp only [NodeStore.findOrInsert, below, selected, node, bind, Except.bind, lookup,
      Option.map_some]
  | none =>
    rw [case] at lookup
    obtain ⟨j, s₁, s', allocated, linked, bears'⟩ := bears.newCase constant selector case
    refine ⟨.chosen l i head ks [] r, placedBlank j step, s', ?_, bears',
      leads_newCase constant before selects (fun c inside => ?_) j⟩
    · simp only [NodeStore.findOrInsert, below, selected, node, bind, Except.bind, lookup,
        Option.map_none, allocated, linked]
      rfl
    · simpa using List.find?_eq_none.mp case c inside

/-- Without a selector a step leads to a sibling, a new one if there is none. -/
theorem Bears.findOrInsert_direct (bears : s.Bears stem roots cs rows)
    (field : ∀ p ∈ stem, p.head.test ≠ .selector) (sound : SoundAll (trees cs)) (threshold : Nat)
    (free : ∀ v, step.constant? = some v → ∀ c ∈ cs, c.tree.selects step.shape = false)
    (selected : s.selectorFor step (cs.map PlacedNode.id) = .ok none) :
    ∃ (g : Gap) (d : PlacedNode) (s' : NodeStore),
      s.findOrInsert threshold (stem.map (·.id)) step = .ok (d.id, s') ∧
      s'.Bears stem roots (g.fill d) rows ∧ Leads threshold step cs g d := by
  have below := bears.childrenOf
  have performed := bears.find (·.performs step) (·.tree.performs step)
    fun c _ => performs_stored _ c step
  cases existing : cs.find? (·.tree.performs step) with
  | some d =>
    rw [existing] at performed
    obtain ⟨l, r, rfl, here, before⟩ := find?_eq_append existing
    refine ⟨.direct l r, d, s, ?_, bears, leads_shared sound free before here⟩
    simp only [NodeStore.findOrInsert, below, selected, performed, bind, Except.bind,
      Option.map_some]
  | none =>
    rw [existing] at performed
    have none : ∀ c ∈ cs, c.tree.performs step = false := fun c inside => by
      simpa using List.find?_eq_none.mp existing c inside
    obtain ⟨j, s₁, s', allocated, set, bears'⟩ := bears.newChild field step
    cases constant : step.constant? with
    | none =>
      refine ⟨.direct cs [], placedBlank j step, s', ?_, bears',
        leads_fresh none fun v some => absurd (constant.symm.trans some) nofun⟩
      simp only [NodeStore.findOrInsert, below, selected, performed, bind, Except.bind,
        Option.map_none, allocated, set, constant]
      rfl
    | some v =>
      obtain ⟨g, s'', gathers, bears'', leads⟩ :=
        bears'.gather field sound constant (free v constant) none threshold
      refine ⟨g, placedBlank j step, s'', ?_, bears'', leads⟩
      simp only [NodeStore.findOrInsert, below, selected, performed, bind, Except.bind,
        Option.map_none, allocated, set, constant, gathers]
      rfl

/-- A step leads from siblings to a node, in the slots as in the tree. -/
theorem Bears.findOrInsert (bears : s.Bears stem roots cs rows)
    (field : ∀ p ∈ stem, p.head.test ≠ .selector) (sound : SoundAll (trees cs)) (threshold : Nat)
    (step : PathStep) : ∃ (g : Gap) (d : PlacedNode) (s' : NodeStore),
      s.findOrInsert threshold (stem.map (·.id)) step = .ok (d.id, s') ∧
      s'.Bears stem roots (g.fill d) rows ∧ Leads threshold step cs g d := by
  have selected := bears.selectorFor step
  cases chosen : step.constant?.bind fun v =>
      (cs.find? (·.tree.selects step.shape)).map fun c => (v, c.id) with
  | some found =>
    rw [chosen] at selected
    obtain ⟨v, constant, chosen⟩ := Option.bind_eq_some_iff.mp chosen
    obtain ⟨σ, first, rfl⟩ := Option.map_eq_some_iff.mp chosen
    obtain ⟨l, r, rfl, selects, before⟩ := find?_eq_append first
    obtain ⟨i, head, ks⟩ := σ
    exact bears.findOrInsert_case sound threshold constant selects before selected
  | none =>
    rw [chosen] at selected
    refine bears.findOrInsert_direct field sound threshold (fun v constant c inside => ?_) selected
    rw [constant, Option.bind_some, Option.map_eq_none_iff] at chosen
    simpa using List.find?_eq_none.mp chosen c inside

/-! ### The way down and back up -/

/-- The end of a path is reached from a place, an entry is put there, and from there up to another
place the flags are taken back, over so many nodes. -/
def Lands (threshold : Nat) (entry : EntryId) (s : NodeStore) (place : Option NodeId)
    (path : List PathStep) (leaf : NodeId) (s' : NodeStore) (top : Option NodeId) (k : Nat) : Prop :=
  ∃ s₁ s₂ : NodeStore, s.descend threshold place path = .ok (some leaf, s₁) ∧
    s₁.modify leaf (fun n => { n with entries := n.entries ++ [entry] }) = .ok s₂ ∧
    (∀ j, s₂.unflag (j + k) (some leaf) = s'.unflag j top) ∧ s'.slots.size = s₂.slots.size

variable {entry : EntryId} {s' s'' : NodeStore} {place top top' : Option NodeId}
  {path rest : List PathStep} {leaf : NodeId} {k k' : Nat} {g : Gap} {d d' : PlacedNode}

theorem Lands.from (lands : Lands threshold entry s (some d.id) rest leaf s' top k)
    {before : NodeStore} (leads : before.findOrInsert threshold place step = .ok (d.id, s)) :
    Lands threshold entry before place (step :: rest) leaf s' top k := by
  obtain ⟨s₁, s₂, descends, others⟩ := lands
  refine ⟨s₁, s₂, ?_, others⟩
  rw [NodeStore.descend, leads]
  exact descends

theorem Lands.climb (lands : Lands threshold entry s place path leaf s' top k)
    (climbs : ∀ j, s'.unflag (j + k') top = s''.unflag j top')
    (size : s''.slots.size = s'.slots.size) :
    Lands threshold entry s place path leaf s'' top' (k' + k) := by
  obtain ⟨s₁, s₂, descends, entered, unflags, size'⟩ := lands
  refine ⟨s₁, s₂, descends, entered, fun j => ?_, size.trans size'⟩
  rw [← Nat.add_assoc, unflags, climbs]

/-- What ends in and around a place: around it nothing changes with the node in it. -/
theorem seatsAll_fill (g : Gap) : ∃ others : List (NodeId × EntryId), ∀ d,
    (seatsAll (g.fill d)).Perm (seats d ++ others) ∧
      (seatsAll (g.unflagged.fill d)).Perm (seats d ++ others) := by
  cases g with
  | direct before after =>
    exact ⟨seatsAll (before ++ after), fun d =>
      ⟨seatsAll_middle before after d, seatsAll_middle before after d⟩⟩
  | chosen before i head left right after =>
    refine ⟨head.entries.map (i, ·) ++ seatsAll (left ++ right) ++ seatsAll (before ++ after),
      fun d => ?_⟩
    have inner := seatsAll_middle left right d
    have whole (flag : Bool) : (seatsAll (before ++
        .node i { head with initialized := flag } (left ++ d :: right) :: after)).Perm
          (seats d ++ (head.entries.map (i, ·) ++ seatsAll (left ++ right) ++
            seatsAll (before ++ after))) := by
      refine (seatsAll_middle before after _).trans ?_
      rw [seats_node, ← List.append_assoc (seats d), ← List.append_assoc (seats d)]
      refine .append_right _ ((inner.append_left _).trans ?_)
      rw [← List.append_assoc]
      exact List.perm_append_comm.append_right _
    exact ⟨whole head.initialized, whole false⟩

/-- The node that a step leads to has become what an entry makes of it; then so have its siblings. -/
theorem Bears.entered (leads : Leads threshold step cs g d)
    (holds : s.Holds (rootsWith stem (g.fill d) roots)
      (PlacedNode.rows (g.above (stem.map (·.id))) d' ++
        (stemRow stem (g.fill d) ++ (g.around (stem.map (·.id)) d ++ rows))))
    (same : d'.id = d.id) (tree : d'.tree = enter threshold entry rest d.tree)
    (seats : (seats d').Perm ((leaf, entry) :: PlacedNode.seats d))
    (short : k ≤ (PlacedNode.rows (g.above (stem.map (·.id))) d').length) :
    ∃ (s' : NodeStore) (k' : Nat) (ds : List PlacedNode),
      (∀ j, s.unflag (j + k') (g.above (stem.map (·.id))) = s'.unflag j (stem.map (·.id))) ∧
      s'.slots.size = s.slots.size ∧ s'.Bears stem roots ds rows ∧
      trees ds = insertPath threshold entry (step :: rest) (trees cs) ∧
      (seatsAll ds).Perm ((leaf, entry) :: seatsAll cs) ∧
      k' + k ≤ (rowsAll (stem.map (·.id)) ds).length := by
  have constant : d'.constant? = d.constant? := by
    have test : d'.head.test = d.head.test := by
      rw [← head_tree, tree, ← head_tree]
      rfl
    rw [PlacedNode.constant?, PlacedNode.constant?, test]
  obtain ⟨s', k', climbs, bears, size, low⟩ := (Bears.of_focus same constant holds).unflag
  refine ⟨s', k', g.unflagged.fill d', climbs, size, bears, leads.enters entry rest d' tree, ?_, ?_⟩
  · obtain ⟨others, around⟩ := seatsAll_fill g
    calc seatsAll (g.unflagged.fill d')
        |>.Perm (PlacedNode.seats d' ++ others) := (around d').2
      _ |>.Perm ((leaf, entry) :: (PlacedNode.seats d ++ others)) := seats.append_right others
      _ |>.Perm ((leaf, entry) :: seatsAll cs) := ((around d).1.symm.trans leads.seats).cons _
  · have above : g.unflagged.above (stem.map (·.id)) = g.above (stem.map (·.id)) := by
      cases g <;> rfl
    have count := (g.unflagged.rowsAll_fill (stem.map (·.id)) d').length_eq
    rw [List.length_append, above] at count
    omega

/-- Entering a node: down from it to the end of a path, and with the flags back up past it. -/
theorem Holds.enter {parent : Option NodeId} (threshold : Nat) (entry : EntryId)
    (path : List PathStep) (holds : s.Holds roots (PlacedNode.rows parent d ++ rows))
    (sound : Sound d.tree) (field : d.head.test ≠ .selector) :
    ∃ (leaf : NodeId) (s' : NodeStore) (k : Nat) (d' : PlacedNode),
      Lands threshold entry s (some d.id) path leaf s' parent k ∧
      s'.Holds roots (PlacedNode.rows parent d' ++ rows) ∧ d'.id = d.id ∧
      d'.tree = enter threshold entry path d.tree ∧
      (seats d').Perm ((leaf, entry) :: seats d) ∧ k ≤ (PlacedNode.rows parent d').length := by
  induction path generalizing s d parent roots rows with
  | nil =>
    obtain ⟨i, head, children⟩ := d
    rw [rows_node, List.cons_append] at holds
    obtain ⟨s₁, entered, holds₁, -⟩ := holds.modify fun n => { n with entries := n.entries ++ [entry] }
    obtain ⟨s₂, climbs, holds₂, size⟩ := holds₁.unflag
    refine ⟨i, s₂, 1, .node i { head with initialized := false, entries := head.entries ++ [entry] }
      children, ⟨s, s₁, rfl, entered, climbs, size⟩, ?_, rfl, ?_, ?_, ?_⟩
    · rw [rows_node]
      exact holds₂
    · rw [tree_node, tree_node]
      rfl
    · rw [seats_node, seats_node, List.map_append, List.append_assoc]
      exact List.perm_middle
    · rw [rows_node]
      exact Nat.succ_le_succ (Nat.zero_le _)
  | cons step rest ih =>
    obtain ⟨i, head, children⟩ := d
    rw [tree_node] at sound
    have stem : s.Bears (some ⟨i, head, parent⟩) roots children rows := by
      rw [rows_node] at holds
      exact holds
    -- the way goes on into a child; on the way back the child comes first, then what stands between,
    -- and the node itself last
    obtain ⟨g, c, s₁, found, bears, leads⟩ := stem.findOrInsert
      (fun p same => Option.some.inj same ▸ field) sound.children threshold step
    obtain ⟨leaf, s₂, k, c', lands, holds', same, tree, seats, short⟩ :=
      ih bears.focus leads.sound leads.field
    obtain ⟨s₃, k', ds, climbs, size, bears', trees, seats', short'⟩ :=
      Bears.entered leads holds' same tree seats short
    obtain ⟨s₄, up, holds₄, size'⟩ := Holds.unflag bears'
    refine ⟨leaf, s₄, 1 + (k' + k), .node i { head with initialized := false } ds,
      ((lands.from found).climb climbs size).climb up size', ?_, rfl, ?_, ?_, ?_⟩
    · rw [rows_node]
      exact holds₄
    · rw [tree_node, tree_node, trees]
      rfl
    · rw [seats_node, seats_node]
      exact (seats'.append_left _).trans List.perm_middle
    · rw [rows_node, List.length_cons, Nat.add_comm]
      exact Nat.succ_le_succ short'

/-- An entry is led along a path from the root, and the flags are taken back on the way up to it. -/
theorem Holds.plant (holds : s.Holds (cs.map PlacedNode.id) (rowsAll none cs))
    (sound : SoundAll (trees cs)) (threshold : Nat) (entry : EntryId) (step : PathStep)
    (rest : List PathStep) : ∃ (leaf : NodeId) (s₁ s₂ s' : NodeStore) (ds : List PlacedNode),
      s.descend threshold none (step :: rest) = .ok (some leaf, s₁) ∧
      s₁.modify leaf (fun n => { n with entries := n.entries ++ [entry] }) = .ok s₂ ∧
      s₂.unflag s₂.slots.size (some leaf) = .ok s' ∧
      s'.Holds (ds.map PlacedNode.id) (rowsAll none ds) ∧
      trees ds = insertPath threshold entry (step :: rest) (trees cs) ∧
      (seatsAll ds).Perm ((leaf, entry) :: seatsAll cs) := by
  obtain ⟨g, c, s₁, found, bears, leads⟩ :=
    (bears_root.mpr holds).findOrInsert nofun sound threshold step
  obtain ⟨leaf, s₂, k, c', lands, holds', same, tree, seats, short⟩ :=
    Holds.enter threshold entry rest bears.focus leads.sound leads.field
  obtain ⟨s₃, k', ds, climbs, size, bears', trees, seats', short'⟩ :=
    Bears.entered leads holds' same tree seats short
  have holds₃ := bears_root.mp bears'
  obtain ⟨s₄, s₅, descends, entered, unflags, size'⟩ := (lands.from found).climb climbs size
  refine ⟨leaf, s₄, s₅, s₃, ds, descends, entered, ?_, holds₃, trees, seats'⟩
  have enough : k' + k ≤ s₅.slots.size := size' ▸ Nat.le_trans short' holds₃.length_le
  have all := unflags (s₅.slots.size - (k' + k))
  rw [Nat.sub_add_cancel enough] at all
  rw [all, Option.map_none, NodeStore.unflag]

end NodeStore

end FactBase

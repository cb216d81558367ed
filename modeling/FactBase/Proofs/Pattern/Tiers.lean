import FactBase.Proofs.Pattern.Siblings

/-!
# Tiers of a tree in slots

The slots are read tier by tier: the siblings below a node, the number of the node and the steps that
lead to it. A tier that a tree has is found in the slots that hold the tree, and the slots have no
others.
-/

namespace FactBase

namespace PlacedNode

open PatternNode PatternTree

variable {cs ds : List PlacedNode} {c d : PlacedNode} {parent : Option NodeId}
  {steps : List PathStep} {id : NodeId} {n : StoredNode}

/-- The step that a node takes. A selector takes none. -/
def stepOf (head : NodeHead) : List PathStep :=
  match head.test with
  | .field test => [⟨head.shape, test⟩]
  | .selector => []

/-- Siblings somewhere in a tree, with the node above them and the steps down to it. -/
inductive Tier (cs : List PlacedNode) : Option NodeId → List PathStep → List PlacedNode → Prop
  | root : Tier cs none [] cs
  | down {parent : Option NodeId} {steps : List PathStep} {ds : List PlacedNode} {d : PlacedNode}
      (above : Tier cs parent steps ds) (inside : d ∈ ds) :
      Tier cs (some d.id) (steps ++ stepOf d.head) d.children

theorem rows_subset (parent : Option NodeId) (inside : d ∈ ds) : rows parent d ⊆ rowsAll parent ds := by
  rw [rowsAll_eq_flatMap]
  exact fun row found => List.mem_flatMap.mpr ⟨d, inside, found⟩

theorem rows_length_le (parent : Option NodeId) (inside : d ∈ ds) :
    (rowsAll (some d.id) d.children).length + 1 ≤ (rowsAll parent ds).length := by
  obtain ⟨l, r, rfl⟩ := List.append_of_mem inside
  rw [rowsAll_append, rowsAll_cons, rows_eq, List.length_append, List.length_append, List.length_cons]
  omega

theorem Tier.rows_sublist (tier : Tier cs parent steps ds) :
    (rowsAll parent ds).Sublist (rowsAll none cs) := by
  induction tier with
  | root => exact .refl _
  | @down parent steps ds d above inside ih =>
    obtain ⟨l, r, rfl⟩ := List.append_of_mem inside
    refine .trans ?_ ih
    rw [rowsAll_append, rowsAll_cons, rows_eq]
    exact ((List.sublist_append_left _ _).cons _).trans (List.sublist_append_right _ _)

/-- Every row is that of a node on some tier. -/
theorem Tier.of_rows (tier : Tier cs parent steps ds) (inside : d ∈ ds)
    (row : (id, n) ∈ rows parent d) : ∃ above steps es c, Tier cs above steps es ∧ c ∈ es ∧
      c.id = id ∧ n = stored above c.head c.children := by
  induction d using PlacedNode.induction generalizing parent steps ds with
  | step i head children ih =>
    rw [rows_node] at row
    rcases List.mem_cons.mp row with same | row
    · obtain ⟨rfl, rfl⟩ := Prod.mk.injEq .. ▸ same
      exact ⟨parent, steps, ds, _, tier, inside, rfl, rfl⟩
    · rw [rowsAll_eq_flatMap] at row
      obtain ⟨c, listed, row⟩ := List.mem_flatMap.mp row
      exact ih c listed (tier.down inside) listed row

theorem exists_tier (row : (id, n) ∈ rowsAll none cs) : ∃ above steps es c,
    Tier cs above steps es ∧ c ∈ es ∧ c.id = id ∧ n = stored above c.head c.children := by
  rw [rowsAll_eq_flatMap] at row
  obtain ⟨d, inside, row⟩ := List.mem_flatMap.mp row
  exact Tier.root.of_rows inside row

theorem mem_seatsAll {x : NodeId × EntryId} : x ∈ seatsAll cs ↔ ∃ c ∈ cs, x ∈ seats c := by
  rw [seatsAll_eq_flatMap, List.mem_flatMap]

/-- An entry ends at a node on some tier. -/
theorem Tier.of_seats {x : NodeId × EntryId} (tier : Tier cs parent steps ds) (inside : d ∈ ds)
    (seat : x ∈ seats d) : ∃ above steps es c, Tier cs above steps es ∧ c ∈ es ∧ c.id = x.1 ∧
      x.2 ∈ c.head.entries := by
  induction d using PlacedNode.induction generalizing parent steps ds with
  | step i head children ih =>
    rw [seats_node] at seat
    rcases List.mem_append.mp seat with own | seat
    · obtain ⟨e, listed, rfl⟩ := List.mem_map.mp own
      exact ⟨parent, steps, ds, _, tier, inside, rfl, listed⟩
    · obtain ⟨c, listed, seat⟩ := mem_seatsAll.mp seat
      exact ih c listed (tier.down inside) listed seat

theorem seats_of_entries {e : EntryId} (listed : e ∈ d.head.entries) : (d.id, e) ∈ seats d := by
  obtain ⟨id, head, children⟩ := d
  rw [seats_node]
  exact List.mem_append_left _ (List.mem_map_of_mem listed)

theorem seats_of_child {x : NodeId × EntryId} (inside : c ∈ d.children) (seat : x ∈ seats c) :
    x ∈ seats d := by
  obtain ⟨id, head, children⟩ := d
  rw [seats_node]
  exact List.mem_append_right _ (mem_seatsAll.mpr ⟨c, inside, seat⟩)

theorem Tier.seats (tier : Tier cs parent steps ds) (inside : d ∈ ds) {x : NodeId × EntryId}
    (seat : x ∈ seats d) : x ∈ seatsAll cs := by
  have all : ∀ x ∈ seatsAll ds, x ∈ seatsAll cs := by
    clear seat inside
    induction tier with
    | root => exact fun _ seat => seat
    | down above inside ih =>
      intro x seat
      obtain ⟨c, listed, seat⟩ := mem_seatsAll.mp seat
      exact ih x (mem_seatsAll.mpr ⟨_, inside, seats_of_child listed seat⟩)
  exact all x (mem_seatsAll.mpr ⟨d, inside, seat⟩)

/-- The routes of a tier go on from the steps that lead to it. -/
theorem Tier.routes (tier : Tier cs parent steps ds) {r : Route}
    (route : r ∈ routesAll (trees ds)) : (steps ++ r.1, r.2) ∈ routesAll (trees cs) := by
  induction tier generalizing r with
  | root => exact route
  | @down parent steps ds d above inside ih =>
    have listed : d.tree ∈ trees ds := tree_mem inside
    obtain ⟨id, head, children⟩ := d
    change r ∈ routesAll (trees children) at route
    change ((steps ++ stepOf head) ++ r.1, r.2) ∈ _
    rw [tree_node] at listed
    rw [List.append_assoc]
    cases test : head.test with
    | selector =>
      rw [stepOf, test]
      refine ih (r := r) (mem_routesAll.mpr ⟨_, listed, ?_⟩)
      rwa [routes_selector _ test]
    | field t =>
      rw [stepOf, test]
      refine ih (r := (⟨head.shape, t⟩ :: r.1, r.2)) (mem_routesAll.mpr ⟨_, listed, ?_⟩)
      rw [routes_field _ test]
      exact List.mem_append_right _ (List.mem_map.mpr ⟨r, route, rfl⟩)

/-- What holds of the whole tree and goes down from siblings to the children of one holds of every
tier. -/
theorem Tier.hereditary {P : List PatternNode → Prop} (tier : Tier cs parent steps ds)
    (top : P (trees cs)) (down : ∀ ns, P ns → ∀ n ∈ ns, P n.children) : P (trees ds) := by
  induction tier with
  | root => exact top
  | @down parent steps ds d above inside ih =>
    rw [← children_tree]
    exact down _ ih _ (tree_mem inside)

theorem Tier.sound (tier : Tier cs parent steps ds) (sound : SoundAll (trees cs)) :
    SoundAll (trees ds) :=
  tier.hereditary sound fun _ sound n inside => (sound.2 n inside).children

theorem Tier.parted (tier : Tier cs parent steps ds) (parted : PartedAll (trees cs)) :
    PartedAll (trees ds) :=
  tier.hereditary parted fun _ parted n inside => (parted.2 n inside).children

theorem Tier.fertile (tier : Tier cs parent steps ds) (fertile : ∀ n ∈ trees cs, Fertile n) :
    ∀ n ∈ trees ds, Fertile n :=
  tier.hereditary (P := fun ns => ∀ n ∈ ns, Fertile n) fertile fun _ fertile n inside =>
    (fertile n inside).children

theorem Tier.settled {flagged : EntryId → Prop} (tier : Tier cs parent steps ds)
    (settled : ∀ n ∈ trees cs, Settled flagged n) : ∀ n ∈ trees ds, Settled flagged n :=
  tier.hereditary (P := fun ns => ∀ n ∈ ns, Settled flagged n) settled fun _ settled n inside =>
    (settled n inside).children

/-- All entries below a flagged node are flagged. -/
theorem flagged_of_settled {flagged : EntryId → Prop} (settled : Settled flagged d.tree)
    (flag : d.head.initialized = true) : ∀ r ∈ PatternNode.routes d.tree, flagged r.2 := by
  obtain ⟨id, head, children⟩ := d
  rw [tree_node] at settled ⊢
  cases settled with
  | node entries _ => exact entries flag

/-- Where selectors end nothing, the entries of routes are those that end at the nodes. -/
theorem routes_entries (sound : Sound d.tree) :
    (routes d.tree).map Prod.snd = (PlacedNode.seats d).map Prod.snd := by
  induction d using PlacedNode.induction with
  | step id head children ih =>
    rw [tree_node] at sound ⊢
    have below : (routesAll (trees children)).map Prod.snd = (seatsAll children).map Prod.snd := by
      rw [routesAll_eq_flatMap, seatsAll_eq_flatMap, List.map_flatMap, List.map_flatMap, trees_eq_map,
        List.flatMap_map]
      exact List.flatMap_congr fun c inside =>
        ih c inside (sound.children.2 _ (tree_mem inside))
    obtain ⟨only, -, -⟩ := sound
    rw [seats_node, List.map_append, ← below]
    cases test : head.test with
    | selector =>
      obtain ⟨-, none, -⟩ := only test
      rw [routes_selector _ test, none]
      rfl
    | field t =>
      rw [routes_field _ test, List.map_append, List.map_map, List.map_map, List.map_map]
      rfl

/-- A route ends with the step of the node where its entry ends. -/
theorem route_of_entries {e : EntryId} (sound : Sound d.tree) (own : e ∈ d.head.entries) :
    (stepOf d.head, e) ∈ PatternNode.routes d.tree := by
  obtain ⟨id, head, children⟩ := d
  change e ∈ head.entries at own
  change (stepOf head, e) ∈ _
  rw [tree_node] at sound ⊢
  obtain ⟨only, -, -⟩ := sound
  unfold stepOf
  cases test : head.test with
  | selector =>
    obtain ⟨-, none, -⟩ := only test
    rw [none] at own
    cases own
  | field t =>
    rw [routes_field _ test]
    exact List.mem_append_left _ (List.mem_map_of_mem own)

end PlacedNode

namespace NodeStore

open PlacedNode PatternNode

variable {s : NodeStore} {roots : List NodeId} {rows : List SlotRow} {cs ds : List PlacedNode}
  {d : PlacedNode} {parent : Option NodeId} {steps : List PathStep} {id : NodeId} {n : StoredNode}

theorem Holds.tier (holds : s.Holds roots (rowsAll none cs)) (live : s.get? id = some n) :
    ∃ above steps es c, Tier cs above steps es ∧ c ∈ es ∧ c.id = id ∧
      n = stored above c.head c.children :=
  exists_tier ((holds.live id n).mp live)

theorem Holds.at (holds : s.Holds roots (rowsAll none cs)) (tier : Tier cs parent steps ds)
    (inside : d ∈ ds) : s.get? d.id = some (stored parent d.head d.children) :=
  (holds.live _ _).mpr (tier.rows_sublist.subset (row_mem inside))

theorem Holds.node_at (holds : s.Holds roots (rowsAll none cs)) (tier : Tier cs parent steps ds)
    (inside : d ∈ ds) : s.node d.id = .ok (stored parent d.head d.children) :=
  holds.node (tier.rows_sublist.subset (row_mem inside))

/-- The nodes below one are those of its tier. -/
theorem Holds.childrenOf (holds : s.Holds (cs.map PlacedNode.id) (rowsAll none cs))
    (tier : Tier cs parent steps ds) : s.childrenOf parent = .ok (ds.map PlacedNode.id) := by
  cases tier with
  | root => exact congrArg Except.ok holds.roots_eq
  | down above inside =>
    rw [NodeStore.childrenOf, holds.node_at above inside]
    rfl

/-- All siblings in the slots are on some tier. -/
theorem Holds.tier_of_childrenOf {ids : List NodeId}
    (holds : s.Holds (cs.map PlacedNode.id) (rowsAll none cs)) (below : s.childrenOf parent = .ok ids) :
    ∃ steps ds, Tier cs parent steps ds ∧ ids = ds.map PlacedNode.id := by
  cases parent with
  | none => exact ⟨[], cs, .root, (Except.ok.inj below).symm.trans holds.roots_eq⟩
  | some p =>
    cases live : s.get? p with
    | none =>
      have refused : s.node p = .error p := by
        unfold NodeStore.node
        rw [live]
      rw [NodeStore.childrenOf, refused] at below
      cases below
    | some n =>
      obtain ⟨above, steps, es, c, tier, inside, rfl, rfl⟩ := holds.tier live
      have own := holds.childrenOf (tier.down inside)
      exact ⟨_, _, tier.down inside, Except.ok.inj (below.symm.trans own)⟩

/-- Climbing from a tier finds the steps that lead to it, over no more nodes than there are. -/
theorem Holds.stepsTo_depth (holds : s.Holds roots (rowsAll none cs))
    (tier : Tier cs parent steps ds) :
    ∃ depth, depth + (rowsAll parent ds).length ≤ (rowsAll none cs).length ∧
      ∀ j, s.stepsTo (j + depth) parent = .ok steps := by
  -- each node on the way down takes its own row from those that are left
  induction tier with
  | root => exact ⟨0, Nat.le_of_eq (Nat.zero_add _), fun j => by rw [stepsTo]⟩
  | @down parent steps ds d above inside ih =>
    obtain ⟨depth, short, climbs⟩ := ih
    refine ⟨depth + 1, ?_, fun j => ?_⟩
    · have fewer := rows_length_le parent inside
      omega
    · rw [← Nat.add_assoc, NodeStore.stepsTo, holds.node_at above inside]
      change (s.stepsTo (j + depth) parent >>= fun before => _) = _
      rw [climbs]
      obtain ⟨i, ⟨shape, test, flag, entries⟩, children⟩ := d
      cases test with
      | field t => rfl
      | selector => exact congrArg Except.ok (List.append_nil steps).symm

theorem Holds.stepsTo (holds : s.Holds roots (rowsAll none cs)) (tier : Tier cs parent steps ds) :
    s.stepsTo s.slots.size parent = .ok steps := by
  obtain ⟨depth, short, climbs⟩ := holds.stepsTo_depth tier
  have enough : depth ≤ s.slots.size := by
    have := holds.length_le
    omega
  have all := climbs (s.slots.size - depth)
  rwa [Nat.sub_add_cancel enough] at all

/-- What is read from the slots of some nodes is what they stand for, each by itself. -/
theorem mapM_read {k : Nat} (each : ∀ d ∈ ds, s.read k d.id = .ok d.tree) :
    (ds.map PlacedNode.id).mapM (s.read k) = .ok (trees ds) := by
  induction ds with
  | nil => rfl
  | cons d ds ih =>
    obtain ⟨first, each⟩ := List.forall_mem_cons.mp each
    rw [List.map_cons, List.mapM_cons, first, ih each, trees_cons]
    rfl

/-- Reading a node gives the tree below it, over no more tiers than there are nodes. -/
theorem Holds.read (holds : s.Holds roots (rowsAll none cs)) {k : Nat}
    (inside : PlacedNode.rows parent d ⊆ rowsAll none cs)
    (enough : (PlacedNode.rows parent d).length ≤ k) : s.read k d.id = .ok d.tree := by
  induction d using PlacedNode.induction generalizing parent k with
  | step id head children ih =>
    rw [rows_node] at inside enough
    rw [List.length_cons] at enough
    obtain ⟨k, rfl⟩ := Nat.exists_eq_add_one.mpr (Nat.lt_of_lt_of_le (Nat.succ_pos _) enough)
    have below : (children.map PlacedNode.id).mapM (s.read k) = .ok (trees children) :=
      mapM_read fun c listed => by
        have among : PlacedNode.rows (some id) c ⊆ rowsAll none cs := fun row found =>
          inside (List.mem_cons_of_mem _ (PlacedNode.rows_subset (some id) listed found))
        have fewer := rows_length_le (some id) listed
        refine ih c listed among ?_
        rw [rows_eq, List.length_cons]
        omega
    rw [PlacedNode.id, NodeStore.read, holds.node (inside List.mem_cons_self)]
    change ((children.map PlacedNode.id).mapM (s.read k) >>= fun below => _) = _
    rw [below, head_stored, tree_node]
    rfl

end NodeStore

end FactBase

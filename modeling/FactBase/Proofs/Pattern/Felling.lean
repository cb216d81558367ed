import FactBase.Proofs.Pattern.Planting

/-!
# Taking entries out of nodes in slots

An entry is taken out of its node, and from there upwards nodes that lead nowhere are given up. As all
other nodes lead somewhere, the slots then hold the tree without the entry.
-/

namespace FactBase

namespace PlacedNode

open PatternNode PatternTree

variable {entry : EntryId} {cs l r : List PlacedNode} {c d : PlacedNode}

/-- An entry ends at none of certain places. -/
def Absent (entry : EntryId) (ends : List (NodeId × EntryId)) : Prop := ∀ x ∈ ends, x.2 ≠ entry

/-- What ends at certain places but for one entry. -/
def without (entry : EntryId) (ends : List (NodeId × EntryId)) : List (NodeId × EntryId) :=
  ends.filter (·.2 != entry)

theorem absent_append {xs ys : List (NodeId × EntryId)} :
    Absent entry (xs ++ ys) ↔ Absent entry xs ∧ Absent entry ys :=
  List.forall_mem_append

theorem Absent.of_mem (absent : Absent entry (seatsAll cs)) (inside : c ∈ cs) :
    Absent entry (seats c) := fun x ends => absent x <| by
  rw [seatsAll_eq_flatMap]
  exact List.mem_flatMap.mpr ⟨c, inside, ends⟩

theorem Absent.without {ends : List (NodeId × EntryId)} (absent : Absent entry ends) :
    without entry ends = ends :=
  List.filter_eq_self.mpr fun x inside => by simpa using absent x inside

theorem Absent.entries {id : NodeId} {entries : List EntryId}
    (absent : Absent entry (entries.map (id, ·))) : entries.filter (· != entry) = entries :=
  List.filter_eq_self.mpr fun x inside => by
    simpa using absent (id, x) (List.mem_map_of_mem inside)

theorem pruneAll_trees (kept : ∀ c ∈ cs, prune entry c.tree = some c.tree) :
    (trees cs).filterMap (prune entry) = trees cs := by
  rw [trees_eq_map, List.filterMap_map, ← List.filterMap_eq_map]
  exact List.filterMap_congr kept

/-- A tree that an entry does not occur in stays as it is. -/
theorem prune_tree (fertile : Fertile c.tree) (absent : Absent entry (seats c)) :
    prune entry c.tree = some c.tree := by
  induction c using PlacedNode.induction with
  | step id head children ih =>
    rw [tree_node] at fertile ⊢
    rw [seats_node, absent_append] at absent
    have below : (trees children).filterMap (prune entry) = trees children :=
      pruneAll_trees fun d inside => ih d inside
        (fertile.children _ (tree_mem inside))
        (absent.2.of_mem inside)
    -- a node that has lost nothing is not given up, for it leads somewhere
    have kept : ¬(head.entries.isEmpty && (trees children).isEmpty) = true := by
      rw [Bool.and_eq_true, List.isEmpty_iff, List.isEmpty_iff]
      rintro ⟨none, bare⟩
      have leads := fertile.leads
      rw [bare] at leads
      cases test : head.test with
      | selector => exact leads (routes_selector [] test)
      | field t => exact leads (by rw [routes_field [] test, none]; rfl)
    rw [prune_node, absent.1.entries, below, if_neg kept]

/-- An entry that occurs in one of some trees is pruned there, and nowhere else. -/
theorem prune_among (fertile : ∀ c ∈ l ++ r, Fertile c.tree)
    (absent : Absent entry (seatsAll l ++ seatsAll r)) :
    (trees (l ++ d :: r)).filterMap (prune entry) =
      trees l ++ ((prune entry d.tree).toList ++ trees r) := by
  rw [absent_append] at absent
  rw [trees_append, trees_cons, List.filterMap_append, List.filterMap_cons,
    pruneAll_trees fun c inside =>
      prune_tree (fertile c (List.mem_append_left _ inside)) (absent.1.of_mem inside),
    pruneAll_trees fun c inside =>
      prune_tree (fertile c (List.mem_append_right _ inside)) (absent.2.of_mem inside)]
  cases prune entry d.tree <;> rfl

/-- Where an entry ends only once, it ends nowhere but there. -/
theorem absent_around {place : NodeId} {xs ys zs : List (NodeId × EntryId)}
    (once : ((xs ++ (ys ++ zs)).map Prod.snd).Nodup) (seat : (place, entry) ∈ ys) :
    Absent entry (xs ++ zs) := by
  have perm : (xs ++ (ys ++ zs)).Perm (ys ++ (xs ++ zs)) := List.perm_append_comm_assoc _ _ _
  rw [(perm.map _).nodup_iff, List.map_append] at once
  intro x inside same
  exact (List.nodup_append.mp once).2.2 entry (List.mem_map.mpr ⟨_, seat, rfl⟩) x.2
    (List.mem_map_of_mem inside) same.symm

end PlacedNode

namespace NodeStore

open PlacedNode PatternNode PatternTree

variable {s s' s'' : NodeStore} {stem : Option Stem} {roots : List NodeId}
  {cs l r : List PlacedNode} {rows : List SlotRow} {entry : EntryId} {place : NodeId}
  {top top' parent : Option NodeId} {k k' : Nat} {d : PlacedNode} {n : StoredNode}

/-- An entry is taken out of its node, and from there up to a place nodes are given up, so many. -/
def Fells (entry : EntryId) (s : NodeStore) (place : NodeId) (s' : NodeStore) (top : Option NodeId)
    (k : Nat) : Prop :=
  ∃ s₁ : NodeStore,
    s.modify place (fun n => { n with entries := n.entries.filter (· != entry) }) = .ok s₁ ∧
    s₁.slots.size = s.slots.size ∧ ∀ j, s₁.pruneFrom (j + k) (some place) = s'.pruneFrom j top

theorem Fells.climb (fells : Fells entry s place s' top k)
    (climbs : ∀ j, s'.pruneFrom (j + k') top = s''.pruneFrom j top') :
    Fells entry s place s'' top' (k' + k) := by
  obtain ⟨s₁, taken, size, prunes⟩ := fells
  refine ⟨s₁, taken, size, fun j => ?_⟩
  rw [← Nat.add_assoc, prunes, climbs]

/-- Pruning ends at a node that still leads somewhere. -/
theorem Holds.pruneFrom_leads {id : NodeId} (holds : s.Holds roots ((id, n) :: rows))
    (leads : ¬(n.entries.isEmpty && n.children.isEmpty) = true) (j : Nat) :
    s.pruneFrom (j + 1) (some id) = s.pruneFrom j none := by
  have stays : s.pruneFrom j none = .ok s := by cases j <;> rfl
  rw [stays, NodeStore.pruneFrom, holds.node List.mem_cons_self]
  change (if _ then _ else _) = _
  rw [if_neg leads]

/-- A node among siblings that leads nowhere is given up. -/
theorem Bears.pruneFrom_bare {h : NodeHead}
    (holds : s.Holds (rootsWith stem (l ++ d :: r) roots)
      ((d.id, stored (stem.map (·.id)) h []) ::
        (stemRow stem (l ++ d :: r) ++ (rowsAll (stem.map (·.id)) (l ++ r) ++ rows))))
    (once : ((l ++ d :: r).map PlacedNode.id).Nodup) (none : h.entries = []) :
    ∃ s' : NodeStore, (∀ j, s.pruneFrom (j + 1) (some d.id) = s'.pruneFrom j (stem.map (·.id))) ∧
      s'.Bears stem roots (l ++ r) rows := by
  have grows : s.Grows stem roots (l ++ d :: r)
      ((d.id, stored (stem.map (·.id)) h []) :: (rowsAll (stem.map (·.id)) (l ++ r) ++ rows)) :=
    holds.perm List.perm_middle.symm
  obtain ⟨s₁, detached, grows', -⟩ := grows.detach once
  have bears := (Holds.perm grows' List.perm_middle).release.1
  refine ⟨s₁.release d.id, fun j => ?_, bears⟩
  rw [NodeStore.pruneFrom, holds.node List.mem_cons_self]
  change (if h.entries.isEmpty && true then _ else _) = _
  rw [none]
  change (s.detach d.id (stem.map (·.id)) >>= fun s' => _) = _
  rw [detached]
  rfl

/-- What becomes of siblings: the entry is gone, and either the work ends among them or it goes on
with what is above them. -/
def Felled (entry : EntryId) (s : NodeStore) (place : NodeId) (stem : Option Stem)
    (roots : List NodeId) (cs : List PlacedNode) (rows : List SlotRow) : Prop :=
  ∃ (s' : NodeStore) (k : Nat) (ds : List PlacedNode) (top : Option NodeId),
    Fells entry s place s' top k ∧ s'.Bears stem roots ds rows ∧
    trees ds = (trees cs).filterMap (prune entry) ∧ seatsAll ds = without entry (seatsAll cs) ∧
    (top = none ∧ ds ≠ [] ∨ top = stem.map (·.id)) ∧ k ≤ (rowsAll (stem.map (·.id)) cs).length

/-- What becomes of a node: the entry is gone from it, or the node leads nowhere. -/
def FelledNode (entry : EntryId) (s : NodeStore) (place : NodeId) (parent : Option NodeId)
    (roots : List NodeId) (d : PlacedNode) (rows : List SlotRow) : Prop :=
  (∃ (s' : NodeStore) (k : Nat) (d' : PlacedNode), Fells entry s place s' none k ∧
    s'.Holds roots (PlacedNode.rows parent d' ++ rows) ∧ d'.id = d.id ∧
    d'.constant? = d.constant? ∧ prune entry d.tree = some d'.tree ∧
    seats d' = without entry (seats d) ∧ k ≤ (PlacedNode.rows parent d).length) ∨
  ∃ (s' : NodeStore) (k : Nat) (h : NodeHead), Fells entry s place s' (some d.id) k ∧
    s'.Holds roots ((d.id, stored parent h []) :: rows) ∧ h.entries = [] ∧
    prune entry d.tree = none ∧ without entry (seats d) = [] ∧
    k < (PlacedNode.rows parent d).length

/-- From one of some siblings to all of them. -/
theorem FelledNode.siblings
    (felled : FelledNode entry s place (stem.map (·.id)) (rootsWith stem (l ++ d :: r) roots) d
      (stemRow stem (l ++ d :: r) ++ (rowsAll (stem.map (·.id)) (l ++ r) ++ rows)))
    (once : ((l ++ d :: r).map PlacedNode.id).Nodup) (fertile : ∀ c ∈ l ++ r, Fertile c.tree)
    (absent : Absent entry (seatsAll l ++ seatsAll r)) :
    Felled entry s place stem roots (l ++ d :: r) rows := by
  have pruned := prune_among (d := d) fertile absent
  have rest : without entry (seatsAll (l ++ d :: r)) =
      seatsAll l ++ (without entry (seats d) ++ seatsAll r) := by
    rw [absent_append] at absent
    rw [seatsAll_append, seatsAll, without, List.filter_append, List.filter_append]
    exact congr (congrArg _ absent.1.without) (congrArg _ absent.2.without)
  have count : (rowsAll (stem.map (·.id)) (l ++ d :: r)).length =
      (PlacedNode.rows (stem.map (·.id)) d).length + (rowsAll (stem.map (·.id)) (l ++ r)).length := by
    rw [(rowsAll_middle _ l r d).length_eq, List.length_append]
  rcases felled with ⟨s', k, d', fells, holds, same, constant, left, seats, short⟩ |
    ⟨s', k, h, fells, holds, none, gone, seats, short⟩
  · refine ⟨s', k, l ++ d' :: r, none, fells, Bears.of_focus (g := .direct l r) same constant holds,
      ?_, ?_, .inl ⟨rfl, by simp⟩, by omega⟩
    · rw [pruned, left, trees_append, trees_cons]
      rfl
    · rw [rest, seatsAll_append, seatsAll, seats]
  · obtain ⟨s'', climbs, bears⟩ := Bears.pruneFrom_bare holds once none
    refine ⟨s'', 1 + k, l ++ r, stem.map (·.id), fells.climb climbs, bears, ?_, ?_, .inr rfl, by omega⟩
    · rw [pruned, gone, trees_append]
      rfl
    · rw [rest, seats, seatsAll_append]
      rfl

/-- From what is below a node to the node, if the entry ends further below. -/
theorem Felled.node {id : NodeId} {head : NodeHead}
    (felled : Felled entry s place (some ⟨id, head, parent⟩) roots cs rows)
    (absent : Absent entry (head.entries.map (id, ·))) :
    FelledNode entry s place parent roots (.node id head cs) rows := by
  obtain ⟨s', k, ds, top, fells, bears, trees, seats, ends, short⟩ := felled
  have holds : s'.Holds roots (PlacedNode.rows parent (.node id head ds) ++ rows) := by
    rw [rows_node]
    exact bears
  have left (kept : ¬(head.entries.isEmpty && ds.isEmpty) = true) :
      prune entry (PlacedNode.node id head cs).tree = some (PlacedNode.node id head ds).tree := by
    rw [tree_node, tree_node, prune_node, absent.entries, ← trees, if_neg]
    rwa [trees_eq_map, List.isEmpty_map]
  have without : PlacedNode.seats (.node id head ds) =
      without entry (PlacedNode.seats (.node id head cs)) := by
    rw [seats_node, seats_node, PlacedNode.without, List.filter_append, seats]
    exact congrArg (· ++ _) absent.without.symm
  have count : (PlacedNode.rows parent (.node id head cs)).length =
      (rowsAll (some id) cs).length + 1 := by
    rw [rows_node, List.length_cons]
  have short : k ≤ (rowsAll (some id) cs).length := short
  -- pruning has come up to the node only if nothing below it was left to stop at
  by_cases bare : (head.entries.isEmpty && ds.isEmpty) = true
  · obtain ⟨none, empty⟩ := Bool.and_eq_true_iff.mp bare
    have empty : ds = [] := List.isEmpty_iff.mp empty
    subst empty
    rcases ends with ⟨-, some⟩ | rfl
    · exact absurd rfl some
    · rw [rows_node, rowsAll_nil] at holds
      refine .inr ⟨s', k, head, fells, holds, List.isEmpty_iff.mp none, ?_, ?_, by omega⟩
      · rw [tree_node, prune_node, absent.entries, ← trees, if_pos (by rw [none]; rfl)]
      · rw [← without, seats_node, List.isEmpty_iff.mp none, seatsAll]
        rfl
  · rcases ends with ⟨rfl, -⟩ | rfl
    · exact .inl ⟨s', k, .node id head ds, fells, holds, rfl, rfl, left bare, without, by omega⟩
    · rw [rows_node, List.cons_append] at holds
      have stops := holds.pruneFrom_leads (by rwa [stored, List.isEmpty_map])
      rw [← List.cons_append, ← rows_node] at holds
      exact .inl ⟨s', 1 + k, .node id head ds, fells.climb stops, holds, rfl, rfl, left bare, without,
        by omega⟩

/-- An entry is taken out of the node where it ends. -/
theorem Holds.fell_own {id : NodeId} {head : NodeHead}
    (holds : s.Holds roots (PlacedNode.rows parent (.node id head cs) ++ rows))
    (fertile : ∀ c ∈ cs, Fertile c.tree) (absent : Absent entry (seatsAll cs)) :
    FelledNode entry s id parent roots (.node id head cs) rows := by
  rw [rows_node] at holds
  obtain ⟨s₁, taken, holds₁, size⟩ :=
    holds.modify fun n => { n with entries := n.entries.filter (· != entry) }
  have fells : Fells entry s id s₁ (some id) 0 := ⟨s₁, taken, size, fun _ => rfl⟩
  have below : (trees cs).filterMap (prune entry) = trees cs :=
    pruneAll_trees fun c inside => prune_tree (fertile c inside) (absent.of_mem inside)
  have without : without entry (PlacedNode.seats (.node id head cs)) =
      (head.entries.filter (· != entry)).map (id, ·) ++ seatsAll cs := by
    rw [seats_node, PlacedNode.without, List.filter_append, List.filter_map]
    exact congrArg _ absent.without
  by_cases bare : ((head.entries.filter (· != entry)).isEmpty && cs.isEmpty) = true
  · obtain ⟨none, empty⟩ := Bool.and_eq_true_iff.mp bare
    obtain rfl := List.isEmpty_iff.mp empty
    rw [rowsAll_nil] at holds₁
    refine .inr ⟨s₁, 0, { head with entries := head.entries.filter (· != entry) }, fells, holds₁,
      List.isEmpty_iff.mp none, ?_, ?_, ?_⟩
    · rw [tree_node, prune_node, below, if_pos (by rw [none]; rfl)]
    · rw [without, List.isEmpty_iff.mp none, seatsAll]
      rfl
    · rw [rows_node]
      exact Nat.succ_pos _
  · have stops := holds₁.pruneFrom_leads (by rwa [stored, List.isEmpty_map])
    refine .inl ⟨s₁, 1 + 0, .node id { head with entries := head.entries.filter (· != entry) } cs,
      fells.climb stops, ?_, rfl, rfl, ?_, ?_, ?_⟩
    · rw [rows_node]
      exact holds₁
    · rw [tree_node, tree_node, prune_node, below, if_neg]
      rwa [trees_eq_map, List.isEmpty_map]
    · rw [without, seats_node]
    · rw [rows_node]
      exact Nat.succ_pos _

/-- An entry is taken out of siblings if it can be taken out of the one that it ends at or below. -/
theorem Bears.fell (bears : s.Bears stem roots cs rows) (fertile : ∀ c ∈ cs, Fertile c.tree)
    (once : ((seatsAll cs).map Prod.snd).Nodup) (seat : (place, entry) ∈ seatsAll cs)
    (each : ∀ c ∈ cs, ∀ roots rows,
      s.Holds roots (PlacedNode.rows (stem.map (·.id)) c ++ rows) →
      ((seats c).map Prod.snd).Nodup → (place, entry) ∈ seats c →
      FelledNode entry s place (stem.map (·.id)) roots c rows) :
    Felled entry s place stem roots cs rows := by
  rw [seatsAll_eq_flatMap] at seat
  obtain ⟨c, inside, found⟩ := List.mem_flatMap.mp seat
  obtain ⟨l, r, rfl⟩ := List.append_of_mem inside
  rw [seatsAll_append, seatsAll] at once
  have own : ((seats c).map Prod.snd).Nodup :=
    once.sublist (((List.sublist_append_left _ _).trans (List.sublist_append_right _ _)).map _)
  have felled := each c inside _ _ (Bears.focus (g := .direct l r) bears) own found
  exact felled.siblings bears.ids_nodup
    (fun d other => fertile d (List.mem_append.mpr ((List.mem_append.mp other).imp_right (.tail c))))
    (absent_around once found)

/-- An entry is taken out of a node or of what is below it. -/
theorem Holds.fell (holds : s.Holds roots (PlacedNode.rows parent d ++ rows))
    (fertile : Fertile d.tree) (once : ((seats d).map Prod.snd).Nodup)
    (seat : (place, entry) ∈ seats d) : FelledNode entry s place parent roots d rows := by
  induction d using PlacedNode.induction generalizing parent roots rows with
  | step id head children ih =>
    have below : ∀ c ∈ children, Fertile c.tree := fun c inside => by
      rw [tree_node] at fertile
      exact fertile.children _ (tree_mem inside)
    rw [seats_node] at once seat
    rcases List.mem_append.mp seat with own | under
    · have absent : Absent entry ([] ++ seatsAll children) := absent_around once own
      obtain ⟨x, -, same⟩ := List.mem_map.mp own
      obtain rfl : id = place := congrArg Prod.fst same
      exact holds.fell_own below absent
    · have apart := once
      rw [← List.append_nil (seatsAll children)] at apart
      have absent := (absent_append.mp (absent_around apart under)).1
      have stem : s.Bears (some ⟨id, head, parent⟩) roots children rows := by
        rw [rows_node] at holds
        exact holds
      refine Felled.node (stem.fell below (once.sublist ((List.sublist_append_right _ _).map _)) under
        fun c inside roots rows holds => ?_) absent
      exact ih c inside holds (below c inside)

/-- An entry is taken out of the tree, and nodes that led only to it are given up. -/
theorem Holds.uproot (holds : s.Holds (cs.map PlacedNode.id) (rowsAll none cs))
    (fertile : ∀ c ∈ cs, Fertile c.tree) (once : ((seatsAll cs).map Prod.snd).Nodup)
    (seat : (place, entry) ∈ seatsAll cs) :
    ∃ (s₁ s' : NodeStore) (ds : List PlacedNode),
      s.modify place (fun n => { n with entries := n.entries.filter (· != entry) }) = .ok s₁ ∧
      s₁.pruneFrom s₁.slots.size (some place) = .ok s' ∧
      s'.Holds (ds.map PlacedNode.id) (rowsAll none ds) ∧
      trees ds = pruneAll entry (trees cs) ∧ seatsAll ds = without entry (seatsAll cs) := by
  obtain ⟨s', k, ds, top, ⟨s₁, taken, size, prunes⟩, bears, trees, seats, ends, short⟩ :=
    (bears_root.mpr holds).fell fertile once seat fun c inside roots rows holds =>
      holds.fell (fertile c inside)
  obtain rfl : top = none := ends.elim And.left fun same => same
  refine ⟨s₁, s', ds, taken, ?_, bears_root.mp bears,
    trees.trans (pruneAll_eq_filterMap _ _).symm, seats⟩
  have enough : k ≤ s₁.slots.size := size ▸ Nat.le_trans short holds.length_le
  have all := prunes (s₁.slots.size - k)
  rw [Nat.sub_add_cancel enough] at all
  rw [all, NodeStore.pruneFrom]

end NodeStore

end FactBase

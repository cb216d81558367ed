import FactBase.Proofs.Pattern.Felling
import FactBase.Proofs.Pattern.Tiers

/-!
# Trees in slots follow trees

A tree whose nodes are in slots goes through calls as the tree does that the slots stand for, and never
comes upon a reference to an empty slot.
-/

namespace FactBase

namespace PlacedNode

open PatternNode PatternTree

mutual
/-- All nodes are flagged. -/
def flagged : PlacedNode → PlacedNode
  | .node id head children => .node id { head with initialized := true } (flaggedAll children)

def flaggedAll : List PlacedNode → List PlacedNode
  | [] => []
  | c :: cs => flagged c :: flaggedAll cs
end

variable {c : PlacedNode} {cs : List PlacedNode}

theorem flagged_node (id : NodeId) (head : NodeHead) (children : List PlacedNode) :
    flagged (.node id head children) =
      .node id { head with initialized := true } (flaggedAll children) := by rw [flagged]

theorem flaggedAll_eq_map (cs : List PlacedNode) : flaggedAll cs = cs.map flagged := by
  induction cs with
  | nil => rw [flaggedAll, List.map_nil]
  | cons c cs ih => rw [flaggedAll, ih, List.map_cons]

theorem id_flagged (c : PlacedNode) : c.flagged.id = c.id := by
  obtain ⟨id, head, children⟩ := c
  rw [flagged_node]
  rfl

theorem constant?_flagged (c : PlacedNode) : c.flagged.constant? = c.constant? := by
  obtain ⟨id, head, children⟩ := c
  rw [flagged_node]
  rfl

theorem ids_flaggedAll (cs : List PlacedNode) : (flaggedAll cs).map id = cs.map id := by
  rw [flaggedAll_eq_map, List.map_map]
  exact List.map_congr_left fun c _ => id_flagged c

theorem tableOf_flaggedAll (cs : List PlacedNode) : tableOf (flaggedAll cs) = tableOf cs := by
  rw [flaggedAll_eq_map, tableOf, List.filterMap_map]
  refine List.filterMap_congr fun c _ => ?_
  rw [Function.comp_apply, constant?_flagged, id_flagged]

theorem tree_flagged (c : PlacedNode) : c.flagged.tree = initializeNode c.tree := by
  induction c using PlacedNode.induction with
  | step id head children ih =>
    rw [flagged_node, tree_node, tree_node, initializeNode_node, trees_eq_map, trees_eq_map,
      flaggedAll_eq_map, List.map_map, List.map_map]
    exact congrArg _ (List.map_congr_left ih)

theorem trees_flaggedAll (cs : List PlacedNode) :
    trees (flaggedAll cs) = initializeNodes (trees cs) := by
  rw [initializeNodes_eq_map, trees_eq_map, trees_eq_map, flaggedAll_eq_map, List.map_map,
    List.map_map]
  exact List.map_congr_left fun c _ => tree_flagged c

theorem seats_flagged (c : PlacedNode) : seats c.flagged = seats c := by
  induction c using PlacedNode.induction with
  | step id head children ih =>
    rw [flagged_node, seats_node, seats_node, seatsAll_eq_flatMap, seatsAll_eq_flatMap,
      flaggedAll_eq_map, List.flatMap_map]
    exact congrArg _ (List.flatMap_congr ih)

theorem seatsAll_flaggedAll (cs : List PlacedNode) : seatsAll (flaggedAll cs) = seatsAll cs := by
  rw [seatsAll_eq_flatMap, seatsAll_eq_flatMap, flaggedAll_eq_map, List.flatMap_map]
  exact List.flatMap_congr fun c _ => seats_flagged c

/-- What the slots hold once all nodes are flagged. -/
theorem rows_flagged (parent : Option NodeId) (c : PlacedNode) : rows parent c.flagged =
    (rows parent c).map fun row => (row.1, { row.2 with initialized := true }) := by
  induction c using PlacedNode.induction generalizing parent with
  | step id head children ih =>
    have own : stored parent { head with initialized := true } (flaggedAll children) =
        { stored parent head children with initialized := true } := by
      unfold stored storedTest
      rw [tableOf_flaggedAll, ids_flaggedAll]
    rw [flagged_node, rows_node, rows_node, List.map_cons, own, rowsAll_eq_flatMap,
      rowsAll_eq_flatMap, flaggedAll_eq_map, List.flatMap_map, List.map_flatMap]
    exact congrArg _ (List.flatMap_congr fun c inside => ih c inside _)

theorem rowsAll_flaggedAll (parent : Option NodeId) (cs : List PlacedNode) :
    rowsAll parent (flaggedAll cs) =
      (rowsAll parent cs).map fun row => (row.1, { row.2 with initialized := true }) := by
  rw [rowsAll_eq_flatMap, rowsAll_eq_flatMap, flaggedAll_eq_map, List.flatMap_map, List.map_flatMap]
  exact List.flatMap_congr fun c _ => rows_flagged parent c

end PlacedNode

open PlacedNode PatternNode

/-- All nodes in slots are changed alike. -/
theorem NodeStore.Holds.map {s : NodeStore} {roots : List NodeId} {rows : List SlotRow}
    (holds : s.Holds roots rows) (f : StoredNode → StoredNode) :
    NodeStore.Holds { s with slots := s.slots.map (·.map f) } roots
      (rows.map fun row => (row.1, f row.2)) where
  roots_eq := holds.roots_eq
  live id n := by
    have found : NodeStore.get? { s with slots := s.slots.map (·.map f) } id =
        (s.get? id).map f := by
      unfold NodeStore.get?
      rw [Array.getElem?_map]
      cases s.slots[id]? with
      | none => rfl
      | some slot => rfl
    rw [found, Option.map_eq_some_iff, List.mem_map]
    constructor
    · rintro ⟨m, live, rfl⟩
      exact ⟨(id, m), (holds.live id m).mp live, rfl⟩
    · rintro ⟨⟨i, m⟩, inside, same⟩
      obtain ⟨rfl, rfl⟩ := Prod.mk.injEq .. ▸ same
      exact ⟨m, (holds.live i m).mpr inside, rfl⟩
  once := by
    rw [List.map_map]
    exact holds.once
  spent := holds.spent
  empty id free := by
    rw [Array.getElem?_map, holds.empty id free]
    rfl

namespace StoredTree

/-- Where entries end, those at the root first. -/
def ends (t : StoredTree) (cs : List PlacedNode) : List (Option NodeId × EntryId) :=
  t.rootEntries.map (none, ·) ++ (seatsAll cs).map fun x => (some x.1, x.2)

/-- The slots hold certain nodes, and the entries end where they are said to. -/
structure Embodied (t : StoredTree) (cs : List PlacedNode) : Prop where
  holds : t.store.Holds (cs.map PlacedNode.id) (rowsAll none cs)
  seated : (t.ends cs).Perm (t.entries.map fun e => (e.node, e.id))

/-- The tree that has certain nodes. -/
def treeWith (t : StoredTree) (cs : List PlacedNode) : PatternTree where
  template := t.template
  roots := trees cs
  rootEntries := t.rootEntries
  entries := t.entries.map (·.toEntry)
  threshold := t.threshold
  replayed := t.replayed

variable {t : StoredTree} {cs : List PlacedNode} {roll : List LiveEntry}

theorem embodied_empty (template : Template) (threshold : Nat) :
    Embodied { template, threshold } [] where
  holds := NodeStore.holds_nil
  seated := .refl _

/-- Reading the slots gives the tree back. -/
theorem Embodied.toTree (embodied : t.Embodied cs) : t.toTree = .ok (t.treeWith cs) := by
  have read : t.store.roots.mapM (t.store.read t.store.slots.size) = .ok (trees cs) := by
    rw [embodied.holds.roots_eq]
    refine NodeStore.mapM_read fun d inside => ?_
    have among := rows_subset none inside
    refine embodied.holds.read among (Nat.le_trans ?_ embodied.holds.length_le)
    rw [rows_eq]
    exact rows_length_le none inside
  rw [StoredTree.toTree, read]
  rfl

/-- No entry ends twice. -/
theorem Embodied.once (embodied : t.Embodied cs) (carries : (t.treeWith cs).Carries roll) :
    ((t.ends cs).map Prod.snd).Nodup := by
  have distinct := carries.keeps.distinct
  rw [← carries.keeps.listed] at distinct
  rw [(embodied.seated.map _).nodup_iff]
  unfold treeWith at distinct
  rw [List.map_map] at distinct ⊢
  exact distinct

/-- A path is led into the tree. -/
theorem Embodied.plant (embodied : t.Embodied cs) (sound : SoundAll (trees cs)) (id : EntryId)
    (label : String) (path : List PathStep) :
    ∃ (t' : StoredTree) (ds : List PlacedNode), t.plant id label path = .ok t' ∧ t'.Embodied ds ∧
      t'.treeWith ds = { t.treeWith cs with
        roots := PatternTree.insertPath t.threshold id path (trees cs)
        rootEntries := if path.isEmpty then t.rootEntries ++ [id] else t.rootEntries
        entries := (t.treeWith cs).entries ++ [{ id, label }] } := by
  cases path with
  | nil =>
    refine ⟨_, cs, rfl, ⟨embodied.holds, ?_⟩, ?_⟩
    · rw [ends, List.map_append, List.map_append, List.append_assoc]
      exact List.perm_middle.trans
        ((embodied.seated.cons (none, id)).trans (List.perm_append_singleton _ _).symm)
    · unfold treeWith
      rw [List.map_append, PatternTree.insertPath]
      rfl
  | cons step rest =>
    obtain ⟨leaf, s₁, s₂, s', ds, descends, entered, unflags, holds, trees, seats⟩ :=
      embodied.holds.plant sound t.threshold id step rest
    refine ⟨{ t with store := s', entries := t.entries ++ [{ id, label, node := some leaf }] }, ds, ?_,
      ⟨holds, ?_⟩, ?_⟩
    · simp only [StoredTree.plant, descends, entered, unflags, bind, Except.bind]
    · rw [ends, List.map_append]
      refine .trans (((seats.map _).append_left _).trans List.perm_middle) ?_
      exact (embodied.seated.cons (some leaf, id)).trans (List.perm_append_singleton _ _).symm
    · unfold treeWith
      rw [List.map_append, trees]
      rfl

theorem mem_ends_root {id : EntryId} : (none, id) ∈ t.ends cs ↔ id ∈ t.rootEntries := by
  simp [ends]

theorem mem_ends_node {place : NodeId} {id : EntryId} :
    (some place, id) ∈ t.ends cs ↔ (place, id) ∈ seatsAll cs := by
  simp [ends]

/-- An entry ends at the root or below it, not both. -/
theorem Embodied.apart (embodied : t.Embodied cs) (carries : (t.treeWith cs).Carries roll)
    {id : EntryId} (root : id ∈ t.rootEntries) : Absent id (seatsAll cs) := by
  have once := embodied.once carries
  rw [ends, List.map_append, List.map_map, List.map_map] at once
  intro x inside same
  exact (List.nodup_append.mp once).2.2 id (List.mem_map_of_mem (f := fun x => x) root) x.2
    (List.mem_map_of_mem (f := Prod.snd) inside) same.symm

theorem ends_filter (t : StoredTree) (cs ds : List PlacedNode) (id : EntryId)
    (seats : seatsAll ds = without id (seatsAll cs)) :
    ends { t with rootEntries := t.rootEntries.filter (· != id) } ds =
      (t.ends cs).filter (·.2 != id) := by
  unfold ends
  rw [seats, List.filter_append, List.filter_map, List.filter_map]
  rfl

/-- Without an entry the others end where they did. -/
theorem Embodied.seated_without (embodied : t.Embodied cs) {id : EntryId} {ds : List PlacedNode}
    (seats : seatsAll ds = without id (seatsAll cs)) :
    (ends { t with rootEntries := t.rootEntries.filter (· != id) } ds).Perm
      ((t.entries.filter (·.id != id)).map fun e => (e.node, e.id)) := by
  rw [ends_filter t cs ds id seats]
  have filtered := embodied.seated.filter (·.2 != id)
  rwa [List.filter_map] at filtered

/-- An entry is taken out of the tree. -/
theorem Embodied.uproot (embodied : t.Embodied cs) (carries : (t.treeWith cs).Carries roll)
    {e : StoredEntry} (listed : e ∈ t.entries) :
    ∃ (t' : StoredTree) (ds : List PlacedNode), t.uproot e = .ok t' ∧ t'.Embodied ds ∧
      t'.treeWith ds = { t.treeWith cs with
        roots := PatternTree.pruneAll e.id (trees cs)
        rootEntries := t.rootEntries.filter (· != e.id)
        entries := (t.treeWith cs).entries.filter (·.id != e.id) } := by
  have fertile : ∀ c ∈ cs, Fertile c.tree := fun c inside => carries.fertile _ (tree_mem inside)
  have entries : (t.entries.filter (·.id != e.id)).map (·.toEntry) =
      (t.treeWith cs).entries.filter (·.id != e.id) := by
    rw [treeWith, List.filter_map]
    rfl
  have seat : (e.node, e.id) ∈ t.ends cs :=
    embodied.seated.mem_iff.mpr (List.mem_map_of_mem (f := fun e => (e.node, e.id)) listed)
  cases place : e.node with
  | none =>
    -- no node is touched, and pruning would leave them all as they are
    rw [place] at seat
    have absent := embodied.apart carries (mem_ends_root.mp seat)
    have kept : PatternTree.pruneAll e.id (trees cs) = trees cs := by
      rw [PatternTree.pruneAll_eq_filterMap]
      exact pruneAll_trees fun c inside => prune_tree (fertile c inside) (absent.of_mem inside)
    refine ⟨{ t with
      rootEntries := t.rootEntries.filter (· != e.id)
      entries := t.entries.filter (·.id != e.id) }, cs, by rw [StoredTree.uproot, place],
      ⟨embodied.holds, embodied.seated_without absent.without.symm⟩, ?_⟩
    rw [kept, ← entries]
    rfl
  | some leaf =>
    -- the tree looks for the entry at the root too, where it does not end
    rw [place] at seat
    have inner := mem_ends_node.mp seat
    have once : ((seatsAll cs).map Prod.snd).Nodup := by
      have sub := (embodied.once carries).sublist ((List.sublist_append_right _ _).map _)
      rwa [List.map_map] at sub
    have root : t.rootEntries.filter (· != e.id) = t.rootEntries :=
      List.filter_eq_self.mpr fun x inside => by
        have apart := embodied.apart carries inside _ inner
        simpa using Ne.symm apart
    obtain ⟨s₁, s', ds, taken, pruned, holds, trees, seats⟩ :=
      embodied.holds.uproot fertile once inner
    have seated := embodied.seated_without seats
    rw [root] at seated
    refine ⟨{ t with store := s', entries := t.entries.filter (·.id != e.id) }, ds, ?_,
      ⟨holds, seated⟩, ?_⟩
    · simp only [StoredTree.uproot, place, taken, pruned, bind, Except.bind]
    · rw [root, ← trees, ← entries]
      rfl

theorem Embodied.markInitialized (embodied : t.Embodied cs) :
    t.markInitialized.Embodied (flaggedAll cs) ∧
      t.markInitialized.treeWith (flaggedAll cs) = (t.treeWith cs).markInitialized := by
  refine ⟨⟨?_, ?_⟩, ?_⟩
  · rw [rowsAll_flaggedAll, ids_flaggedAll]
    exact embodied.holds.map _
  · unfold ends
    rw [seatsAll_flaggedAll]
    refine embodied.seated.trans (.of_eq ?_)
    rw [StoredTree.markInitialized, List.map_map]
    rfl
  · unfold treeWith PatternTree.markInitialized
    rw [trees_flaggedAll, StoredTree.markInitialized, List.map_map, List.map_map]
    rfl

/-- A call does to the slots what it does to the tree. -/
theorem Embodied.perform (embodied : t.Embodied cs) (carries : (t.treeWith cs).Carries roll)
    (call : TreeCall) : ∃ (t' : StoredTree) (ds : List PlacedNode), t.perform call = .ok t' ∧
      t'.Embodied ds ∧ t'.treeWith ds = (t.treeWith cs).perform call := by
  cases call with
  | add id label p =>
    -- both compile the pattern by the same template, so they refuse it together
    cases compiled : PatternTree.compile t.template p with
    | error e =>
      refine ⟨t, cs, by rw [StoredTree.perform, compiled], embodied, ?_⟩
      have compiled : PatternTree.compile (t.treeWith cs).template p = .error e := compiled
      rw [PatternTree.perform, PatternTree.add, compiled]
      rfl
    | ok path =>
      obtain ⟨t', ds, planted, embodied', same⟩ := embodied.plant carries.keeps.sound id label path
      refine ⟨t', ds, by rw [StoredTree.perform, compiled]; exact planted, embodied', ?_⟩
      have compiled : PatternTree.compile (t.treeWith cs).template p = .ok path := compiled
      rw [same, PatternTree.perform, PatternTree.add, compiled]
      rfl
  | remove id =>
    cases found : t.entries.find? (·.id == id) with
    | none =>
      refine ⟨t, cs, by rw [StoredTree.perform, found], embodied, ?_⟩
      have absent : (t.treeWith cs).entries.any (·.id == id) = false := by
        rw [treeWith, List.any_map]
        exact List.any_eq_false.mpr (List.find?_eq_none.mp found)
      rw [PatternTree.perform, PatternTree.remove, absent, if_neg Bool.false_ne_true]
      rfl
    | some e =>
      obtain rfl : e.id = id := by simpa using List.find?_some found
      have listed := List.mem_of_find?_eq_some found
      obtain ⟨t', ds, uprooted, embodied', same⟩ := embodied.uproot carries listed
      refine ⟨t', ds, by rw [StoredTree.perform, found]; exact uprooted, embodied', ?_⟩
      have present : (t.treeWith cs).entries.any (·.id == e.id) = true := by
        rw [treeWith, List.any_map]
        exact List.any_eq_true.mpr ⟨e, listed, beq_self_eq_true _⟩
      rw [same, PatternTree.perform, PatternTree.remove, present, if_pos rfl]
      rfl
  | mark => exact ⟨_, _, rfl, embodied.markInitialized⟩
  | record fact =>
    exact ⟨{ t with replayed := fact :: t.replayed }, cs, rfl, ⟨embodied.1, embodied.2⟩, rfl⟩

/-- No calls come upon a reference to an empty slot, and the slots hold the tree that they make. -/
theorem Embodied.play {calls : List TreeCall} (embodied : t.Embodied cs)
    (carries : (t.treeWith cs).Carries roll) (proper : (t.treeWith cs).Proper calls) :
    ∃ (t' : StoredTree) (ds : List PlacedNode), t.play calls = .ok t' ∧ t'.Embodied ds ∧
      t'.treeWith ds = (t.treeWith cs).play calls := by
  induction calls generalizing t cs roll with
  | nil => exact ⟨t, cs, rfl, embodied, rfl⟩
  | cons call calls ih =>
    obtain ⟨t₁, ds₁, performed, embodied₁, same₁⟩ := embodied.perform carries call
    have carries₁ := carries.perform proper.1
    have proper₁ := proper.2
    rw [← same₁] at carries₁ proper₁
    obtain ⟨t₂, ds₂, played, embodied₂, same₂⟩ := ih embodied₁ carries₁ proper₁
    refine ⟨t₂, ds₂, ?_, embodied₂, ?_⟩
    · rw [StoredTree.play, performed]
      exact played
    · rw [same₂, same₁]
      rfl

end StoredTree

end FactBase

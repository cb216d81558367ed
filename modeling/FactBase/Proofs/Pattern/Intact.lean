import FactBase.Proofs.Pattern.Embodied

/-!
# Pattern trees in slots stay intact

What holds of the slots after any calls: references lead to nodes, parents and children agree, siblings
are told apart, tables list exactly the cases of their selectors, every node leads to an entry, flags
and paths are those of the entries.
-/

namespace FactBase

namespace NodeStore

/-- A slot holds a node. -/
def Live (s : NodeStore) (id : NodeId) : Prop := ∃ n, s.get? id = some n

/-- Certain siblings are below a node, or below the root. -/
def Siblings (s : NodeStore) (parent : Option NodeId) (ids : List NodeId) : Prop :=
  s.childrenOf parent = .ok ids

/-- Climbing from a node comes to the root. -/
inductive Rooted (s : NodeStore) : NodeId → Prop
  | node {id : NodeId} {n : StoredNode} (live : s.get? id = some n)
      (above : ∀ p ∈ n.parent, Rooted s p) : Rooted s id

/-- Climbing from a node comes to another, or has begun there. -/
inductive Under (s : NodeStore) (top : NodeId) : NodeId → Prop
  | here : Under s top top
  | up {id parent : NodeId} {n : StoredNode} (live : s.get? id = some n)
      (above : n.parent = some parent) (under : Under s top parent) : Under s top id

/-- A node refers to another below it, as to a child or in its table. -/
def Refers (s : NodeStore) (child id : NodeId) : Prop :=
  ∃ n, s.get? id = some n ∧
    (child ∈ n.children ∨ ∃ table v, n.test = .selector table ∧ (v, child) ∈ table)

/-- References lead to nodes, and the nodes form a forest. -/
structure Forest (s : NodeStore) : Prop where
  roots : ∀ id ∈ s.roots, s.Live id
  children : ∀ id n, s.get? id = some n → ∀ child ∈ n.children, s.Live child
  parents : ∀ id n, s.get? id = some n → ∀ parent ∈ n.parent, s.Live parent
  tables : ∀ id n table, s.get? id = some n → n.test = .selector table →
    ∀ row ∈ table, s.Live row.2
  /-- A node is below its parent, and below no other node. -/
  agree : ∀ id n parent, s.get? id = some n →
    ((∃ ids, s.Siblings parent ids ∧ id ∈ ids) ↔ n.parent = parent)
  once : ∀ parent ids, s.Siblings parent ids → ids.Nodup
  rooted : ∀ id, s.Live id → s.Rooted id
  /-- However one goes down from nodes to nodes that they refer to, one comes to an end. -/
  grounded : WellFounded s.Refers

/-- Siblings are told apart by what they look at and how. -/
structure Discriminates (s : NodeStore) : Prop where
  /-- Neither do two test the same, nor do two select among the constants of one shape. -/
  rivals : ∀ parent ids, s.Siblings parent ids → ∀ i ∈ ids, ∀ j ∈ ids, ∀ m n,
    s.get? i = some m → s.get? j = some n → m.shape = n.shape → m.test.toTest = n.test.toTest → i = j
  /-- A selector and a constant of its shape are not beside each other. -/
  apart : ∀ parent ids, s.Siblings parent ids → ∀ i ∈ ids, ∀ j ∈ ids, ∀ m n,
    s.get? i = some m → s.get? j = some n → m.test.toTest = .selector → n.constantOf? m.shape = none
  /-- A table has one row for a value, -/
  values : ∀ id n table, s.get? id = some n → n.test = .selector table →
    (table.map Prod.fst).Nodup
  /-- the row leads to the node that tests against it, -/
  cases : ∀ id n table, s.get? id = some n → n.test = .selector table →
    ∀ row ∈ table, ∃ child, s.get? row.2 = some child ∧ child.constantOf? n.shape = some row.1
  /-- and the rows are those of all children. -/
  covers : ∀ id n table, s.get? id = some n → n.test = .selector table →
    table.map Prod.snd = n.children

end NodeStore

namespace StoredTree

/-- The entries end at nodes, the nodes lead to entries, and the flags and the paths are those of the
entries. -/
structure Serves (t : StoredTree) (roll : List LiveEntry) : Prop where
  ends : ∀ e ∈ t.entries, ∀ id ∈ e.node, t.store.Live id
  hosts : ∀ id n, t.store.get? id = some n →
    ∀ x, x ∈ n.entries ↔ ∃ e ∈ t.entries, e.id = x ∧ e.node = some id
  leads : ∀ id, t.store.Live id → ∃ e ∈ t.entries, ∃ leaf ∈ e.node, t.store.Under id leaf
  bare : t.entries = [] → ∀ id, ¬t.store.Live id
  unflagged : ∀ e ∈ t.entries, e.initialized = false → ∀ leaf ∈ e.node, ∀ id n,
    t.store.Under id leaf → t.store.get? id = some n → n.initialized = false
  /-- Without selectors, the way down to an entry is its compiled pattern. -/
  paths : ∀ e ∈ t.entries, ∃ x ∈ roll, x.id = e.id ∧ ∃ path,
    t.store.stepsTo t.store.slots.size e.node = .ok path ∧
      PatternTree.compile t.template x.pattern = .ok path

structure Intact (t : StoredTree) (roll : List LiveEntry) : Prop where
  forest : t.store.Forest
  discriminates : t.store.Discriminates
  serves : t.Serves roll

end StoredTree

namespace PlacedNode

open PatternNode

variable {c d : PlacedNode} {cs ds ks : List PlacedNode} {parent : Option NodeId}
  {steps : List PathStep}

/-- The table of constants has a row for each. -/
theorem ids_tableOf (named : ∀ c ∈ ks, ∃ v, c.constant? = some v) :
    (tableOf ks).map Prod.snd = ks.map id := by
  induction ks with
  | nil => rfl
  | cons c ks ih =>
    obtain ⟨⟨v, constant⟩, named⟩ := List.forall_mem_cons.mp named
    rw [tableOf_cons_some constant, List.map_cons, List.map_cons, ih named]

theorem test_eq_selector {head : NodeHead} {table : List (Value × NodeId)}
    (test : (stored parent head ks).test = .selector table) :
    head.test = .selector ∧ table = tableOf ks := by
  change storedTest head.test ks = _ at test
  cases own : head.test with
  | field t => rw [own] at test; cases test
  | selector =>
    rw [own] at test
    exact ⟨rfl, (StoredTest.selector.inj test).symm⟩

/-- Below a selector there are constants of its shape. -/
theorem Tier.constants (tier : Tier cs parent steps ds) (sound : SoundAll (trees cs))
    (inside : c ∈ ds) (selector : c.head.test = .selector) :
    ∀ d ∈ c.children, d.tree.isConstant c.head.shape = true := by
  intro d below
  have own := (tier.sound sound).2 _ (tree_mem inside)
  obtain ⟨id, head, children⟩ := c
  rw [tree_node] at own
  obtain ⟨only, -, -⟩ := own
  obtain ⟨-, -, constants⟩ := only selector
  exact constants _ (tree_mem below)

/-- Siblings that look at the same in the same way are one. -/
theorem Tier.eq_of_same (tier : Tier cs parent steps ds) (sound : SoundAll (trees cs))
    (inside : c ∈ ds) (inside' : d ∈ ds) (shape : c.head.shape = d.head.shape)
    (test : c.head.test = d.head.test) : c = d := by
  have distinct := (tier.sound sound).1
  rw [Distinct, trees_eq_map, List.map_map] at distinct
  refine List.inj_on_of_nodup_map distinct inside inside' ?_
  change (c.tree.head.shape, c.tree.head.test) = (d.tree.head.shape, d.tree.head.test)
  rw [head_tree, head_tree, shape, test]

/-- Beside a selector there is no constant of its shape. -/
theorem Tier.not_constant (tier : Tier cs parent steps ds) (parted : PartedAll (trees cs))
    (inside : c ∈ ds) (inside' : d ∈ ds) (selector : c.head.test = .selector) :
    ¬d.tree.isConstant c.head.shape = true := by
  intro constant
  obtain ⟨v, named⟩ := isConstant_iff.mp constant
  have selects : c.tree.key = (c.head.shape, .selector) := by rw [key, head_tree, selector]
  exact (tier.parted parted).1 _ v (List.mem_map.mpr ⟨_, tree_mem inside, selects⟩)
    (List.mem_map.mpr ⟨_, tree_mem inside', named⟩)

theorem Tier.ids_nodup (tier : Tier cs parent steps ds)
    (once : ((rowsAll none cs).map Prod.fst).Nodup) : (ds.map id).Nodup :=
  once.sublist ((ids_sublist parent ds).trans (tier.rows_sublist.map _))

end PlacedNode

namespace NodeStore

open PlacedNode PatternNode PatternTree

variable {s : NodeStore} {cs ds : List PlacedNode} {c d : PlacedNode} {parent : Option NodeId}
  {steps : List PathStep} {id : NodeId} {top leaf : NodeId} {n : StoredNode}

theorem Under.trans {a b c : NodeId} (first : s.Under a b) (second : s.Under b c) : s.Under a c := by
  induction second with
  | here => exact first
  | up live above _ ih => exact .up live above ih

variable (holds : s.Holds (cs.map PlacedNode.id) (rowsAll none cs))
include holds

theorem Holds.live_of_tier (tier : Tier cs parent steps ds) (inside : id ∈ ds.map PlacedNode.id) :
    s.Live id := by
  obtain ⟨d, listed, rfl⟩ := List.mem_map.mp inside
  exact ⟨_, holds.at tier listed⟩

/-- A node on a tier is what the slots hold of it. -/
theorem Holds.sibling (tier : Tier cs parent steps ds) (inside : id ∈ ds.map PlacedNode.id)
    (live : s.get? id = some n) : ∃ d ∈ ds, d.id = id ∧ n = stored parent d.head d.children := by
  obtain ⟨d, listed, rfl⟩ := List.mem_map.mp inside
  exact ⟨d, listed, rfl, Option.some.inj (live.symm.trans (holds.at tier listed))⟩

theorem Holds.rooted_of_tier (tier : Tier cs parent steps ds) : ∀ d ∈ ds, s.Rooted d.id := by
  induction tier with
  | root => exact fun d inside => .node (holds.at .root inside) fun p above => nomatch above
  | down above inside ih =>
    refine fun d listed => .node (holds.at (above.down inside) listed) fun p same => ?_
    obtain rfl := Option.some.inj same
    exact ih _ inside

/-- Climbing from where an entry ends comes to every node that has the entry below it. -/
theorem Holds.under_of_seats {x : NodeId × EntryId} (tier : Tier cs parent steps ds)
    (inside : d ∈ ds) (seat : x ∈ seats d) : s.Under d.id x.1 := by
  induction d using PlacedNode.induction generalizing parent steps ds with
  | step i head children ih =>
    rw [seats_node] at seat
    rcases List.mem_append.mp seat with own | seat
    · obtain ⟨e, -, rfl⟩ := List.mem_map.mp own
      exact .here
    · obtain ⟨c, listed, seat⟩ := mem_seatsAll.mp seat
      have next := tier.down inside
      exact (Under.up (holds.at next listed) rfl .here).trans (ih c listed next listed seat)

/-- What ends below a node ends below all that climbing from it comes to. -/
theorem Holds.seats_of_under (under : s.Under top leaf) (tier : Tier cs parent steps ds)
    (inside : d ∈ ds) (same : d.id = leaf) : ∃ above steps es c, Tier cs above steps es ∧ c ∈ es ∧
      c.id = top ∧ seats d ⊆ seats c := by
  induction under generalizing parent steps ds d with
  | here => exact ⟨parent, steps, ds, d, tier, inside, same, List.Subset.refl _⟩
  | up live above _ ih =>
    obtain rfl := Option.some.inj (live.symm.trans (same ▸ holds.at tier inside))
    have above : parent = some _ := above
    subst above
    cases tier with
    | down before listed =>
      obtain ⟨above, steps, es, c, tier, inside', here, fewer⟩ := ih before listed rfl
      exact ⟨above, steps, es, c, tier, inside', here,
        fun x seat => fewer (seats_of_child inside seat)⟩

/-- Whichever reference out of a node is followed, it leads to a child. -/
theorem Holds.accessible (tier : Tier cs parent steps ds) (inside : d ∈ ds) :
    Acc s.Refers d.id := by
  induction d using PlacedNode.induction generalizing parent steps ds with
  | step i head children ih =>
    have next := tier.down inside
    refine Acc.intro _ fun child refers => ?_
    obtain ⟨n, live, refers⟩ := refers
    obtain rfl := Option.some.inj (live.symm.trans (holds.at tier inside))
    have below : child ∈ children.map PlacedNode.id := by
      rcases refers with listed | ⟨table, v, test, row⟩
      · exact listed
      · obtain ⟨-, rfl⟩ := test_eq_selector test
        obtain ⟨c, listed, -, rfl⟩ := mem_tableOf.mp row
        exact List.mem_map_of_mem listed
    obtain ⟨c, listed, rfl⟩ := List.mem_map.mp below
    exact ih c listed next listed

theorem Holds.forest : s.Forest where
  roots id inside := by
    rw [holds.roots_eq] at inside
    exact holds.live_of_tier .root inside
  children id n live child inside := by
    obtain ⟨above, steps, es, c, tier, listed, -, rfl⟩ := holds.tier live
    exact holds.live_of_tier (tier.down listed) inside
  parents id n live parent same := by
    obtain ⟨above, steps, es, c, tier, listed, -, rfl⟩ := holds.tier live
    have same : above = some parent := same
    subst same
    cases tier with
    | down before inside => exact ⟨_, holds.at before inside⟩
  tables id n table live test row inside := by
    obtain ⟨above, steps, es, c, tier, listed, -, rfl⟩ := holds.tier live
    obtain ⟨-, rfl⟩ := test_eq_selector test
    obtain ⟨d, below, -, same⟩ := mem_tableOf.mp inside
    exact ⟨_, same ▸ holds.at (tier.down listed) below⟩
  agree id n parent live := by
    obtain ⟨above, steps, es, c, tier, listed, rfl, rfl⟩ := holds.tier live
    constructor
    · rintro ⟨ids, siblings, inside⟩
      obtain ⟨steps', ds, tier', rfl⟩ := holds.tier_of_childrenOf siblings
      obtain ⟨d, listed', -, same⟩ := holds.sibling tier' inside live
      exact congrArg StoredNode.parent same
    · rintro rfl
      exact ⟨_, holds.childrenOf tier, List.mem_map_of_mem listed⟩
  once parent ids siblings := by
    obtain ⟨steps, ds, tier, rfl⟩ := holds.tier_of_childrenOf siblings
    exact tier.ids_nodup holds.once
  rooted id live := by
    obtain ⟨n, live⟩ := live
    obtain ⟨above, steps, es, c, tier, listed, rfl, -⟩ := holds.tier live
    exact holds.rooted_of_tier tier c listed
  grounded := .intro fun id => by
    cases live : s.get? id with
    | none =>
      refine Acc.intro _ fun child refers => ?_
      obtain ⟨n, found, -⟩ := refers
      cases live.symm.trans found
    | some n =>
      obtain ⟨above, steps, es, c, tier, listed, rfl, -⟩ := holds.tier live
      exact holds.accessible tier listed

theorem Holds.discriminates (sound : SoundAll (trees cs)) (parted : PartedAll (trees cs)) :
    s.Discriminates where
  rivals parent ids siblings i inside j inside' m n live live' shape test := by
    obtain ⟨steps, ds, tier, rfl⟩ := holds.tier_of_childrenOf siblings
    obtain ⟨c, listed, rfl, rfl⟩ := holds.sibling tier inside live
    obtain ⟨d, listed', rfl, rfl⟩ := holds.sibling tier inside' live'
    rw [toTest_stored, toTest_stored] at test
    rw [tier.eq_of_same sound listed listed' shape test]
  apart parent ids siblings i inside j inside' m n live live' test := by
    obtain ⟨steps, ds, tier, rfl⟩ := holds.tier_of_childrenOf siblings
    obtain ⟨c, listed, rfl, rfl⟩ := holds.sibling tier inside live
    obtain ⟨d, listed', rfl, rfl⟩ := holds.sibling tier inside' live'
    rw [toTest_stored] at test
    change (stored parent d.head d.children).constantOf? c.head.shape = none
    rw [constantOf?_stored, if_neg (tier.not_constant parted listed listed' test)]
  values id n table live test := by
    obtain ⟨above, steps, es, c, tier, listed, rfl, rfl⟩ := holds.tier live
    obtain ⟨selector, rfl⟩ := test_eq_selector test
    exact values_nodup ((tier.down listed).sound sound).1 (tier.constants sound listed selector)
  cases id n table live test row inside := by
    obtain ⟨above, steps, es, c, tier, listed, rfl, rfl⟩ := holds.tier live
    obtain ⟨selector, rfl⟩ := test_eq_selector test
    obtain ⟨d, below, named, same⟩ := mem_tableOf.mp inside
    refine ⟨_, same ▸ holds.at (tier.down listed) below, ?_⟩
    change (stored _ d.head d.children).constantOf? c.head.shape = some row.1
    rw [constantOf?_stored, if_pos (tier.constants sound listed selector d below), named]
  covers id n table live test := by
    obtain ⟨above, steps, es, c, tier, listed, rfl, rfl⟩ := holds.tier live
    obtain ⟨selector, rfl⟩ := test_eq_selector test
    exact ids_tableOf fun d below =>
      constant?_of_isConstant (tier.constants sound listed selector d below)

end NodeStore

namespace StoredTree

open PlacedNode PatternNode PatternTree NodeStore

variable {t : StoredTree} {cs : List PlacedNode} {roll : List LiveEntry}

/-- An entry is found where it is said to be. -/
theorem Embodied.seat (embodied : t.Embodied cs) {e : StoredEntry} (listed : e ∈ t.entries)
    {leaf : NodeId} (place : e.node = some leaf) : (leaf, e.id) ∈ seatsAll cs := by
  rw [← mem_ends_node (t := t), ← place]
  exact embodied.seated.mem_iff.mpr (List.mem_map_of_mem (f := fun e => (e.node, e.id)) listed)

/-- What ends at a node is an entry. -/
theorem Embodied.entry (embodied : t.Embodied cs) {x : NodeId × EntryId} (seat : x ∈ seatsAll cs) :
    ∃ e ∈ t.entries, e.id = x.2 ∧ e.node = some x.1 := by
  have ends := embodied.seated.mem_iff.mp (mem_ends_node.mpr seat)
  obtain ⟨e, listed, same⟩ := List.mem_map.mp ends
  exact ⟨e, listed, congrArg Prod.snd same, congrArg Prod.fst same⟩

/-- An entry of the tree is flagged if it is in the slots. -/
theorem initialized_of_flagged (carries : (t.treeWith cs).Carries roll) {e : StoredEntry}
    (listed : e ∈ t.entries) (flagged : (t.treeWith cs).IsInitialized e.id) : e.initialized = true := by
  have distinct := carries.keeps.distinct
  rw [← carries.keeps.listed] at distinct
  unfold IsInitialized at flagged
  rw [Option.any_eq_true] at flagged
  obtain ⟨x, found, flag⟩ := flagged
  have same : x.id = e.id := by simpa using List.find?_some found
  have inside : e.toEntry ∈ (t.treeWith cs).entries := List.mem_map_of_mem listed
  obtain rfl := List.inj_on_of_nodup_map distinct (List.mem_of_find?_eq_some found) inside same
  exact flag

/-- The steps down to an entry are a route of the tree. -/
theorem Embodied.route (embodied : t.Embodied cs) {e : StoredEntry} (listed : e ∈ t.entries)
    (sound : SoundAll (trees cs)) : ∃ path,
      t.store.stepsTo t.store.slots.size e.node = .ok path ∧
        (path, e.id) ∈ (t.treeWith cs).allRoutes := by
  cases place : e.node with
  | none =>
    have seat := embodied.seated.mem_iff.mpr
      (List.mem_map_of_mem (f := fun e => (e.node, e.id)) listed)
    rw [place] at seat
    refine ⟨[], by rw [NodeStore.stepsTo], List.mem_append_left _ ?_⟩
    exact List.mem_map_of_mem (f := fun x => ([], x)) (mem_ends_root.mp seat)
  | some leaf =>
    obtain ⟨c, inside, seat⟩ := mem_seatsAll.mp (embodied.seat listed place)
    obtain ⟨above, steps, es, d, tier, below, rfl, own⟩ := Tier.root.of_seats inside seat
    refine ⟨_, embodied.holds.stepsTo (tier.down below), List.mem_append_right _ ?_⟩
    have inside : d.tree ∈ trees es := tree_mem below
    exact tier.routes (mem_routesAll.mpr
      ⟨_, inside, route_of_entries ((tier.sound sound).2 _ inside) own⟩)

section Serves

variable (embodied : t.Embodied cs) (carries : (t.treeWith cs).Carries roll)
include embodied

theorem Embodied.live_of_node {e : StoredEntry} (listed : e ∈ t.entries) {leaf : NodeId}
    (place : e.node = some leaf) : t.store.Live leaf := by
  obtain ⟨c, inside, seat⟩ := mem_seatsAll.mp (embodied.seat listed place)
  obtain ⟨above, steps, es, d, tier, below, rfl, -⟩ := Tier.root.of_seats inside seat
  exact ⟨_, embodied.holds.at tier below⟩

/-- A node lists the entries that say that they end there. -/
theorem Embodied.mem_entries {id : NodeId} {n : StoredNode} (live : t.store.get? id = some n)
    (x : EntryId) : x ∈ n.entries ↔ ∃ e ∈ t.entries, e.id = x ∧ e.node = some id := by
  obtain ⟨above, steps, es, c, tier, listed, rfl, rfl⟩ := embodied.holds.tier live
  constructor
  · intro own
    exact embodied.entry (tier.seats listed (seats_of_entries own))
  · rintro ⟨e, entered, rfl, place⟩
    obtain ⟨b, inside, seat⟩ := mem_seatsAll.mp (embodied.seat entered place)
    obtain ⟨above', steps', es', d, tier', below, same, own⟩ := Tier.root.of_seats inside seat
    have found := embodied.holds.at tier' below
    rw [same, live] at found
    have entries : c.head.entries = d.head.entries :=
      congrArg StoredNode.entries (Option.some.inj found)
    change e.id ∈ c.head.entries
    rwa [entries]

include carries

/-- Every node has an entry at it or below. -/
theorem Embodied.leads {id : NodeId} (live : t.store.Live id) :
    ∃ e ∈ t.entries, ∃ leaf ∈ e.node, t.store.Under id leaf := by
  obtain ⟨n, live⟩ := live
  obtain ⟨above, steps, es, c, tier, listed, rfl, -⟩ := embodied.holds.tier live
  have sound := (tier.sound carries.keeps.sound).2 _ (tree_mem listed)
  have fertile := tier.fertile carries.fertile _ (tree_mem listed)
  obtain ⟨r, route⟩ := List.exists_mem_of_ne_nil _ fertile.leads
  have ends := List.mem_map_of_mem (f := Prod.snd) route
  rw [routes_entries sound] at ends
  obtain ⟨x, seat, -⟩ := List.mem_map.mp ends
  obtain ⟨e, entered, -, place⟩ := embodied.entry (tier.seats listed seat)
  exact ⟨e, entered, x.1, place, embodied.holds.under_of_seats tier listed seat⟩

/-- A node with a fresh entry at it or below is not flagged. -/
theorem Embodied.unflagged {e : StoredEntry} (listed : e ∈ t.entries) (fresh : e.initialized = false)
    {leaf : NodeId} (place : e.node = some leaf) {id : NodeId} {n : StoredNode}
    (under : t.store.Under id leaf) (live : t.store.get? id = some n) : n.initialized = false := by
  obtain ⟨b, inside, seat⟩ := mem_seatsAll.mp (embodied.seat listed place)
  obtain ⟨above, steps, es, d, tier, below, rfl, own⟩ := Tier.root.of_seats inside seat
  obtain ⟨above, steps, es, c, tier, listed', rfl, more⟩ :=
    embodied.holds.seats_of_under under tier below rfl
  obtain rfl := Option.some.inj (live.symm.trans (embodied.holds.at tier listed'))
  have sound := (tier.sound carries.keeps.sound).2 _ (tree_mem listed')
  have settled := tier.settled carries.keeps.settled _ (tree_mem listed')
  have ends := List.mem_map_of_mem (f := Prod.snd) (more (seats_of_entries own))
  rw [← routes_entries sound] at ends
  obtain ⟨r, route, same⟩ := List.mem_map.mp ends
  rw [← Bool.not_eq_true]
  intro flag
  have flagged := flagged_of_settled settled flag r route
  rw [same] at flagged
  exact Bool.false_ne_true (fresh.symm.trans (initialized_of_flagged carries listed flagged))

/-- The way down to an entry is the path of its pattern. -/
theorem Embodied.path {e : StoredEntry} (listed : e ∈ t.entries) : ∃ x ∈ roll, x.id = e.id ∧
    ∃ path, t.store.stepsTo t.store.slots.size e.node = .ok path ∧
      PatternTree.compile t.template x.pattern = .ok path := by
  obtain ⟨path, climbs, route⟩ := embodied.route listed carries.keeps.sound
  have routed := carries.keeps.routed.mem_iff.mp
    (List.mem_map_of_mem (f := fun r => (Except.ok r.1, r.2)) route)
  obtain ⟨x, inside, same⟩ := List.mem_map.mp routed
  obtain ⟨l, live, rfl⟩ := List.mem_map.mp inside
  exact ⟨l, live, congrArg Prod.snd same, path, climbs, congrArg Prod.fst same⟩

theorem Embodied.serves : t.Serves roll where
  ends _ listed _ place := embodied.live_of_node listed place
  hosts _ _ live := embodied.mem_entries live
  leads _ live := embodied.leads carries live
  bare none id live := by
    obtain ⟨e, listed, -⟩ := embodied.leads carries live
    rw [none] at listed
    cases listed
  unflagged _ listed fresh _ place _ _ under live :=
    embodied.unflagged carries listed fresh place under live
  paths _ listed := embodied.path carries listed

end Serves

/-- Whatever calls are made of a tree, some of which may be refused: none comes upon a reference to an
empty slot, the slots stay intact, and reading them from the root down ends and gives the tree that the
calls make. -/
theorem intact_play (template : Template) (threshold : Nat) (calls : List TreeCall)
    (proper : PatternTree.Proper { template, threshold } calls) :
    ∃ t : StoredTree, StoredTree.play { template, threshold } calls = .ok t ∧
      t.Intact (rollOf template calls) ∧
      t.toTree = .ok (PatternTree.play { template, threshold } calls) := by
  have carried := carries_play (carries_empty template threshold) proper
  obtain ⟨t, cs, played, embodied, same⟩ :=
    (embodied_empty template threshold).play (carries_empty template threshold) proper
  have carries : (t.treeWith cs).Carries (rollOf template calls) := by
    rw [same]
    exact carried
  exact ⟨t, played,
    ⟨embodied.holds.forest, embodied.holds.discriminates carries.keeps.sound carries.parted,
      embodied.serves carries⟩, embodied.toTree.trans (congrArg _ same)⟩

/-- Patterns on things of some kinds. One is refused, and one is removed before another is added. -/
def kindCalls : List TreeCall :=
  let kind (name : String) : Pattern :=
    ⟨⟨0⟩, [⟨0, [.single (.constant (.symbol name)), .multi .any]⟩]⟩
  [.add ⟨0⟩ "box" (kind "box"), .add ⟨1⟩ "bag" (kind "bag"), .mark,
    .add ⟨2⟩ "nowhere" ⟨⟨0⟩, [⟨7, [.multi .any]⟩]⟩, .add ⟨3⟩ "any" ⟨⟨0⟩, []⟩, .remove ⟨1⟩,
    .add ⟨4⟩ "jar" (kind "jar")]

/-- The two nodes of the bag are given up, and the jar gets their slots. -/
theorem intact_play_kinds :
    let template := Template.implied "thing" mainModule
    PatternTree.Proper { template, threshold := 2 } kindCalls ∧
      ∃ t : StoredTree, StoredTree.play { template, threshold := 2 } kindCalls = .ok t ∧
        t.Intact (rollOf template kindCalls) ∧
        (t.store.slots.size, t.store.free, t.entries.map (·.node)) =
          (5, [], [some 1, none, some 4]) := by
  intro template
  have proper : PatternTree.Proper { template, threshold := 2 } kindCalls :=
    ⟨rfl, by decide +kernel, rfl, by decide +kernel, by decide +kernel, rfl, by decide +kernel,
      trivial⟩
  obtain ⟨t, played, intact, -⟩ := intact_play template 2 kindCalls proper
  refine ⟨proper, t, played, intact, ?_⟩
  have ended : (StoredTree.play { template, threshold := 2 } kindCalls).toOption.map
      (fun t => (t.store.slots.size, t.store.free, t.entries.map (·.node))) =
        some (5, [], [some 1, none, some 4]) := by
    decide +kernel
  rw [played] at ended
  exact Option.some.inj ended

end StoredTree

end FactBase

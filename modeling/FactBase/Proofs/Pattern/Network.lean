import FactBase.Pattern.Network
import FactBase.Proofs.Basic
import FactBase.Proofs.Pattern.History

/-!
# The trees of all templates

A ledger lists the live entries of all templates with their patterns. Each tree keeps its template's
part of the ledger, whatever entries are added and removed, and new entries get new numbers.
-/

namespace FactBase.PatternNetwork
open PatternTree

/-- The part of a ledger that concerns a template. -/
def ofTemplate (t : TemplateId) (L : Ledger) : Ledger := L.filter (·.2.template == t)

structure Keeps (n : PatternNetwork) (L : Ledger) : Prop where
  trees : ∀ t tree, n.tree? t = some tree → tree.Keeps (ofTemplate t L)
  /-- A template has a tree if it has entries. -/
  planted : ∀ x ∈ L, (n.tree? x.2.template).isSome
  owned : n.owners = L.map fun x => (x.1, x.2.template)
  numbered : ∀ x ∈ L, x.1.number < n.nextEntry
  distinct : (L.map (·.1)).Nodup

/-- Whether all facts were replayed into an entry of a template. -/
def Initialized (n : PatternNetwork) (t : TemplateId) (e : EntryId) : Prop :=
  ∃ tree, n.tree? t = some tree ∧ tree.IsInitialized e

/-- The facts that a halted replay of a template has dealt with. -/
def replayed (n : PatternNetwork) (t : TemplateId) : List Handle :=
  ((n.tree? t).map (·.replayed)).getD []

/-- The template as the patterns of a tree understand it. -/
def template? (n : PatternNetwork) (t : TemplateId) : Option Template :=
  (n.tree? t).map (·.template)

/-- An entry is none the wiser. -/
structure Same (x : EntryId × Pattern) (n n' : PatternNetwork) : Prop where
  template : n'.template? x.2.template = n.template? x.2.template
  initialized : n'.Initialized x.2.template x.1 ↔ n.Initialized x.2.template x.1
  replayed : n'.replayed x.2.template = n.replayed x.2.template

variable {n n' : PatternNetwork} {L : Ledger} {t u : TemplateId} {e id : EntryId}

theorem Same.symm {x : EntryId × Pattern} (same : Same x n n') : Same x n' n :=
  ⟨same.template.symm, same.initialized.symm, same.replayed.symm⟩

theorem mem_ofTemplate {x : EntryId × Pattern} :
    x ∈ ofTemplate t L ↔ x ∈ L ∧ x.2.template = t := by
  simp [ofTemplate]

theorem tree?_setTree (n : PatternNetwork) (t u : TemplateId) (tree : PatternTree) :
    (n.setTree t tree).tree? u =
      if u = t then (if tree.isEmpty then none else some tree) else n.tree? u := by
  unfold setTree tree?
  by_cases same : u = t
  · subst same
    cases tree.isEmpty <;> simp [lookup_filter_self]
  · have passed : (u == t) = false := beq_false_of_ne same
    cases tree.isEmpty <;> simp [same, passed, List.lookup_cons, lookup_filter_of_ne _ same]

theorem tree?_updateTree (n : PatternNetwork) (t u : TemplateId) (f : PatternTree → PatternTree) :
    (n.updateTree t f).tree? u = if u = t then (n.tree? u).map f else n.tree? u := by
  refine (lookup_map_update n.trees t u f).trans ?_
  by_cases same : u = t <;> simp [same, tree?]

/-- Entries of a ledger are found in the tree of their template. -/
theorem Keeps.isSome_entryOf? (keeps : n.Keeps L) {x : EntryId × Pattern} (listed : x ∈ L)
    {tree : PatternTree} (found : n.tree? x.2.template = some tree) :
    (tree.entryOf? x.1).isSome := by
  rw [Option.isSome_iff_ne_none, ne_eq, entryOf?_eq_none_iff, (keeps.trees _ _ found).listed,
    not_not]
  exact List.mem_map.mpr ⟨x, mem_ofTemplate.mpr ⟨listed, rfl⟩, rfl⟩

/-- Entries of one number are one entry. -/
theorem Keeps.eq_of_entry (keeps : n.Keeps L) {x y : EntryId × Pattern} (hx : x ∈ L) (hy : y ∈ L)
    (same : x.1 = y.1) : x = y :=
  List.inj_on_of_nodup_map keeps.distinct hx hy same

/-! ### Adding -/

/-- The tree that an entry is added to keeps its template's part of the ledger, even if it is
planted just now. -/
theorem Keeps.base (keeps : n.Keeps L) (t : TemplateId) (template : Template) :
    ((n.tree? t).getD { template, threshold := n.threshold }).Keeps (ofTemplate t L) := by
  cases found : n.tree? t with
  | some tree => exact keeps.trees t tree found
  | none =>
    have bare : ofTemplate t L = [] := by
      rw [List.eq_nil_iff_forall_not_mem]
      intro x hx
      obtain ⟨hx, same⟩ := mem_ofTemplate.mp hx
      have planted := keeps.planted x hx
      rw [same, found] at planted
      cases planted
    rw [bare]
    exact keeps_empty template n.threshold

/-- No entry has the next number yet. -/
theorem Keeps.next_not_mem (keeps : n.Keeps L) : (⟨n.nextEntry⟩ : EntryId) ∉ L.map (·.1) := by
  intro listed
  obtain ⟨x, hx, same⟩ := List.mem_map.mp listed
  have numbered := keeps.numbered x hx
  rw [same] at numbered
  exact Nat.lt_irrefl _ numbered

theorem add_eq_ok {template : Template} {p : Pattern} {label : String}
    (added : n.add template p label = .ok (id, n')) :
    id = ⟨n.nextEntry⟩ ∧ n'.nextEntry = n.nextEntry + 1 ∧
      n'.owners = n.owners ++ [(id, p.template)] ∧ ∃ tree,
      ((n.tree? p.template).getD { template, threshold := n.threshold }).add id label p = .ok tree ∧
      ∀ u, n'.tree? u = if u = p.template then some tree else n.tree? u := by
  obtain ⟨tree, grown, same⟩ := bind_eq_ok.mp added
  obtain ⟨rfl, rfl⟩ := Prod.mk.inj (Except.ok.inj same)
  refine ⟨rfl, rfl, rfl, tree, grown, fun u => ?_⟩
  have stays : tree.isEmpty = false := by
    obtain ⟨path, -, shape⟩ := PatternTree.add_eq_ok grown
    rw [shape]
    simp [PatternTree.isEmpty]
  have changed := tree?_setTree n p.template u tree
  rw [stays] at changed
  exact changed

/-- A new entry is new to the ledger. -/
theorem Keeps.add (keeps : n.Keeps L) {template : Template} {p : Pattern} {label : String}
    (added : n.add template p label = .ok (id, n')) : n'.Keeps (L ++ [(id, p)]) := by
  obtain ⟨rfl, next, owners, tree, grown, trees⟩ := add_eq_ok added
  have kept := keeps.base p.template template
  have new : ((n.tree? p.template).getD { template, threshold := n.threshold }).entryOf?
      ⟨n.nextEntry⟩ = none := by
    refine entryOf?_eq_none_iff.mpr ?_
    rw [kept.listed]
    exact fun inside => keeps.next_not_mem ((List.filter_sublist.map _).subset inside)
  refine ⟨fun u tree' found => ?_, fun x hx => ?_, ?_, fun x hx => ?_, ?_⟩
  · rw [trees] at found
    split at found
    · rename_i same
      obtain rfl := Option.some.inj found
      have split : ofTemplate u (L ++ [(⟨n.nextEntry⟩, p)]) =
          ofTemplate p.template L ++ [(⟨n.nextEntry⟩, p)] := by
        simp [ofTemplate, same]
      rw [split]
      exact kept.add new grown
    · rename_i other
      have split : ofTemplate u (L ++ [(⟨n.nextEntry⟩, p)]) = ofTemplate u L := by
        simp [ofTemplate, Ne.symm other]
      rw [split]
      exact keeps.trees u tree' found
  · rw [trees]
    split
    · rfl
    · rename_i other
      rcases List.mem_append.mp hx with old | new
      · exact keeps.planted x old
      · rw [List.mem_singleton.mp new] at other
        exact absurd rfl other
  · rw [owners, keeps.owned, List.map_append]
    rfl
  · rw [next]
    rcases List.mem_append.mp hx with old | new
    · exact Nat.lt_succ_of_lt (keeps.numbered x old)
    · rw [List.mem_singleton.mp new]
      exact Nat.lt_succ_self _
  · rw [List.map_append]
    exact List.nodup_append'.mpr
      ⟨keeps.distinct, List.nodup_singleton _, by simpa using keeps.next_not_mem⟩

/-- What a halted replay has dealt with counts as dealt with for a new entry too. -/
theorem replayed_add {template : Template} {p : Pattern} {label : String}
    (added : n.add template p label = .ok (id, n')) : n'.replayed u = n.replayed u := by
  obtain ⟨rfl, -, -, tree, grown, trees⟩ := add_eq_ok added
  obtain ⟨path, -, shape⟩ := PatternTree.add_eq_ok grown
  rw [replayed, replayed, trees]
  split
  · rename_i same
    rw [same, shape]
    cases n.tree? p.template <;> rfl
  · rfl

/-- Nothing was replayed into a new entry. -/
theorem Keeps.add_new (keeps : n.Keeps L) {template : Template} {p : Pattern} {label : String}
    (added : n.add template p label = .ok (id, n')) :
    ¬ n'.Initialized p.template id := by
  obtain ⟨rfl, -, -, tree, grown, trees⟩ := add_eq_ok added
  have kept := keeps.base p.template template
  obtain ⟨path, -, shape⟩ := PatternTree.add_eq_ok grown
  have here := trees p.template
  rw [if_pos rfl] at here
  rintro ⟨tree', found, initialized⟩
  obtain rfl := Option.some.inj (here.symm.trans found)
  have new : ∀ x ∈ ((n.tree? p.template).getD
      { template, threshold := n.threshold }).entries, ¬ x.id = ⟨n.nextEntry⟩ := by
    intro x hx same
    have inside := List.mem_map.mpr ⟨x, hx, same⟩
    rw [kept.listed] at inside
    exact keeps.next_not_mem ((List.filter_sublist.map _).subset inside)
  have last : tree.entryOf? ⟨n.nextEntry⟩ = some { id := ⟨n.nextEntry⟩, label } := by
    have missed : List.find? (·.id == ⟨n.nextEntry⟩) ((n.tree? p.template).getD
        { template, threshold := n.threshold }).entries = none :=
      List.find?_eq_none.mpr fun x hx => by simpa using new x hx
    rw [entryOf?, shape]
    simp only [List.find?_append, missed]
    simp
  rw [IsInitialized, last] at initialized
  cases initialized

/-- The entries there before do not notice a new one. -/
theorem Keeps.add_same (keeps : n.Keeps L) {template : Template} {p : Pattern} {label : String}
    (added : n.add template p label = .ok (id, n')) {x : EntryId × Pattern} (listed : x ∈ L) :
    Same x n n' := by
  obtain ⟨rfl, -, -, tree, grown, trees⟩ := add_eq_ok added
  obtain ⟨path, -, shape⟩ := PatternTree.add_eq_ok grown
  have found := trees x.2.template
  by_cases same : x.2.template = p.template
  · obtain ⟨tree₀, found₀⟩ := Option.isSome_iff_exists.mp (keeps.planted x listed)
    have other : x.1 ≠ ⟨n.nextEntry⟩ := fun same =>
      keeps.next_not_mem (List.mem_map.mpr ⟨x, listed, same⟩)
    rw [← same, found₀, Option.getD_some] at shape
    have entry : tree.entryOf? x.1 = tree₀.entryOf? x.1 := by
      rw [shape, entryOf?, entryOf?]
      simp [List.find?_append, other.symm]
    rw [if_pos same] at found
    refine ⟨?_, ?_, ?_⟩
    · rw [template?, template?, found, found₀, shape]
      rfl
    · simp only [Initialized, found, found₀, Option.some.injEq, exists_eq_left', IsInitialized,
        entry]
    · rw [replayed, replayed, found, found₀, shape]
      rfl
  · rw [if_neg same] at found
    exact ⟨by rw [template?, template?, found], by simp only [Initialized, found],
      by rw [replayed, replayed, found]⟩

/-! ### Removing -/

theorem remove_eq_ok (removed : n.remove id = .ok n') :
    ∃ t tree tree', n.owner? id = some t ∧ n.tree? t = some tree ∧ tree.remove id = .ok tree' ∧
      n'.nextEntry = n.nextEntry ∧ n'.owners = n.owners.filter (·.1 != id) ∧
      ∀ u, n'.tree? u =
        if u = t then (if tree'.isEmpty then none else some tree') else n.tree? u := by
  unfold remove at removed
  split at removed
  · cases removed
  · rename_i t owned
    split at removed
    · cases removed
    · rename_i tree found
      obtain ⟨tree', pruned, same⟩ := bind_eq_ok.mp removed
      obtain rfl := Except.ok.inj same
      exact ⟨t, tree, tree', owned, found, pruned, rfl, rfl, fun u => tree?_setTree n t u tree'⟩

/-- The owner of an entry is its template. -/
theorem Keeps.template_of_owner (keeps : n.Keeps L) (owned : n.owner? id = some t)
    {x : EntryId × Pattern} (listed : x ∈ L) (same : x.1 = id) : x.2.template = t := by
  rw [owner?, keeps.owned, List.lookup_eq_some_iff] at owned
  obtain ⟨front, back, split, -⟩ := owned
  have inside : (id, t) ∈ L.map fun x => (x.1, x.2.template) := by
    rw [split]
    simp
  obtain ⟨y, hy, pair⟩ := List.mem_map.mp inside
  obtain ⟨entry, template⟩ := Prod.mk.inj pair
  rw [keeps.eq_of_entry listed hy (same.trans entry.symm)]
  exact template

theorem Keeps.remove (keeps : n.Keeps L) (removed : n.remove id = .ok n') :
    n'.Keeps (L.filter (·.1 != id)) := by
  obtain ⟨t, tree, tree', owned, found, pruned, next, owners, trees⟩ := remove_eq_ok removed
  have kept : tree'.Keeps ((ofTemplate t L).filter (·.1 != id)) :=
    (keeps.trees t tree found).remove pruned
  have part (u : TemplateId) :
      ofTemplate u (L.filter (·.1 != id)) = (ofTemplate u L).filter (·.1 != id) :=
    List.filter_comm _ _ _
  refine ⟨fun u v found' => ?_, fun x hx => ?_, ?_, fun x hx => ?_, ?_⟩
  · rw [trees] at found'
    rw [part]
    split at found'
    · rename_i same
      split at found'
      · cases found'
      · obtain rfl := Option.some.inj found'
        exact same ▸ kept
    · rename_i other
      have spared : (ofTemplate u L).filter (·.1 != id) = ofTemplate u L := by
        refine List.filter_eq_self.mpr fun x hx => ?_
        obtain ⟨listed, template⟩ := mem_ofTemplate.mp hx
        refine bne_iff_ne.mpr fun same => other ?_
        rw [← template]
        exact keeps.template_of_owner owned listed same
      rw [spared]
      exact keeps.trees u v found'
  · obtain ⟨listed, remains⟩ := List.mem_filter.mp hx
    rw [trees]
    split
    · rename_i same
      have inside : x ∈ (ofTemplate t L).filter (·.1 != id) :=
        List.mem_filter.mpr ⟨mem_ofTemplate.mpr ⟨listed, same⟩, remains⟩
      have stays : tree'.isEmpty = false := by
        rw [PatternTree.isEmpty, Bool.eq_false_iff, ne_eq, List.isEmpty_iff]
        intro bare
        have none := kept.listed
        rw [bare, List.map_nil, eq_comm, List.map_eq_nil_iff] at none
        rw [none] at inside
        cases inside
      rw [stays]
      rfl
    · exact keeps.planted x listed
  · rw [owners, keeps.owned, List.filter_map]
    rfl
  · rw [next]
    exact keeps.numbered x (List.mem_filter.mp hx).1
  · exact keeps.distinct.sublist (List.filter_sublist.map _)

/-- A template that loses its last entry loses what was replayed. -/
theorem replayed_remove (removed : n.remove id = .ok n') : n'.replayed u ⊆ n.replayed u := by
  obtain ⟨t, tree, tree', -, found, pruned, -, -, trees⟩ := remove_eq_ok removed
  rw [replayed, replayed, trees]
  split
  · rename_i same
    rw [same, found, PatternTree.remove_eq_ok pruned]
    split <;> simp
  · exact List.Subset.refl _

/-- The entries that stay do not notice that another one goes. -/
theorem Keeps.remove_same (keeps : n.Keeps L) (removed : n.remove id = .ok n')
    {x : EntryId × Pattern} (listed : x ∈ L) (other : x.1 ≠ id) : Same x n n' := by
  have planted := (keeps.remove removed).planted x
    (List.mem_filter.mpr ⟨listed, bne_iff_ne.mpr other⟩)
  obtain ⟨t, tree, tree', owned, found, pruned, next, owners, trees⟩ := remove_eq_ok removed
  have found' := trees x.2.template
  by_cases same : x.2.template = t
  · rw [if_pos same] at found'
    cases bare : tree'.isEmpty with
    | true =>
      rw [found', bare] at planted
      cases planted
    | false =>
      rw [bare] at found'
      rw [← same] at found
      have shape := PatternTree.remove_eq_ok pruned
      have entry : tree'.entryOf? x.1 = tree.entryOf? x.1 := by
        rw [shape]
        exact entryOf?_filter other
      refine ⟨?_, ?_, ?_⟩
      · rw [template?, template?, found', found, shape]
        rfl
      · simp [Initialized, found', found, IsInitialized, entry]
      · rw [replayed, replayed, found', found, shape]
        rfl
  · rw [if_neg same] at found'
    exact ⟨by rw [template?, template?, found'], by simp only [Initialized, found'],
      by rw [replayed, replayed, found']⟩

/-! ### Replays -/

section Replays

variable {f : PatternTree → PatternTree}

/-- A change of a tree under which it keeps what it kept. -/
theorem Keeps.updateTree (keeps : n.Keeps L) (t : TemplateId)
    (kept : ∀ tree ps, tree.Keeps ps → (f tree).Keeps ps) : (n.updateTree t f).Keeps L where
  trees u tree found := by
    rw [tree?_updateTree] at found
    split at found
    · obtain ⟨tree₀, found₀, rfl⟩ := Option.map_eq_some_iff.mp found
      exact kept _ _ (keeps.trees u tree₀ found₀)
    · exact keeps.trees u tree found
  planted x hx := by
    rw [tree?_updateTree]
    split
    · rw [Option.isSome_map]
      exact keeps.planted x hx
    · exact keeps.planted x hx
  owned := keeps.owned
  numbered := keeps.numbered
  distinct := keeps.distinct

theorem Keeps.recordReplayed (keeps : n.Keeps L) (t : TemplateId) (h : Handle) :
    (n.updateTree t (·.recordReplayed h)).Keeps L :=
  keeps.updateTree t fun _ _ kept =>
    ⟨kept.sound, kept.settled, kept.routed, kept.listed, kept.distinct⟩

theorem Keeps.markInitialized (keeps : n.Keeps L) (t : TemplateId) :
    (n.updateTree t (·.markInitialized)).Keeps L :=
  keeps.updateTree t fun _ _ kept => kept.mark

/-- Only trees need replays. -/
theorem planted_of_mem_needingReplay (needing : t ∈ n.needingReplay) : (n.tree? t).isSome := by
  rw [needingReplay, List.mem_mergeSort, List.mem_map] at needing
  obtain ⟨⟨u, tree⟩, inside, rfl⟩ := needing
  have listed := (List.mem_filter.mp inside).1
  rw [Option.isSome_iff_ne_none, ne_eq, tree?, List.lookup_eq_none_iff]
  exact fun missing => absurd (missing _ listed) (by simp)

theorem template?_updateTree (n : PatternNetwork) (t u : TemplateId)
    (same : ∀ tree, (f tree).template = tree.template) :
    (n.updateTree t f).template? u = n.template? u := by
  rw [template?, template?, tree?_updateTree]
  split
  · rw [Option.map_map]
    exact congrArg (Option.map · _) (funext same)
  · rfl

theorem initialized_recordReplayed {h : Handle} :
    (n.updateTree t (·.recordReplayed h)).Initialized u e ↔ n.Initialized u e := by
  unfold Initialized
  rw [tree?_updateTree]
  split
  · constructor
    · rintro ⟨_, changed, initialized⟩
      obtain ⟨tree, found, rfl⟩ := Option.map_eq_some_iff.mp changed
      exact ⟨tree, found, initialized⟩
    · rintro ⟨tree, found, initialized⟩
      exact ⟨tree.recordReplayed h, by rw [found]; rfl, initialized⟩
  · rfl

theorem replayed_recordReplayed {h : Handle} {tree : PatternTree} (found : n.tree? t = some tree) :
    (n.updateTree t (·.recordReplayed h)).replayed u =
      if u = t then h :: n.replayed u else n.replayed u := by
  rw [replayed, replayed, tree?_updateTree]
  split
  · rename_i same
    rw [same, found]
    rfl
  · rfl

/-- All live entries of a template are initialized at once. -/
theorem Keeps.initialized_markInitialized (keeps : n.Keeps L) {x : EntryId × Pattern}
    (listed : x ∈ L) : (n.updateTree t (·.markInitialized)).Initialized x.2.template x.1 ↔
      x.2.template = t ∨ n.Initialized x.2.template x.1 := by
  unfold Initialized
  rw [tree?_updateTree]
  split
  · rename_i same
    refine iff_of_true ?_ (.inl same)
    obtain ⟨tree, found⟩ := Option.isSome_iff_exists.mp (keeps.planted x listed)
    refine ⟨tree.markInitialized, by rw [found]; rfl, ?_⟩
    obtain ⟨entry, entered⟩ := Option.isSome_iff_exists.mp (keeps.isSome_entryOf? listed found)
    have marked : tree.markInitialized.entryOf? x.1 = some { entry with initialized := true } := by
      rw [entryOf?, PatternTree.markInitialized, List.find?_map]
      exact congrArg (Option.map _) entered
    rw [IsInitialized, marked]
    rfl
  · rename_i other
    simp [other]

theorem replayed_markInitialized :
    (n.updateTree t (·.markInitialized)).replayed u = if u = t then [] else n.replayed u := by
  rw [replayed, replayed, tree?_updateTree]
  split
  · cases n.tree? u <;> rfl
  · rfl

end Replays

end FactBase.PatternNetwork

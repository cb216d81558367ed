import FactBase.Proofs.Pattern.History

/-!
# What a pattern tree keeps up

Constants of a shape are under its selector or beside each other, never both, so no two ways lead on
by one step. And every node leads somewhere: to a live entry at it or below. Both hold after every
change of a tree.
-/

namespace FactBase

namespace PatternNode

variable {ms ns : List PatternNode} {n : PatternNode} {shape : Shape}

/-- No constant of a selector's shape stands beside the selector. -/
def Apart (ns : List PatternNode) : Prop :=
  ∀ shape v, (shape, .selector) ∈ ns.map key → (shape, .field (.constant v)) ∉ ns.map key

/-- Selectors have gathered the constants of their shapes, at a node and everywhere below. -/
inductive Parted : PatternNode → Prop
  | node {head : NodeHead} {children : List PatternNode} (apart : Apart children)
      (below : ∀ c ∈ children, Parted c) : Parted (.node head children)

def PartedAll (ns : List PatternNode) : Prop := Apart ns ∧ ∀ n ∈ ns, Parted n

/-- A node and all nodes below it lead to entries. -/
inductive Fertile : PatternNode → Prop
  | node {head : NodeHead} {children : List PatternNode} (leads : routes (.node head children) ≠ [])
      (below : ∀ c ∈ children, Fertile c) : Fertile (.node head children)

theorem Parted.children (parted : Parted n) : PartedAll n.children := by
  cases parted with
  | node apart below => exact ⟨apart, below⟩

theorem Fertile.leads (fertile : Fertile n) : routes n ≠ [] := by
  cases fertile with
  | node leads => exact leads

theorem Fertile.children (fertile : Fertile n) : ∀ c ∈ n.children, Fertile c := by
  cases fertile with
  | node _ below => exact below

theorem Apart.subset (apart : Apart ns) (fewer : ms.map key ⊆ ns.map key) : Apart ms :=
  fun shape v selects constant => apart shape v (fewer selects) (fewer constant)

/-- Where there are only constants there is no selector. -/
theorem apart_of_constants (constants : ∀ c ∈ ns, c.isConstant shape = true) : Apart ns := by
  intro other v selects _
  obtain ⟨c, inside, same⟩ := List.mem_map.mp selects
  obtain ⟨w, named⟩ := isConstant_iff.mp (constants c inside)
  cases same.symm.trans named

theorem routesAll_ne_nil (inside : n ∈ ns) (leads : routes n ≠ []) : routesAll ns ≠ [] := by
  obtain ⟨r, found⟩ := List.exists_mem_of_ne_nil _ leads
  exact List.ne_nil_of_mem (mem_routesAll.mpr ⟨n, inside, found⟩)

end PatternNode

namespace PatternTree
open PatternNode

variable {threshold : Nat} {entry : EntryId} {step : PathStep} {rest path : List PathStep}
  {ns : List PatternNode} {n m : PatternNode}

/-! ### Adding -/

theorem partedAll_append {leaf : PatternNode} (h : PartedAll ns) (parted : Parted leaf)
    (selects : ∀ shape, leaf.key ≠ (shape, .selector))
    (alone : ∀ shape v, leaf.key = (shape, .field (.constant v)) → (shape, .selector) ∉ ns.map key) :
    PartedAll (ns ++ [leaf]) := by
  refine ⟨fun shape v selector constant => ?_, List.forall_mem_append.mpr
    ⟨h.2, List.forall_mem_singleton.mpr parted⟩⟩
  rw [List.map_append, List.map_singleton, List.mem_append, List.mem_singleton] at selector constant
  rcases selector with selector | same
  · rcases constant with constant | same
    · exact h.1 shape v selector constant
    · exact alone shape v same.symm selector
  · exact selects shape same.symm

theorem partedAll_modifyFirst {p : PatternNode → Bool} {f : PatternNode → PatternNode}
    (h : PartedAll ns) (keeps : ∀ n, (f n).key = n.key) (hf : ∀ n ∈ ns, p n = true → Parted (f n)) :
    PartedAll (modifyFirst p f ns) :=
  ⟨h.1.subset (map_key_modifyFirst keeps ns ▸ List.Subset.refl _), forall_mem_modifyFirst hf h.2⟩

theorem partedAll_groupConstants {shape : Shape} (h : PartedAll ns) :
    PartedAll (groupConstants threshold shape ns) := by
  by_cases enough : threshold ≤ (ns.filter (·.isConstant shape)).length
  · have perm := groupConstants_perm enough
    have kept : (ns.filter (!·.isConstant shape)).map key ⊆ ns.map key :=
      (List.filter_sublist.map key).subset
    constructor
    · intro other v selects constant
      rw [(perm.map key).mem_iff, List.map_cons, List.mem_cons] at selects constant
      rcases constant with same | constant
      · cases same
      · rcases selects with same | selects
        · obtain ⟨n, inside, named⟩ := List.mem_map.mp constant
          obtain rfl : other = shape := congrArg Prod.fst same
          have gathered := isConstant_iff.mpr ⟨v, named⟩
          simp [gathered] at inside
        · exact h.1 other v (kept selects) (kept constant)
    · intro n inside
      rcases List.mem_cons.mp (perm.mem_iff.mp inside) with rfl | inside
      · exact .node (apart_of_constants fun c inside => (List.mem_filter.mp inside).2)
          fun c inside => h.2 c (List.mem_filter.mp inside).1
      · exact h.2 n (List.mem_filter.mp inside).1
  · rwa [groupConstants_few enough]

/-- A selector's shape takes one field, so a step that is no constant of one field is apart from it. -/
theorem not_selects_of_fresh (sound : SoundAll ns)
    (free : ∀ v, step.constant? = some v → ns.any (·.selects step.shape) = false) {shape : Shape}
    {v : Value} (same : (blank step).key = (shape, .field (.constant v))) :
    (shape, .selector) ∉ ns.map key := by
  intro selector
  obtain ⟨n, inside, named⟩ := List.mem_map.mp selector
  obtain rfl : step.shape = shape := congrArg Prod.fst same
  have test : step.test = .constant v := NodeTest.field.inj (congrArg Prod.snd same)
  have single : step.shape.isMulti = false := by
    have sound := sound.2 n inside
    obtain ⟨only, -, -⟩ := sound
    rename_i head children
    have shape : head.shape = step.shape := congrArg Prod.fst named
    exact shape ▸ (only (congrArg Prod.snd named)).1
  have constant : step.constant? = some v := by rw [PathStep.constant?, single, test]
  exact List.any_eq_false.mp (free v constant) n inside (selects_iff.mpr named)

theorem partedAll_insertPath (path : List PathStep) (sound : SoundAll ns) (h : PartedAll ns) :
    PartedAll (insertPath threshold entry path ns) := by
  induction path generalizing ns with
  | nil => rwa [insertPath]
  | cons step rest ih =>
    have enters (n : PatternNode) (sound : Sound n) (parted : Parted n) :
        Parted (enter threshold entry rest n) :=
      have below := ih sound.children parted.children
      .node below.1 below.2
    have bare : Parted (blank step) := .node (fun _ _ none => by simp at none) (by simp)
    have leaf := enters (blank step) (sound_blank step) bare
    refine insertPath_cases (P := PartedAll) ?_ ?_ ?_ ?_
    · intro v constant _
      refine partedAll_modifyFirst h (fun _ => rfl) fun n inside selects => ?_
      have parted := (h.2 n inside).children.2
      have entered : Sound (enterCase threshold entry step rest v n) :=
        sound_enterCase (sound.2 n inside) constant selects fun n sound performs =>
          sound_enter performs (soundAll_insertPath threshold entry rest sound.children)
      obtain ⟨only, -, -⟩ := entered
      obtain ⟨-, -, constants⟩ := only (congrArg Prod.snd (selects_iff.mp selects))
      refine .node (apart_of_constants constants) ?_
      split
      · exact forall_mem_modifyFirst
          (fun c below _ => enters c ((sound.2 n inside).children.2 c below) (parted c below)) parted
      · exact List.forall_mem_append.mpr ⟨parted, List.forall_mem_singleton.mpr leaf⟩
    · intro _
      exact partedAll_modifyFirst h (fun _ => rfl) fun n inside _ =>
        enters n (sound.2 n inside) (h.2 n inside)
    · intro free _
      exact partedAll_append h leaf (fun shape same => by cases same) fun shape v same =>
        not_selects_of_fresh sound free same
    · intro _ _ _ added
      exact partedAll_groupConstants added

theorem fertile_enter (path : List PathStep) (sound : Sound n) (performs : n.performs step = true)
    (below : ∀ c ∈ insertPath threshold entry path n.children, Fertile c) :
    Fertile (enter threshold entry path n) := by
  have perm : (routes (enter threshold entry path n)).Perm ((step :: path, entry) :: routes n) :=
    routes_enter performs fun some => routesAll_insertPath some sound.children
  refine .node (fun none => ?_) below
  have leads : routes (enter threshold entry path n) = [] := none
  rw [leads] at perm
  exact List.cons_ne_nil _ _ perm.symm.eq_nil

/-- A selector leads somewhere if there is a node below it. -/
theorem fertile_selector {head : NodeHead} {children : List PatternNode}
    (selects : head.test = .selector) (some : children ≠ []) (below : ∀ c ∈ children, Fertile c) :
    Fertile (.node head children) := by
  obtain ⟨c, inside⟩ := List.exists_mem_of_ne_nil _ some
  refine .node ?_ below
  rw [routes_selector children selects]
  exact routesAll_ne_nil inside (below c inside).leads

theorem modifyFirst_ne_nil {α : Type} {p : α → Bool} {f : α → α} {xs : List α} (some : xs ≠ []) :
    modifyFirst p f xs ≠ [] := by
  obtain ⟨x, rest, rfl⟩ := List.exists_cons_of_ne_nil some
  unfold modifyFirst
  split
  · exact List.cons_ne_nil _ _
  · exact List.cons_ne_nil _ _

theorem fertile_groupConstants {shape : Shape} (some : ns.filter (·.isConstant shape) ≠ [])
    (h : ∀ n ∈ ns, Fertile n) : ∀ n ∈ groupConstants threshold shape ns, Fertile n := by
  by_cases enough : threshold ≤ (ns.filter (·.isConstant shape)).length
  · intro n inside
    rcases List.mem_cons.mp ((groupConstants_perm enough).mem_iff.mp inside) with rfl | inside
    · exact fertile_selector rfl some fun c inside => h c (List.mem_filter.mp inside).1
    · exact h n (List.mem_filter.mp inside).1
  · rwa [groupConstants_few enough]

/-- Every node that a path enters or adds leads to its entry, and the others lead where they led. -/
theorem fertile_insertPath (path : List PathStep) (sound : SoundAll ns)
    (h : ∀ n ∈ ns, Fertile n) : ∀ n ∈ insertPath threshold entry path ns, Fertile n := by
  induction path generalizing ns with
  | nil => rwa [insertPath]
  | cons step rest ih =>
    have enters (n : PatternNode) (sound : Sound n) (below : ∀ c ∈ n.children, Fertile c)
        (performs : n.performs step = true) : Fertile (enter threshold entry rest n) :=
      fertile_enter rest sound performs (ih sound.children below)
    have leaf := enters (blank step) (sound_blank step) (fun _ none => absurd none List.not_mem_nil)
      (blank_performs step)
    have added {ms : List PatternNode} (h : ∀ n ∈ ms, Fertile n) :
        ∀ n ∈ ms ++ [enter threshold entry rest (blank step)], Fertile n :=
      List.forall_mem_append.mpr ⟨h, List.forall_mem_singleton.mpr leaf⟩
    refine insertPath_cases (P := fun ms => ∀ n ∈ ms, Fertile n) ?_ ?_ ?_ ?_
    · intro v constant _
      refine forall_mem_modifyFirst (fun n inside selects => ?_) h
      have below := (h n inside).children
      refine fertile_selector (congrArg Prod.snd (selects_iff.mp selects)) ?_ ?_
      · split
        · rename_i found
          exact modifyFirst_ne_nil fun none => by simp [none] at found
        · exact List.append_ne_nil_of_right_ne_nil _ (List.cons_ne_nil _ _)
      · have sound := sound.2 n inside
        have case := fun c hc => (enterCase_performs sound constant selects (c := c) hc).mp
        split
        · exact forall_mem_modifyFirst (fun c under found =>
            enters c (sound.children.2 c under) (below c under).children (case c under found)) below
        · exact added below
    · intro _
      exact forall_mem_modifyFirst
        (fun n inside performs => enters n (sound.2 n inside) (h n inside).children performs) h
    · intro _ _
      exact added h
    · intro v constant _ added
      refine fertile_groupConstants (List.ne_nil_of_mem (a := enter threshold entry rest (blank step))
        (List.mem_filter.mpr ⟨List.mem_append_right _ List.mem_cons_self, ?_⟩)) added
      rw [isConstant_iff, key_enter]
      exact ⟨v, Prod.ext rfl (congrArg NodeTest.field (constant?_eq_some constant).2)⟩

/-! ### Removing and replaying -/

theorem parted_prune {id : EntryId} (parted : Parted n) (left : prune id n = some m) : Parted m := by
  induction n using PatternNode.induction generalizing m with
  | step head children ih =>
    obtain ⟨apart, below⟩ := parted
    rw [prune_node] at left
    split at left
    · cases left
    · cases left
      refine .node (apart.subset ?_) fun c inside => ?_
      · exact (pruneAll_eq_filterMap id children ▸ map_key_pruneAll id children).subset
      · obtain ⟨d, listed, left⟩ := List.mem_filterMap.mp inside
        exact ih d listed (below d listed) left

theorem partedAll_pruneAll (id : EntryId) (h : PartedAll ns) : PartedAll (pruneAll id ns) := by
  refine ⟨h.1.subset (map_key_pruneAll id ns).subset, fun m inside => ?_⟩
  rw [pruneAll_eq_filterMap] at inside
  obtain ⟨n, listed, left⟩ := List.mem_filterMap.mp inside
  exact parted_prune (h.2 n listed) left

/-- A node is left because an entry or a child is, and leads there. -/
theorem fertile_prune {id : EntryId} (sound : Sound n) (fertile : Fertile n)
    (left : prune id n = some m) : Fertile m := by
  induction n using PatternNode.induction generalizing m with
  | step head children ih =>
    have below : ∀ c ∈ children.filterMap (prune id), Fertile c := by
      intro c inside
      obtain ⟨d, listed, left⟩ := List.mem_filterMap.mp inside
      exact ih d listed (sound.children.2 d listed) (fertile.children d listed) left
    obtain ⟨only, -, -⟩ := sound
    rw [prune_node] at left
    split at left
    · cases left
    · rename_i kept
      cases left
      cases test : head.test with
      | selector =>
        obtain ⟨-, none, -⟩ := only test
        refine fertile_selector rfl (fun gone => ?_) below
        simp [none, gone] at kept
      | field t =>
        refine .node (fun gone => ?_) below
        rw [routes_field _ rfl] at gone
        simp only [List.append_eq_nil_iff, List.map_eq_nil_iff] at gone
        have some : children.filterMap (prune id) ≠ [] := fun none => by simp [gone.1, none] at kept
        obtain ⟨c, inside⟩ := List.exists_mem_of_ne_nil _ some
        exact routesAll_ne_nil inside (below c inside).leads gone.2

theorem fertile_pruneAll (id : EntryId) (sound : SoundAll ns) (h : ∀ n ∈ ns, Fertile n) :
    ∀ n ∈ pruneAll id ns, Fertile n := by
  intro m inside
  rw [pruneAll_eq_filterMap] at inside
  obtain ⟨n, listed, left⟩ := List.mem_filterMap.mp inside
  exact fertile_prune (sound.2 n listed) (h n listed) left

theorem map_key_map_initializeNode (ns : List PatternNode) :
    (ns.map initializeNode).map key = ns.map key := by
  rw [List.map_map]
  exact List.map_congr_left fun n _ => key_initializeNode n

theorem parted_initializeNode (parted : Parted n) : Parted (initializeNode n) := by
  induction parted with
  | @node head children apart _ ih =>
    rw [initializeNode_node]
    exact .node (apart.subset (map_key_map_initializeNode children ▸ List.Subset.refl _))
      (List.forall_mem_map.mpr ih)

theorem partedAll_initializeNodes (h : PartedAll ns) : PartedAll (initializeNodes ns) := by
  rw [initializeNodes_eq_map]
  exact ⟨h.1.subset (map_key_map_initializeNode ns ▸ List.Subset.refl _),
    List.forall_mem_map.mpr fun n inside => parted_initializeNode (h.2 n inside)⟩

theorem fertile_initializeNode (fertile : Fertile n) : Fertile (initializeNode n) := by
  induction fertile with
  | @node head children leads _ ih =>
    have same := routes_initializeNode (.node head children)
    rw [initializeNode_node] at same ⊢
    exact .node (same ▸ leads) (List.forall_mem_map.mpr ih)

theorem fertile_initializeNodes (h : ∀ n ∈ ns, Fertile n) : ∀ n ∈ initializeNodes ns, Fertile n := by
  rw [initializeNodes_eq_map]
  exact List.forall_mem_map.mpr fun n inside => fertile_initializeNode (h n inside)

end PatternTree
end FactBase

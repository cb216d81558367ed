import FactBase.Pattern.Tree
import Mathlib.Data.List.Nodup
import Mathlib.Data.List.Perm.Basic

/-!
# Routes through a pattern tree

A route is what a live entry stands for in the tree: the steps from the root to the node where it
ends, selectors left out. Adding an entry adds one route and touches no other, however nodes are
shared or moved under selectors; removing an entry takes its route away. The flags that let a
replay skip nodes are read off the routes too.
-/

namespace FactBase

namespace PatternNode

theorem induction {P : PatternNode → Prop}
    (step : ∀ head children, (∀ n ∈ children, P n) → P (.node head children)) : ∀ n, P n
  | .node head children => step head children fun n _ => induction step n
termination_by n => n
decreasing_by
  have := List.sizeOf_lt_of_mem ‹n ∈ children›
  simp only [node.sizeOf_spec]
  omega

/-- What a node looks at and how: no two siblings agree in it. -/
def key (n : PatternNode) : Shape × NodeTest := (n.head.shape, n.head.test)

def Distinct (ns : List PatternNode) : Prop := (ns.map key).Nodup

/-- The steps to an entry, and the entry. -/
abbrev Route := List PathStep × EntryId

mutual
/-- The routes that lead into a node. A selector is no step of its own. -/
def routes : PatternNode → List Route
  | .node head children =>
    match head.test with
    | .selector => routesAll children
    | .field test =>
      head.entries.map (([⟨head.shape, test⟩], ·)) ++
        (routesAll children).map fun r => (⟨head.shape, test⟩ :: r.1, r.2)

def routesAll : List PatternNode → List Route
  | [] => []
  | n :: ns => routes n ++ routesAll ns
end

/-- A selector ends no pattern and has nothing but constants of its own shape below it; siblings
are distinct everywhere. -/
inductive Sound : PatternNode → Prop
  | node {head : NodeHead} {children : List PatternNode}
      (selects : head.test = .selector →
        head.shape.isMulti = false ∧ head.entries = [] ∧ ∀ c ∈ children, c.isConstant head.shape)
      (distinct : Distinct children) (below : ∀ c ∈ children, Sound c) :
      Sound (.node head children)

/-- A node is flagged only if every entry it leads to is. -/
inductive Settled (flagged : EntryId → Prop) : PatternNode → Prop
  | node {head : NodeHead} {children : List PatternNode}
      (entries : head.initialized = true → ∀ r ∈ routes (.node head children), flagged r.2)
      (below : ∀ c ∈ children, Settled flagged c) : Settled flagged (.node head children)

def SoundAll (ns : List PatternNode) : Prop := Distinct ns ∧ ∀ n ∈ ns, Sound n

theorem Sound.children {n : PatternNode} (h : Sound n) : SoundAll n.children := by
  cases h with
  | node _ distinct below => exact ⟨distinct, below⟩

@[simp] theorem routesAll_nil : routesAll [] = [] := by rw [routesAll]

@[simp] theorem routesAll_cons (n : PatternNode) (ns : List PatternNode) :
    routesAll (n :: ns) = routes n ++ routesAll ns := by rw [routesAll]

theorem routesAll_eq_flatMap (ns : List PatternNode) : routesAll ns = ns.flatMap routes := by
  induction ns with
  | nil => rw [routesAll_nil, List.flatMap_nil]
  | cons n ns ih => rw [routesAll_cons, ih, List.flatMap_cons]

@[simp] theorem routesAll_append (ms ns : List PatternNode) :
    routesAll (ms ++ ns) = routesAll ms ++ routesAll ns := by
  simp only [routesAll_eq_flatMap, List.flatMap_append]

theorem routesAll_perm {ms ns : List PatternNode} (h : ms.Perm ns) :
    (routesAll ms).Perm (routesAll ns) := by
  simp only [routesAll_eq_flatMap]
  exact h.flatMap_right routes

theorem mem_routesAll {r : Route} {ns : List PatternNode} :
    r ∈ routesAll ns ↔ ∃ n ∈ ns, r ∈ routes n := by
  rw [routesAll_eq_flatMap, List.mem_flatMap]

theorem routes_selector {head : NodeHead} (children : List PatternNode)
    (h : head.test = .selector) : routes (.node head children) = routesAll children := by
  rw [routes, h]

theorem routes_field {head : NodeHead} {test : FieldTest} (children : List PatternNode)
    (h : head.test = .field test) :
    routes (.node head children) =
      head.entries.map (([⟨head.shape, test⟩], ·)) ++
        (routesAll children).map fun r => (⟨head.shape, test⟩ :: r.1, r.2) := by
  rw [routes, h]

/-- The ways on from a node: to its own entries, and into its children. -/
def ways (head : NodeHead) (children : List PatternNode) : List Route :=
  head.entries.map (([], ·)) ++ routesAll children

theorem routes_eq_map {head : NodeHead} {test : FieldTest} (children : List PatternNode)
    (h : head.test = .field test) :
    routes (.node head children) =
      (ways head children).map fun r => (⟨head.shape, test⟩ :: r.1, r.2) := by
  rw [routes_field children h, ways, List.map_append, List.map_map]
  rfl

theorem performs_iff {n : PatternNode} {s : PathStep} :
    n.performs s = true ↔ n.key = (s.shape, .field s.test) := by
  simp [performs, key, Prod.ext_iff]

theorem selects_iff {n : PatternNode} {shape : Shape} :
    n.selects shape = true ↔ n.key = (shape, .selector) := by
  simp [selects, isSelector, key, Prod.ext_iff]

theorem isConstant_iff {n : PatternNode} {shape : Shape} :
    n.isConstant shape = true ↔ ∃ v, n.key = (shape, .field (.constant v)) := by
  obtain ⟨head, children⟩ := n
  obtain ⟨s, test, flag, entries⟩ := head
  simp only [isConstant, key, PatternNode.head, Bool.and_eq_true, beq_iff_eq, Prod.mk.injEq]
  constructor
  · rintro ⟨hs, ht⟩
    split at ht
    · rename_i v
      exact ⟨v, hs, rfl⟩
    · cases ht
  · rintro ⟨v, hs, ht⟩
    subst ht
    exact ⟨hs, rfl⟩

theorem isCase_iff {n : PatternNode} {v : Value} :
    n.isCase v = true ↔ n.head.test = .field (.constant v) := by
  simp [isCase]

/-- Among the children of a selector a case is found by its whole key. -/
theorem isCase_iff_performs {n : PatternNode} {shape : Shape} {v : Value}
    (constant : n.isConstant shape = true) :
    n.isCase v = true ↔ n.performs ⟨shape, .constant v⟩ = true := by
  obtain ⟨w, hw⟩ := isConstant_iff.mp constant
  have hs : n.head.shape = shape := congrArg Prod.fst hw
  rw [isCase_iff, performs_iff]
  constructor
  · intro h
    exact Prod.ext hs h
  · intro h
    exact congrArg Prod.snd h

theorem Settled.mono {f g : EntryId → Prop} {n : PatternNode} (h : Settled f n)
    (weaker : ∀ r ∈ routes n, f r.2 → g r.2) : Settled g n := by
  induction n using PatternNode.induction with
  | step head children ih =>
    obtain ⟨entries, below⟩ := h
    refine .node (fun hi r hr => weaker r hr (entries hi r hr)) fun c hc => ?_
    refine ih c hc (below c hc) fun r hr hf => ?_
    cases htest : head.test with
    | selector =>
      rw [routes_selector children htest] at weaker
      exact weaker r (mem_routesAll.mpr ⟨c, hc, hr⟩) hf
    | field test =>
      rw [routes_field children htest] at weaker
      refine weaker (⟨head.shape, test⟩ :: r.1, r.2) (List.mem_append_right _ ?_) hf
      exact List.mem_map.mpr ⟨r, mem_routesAll.mpr ⟨c, hc, hr⟩, rfl⟩

theorem Settled.children {f : EntryId → Prop} {n : PatternNode} (h : Settled f n) :
    ∀ c ∈ n.children, Settled f c := by
  cases h with
  | node _ below => exact below

end PatternNode

namespace PatternTree
open PatternNode

/-! ### Adding a route -/

/-- A node that the path of a new entry enters, with `rest` still to go. -/
def enter (threshold : Nat) (entry : EntryId) (rest : List PathStep) (n : PatternNode) :
    PatternNode :=
  .node
    { n.head with
      initialized := false
      entries := if rest.isEmpty then n.head.entries ++ [entry] else n.head.entries }
    (insertPath threshold entry rest n.children)

/-- The node for a step that no sibling performs. -/
def blank (step : PathStep) : PatternNode := .node { shape := step.shape, test := .field step.test } []

/-- Entering a selector leads to the case of a value, which may have to be made. -/
def enterCase (threshold : Nat) (entry : EntryId) (step : PathStep) (rest : List PathStep)
    (v : Value) (n : PatternNode) : PatternNode :=
  .node { n.head with initialized := false }
    (if n.children.any (·.isCase v) then
        modifyFirst (·.isCase v) (enter threshold entry rest) n.children
      else n.children ++ [enter threshold entry rest (blank step)])

theorem insertPath_cons (threshold : Nat) (entry : EntryId) (step : PathStep)
    (rest : List PathStep) (ns : List PatternNode) :
    insertPath threshold entry (step :: rest) ns =
      match step.constant? with
      | some v =>
        if ns.any (·.selects step.shape) then
          modifyFirst (·.selects step.shape) (enterCase threshold entry step rest v) ns
        else if ns.any (·.performs step) then
          modifyFirst (·.performs step) (enter threshold entry rest) ns
        else groupConstants threshold step.shape (ns ++ [enter threshold entry rest (blank step)])
      | none =>
        if ns.any (·.performs step) then
          modifyFirst (·.performs step) (enter threshold entry rest) ns
        else ns ++ [enter threshold entry rest (blank step)] := by
  rw [insertPath]
  rfl

theorem constant?_eq_some {step : PathStep} {v : Value} (h : step.constant? = some v) :
    step.shape.isMulti = false ∧ step.test = .constant v := by
  unfold PathStep.constant? at h
  split at h
  · rename_i hm ht
    exact ⟨hm, ht.trans (congrArg FieldTest.constant (Option.some.inj h))⟩
  · cases h

/-- Changing the first node of a kind changes the routes as it changes those of the node. -/
theorem routesAll_modifyFirst {p : PatternNode → Bool} {f : PatternNode → PatternNode} {r : Route}
    {ns : List PatternNode} (found : ns.any p = true)
    (hf : ∀ n ∈ ns, p n = true → (routes (f n)).Perm (r :: routes n)) :
    (routesAll (modifyFirst p f ns)).Perm (r :: routesAll ns) := by
  induction ns with
  | nil => simp at found
  | cons n ns ih =>
    by_cases h : p n = true
    · simp only [modifyFirst, h, if_true, routesAll_cons]
      exact (hf n List.mem_cons_self h).append_right _
    · have tail : ns.any p = true := by simpa [h] using found
      have rest := ih tail fun m hm => hf m (List.mem_cons_of_mem n hm)
      simp only [modifyFirst, h, routesAll_cons]
      exact (rest.append_left _).trans List.perm_middle

/-- What can be said of each node and survives a change survives changing one. -/
theorem forall_mem_modifyFirst {P : PatternNode → Prop} {p : PatternNode → Bool}
    {f : PatternNode → PatternNode} {ns : List PatternNode}
    (hf : ∀ n ∈ ns, p n = true → P (f n)) (h : ∀ n ∈ ns, P n) :
    ∀ n ∈ modifyFirst p f ns, P n := by
  induction ns with
  | nil => exact h
  | cons n ns ih =>
    have tail := ih (fun m hm => hf m (List.mem_cons_of_mem n hm))
      fun m hm => h m (List.mem_cons_of_mem n hm)
    by_cases hp : p n = true
    · simp only [modifyFirst, hp, if_true, List.forall_mem_cons]
      exact ⟨hf n List.mem_cons_self hp, fun m hm => h m (List.mem_cons_of_mem n hm)⟩
    · simp only [modifyFirst, hp, Bool.false_eq_true, if_false, List.forall_mem_cons]
      exact ⟨h n List.mem_cons_self, tail⟩

theorem map_key_modifyFirst {p : PatternNode → Bool} {f : PatternNode → PatternNode}
    (hf : ∀ n, (f n).key = n.key) (ns : List PatternNode) :
    (modifyFirst p f ns).map key = ns.map key := by
  induction ns with
  | nil => rfl
  | cons n ns ih =>
    by_cases h : p n = true
    · simp [modifyFirst, h, hf]
    · simp [modifyFirst, h, ih]

@[simp] theorem key_enter (threshold : Nat) (entry : EntryId) (rest : List PathStep)
    (n : PatternNode) : (enter threshold entry rest n).key = n.key := rfl

@[simp] theorem key_enterCase (threshold : Nat) (entry : EntryId) (step : PathStep)
    (rest : List PathStep) (v : Value) (n : PatternNode) :
    (enterCase threshold entry step rest v n).key = n.key := rfl

theorem routes_enter_eq (threshold : Nat) (entry : EntryId) (rest : List PathStep) {head : NodeHead}
    {test : FieldTest} (children : List PatternNode) (h : head.test = .field test) :
    routes (enter threshold entry rest (.node head children)) =
      (if rest.isEmpty then head.entries ++ [entry] else head.entries).map
          (([⟨head.shape, test⟩], ·)) ++
        (routesAll (insertPath threshold entry rest children)).map
          fun r => (⟨head.shape, test⟩ :: r.1, r.2) :=
  routes_field _ h

theorem routes_enter {threshold : Nat} {entry : EntryId} {step : PathStep} {rest : List PathStep}
    {n : PatternNode} (performs : n.performs step = true)
    (ih : rest ≠ [] → (routesAll (insertPath threshold entry rest n.children)).Perm
      ((rest, entry) :: routesAll n.children)) :
    (routes (enter threshold entry rest n)).Perm ((step :: rest, entry) :: routes n) := by
  obtain ⟨head, children⟩ := n
  have hk := performs_iff.mp performs
  have hshape : head.shape = step.shape := congrArg Prod.fst hk
  have htest : head.test = .field step.test := congrArg Prod.snd hk
  have hstep : (⟨head.shape, step.test⟩ : PathStep) = step := by rw [hshape]
  rw [routes_field children htest, routes_enter_eq threshold entry rest children htest, hstep]
  cases rest with
  | nil =>
    simp only [List.isEmpty_nil, if_true, List.map_append, List.map_cons, List.map_nil,
      insertPath, List.append_assoc, List.singleton_append]
    exact List.perm_middle
  | cons next rest =>
    simp only [List.isEmpty_cons, Bool.false_eq_true, if_false]
    have below := (ih (List.cons_ne_nil next rest)).map
      fun r : Route => (step :: r.1, r.2)
    exact (below.append_left _).trans List.perm_middle

theorem blank_performs (step : PathStep) : (blank step).performs step = true := by
  simp [blank, performs, PatternNode.head]

theorem sound_blank (step : PathStep) : Sound (blank step) :=
  .node (fun h => by simp at h) List.nodup_nil (by simp)

@[simp] theorem routes_blank (step : PathStep) : routes (blank step) = [] := by
  rw [blank, routes_field [] rfl]
  simp

/-- The constants of a shape and the other siblings, in the order in which they are grouped. -/
theorem siblings_perm (shape : Shape) (ns : List PatternNode) :
    (ns.takeWhile (!·.isConstant shape) ++
        (ns.dropWhile (!·.isConstant shape)).filter (!·.isConstant shape)) =
      ns.filter (!·.isConstant shape) := by
  have front : (ns.takeWhile (!·.isConstant shape)).filter (!·.isConstant shape) =
      ns.takeWhile (!·.isConstant shape) :=
    List.filter_eq_self.mpr fun n hn => List.all_eq_true.mp List.all_takeWhile n hn
  calc ns.takeWhile (!·.isConstant shape) ++
        (ns.dropWhile (!·.isConstant shape)).filter (!·.isConstant shape)
      = (ns.takeWhile (!·.isConstant shape) ++ ns.dropWhile (!·.isConstant shape)).filter
          (!·.isConstant shape) := by rw [List.filter_append, front]
    _ = ns.filter (!·.isConstant shape) := by rw [List.takeWhile_append_dropWhile]

/-- The selector that takes the constants of a shape over. -/
def selectorOver (shape : Shape) (ns : List PatternNode) : PatternNode :=
  .node
    { shape, test := .selector
      initialized := (ns.filter (·.isConstant shape)).all (·.head.initialized) }
    (ns.filter (·.isConstant shape))

theorem groupConstants_perm {threshold : Nat} {shape : Shape} {ns : List PatternNode}
    (enough : threshold ≤ (ns.filter (·.isConstant shape)).length) :
    (groupConstants threshold shape ns).Perm
      (selectorOver shape ns :: ns.filter (!·.isConstant shape)) := by
  rw [groupConstants, if_neg (by omega), ← siblings_perm shape ns]
  exact List.perm_middle

theorem groupConstants_few {threshold : Nat} {shape : Shape} {ns : List PatternNode}
    (few : ¬ threshold ≤ (ns.filter (·.isConstant shape)).length) :
    groupConstants threshold shape ns = ns := by
  rw [groupConstants, if_pos (by omega)]

theorem routesAll_groupConstants (threshold : Nat) (shape : Shape) (ns : List PatternNode) :
    (routesAll (groupConstants threshold shape ns)).Perm (routesAll ns) := by
  by_cases enough : threshold ≤ (ns.filter (·.isConstant shape)).length
  · refine (routesAll_perm (groupConstants_perm enough)).trans ?_
    rw [routesAll_cons, selectorOver, routes_selector _ rfl, ← routesAll_append]
    exact routesAll_perm (List.filter_append_perm _ ns)
  · rw [groupConstants_few enough]

theorem soundAll_groupConstants {threshold : Nat} {shape : Shape} {ns : List PatternNode}
    (single : shape.isMulti = false) (free : ns.any (·.selects shape) = false)
    (h : SoundAll ns) : SoundAll (groupConstants threshold shape ns) := by
  by_cases enough : threshold ≤ (ns.filter (·.isConstant shape)).length
  · have perm := groupConstants_perm enough
    have apart : (selectorOver shape ns).key ∉ (ns.filter (!·.isConstant shape)).map key := by
      intro hk
      obtain ⟨n, hn, hkey⟩ := List.mem_map.mp hk
      have selects : n.selects shape = true := selects_iff.mpr hkey
      have none := List.any_eq_false.mp free n (List.mem_filter.mp hn).1
      exact none selects
    have others : Distinct (ns.filter (!·.isConstant shape)) :=
      h.1.sublist (List.filter_sublist.map key)
    have below : Sound (selectorOver shape ns) := by
      refine .node (fun _ => ⟨single, rfl, fun c hc => (List.mem_filter.mp hc).2⟩) ?_ ?_
      · exact h.1.sublist (List.filter_sublist.map key)
      · exact fun c hc => h.2 c (List.mem_filter.mp hc).1
    constructor
    · exact (perm.map key).nodup_iff.mpr (List.nodup_cons.mpr ⟨apart, others⟩)
    · intro n hn
      rcases List.mem_cons.mp (perm.mem_iff.mp hn) with rfl | hn
      · exact below
      · exact h.2 n (List.mem_filter.mp hn).1
  · rwa [groupConstants_few enough]

theorem soundAll_append {n : PatternNode} {ns : List PatternNode} (h : SoundAll ns)
    (hn : Sound n) (apart : n.key ∉ ns.map key) : SoundAll (ns ++ [n]) := by
  constructor
  · rw [Distinct, List.map_append]
    exact List.nodup_append'.mpr ⟨h.1, List.nodup_singleton _, by simpa using apart⟩
  · intro m hm
    rcases List.mem_append.mp hm with hm | hm
    · exact h.2 m hm
    · rw [List.mem_singleton.mp hm]
      exact hn

theorem soundAll_modifyFirst {p : PatternNode → Bool} {f : PatternNode → PatternNode}
    {ns : List PatternNode} (h : SoundAll ns) (keeps : ∀ n, (f n).key = n.key)
    (hf : ∀ n ∈ ns, p n = true → Sound (f n)) : SoundAll (modifyFirst p f ns) := by
  constructor
  · rw [Distinct, map_key_modifyFirst keeps]
    exact h.1
  · exact forall_mem_modifyFirst hf h.2

/-- What leading an entry along a path can do to siblings. -/
theorem insertPath_cases {P : List PatternNode → Prop} {threshold : Nat} {entry : EntryId}
    {step : PathStep} {rest : List PathStep} {ns : List PatternNode}
    (selected : ∀ v, step.constant? = some v → ns.any (·.selects step.shape) = true →
      P (modifyFirst (·.selects step.shape) (enterCase threshold entry step rest v) ns))
    (shared : ns.any (·.performs step) = true →
      P (modifyFirst (·.performs step) (enter threshold entry rest) ns))
    (fresh : (∀ v, step.constant? = some v → ns.any (·.selects step.shape) = false) →
      ns.any (·.performs step) = false → P (ns ++ [enter threshold entry rest (blank step)]))
    (grouped : ∀ v, step.constant? = some v → ns.any (·.selects step.shape) = false →
      P (ns ++ [enter threshold entry rest (blank step)]) →
      P (groupConstants threshold step.shape (ns ++ [enter threshold entry rest (blank step)]))) :
    P (insertPath threshold entry (step :: rest) ns) := by
  rw [insertPath_cons]
  split
  · rename_i v hv
    split
    · exact selected v hv ‹_›
    · split
      · exact shared ‹_›
      · have free : ns.any (·.selects step.shape) = false := by
          simpa using ‹¬ ns.any (·.selects step.shape) = true›
        exact grouped v hv free
          (fresh (fun _ _ => free) (by simpa using ‹¬ ns.any (·.performs step) = true›))
  · rename_i hv
    split
    · exact shared ‹_›
    · exact fresh (fun v constant => by cases hv.symm.trans constant)
        (by simpa using ‹¬ ns.any (·.performs step) = true›)

/-- The children of a selector are cases, and one of them is the step of a constant or none is. -/
theorem enterCase_performs {step : PathStep} {v : Value} {n c : PatternNode} (sound : Sound n)
    (constant : step.constant? = some v) (selects : n.selects step.shape = true)
    (hc : c ∈ n.children) : c.isCase v = true ↔ c.performs step = true := by
  obtain ⟨_, ht⟩ := constant?_eq_some constant
  have hk := selects_iff.mp selects
  obtain ⟨only, _, _⟩ := sound
  obtain ⟨_, _, cases⟩ := only (congrArg Prod.snd hk)
  have hshape := congrArg Prod.fst hk
  have hstep : step = ⟨step.shape, .constant v⟩ := by rw [← ht]
  have hcase := isCase_iff_performs (v := v) (cases c hc)
  simp only [key, PatternNode.head] at hshape
  rw [hshape, ← hstep] at hcase
  exact hcase

theorem routesAll_insertPath {threshold : Nat} {entry : EntryId} {path : List PathStep}
    {ns : List PatternNode} (nonempty : path ≠ []) (h : SoundAll ns) :
    (routesAll (insertPath threshold entry path ns)).Perm ((path, entry) :: routesAll ns) := by
  induction path generalizing ns with
  | nil => exact absurd rfl nonempty
  | cons step rest ih =>
    have enters : ∀ n, Sound n → n.performs step = true →
        (routes (enter threshold entry rest n)).Perm ((step :: rest, entry) :: routes n) :=
      fun n sound performs => routes_enter performs fun hr => ih hr sound.children
    have added : ∀ ms, (routesAll (ms ++ [enter threshold entry rest (blank step)])).Perm
        ((step :: rest, entry) :: routesAll ms) := by
      intro ms
      have leaf := enters (blank step) (sound_blank step) (blank_performs step)
      rw [routesAll_append, routesAll_cons, routesAll_nil, List.append_nil]
      rw [routes_blank] at leaf
      exact (leaf.append_left _).trans (List.perm_append_singleton _ _)
    refine insertPath_cases
      (P := fun ms => (routesAll ms).Perm ((step :: rest, entry) :: routesAll ns)) ?_ ?_ ?_ ?_
    · intro v hv found
      refine routesAll_modifyFirst found fun n hn selects => ?_
      have sound := h.2 n hn
      have case := fun c hc => (enterCase_performs sound hv selects (c := c) hc).mp
      obtain ⟨head, children⟩ := n
      have htest : head.test = .selector := congrArg Prod.snd (selects_iff.mp selects)
      rw [routes_selector children htest, enterCase, routes_selector _ (by exact htest)]
      split
      · exact routesAll_modifyFirst ‹_› fun c hc hcase =>
          enters c (sound.children.2 c hc) (case c hc hcase)
      · exact added children
    · intro found
      exact routesAll_modifyFirst found fun n hn performs => enters n (h.2 n hn) performs
    · intro _ _
      exact added ns
    · intro v hv _ perm
      exact (routesAll_groupConstants threshold step.shape _).trans perm

theorem sound_enter {threshold : Nat} {entry : EntryId} {step : PathStep} {rest : List PathStep}
    {n : PatternNode} (performs : n.performs step = true)
    (below : SoundAll (insertPath threshold entry rest n.children)) :
    Sound (enter threshold entry rest n) := by
  have htest : n.head.test = .field step.test := congrArg Prod.snd (performs_iff.mp performs)
  refine .node (fun hs => ?_) below.1 below.2
  simp [htest] at hs

theorem soundAll_append_enter {threshold : Nat} {entry : EntryId} {step : PathStep}
    {rest : List PathStep} {ns : List PatternNode} (h : SoundAll ns)
    (enters : ∀ n, Sound n → n.performs step = true → Sound (enter threshold entry rest n))
    (none : ns.any (·.performs step) = false) :
    SoundAll (ns ++ [enter threshold entry rest (blank step)]) := by
  refine soundAll_append h (enters (blank step) (sound_blank step) (blank_performs step)) fun hk => ?_
  obtain ⟨m, hm, hkey⟩ := List.mem_map.mp hk
  exact List.any_eq_false.mp none m hm (performs_iff.mpr hkey)

/-- A selector that a path enters has constants below it still. -/
theorem sound_enterCase {threshold : Nat} {entry : EntryId} {step : PathStep}
    {rest : List PathStep} {v : Value} {n : PatternNode} (sound : Sound n)
    (hv : step.constant? = some v) (selects : n.selects step.shape = true)
    (enters : ∀ n, Sound n → n.performs step = true → Sound (enter threshold entry rest n)) :
    Sound (enterCase threshold entry step rest v n) := by
  have case := fun c hc => enterCase_performs sound hv selects (c := c) hc
  have hk := selects_iff.mp selects
  obtain ⟨single, ht⟩ := constant?_eq_some hv
  obtain ⟨only, distinct, below⟩ := sound
  rename_i head children
  obtain ⟨hm, he, constants⟩ := only (congrArg Prod.snd hk)
  have hshape : head.shape = step.shape := congrArg Prod.fst hk
  have constant : ∀ c ∈ (if children.any (·.isCase v) then
      modifyFirst (·.isCase v) (enter threshold entry rest) children
      else children ++ [enter threshold entry rest (blank step)]), c.isConstant head.shape := by
    split
    · exact forall_mem_modifyFirst (fun c hc _ => constants c hc) constants
    · intro c hc
      rcases List.mem_append.mp hc with hc | hc
      · exact constants c hc
      · rw [List.mem_singleton.mp hc, isConstant_iff, hshape]
        refine ⟨v, ?_⟩
        rw [key_enter]
        simp [blank, key, PatternNode.head, ht]
  have inner : SoundAll (if children.any (·.isCase v) then
      modifyFirst (·.isCase v) (enter threshold entry rest) children
      else children ++ [enter threshold entry rest (blank step)]) := by
    split
    · exact soundAll_modifyFirst ⟨distinct, below⟩ (fun _ => rfl) fun c hc hcase =>
        enters c (below c hc) ((case c hc).mp hcase)
    · refine soundAll_append_enter ⟨distinct, below⟩ enters (List.any_eq_false.mpr fun c hc hp => ?_)
      exact List.any_eq_false.mp (by simpa using ‹¬ children.any (·.isCase v) = true›) c hc
        ((case c hc).mpr hp)
  exact .node (fun _ => ⟨hm, he, constant⟩) inner.1 inner.2

theorem soundAll_insertPath (threshold : Nat) (entry : EntryId) (path : List PathStep)
    {ns : List PatternNode} (h : SoundAll ns) : SoundAll (insertPath threshold entry path ns) := by
  induction path generalizing ns with
  | nil => rwa [insertPath]
  | cons step rest ih =>
    have enters : ∀ n, Sound n → n.performs step = true → Sound (enter threshold entry rest n) :=
      fun n sound performs => sound_enter performs (ih sound.children)
    refine insertPath_cases (P := SoundAll) ?_ ?_ ?_ ?_
    · intro v hv _
      exact soundAll_modifyFirst h (fun _ => rfl) fun n hn selects =>
        sound_enterCase (h.2 n hn) hv selects enters
    · intro _
      exact soundAll_modifyFirst h (fun _ => rfl) fun n hn performs => enters n (h.2 n hn) performs
    · exact fun _ => soundAll_append_enter h enters
    · intro v hv none sound
      refine soundAll_groupConstants (constant?_eq_some hv).1 ?_ sound
      rw [List.any_append, none, Bool.false_or]
      simp [blank, enter, selects, isSelector, PatternNode.head]

/-! ### Flags along the way -/

theorem settled_unflagged {f : EntryId → Prop} {head : NodeHead} {children : List PatternNode}
    (h : head.initialized = false) (below : ∀ c ∈ children, Settled f c) :
    Settled f (.node head children) :=
  .node (fun hi => by simp [h] at hi) below

theorem settled_groupConstants {f : EntryId → Prop} {threshold : Nat} {shape : Shape}
    {ns : List PatternNode} (h : ∀ n ∈ ns, Settled f n) :
    ∀ n ∈ groupConstants threshold shape ns, Settled f n := by
  by_cases enough : threshold ≤ (ns.filter (·.isConstant shape)).length
  · intro n hn
    rcases List.mem_cons.mp ((groupConstants_perm enough).mem_iff.mp hn) with rfl | hn
    · refine .node (fun hi r hr => ?_) fun c hc => h c (List.mem_filter.mp hc).1
      rw [routes_selector _ rfl] at hr
      obtain ⟨c, hc, hr⟩ := mem_routesAll.mp hr
      have flagged : c.head.initialized = true := List.all_eq_true.mp hi c hc
      obtain ⟨entries, _⟩ := h c (List.mem_filter.mp hc).1
      exact entries flagged r hr
    · exact h n (List.mem_filter.mp hn).1
  · rwa [groupConstants_few enough]

/-- The nodes on the path of a new entry lose their flags, and no other node gains one. -/
theorem settled_insertPath {f : EntryId → Prop} {threshold : Nat} {entry : EntryId}
    {path : List PathStep} {ns : List PatternNode} (h : ∀ n ∈ ns, Settled f n) :
    ∀ n ∈ insertPath threshold entry path ns, Settled f n := by
  induction path generalizing ns with
  | nil => rwa [insertPath]
  | cons step rest ih =>
    have enters : ∀ n, Settled f n → Settled f (enter threshold entry rest n) :=
      fun n hn => settled_unflagged rfl (ih hn.children)
    have leaf : Settled f (enter threshold entry rest (blank step)) :=
      settled_unflagged rfl (ih (by simp [blank, PatternNode.children]))
    have added : ∀ ms, (∀ n ∈ ms, Settled f n) →
        ∀ n ∈ ms ++ [enter threshold entry rest (blank step)], Settled f n := by
      intro ms hms n hn
      rcases List.mem_append.mp hn with hn | hn
      · exact hms n hn
      · rw [List.mem_singleton.mp hn]
        exact leaf
    refine insertPath_cases (P := fun ms => ∀ n ∈ ms, Settled f n) ?_ ?_ ?_ ?_
    · intro v _ _
      refine forall_mem_modifyFirst (fun n hn _ => settled_unflagged rfl ?_) h
      split
      · exact forall_mem_modifyFirst (fun c hc _ => enters c ((h n hn).children c hc))
          (h n hn).children
      · exact added _ (h n hn).children
    · intro _
      exact forall_mem_modifyFirst (fun n hn _ => enters n (h n hn)) h
    · intro _ _
      exact added ns h
    · intro _ _ _ hms
      exact settled_groupConstants hms

/-! ### Taking routes away -/

theorem pruneAll_eq_filterMap (id : EntryId) (ns : List PatternNode) :
    pruneAll id ns = ns.filterMap (prune id) := by
  induction ns with
  | nil => rw [pruneAll, List.filterMap_nil]
  | cons n ns ih =>
    rw [pruneAll, List.filterMap_cons, ih]
    cases prune id n <;> rfl

/-- What is left of a node is the node without the entry, unless nothing is left. -/
theorem prune_node (id : EntryId) (head : NodeHead) (children : List PatternNode) :
    prune id (.node head children) =
      if (head.entries.filter (· != id)).isEmpty && (children.filterMap (prune id)).isEmpty then none
      else some (.node { head with entries := head.entries.filter (· != id) }
        (children.filterMap (prune id))) := by
  rw [prune, pruneAll_eq_filterMap]

theorem routesAll_filterMap_prune {id : EntryId} {ns : List PatternNode}
    (h : ∀ n ∈ ns, ((prune id n).map routes).getD [] = (routes n).filter (·.2 != id)) :
    routesAll (ns.filterMap (prune id)) = (routesAll ns).filter (·.2 != id) := by
  induction ns with
  | nil => simp
  | cons n ns ih =>
    have first := h n List.mem_cons_self
    have rest := ih fun m hm => h m (List.mem_cons_of_mem n hm)
    rw [List.filterMap_cons, routesAll_cons, List.filter_append, ← first, ← rest]
    cases prune id n with
    | none => rfl
    | some m => exact routesAll_cons m _

theorem routes_prune (id : EntryId) (n : PatternNode) :
    ((prune id n).map routes).getD [] = (routes n).filter (·.2 != id) := by
  induction n using PatternNode.induction with
  | step head children ih =>
    obtain ⟨shape, test, flag, entries⟩ := head
    have below := routesAll_filterMap_prune ih
    have kept : routes (.node ⟨shape, test, flag, entries.filter (· != id)⟩
        (children.filterMap (prune id))) =
          (routes (.node ⟨shape, test, flag, entries⟩ children)).filter (·.2 != id) := by
      cases test with
      | selector => rw [routes_selector _ rfl, routes_selector _ rfl, below]
      | field test =>
        rw [routes_field _ rfl, routes_field _ rfl, below, List.filter_append, List.filter_map,
          List.filter_map]
        rfl
    rw [prune_node]
    split
    · rename_i gone
      obtain ⟨he, hc⟩ := Bool.and_eq_true_iff.mp gone
      rw [← kept, List.isEmpty_iff.mp he, List.isEmpty_iff.mp hc]
      cases test with
      | selector => rw [routes_selector _ rfl, routesAll_nil]; rfl
      | field test => rw [routes_field _ rfl, routesAll_nil]; rfl
    · exact kept

theorem routesAll_pruneAll (id : EntryId) (ns : List PatternNode) :
    routesAll (pruneAll id ns) = (routesAll ns).filter (·.2 != id) := by
  rw [pruneAll_eq_filterMap]
  exact routesAll_filterMap_prune fun n _ => routes_prune id n

theorem key_prune {id : EntryId} {n m : PatternNode} (h : prune id n = some m) :
    m.key = n.key := by
  obtain ⟨head, children⟩ := n
  rw [prune_node] at h
  split at h
  · cases h
  · rw [← Option.some.inj h]
    rfl

theorem map_key_pruneAll (id : EntryId) (ns : List PatternNode) :
    ((pruneAll id ns).map key).Sublist (ns.map key) := by
  rw [pruneAll_eq_filterMap]
  induction ns with
  | nil => exact List.Sublist.refl _
  | cons n ns ih =>
    rw [List.filterMap_cons]
    cases h : prune id n with
    | none => exact ih.cons _
    | some m =>
      simp only [List.map_cons, key_prune h]
      exact ih.cons_cons _

theorem sound_prune {id : EntryId} {n m : PatternNode} (sound : Sound n)
    (h : prune id n = some m) : Sound m := by
  induction n using PatternNode.induction generalizing m with
  | step head children ih =>
    obtain ⟨only, distinct, below⟩ := sound
    rw [prune_node] at h
    split at h
    · cases h
    · rw [← Option.some.inj h]
      refine .node (fun ht => ?_) ?_ ?_
      · obtain ⟨single, none, constants⟩ := only ht
        refine ⟨single, by simp [none], fun c hc => ?_⟩
        obtain ⟨d, hd, hprune⟩ := List.mem_filterMap.mp hc
        obtain ⟨v, hv⟩ := isConstant_iff.mp (constants d hd)
        exact isConstant_iff.mpr ⟨v, (key_prune hprune).trans hv⟩
      · exact distinct.sublist (pruneAll_eq_filterMap id children ▸ map_key_pruneAll id children)
      · intro c hc
        obtain ⟨d, hd, hprune⟩ := List.mem_filterMap.mp hc
        exact ih d hd (below d hd) hprune

theorem soundAll_pruneAll (id : EntryId) {ns : List PatternNode} (h : SoundAll ns) :
    SoundAll (pruneAll id ns) := by
  refine ⟨h.1.sublist (map_key_pruneAll id ns), fun m hm => ?_⟩
  rw [pruneAll_eq_filterMap] at hm
  obtain ⟨n, hn, hprune⟩ := List.mem_filterMap.mp hm
  exact sound_prune (h.2 n hn) hprune

theorem settled_prune {f : EntryId → Prop} {id : EntryId} {n m : PatternNode} (settled : Settled f n)
    (h : prune id n = some m) : Settled f m := by
  induction n using PatternNode.induction generalizing m with
  | step head children ih =>
    have routed := routes_prune id (.node head children)
    rw [h] at routed
    obtain ⟨entries, below⟩ := settled
    rw [prune_node] at h
    split at h
    · cases h
    · cases h
      refine .node (fun hi r hr => ?_) fun c hc => ?_
      · simp only [Option.map_some, Option.getD_some] at routed
        rw [routed] at hr
        exact entries hi r (List.mem_filter.mp hr).1
      · obtain ⟨d, hd, hprune⟩ := List.mem_filterMap.mp hc
        exact ih d hd (below d hd) hprune

theorem settled_pruneAll {f : EntryId → Prop} (id : EntryId) {ns : List PatternNode}
    (h : ∀ n ∈ ns, Settled f n) : ∀ n ∈ pruneAll id ns, Settled f n := by
  intro m hm
  rw [pruneAll_eq_filterMap] at hm
  obtain ⟨n, hn, hprune⟩ := List.mem_filterMap.mp hm
  exact settled_prune (h n hn) hprune

/-! ### Flagging everything -/

theorem initializeNodes_eq_map (ns : List PatternNode) :
    initializeNodes ns = ns.map initializeNode := by
  induction ns with
  | nil => rw [initializeNodes, List.map_nil]
  | cons n ns ih => rw [initializeNodes, List.map_cons, ih]

theorem initializeNode_node (head : NodeHead) (children : List PatternNode) :
    initializeNode (.node head children) =
      .node { head with initialized := true } (children.map initializeNode) := by
  rw [initializeNode, initializeNodes_eq_map]

theorem routesAll_map_initializeNode {ns : List PatternNode}
    (h : ∀ n ∈ ns, routes (initializeNode n) = routes n) :
    routesAll (ns.map initializeNode) = routesAll ns := by
  induction ns with
  | nil => rfl
  | cons n ns ih =>
    rw [List.map_cons, routesAll_cons, routesAll_cons, h n List.mem_cons_self,
      ih fun m hm => h m (List.mem_cons_of_mem n hm)]

theorem routes_initializeNode (n : PatternNode) : routes (initializeNode n) = routes n := by
  induction n using PatternNode.induction with
  | step head children ih =>
    obtain ⟨shape, test, flag, entries⟩ := head
    rw [initializeNode_node]
    have below := routesAll_map_initializeNode ih
    cases test with
    | selector => rw [routes_selector _ rfl, routes_selector _ rfl, below]
    | field test => rw [routes_field _ rfl, routes_field _ rfl, below]

theorem routesAll_initializeNodes (ns : List PatternNode) :
    routesAll (initializeNodes ns) = routesAll ns := by
  rw [initializeNodes_eq_map]
  exact routesAll_map_initializeNode fun n _ => routes_initializeNode n

theorem key_initializeNode (n : PatternNode) : (initializeNode n).key = n.key := by
  obtain ⟨head, children⟩ := n
  rw [initializeNode_node]
  rfl

theorem distinct_map_initializeNode {ns : List PatternNode} (h : Distinct ns) :
    Distinct (ns.map initializeNode) := by
  rw [Distinct, List.map_map]
  exact (List.map_congr_left fun n _ => key_initializeNode n) ▸ h

theorem sound_initializeNode {n : PatternNode} (h : Sound n) : Sound (initializeNode n) := by
  induction n using PatternNode.induction with
  | step head children ih =>
    obtain ⟨only, distinct, below⟩ := h
    rw [initializeNode_node]
    refine .node (fun ht => ?_) (distinct_map_initializeNode distinct) ?_
    · obtain ⟨single, none, constants⟩ := only ht
      refine ⟨single, none, ?_⟩
      intro c hc
      obtain ⟨d, hd, rfl⟩ := List.mem_map.mp hc
      obtain ⟨v, hv⟩ := isConstant_iff.mp (constants d hd)
      exact isConstant_iff.mpr ⟨v, (key_initializeNode d).trans hv⟩
    · intro c hc
      obtain ⟨d, hd, rfl⟩ := List.mem_map.mp hc
      exact ih d hd (below d hd)

theorem soundAll_initializeNodes {ns : List PatternNode} (h : SoundAll ns) :
    SoundAll (initializeNodes ns) := by
  rw [initializeNodes_eq_map]
  refine ⟨distinct_map_initializeNode h.1, ?_⟩
  intro c hc
  obtain ⟨d, hd, rfl⟩ := List.mem_map.mp hc
  exact sound_initializeNode (h.2 d hd)

/-- Where every entry is flagged, any node may be. -/
theorem settled_of_all {f : EntryId → Prop} {n : PatternNode} (h : ∀ r ∈ routes n, f r.2) :
    Settled f n := by
  induction n using PatternNode.induction with
  | step head children ih =>
    refine .node (fun _ => h) fun c hc => ih c hc fun r hr => ?_
    have inside : r ∈ routesAll children := mem_routesAll.mpr ⟨c, hc, hr⟩
    cases htest : head.test with
    | selector =>
      rw [routes_selector children htest] at h
      exact h r inside
    | field test =>
      rw [routes_field children htest] at h
      exact h (⟨head.shape, test⟩ :: r.1, r.2)
        (List.mem_append_right _ (List.mem_map.mpr ⟨r, inside, rfl⟩))

end PatternTree

end FactBase

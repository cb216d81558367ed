import FactBase.Proofs.Pattern.Calls
import FactBase.Proofs.Pattern.Shapes
import Mathlib.Data.List.Sort

/-!
# Where the nodes of a tree stand

From every place in a tree the steps lead on to different nodes, selectors passed over. So the
patterns that lead through a node are those whose compiled path begins with the steps to the node and
the node's own, and the labels that are reachable from the node are theirs.
-/

namespace FactBase

open PatternNode

/-- Whether a live entry's path begins with certain steps. -/
def LiveEntry.leadsThrough (template : Template) (begun : List PathStep) (e : LiveEntry) : Bool :=
  (PatternTree.compile template e.pattern).toOption.any (begun.isPrefixOf ·)

/-- The labels of the live entries whose path begins with certain steps, sorted. -/
def labelsThrough (template : Template) (roll : List LiveEntry) (begun : List PathStep) :
    List String :=
  ((roll.filter (·.leadsThrough template begun)).map (·.label)).mergeSort (· ≤ ·)

/-! ### Branches -/

namespace PatternNode

variable {ns : List PatternNode} {n m : PatternNode} {step : PathStep}

/-- The nodes that one step leads to through a node: itself, or those that a selector chooses from. -/
def ahead (n : PatternNode) : List PatternNode := if n.isSelector then n.children else [n]

def branches (ns : List PatternNode) : List PatternNode := ns.flatMap ahead

theorem ahead_selector {head : NodeHead} (children : List PatternNode)
    (test : head.test = .selector) : ahead (.node head children) = children :=
  if_pos (by simp [isSelector, PatternNode.head, test])

theorem ahead_field {head : NodeHead} (children : List PatternNode) {t : FieldTest}
    (test : head.test = .field t) : ahead (.node head children) = [.node head children] :=
  if_neg (by simp [isSelector, PatternNode.head, test])

theorem routesAll_ahead (n : PatternNode) : routesAll (ahead n) = routes n := by
  obtain ⟨head, children⟩ := n
  cases test : head.test with
  | selector => rw [ahead_selector children test, routes_selector children test]
  | field t => rw [ahead_field children test, routesAll_cons, routesAll_nil, List.append_nil]

theorem routesAll_branches (ns : List PatternNode) : routesAll (branches ns) = routesAll ns := by
  induction ns with
  | nil => rfl
  | cons n ns ih =>
    rw [branches, List.flatMap_cons, routesAll_append, routesAll_cons, routesAll_ahead]
    exact congrArg _ ih

/-- A branch has a test of its own. -/
theorem performs_of_mem_ahead (sound : Sound n) (inside : m ∈ ahead n) :
    ∃ step, m.performs step = true := by
  obtain ⟨head, children⟩ := n
  cases test : head.test with
  | selector =>
    rw [ahead_selector children test] at inside
    obtain ⟨only, -, -⟩ := sound
    obtain ⟨v, named⟩ := isConstant_iff.mp ((only test).2.2 m inside)
    exact ⟨⟨head.shape, .constant v⟩, performs_iff.mpr named⟩
  | field t =>
    rw [ahead_field children test, List.mem_singleton] at inside
    subst inside
    exact ⟨⟨head.shape, t⟩, performs_iff.mpr (Prod.ext rfl test)⟩

/-- A property of nodes that passes to children passes to branches. -/
theorem of_mem_ahead {P : PatternNode → Prop} (below : ∀ n, P n → ∀ c ∈ n.children, P c) (here : P n)
    (inside : m ∈ ahead n) : P m := by
  unfold ahead at inside
  split at inside
  · exact below n here m inside
  · rw [List.mem_singleton] at inside
    exact inside ▸ here

/-- A branch is the node itself, or a constant of the selector's shape. -/
theorem key_ahead (sound : Sound n) (inside : m ∈ ahead n) :
    m.key = n.key ∧ (∃ t, n.head.test = .field t) ∨
      ∃ shape v, n.key = (shape, .selector) ∧ m.key = (shape, .field (.constant v)) := by
  obtain ⟨head, children⟩ := n
  cases test : head.test with
  | selector =>
    rw [ahead_selector children test] at inside
    obtain ⟨only, -, -⟩ := sound
    obtain ⟨v, named⟩ := isConstant_iff.mp ((only test).2.2 m inside)
    exact .inr ⟨head.shape, v, Prod.ext rfl test, named⟩
  | field t =>
    rw [ahead_field children test, List.mem_singleton] at inside
    exact .inl ⟨congrArg key inside, t, test⟩

/-- Different steps lead on, whether or not selectors are in between. -/
theorem distinct_branches (sound : SoundAll ns) (apart : Apart ns) : Distinct (branches ns) := by
  rw [Distinct, branches, List.map_flatMap, List.nodup_flatMap]
  refine ⟨fun n inside => ?_, (List.pairwise_map.mp sound.1).imp_of_mem ?_⟩
  · unfold ahead
    split
    · exact (sound.2 n inside).children.1
    · exact List.nodup_singleton _
  · intro n n' inside inside' other x here there
    obtain ⟨m, ahead, rfl⟩ := List.mem_map.mp here
    obtain ⟨m', ahead', same⟩ := List.mem_map.mp there
    have mem := List.mem_map_of_mem (f := key) inside
    have mem' := List.mem_map_of_mem (f := key) inside'
    obtain ⟨named, -⟩ | ⟨shape, v, selects, named⟩ := key_ahead (sound.2 n inside) ahead
    · obtain ⟨named', -⟩ | ⟨shape', v', selects', named'⟩ := key_ahead (sound.2 n' inside') ahead'
      · exact other (named.symm.trans (same.symm.trans named'))
      · rw [selects'] at mem'
        rw [← named, ← same, named'] at mem
        exact apart shape' v' mem' mem
    · obtain ⟨named', -⟩ | ⟨shape', v', selects', named'⟩ := key_ahead (sound.2 n' inside') ahead'
      · rw [selects] at mem
        rw [← named', same, named] at mem'
        exact apart shape v mem mem'
      · rw [named, named', Prod.mk.injEq] at same
        rw [selects, selects', same.1] at other
        exact other rfl

theorem step_unique {own : PathStep} (does : m.performs own = true) (performs : m.performs step = true) :
    own = step := by
  have same := (performs_iff.mp does).symm.trans (performs_iff.mp performs)
  rw [Prod.mk.injEq, NodeTest.field.injEq] at same
  obtain ⟨shape, test⟩ := own
  exact congrArg₂ PathStep.mk same.1 same.2

theorem filter_routes {n : PatternNode} {step own : PathStep} (performs : n.performs own = true) :
    (routes n).filter ([step].isPrefixOf ·.1) = if own = step then routes n else [] := by
  obtain ⟨head, children⟩ := n
  have named := performs_iff.mp performs
  have test : head.test = .field own.test := congrArg Prod.snd named
  have same : (⟨head.shape, own.test⟩ : PathStep) = own := by
    rw [show head.shape = own.shape from congrArg Prod.fst named]
  rw [routes_eq_map children test, same]
  split
  · rename_i here
    refine List.filter_eq_self.mpr fun r inside => ?_
    obtain ⟨r, -, rfl⟩ := List.mem_map.mp inside
    simp [here]
  · rename_i other
    refine List.filter_eq_nil_iff.mpr fun r inside => ?_
    obtain ⟨r, -, rfl⟩ := List.mem_map.mp inside
    simpa using Ne.symm other

/-- The routes that begin with a step go through the branch that performs it. -/
theorem filter_routesAll (distinct : Distinct ns) (tests : ∀ n ∈ ns, ∃ step, n.performs step = true)
    (inside : m ∈ ns) (performs : m.performs step = true) :
    (routesAll ns).filter ([step].isPrefixOf ·.1) = routes m := by
  induction ns with
  | nil => exact absurd inside List.not_mem_nil
  | cons n ns ih =>
    obtain ⟨new, distinct⟩ := List.nodup_cons.mp distinct
    obtain ⟨⟨own, does⟩, tests⟩ := List.forall_mem_cons.mp tests
    rw [routesAll_cons, List.filter_append, filter_routes does]
    by_cases here : own = step
    · subst here
      have others : (routesAll ns).filter ([own].isPrefixOf ·.1) = [] := by
        refine List.filter_eq_nil_iff.mpr fun r found begins => ?_
        obtain ⟨k, listed, found⟩ := mem_routesAll.mp found
        obtain ⟨step, performs⟩ := tests k listed
        have kept := List.mem_filter (p := ([own].isPrefixOf ·.1)).mpr ⟨found, begins⟩
        rw [filter_routes performs] at kept
        split at kept
        · rename_i same
          refine new (List.mem_map.mpr ⟨k, listed, ?_⟩)
          rw [performs_iff.mp performs, performs_iff.mp does, same]
        · exact absurd kept List.not_mem_nil
      rw [others, List.append_nil, if_pos rfl]
      rcases List.mem_cons.mp inside with rfl | later
      · rfl
      · exact absurd (List.mem_map.mpr ⟨m, later, (performs_iff.mp performs).trans
          (performs_iff.mp does).symm⟩) new
    · rw [if_neg here, List.nil_append]
      rcases List.mem_cons.mp inside with rfl | later
      · exact absurd (step_unique does performs) here
      · exact ih distinct tests later

end PatternNode

namespace PatternTree

variable {t : PatternTree} {roll : List LiveEntry} {done path : List PathStep} {step : PathStep}
  {es : List EntryId} {ns : List PatternNode} {m : PatternNode}

/-! ### The order of steps -/

/-- A step comes behind another: in a later slot, or among the elements of one multifield slot. -/
def Behind (a b : PathStep) : Prop :=
  a.shape.slot < b.shape.slot ∨ a.shape.slot = b.shape.slot ∧ b.shape.inMultiSlot = true

theorem behind_multiSteps (slot : Nat) (length : SlotLength) (element : Nat) (elements : List Element) :
    (∀ step ∈ multiSteps slot length element elements,
        step.shape.slot = slot ∧ step.shape.inMultiSlot = true) ∧
      (multiSteps slot length element elements).Pairwise Behind := by
  induction elements generalizing element with
  | nil => exact ⟨fun _ none => absurd none List.not_mem_nil, .nil⟩
  | cons e rest ih =>
    obtain ⟨within, ordered⟩ := ih (element + 1)
    rw [multiSteps]
    refine ⟨List.forall_mem_cons.mpr ⟨⟨rfl, rfl⟩, within⟩, List.pairwise_cons.mpr ⟨?_, ordered⟩⟩
    exact fun step inside => .inr ⟨(within step inside).1.symm, (within step inside).2⟩

theorem behind_slotSteps {definition : Slot} {p : SlotPattern} {steps : List PathStep}
    (done : slotSteps definition p = .ok steps) :
    (∀ step ∈ steps, step.shape.slot = p.slot) ∧ steps.Pairwise Behind := by
  unfold slotSteps at done
  split at done
  · split at done
    · cases done
    · obtain rfl := Except.ok.inj done
      obtain ⟨within, ordered⟩ := behind_multiSteps p.slot (elementLength p.elements) 0 p.elements
      exact ⟨fun step inside => (within step inside).1, ordered⟩
  · split at done
    · obtain rfl := Except.ok.inj done
      exact ⟨List.forall_mem_singleton.mpr rfl, List.pairwise_singleton _ _⟩
    · cases done

theorem behind_stepsFrom {template : Template} {previous : Option Nat} {ps : List SlotPattern}
    (sorted : ps.Pairwise fun a b => a.slot ≤ b.slot)
    (later : ∀ q, previous = some q → ∀ p ∈ ps, q ≤ p.slot)
    (done : stepsFrom template previous ps = .ok path) :
    (∀ q, previous = some q → ∀ step ∈ path, q < step.shape.slot) ∧ path.Pairwise Behind := by
  induction ps generalizing previous path with
  | nil =>
    obtain rfl := Except.ok.inj done
    exact ⟨fun _ _ _ none => absurd none List.not_mem_nil, .nil⟩
  | cons p rest ih =>
    obtain ⟨least, sorted⟩ := List.pairwise_cons.mp sorted
    unfold stepsFrom at done
    split at done
    · cases done
    · split at done
      · cases done
      · rename_i apart
        obtain ⟨steps, first, done⟩ := bind_eq_ok.mp done
        obtain ⟨others, second, done⟩ := bind_eq_ok.mp done
        obtain rfl := Except.ok.inj done
        obtain ⟨within, ordered⟩ := behind_slotSteps first
        obtain ⟨beyond, ordered'⟩ := ih sorted (fun q same p inside => by
          obtain rfl := Option.some.inj same
          exact least p inside) second
        constructor
        · intro q same
          subst same
          have before : q < p.slot :=
            Nat.lt_of_le_of_ne (later q rfl p List.mem_cons_self) (by simpa using apart)
          refine List.forall_mem_append.mpr ⟨fun step inside => within step inside ▸ before, ?_⟩
          exact fun step inside => before.trans (beyond p.slot rfl step inside)
        · refine List.pairwise_append.mpr ⟨ordered, ordered', fun a inside b inside' => .inl ?_⟩
          rw [within a inside]
          exact beyond p.slot rfl b inside'

/-- A compiled pattern goes from slot to slot, and stays in one only if it is a multifield slot. -/
theorem behind_compile {template : Template} {p : Pattern} (done : compile template p = .ok path) :
    path.Pairwise Behind := by
  refine (behind_stepsFrom ?_ (fun _ none => by cases none) done).2
  exact List.pairwise_mergeSort' (fun a b : SlotPattern => a.slot ≤ b.slot) _

/-! ### Places -/

/-- The routes that begin with certain steps. -/
def routesThrough (t : PatternTree) (begun : List PathStep) : List Route :=
  t.allRoutes.filter (begun.isPrefixOf ·.1)

/-- Certain steps lead to entries that end there and to siblings, which lead on. -/
structure Level (t : PatternTree) (done : List PathStep) (es : List EntryId)
    (ns : List PatternNode) : Prop where
  sound : SoundAll ns
  parted : PartedAll ns
  fertile : ∀ n ∈ ns, Fertile n
  routes : (t.routesThrough done).Perm
    ((es.map (([], ·)) ++ routesAll ns).map fun r : Route => (done ++ r.1, r.2))

/-- Certain steps and one more lead to a node. -/
structure Stands (t : PatternTree) (done : List PathStep) (step : PathStep) (m : PatternNode) :
    Prop where
  performs : m.performs step = true
  sound : Sound m
  parted : Parted m
  fertile : Fertile m
  routes : (t.routesThrough (done ++ [step])).Perm ((routes m).map fun r : Route => (done ++ r.1, r.2))

theorem Carries.level (carries : t.Carries roll) : t.Level [] t.rootEntries t.roots := by
  refine ⟨carries.keeps.sound, carries.parted, carries.fertile, ?_⟩
  have all : t.routesThrough [] = t.allRoutes := List.filter_eq_self.mpr fun _ _ => rfl
  have same : (fun r : Route => ([] ++ r.1, r.2)) = id := rfl
  rw [all, same, List.map_id]
  exact .refl _

/-- Whoever has gone certain steps comes to the branches by one step more. -/
theorem Level.stands (level : t.Level done es ns) (inside : m ∈ branches ns) :
    ∃ step, t.Stands done step m := by
  obtain ⟨n, listed, ahead⟩ := List.mem_flatMap.mp inside
  obtain ⟨step, performs⟩ := performs_of_mem_ahead (level.sound.2 n listed) ahead
  refine ⟨step, performs,
    of_mem_ahead (P := Sound) (fun _ sound => sound.children.2) (level.sound.2 n listed) ahead,
    of_mem_ahead (P := Parted) (fun _ parted => parted.children.2) (level.parted.2 n listed) ahead,
    of_mem_ahead (P := Fertile) (fun _ => Fertile.children) (level.fertile n listed) ahead, ?_⟩
  have tests : ∀ n ∈ branches ns, ∃ step, n.performs step = true := fun k inside => by
    obtain ⟨n, listed, ahead⟩ := List.mem_flatMap.mp inside
    exact performs_of_mem_ahead (level.sound.2 n listed) ahead
  have through := filter_routesAll (distinct_branches level.sound level.parted.1) tests inside performs
  rw [routesAll_branches] at through
  have none : (es.map (([], ·) : EntryId → Route)).filter ([step].isPrefixOf ·.1) = [] :=
    List.filter_eq_nil_iff.mpr fun r inside => by
      obtain ⟨e, -, rfl⟩ := List.mem_map.mp inside
      simp
  have further : t.routesThrough (done ++ [step]) =
      (t.routesThrough done).filter ((done ++ [step]).isPrefixOf ·.1) := by
    rw [routesThrough, routesThrough, List.filter_filter]
    refine List.filter_congr fun r _ => ?_
    cases begins : (done ++ [step]).isPrefixOf r.1 with
    | false => rfl
    | true =>
      have shorter : done <+: r.1 :=
        (List.prefix_append done [step]).trans (List.isPrefixOf_iff_prefix.mp begins)
      rw [List.isPrefixOf_iff_prefix.mpr shorter]
      rfl
  have onward : (fun r : Route => (done ++ [step]).isPrefixOf (done ++ r.1)) =
      fun r => [step].isPrefixOf r.1 := by
    funext r
    rw [Bool.eq_iff_iff, List.isPrefixOf_iff_prefix, List.isPrefixOf_iff_prefix]
    exact List.prefix_append_right_inj done
  rw [further]
  refine (level.routes.filter _).trans ?_
  rw [List.filter_map, Function.comp_def, onward, List.filter_append, none, List.nil_append, through]

theorem Stands.level (stands : t.Stands done step m) :
    t.Level (done ++ [step]) m.head.entries m.children := by
  refine ⟨stands.sound.children, stands.parted.children, stands.fertile.children, ?_⟩
  obtain ⟨head, children⟩ := m
  have named := performs_iff.mp stands.performs
  have test : head.test = .field step.test := congrArg Prod.snd named
  have same : (⟨head.shape, step.test⟩ : PathStep) = step := by
    rw [show head.shape = step.shape from congrArg Prod.fst named]
  refine stands.routes.trans ?_
  rw [routes_eq_map children test, same, List.map_map]
  refine .of_eq (List.map_congr_left fun r _ => ?_)
  simp

/-! ### Labels -/

theorem entriesBelowAll_eq_flatMap (ns : List PatternNode) :
    entriesBelowAll ns = ns.flatMap entriesBelow := by
  induction ns with
  | nil => rw [entriesBelowAll, List.flatMap_nil]
  | cons n ns ih => rw [entriesBelowAll, List.flatMap_cons, ih]

/-- The entries at and below a sound node are those that its routes end at. -/
theorem entriesBelow_eq {n : PatternNode} (sound : Sound n) :
    entriesBelow n = (routes n).map (·.2) := by
  induction n using PatternNode.induction with
  | step head children ih =>
    have below : entriesBelowAll children = (routesAll children).map (·.2) := by
      rw [entriesBelowAll_eq_flatMap, routesAll_eq_flatMap, List.map_flatMap]
      exact List.flatMap_congr fun c inside => ih c inside (sound.children.2 c inside)
    obtain ⟨only, -, -⟩ := sound
    rw [entriesBelow, below]
    cases test : head.test with
    | selector => rw [(only test).2.1, routes_selector children test, List.nil_append]
    | field t =>
      rw [routes_field children test, List.map_append, List.map_map, List.map_map]
      exact congrArg (· ++ _) (List.map_id _).symm

/-- The routes that begin with certain steps end at the entries whose paths do. -/
theorem Carries.routesThrough_ids (carries : t.Carries roll) (begun : List PathStep) :
    ((t.routesThrough begun).map (·.2)).Perm
      ((roll.filter (·.leadsThrough t.template begun)).map (·.id)) := by
  have routed := (carries.keeps.routed.filter fun x => x.1.toOption.any (begun.isPrefixOf ·)).map
    Prod.snd
  rw [List.filter_map, List.map_map, List.map_map, List.filter_map, List.map_map] at routed
  exact routed

/-- A live entry is found by its number, with its label. -/
theorem Carries.label_eq (carries : t.Carries roll) {e : LiveEntry} (live : e ∈ roll) :
    (t.entryOf? e.id).map (·.label) = some e.label := by
  have named := List.mem_map_of_mem (f := fun e => (e.id, e.label)) live
  rw [← carries.listed] at named
  obtain ⟨x, listed, same⟩ := List.mem_map.mp named
  obtain ⟨id, label⟩ := Prod.mk.inj same
  have once : (t.entries.map (·.id)).Nodup := carries.keeps.listed ▸ carries.keeps.distinct
  rw [entryOf?, find?_eq_some_of_nodup once listed id, Option.map_some, label]

/-- The labels reachable from a node are those of the entries whose patterns lead through it. -/
theorem Stands.reachableLabels (stands : t.Stands done step m) (carries : t.Carries roll) :
    t.reachableLabels m = labelsThrough t.template roll (done ++ [step]) := by
  have ids : (entriesBelow m).Perm
      ((roll.filter (·.leadsThrough t.template (done ++ [step]))).map (·.id)) := by
    rw [entriesBelow_eq stands.sound]
    have through := stands.routes.map (·.2)
    rw [List.map_map] at through
    exact through.symm.trans (carries.routesThrough_ids _)
  have labels := ids.filterMap fun id => (t.entryOf? id).map (·.label)
  rw [List.filterMap_map] at labels
  have same := List.filterMap_congr (l := roll.filter (·.leadsThrough t.template (done ++ [step])))
    (g := some ∘ (·.label)) fun e inside => carries.label_eq (List.mem_filter.mp inside).1
  rw [List.filterMap_eq_map] at same
  have labels := labels.trans (.of_eq same)
  exact (((List.mergeSort_perm _ _).trans labels).trans (List.mergeSort_perm _ _).symm).eq_of_pairwise'
    (List.pairwise_mergeSort' (· ≤ ·) _) (List.pairwise_mergeSort' (· ≤ ·) _)

/-- Some pattern leads through every node. -/
theorem Stands.exists_path (stands : t.Stands done step m) (carries : t.Carries roll) :
    ∃ e ∈ roll, ∃ path, compile t.template e.pattern = .ok path ∧ done ++ [step] <+: path := by
  obtain ⟨r, leads⟩ := List.exists_mem_of_ne_nil _ stands.fertile.leads
  have through := List.mem_map_of_mem (f := (·.2)) (stands.routes.mem_iff.mpr (List.mem_map_of_mem leads))
  obtain ⟨e, inside, -⟩ := List.mem_map.mp ((carries.routesThrough_ids _).mem_iff.mp through)
  obtain ⟨listed, begins⟩ := List.mem_filter.mp inside
  obtain ⟨path, compiled, begins⟩ := (Option.any_eq_true _ _).mp begins
  exact ⟨e, listed, path, toOption_eq_some.mp compiled, List.isPrefixOf_iff_prefix.mp begins⟩

/-- A node looks at a slot of the template, behind what its steps looked at. -/
theorem Stands.placed (stands : t.Stands done step m) (carries : t.Carries roll) :
    step.shape.LooksAt t.template ∧ (done ++ [step]).Pairwise Behind := by
  obtain ⟨e, -, path, compiled, begins⟩ := stands.exists_path carries
  refine ⟨looksAt_stepsFrom compiled step (begins.subset (by simp)), ?_⟩
  exact (behind_compile compiled).sublist begins.sublist

end PatternTree

end FactBase

import FactBase.Proofs.Pattern.Network

/-!
# What nodes look at

Each node of a tree looks at a slot of the tree's template, and takes it for the kind of slot it is:
only in a multifield slot does it look for members. So over values of which a multifield stands in each
multifield slot, and nowhere else, no walk has to give up a node for the make of a value.
-/

namespace FactBase

/-- A shape looks at a slot of a template and takes it for what it is. -/
def Shape.LooksAt (shape : Shape) (t : Template) : Prop :=
  ∃ slot, t.slot? shape.slot = some slot ∧ shape.inMultiSlot = slot.isMulti ∧
    (shape.isMulti = true → slot.isMulti = true)

/-- Where a shape looks there is a multifield if it looks for members, and one field otherwise. -/
def Shape.Meets (shape : Shape) (values : List Value) : Prop :=
  ∃ v, values[shape.slot]? = some v ∧ v.members?.isSome = shape.inMultiSlot ∧
    (shape.isMulti = true → v.members?.isSome = true)

/-- There is one value for each slot, and multifields stand in multifield slots only. -/
def Template.Admits (t : Template) (values : List Value) : Prop :=
  ∀ position slot, t.slot? position = some slot →
    ∃ v, values[position]? = some v ∧ v.members?.isSome = slot.isMulti

theorem Shape.LooksAt.meets {shape : Shape} {t : Template} {values : List Value}
    (looks : shape.LooksAt t) (admits : t.Admits values) : shape.Meets values := by
  obtain ⟨slot, found, inMulti, isMulti⟩ := looks
  obtain ⟨v, stands, make⟩ := admits _ slot found
  exact ⟨v, stands, make.trans inMulti.symm, fun multi => make.trans (isMulti multi)⟩

namespace PatternNode

/-- Something holds of the shapes of a node and of all nodes below it. -/
inductive Everywhere (P : Shape → Prop) : PatternNode → Prop
  | node {head : NodeHead} {children : List PatternNode} (here : P head.shape)
      (below : ∀ c ∈ children, Everywhere P c) : Everywhere P (.node head children)

variable {P Q : Shape → Prop} {n : PatternNode}

theorem Everywhere.here (holds : Everywhere P n) : P n.head.shape := by
  cases holds with
  | node here => exact here

theorem Everywhere.children (holds : Everywhere P n) : ∀ c ∈ n.children, Everywhere P c := by
  cases holds with
  | node _ below => exact below

theorem Everywhere.mono (holds : Everywhere P n) (implies : ∀ shape, P shape → Q shape) :
    Everywhere Q n := by
  induction holds with
  | node here _ ih => exact .node (implies _ here) ih

end PatternNode

namespace PatternTree
open PatternNode

variable {P : Shape → Prop} {threshold : Nat} {id : EntryId} {ns : List PatternNode}

theorem everywhere_groupConstants {shape : Shape} (here : P shape) (h : ∀ n ∈ ns, Everywhere P n) :
    ∀ n ∈ groupConstants threshold shape ns, Everywhere P n := by
  by_cases enough : threshold ≤ (ns.filter (·.isConstant shape)).length
  · intro n inside
    rcases List.mem_cons.mp ((groupConstants_perm enough).mem_iff.mp inside) with rfl | inside
    · exact .node here fun c inside => h c (List.mem_filter.mp inside).1
    · exact h n (List.mem_filter.mp inside).1
  · rwa [groupConstants_few enough]

/-- The nodes that a path adds have the shapes of its steps. -/
theorem everywhere_insertPath {path : List PathStep} (steps : ∀ step ∈ path, P step.shape)
    (h : ∀ n ∈ ns, Everywhere P n) : ∀ n ∈ insertPath threshold id path ns, Everywhere P n := by
  induction path generalizing ns with
  | nil => rwa [insertPath]
  | cons step rest ih =>
    obtain ⟨here, steps⟩ := List.forall_mem_cons.mp steps
    have enters (n : PatternNode) (holds : Everywhere P n) : Everywhere P (enter threshold id rest n) :=
      .node holds.here (ih steps holds.children)
    have leaf : Everywhere P (enter threshold id rest (blank step)) :=
      enters _ (.node here fun _ inside => absurd inside List.not_mem_nil)
    have added {ms : List PatternNode} (h : ∀ n ∈ ms, Everywhere P n) :
        ∀ n ∈ ms ++ [enter threshold id rest (blank step)], Everywhere P n :=
      List.forall_mem_append.mpr ⟨h, List.forall_mem_singleton.mpr leaf⟩
    refine insertPath_cases (P := fun ms => ∀ n ∈ ms, Everywhere P n) ?_ ?_ ?_ ?_
    · intro v _ _
      refine forall_mem_modifyFirst (fun n inside _ => .node (h n inside).here ?_) h
      split
      · exact forall_mem_modifyFirst (fun c below _ => enters c ((h n inside).children c below))
          (h n inside).children
      · exact added (h n inside).children
    · intro _
      exact forall_mem_modifyFirst (fun n inside _ => enters n (h n inside)) h
    · intro _ _
      exact added h
    · intro _ _ _ added
      exact everywhere_groupConstants here added

theorem everywhere_prune {n m : PatternNode} (h : Everywhere P n) (pruned : prune id n = some m) :
    Everywhere P m := by
  induction h generalizing m with
  | node here _ ih =>
    rw [prune_node] at pruned
    split at pruned
    · cases pruned
    · cases pruned
      refine .node here fun c inside => ?_
      obtain ⟨d, listed, left⟩ := List.mem_filterMap.mp inside
      exact ih d listed left

theorem everywhere_initializeNode {n : PatternNode} (h : Everywhere P n) :
    Everywhere P (initializeNode n) := by
  induction h with
  | node here _ ih =>
    rw [initializeNode_node]
    exact .node here (List.forall_mem_map.mpr ih)

/-! ### Compiled patterns -/

variable {t : Template}

theorem looksAt_multiSteps {slot : Slot} {position : Nat} (found : t.slot? position = some slot)
    (multi : slot.isMulti = true) (length : SlotLength) (element : Nat) (es : List Element) :
    ∀ step ∈ multiSteps position length element es, step.shape.LooksAt t := by
  induction es generalizing element with
  | nil => exact fun _ inside => absurd inside List.not_mem_nil
  | cons e rest ih =>
    rw [multiSteps, List.forall_mem_cons]
    exact ⟨⟨slot, found, multi.symm, fun _ => multi⟩, ih (element + 1)⟩

theorem looksAt_slotSteps {slot : Slot} {p : SlotPattern} {steps : List PathStep}
    (found : t.slot? p.slot = some slot) (done : slotSteps slot p = .ok steps) :
    ∀ step ∈ steps, step.shape.LooksAt t := by
  unfold slotSteps at done
  split at done
  · rename_i multi
    split at done
    · cases done
    · obtain rfl := Except.ok.inj done
      exact looksAt_multiSteps found multi _ 0 p.elements
  · rename_i single
    split at done
    · obtain rfl := Except.ok.inj done
      refine List.forall_mem_singleton.mpr ⟨slot, found, ?_, fun multi => by cases multi⟩
      exact (Bool.eq_false_iff.mpr single).symm
    · cases done

theorem looksAt_stepsFrom {previous : Option Nat} {ps : List SlotPattern} {path : List PathStep}
    (done : stepsFrom t previous ps = .ok path) : ∀ step ∈ path, step.shape.LooksAt t := by
  induction ps generalizing previous path with
  | nil =>
    obtain rfl := Except.ok.inj done
    exact fun _ inside => absurd inside List.not_mem_nil
  | cons p rest ih =>
    unfold stepsFrom at done
    split at done
    · cases done
    · rename_i slot found
      split at done
      · cases done
      · obtain ⟨steps, first, done⟩ := bind_eq_ok.mp done
        obtain ⟨others, second, done⟩ := bind_eq_ok.mp done
        obtain rfl := Except.ok.inj done
        exact List.forall_mem_append.mpr ⟨looksAt_slotSteps found first, ih second⟩

/-! ### Trees -/

/-- Every node looks at a slot of the tree's template. -/
def Tailored (tree : PatternTree) : Prop := ∀ n ∈ tree.roots, Everywhere (·.LooksAt tree.template) n

/-- A tree for the same template, which is no worse tailored. -/
structure Retailors (tree tree' : PatternTree) : Prop where
  template : tree'.template = tree.template
  tailored : tree.Tailored → tree'.Tailored

variable {tree tree' : PatternTree}

theorem retailors_add {label : String} {p : Pattern} (added : tree.add id label p = .ok tree') :
    Retailors tree tree' := by
  obtain ⟨path, compiled, rfl⟩ := add_eq_ok added
  exact ⟨rfl, everywhere_insertPath (looksAt_stepsFrom compiled)⟩

theorem retailors_remove (removed : tree.remove id = .ok tree') : Retailors tree tree' := by
  obtain rfl := remove_eq_ok removed
  refine ⟨rfl, fun tailored m inside => ?_⟩
  dsimp only at inside
  rw [pruneAll_eq_filterMap] at inside
  obtain ⟨n, listed, pruned⟩ := List.mem_filterMap.mp inside
  exact everywhere_prune (tailored n listed) pruned

theorem retailors_recordReplayed (tree : PatternTree) (h : Handle) :
    Retailors tree (tree.recordReplayed h) :=
  ⟨rfl, id⟩

theorem retailors_markInitialized (tree : PatternTree) : Retailors tree tree.markInitialized := by
  refine ⟨rfl, fun tailored => ?_⟩
  unfold Tailored markInitialized
  dsimp only
  rw [initializeNodes_eq_map]
  exact List.forall_mem_map.mpr fun n inside => everywhere_initializeNode (tailored n inside)

/-- Over values that its template admits, every node of a tree meets what it looks for. -/
theorem Tailored.meets (tailored : tree.Tailored) {values : List Value}
    (admits : tree.template.Admits values) : ∀ n ∈ tree.roots, Everywhere (·.Meets values) n :=
  fun n inside => (tailored n inside).mono fun _ looks => looks.meets admits

end PatternTree

end FactBase

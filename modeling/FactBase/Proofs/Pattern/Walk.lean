import FactBase.Proofs.Pattern.History
import FactBase.Proofs.Pattern.Path

/-!
# Walking a tree is walking its routes

With tests on its route that depend on the view alone, a walk that is not halted delivers to an entry
that is meant what its route delivers when it is walked by itself, in the same order. Sharing,
selectors, the flags that let a replay skip nodes and what is tested elsewhere make no difference.
-/

namespace FactBase
open PatternNode

variable {σ : Type}

/-- A judge whose answers to plain tests depend on the view alone, as long as its state is good, and
that sees a halt only when one is raised. What is raised stays so. A constant is answered by
comparison. -/
structure Judge.Steady (judge : Judge σ) (good raised : σ → Prop) (plain : FieldTest → Prop)
    (answer : FieldTest → FieldView → Except EvalError Bool) : Prop where
  decide : ∀ t view s, good s → (plain t → (judge.decide t view s).1 = answer t view) ∧
    good (judge.decide t view s).2 ∧ (raised s → raised (judge.decide t view s).2)
  poll : ∀ s, good s → good (judge.poll s).2 ∧ (raised s → raised (judge.poll s).2) ∧
    ((judge.poll s).1 = true → raised (judge.poll s).2)
  constant : ∀ v w, answer (.constant v) (.single w) = .ok (w == v)

/-- A test that fails does not hold. -/
def holdsBy (answer : FieldTest → FieldView → Except EvalError Bool) : Holds := fun t view =>
  match answer t view with
  | .ok b => b
  | .error _ => false

/-- The matches of one entry among deliveries, in order. -/
def markersOf (e : EntryId) (ds : List Delivery) : List (List Marker) :=
  ds.filterMap fun
    | .matched id ms => if id = e then some ms else none
    | .failed _ => none

@[simp] theorem markersOf_nil (e : EntryId) : markersOf e [] = [] := rfl

@[simp] theorem markersOf_append (e : EntryId) (ds es : List Delivery) :
    markersOf e (ds ++ es) = markersOf e ds ++ markersOf e es := List.filterMap_append

namespace Walk

/-- From every good state the walk delivers these matches to an entry, unless it is halted. -/
structure Yields (good raised : σ → Prop) (e : EntryId) (w : Walk σ)
    (ms : List (List Marker)) : Prop where
  kept : ∀ s, good s.probe → good (w s).2.probe
  raises : ∀ s, good s.probe → raised s.probe → raised (w s).2.probe
  /-- The walk is halted only when a halt is raised. -/
  heeds : ∀ s, good s.probe → s.halted = false → (w s).2.halted = true → raised (w s).2.probe
  /-- Nothing is resumed after a halt. -/
  final : ∀ s, s.halted = true → (w s).2.halted = true
  delivers : ∀ s, good s.probe → (w s).2.halted = false → markersOf e (w s).1 = ms

variable {good raised : σ → Prop} {e : EntryId}

theorem yields_skip : Yields good raised e (skip : Walk σ) [] :=
  ⟨fun _ => id, fun _ _ => id, fun _ _ off on => absurd on (Bool.eq_false_iff.mp off), fun _ => id,
    fun _ _ _ => rfl⟩

theorem yields_andThen {a b : Walk σ} {ms ns : List (List Marker)} (ha : Yields good raised e a ms)
    (hb : Yields good raised e b ns) : Yields good raised e (a.andThen b) (ms ++ ns) where
  kept s hg := hb.kept _ (ha.kept s hg)
  raises s hg hr := hb.raises _ (ha.kept s hg) (ha.raises s hg hr)
  heeds s hg hs halted := by
    cases between : (a s).2.halted with
    | true => exact hb.raises _ (ha.kept s hg) (ha.heeds s hg hs between)
    | false => exact hb.heeds _ (ha.kept s hg) between halted
  final s hs := hb.final _ (ha.final s hs)
  delivers s hg unhalted := by
    have between : (a s).2.halted = false :=
      Bool.eq_false_iff.mpr fun halted => Bool.eq_false_iff.mp unhalted (hb.final _ halted)
    simp only [andThen, markersOf_append, ha.delivers s hg between,
      hb.delivers _ (ha.kept s hg) unhalted]

theorem yields_all {α : Type} {xs : List α} {f : α → Walk σ} {ms : α → List (List Marker)}
    (h : ∀ x ∈ xs, Yields good raised e (f x) (ms x)) :
    Yields good raised e (.all (xs.map f)) (xs.flatMap ms) := by
  induction xs with
  | nil => exact yields_skip
  | cons x xs ih =>
    exact yields_andThen (h x List.mem_cons_self) (ih fun y hy => h y (List.mem_cons_of_mem x hy))

/-- What goes on while no halt is requested. -/
theorem unlessHalted_eq (judge : Judge σ) (w : Walk σ) (s : WalkState σ) :
    unlessHalted judge w s =
      if s.halted then ([], s)
      else if (judge.poll s.probe).1 then ([], ⟨(judge.poll s.probe).2, true⟩)
      else w ⟨(judge.poll s.probe).2, false⟩ := by
  unfold unlessHalted
  split
  · rfl
  · rcases judge.poll s.probe with ⟨halted, probe⟩
    cases halted <;> rfl

theorem yields_unlessHalted {judge : Judge σ} {plain : FieldTest → Prop}
    {answer : FieldTest → FieldView → Except EvalError Bool}
    (steady : judge.Steady good raised plain answer) {w : Walk σ} {ms : List (List Marker)}
    (h : Yields good raised e w ms) : Yields good raised e (.unlessHalted judge w) ms where
  kept s hg := by
    rw [unlessHalted_eq]
    split
    · exact hg
    · split
      · exact (steady.poll s.probe hg).1
      · exact h.kept _ (steady.poll s.probe hg).1
  raises s hg hr := by
    obtain ⟨kept, still, -⟩ := steady.poll s.probe hg
    rw [unlessHalted_eq]
    split
    · exact hr
    · split
      · exact still hr
      · exact h.raises _ kept (still hr)
  heeds s hg hs halted := by
    obtain ⟨kept, -, raised⟩ := steady.poll s.probe hg
    rw [unlessHalted_eq, hs, if_neg Bool.false_ne_true] at halted ⊢
    split
    · rename_i polled
      exact raised polled
    · rename_i polled
      rw [if_neg polled] at halted
      exact h.heeds _ kept rfl halted
  final s hs := by
    rw [unlessHalted_eq, if_pos hs]
    exact hs
  delivers s hg unhalted := by
    rw [unlessHalted_eq] at unhalted ⊢
    split at unhalted
    · rename_i hs
      rw [hs] at unhalted
      cases unhalted
    · split at unhalted
      · cases unhalted
      · rename_i hs hp
        rw [if_neg hs, if_neg hp]
        exact h.delivers _ (steady.poll s.probe hg).1 unhalted

end Walk

namespace MatchContext
open Walk

variable {c : MatchContext σ} {good raised : σ → Prop} {plain : FieldTest → Prop}
  {answer : FieldTest → FieldView → Except EvalError Bool} {e : EntryId}

theorem whereHolds_eq {n : PatternNode} {t : FieldTest} (ht : n.head.test = .field t)
    (view : FieldView) (place : Nat) (w : Walk σ) (s : WalkState σ) :
    c.whereHolds n view place w s =
      match (c.judge.decide t view s.probe).1 with
      | .ok true => w { s with probe := (c.judge.decide t view s.probe).2 }
      | .ok false => ([], { s with probe := (c.judge.decide t view s.probe).2 })
      | .error e => ([.failed (c.failedTest n place e)],
          { s with probe := (c.judge.decide t view s.probe).2 }) := by
  rcases decided : c.judge.decide t view s.probe with ⟨result, probe⟩
  simp only [whereHolds, ht, decided]
  rcases result with err | b
  · rfl
  · cases b <;> rfl

theorem yields_whereHolds (steady : c.judge.Steady good raised plain answer) {n : PatternNode}
    {t : FieldTest} (ht : n.head.test = .field t) (view : FieldView) (place : Nat) {w : Walk σ}
    {ms : List (List Marker)} (led : plain t ∨ ms = []) (h : Yields good raised e w ms) :
    Yields good raised e (c.whereHolds n view place w) (if holdsBy answer t view then ms else []) where
  kept s hg := by
    have kept := (steady.decide t view s.probe hg).2.1
    rw [whereHolds_eq ht]
    split
    · exact h.kept _ kept
    · exact kept
    · exact kept
  raises s hg hr := by
    obtain ⟨-, kept, still⟩ := steady.decide t view s.probe hg
    rw [whereHolds_eq ht]
    split
    · exact h.raises _ kept (still hr)
    · exact still hr
    · exact still hr
  heeds s hg hs halted := by
    have kept := (steady.decide t view s.probe hg).2.1
    rw [whereHolds_eq ht] at halted ⊢
    split at halted
    · exact h.heeds _ kept hs halted
    · exact absurd halted (Bool.eq_false_iff.mp hs)
    · exact absurd halted (Bool.eq_false_iff.mp hs)
  final s hs := by
    rw [whereHolds_eq ht]
    split
    · exact h.final _ hs
    · exact hs
    · exact hs
  delivers s hg unhalted := by
    obtain ⟨answered, kept, -⟩ := steady.decide t view s.probe hg
    rw [whereHolds_eq ht] at unhalted ⊢
    rcases led with asked | rfl
    · rw [answered asked] at unhalted ⊢
      rw [holdsBy]
      split at unhalted
      · rename_i holds
        rw [holds]
        exact h.delivers _ kept unhalted
      · rename_i fails
        rw [fails]
        rfl
      · rename_i fails
        rw [fails]
        rfl
    · rw [ite_self]
      split at unhalted
      · exact h.delivers _ kept unhalted
      · rfl
      · rfl

theorem yields_emit (entries : List EntryId) (markers : List Marker) :
    Yields good raised e (c.emit entries markers)
      (if c.eligible e then (entries.filter (· == e)).map fun _ => markers else []) := by
  refine ⟨fun _ => id, fun _ _ => id, fun _ _ off on => absurd on (Bool.eq_false_iff.mp off),
    fun _ => id, fun s _ unhalted => ?_⟩
  clear unhalted
  change markersOf e ((entries.filter c.eligible).map (.matched · markers)) = _
  induction entries with
  | nil => simp
  | cons id entries ih =>
    by_cases same : id = e
    · subst same
      by_cases meant : c.eligible id = true
      · rw [if_pos meant] at ih ⊢
        rw [List.filter_cons_of_pos meant, List.filter_cons_of_pos (by simp), List.map_cons,
          List.map_cons, ← ih]
        simp [markersOf]
      · rw [if_neg meant] at ih ⊢
        rw [List.filter_cons_of_neg meant]
        exact ih
    · have other : (id :: entries).filter (· == e) = entries.filter (· == e) :=
        List.filter_cons_of_neg (by simpa using same)
      rw [other, ← ih]
      by_cases meant : c.eligible id = true
      · rw [List.filter_cons_of_pos meant, List.map_cons]
        simp [markersOf, same]
      · rw [List.filter_cons_of_neg meant]

/-- What an entry is due from routes that go on from here. -/
def due (c : MatchContext σ) (holds : Holds) (e : EntryId) (rs : List Route) (slot : Option Nat)
    (next : Nat) (markers : List Marker) : List (List Marker) :=
  if c.eligible e then
    (rs.filter (·.2 == e)).flatMap fun r => alongPath holds c.values r.1 slot next markers
  else []

theorem due_append (holds : Holds) (rs ss : List Route) (slot : Option Nat) (next : Nat)
    (markers : List Marker) :
    c.due holds e (rs ++ ss) slot next markers =
      c.due holds e rs slot next markers ++ c.due holds e ss slot next markers := by
  unfold due
  split
  · rw [List.filter_append, List.flatMap_append]
  · rfl

/-- An entry that ends in a node gets the markers gathered so far. -/
theorem yields_entries (holds : Holds) (entries : List EntryId) (slot : Option Nat) (next : Nat)
    (markers : List Marker) : Yields good raised e (c.emit entries markers)
      (c.due holds e (entries.map (([], ·))) slot next markers) := by
  have plain : c.due holds e (entries.map (([], ·))) slot next markers =
      if c.eligible e then (entries.filter (· == e)).map fun _ => markers else [] := by
    unfold due
    split
    · rw [List.filter_map, List.flatMap_map, ← List.flatMap_pure_eq_map]
      rfl
    · rfl
  rw [plain]
  exact yields_emit entries markers

/-- The ways on from a node deliver what its entries and its children are due. -/
theorem yields_inside {holds : Holds} {head : NodeHead} {children : List PatternNode}
    {slot : Option Nat} {next : Nat} {markers : List Marker}
    (below : Yields good raised e (c.visitAll children slot next markers)
      (c.due holds e (routesAll children) slot next markers)) :
    Yields good raised e ((c.emit head.entries markers).andThen (c.visitAll children slot next markers))
      (c.due holds e (ways head children) slot next markers) := by
  rw [ways, due_append]
  exact yields_andThen (yields_entries holds head.entries slot next markers) below

/-- A route through a step is walked by the step and then by the rest. -/
theorem due_map_step (holds : Holds) (step : PathStep) (rs : List Route) (slot : Option Nat)
    (next : Nat) (markers : List Marker) :
    c.due holds e (rs.map fun r => (step :: r.1, r.2)) slot next markers =
      if c.eligible e then (rs.filter (·.2 == e)).flatMap fun r =>
        alongPath holds c.values (step :: r.1) slot next markers else [] := by
  unfold due
  split
  · rw [List.filter_map, List.flatMap_map]
    rfl
  · rfl

/-- Of distinct entries at most one is looked for. -/
theorem length_filter_le_one {rs : List Route} (distinct : (rs.map (·.2)).Nodup) :
    (rs.filter (·.2 == e)).length ≤ 1 := by
  have counted : (rs.filter (·.2 == e)).length = (rs.map (·.2)).count e := by
    rw [List.count, List.countP_map, List.countP_eq_length_filter]
    rfl
  rw [counted]
  exact List.nodup_iff_count_le_one.mp distinct e

/-- Where there is at most one way, it does not matter whether ways or runs are tried first. -/
theorem flatMap_swap {α β γ : Type} {xs : List α} (few : xs.length ≤ 1) (ys : List β)
    (f : α → β → List γ) :
    (xs.flatMap fun x => ys.flatMap (f x)) = ys.flatMap fun y => xs.flatMap fun x => f x y := by
  match xs, few with
  | [], _ => simp
  | [x], _ => simp

/-- What is seen of a slot at a node, in the walk and along a route. -/
theorem slotValue?_eq {head : NodeHead} (visited : (c.mode == .replay && head.initialized) = false) :
    c.slotValue? head false = (c.values[head.shape.slot]?).filter fun v =>
      head.shape.length.all (·.accepts v.fieldCount) := by
  simp [slotValue?, visited]

/-- A replay passes over a node only if none of its entries is meant. -/
theorem due_eq_nil_of_flagged {holds : Holds} {head : NodeHead} {children : List PatternNode}
    {slot : Option Nat} {next : Nat} {markers : List Marker}
    (settled : Settled c.tree.IsInitialized (.node head children))
    (skipped : (c.mode == .replay && head.initialized) = true) :
    c.due holds e (routes (.node head children)) slot next markers = [] := by
  obtain ⟨hm, hi⟩ := Bool.and_eq_true_iff.mp skipped
  obtain ⟨flagged, _⟩ := settled
  unfold due
  split
  · rename_i meant
    rw [List.flatMap_eq_nil_iff]
    intro r hr
    obtain ⟨hr, same⟩ := List.mem_filter.mp hr
    have seen := flagged hi r hr
    rw [beq_iff_eq.mp same] at seen
    unfold PatternTree.IsInitialized at seen
    simp [eligible, seen, hm] at meant
  · rfl

/-- What the routes through a node with a test are due, by the field or the runs it looks at. -/
theorem due_field {holds : Holds} {head : NodeHead} {children : List PatternNode} {t : FieldTest}
    (ht : head.test = .field t) (distinct : ((routes (.node head children)).map (·.2)).Nodup)
    (slot : Option Nat) (next : Nat) (markers : List Marker) :
    c.due holds e (routes (.node head children)) slot next markers =
      match (c.values[head.shape.slot]?).filter fun v =>
        head.shape.length.all (·.accepts v.fieldCount) with
      | none => []
      | some v =>
        let place := if slot = some head.shape.slot then next else 0
        if head.shape.isMulti then
          match v.members? with
          | none => []
          | some members =>
            (runLengths head.shape place members.length).flatMap fun length =>
              if holds t (.span ((members.drop place).take length)) then
                c.due holds e (ways head children) (some head.shape.slot) (place + length)
                  (markers ++ [⟨head.shape.slot, head.shape.element, place, length⟩])
              else []
        else
          match fieldAt? head.shape v place with
          | none => []
          | some field =>
            if holds t (.single field) then
              c.due holds e (ways head children) (some head.shape.slot) (place + 1) markers
            else [] := by
  have once : ((ways head children).filter (·.2 == e)).length ≤ 1 := by
    rw [routes_eq_map children ht, List.map_map] at distinct
    exact length_filter_le_one distinct
  rw [routes_eq_map children ht, due_map_step]
  simp only [alongPath, due]
  generalize (c.values[head.shape.slot]?).filter _ = looked
  generalize (if slot = some head.shape.slot then next else 0) = place
  by_cases meant : c.eligible e = true
  · simp only [meant, if_true]
    cases looked with
    | none => simp
    | some v =>
      by_cases multi : head.shape.isMulti = true
      · simp only [multi, if_true]
        cases v.members? with
        | none => simp
        | some members =>
          simp only
          rw [flatMap_swap once]
          congr 1
          funext length
          split <;> simp
      · simp only [multi, Bool.false_eq_true, if_false]
        cases fieldAt? head.shape v place with
        | none => simp
        | some field =>
          simp only
          split <;> simp
  · simp only [meant, Bool.false_eq_true, if_false, ite_self]
    cases looked with
    | none => rfl
    | some v =>
      simp only
      split
      · cases v.members? <;> simp
      · cases fieldAt? head.shape v place <;> rfl

/-- The steps on the way to an entry are plain. -/
def LedBy (plain : FieldTest → Prop) (e : EntryId) (rs : List Route) : Prop :=
  ∀ r ∈ rs, r.2 = e → ∀ step ∈ r.1, plain step.test

theorem ledBy_true (e : EntryId) (rs : List Route) : LedBy (fun _ => True) e rs :=
  fun _ _ _ _ _ => trivial

theorem LedBy.mono {rs ss : List Route} (led : LedBy plain e rs) (less : ∀ r ∈ ss, r ∈ rs) :
    LedBy plain e ss := fun r inside => led r (less r inside)

/-- A node is on the way to what is behind it. -/
theorem LedBy.behind {head : NodeHead} {children : List PatternNode} {t : FieldTest}
    (ht : head.test = .field t) (led : LedBy plain e (routes (.node head children))) :
    LedBy plain e (routesAll children) := by
  intro r inside same step onward
  refine led (⟨head.shape, t⟩ :: r.1, r.2) ?_ same step (List.mem_cons_of_mem _ onward)
  rw [routes_eq_map children ht]
  exact List.mem_map_of_mem (List.mem_append_right _ inside)

/-- A node with a test that is not plain is not on the way. -/
theorem LedBy.here {head : NodeHead} {children : List PatternNode} {t : FieldTest}
    (ht : head.test = .field t) (led : LedBy plain e (routes (.node head children))) (holds : Holds)
    (slot : Option Nat) (next : Nat) (markers : List Marker) :
    plain t ∨ c.due holds e (ways head children) slot next markers = [] := by
  by_cases asked : plain t
  · exact .inl asked
  · refine .inr ?_
    unfold due
    split
    · rw [List.flatMap_eq_nil_iff]
      intro r inside
      obtain ⟨inside, same⟩ := List.mem_filter.mp inside
      refine absurd (led (⟨head.shape, t⟩ :: r.1, r.2) ?_ (beq_iff_eq.mp same) _
        List.mem_cons_self) asked
      rw [routes_eq_map children ht]
      exact List.mem_map_of_mem inside
    · rfl

/-- A node with a test of its own delivers what its routes are due. -/
theorem yields_visit_field (steady : c.judge.Steady good raised plain answer) {head : NodeHead}
    {children : List PatternNode} {t : FieldTest} (ht : head.test = .field t)
    (settled : Settled c.tree.IsInitialized (.node head children))
    (distinct : ((routes (.node head children)).map (·.2)).Nodup)
    (led : LedBy plain e (routes (.node head children)))
    (below : ∀ slot next markers, Yields good raised e (c.visitAll children slot next markers)
      (c.due (holdsBy answer) e (routesAll children) slot next markers))
    (slot : Option Nat) (next : Nat) (markers : List Marker) :
    Yields good raised e (c.visit (.node head children) slot next markers false)
      (c.due (holdsBy answer) e (routes (.node head children)) slot next markers) := by
  have untested : (head.test == .selector) = false := by simp [ht]
  have performs : (PatternNode.node head children).head.test = .field t := ht
  rw [visit]
  refine yields_unlessHalted steady ?_
  by_cases skipped : (c.mode == .replay && head.initialized) = true
  · rw [due_eq_nil_of_flagged settled skipped]
    simp only [slotValue?, skipped, if_true]
    exact yields_skip
  rw [slotValue?_eq (by simpa using skipped), due_field ht distinct]
  generalize (c.values[head.shape.slot]?).filter _ = looked
  cases looked with
  | none => exact yields_skip
  | some v =>
    simp only [untested, Bool.false_eq_true, if_false]
    by_cases multi : head.shape.isMulti = true
    · simp only [multi, if_true]
      cases v.members? with
      | none => exact yields_skip
      | some members =>
        refine yields_all fun length _ => yields_unlessHalted steady ?_
        exact yields_whereHolds steady performs _ _ (led.here ht _ _ _ _)
          (yields_inside (below _ _ _))
    · simp only [multi, Bool.false_eq_true, if_false]
      cases fieldAt? head.shape v _ with
      | none => exact yields_skip
      | some field =>
        exact yields_whereHolds steady performs _ _ (led.here ht _ _ _ _)
          (yields_inside (below _ _ _))

/-- A constant test holds of its constant and of nothing else. -/
theorem holdsBy_constant (steady : c.judge.Steady good raised plain answer) (v w : Value) :
    holdsBy answer (.constant v) (.single w) = (w == v) := by
  rw [holdsBy, steady.constant]

theorem due_routesAll_eq_nil {holds : Holds} {ns : List PatternNode} {slot : Option Nat}
    {next : Nat} {markers : List Marker}
    (h : ∀ n ∈ ns, c.due holds e (routes n) slot next markers = []) :
    c.due holds e (routesAll ns) slot next markers = [] := by
  induction ns with
  | nil => simp [due]
  | cons n ns ih =>
    rw [routesAll_cons, due_append, h n List.mem_cons_self,
      ih fun m hm => h m (List.mem_cons_of_mem n hm), List.nil_append]

/-- Siblings deliver in turn. -/
theorem yields_visitAll {holds : Holds} {ns : List PatternNode} {slot : Option Nat} {next : Nat}
    {markers : List Marker}
    (h : ∀ n ∈ ns, Yields good raised e (c.visit n slot next markers false)
      (c.due holds e (routes n) slot next markers)) :
    Yields good raised e (c.visitAll ns slot next markers)
      (c.due holds e (routesAll ns) slot next markers) := by
  induction ns with
  | nil =>
    rw [visitAll, due_routesAll_eq_nil (by simp)]
    exact yields_skip
  | cons n ns ih =>
    rw [visitAll, routesAll_cons, due_append]
    exact yields_andThen (h n List.mem_cons_self) (ih fun m hm => h m (List.mem_cons_of_mem n hm))

/-- The field that a selector of a shape passes on. -/
def passed (c : MatchContext σ) (shape : Shape) (slot : Option Nat) (next : Nat) : Option Value :=
  ((c.values[shape.slot]?).filter fun v => shape.length.all (·.accepts v.fieldCount)).bind fun v =>
    fieldAt? shape v (if slot = some shape.slot then next else 0)

/-- A selector's child is due the matches where its constant is passed on. -/
theorem due_case (steady : c.judge.Steady good raised plain answer) {n : PatternNode} {shape : Shape}
    (multi : shape.isMulti = false) (constant : n.isConstant shape = true)
    (distinct : ((routes n).map (·.2)).Nodup) (slot : Option Nat) (next : Nat)
    (markers : List Marker) :
    c.due (holdsBy answer) e (routes n) slot next markers =
      if (c.passed shape slot next).any n.isCase then
        c.due (holdsBy answer) e (ways n.head n.children) (some shape.slot)
          ((if slot = some shape.slot then next else 0) + 1) markers
      else [] := by
  obtain ⟨head, children⟩ := n
  obtain ⟨w, hw⟩ := isConstant_iff.mp constant
  have same : shape = head.shape := (congrArg Prod.fst hw).symm
  have ht : head.test = .field (.constant w) := congrArg Prod.snd hw
  subst same
  rw [due_field ht distinct, passed]
  generalize (if slot = some head.shape.slot then next else 0) = place
  generalize (c.values[head.shape.slot]?).filter _ = looked
  cases looked with
  | none => rfl
  | some v =>
    rw [Option.bind_some]
    simp only [multi, Bool.false_eq_true, if_false, holdsBy_constant steady]
    cases fieldAt? head.shape v place with
    | none => rfl
    | some field =>
      have case : (PatternNode.node head children).isCase field = (field == w) := by
        rw [Bool.eq_iff_iff, isCase_iff, beq_iff_eq]
        simp [PatternNode.head, ht, eq_comm]
      rw [Option.any_some, case]
      rfl

/-- A selector leads to the child of a field as that child's own test would. -/
theorem yields_visit_case (steady : c.judge.Steady good raised plain answer) {n : PatternNode} {shape : Shape}
    (multi : shape.isMulti = false) (constant : n.isConstant shape = true)
    (settled : Settled c.tree.IsInitialized n) (distinct : ((routes n).map (·.2)).Nodup)
    (below : ∀ slot next markers, Yields good raised e (c.visitAll n.children slot next markers)
      (c.due (holdsBy answer) e (routesAll n.children) slot next markers))
    {field : Value} {slot : Option Nat} {next : Nat}
    (found : c.passed shape slot next = some field) (case : n.isCase field = true)
    (markers : List Marker) :
    Yields good raised e
      (c.visit n (some shape.slot) (if slot = some shape.slot then next else 0) markers true)
      (c.due (holdsBy answer) e (routes n) slot next markers) := by
  obtain ⟨head, children⟩ := n
  have ht : head.test = .field (.constant field) := isCase_iff.mp case
  obtain ⟨w, hw⟩ := isConstant_iff.mp constant
  have same : shape = head.shape := (congrArg Prod.fst hw).symm
  subst same
  rw [visit]
  refine yields_unlessHalted steady ?_
  by_cases skipped : (c.mode == .replay && head.initialized) = true
  · rw [due_eq_nil_of_flagged settled skipped]
    simp only [slotValue?, skipped, if_true]
    exact yields_skip
  have untested : (head.test == .selector) = false := by simp [ht]
  obtain ⟨v, looked, at_place⟩ := Option.bind_eq_some_iff.mp found
  have seen : c.slotValue? head true = some v := by
    simp [slotValue?, skipped, (Option.filter_eq_some_iff.mp looked).1]
  rw [due_case steady multi constant distinct, found, Option.any_some, if_pos case]
  simp only [seen, multi, Bool.false_eq_true, if_false, untested, if_true, at_place]
  exact yields_inside (below _ _ _)

theorem yields_visitCase (steady : c.judge.Steady good raised plain answer) {shape : Shape}
    (multi : shape.isMulti = false) {field : Value} {slot : Option Nat} {next : Nat}
    (found : c.passed shape slot next = some field) (markers : List Marker) {ns : List PatternNode}
    (separate : Distinct ns)
    (constant : ∀ n ∈ ns, n.isConstant shape = true)
    (settled : ∀ n ∈ ns, Settled c.tree.IsInitialized n)
    (distinct : ∀ n ∈ ns, ((routes n).map (·.2)).Nodup)
    (below : ∀ n ∈ ns, ∀ slot next markers,
      Yields good raised e (c.visitAll n.children slot next markers)
        (c.due (holdsBy answer) e (routesAll n.children) slot next markers)) :
    Yields good raised e (c.visitCase ns field (some shape.slot)
        (if slot = some shape.slot then next else 0) markers)
      (c.due (holdsBy answer) e (routesAll ns) slot next markers) := by
  induction ns with
  | nil =>
    rw [visitCase, due_routesAll_eq_nil (by simp)]
    exact yields_skip
  | cons n ns ih =>
    rw [visitCase, routesAll_cons, due_append]
    have here : n ∈ n :: ns := List.mem_cons_self
    have later : ∀ m ∈ ns, m ∈ n :: ns := fun m hm => List.mem_cons_of_mem n hm
    obtain ⟨fresh, separate⟩ := List.nodup_cons.mp separate
    by_cases case : n.isCase field = true
    · -- The other children test for other constants.
      have others : c.due (holdsBy answer) e (routesAll ns) slot next markers = [] := by
        refine due_routesAll_eq_nil fun m hm => ?_
        rw [due_case steady multi (constant m (later m hm)) (distinct m (later m hm)), found]
        refine if_neg fun again => fresh (List.mem_map.mpr ⟨m, hm, ?_⟩)
        rw [Option.any_some, isCase_iff_performs (constant m (later m hm)), performs_iff] at again
        rw [isCase_iff_performs (constant n here), performs_iff] at case
        rw [again, case]
      rw [if_pos case, others, List.append_nil]
      exact yields_visit_case steady multi (constant n here) (settled n here) (distinct n here)
        (below n here) found case markers
    · rw [if_neg case, due_case steady multi (constant n here) (distinct n here), found,
        Option.any_some, if_neg case, List.nil_append]
      exact ih separate (fun m hm => constant m (later m hm)) (fun m hm => settled m (later m hm))
        (fun m hm => distinct m (later m hm)) fun m hm => below m (later m hm)

/-- A selector delivers what the tests under it would. -/
theorem yields_visit_selector (steady : c.judge.Steady good raised plain answer) {head : NodeHead}
    {children : List PatternNode} (ht : head.test = .selector)
    (sound : Sound (.node head children))
    (settled : Settled c.tree.IsInitialized (.node head children))
    (distinct : ((routesAll children).map (·.2)).Nodup)
    (below : ∀ n ∈ children, ∀ slot next markers,
      Yields good raised e (c.visitAll n.children slot next markers)
        (c.due (holdsBy answer) e (routesAll n.children) slot next markers))
    (slot : Option Nat) (next : Nat) (markers : List Marker) :
    Yields good raised e (c.visit (.node head children) slot next markers false)
      (c.due (holdsBy answer) e (routesAll children) slot next markers) := by
  obtain ⟨selects, separate, _⟩ := sound
  obtain ⟨multi, _, constant⟩ := selects ht
  have alone : ∀ n ∈ children, ((routes n).map (·.2)).Nodup := by
    intro n hn
    rw [routesAll_eq_flatMap, List.map_flatMap] at distinct
    exact (List.nodup_flatMap.mp distinct).1 n hn
  rw [visit]
  refine yields_unlessHalted steady ?_
  by_cases skipped : (c.mode == .replay && head.initialized) = true
  · have none : c.due (holdsBy answer) e (routes (.node head children)) slot next markers = [] :=
      due_eq_nil_of_flagged settled skipped
    rw [routes_selector children ht] at none
    rw [none]
    simp only [slotValue?, skipped, if_true]
    exact yields_skip
  have selector : (head.test == .selector) = true := by simp [ht]
  rw [slotValue?_eq (by simpa using skipped)]
  have unseen (h : c.passed head.shape slot next = none) :
      c.due (holdsBy answer) e (routesAll children) slot next markers = [] :=
    due_routesAll_eq_nil fun n hn => by
      rw [due_case steady multi (constant n hn) (alone n hn), h]
      rfl
  cases looked : (c.values[head.shape.slot]?).filter fun v =>
      head.shape.length.all (·.accepts v.fieldCount) with
  | none =>
    rw [unseen (by rw [passed, looked]; rfl)]
    exact yields_skip
  | some v =>
    simp only [multi, Bool.false_eq_true, if_false, selector, if_true]
    cases found : fieldAt? head.shape v (if slot = some head.shape.slot then next else 0) with
    | none =>
      rw [unseen (by rw [passed, looked]; exact found)]
      exact yields_skip
    | some field =>
      exact yields_visitCase steady multi (by rw [passed, looked]; exact found) markers separate
        constant settled.children alone below

/-- Nodes deliver what their routes are due. -/
theorem yields_visit (steady : c.judge.Steady good raised plain answer) {n : PatternNode}
    (sound : Sound n) (settled : Settled c.tree.IsInitialized n)
    (distinct : ((routes n).map (·.2)).Nodup) (led : LedBy plain e (routes n)) :
    (∀ slot next markers, Yields good raised e (c.visitAll n.children slot next markers)
        (c.due (holdsBy answer) e (routesAll n.children) slot next markers)) ∧
      ∀ slot next markers, Yields good raised e (c.visit n slot next markers false)
        (c.due (holdsBy answer) e (routes n) slot next markers) := by
  induction n using PatternNode.induction with
  | step head children ih =>
    have inner : ((routesAll children).map (·.2)).Nodup := by
      cases ht : head.test with
      | selector => exact routes_selector children ht ▸ distinct
      | field t =>
        rw [routes_eq_map children ht, List.map_map, ways, List.map_append] at distinct
        exact (List.nodup_append.mp distinct).2.1
    have alone : ∀ n ∈ children, ((routes n).map (·.2)).Nodup := by
      intro n hn
      rw [routesAll_eq_flatMap, List.map_flatMap] at inner
      exact (List.nodup_flatMap.mp inner).1 n hn
    have behind : LedBy plain e (routesAll children) := by
      cases ht : head.test with
      | selector => exact routes_selector children ht ▸ led
      | field t => exact led.behind ht
    have each n (hn : n ∈ children) :=
      ih n hn (sound.children.2 n hn) (settled.children n hn) (alone n hn)
        (behind.mono fun r inside => mem_routesAll.mpr ⟨n, hn, inside⟩)
    have below slot next markers : Yields good raised e (c.visitAll children slot next markers)
        (c.due (holdsBy answer) e (routesAll children) slot next markers) :=
      yields_visitAll fun n hn => (each n hn).2 slot next markers
    refine ⟨below, fun slot next markers => ?_⟩
    cases ht : head.test with
    | selector =>
      rw [routes_selector children ht]
      exact yields_visit_selector steady ht sound settled inner (fun n hn => (each n hn).1) slot
        next markers
    | field t => exact yields_visit_field steady ht settled distinct led below slot next markers

/-- A run delivers to an entry what the routes of the tree are due. -/
theorem yields_run (steady : c.judge.Steady good raised plain answer) {ps : PatternTree.Ledger}
    (keeps : c.tree.Keeps ps) (led : LedBy plain e c.tree.allRoutes) :
    Yields good raised e c.run (c.due (holdsBy answer) e c.tree.allRoutes none 0 []) := by
  have distinct : ((routesAll c.tree.roots).map (·.2)).Nodup := by
    have nodup := keeps.nodup_entries
    rw [PatternTree.allRoutes, List.map_append] at nodup
    exact (List.nodup_append.mp nodup).2.1
  have alone : ∀ n ∈ c.tree.roots, ((routes n).map (·.2)).Nodup := by
    intro n hn
    rw [routesAll_eq_flatMap, List.map_flatMap] at distinct
    exact (List.nodup_flatMap.mp distinct).1 n hn
  refine yields_unlessHalted steady ?_
  rw [PatternTree.allRoutes, due_append]
  refine yields_andThen (yields_entries _ _ _ _ _) (yields_visitAll fun n hn => ?_)
  have leads : LedBy plain e (routes n) := led.mono fun r inside =>
    List.mem_append_right _ (mem_routesAll.mpr ⟨n, hn, inside⟩)
  exact (yields_visit steady (keeps.sound.2 n hn) (keeps.settled n hn) (alone n hn) leads).2 none 0 []

end MatchContext

end FactBase

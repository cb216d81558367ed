import FactBase.Proofs.Basic
import FactBase.Proofs.Pattern.Matching
import Mathlib.Algebra.GroupWithZero.Nat
import Mathlib.Data.Nat.Choose.Basic

/-!
# In how many ways elements share out a slot

A slot pattern that only counts fields matches once for each way to share the fields that its single
elements leave over among its runs. The ways come in order, the widest first run first, and whatever
else the tree looks for and however its predicates answer, none of them is lost.
-/

namespace FactBase
open PatternTree PatternNode MatchContext

/-! ### Tests that ask nobody -/

/-- Whether a test is decided by the view itself. -/
def FieldTest.isPlain : FieldTest → Bool
  | .any | .constant _ | .notConstant _ => true
  | .expression _ => false

/-- Plain tests are decided alike whatever predicates answer and have answered. -/
theorem Probe.steady_of_plain (p : Probe) : Probe.judge.Steady (fun _ => True) (·.halted = true)
    (·.isPlain = true) p.answer where
  decide test view q _ := by
    refine ⟨fun plain => ?_, trivial, (q.decide_spec test view).2⟩
    cases test with
    | any | constant _ | notConstant _ => rfl
    | expression predicate => cases plain
  poll q _ := ⟨trivial, q.poll_spec.2⟩
  constant _ _ := rfl

namespace PatternTree

variable {t : Template} {path : List PathStep}

/-- The steps of a path test what the elements of its pattern test. -/
theorem test_multiSteps (slot : Nat) (length : SlotLength) (element : Nat) (es : List Element) :
    (multiSteps slot length element es).map (·.test) = es.map (·.test) := by
  induction es generalizing element with
  | nil => rfl
  | cons e rest ih => rw [multiSteps, List.map_cons, List.map_cons, ih]

theorem test_slotSteps {definition : Slot} {p : SlotPattern} {steps : List PathStep}
    (done : slotSteps definition p = .ok steps) :
    steps.map (·.test) = p.elements.map (·.test) := by
  unfold slotSteps at done
  split at done
  · split at done
    · cases done
    · obtain rfl := Except.ok.inj done
      exact test_multiSteps _ _ _ _
  · split at done
    · rename_i t single
      obtain rfl := Except.ok.inj done
      rw [single]
      rfl
    · cases done

theorem test_stepsFrom {previous : Option Nat} {ps : List SlotPattern}
    (done : stepsFrom t previous ps = .ok path) :
    path.map (·.test) = ps.flatMap fun p => p.elements.map (·.test) := by
  induction ps generalizing previous path with
  | nil =>
    obtain rfl := Except.ok.inj done
    rfl
  | cons p rest ih =>
    unfold stepsFrom at done
    split at done
    · cases done
    · split at done
      · cases done
      · obtain ⟨steps, first, done⟩ := bind_eq_ok.mp done
        obtain ⟨others, second, done⟩ := bind_eq_ok.mp done
        obtain rfl := Except.ok.inj done
        rw [List.map_append, List.flatMap_cons, test_slotSteps first, ih second]

/-- The way to an entry is plain if its pattern is. -/
theorem Keeps.ledBy {tree : PatternTree} {ps : Ledger} (keeps : tree.Keeps ps) {e : EntryId}
    {p : Pattern} (listed : (e, p) ∈ ps) {plain : FieldTest → Prop}
    (tests : ∀ s ∈ p.slots, ∀ x ∈ s.elements, plain x.test) : LedBy plain e tree.allRoutes := by
  rintro ⟨path, _⟩ inside rfl step onward
  have routed := keeps.routed.mem_iff.mp (List.mem_map_of_mem inside)
  obtain ⟨⟨e', p'⟩, listed', same⟩ := List.mem_map.mp routed
  obtain ⟨compiled, rfl⟩ := Prod.mk.inj same
  obtain rfl : p' = p :=
    congrArg Prod.snd (List.inj_on_of_nodup_map keeps.distinct listed' listed rfl)
  have tested : step.test ∈ path.map (·.test) := List.mem_map_of_mem onward
  rw [test_stepsFrom compiled] at tested
  obtain ⟨s, sorted, tested⟩ := List.mem_flatMap.mp tested
  obtain ⟨x, element, same⟩ := List.mem_map.mp tested
  rw [← same]
  exact tests s (List.mem_mergeSort.mp sorted) x element

end PatternTree

/-- An entry with a plain pattern is handed its matches in order. -/
theorem markersOf_run_plain {c : MatchContext Probe} {ps : PatternTree.Ledger} {probe : Probe}
    (judged : c.judge = Probe.judge) (keeps : c.tree.Keeps ps) {e : EntryId} {p : Pattern}
    (listed : (e, p) ∈ ps) (plain : ∀ s ∈ p.slots, ∀ x ∈ s.elements, x.test.isPlain = true)
    (meant : c.eligible e = true) (unhalted : (c.run ⟨probe, false⟩).2.halted = false) :
    markersOf e (c.run ⟨probe, false⟩).1 =
      p.matchList (holdsBy probe.answer) c.tree.template c.values := by
  have yields := yields_run (judged ▸ probe.steady_of_plain) keeps (keeps.ledBy listed plain)
  rw [yields.delivers ⟨probe, false⟩ trivial unhalted, due_allRoutes keeps listed meant]

/-! ### Counting -/

/-- The lengths of the runs, in the order of the elements. -/
def spans (ms : List Marker) : List Nat := ms.map (·.length)

/-- A first run of any length, and then the ways to share out what it leaves. -/
theorem sum_multichoose (m d : Nat) :
    ((List.range (d + 1)).map fun k => m.multichoose (d - k)).sum = (m + 1).multichoose d := by
  induction d with
  | zero => rw [Nat.multichoose_zero_right, List.range_one, List.map_singleton, List.sum_singleton,
      Nat.multichoose_zero_right]
  | succ d ih =>
    rw [List.range_succ_eq_map, List.map_cons, List.map_map, List.sum_cons,
      Nat.multichoose_succ_succ, ← ih]
    congr 3
    funext k
    exact congrArg _ (Nat.succ_sub_succ d k)

variable {holds : Holds} {slot : Nat} {es : List Element}

theorem sum_runs (f : Nat → Nat) {n : Nat} (enough : singles es ≤ n) :
    ((runs es n).map f).sum = if multis es = 0 then f (n - singles es)
      else ((List.range (n - singles es + 1)).map f).sum := by
  rw [runs, if_pos enough]
  split
  · exact List.sum_singleton
  · rw [List.map_reverse, List.sum_reverse]

/-- Elements that take everything share out what is left over in every way. -/
theorem length_tilings (all : ∀ x ∈ es, ∀ view, holds x.test view = true) (element place : Nat)
    (vs : List Value) (enough : singles es ≤ vs.length) :
    (tilings holds slot element place es vs).length =
      (multis es).multichoose (vs.length - singles es) := by
  induction es generalizing element place vs with
  | nil => cases vs <;> simp [tilings]
  | cons e es ih =>
    obtain ⟨here, others⟩ := List.forall_mem_cons.mp all
    cases e with
    | single t =>
      rw [Element.test_single] at here
      rw [singles_single] at enough ⊢
      cases vs with
      | nil => cases enough
      | cons v vs =>
        rw [tilings, if_pos (here _), ih others _ _ vs (Nat.le_of_succ_le_succ enough), multis_single,
          List.length_cons, Nat.add_sub_add_right]
    | multi t =>
      rw [Element.test_multi] at here
      rw [singles_multi] at enough ⊢
      have rest : ∀ n ∈ runs es vs.length, (if holds t (.span (vs.take n)) then
          (tilings holds slot (element + 1) (place + n) es (vs.drop n)).map
            (⟨slot, element, place, n⟩ :: ·) else []).length =
          (multis es).multichoose (vs.length - singles es - n) := by
        intro n inside
        have left := (mem_runs.mp inside).2.1
        rw [if_pos (here _), List.length_map, ih others _ _ _ (by rwa [List.length_drop]),
          List.length_drop, Nat.sub_right_comm]
      rw [tilings, List.length_flatMap, List.map_congr_left rest, sum_runs _ enough, multis_multi]
      split
      · rename_i last
        rw [last, Nat.sub_self, Nat.multichoose_zero_right, Nat.multichoose_one]
      · exact sum_multichoose _ _

theorem spans_cons (m : Marker) (ms : List Marker) : spans (m :: ms) = m.length :: spans ms := rfl

theorem pairwise_runs (es : List Element) (n : Nat) : (runs es n).Pairwise (· > ·) := by
  unfold runs
  split
  · split
    · exact List.pairwise_singleton _ _
    · exact List.pairwise_reverse.mpr List.pairwise_lt_range
  · exact .nil

/-- The widest first run comes first, and so on with the runs behind it. -/
theorem pairwise_tilings (element place : Nat) (vs : List Value) :
    (tilings holds slot element place es vs).Pairwise fun ms ns => spans ns < spans ms := by
  induction es generalizing element place vs with
  | nil => cases vs <;> simp [tilings]
  | cons e es ih =>
    cases e with
    | single t =>
      cases vs with
      | nil => exact .nil
      | cons v vs =>
        rw [tilings]
        split
        · exact ih _ _ _
        · exact .nil
    | multi t =>
      have begins {n : Nat} {ms : List Marker} (listed : ms ∈ if holds t (.span (vs.take n)) then
          (tilings holds slot (element + 1) (place + n) es (vs.drop n)).map
            (⟨slot, element, place, n⟩ :: ·) else []) :
          ∃ rest, ms = ⟨slot, element, place, n⟩ :: rest := by
        split at listed
        · obtain ⟨rest, -, rfl⟩ := List.mem_map.mp listed
          exact ⟨rest, rfl⟩
        · cases listed
      rw [tilings, List.pairwise_flatMap]
      constructor
      · intro n _
        split
        · rw [List.pairwise_map]
          refine (ih _ _ _).imp fun less => ?_
          exact List.cons_lt_cons_iff.mpr (.inr ⟨rfl, less⟩)
        · exact .nil
      · refine (pairwise_runs es vs.length).imp fun {m n} wider ms listed ns listed' => ?_
        obtain ⟨ms, rfl⟩ := begins listed
        obtain ⟨ns, rfl⟩ := begins listed'
        exact List.cons_lt_cons_iff.mpr (.inl wider)

theorem Tiles.sum_spans {element place : Nat} {vs : List Value} {ms : List Marker}
    (tiles : Tiles holds slot element place es vs ms) :
    (spans ms).sum + singles es = vs.length := by
  induction tiles with
  | nil => rfl
  | single _ _ ih => rw [singles_single, List.length_cons, ← ih, Nat.add_assoc]
  | multi run _ _ ih =>
    rw [spans_cons, List.sum_cons, singles_multi, List.length_append, ← ih, Nat.add_assoc]

/-! ### Runs -/

/-- What a run hands over for one entry, in order. -/
theorem markers_handed (h : Handle) (f : Fact) (e : EntryId) (ds : List Delivery) :
    ((ds.filterMap (handed h f)).filter (·.entry == e)).map (·.markers) = markersOf e ds := by
  induction ds with
  | nil => rfl
  | cons d ds ih =>
    cases d with
    | failed test => exact ih
    | matched entry markers =>
      by_cases same : entry = e
      · simp [handed, markersOf, same] at ih ⊢
        exact ih
      · simp [handed, markersOf, same] at ih ⊢
        exact ih

/-- The matches of a pattern that is one slot pattern are those of that. -/
theorem matchList_single {template : Template} {p : Pattern} {s : SlotPattern}
    (only : p.slots = [s]) (values : List Value) :
    p.matchList holds template values = slotMatches holds template values s := by
  rw [Pattern.matchList, only, List.mergeSort_singleton]
  simp [allMatches]

/-- A pattern that only counts the members of one slot is matched once for each way to share out the
members that its single elements leave over among its runs: the ways come in order, the widest first
run first, and the runs and single fields cover the slot. -/
theorem run_splits {N : Type} [JoinNetwork N] {template : Template} {threshold : Nat}
    {t : PatternTree} {ps : PatternTree.Ledger}
    (reached : PatternTree.Reached template threshold t ps) {e : EntryId} {p : Pattern}
    (listed : (e, p) ∈ ps) {slot : Nat} {elements : List Element}
    (only : p.slots = [⟨slot, elements⟩]) (any : ∀ x ∈ elements, x.test = .any)
    {definition : Slot} (defined : template.slot? slot = some definition)
    (multi : definition.isMulti = true) {f : Fact} {members : List Value}
    (stands : f.values[slot]? = some (.multifield members)) (mode : MatchMode)
    (meant : t.IsInitialized e ↔ mode = .assert) (probe : Probe)
    (unhalted : ((MatchContext.mk Probe.judge t f.values mode).run ⟨probe, false⟩).2.halted = false)
    (h : Handle) (network : N) :
    let walked := (MatchContext.mk Probe.judge t f.values mode).run ⟨probe, false⟩
    let given := pushes (Store.deliverAll h f walked.1 network).1.notices
    let found := (given.filter (·.entry == e)).map (·.markers)
    let s := singles elements
    let m := multis elements
    let n := members.length
    (n < s ∨ m = 0 ∧ n ≠ s → found = []) ∧
      (m = 0 ∧ n = s → found = [[]]) ∧
      (0 < m ∧ s ≤ n → found.length = (n - s + m - 1).choose (m - 1)) ∧
      (found.map spans).Pairwise (· > ·) ∧
      (found.map spans).Nodup ∧
      ∀ ms ∈ found, (spans ms).length = m ∧ (spans ms).sum = n - s ∧
        Tiles (holdsBy probe.answer) slot 0 0 elements members ms := by
  intro walked given found s m n
  have plain : ∀ s ∈ p.slots, ∀ x ∈ s.elements, x.test.isPlain = true := by
    rw [only, List.forall_mem_singleton]
    intro x inside
    rw [any x inside]
    rfl
  have everything : ∀ x ∈ elements, ∀ view, holdsBy probe.answer x.test view = true := by
    intro x inside view
    rw [any x inside]
    rfl
  have handed : found = tilings (holdsBy probe.answer) slot 0 0 elements members := by
    have keeps : (MatchContext.mk Probe.judge t f.values mode).tree.Keeps ps := reached.keeps
    calc found
        = markersOf e walked.1 := by
          change ((pushes _).filter _).map _ = _
          rw [Store.pushes_deliverAll, markers_handed]
      _ = p.matchList (holdsBy probe.answer) t.template f.values :=
          markersOf_run_plain rfl keeps listed plain (eligible_iff.mpr meant) unhalted
      _ = tilings (holdsBy probe.answer) slot 0 0 elements members := by
          have known : t.template.slot? slot = some definition := reached.template_eq ▸ defined
          rw [matchList_single only, slotMatches_multi known multi, stands]
          rfl
  rw [handed]
  have decreasing : ((tilings (holdsBy probe.answer) slot 0 0 elements members).map spans).Pairwise
      (· > ·) := List.pairwise_map.mpr (pairwise_tilings 0 0 members)
  refine ⟨fun misfit => tilings_eq_nil (by unfold Fits; omega) 0 0, ?_, ?_, ?_, ?_, ?_⟩
  · rintro ⟨none, exactly⟩
    have once := @length_tilings _ slot _ everything 0 0 members (Nat.le_of_eq exactly.symm)
    rw [show multis elements = 0 from none, show members.length = singles elements from exactly,
      Nat.sub_self, Nat.multichoose_zero_right, List.length_eq_one_iff] at once
    obtain ⟨ms, alone⟩ := once
    have tiles := mem_tilings.mp (alone ▸ List.mem_singleton_self ms)
    rw [alone, List.length_eq_zero_iff.mp (tiles.length_eq.trans none)]
  · rintro ⟨some, enough⟩
    have total : n - s + m - 1 = n - s + (m - 1) := by omega
    rw [length_tilings everything 0 0 members enough, Nat.multichoose_eq, Nat.add_comm, total]
    exact Nat.choose_symm_add
  · exact decreasing
  · refine decreasing.imp fun {ns ms} wider => ?_
    rintro rfl
    exact List.lt_irrefl _ wider
  · intro ms inside
    have tiles := mem_tilings.mp inside
    refine ⟨(List.length_map _).trans tiles.length_eq, ?_, tiles⟩
    exact Nat.eq_sub_of_add_eq tiles.sum_spans

/-- Two runs around one field share out the other three of four fields. -/
theorem run_splits_around :
    let p : Pattern := ⟨⟨1⟩, [⟨0, [.multi .any, .single .any, .multi .any]⟩]⟩
    let f : Fact := { template := .implied "data" "MAIN", templateId := ⟨1⟩, index := 1
                      fields := [{ value := .multifield [.nil, .nil, .nil, .nil] }] }
    ∃ t, PatternTree.add { template := f.template, threshold := 2 } ⟨1⟩ "around" p = .ok t ∧
      let walked := (MatchContext.mk Probe.judge t f.values .replay).run ⟨{}, false⟩
      let given := pushes (Store.deliverAll ⟨0, 0⟩ f walked.1 ({} : MatchCounter)).1.notices
      let found := (given.filter (·.entry == ⟨1⟩)).map (·.markers)
      found.length = 4 ∧ (found.map spans).Pairwise (· > ·) := by
  intro p f
  cases added : PatternTree.add { template := f.template, threshold := 2 } ⟨1⟩ "around" p with
  | error e =>
    simp [PatternTree.add, PatternTree.compile, PatternTree.stepsFrom, PatternTree.slotSteps, p, f,
      Template.implied, Template.slot?, bind, Except.bind] at added
  | ok t =>
    refine ⟨t, rfl, ?_⟩
    have reached : PatternTree.Reached f.template 2 t [(⟨1⟩, p)] := .add .empty rfl added
    have quiet : Probe.Quiet {} :=
      ⟨rfl, by simp, fun i rule found => by simp at found, fun i rule found => by simp at found⟩
    have meant : t.IsInitialized ⟨1⟩ ↔ MatchMode.replay = .assert := by
      obtain ⟨path, _, rfl⟩ := PatternTree.add_eq_ok added
      constructor <;> rintro ⟨⟩
    have any : ∀ x ∈ [Element.multi .any, .single .any, .multi .any], x.test = .any := by decide
    have stands : f.values[0]? = some (.multifield [.nil, .nil, .nil, .nil]) := rfl
    obtain ⟨-, -, number, ordered, -⟩ := run_splits reached List.mem_cons_self rfl any rfl rfl stands
      .replay meant {} (run_quiet rfl reached.keeps quiet) ⟨0, 0⟩ ({} : MatchCounter)
    exact ⟨number ⟨by decide, by decide⟩, ordered⟩

end FactBase

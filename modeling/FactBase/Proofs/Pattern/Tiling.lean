import FactBase.Pattern.Match
import Mathlib.Data.List.Nodup

/-!
# What it means that a pattern matches

A multifield slot is matched by tiling it: each element in turn takes one field or a run of fields,
and none is left over. The markers say where the runs lie. Below the meaning of a pattern stands
the list of its matches as a compiled path yields them, widest run first; the two agree, and no
match is listed twice. Nothing here looks at a tree.
-/

namespace FactBase
open PatternTree

/-- Whether a test says yes to a view; one that fails does not. -/
abbrev Holds := FieldTest → FieldView → Bool

/-- The elements from a place of their slot pattern on take the fields from `place` on, each its
own, and the runs leave these markers. -/
inductive Tiles (holds : Holds) (slot : Nat) :
    Nat → Nat → List Element → List Value → List Marker → Prop
  | nil (element place : Nat) : Tiles holds slot element place [] [] []
  | single {element place : Nat} {t : FieldTest} {es : List Element} {v : Value} {vs : List Value}
      {ms : List Marker} (h : holds t (.single v) = true)
      (rest : Tiles holds slot (element + 1) (place + 1) es vs ms) :
      Tiles holds slot element place (.single t :: es) (v :: vs) ms
  | multi {element place : Nat} {t : FieldTest} {es : List Element} (run : List Value)
      {vs : List Value} {ms : List Marker} (h : holds t (.span run) = true)
      (rest : Tiles holds slot (element + 1) (place + run.length) es vs ms) :
      Tiles holds slot element place (.multi t :: es) (run ++ vs)
        (⟨slot, element, place, run.length⟩ :: ms)

/-- A slot pattern matches the value of its slot with these markers. -/
def SlotPattern.Matches (holds : Holds) (template : Template) (values : List Value)
    (p : SlotPattern) (ms : List Marker) : Prop :=
  ∃ slot v, template.slot? p.slot = some slot ∧ values[p.slot]? = some v ∧
    if slot.isMulti then
      ∃ members, v = .multifield members ∧ Tiles holds p.slot 0 0 p.elements members ms
    else ∃ t, p.elements = [.single t] ∧ holds t (.single v) = true ∧ ms = []

/-- Slot patterns match one after the other. -/
inductive MatchAll (holds : Holds) (template : Template) (values : List Value) :
    List SlotPattern → List Marker → Prop
  | nil : MatchAll holds template values [] []
  | cons {p : SlotPattern} {ps : List SlotPattern} {ms ns : List Marker}
      (first : p.Matches holds template values ms) (rest : MatchAll holds template values ps ns) :
      MatchAll holds template values (p :: ps) (ms ++ ns)

/-- A pattern matches the values of a fact; the markers are in the order of slots. -/
def Pattern.Matches (holds : Holds) (template : Template) (p : Pattern) (values : List Value)
    (ms : List Marker) : Prop :=
  MatchAll holds template values (p.slots.mergeSort fun a b => a.slot ≤ b.slot) ms

/-! ### Listing tilings -/

def singles (es : List Element) : Nat := es.countP (!·.isMulti)

def multis (es : List Element) : Nat := es.countP (·.isMulti)

/-- How many fields elements can take altogether. -/
def Fits (es : List Element) (n : Nat) : Prop := singles es ≤ n ∧ (multis es = 0 → n = singles es)

/-- The run lengths that leave enough fields to the elements behind, widest first. -/
def runs (es : List Element) (n : Nat) : List Nat :=
  if singles es ≤ n then
    if multis es = 0 then [n - singles es] else (List.range (n - singles es + 1)).reverse
  else []

/-- The markers of every tiling. -/
def tilings (holds : Holds) (slot : Nat) :
    Nat → Nat → List Element → List Value → List (List Marker)
  | _, _, [], [] => [[]]
  | _, _, [], _ :: _ => []
  | _, _, .single _ :: _, [] => []
  | element, place, .single t :: es, v :: vs =>
    if holds t (.single v) then tilings holds slot (element + 1) (place + 1) es vs else []
  | element, place, .multi t :: es, vs =>
    (runs es vs.length).flatMap fun n =>
      if holds t (.span (vs.take n)) then
        (tilings holds slot (element + 1) (place + n) es (vs.drop n)).map
          (⟨slot, element, place, n⟩ :: ·)
      else []

@[simp] theorem Element.isMulti_single (t : FieldTest) : (Element.single t).isMulti = false := rfl

@[simp] theorem Element.isMulti_multi (t : FieldTest) : (Element.multi t).isMulti = true := rfl

@[simp] theorem Element.test_single (t : FieldTest) : (Element.single t).test = t := rfl

@[simp] theorem Element.test_multi (t : FieldTest) : (Element.multi t).test = t := rfl

@[simp] theorem singles_nil : singles [] = 0 := rfl

@[simp] theorem multis_nil : multis [] = 0 := rfl

@[simp] theorem singles_single (t : FieldTest) (es : List Element) :
    singles (.single t :: es) = singles es + 1 := List.countP_cons_of_pos rfl

@[simp] theorem singles_multi (t : FieldTest) (es : List Element) :
    singles (.multi t :: es) = singles es := List.countP_cons_of_neg (by simp)

@[simp] theorem multis_single (t : FieldTest) (es : List Element) :
    multis (.single t :: es) = multis es := List.countP_cons_of_neg (by simp)

@[simp] theorem multis_multi (t : FieldTest) (es : List Element) :
    multis (.multi t :: es) = multis es + 1 := List.countP_cons_of_pos rfl

theorem length_eq_singles_add_multis (es : List Element) :
    es.length = singles es + multis es := by
  rw [singles, multis, Nat.add_comm, List.length_eq_countP_add_countP (·.isMulti)]
  simp

theorem mem_runs {es : List Element} {n len : Nat} :
    len ∈ runs es n ↔ len ≤ n ∧ Fits es (n - len) := by
  unfold runs Fits
  split
  · split
    · rw [List.mem_singleton]
      omega
    · rw [List.mem_reverse, List.mem_range]
      omega
  · simp only [List.not_mem_nil, false_iff]
    omega

theorem nodup_runs (es : List Element) (n : Nat) : (runs es n).Nodup := by
  unfold runs
  split
  · split
    · exact List.nodup_singleton _
    · exact List.nodup_reverse.mpr List.nodup_range
  · exact List.nodup_nil

theorem Tiles.fits {holds : Holds} {slot element place : Nat} {es : List Element}
    {vs : List Value} {ms : List Marker} (h : Tiles holds slot element place es vs ms) :
    Fits es vs.length := by
  induction h with
  | nil => simp [Fits]
  | single _ _ ih =>
    obtain ⟨least, exactly⟩ := ih
    simp only [Fits, singles_single, multis_single, List.length_cons]
    exact ⟨by omega, fun none => by rw [exactly none]⟩
  | multi run _ _ ih =>
    obtain ⟨least, _⟩ := ih
    simp only [Fits, singles_multi, multis_multi, List.length_append]
    exact ⟨by omega, fun none => by omega⟩

theorem Tiles.length_eq {holds : Holds} {slot element place : Nat} {es : List Element}
    {vs : List Value} {ms : List Marker} (h : Tiles holds slot element place es vs ms) :
    ms.length = multis es := by
  induction h with
  | nil => rfl
  | single _ _ ih => rw [ih, multis_single]
  | multi _ _ _ ih => rw [List.length_cons, ih, multis_multi]

theorem mem_tilings {holds : Holds} {slot element place : Nat} {es : List Element}
    {vs : List Value} {ms : List Marker} :
    ms ∈ tilings holds slot element place es vs ↔ Tiles holds slot element place es vs ms := by
  constructor
  · intro h
    induction es generalizing element place vs ms with
    | nil =>
      cases vs with
      | nil =>
        rw [tilings, List.mem_singleton] at h
        subst h
        exact .nil element place
      | cons v vs => simp [tilings] at h
    | cons e es ih =>
      cases e with
      | single t =>
        cases vs with
        | nil => simp [tilings] at h
        | cons v vs =>
          rw [tilings] at h
          split at h
          · exact .single ‹_› (ih h)
          · simp at h
      | multi t =>
        rw [tilings] at h
        obtain ⟨n, hn, h⟩ := List.mem_flatMap.mp h
        split at h
        · rename_i yes
          obtain ⟨ns, hns, rfl⟩ := List.mem_map.mp h
          have len : (vs.take n).length = n := by
            rw [List.length_take, Nat.min_eq_left (mem_runs.mp hn).1]
          have tiled : Tiles holds slot element place (.multi t :: es) (vs.take n ++ vs.drop n)
              (⟨slot, element, place, (vs.take n).length⟩ :: ns) :=
            .multi (vs.take n) yes (ih (by rwa [len]))
          rwa [List.take_append_drop, len] at tiled
        · simp at h
  · intro h
    induction h with
    | nil => simp [tilings]
    | single yes _ ih =>
      rw [tilings, if_pos yes]
      exact ih
    | @multi element place t es run vs ms yes rest ih =>
      rw [tilings]
      refine List.mem_flatMap.mpr ⟨run.length, mem_runs.mpr ⟨by simp, ?_⟩, ?_⟩
      · have left : (run ++ vs).length - run.length = vs.length := by simp
        rw [left]
        exact rest.fits
      · rw [List.take_left, List.drop_left, if_pos yes]
        exact List.mem_map.mpr ⟨ms, ih, rfl⟩

theorem nodup_tilings (holds : Holds) (slot element place : Nat) (es : List Element)
    (vs : List Value) : (tilings holds slot element place es vs).Nodup := by
  induction es generalizing element place vs with
  | nil => cases vs <;> simp [tilings]
  | cons e es ih =>
    cases e with
    | single t =>
      cases vs with
      | nil => simp [tilings]
      | cons v vs =>
        rw [tilings]
        split
        · exact ih _ _ _
        · exact List.nodup_nil
    | multi t =>
      rw [tilings, List.nodup_flatMap]
      constructor
      · intro n _
        split
        · exact (ih _ _ _).map (List.cons_injective)
        · exact List.nodup_nil
      · refine (nodup_runs es vs.length).imp fun {m n} hne ms hm hn => hne ?_
        -- the first marker tells the runs apart
        have head : ∀ k : Nat, ms ∈ (if holds t (.span (vs.take k)) then
            (tilings holds slot (element + 1) (place + k) es (vs.drop k)).map
              (⟨slot, element, place, k⟩ :: ·) else []) →
            ms.head? = some ⟨slot, element, place, k⟩ := by
          intro k hk
          split at hk
          · obtain ⟨ns, _, rfl⟩ := List.mem_map.mp hk
            rfl
          · simp at hk
        have same := (head m hm).symm.trans (head n hn)
        exact congrArg Marker.length (Option.some.inj same)

end FactBase

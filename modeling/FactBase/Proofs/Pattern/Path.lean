import FactBase.Proofs.Pattern.Tiling

/-!
# Compiled paths

The matches that one compiled path delivers when it is walked by itself, without a tree around it:
the steps of a slot go on where the step before ended, and the first step of a slot checks the
field count. Walking the path of a pattern lists its matches.
-/

namespace FactBase
open PatternTree MatchContext

/-- Walks the steps of a path. `slot` is the slot of the step before and `next` the place after the
fields taken there. -/
def alongPath (holds : Holds) (values : List Value) :
    List PathStep → Option Nat → Nat → List Marker → List (List Marker)
  | [], _, _, markers => [markers]
  | step :: rest, slot, next, markers =>
    match (values[step.shape.slot]?).filter fun v => step.shape.length.all (·.accepts v.fieldCount)
    with
    | none => []
    | some v =>
      let here := some step.shape.slot
      let place := if slot = here then next else 0
      if step.shape.isMulti then
        match v.members? with
        | none => []
        | some members =>
          (runLengths step.shape place members.length).flatMap fun length =>
            if holds step.test (.span ((members.drop place).take length)) then
              alongPath holds values rest here (place + length)
                (markers ++ [⟨step.shape.slot, step.shape.element, place, length⟩])
            else []
      else
        match fieldAt? step.shape v place with
        | none => []
        | some field =>
          if holds step.test (.single field) then
            alongPath holds values rest here (place + 1) markers
          else []

/-- The matches of a slot pattern. -/
def slotMatches (holds : Holds) (template : Template) (values : List Value) (p : SlotPattern) :
    List (List Marker) :=
  match template.slot? p.slot, values[p.slot]? with
  | some slot, some v =>
    if slot.isMulti then
      match v.members? with
      | some members => tilings holds p.slot 0 0 p.elements members
      | none => []
    else match p.elements with
      | [.single t] => if holds t (.single v) then [[]] else []
      | _ => []
  | _, _ => []

/-- The matches of slot patterns one after the other. -/
def allMatches (holds : Holds) (template : Template) (values : List Value) :
    List SlotPattern → List (List Marker)
  | [] => [[]]
  | p :: ps => (slotMatches holds template values p).flatMap fun ms =>
      (allMatches holds template values ps).map (ms ++ ·)

/-- The matches of a pattern on the values of a fact. -/
def Pattern.matchList (holds : Holds) (template : Template) (p : Pattern) (values : List Value) :
    List (List Marker) :=
  allMatches holds template values (p.slots.mergeSort fun a b => a.slot ≤ b.slot)

/-! ### The list of matches has each match once -/

theorem mem_slotMatches {holds : Holds} {template : Template} {values : List Value}
    {p : SlotPattern} {ms : List Marker} :
    ms ∈ slotMatches holds template values p ↔ p.Matches holds template values ms := by
  unfold slotMatches SlotPattern.Matches
  cases hs : template.slot? p.slot with
  | none => simp
  | some slot =>
    cases hv : values[p.slot]? with
    | none => simp
    | some v =>
      by_cases hm : slot.isMulti = true
      · cases v with
        | multifield members => simp [hm, Value.members?, mem_tilings]
        | symbol | string | integer | float => simp [hm, Value.members?]
      · simp only [hm, Bool.false_eq_true, if_false, Option.some.injEq, exists_and_left,
          exists_eq_left']
        constructor
        · intro h
          split at h
          · rename_i t he
            split at h
            · exact ⟨t, he, ‹_›, by simpa using h⟩
            · simp at h
          · simp at h
        · rintro ⟨t, he, yes, rfl⟩
          simp [he, yes]

theorem mem_allMatches {holds : Holds} {template : Template} {values : List Value}
    {ps : List SlotPattern} {ms : List Marker} :
    ms ∈ allMatches holds template values ps ↔ MatchAll holds template values ps ms := by
  induction ps generalizing ms with
  | nil =>
    rw [allMatches, List.mem_singleton]
    constructor
    · rintro rfl
      exact .nil
    · intro h
      cases h
      rfl
  | cons p ps ih =>
    simp only [allMatches, List.mem_flatMap, List.mem_map]
    constructor
    · rintro ⟨first, hf, rest, hr, rfl⟩
      exact .cons (mem_slotMatches.mp hf) (ih.mp hr)
    · intro h
      cases h with
      | cons first rest => exact ⟨_, mem_slotMatches.mpr first, _, ih.mpr rest, rfl⟩

theorem nodup_slotMatches (holds : Holds) (template : Template) (values : List Value)
    (p : SlotPattern) : (slotMatches holds template values p).Nodup := by
  unfold slotMatches
  split
  · split
    · split
      · exact nodup_tilings _ _ _ _ _ _
      · exact List.nodup_nil
    · split
      · split
        · exact List.nodup_singleton _
        · exact List.nodup_nil
      · exact List.nodup_nil
  · exact List.nodup_nil

/-- All matches of a slot pattern have the same number of markers. -/
theorem length_of_mem_slotMatches {holds : Holds} {template : Template} {values : List Value}
    {p : SlotPattern} {ms ns : List Marker} (hm : ms ∈ slotMatches holds template values p)
    (hn : ns ∈ slotMatches holds template values p) : ms.length = ns.length := by
  obtain ⟨slot, v, hs, hv, hm⟩ := mem_slotMatches.mp hm
  obtain ⟨slot', v', hs', hv', hn⟩ := mem_slotMatches.mp hn
  obtain rfl : slot = slot' := Option.some.inj (hs.symm.trans hs')
  split at hm
  · obtain ⟨_, _, tiles⟩ := hm
    obtain ⟨_, _, tiles'⟩ := by simpa only [*, if_true] using hn
    rw [tiles.length_eq, tiles'.length_eq]
  · rename_i single
    obtain ⟨_, _, _, rfl⟩ := hm
    rw [if_neg single] at hn
    obtain ⟨_, _, _, rfl⟩ := hn
    rfl

theorem nodup_allMatches (holds : Holds) (template : Template) (values : List Value)
    (ps : List SlotPattern) : (allMatches holds template values ps).Nodup := by
  induction ps with
  | nil => exact List.nodup_singleton _
  | cons p ps ih =>
    rw [allMatches, List.nodup_flatMap]
    constructor
    · exact fun ms _ => ih.map (List.append_right_injective ms)
    · refine (nodup_slotMatches holds template values p).pairwise_of_forall_ne
        fun ms hm ns hn hne r hr hr' => hne ?_
      obtain ⟨a, _, ha⟩ := List.mem_map.mp hr
      obtain ⟨b, _, hb⟩ := List.mem_map.mp hr'
      exact (List.append_inj (ha.trans hb.symm) (length_of_mem_slotMatches hm hn)).1

namespace Pattern

theorem mem_matchList {holds : Holds} {template : Template} {p : Pattern} {values : List Value}
    {ms : List Marker} :
    ms ∈ p.matchList holds template values ↔ p.Matches holds template values ms :=
  mem_allMatches

theorem nodup_matchList (holds : Holds) (template : Template) (p : Pattern) (values : List Value) :
    (p.matchList holds template values).Nodup :=
  nodup_allMatches _ _ _ _

end Pattern

/-! ### Walking the path of a pattern -/

/-- A node for an element tries the run lengths that suit the elements behind it. -/
theorem runLengths_eq_runs {slot element : Nat} {l : Option SlotLength} (es : List Element)
    {place count : Nat} (inside : place ≤ count) :
    runLengths ⟨slot, element, true, true, es.length - es.countP (·.isMulti),
      es.countP (·.isMulti), l⟩ place count = runs es (count - place) := by
  have behind : es.length - es.countP (·.isMulti) = singles es := by
    have := length_eq_singles_add_multis es
    unfold multis at this
    omega
  unfold runLengths runs
  rw [behind]
  by_cases enough : place + singles es ≤ count
  · have enough' : singles es ≤ count - place := by omega
    rw [if_pos enough, if_pos enough']
    rfl
  · have short : ¬ singles es ≤ count - place := by omega
    simp only [if_neg enough, if_neg short]

theorem accepts_elementLength {es : List Element} {n : Nat} :
    (elementLength es).accepts n = true ↔ Fits es n := by
  have len := length_eq_singles_add_multis es
  have unfolded : elementLength es =
      if singles es = es.length then .exactly (singles es) else .atLeast (singles es) := rfl
  rw [unfolded, Fits]
  split
  · simp only [SlotLength.accepts, beq_iff_eq]
    omega
  · simp only [SlotLength.accepts, decide_eq_true_eq]
    omega

/-- A walk that comes from another slot begins at the front. -/
theorem alongPath_of_ne {holds : Holds} {values : List Value} {step : PathStep}
    {rest : List PathStep} {slot : Option Nat} {next : Nat} {markers : List Marker}
    (other : slot ≠ some step.shape.slot) :
    alongPath holds values (step :: rest) slot next markers =
      alongPath holds values (step :: rest) (some step.shape.slot) 0 markers := by
  simp only [alongPath, other, if_false, if_true]

/-- From any place on, the steps of a multifield slot list the tilings of what is left. -/
theorem alongPath_multiSteps {holds : Holds} {values : List Value} {slot : Nat}
    {length : SlotLength} {members : List Value} (rest : List PathStep)
    (hv : values[slot]? = some (.multifield members)) (accepted : length.accepts members.length)
    {es : List Element} {element place : Nat} {markers : List Marker}
    (inside : place ≤ members.length) (fits : Fits es (members.length - place)) :
    alongPath holds values (multiSteps slot length element es ++ rest) (some slot) place markers =
      (tilings holds slot element place es (members.drop place)).flatMap fun ms =>
        alongPath holds values rest (some slot) members.length (markers ++ ms) := by
  induction es generalizing element place markers with
  | nil =>
    have full : place = members.length := by
      have := fits.2 rfl
      simp only [singles_nil] at this
      omega
    subst full
    simp [multiSteps, tilings]
  | cons e es ih =>
    have checked : (some (Value.multifield members)).filter (fun v =>
        (if element = 0 then some length else none).all (·.accepts v.fieldCount)) =
          some (.multifield members) := by
      refine Option.filter_eq_some_iff.mpr ⟨rfl, ?_⟩
      split
      · exact accepted
      · rfl
    cases e with
    | single t =>
      simp only [Fits, singles_single, multis_single] at fits
      have room : place < members.length := by omega
      simp only [multiSteps, List.cons_append, alongPath, hv, checked,
        Element.isMulti_single, Bool.false_eq_true, if_false, if_true, fieldAt?, Value.members?,
        Option.bind_some, List.getElem?_eq_getElem room, Element.test_single]
      rw [List.drop_eq_getElem_cons room, tilings]
      split
      · exact ih (by omega) ⟨by omega, fun none => by have := fits.2 none; omega⟩
      · rfl
    | multi t =>
      simp only [multiSteps, List.cons_append, alongPath, hv, checked, Element.isMulti_multi,
        if_true, Value.members?, Element.test_multi]
      rw [tilings, List.length_drop, runLengths_eq_runs es inside, List.flatMap_assoc]
      refine List.flatMap_congr fun n hn => ?_
      obtain ⟨least, left⟩ := mem_runs.mp hn
      split
      · rw [List.flatMap_map, List.drop_drop]
        rw [ih (by omega) (by rwa [Nat.sub_sub] at left)]
        simp only [List.append_assoc, List.singleton_append]
      · rfl

theorem tilings_eq_nil {holds : Holds} {slot : Nat} {es : List Element} {members : List Value}
    (h : ¬ Fits es members.length) (element place : Nat) :
    tilings holds slot element place es members = [] := by
  refine List.eq_nil_iff_forall_not_mem.mpr fun ms hms => h ?_
  exact (mem_tilings.mp hms).fits

/-- A step of a multifield slot delivers nothing where there is no multifield of a length that it
accepts. -/
theorem alongPath_eq_nil {holds : Holds} {values : List Value} {step : PathStep}
    {rest : List PathStep} {slot : Option Nat} {next : Nat} {markers : List Marker}
    (inMulti : step.shape.inMultiSlot = true)
    (h : ∀ v, values[step.shape.slot]? = some v →
      step.shape.length.all (·.accepts v.fieldCount) = true → v.members? = none) :
    alongPath holds values (step :: rest) slot next markers = [] := by
  rw [alongPath]
  split
  · rfl
  · rename_i v hv
    obtain ⟨hv, accepted⟩ := Option.filter_eq_some_iff.mp hv
    simp [h v hv accepted, fieldAt?, inMulti]

/-- The steps of a multifield slot deliver its tilings. -/
theorem alongPath_multiSlot {holds : Holds} {values : List Value} {p : SlotPattern}
    {rest : List PathStep} {slot : Option Nat} {next : Nat} {markers : List Marker}
    {after : List (List Marker)} (nonempty : p.elements ≠ []) (other : slot ≠ some p.slot)
    (behind : ∀ next ms, alongPath holds values rest (some p.slot) next ms =
      after.map (ms ++ ·)) :
    alongPath holds values
        (multiSteps p.slot (elementLength p.elements) 0 p.elements ++ rest) slot next markers =
      (match (values[p.slot]?).bind Value.members? with
        | some members => tilings holds p.slot 0 0 p.elements members
        | none => []).flatMap fun ms => after.map ((markers ++ ms) ++ ·) := by
  obtain ⟨e, es, he⟩ := List.exists_cons_of_ne_nil nonempty
  have nothing (none : ∀ members, values[p.slot]? = some (.multifield members) →
      ¬ Fits p.elements members.length) : alongPath holds values
        (multiSteps p.slot (elementLength p.elements) 0 p.elements ++ rest) slot next markers =
          [] := by
    have refused : ∀ members, values[p.slot]? = some (.multifield members) →
        ¬ (elementLength p.elements).accepts members.length = true :=
      fun members hm => accepts_elementLength.not.mpr (none members hm)
    generalize elementLength p.elements = length at refused ⊢
    rw [he, multiSteps, List.cons_append]
    refine alongPath_eq_nil rfl fun v hv accepted => ?_
    cases v with
    | multifield members => exact absurd accepted (refused members hv)
    | symbol | string | integer | float => rfl
  cases hv : (values[p.slot]?).bind Value.members? with
  | none => exact nothing fun members hm => by simp [hm, Value.members?] at hv
  | some members =>
    obtain ⟨v, hs, hm⟩ := Option.bind_eq_some_iff.mp hv
    obtain rfl : v = .multifield members := by
      cases v <;> simp_all [Value.members?]
    by_cases fits : Fits p.elements members.length
    · have start : alongPath holds values
          (multiSteps p.slot (elementLength p.elements) 0 p.elements ++ rest) slot next markers =
          alongPath holds values (multiSteps p.slot (elementLength p.elements) 0 p.elements ++ rest)
            (some p.slot) 0 markers := by
        rw [he]
        exact alongPath_of_ne other
      rw [start, alongPath_multiSteps rest hs (accepts_elementLength.mpr fits) (Nat.zero_le _)
        (by simpa using fits)]
      simp only [List.drop_zero, behind]
    · rw [nothing fun ns hn => by cases hs.symm.trans hn; exact fits]
      simp only [tilings_eq_nil fits, List.flatMap_nil]

/-- The step of a single-field slot delivers one match, without markers, if its test holds. -/
theorem alongPath_singleSlot {holds : Holds} {values : List Value} {position : Nat}
    {t : FieldTest} {rest : List PathStep} {slot : Option Nat} {next : Nat}
    {markers : List Marker} {after : List (List Marker)}
    (behind : ∀ next ms, alongPath holds values rest (some position) next ms =
      after.map (ms ++ ·)) :
    alongPath holds values (⟨{ slot := position }, t⟩ :: rest) slot next markers =
      (if (values[position]?).any fun v => holds t (.single v) then [[]] else []).flatMap
        fun ms => after.map ((markers ++ ms) ++ ·) := by
  rw [alongPath]
  cases hv : values[position]? with
  | none => rfl
  | some v =>
    by_cases yes : holds t (.single v) = true
    · simp [Option.filter, fieldAt?, yes, behind]
    · simp [Option.filter, fieldAt?, yes]

theorem slotMatches_multi {holds : Holds} {template : Template} {values : List Value}
    {p : SlotPattern} {definition : Slot} (defined : template.slot? p.slot = some definition)
    (multi : definition.isMulti = true) :
    slotMatches holds template values p =
      match (values[p.slot]?).bind Value.members? with
      | some members => tilings holds p.slot 0 0 p.elements members
      | none => [] := by
  rw [slotMatches, defined]
  cases values[p.slot]? with
  | none => rfl
  | some v => simp only [multi, if_true, Option.bind_some]

theorem slotMatches_single {holds : Holds} {template : Template} {values : List Value}
    {p : SlotPattern} {definition : Slot} {t : FieldTest}
    (defined : template.slot? p.slot = some definition) (multi : definition.isMulti = false)
    (he : p.elements = [.single t]) :
    slotMatches holds template values p =
      if (values[p.slot]?).any fun v => holds t (.single v) then [[]] else [] := by
  rw [slotMatches, defined]
  cases values[p.slot]? with
  | none => rfl
  | some v => simp only [multi, Bool.false_eq_true, if_false, he, Option.any_some]

/-- The steps of slot patterns deliver their matches, whatever slot was walked before. -/
theorem alongPath_stepsFrom {holds : Holds} {template : Template} {values : List Value}
    {ps : List SlotPattern} {slot : Option Nat} {path : List PathStep} {next : Nat}
    {markers : List Marker} (compiled : stepsFrom template slot ps = .ok path) :
    alongPath holds values path slot next markers =
      (allMatches holds template values ps).map (markers ++ ·) := by
  induction ps generalizing slot path next markers with
  | nil =>
    obtain rfl := Except.ok.inj compiled
    simp [alongPath, allMatches]
  | cons p ps ih =>
    rw [stepsFrom] at compiled
    split at compiled
    · cases compiled
    · rename_i definition defined
      split at compiled
      · cases compiled
      · rename_i apart
        have other : slot ≠ some p.slot := by simpa using apart
        cases hs : slotSteps definition p with
        | error e => rw [hs] at compiled; cases compiled
        | ok steps =>
          cases hr : stepsFrom template (some p.slot) ps with
          | error e => rw [hs, hr] at compiled; cases compiled
          | ok rest =>
            rw [hs, hr] at compiled
            obtain rfl := Except.ok.inj compiled
            have behind (next : Nat) (ms : List Marker) :
                alongPath holds values rest (some p.slot) next ms =
                  (allMatches holds template values ps).map (ms ++ ·) := ih hr
            have joined : (allMatches holds template values (p :: ps)).map (markers ++ ·) =
                (slotMatches holds template values p).flatMap fun ms =>
                  (allMatches holds template values ps).map ((markers ++ ms) ++ ·) := by
              simp only [allMatches, List.map_flatMap, List.map_map, Function.comp_def,
                List.append_assoc]
            rw [joined]
            unfold slotSteps at hs
            split at hs
            · rename_i multi
              split at hs
              · cases hs
              · rename_i nonempty
                obtain rfl := Except.ok.inj hs
                rw [slotMatches_multi defined multi]
                exact alongPath_multiSlot (by simpa using nonempty) other behind
            · rename_i single
              split at hs
              · rename_i t he
                obtain rfl := Except.ok.inj hs
                rw [slotMatches_single defined (by simpa using single) he]
                exact alongPath_singleSlot behind
              · cases hs

/-- The path of a pattern lists exactly the matches of the pattern. -/
theorem alongPath_compile {holds : Holds} {template : Template} {values : List Value}
    {p : Pattern} {path : List PathStep} (compiled : compile template p = .ok path) :
    alongPath holds values path none 0 [] = p.matchList holds template values := by
  rw [alongPath_stepsFrom compiled]
  simp [Pattern.matchList]

end FactBase

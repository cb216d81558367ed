import FactBase.Proofs.Query.Isolation

/-!
# The bindings of a query

A query ranges over the cartesian product of the asserted facts of its variables. As long as nothing
changes and no halt is requested, the search through the levels comes to going through the bindings
one after the other, in lexicographic order.
-/

namespace FactBase.Query

open Store Process

variable {N ρ ν α β : Type} {w : World N ρ ν} {s s' : Store N}

/-! ### Bindings -/

/-- The asserted facts that a variable ranges over. -/
def candidates (s : Store N) (x : Restriction) : List Handle :=
  (x.templates.flatMap fun name => ((s.templates.find? name).elim [] s.templateFacts)).filter
    s.isAsserted

/-- All bindings in lexicographic order. -/
def bindings (s : Store N) : List Restriction → List Binding
  | [] => [[]]
  | x :: deeper => (candidates s x).flatMap fun h => (bindings s deeper).map ((x.name, h) :: ·)

/-- A query binds at least one variable, each once and each to facts of defined templates. -/
structure WellFormed (r : TemplateRegistry) (restrictions : List Restriction) : Prop where
  binds : restrictions ≠ []
  once : (restrictions.map (·.name)).Nodup
  ranged : ∀ x ∈ restrictions, x.templates ≠ []
  defined : ∀ x ∈ restrictions, ∀ name ∈ x.templates, (r.find? name).isSome = true

def level (r : TemplateRegistry) (x : Restriction) : Level := (x.name, x.templates.filterMap r.find?)

section Compile

variable {r : TemplateRegistry}

theorem findTemplates_eq_ok {names : List String}
    (defined : ∀ name ∈ names, (r.find? name).isSome = true) :
    findTemplates r names = .ok (names.filterMap r.find?) := by
  induction names with
  | nil => rfl
  | cons name names ih =>
    obtain ⟨t, found⟩ := Option.isSome_iff_exists.mp (defined name List.mem_cons_self)
    rw [findTemplates, found, List.filterMap_cons_some found,
      ih fun other inside => defined other (List.mem_cons_of_mem _ inside)]
    rfl

theorem compileLevels_eq_ok {seen : List String} {restrictions : List Restriction}
    (once : (restrictions.map (·.name)).Nodup)
    (unseen : ∀ x ∈ restrictions, x.name ∉ seen)
    (ranged : ∀ x ∈ restrictions, x.templates ≠ [])
    (defined : ∀ x ∈ restrictions, ∀ name ∈ x.templates, (r.find? name).isSome = true) :
    compileLevels r seen restrictions = .ok (restrictions.map (level r)) := by
  induction restrictions generalizing seen with
  | nil => rfl
  | cons x rest ih =>
    obtain ⟨new, once⟩ := List.nodup_cons.mp once
    have deeper : compileLevels r (x.name :: seen) rest = .ok (rest.map (level r)) := by
      refine ih once (fun y inside twice => ?_)
        (fun y inside => ranged y (List.mem_cons_of_mem _ inside))
        fun y inside => defined y (List.mem_cons_of_mem _ inside)
      rcases List.mem_cons.mp twice with same | before
      · exact new (List.mem_map.mpr ⟨y, inside, same⟩)
      · exact unseen y (List.mem_cons_of_mem _ inside) before
    rw [compileLevels, if_neg fun here => unseen x List.mem_cons_self (List.contains_iff_mem.mp here),
      if_neg fun none => ranged x List.mem_cons_self (List.isEmpty_iff.mp none),
      findTemplates_eq_ok (defined x List.mem_cons_self), deeper]
    rfl

theorem WellFormed.compile {restrictions : List Restriction} (wellFormed : WellFormed r restrictions) :
    compile r restrictions = .ok (restrictions.map (level r)) := by
  rw [Query.compile, if_neg fun none => wellFormed.binds (List.isEmpty_iff.mp none)]
  exact compileLevels_eq_ok wellFormed.once (fun _ _ => List.not_mem_nil) wellFormed.ranged
    wellFormed.defined

end Compile

theorem candidates_eq (s : Store N) (x : Restriction) :
    candidates s x = ((level s.templates x).2.flatMap s.templateFacts).filter s.isAsserted := by
  unfold candidates level
  congr 1
  induction x.templates with
  | nil => rfl
  | cons name names ih =>
    rw [List.flatMap_cons, ih]
    cases found : s.templates.find? name with
    | none => rw [List.filterMap_cons_none found, Option.elim_none, List.nil_append]
    | some t => rw [List.filterMap_cons_some found, List.flatMap_cons, Option.elim_some]

theorem allAsserted_of_mem_bindings {restrictions : List Restriction} {b : Binding}
    (inside : b ∈ bindings s restrictions) : allAsserted s b = true := by
  induction restrictions generalizing b with
  | nil =>
    rw [List.mem_singleton.mp inside]
    rfl
  | cons x deeper ih =>
    obtain ⟨h, candidate, bound⟩ := List.mem_flatMap.mp inside
    obtain ⟨rest, listed, rfl⟩ := List.mem_map.mp bound
    rw [allAsserted, List.all_cons, (List.mem_filter.mp candidate).2, Bool.true_and]
    exact ih listed

/-! ### One binding after the other -/

/-- Tries bindings one after the other until a visit ends the search. -/
def sweep (test : Test N ρ ν) (visit : Visit N ρ ν β) :
    List Binding → β → Process N ρ ν (Except QueryError (β × Flow))
  | [], b => return .ok (b, .onward)
  | bound :: rest, b => do
    match ← descend test visit [] bound b with
    | .ok (b, .onward) => sweep test visit rest b
    | result => return result

/-- Neither is a halt requested nor will one be from outside. -/
structure Unhalted (s : Store N) : Prop where
  halted : s.isHalted = false
  interrupts : s.probe.interrupts = []

/-- The fact base is as it was, and a search that goes on does so on the same level. -/
def Stays (s : Store N) (r : Except QueryError (β × Flow)) (w : World N ρ ν) : Prop :=
  w.store = s ∧ ∀ b, r ≠ .ok (b, .leave)

section Sweep

variable {test : Test N ρ ν} {visit : Visit N ρ ν β}

theorem sweep_append (xs ys : List Binding) (b : β) :
    sweep test visit (xs ++ ys) b = (do
      match ← sweep test visit xs b with
      | .ok (b, .onward) => sweep test visit ys b
      | result => return result) := by
  induction xs generalizing b with
  | nil =>
    rw [List.nil_append, sweep, pure_bind]
  | cons x xs ih =>
    rw [List.cons_append, sweep, sweep, bind_assoc]
    congr 1
    funext r
    split
    · exact ih _
    · rename_i other
      rw [pure_bind]
      split
      · exact absurd rfl (other _)
      · rfl

/-- Where no halt is requested, looking for one changes nothing. -/
theorem pollHalt_eq (unhalted : Unhalted w.store) : pollHalt w = .ok false w := by
  have polled : w.store.probe.poll = (false, w.store.probe) := by
    rw [Probe.poll, unhalted.interrupts]
    exact congrArg (·, w.store.probe) unhalted.halted
  change EStateM.Result.ok w.store.probe.poll.1
    { w with store := { w.store with probe := w.store.probe.poll.2 } } = _
  rw [polled]

variable {bound : Binding} {d : Handle → β → Process N ρ ν (Except QueryError (β × Flow))}

/-- Candidates are tried one after the other, each with the bindings that go on from it. -/
theorem agree_tryFacts_sweep (unhalted : Unhalted s) (outer : allAsserted s bound = true)
    {further : Handle → List Binding}
    (deeper : ∀ h b w, s.isAsserted h = true → w.store = s →
      Agree (d h b) (sweep test visit (further h) b) w (Stays s))
    (hs : List Handle) {b : β} (same : w.store = s) :
    Agree (tryFacts bound d hs b) (sweep test visit ((hs.filter s.isAsserted).flatMap further) b) w
      (Stays s) := by
  induction hs generalizing w b with
  | nil => exact agree_pure ⟨same, fun _ left => nomatch left⟩
  | cons h rest ih =>
    unfold tryFacts
    refine agree_left (bind_of_ok (pollHalt_eq (same ▸ unhalted)) _) ?_
    rw [if_neg Bool.false_ne_true]
    refine agree_left (p := getStore >>= _) (getStore_bind _) ?_
    rw [same, outer, Bool.not_true, if_neg Bool.false_ne_true]
    by_cases asserted : s.isAsserted h = true
    · rw [asserted, Bool.not_true, if_neg Bool.false_ne_true, List.filter_cons_of_pos asserted,
        List.flatMap_cons, sweep_append]
      obtain ⟨first, stays⟩ := deeper h b w asserted same
      refine agree_bind ⟨first, ensures_mono stays fun r w' stays => ?_⟩
      cases r with
      | error e => exact agree_pure stays
      | ok x =>
        obtain ⟨b', flow⟩ := x
        cases flow with
        | onward => exact ih stays.1
        | leave => exact absurd rfl (stays.2 b')
        | stop => exact agree_pure stays
    · rw [Bool.eq_false_iff.mpr asserted, Bool.not_false, if_pos rfl,
        List.filter_cons_of_neg asserted]
      exact ih same

theorem agree_tryTemplates_sweep (unhalted : Unhalted s) (outer : allAsserted s bound = true)
    {further : Handle → List Binding}
    (deeper : ∀ h b w, s.isAsserted h = true → w.store = s →
      Agree (d h b) (sweep test visit (further h) b) w (Stays s))
    (ts : List TemplateId) {b : β} (same : w.store = s) :
    Agree (tryTemplates bound d ts b)
      (sweep test visit (((ts.flatMap s.templateFacts).filter s.isAsserted).flatMap further) b) w
      (Stays s) := by
  induction ts generalizing w b with
  | nil => exact agree_pure ⟨same, fun _ left => nomatch left⟩
  | cons t rest ih =>
    unfold tryTemplates
    refine agree_left (p := getStore >>= _) (getStore_bind _) ?_
    rw [same, List.flatMap_cons, List.filter_append, List.flatMap_append, sweep_append]
    obtain ⟨first, stays⟩ := agree_tryFacts_sweep unhalted outer deeper (s.templateFacts t) same
    refine agree_bind ⟨first, ensures_mono stays fun r w' stays => ?_⟩
    cases r with
    | error e => exact agree_pure stays
    | ok x =>
      obtain ⟨b', flow⟩ := x
      cases flow with
      | onward => exact ih stays.1
      | leave => exact absurd rfl (stays.2 b')
      | stop => exact agree_pure stays

/-- A search through levels comes to going through the bindings that go on from what is bound. -/
theorem agree_descend_sweep (unhalted : Unhalted s)
    (settles : ∀ bound b w, allAsserted s bound = true → w.store = s →
      Ensures (descend test visit [] bound b) w (Stays s) fun _ => True)
    (restrictions : List Restriction) (outer : Binding) (asserted : allAsserted s outer = true)
    {b : β} (same : w.store = s) :
    Agree (descend test visit (restrictions.map (level s.templates)) outer b)
      (sweep test visit ((bindings s restrictions).map (outer ++ ·)) b) w (Stays s) := by
  induction restrictions generalizing outer w b with
  | nil =>
    have once : sweep test visit [outer] b = descend test visit [] outer b >>= pure := by
      rw [sweep]
      congr 1
      funext r
      split <;> rfl
    rw [List.map_nil, bindings, List.map_singleton, List.append_nil, once, bind_pure]
    exact agree_self (settles outer b w asserted same)
  | cons x rest ih =>
    rw [List.map_cons, descend, bindings, candidates_eq, List.map_flatMap]
    refine agree_tryTemplates_sweep unhalted asserted (fun h b w holds same => ?_) _ same
    have further : allAsserted s (outer ++ [(x.name, h)]) = true := by
      rw [allAsserted, List.all_append, ← allAsserted, asserted]
      simpa using holds
    change Agree (descend _ _ _ (outer ++ [(x.name, h)]) b) _ _ _
    simpa [Function.comp_def] using ih _ further (b := b) same

theorem search_eq_sweep {restrictions : List Restriction} (unhalted : Unhalted w.store)
    (wellFormed : WellFormed w.store.templates restrictions)
    (settles : ∀ bound b w', allAsserted w.store bound = true → w'.store = w.store →
      Ensures (descend test visit [] bound b) w' (Stays w.store) fun _ => True) (start : β) :
    search test visit restrictions start w =
      (sweep test visit (bindings w.store restrictions) start >>= fun r => pure (r.map (·.1))) w := by
  unfold search
  refine (agree_left (Q := fun _ _ => True) (p := getStore >>= _) (getStore_bind _) ?_).1
  rw [wellFormed.compile]
  have swept := agree_descend_sweep unhalted settles restrictions [] rfl (b := start) (w := w) rfl
  simp only [List.nil_append, List.map_id'] at swept
  refine agree_bind ⟨swept.1, ensures_mono swept.2 fun r w' _ => ?_⟩
  cases r <;> exact agree_pure trivial

end Sweep

end FactBase.Query

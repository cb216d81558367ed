import FactBase.Proofs.Store.Templates

/-!
# Ordered facts

An ordered fact has one field, which holds its members. The template of its relation is defined on
first use, or it is found among the implied ones. What was defined as implied need not have one slot
only, and a fact of such a relation cannot be made; apart from this, the request is refused or the
fact is made. A fact that is freed right after it was made leaves the template behind if it was made
for it.
-/

namespace FactBase

/-! ### A value put away and taken out -/

/-- Storage from which a new value is taken out again holds what it held before. -/
theorem Arena.taken_back {α : Type} {a b c : Arena α} {h : Handle} {x y : α} (tidy : a.Tidy)
    (new : a.insert x = (h, b)) (gone : b.remove? h = some (y, c)) :
    (∀ k, c.get? k = a.get? k) ∧ c.size = a.size := by
  obtain ⟨fresh, tidy', stored⟩ := insert_spec tidy new
  obtain ⟨-, -, left⟩ := remove?_spec tidy' gone
  constructor
  · intro k
    rw [left, stored]
    by_cases here : k = h
    · rw [if_pos here, here, fresh]
    · rw [if_neg here, if_neg here]
  · have taken : c.size = b.size - 1 := by
      unfold remove? at gone
      split at gone
      · obtain ⟨-, rfl⟩ := Prod.mk.inj (Option.some.inj gone)
        rfl
      · cases gone
    have put : b.size = a.size + 1 := by
      unfold insert at new
      split at new
      · obtain ⟨-, rfl⟩ := Prod.mk.inj new
        rfl
      · obtain ⟨-, rfl⟩ := Prod.mk.inj new
        rfl
    omega

/-! ### The template of a relation -/

namespace TemplateRegistry

variable {r r' : TemplateRegistry} {id : TemplateId} {relation : String}

/-- The registry with one more template, of the ordered facts of a relation. -/
def enter (r : TemplateRegistry) (relation : String) : TemplateRegistry :=
  { r with
    entries := r.entries ++ [{ id := ⟨r.nextId⟩, template := .implied relation r.currentModule }]
    nextId := r.nextId + 1 }

/-- Every implied template has one slot. -/
def Ordinary (r : TemplateRegistry) : Prop :=
  ∀ x ∈ r.catalogue, x.2.isImplied = true → x.2.arity = 1

/-- A user who comes and goes leaves no trace. -/
theorem decrementBusy_of_incrementBusy {r'' : TemplateRegistry}
    (counted : r.incrementBusy id = .ok r') (given : r'.decrementBusy id = .ok r'') : r'' = r := by
  unfold incrementBusy at counted
  unfold decrementBusy at given
  split at counted
  swap
  · cases counted
  obtain rfl := Except.ok.inj counted
  split at given
  · cases given
  · split at given
    · cases given
    · obtain rfl := Except.ok.inj given
      have same : ((r.update id fun e => { e with busy := e.busy + 1 }).update id
          fun e => { e with busy := e.busy - 1 }).entries = r.entries := by
        rw [update, update, List.map_map]
        refine (List.map_congr_left fun e _ => ?_).trans (List.map_id _)
        by_cases here : e.id = id
        · subst here
          simp
        · simp [here]
      exact congrArg (fun entries => { r with entries }) same

theorem incrementBusy_of_known (known : (r.entryOf? id).isSome = true) :
    ∃ r', r.incrementBusy id = .ok r' := ⟨_, if_pos known⟩

theorem impliedTemplate_of_known {e : TemplateEntry} (named : r.byName? relation = some e)
    (implied : e.template.isImplied = true) : r.impliedTemplate relation = .ok (e.id, r) := by
  unfold impliedTemplate
  rw [named]
  exact if_pos implied

/-- The template of a relation is found, or entered if the name is free. -/
theorem impliedTemplate_cases (done : r.impliedTemplate relation = .ok (id, r')) :
    (∃ e, r.byName? relation = some e ∧ e.template.isImplied = true ∧ id = e.id ∧ r' = r) ∨
      r.byName? relation = none ∧ id = ⟨r.nextId⟩ ∧ r' = r.enter relation := by
  obtain found | ⟨free, defined⟩ := impliedTemplate_eq_ok done
  · exact .inl found
  · obtain ⟨-, -, -, rfl, rfl⟩ := define_eq_ok defined
    exact .inr ⟨free, rfl, rfl⟩

/-- A template found by its name is known by its number. -/
theorem get?_of_byName? (once : (r.entries.map (·.id)).Nodup) {e : TemplateEntry}
    (named : r.byName? relation = some e) :
    r.entryOf? e.id = some e ∧ r.get? e.id = some e.template ∧ e.template.name = relation := by
  have listed := List.mem_of_find?_eq_some named
  refine ⟨find?_eq_some_of_nodup once listed rfl, ?_, by simpa using List.find?_some named⟩
  exact get?_of_mem_catalogue once (x := (e.id, e.template)) (mem_catalogue.mpr ⟨e, listed, rfl, rfl⟩)

/-- What is entered gets a number of its own. -/
theorem get?_enter (issued : ∀ id ∈ r.entries.map (·.id), id.number < r.nextId)
    (relation : String) : ((r.enter relation).entryOf? ⟨r.nextId⟩).isSome = true ∧
      (r.enter relation).get? ⟨r.nextId⟩ = some (.implied relation r.currentModule) := by
  have unused : r.entries.find? (·.id == ⟨r.nextId⟩) = none := by
    refine List.find?_eq_none.mpr fun e listed same => ?_
    have below := issued e.id (List.mem_map_of_mem listed)
    rw [beq_iff_eq.mp same] at below
    exact Nat.lt_irrefl _ below
  have found : (r.enter relation).entryOf? ⟨r.nextId⟩ =
      some { id := ⟨r.nextId⟩, template := .implied relation r.currentModule } := by
    rw [entryOf?, enter, List.find?_append, unused]
    simp
  rw [TemplateRegistry.get?, found]
  exact ⟨rfl, rfl⟩

end TemplateRegistry

/-! ### Making an ordered fact -/

namespace Store
open TemplateRegistry

variable {N : Type} {s s' u : Store N} {relation : String} {values : List Value} {h : Handle}

/-- An ordered fact has been made: an unattached one of the relation's template, with one field in
which its members stand, as many fields as the template has slots. -/
structure MadeOrdered (relation : String) (values : List Value) (h : Handle) (s s' : Store N) :
    Prop where
  fresh : s.get? h = none
  others : ∀ k, k ≠ h → s'.get? k = s.get? k
  made : ∃ f, s'.get? h = some f ∧ f.isUnattached = true ∧ f.values = [.multifield values] ∧
    f.values.length = f.template.arity ∧ f.template.name = relation ∧
    f.template.isImplied = true ∧ s'.templates.get? f.templateId = some f.template

/-- The relation belongs to an implied template that has not one slot. -/
def Misfit (s : Store N) (relation : String) : Prop :=
  ∃ e, s.templates.byName? relation = some e ∧ e.template.isImplied = true ∧ e.template.arity ≠ 1

/-- No relation is a misfit where every implied template has one slot. -/
theorem not_misfit_of_ordinary (ordinary : s.templates.Ordinary) (relation : String) :
    ¬ s.Misfit relation := by
  rintro ⟨e, named, implied, misfit⟩
  exact misfit (ordinary (e.id, e.template)
    (mem_catalogue.mpr ⟨e, List.mem_of_find?_eq_some named, rfl, rfl⟩) implied)

/-- The template that a relation comes by, which is counted. -/
theorem incrementBusy_of_implied (tallied : s.Tallied) {id : TemplateId}
    {templates : TemplateRegistry}
    (done : s.templates.impliedTemplate relation = .ok (id, templates)) :
    ∃ template templates', templates.get? id = some template ∧ template.name = relation ∧
      template.isImplied = true ∧ (template.arity ≠ 1 → s.Misfit relation) ∧
      templates.incrementBusy id = .ok templates' := by
  obtain ⟨e, named, implied, rfl, rfl⟩ | ⟨free, rfl, rfl⟩ := impliedTemplate_cases done
  · obtain ⟨found, known, name⟩ := get?_of_byName? tallied.once named
    obtain ⟨templates', counted⟩ := incrementBusy_of_known (Option.isSome_of_eq_some found)
    exact ⟨e.template, templates', known, name, implied,
      fun misfit => ⟨e, named, implied, misfit⟩, counted⟩
  · obtain ⟨found, known⟩ := get?_enter tallied.issued relation
    obtain ⟨templates', counted⟩ := incrementBusy_of_known found
    exact ⟨_, templates', known, rfl, rfl, fun misfit => absurd rfl misfit, counted⟩

/-- Only for a misfit an ordered fact cannot be made. -/
theorem createOrdered_eq_error_iff (tallied : s.Tallied) {b : Breach} :
    s.createOrdered relation values = .error b ↔
      ∃ e, s.templates.byName? relation = some e ∧ e.template.isImplied = true ∧
        e.template.arity ≠ 1 ∧ b = .arityMismatch 1 relation e.template.arity := by
  constructor
  · intro failed
    unfold createOrdered at failed
    split at failed
    · cases failed
    · rename_i id templates done
      dsimp only at failed
      obtain ⟨template, templates', known, name, implied, misfits, counted⟩ :=
        incrementBusy_of_implied tallied done
      rw [known] at failed
      dsimp only at failed
      by_cases fits : template.arity = 1
      · obtain ⟨k, v, created⟩ := createWith_of_counted (s := { s with templates }) counted
          (show [(⟨.multifield values, .own⟩ : Field)].length = template.arity from fits.symm)
        rw [created] at failed
        cases failed
      · obtain ⟨e, named, implied', misfit⟩ := misfits fits
        rw [impliedTemplate_of_known named implied'] at done
        obtain ⟨rfl, rfl⟩ := Prod.mk.inj (Except.ok.inj done)
        obtain ⟨-, known', -⟩ := get?_of_byName? tallied.once named
        obtain rfl := Option.some.inj (known.symm.trans known')
        rw [createWith, if_pos fun same => fits same.symm] at failed
        obtain rfl := Except.error.inj failed
        exact ⟨e, named, implied, misfit, by rw [name]; rfl⟩
  · rintro ⟨e, named, implied, misfit, rfl⟩
    obtain ⟨-, known, name⟩ := get?_of_byName? tallied.once named
    unfold createOrdered
    rw [impliedTemplate_of_known named implied]
    dsimp only
    rw [known]
    dsimp only
    rw [createWith, if_pos fun same => misfit same.symm, name]
    rfl

theorem MadeOrdered.of_done (sound : s.Sound) (tallied : s.Tallied)
    (done : s.createOrdered relation values = .ok (.ok h, s')) :
    s.MadeOrdered relation values h s' := by
  obtain ⟨_, -, refused, -⟩ | ⟨id, templates, template, h', implied, created, same, known⟩ :=
    createOrdered_eq_ok done
  · cases refused
  · obtain rfl := Except.ok.inj same
    obtain ⟨template', -, known', name, isImplied, -, -⟩ := incrementBusy_of_implied tallied implied
    obtain rfl := Option.some.inj (known.symm.trans known')
    have defined : Quiet [] s { s with templates } := .unchanged
    obtain ⟨-, fresh, found⟩ := createWith_spec (sound.quiet defined) created
    have fits := createWith_arity created
    obtain ⟨templates', facts, counted, inserted, rfl⟩ := createWith_eq_ok created
    obtain ⟨-, -, stored⟩ := Arena.insert_spec sound.tidy inserted
    refine ⟨fresh, fun k other => (stored k).trans (if_neg other), _, found, rfl, rfl, fits, name,
      isImplied, ?_⟩
    have listed : (id, template) ∈ templates'.catalogue := by
      rw [(sameRoster_incrementBusy counted).catalogue]
      exact mem_catalogue_of_get? known
    refine get?_of_mem_catalogue (r := templates') ?_ listed
    rw [(sameTemplates_incrementBusy counted).ids]
    obtain ⟨e, -, -, rfl, rfl⟩ | ⟨-, rfl, rfl⟩ := impliedTemplate_cases implied
    · exact tallied.once
    · rw [enter, List.map_append, List.nodup_append]
      refine ⟨tallied.once, List.nodup_singleton _, fun k inside k' last same => ?_⟩
      have below := tallied.issued k inside
      rw [same, List.mem_singleton.mp last] at below
      exact Nat.lt_irrefl _ below

/-! ### Giving it up again -/

/-- Nothing has changed but templates and the count of refusals. -/
structure Undone (s s' : Store N) : Prop where
  facts : ∀ h, s'.get? h = s.get? h
  size : s'.facts.size = s.facts.size
  rest : s' = { s with
    facts := s'.facts
    templates := s'.templates
    counters := { s.counters with guardRejections := s'.counters.guardRejections } }
  refusals : s.counters.guardRejections ≤ s'.counters.guardRejections

theorem Undone.refl (s : Store N) : s.Undone s := ⟨fun _ => rfl, rfl, rfl, Nat.le_refl _⟩

/-- An ordered fact that goes as soon as it was made takes everything with it but a template that was
made for it. -/
theorem undone_of_free (tidy : s.facts.Tidy)
    (done : s.createOrdered relation values = .ok (.ok h, u)) {refusals : Nat}
    (freed : { u with counters := { u.counters with
      guardRejections := u.counters.guardRejections + refusals } }.free h = .ok s') :
    s.Undone s' ∧ ∃ id, s.templates.impliedTemplate relation = .ok (id, s'.templates) := by
  obtain ⟨_, -, refused, -⟩ | ⟨id, templates, template, h', implied, created, same, -⟩ :=
    createOrdered_eq_ok done
  · cases refused
  · obtain rfl := Except.ok.inj same
    obtain ⟨templates', facts, counted, inserted, rfl⟩ := createWith_eq_ok created
    obtain ⟨f, facts', atoms, templates'', removed, given, back, rfl⟩ := free_eq_ok freed
    obtain ⟨fresh, tidy', stored⟩ := Arena.insert_spec tidy inserted
    obtain ⟨found, -, -⟩ := Arena.remove?_spec tidy' removed
    rw [stored, if_pos rfl] at found
    obtain rfl := Option.some.inj found
    obtain rfl : s.atoms = atoms := Except.ok.inj given
    obtain rfl := decrementBusy_of_incrementBusy counted back
    obtain ⟨names, size⟩ := Arena.taken_back tidy inserted removed
    exact ⟨⟨names, size, rfl, Nat.le_add_right _ _⟩, id, implied⟩

end Store

end FactBase

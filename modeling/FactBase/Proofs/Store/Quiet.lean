import FactBase.Proofs.Basic
import FactBase.Proofs.Store.Consistent
import FactBase.Store.Patterns

/-!
# Operations that attach and detach nothing

Making, filling and freeing unattached facts, pins, matching and replays change nothing that lists,
index and garbage list record. Each operation also leaves alone every unattached fact it was not
given.
-/

namespace FactBase.Store

variable {N : Type} {s s' s'' : Store N}

/-- The unattached facts apart from some stay as they are, and facts hash as before. -/
structure Leaves (except : List Handle) (s s' : Store N) : Prop where
  facts : ∀ r f, s.get? r = some f → f.isUnattached = true → r ∉ except → s'.get? r = some f
  contentHash : s'.contentHash = s.contentHash := by rfl

theorem Leaves.refl (s : Store N) : Leaves [] s s := ⟨fun _ _ hf _ _ => hf, rfl⟩

theorem Leaves.trans {es fs : List Handle} (first : Leaves es s s') (second : Leaves fs s' s'') :
    Leaves (es ++ fs) s s'' := by
  refine ⟨fun r f hf unattached outside => ?_, second.contentHash.trans first.contentHash⟩
  rw [List.mem_append, not_or] at outside
  exact second.facts r f (first.facts r f hf unattached outside.1) unattached outside.2

theorem Leaves.mono {es fs : List Handle} (leaves : Leaves es s s') (more : es ⊆ fs) :
    Leaves fs s s' :=
  ⟨fun r f hf unattached outside => leaves.facts r f hf unattached fun inside =>
    outside (more inside), leaves.contentHash⟩

theorem Alike.trans (first : s.Alike s') (second : s'.Alike s'') : s.Alike s'' where
  facts h := by
    rcases first.facts h with ⟨f, g, hf, hg, like⟩ | ⟨before, after⟩
    · rcases second.facts h with ⟨g', k, hg', hk, like'⟩ | ⟨before', after'⟩
      · rw [hg] at hg'
        obtain rfl := Option.some.inj hg'
        refine .inl ⟨f, k, hf, hk, like.index.trans like'.index,
          like.isGarbage.trans like'.isGarbage, like.global.trans like'.global,
          like.inTemplate.trans like'.inTemplate, like.hash.trans like'.hash,
          like.templateId.trans like'.templateId, like.values.trans like'.values⟩
      · refine .inr ⟨fun f' hf' => ?_, after'⟩
        rw [hf] at hf'
        obtain rfl := Option.some.inj hf'
        rw [like.isUnattached]
        exact before' g hg
    · rcases second.facts h with ⟨g, k, hg, hk, like⟩ | ⟨_, after'⟩
      · refine .inr ⟨before, fun k' hk' => ?_⟩
        rw [hk] at hk'
        obtain rfl := Option.some.inj hk'
        rw [← like.isUnattached]
        exact after g hg
      · exact .inr ⟨before, after'⟩
  tidy tidy := second.tidy (first.tidy tidy)
  global := second.global.trans first.global
  lists t := (second.lists t).trans (first.lists t)
  index := second.index.trans first.index
  contentHash := second.contentHash.trans first.contentHash
  garbage := second.garbage.trans first.garbage
  nextIndex := second.nextIndex.trans first.nextIndex
  guarded := second.guarded.trans first.guarded

theorem Alike.refl (s : Store N) : s.Alike s :=
  ⟨fun _ => .refl _, id, rfl, fun _ => rfl, rfl, rfl, rfl, rfl, rfl⟩

/-- Nothing is recorded of a change outside the facts and what depends on them. -/
theorem same_of_facts_eq {facts : Arena Fact} (same : facts = s.facts) (h : Handle) :
    Same (s.get? h) (facts.get? h) := by
  rw [same]
  exact .refl _

theorem get?_update_facts {facts : Arena Fact} {h : Handle} {u : Fact → Fact} (k : Handle)
    (same : s'.facts = facts.update h u) :
    s'.get? k = if k = h then (facts.get? h).map u else facts.get? k := by
  rw [Store.get?, same, Arena.get?_update]

theorem get?_setBusy {f : Fact} {h : Handle} (found : s.get? h = some f) (busy : Nat) (k : Handle) :
    (s.setBusy h busy).get? k = if k = h then some { f with busy } else s.get? k := by
  rw [get?_update_facts k rfl, show s.facts.get? h = some f from found]
  rfl

/-- Changing a fact in what is not recorded. -/
theorem same_of_update {h : Handle} {u : Fact → Fact}
    (like : ∀ f, s.get? h = some f → f.Like (u f)) (k : Handle) :
    Same (s.get? k) ((s.facts.update h u).get? k) := by
  rw [Arena.get?_update]
  by_cases here : k = h
  · subst here
    rw [if_pos rfl]
    cases found : s.get? k with
    | none =>
      rw [show s.facts.get? k = none from found]
      exact .inr ⟨by simp, by simp⟩
    | some f =>
      refine .inl ⟨f, u f, rfl, ?_, like f found⟩
      rw [show s.facts.get? k = some f from found, Option.map_some]
  · rw [if_neg here]
    exact .refl _

theorem leaves_of_update {h : Handle} {u : Fact → Fact} (changed : s'.facts = s.facts.update h u)
    (contentHash : s'.contentHash = s.contentHash) : Leaves [h] s s' := by
  refine ⟨fun r f hf _ outside => ?_, contentHash⟩
  rw [get?_update_facts r changed, if_neg (by simpa using outside)]
  exact hf

theorem leaves_of_facts_eq (same : s'.facts = s.facts)
    (contentHash : s'.contentHash = s.contentHash) : Leaves [] s s' := by
  refine ⟨fun r f hf _ _ => ?_, contentHash⟩
  rw [Store.get?, same]
  exact hf

/-- A change of which lists, index and garbage list see nothing, and of the unattached facts only
those given. -/
structure Quiet (except : List Handle) (s s' : Store N) : Prop where
  alike : s.Alike s'
  leaves : Leaves except s s'

theorem Quiet.refl (s : Store N) : Quiet [] s s := ⟨.refl s, .refl s⟩

theorem Quiet.trans {es fs : List Handle} (first : Quiet es s s') (second : Quiet fs s' s'') :
    Quiet (es ++ fs) s s'' :=
  ⟨first.alike.trans second.alike, first.leaves.trans second.leaves⟩

theorem Quiet.mono {es fs : List Handle} (quiet : Quiet es s s') (more : es ⊆ fs) :
    Quiet fs s s' :=
  ⟨quiet.alike, quiet.leaves.mono more⟩

/-- An attached fact need not be excepted. -/
theorem Quiet.drop {h : Handle} {f : Fact} (quiet : Quiet [h] s s') (found : s.get? h = some f)
    (attached : f.isUnattached = false) : Quiet [] s s' := by
  refine ⟨quiet.alike, fun r g hg unattached _ => quiet.leaves.facts r g hg unattached ?_,
    quiet.leaves.contentHash⟩
  rw [List.mem_singleton]
  rintro rfl
  rw [found] at hg
  rw [← Option.some.inj hg, attached] at unattached
  cases unattached

/-- An attached fact stays attached. -/
theorem Quiet.attached {es : List Handle} (quiet : Quiet es s s') {h : Handle}
    (attached : ∃ f, s.get? h = some f ∧ f.isUnattached = false) :
    ∃ f, s'.get? h = some f ∧ f.isUnattached = false := by
  obtain ⟨f, found, hf⟩ := attached
  obtain ⟨g, found', like⟩ := (quiet.alike.facts h).attached found hf
  exact ⟨g, found', like.isUnattached ▸ hf⟩

section Unrecorded

/-! What may change besides the facts, unseen by lists, index and garbage list. -/

variable {config : Config} {templates : TemplateRegistry} {draws : List ((TemplateId × Nat) × Nat)}
  {atoms : AtomTable} {patterns : PatternNetwork} {network : N} {probe : Probe}
  {listeners : ListenerRegistry} {evaluationError : Bool} {openChanges : Nat} {counters : Counters}

theorem Alike.of_facts {facts : Arena Fact} (same : ∀ h, Same (s.get? h) (facts.get? h))
    (tidy : s.facts.Tidy → facts.Tidy) :
    s.Alike { s with facts, config, templates, draws, atoms, patterns, network, probe, listeners,
                     evaluationError, openChanges, counters } :=
  ⟨same, tidy, rfl, fun _ => rfl, rfl, rfl, rfl, rfl, rfl⟩

theorem Quiet.unchanged :
    Quiet [] s { s with config, templates, draws, atoms, patterns, network, probe, listeners,
                        evaluationError, openChanges, counters } :=
  ⟨.of_facts (same_of_facts_eq rfl) id, leaves_of_facts_eq rfl rfl⟩

/-- Only one fact changes, in what is not recorded. -/
theorem Quiet.changed {h : Handle} {u : Fact → Fact}
    (like : ∀ f, s.get? h = some f → f.Like (u f)) :
    Quiet [h] s { s with facts := s.facts.update h u, config, templates, draws, atoms, patterns,
                         network, probe, listeners, evaluationError, openChanges, counters } :=
  ⟨.of_facts (same_of_update like) fun tidy => tidy.update h u, leaves_of_update rfl rfl⟩

end Unrecorded

/-! ### Pins -/

theorem setBusy_spec (s : Store N) (h : Handle) (busy : Nat) : Quiet [h] s (s.setBusy h busy) :=
  .changed fun _ _ => ⟨rfl, rfl, rfl, rfl, rfl, rfl, rfl⟩

theorem values_sourced (f : Fact) (source : Source) :
    ({ f with fields := f.fields.map fun field => { field with source } } : Fact).values =
      f.values := by
  simp [Fact.values, List.map_map, Function.comp_def]

theorem installFields_spec (s : Store N) (h : Handle) : Quiet [h] s (s.installFields h) := by
  unfold installFields
  cases s.get? h with
  | none => exact (Quiet.refl s).mono (List.nil_subset _)
  | some f =>
    exact .changed fun g _ => ⟨rfl, rfl, rfl, rfl, rfl, rfl, (values_sourced g .table).symm⟩

theorem retain_eq_ok {h : Handle} (done : s.retain h = .ok s') :
    ∃ f, s.get? h = some f ∧ s' = s.setBusy h (f.busy + 1) := by
  unfold retain at done
  split at done
  · cases done
  · rename_i f found
    exact ⟨f, found, (Except.ok.inj done).symm⟩

/-- Only what is missing cannot be pinned. -/
theorem retain_eq_error {h : Handle} {e : StoreError} (failed : s.retain h = .error e) :
    s.get? h = none := by
  unfold retain at failed
  split at failed
  · assumption
  · cases failed

theorem release_eq_ok {h : Handle} {r : Except StoreError Unit} (done : s.release h = .ok (r, s')) :
    (s.get? h = none ∧ r = .error (.unknownFact h) ∧ s' = s) ∨
      ∃ f, s.get? h = some f ∧ f.busy ≠ 0 ∧ r = .ok () ∧ s' = s.setBusy h (f.busy - 1) := by
  unfold release at done
  split at done
  · rename_i missing
    obtain ⟨rfl, rfl⟩ := Prod.mk.inj (Except.ok.inj done)
    exact .inl ⟨missing, rfl, rfl⟩
  · rename_i f found
    split at done
    · cases done
    · rename_i held
      obtain ⟨rfl, rfl⟩ := Prod.mk.inj (Except.ok.inj done)
      exact .inr ⟨f, found, held, rfl, rfl⟩

theorem deinstall_eq_ok {h : Handle} {r : Except StoreError Unit}
    (done : s.deinstall h = .ok (r, s')) :
    (s.get? h = none ∧ r = .error (.unknownFact h) ∧ s' = s) ∨
      ∃ f atoms, s.get? h = some f ∧ f.busy ≠ 0 ∧
        f.values.foldlM AtomTable.deinstall s.atoms = .ok atoms ∧ r = .ok () ∧
        s' = { s.setBusy h (f.busy - 1) with atoms } := by
  unfold deinstall at done
  split at done
  · rename_i missing
    obtain ⟨rfl, rfl⟩ := Prod.mk.inj (Except.ok.inj done)
    exact .inl ⟨missing, rfl, rfl⟩
  · rename_i f found
    split at done
    · cases done
    · rename_i held
      obtain ⟨atoms, given, done⟩ := bind_eq_ok.mp done
      obtain ⟨rfl, rfl⟩ := Prod.mk.inj (Except.ok.inj done)
      exact .inr ⟨f, atoms, found, held, given, rfl, rfl⟩

theorem retain_spec {h : Handle} (done : s.retain h = .ok s') : Quiet [h] s s' := by
  obtain ⟨f, -, rfl⟩ := retain_eq_ok done
  exact setBusy_spec s h _

theorem release_spec {h : Handle} {r : Except StoreError Unit} (done : s.release h = .ok (r, s')) :
    Quiet [h] s s' := by
  obtain ⟨-, -, rfl⟩ | ⟨f, -, -, -, rfl⟩ := release_eq_ok done
  · exact (Quiet.refl _).mono (List.nil_subset _)
  · exact setBusy_spec s h _

/-- Giving back a pin takes no fact away. -/
theorem isSome_release {h : Handle} {r : Except StoreError Unit}
    (done : s.release h = .ok (r, s')) (k : Handle) : (s'.get? k).isSome = (s.get? k).isSome := by
  obtain ⟨-, -, rfl⟩ | ⟨f, -, -, -, rfl⟩ := release_eq_ok done
  · rfl
  · rw [get?_update_facts k rfl]
    split
    · rename_i here
      rw [here, Option.isSome_map, Store.get?]
    · rfl

theorem nextHandle_release (tidy : s.facts.Tidy) {h : Handle} {r : Except StoreError Unit}
    (done : s.release h = .ok (r, s')) : s'.facts.nextHandle = s.facts.nextHandle := by
  obtain ⟨-, -, rfl⟩ | ⟨f, -, -, -, rfl⟩ := release_eq_ok done
  · rfl
  · exact tidy.nextHandle_update h _

theorem install_spec {h : Handle} (done : s.install h = .ok s') : Quiet [h] s s' := by
  obtain ⟨u, retained, done⟩ := bind_eq_ok.mp done
  obtain rfl := Except.ok.inj done
  exact ((retain_spec retained).trans (installFields_spec u h)).mono (by simp)

theorem deinstall_spec {h : Handle} {r : Except StoreError Unit}
    (done : s.deinstall h = .ok (r, s')) : Quiet [h] s s' := by
  obtain ⟨-, -, rfl⟩ | ⟨f, atoms, -, -, -, -, rfl⟩ := deinstall_eq_ok done
  · exact (Quiet.refl _).mono (List.nil_subset _)
  · exact .changed fun _ _ => ⟨rfl, rfl, rfl, rfl, rfl, rfl, rfl⟩

/-! ### Unattached facts -/

/-- All it takes for a fact to be made is that its template is counted and has as many slots. -/
theorem createWith_of_counted {t : TemplateId} {template : Template} {fields : List Field}
    {templates : TemplateRegistry} (counted : s.templates.incrementBusy t = .ok templates)
    (fits : fields.length = template.arity) :
    ∃ h s', s.createWith t template fields = .ok (h, s') := by
  unfold createWith
  rw [if_neg (not_not.mpr fits), counted]
  exact ⟨_, _, rfl⟩

theorem createWith_eq_ok {t : TemplateId} {template : Template} {fields : List Field} {h : Handle}
    (done : s.createWith t template fields = .ok (h, s')) :
    ∃ templates facts, s.templates.incrementBusy t = .ok templates ∧
      s.facts.insert { template, templateId := t, fields } = (h, facts) ∧
      s' = { s with templates, facts } := by
  unfold createWith at done
  split at done
  · cases done
  · obtain ⟨templates, counted, done⟩ := bind_eq_ok.mp done
    obtain ⟨rfl, rfl⟩ := Prod.mk.inj (Except.ok.inj done)
    exact ⟨templates, _, counted, rfl, rfl⟩

theorem createWith_arity {t : TemplateId} {template : Template} {fields : List Field} {h : Handle}
    (done : s.createWith t template fields = .ok (h, s')) : fields.length = template.arity := by
  unfold createWith at done
  split at done
  · cases done
  · rename_i fits
    exact not_not.mp fits

theorem createWith_nextHandle {t : TemplateId} {template : Template} {fields : List Field}
    {h : Handle} (done : s.createWith t template fields = .ok (h, s')) :
    h = s.facts.nextHandle := by
  obtain ⟨_, _, -, inserted, -⟩ := createWith_eq_ok done
  exact (congrArg Prod.fst inserted).symm.trans (Arena.insert_fst _ _)

/-- A new fact is unattached; its handle named nothing before. -/
theorem createWith_spec (sound : s.Sound) {t : TemplateId} {template : Template}
    {fields : List Field} {h : Handle} (done : s.createWith t template fields = .ok (h, s')) :
    Quiet [] s s' ∧ s.get? h = none ∧
      s'.get? h = some { template, templateId := t, fields } := by
  obtain ⟨templates, facts, -, inserted, rfl⟩ := createWith_eq_ok done
  obtain ⟨fresh, tidy, names⟩ := Arena.insert_spec sound.tidy inserted
  refine ⟨⟨.of_facts (fun k => ?_) fun _ => tidy, fun r f hf _ _ => ?_, rfl⟩, fresh, ?_⟩
  · change Same (s.facts.get? k) (facts.get? k)
    rw [names]
    by_cases here : k = h
    · subst here
      rw [if_pos rfl, fresh]
      refine .inr ⟨by simp, fun g hg => ?_⟩
      rw [← Option.some.inj hg]
      rfl
    · rw [if_neg here]
      exact .refl _
  · change facts.get? r = some f
    have other : r ≠ h := by
      rintro rfl
      rw [Store.get?, fresh] at hf
      cases hf
    rw [names, if_neg other]
    exact hf
  · change facts.get? h = _
    rw [names, if_pos rfl]

theorem unattached_eq_ok {h : Handle} {f : Fact} (found : s.unattached h = .ok f) :
    s.get? h = some f ∧ f.isUnattached = true := by
  unfold unattached at found
  split at found
  · cases found
  · split at found
    · obtain rfl := Except.ok.inj found
      exact ⟨‹_›, ‹_›⟩
    · cases found

/-- Writing a field of an unattached fact. -/
theorem setField_spec {h : Handle} {f : Fact} (found : s.get? h = some f)
    (unattached : f.isUnattached = true) (position : Nat) (field : Field) :
    Quiet [h] s (s.setField h position field) := by
  refine ⟨.of_facts (fun k => ?_) fun tidy => tidy.update h _, leaves_of_update rfl rfl⟩
  rw [Arena.get?_update]
  by_cases here : k = h
  · subst here
    rw [if_pos rfl, show s.facts.get? k = some f from found, found, Option.map_some]
    refine .inr ⟨fun g hg => ?_, fun g hg => ?_⟩
    · rw [← Option.some.inj hg]
      exact unattached
    · rw [← Option.some.inj hg]
      exact unattached
  · rw [if_neg here]
    exact .refl _

theorem putSlotAt_spec {h : Handle} {position : Nat} {v : Value}
    (done : s.putSlotAt h position v = .ok s') : Quiet [h] s s' := by
  obtain ⟨f, found, done⟩ := bind_eq_ok.mp done
  obtain ⟨stored, unattached⟩ := unattached_eq_ok found
  split at done
  · cases done
  · split at done
    · cases done
    · obtain rfl := Except.ok.inj done
      exact setField_spec stored unattached position ⟨v, .own⟩

theorem putSlot_spec {h : Handle} {slot : String} {v : Value}
    (done : s.putSlot h slot v = .ok s') : Quiet [h] s s' := by
  obtain ⟨f, found, done⟩ := bind_eq_ok.mp done
  split at done
  · cases done
  · exact putSlotAt_spec done

/-- A fact that was ever asserted gives back its atoms when it is freed. -/
theorem free_eq_ok {h : Handle} (done : s.free h = .ok s') :
    ∃ f facts atoms templates, s.facts.remove? h = some (f, facts) ∧
      (if f.index = 0 then .ok s.atoms else f.values.foldlM AtomTable.deinstall s.atoms) = .ok atoms ∧
      s.templates.decrementBusy f.templateId = .ok templates ∧
      s' = { s with facts, atoms, templates } := by
  unfold free at done
  split at done
  · cases done
  · rename_i f facts removed
    dsimp only at done
    split at done
    · rename_i unnumbered
      obtain ⟨atoms, given, done⟩ := bind_eq_ok.mp done
      obtain ⟨templates, counted, done⟩ := bind_eq_ok.mp done
      obtain rfl := Except.ok.inj done
      exact ⟨f, facts, atoms, templates, removed, by rw [if_pos unnumbered, given], counted, rfl⟩
    · rename_i numbered
      obtain ⟨atoms, given, done⟩ := bind_eq_ok.mp done
      obtain ⟨templates, counted, done⟩ := bind_eq_ok.mp done
      obtain rfl := Except.ok.inj done
      exact ⟨f, facts, atoms, templates, removed, by rw [if_neg numbered, given], counted, rfl⟩

/-- Freeing an unattached fact. -/
theorem free_spec (sound : s.Sound) {h : Handle} {f : Fact} (found : s.get? h = some f)
    (unattached : f.isUnattached = true) (done : s.free h = .ok s') :
    Quiet [h] s s' ∧ s'.get? h = none := by
  obtain ⟨f', facts, atoms, templates, removed, -, -, rfl⟩ := free_eq_ok done
  obtain ⟨_, tidy, names⟩ := Arena.remove?_spec sound.tidy removed
  refine ⟨⟨.of_facts (fun k => ?_) fun _ => tidy, fun r g hg _ outside => ?_, rfl⟩, ?_⟩
  · change Same (s.facts.get? k) (facts.get? k)
    rw [names]
    by_cases here : k = h
    · subst here
      rw [if_pos rfl, show s.facts.get? k = some f from found]
      refine .inr ⟨fun g hg => ?_, by simp⟩
      rw [← Option.some.inj hg]
      exact unattached
    · rw [if_neg here]
      exact .refl _
  · change facts.get? r = some g
    rw [names, if_neg (by simpa using outside)]
    exact hg
  · change facts.get? h = none
    rw [names, if_pos rfl]

theorem discard_eq_ok {h : Handle} {r : Except StoreError Unit}
    (done : s.discard h = .ok (r, s')) :
    (∃ e, r = .error e ∧ s' = s) ∨
      ∃ f, s.get? h = some f ∧ f.isUnattached = true ∧ s.free h = .ok s' ∧ r = .ok () := by
  unfold discard at done
  split at done
  · rename_i e _
    obtain ⟨rfl, rfl⟩ := Prod.mk.inj (Except.ok.inj done)
    exact .inl ⟨e, rfl, rfl⟩
  · rename_i f found
    obtain ⟨stored, unattached⟩ := unattached_eq_ok found
    obtain ⟨u, freed, done⟩ := bind_eq_ok.mp done
    obtain ⟨rfl, rfl⟩ := Prod.mk.inj (Except.ok.inj done)
    exact .inr ⟨f, stored, unattached, freed, rfl⟩

theorem discard_spec (sound : s.Sound) {h : Handle} {r : Except StoreError Unit}
    (done : s.discard h = .ok (r, s')) : Quiet [h] s s' := by
  obtain ⟨e, -, rfl⟩ | ⟨f, stored, unattached, freed, -⟩ := discard_eq_ok done
  · exact (Quiet.refl _).mono (List.nil_subset _)
  · exact (free_spec sound stored unattached freed).1

/-! ### New facts -/

/-- Asking for a default only counts that it was asked for. -/
theorem drawDefault_eq (s : Store N) (t : TemplateId) (position : Nat) :
    ∃ draws, (s.drawDefault t position).2 = { s with draws } := by
  unfold drawDefault
  split
  · exact ⟨_, rfl⟩
  · dsimp only
    split <;> exact ⟨_, rfl⟩

theorem defaultFields_eq (t : TemplateId) (slots : List (Slot × Nat)) (s : Store N) :
    ∃ draws, (s.defaultFields t slots).2 = { s with draws } := by
  induction slots generalizing s with
  | nil => exact ⟨_, rfl⟩
  | cons first rest ih =>
    obtain ⟨_, asked⟩ := drawDefault_eq s t first.2
    obtain ⟨draws, others⟩ := ih (s.drawDefault t first.2).2
    exact ⟨draws, others.trans (by rw [asked])⟩

theorem drawDefault_spec (s : Store N) (t : TemplateId) (position : Nat) :
    Quiet [] s (s.drawDefault t position).2 := by
  obtain ⟨draws, same⟩ := drawDefault_eq s t position
  rw [same]
  exact .unchanged

theorem defaultFields_spec (t : TemplateId) (slots : List (Slot × Nat)) (s : Store N) :
    Quiet [] s (s.defaultFields t slots).2 := by
  obtain ⟨draws, same⟩ := defaultFields_eq t slots s
  rw [same]
  exact .unchanged

theorem Sound.quiet {es : List Handle} (sound : s.Sound) (quiet : Quiet es s s') : s'.Sound :=
  sound.alike quiet.alike

/-- What names nothing afterwards named nothing before. -/
theorem Quiet.fresh (quiet : Quiet [] s s') {h : Handle} (fresh : s'.get? h = none) :
    s.get? h = none := by
  cases found : s.get? h with
  | none => rfl
  | some f =>
    cases unattached : f.isUnattached with
    | true =>
      rw [quiet.leaves.facts h f found unattached (List.not_mem_nil)] at fresh
      cases fresh
    | false =>
      obtain ⟨g, after, _⟩ := quiet.attached ⟨f, found, unattached⟩
      rw [fresh] at after
      cases after

theorem createFact_eq_ok {name : String} {r : Except StoreError Handle}
    (done : s.createFact name = .ok (r, s')) :
    (r = .error (.unknownTemplate name) ∧ s' = s) ∨
      ∃ (e : TemplateEntry) (h : Handle),
        createWith (s.defaultFields e.id e.template.slots.zipIdx).2 e.id e.template
          (s.defaultFields e.id e.template.slots.zipIdx).1 = .ok (h, s') ∧
        r = .ok h ∧ s.templates.byName? name = some e := by
  unfold createFact at done
  split at done
  · obtain ⟨rfl, rfl⟩ := Prod.mk.inj (Except.ok.inj done)
    exact .inl ⟨rfl, rfl⟩
  · rename_i e named
    obtain ⟨⟨h, u⟩, created, done⟩ := bind_eq_ok.mp done
    obtain ⟨rfl, rfl⟩ := Prod.mk.inj (Except.ok.inj done)
    exact .inr ⟨e, h, created, rfl, named⟩

theorem createFact_spec (sound : s.Sound) {name : String} {r : Except StoreError Handle}
    (done : s.createFact name = .ok (r, s')) :
    Quiet [] s s' ∧ ∀ h, r = .ok h → s.get? h = none := by
  obtain ⟨rfl, rfl⟩ | ⟨e, h, created, rfl, -⟩ := createFact_eq_ok done
  · exact ⟨.refl _, by simp⟩
  · have drawn := defaultFields_spec e.id e.template.slots.zipIdx s
    obtain ⟨quiet, fresh, _⟩ := createWith_spec (sound.quiet drawn) created
    refine ⟨drawn.trans quiet, fun h' same => ?_⟩
    obtain rfl := Except.ok.inj same
    exact drawn.fresh fresh

/-- A new ordered fact. -/
theorem createOrdered_eq_ok {relation : String} {values : List Value}
    {r : Except StoreError Handle} (done : s.createOrdered relation values = .ok (r, s')) :
    (∃ e, s.templates.impliedTemplate relation = .error e ∧ r = .error (.template e) ∧ s' = s) ∨
      ∃ id templates template h, s.templates.impliedTemplate relation = .ok (id, templates) ∧
        createWith { s with templates } id template [⟨.multifield values, .own⟩] = .ok (h, s') ∧
        r = .ok h ∧ templates.get? id = some template := by
  unfold createOrdered at done
  split at done
  · rename_i e refused
    obtain ⟨rfl, rfl⟩ := Prod.mk.inj (Except.ok.inj done)
    exact .inl ⟨e, refused, rfl, rfl⟩
  · rename_i id templates implied
    dsimp only at done
    split at done
    · cases done
    · rename_i template known
      obtain ⟨⟨h, u⟩, created, done⟩ := bind_eq_ok.mp done
      obtain ⟨rfl, rfl⟩ := Prod.mk.inj (Except.ok.inj done)
      exact .inr ⟨id, templates, template, h, implied, created, rfl, known⟩

theorem createOrdered_nextHandle {relation : String} {values : List Value} {h : Handle}
    (done : s.createOrdered relation values = .ok (.ok h, s')) : h = s.facts.nextHandle := by
  obtain ⟨_, -, refused, -⟩ | ⟨_, templates, _, h', -, created, same, -⟩ := createOrdered_eq_ok done
  · cases refused
  · obtain rfl := Except.ok.inj same
    exact createWith_nextHandle (s := { s with templates }) created

theorem createOrdered_spec (sound : s.Sound) {relation : String} {values : List Value}
    {r : Except StoreError Handle} (done : s.createOrdered relation values = .ok (r, s')) :
    Quiet [] s s' ∧ ∀ h, r = .ok h → s.get? h = none := by
  obtain ⟨e, -, rfl, rfl⟩ | ⟨id, templates, template, h, -, created, rfl, -⟩ :=
    createOrdered_eq_ok done
  · exact ⟨.refl _, by simp⟩
  · have defined : Quiet [] s { s with templates } := .unchanged
    obtain ⟨quiet, fresh, _⟩ := createWith_spec (sound.quiet defined) created
    refine ⟨defined.trans quiet, fun h' same => ?_⟩
    obtain rfl := Except.ok.inj same
    exact defined.fresh fresh

/-! ### Matching and replays -/

/-- Whether or not a failure is taken note of. -/
theorem of_recordFailure {P : Store N → Prop} {u : Store N} (failed : Bool) (unnoted : P u)
    (noted : P u.recordFailure) : P (if failed then u.recordFailure else u) := by
  cases failed with
  | false => exact unnoted
  | true => exact noted

/-- Taking note of a failure is no change. -/
theorem Quiet.recordFailure {es : List Handle} (quiet : Quiet es s s') (failed : Bool) :
    Quiet es s (if failed then s'.recordFailure else s') := by
  cases failed with
  | false => exact quiet
  | true =>
    have noted : Quiet [] s' s'.recordFailure := .unchanged
    exact (quiet.trans noted).mono (by simp)

variable [JoinNetwork N]

/-- Matching concerns the matches of the fact and what the network and the predicates keep. -/
theorem matchFact_rest {h : Handle} {mode : MatchMode} {o : MatchOutcome}
    (done : s.matchFact h mode = .ok (o, s')) : ∃ facts network probe counters evaluationError,
      s' = { s with facts, network, probe, counters, evaluationError } := by
  unfold matchFact at done
  split at done
  · cases done
  · split at done
    · obtain ⟨-, rfl⟩ := Prod.mk.inj (Except.ok.inj done)
      exact ⟨_, _, _, _, _, rfl⟩
    · obtain ⟨-, rfl⟩ := Prod.mk.inj (Except.ok.inj done)
      exact of_recordFailure (P := fun u => ∃ facts network probe counters evaluationError,
        u = { s with facts, network, probe, counters, evaluationError })
        _ ⟨_, _, _, _, _, rfl⟩ ⟨_, _, _, _, _, rfl⟩

theorem matchFact_spec {h : Handle} {mode : MatchMode} {o : MatchOutcome}
    (done : s.matchFact h mode = .ok (o, s')) : Quiet [h] s s' := by
  unfold matchFact at done
  split at done
  · cases done
  · rename_i f found
    split at done
    · obtain ⟨-, rfl⟩ := Prod.mk.inj (Except.ok.inj done)
      exact (Quiet.refl s).mono (List.nil_subset _)
    · obtain ⟨-, rfl⟩ := Prod.mk.inj (Except.ok.inj done)
      refine Quiet.recordFailure (.changed fun _ _ => ?_) _
      exact ⟨rfl, rfl, rfl, rfl, rfl, rfl, rfl⟩

theorem retractMatches_eq_ok {h : Handle} {ids : List MatchId} {report : EvalError → Notice}
    {failed : Bool} {notices : List Notice}
    (done : s.retractMatches h ids report = .ok (failed, notices, s')) :
    ∃ network counters evaluationError,
      s' = { s with network, counters, evaluationError } := by
  unfold retractMatches at done
  split at done
  · obtain ⟨-, -, rfl⟩ := by simpa using done
    exact ⟨_, _, _, rfl⟩
  · obtain ⟨⟨refusal, network⟩, _, done⟩ := bind_eq_ok.mp done
    cases refusal with
    | none =>
      obtain ⟨-, -, rfl⟩ := by simpa using done
      exact ⟨_, _, _, rfl⟩
    | some e =>
      obtain ⟨-, -, rfl⟩ := by simpa using done
      exact ⟨_, _, _, rfl⟩

theorem retractMatches_spec {h : Handle} {ids : List MatchId} {report : EvalError → Notice}
    {failed : Bool} {notices : List Notice}
    (done : s.retractMatches h ids report = .ok (failed, notices, s')) : Quiet [] s s' := by
  obtain ⟨network, counters, evaluationError, rfl⟩ := retractMatches_eq_ok done
  exact .unchanged

theorem withdraw_spec {h : Handle} {ids : List MatchId} {notices : List Notice}
    (done : s.withdraw h ids = .ok (notices, s')) : Quiet [h] s s' := by
  obtain ⟨⟨failed, notices', u⟩, retracted, done⟩ := bind_eq_ok.mp done
  obtain ⟨-, rfl⟩ := Prod.mk.inj (Except.ok.inj done)
  refine (Quiet.changed fun _ _ => ?_).trans (retractMatches_spec retracted)
  exact ⟨rfl, rfl, rfl, rfl, rfl, rfl, rfl⟩

/-- The facts replayed are attached, and stay so. -/
theorem replayFacts_spec {t : TemplateId} {hs : List Handle} {o : ReplayOutcome}
    (attached : ∀ h ∈ hs, ∃ f, s.get? h = some f ∧ f.isUnattached = false)
    (done : replayFacts t hs s = .ok (o, s')) : Quiet [] s s' := by
  induction hs generalizing s o with
  | nil =>
    obtain ⟨-, rfl⟩ := Prod.mk.inj (Except.ok.inj done)
    exact .refl s
  | cons h rest ih =>
    have others : ∀ k ∈ rest, ∃ f, s.get? k = some f ∧ f.isUnattached = false :=
      fun k hk => attached k (List.mem_cons_of_mem h hk)
    obtain ⟨f, found, hf⟩ := attached h List.mem_cons_self
    unfold replayFacts at done
    split at done
    · exact ih others done
    · obtain ⟨⟨m, u⟩, matched, done⟩ := bind_eq_ok.mp done
      have first : Quiet [] s u := (matchFact_spec matched).drop found hf
      dsimp only at done
      split at done
      · obtain ⟨⟨notices, v⟩, withdrawn, done⟩ := bind_eq_ok.mp done
        obtain ⟨-, rfl⟩ := Prod.mk.inj (Except.ok.inj done)
        obtain ⟨g, found', hg⟩ := first.attached ⟨f, found, hf⟩
        exact first.trans ((withdraw_spec withdrawn).drop found' hg)
      · obtain ⟨⟨r, v⟩, replayed, done⟩ := bind_eq_ok.mp done
        obtain ⟨-, rfl⟩ := Prod.mk.inj (Except.ok.inj done)
        have noted : Quiet [] s { u with
            patterns := u.patterns.updateTree t (·.recordReplayed h) } :=
          first.trans .unchanged
        exact noted.trans (ih (fun k hk => noted.attached (others k hk)) replayed)

theorem replay_spec (sound : s.Sound) {t : TemplateId} {o : ReplayOutcome}
    (done : s.replay t = .ok (o, s')) : Quiet [] s s' := by
  obtain ⟨⟨o', u⟩, replayed, done⟩ := bind_eq_ok.mp done
  obtain ⟨-, rfl⟩ := Prod.mk.inj (Except.ok.inj done)
  -- The guard is held meanwhile and is as before in the end.
  have through : Quiet [] { s with guarded := true } u :=
    replayFacts_spec (fun h mem => sound.attached_of_mem_templateFacts mem) replayed
  have released : Quiet [] s { u with guarded := s.guarded } :=
    ⟨{ through.alike with guarded := rfl }, ⟨through.leaves.facts, through.leaves.contentHash⟩⟩
  refine released.trans ?_
  split
  · exact .unchanged
  · exact .unchanged

theorem addPattern_spec (sound : s.Sound) {p : Pattern} {label : String}
    {r : Except PatternError EntryId} {notices : List Notice}
    (done : s.addPattern p label = .ok (r, notices, s')) : Quiet [] s s' := by
  unfold addPattern at done
  split at done
  · obtain ⟨-, -, rfl⟩ := by simpa using done
    exact .refl s
  · split at done
    · obtain ⟨-, -, rfl⟩ := by simpa using done
      exact .refl s
    · rename_i id patterns _
      have added : Quiet [] s { s with patterns } := .unchanged
      dsimp only at done
      split at done
      · obtain ⟨⟨o, u⟩, replayed, done⟩ := bind_eq_ok.mp done
        obtain ⟨-, -, rfl⟩ := by simpa using done
        exact added.trans (replay_spec (sound.quiet added) replayed)
      · obtain ⟨-, -, rfl⟩ := by simpa using done
        exact added

omit [JoinNetwork N] in
theorem removePattern_spec {id : EntryId} (done : s.removePattern id = .ok s') :
    Quiet [] s s' := by
  unfold removePattern at done
  split at done
  · cases done
  · obtain rfl := Except.ok.inj done
    exact .unchanged

theorem replayAll_spec (sound : s.Sound) {ts : List TemplateId} {n : Nat} {notices : List Notice}
    (done : replayAll ts s = .ok (n, notices, s')) : Quiet [] s s' := by
  induction ts generalizing s n notices with
  | nil =>
    obtain ⟨-, -, rfl⟩ := by simpa [replayAll] using done
    exact .refl s
  | cons t rest ih =>
    unfold replayAll at done
    obtain ⟨⟨o, u⟩, replayed, done⟩ := bind_eq_ok.mp done
    obtain ⟨⟨n', notices', v⟩, others, done⟩ := bind_eq_ok.mp done
    obtain ⟨-, -, rfl⟩ := by simpa using done
    have first := replay_spec sound replayed
    exact first.trans (ih (sound.quiet first) others)

theorem replayNewPatterns_spec (sound : s.Sound) {n : Nat} {notices : List Notice}
    (done : s.replayNewPatterns = .ok (n, notices, s')) : Quiet [] s s' :=
  replayAll_spec sound done

end FactBase.Store

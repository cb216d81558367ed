import FactBase.Proofs.Store.Move
import FactBase.Proofs.Store.Pins
import FactBase.Proofs.Store.Replaying

/-!
# What tends pins

Asserting, retracting, matching and replaying mind pins, and so does every chore that leaves the
facts alone that are not attached: a fact that is pinned is neither freed nor written to.
-/

namespace FactBase

/-- A fact but for its matches. -/
def Fact.unmatched (f : Fact) : Fact := { f with matched := [] }

/-- What a view that is blind to matches shows of facts that are the same but for their matches. -/
theorem Fact.view_unmatched {α : Type} {f g : Fact} (view : Fact → α)
    (same : g.unmatched = f.unmatched)
    (blind : ∀ f, view f.unmatched = view f) : view g = view f := by
  rw [← blind g, same, blind]

namespace Store

variable {N : Type} {s s' s'' : Store N} {h : Handle} {f g : Fact}

/-! ### Matches -/

/-- A change of matches at most, as far as facts and atoms are concerned. -/
structure Rematched (s s' : Store N) : Prop where
  facts : ∀ h, (s'.get? h).map Fact.unmatched = (s.get? h).map Fact.unmatched
  atoms : s'.atoms = s.atoms := by rfl

namespace Rematched

theorem of_facts_eq (facts : s'.facts = s.facts) (atoms : s'.atoms = s.atoms) :
    Rematched s s' :=
  ⟨fun h => by rw [Store.get?, Store.get?, facts], atoms⟩

theorem trans (first : Rematched s s') (second : Rematched s' s'') : Rematched s s'' :=
  ⟨fun h => (second.facts h).trans (first.facts h), second.atoms.trans first.atoms⟩

theorem of_update {u : Fact → Fact} (facts : s'.facts = s.facts.update h u)
    (blind : ∀ f, (u f).unmatched = f.unmatched)
    (atoms : s'.atoms = s.atoms) : Rematched s s' := by
  refine ⟨fun k => ?_, atoms⟩
  rw [get?_update_facts k facts]
  split
  · rename_i here
    rw [here, Option.map_map]
    exact congrArg (Option.map · (s.facts.get? h)) (funext blind)
  · rfl

theorem claims (rematched : Rematched s s') : s'.facts.claims = s.facts.claims := by
  refine Arena.claims_congr fun k => ?_
  have facts := congrArg (fun o : Option Fact => o.elim [] Fact.claims) (rematched.facts k)
  have blind : Fact.claims ∘ Fact.unmatched = Fact.claims := rfl
  simpa only [Store.get?, Option.elim_map, blind] using facts

theorem isAsserted (rematched : Rematched s s') (h : Handle) : s'.isAsserted h = s.isAsserted h := by
  have same := congrArg (fun o : Option Fact => o.any (·.isAsserted)) (rematched.facts h)
  rw [Option.any_map, Option.any_map] at same
  exact same

theorem removePattern {id : EntryId} (done : s.removePattern id = .ok s') : Rematched s s' := by
  unfold Store.removePattern at done
  split at done
  · cases done
  · obtain rfl := Except.ok.inj done
    exact .of_facts_eq rfl rfl

theorem minds (rematched : Rematched s s') : Minds s s' := by
  refine ⟨⟨fun k g found asserted => .inr ?_, fun a => Nat.le_of_eq ?_⟩, fun k f found _ => ?_⟩
  · have facts := rematched.facts k
    rw [found, Option.map_some, eq_comm, Option.map_eq_some_iff] at facts
    obtain ⟨f, before, same⟩ := facts
    exact ⟨f, before, (Fact.view_unmatched Fact.isAsserted same fun _ => rfl).trans asserted,
      Nat.le_of_eq (Fact.view_unmatched Fact.busy same fun _ => rfl)⟩
  · rw [rematched.claims, rematched.atoms]
  · have facts := rematched.facts k
    rw [found, Option.map_some, Option.map_eq_some_iff] at facts
    obtain ⟨g, found', same⟩ := facts
    exact ⟨g, found', .of_same (Fact.view_unmatched Fact.templateId same fun _ => rfl)
      (Fact.view_unmatched Fact.index same fun _ => rfl)
      (Fact.view_unmatched Fact.isGarbage same fun _ => rfl)
      (Nat.le_of_eq (Fact.view_unmatched Fact.busy same fun _ => rfl).symm)
      (Fact.view_unmatched Fact.values same fun _ => rfl)
      (Fact.view_unmatched Fact.template same fun _ => rfl)⟩

end Rematched

section JoinNetwork

variable [JoinNetwork N]

theorem rematched_matchFact {mode : MatchMode} {o : MatchOutcome}
    (done : s.matchFact h mode = .ok (o, s')) : Rematched s s' := by
  unfold matchFact at done
  split at done
  · cases done
  · split at done
    · obtain ⟨-, rfl⟩ := Prod.mk.inj (Except.ok.inj done)
      exact .of_facts_eq rfl rfl
    · obtain ⟨-, rfl⟩ := Prod.mk.inj (Except.ok.inj done)
      exact of_recordFailure (P := Rematched s) _ (.of_update rfl (fun _ => rfl) rfl)
        (.of_update rfl (fun _ => rfl) rfl)

theorem rematched_withdraw {ids : List MatchId} {notices : List Notice}
    (done : s.withdraw h ids = .ok (notices, s')) : Rematched s s' := by
  obtain ⟨⟨failed, ns, u⟩, retracted, done⟩ := bind_eq_ok.mp done
  obtain ⟨-, rfl⟩ := Prod.mk.inj (Except.ok.inj done)
  obtain ⟨network, counters, evaluationError, rfl⟩ := retractMatches_eq_ok retracted
  exact .of_update rfl (fun _ => rfl) rfl

theorem replayable_rematched : Replayable (Rematched (N := N)) where
  refl _ := .of_facts_eq rfl rfl
  trans := .trans
  recorded _ _ _ := .of_facts_eq rfl rfl
  marked _ _ := .of_facts_eq rfl rfl
  guarded _ _ := .of_facts_eq rfl rfl
  matchFact := rematched_matchFact
  withdraw := rematched_withdraw

end JoinNetwork

/-! ### Attaching and detaching -/

/-- Where one fact comes to stand for another that it continues, every fact stands. -/
theorem stands_replaced (found : s.get? h = some f) (replaced : Replaced h g s.facts s'.facts)
    (stands : f.Stands g) {k : Handle} {x : Fact} (same : s.get? k = some x) :
    ∃ y, s'.get? k = some y ∧ x.Stands y := by
  by_cases here : k = h
  · subst here
    obtain rfl := Option.some.inj (found.symm.trans same)
    obtain ⟨y, found', bare⟩ := replaced.here
    exact ⟨y, found', stands.of_bare bare⟩
  · obtain ⟨y, found', bare⟩ := replaced.elsewhere here same
    exact ⟨y, found', (Fact.Stands.refl x).of_bare bare⟩

theorem minds_replaced (found : s.get? h = some f) (replaced : Replaced h g s.facts s'.facts)
    (stands : f.Stands g) (steady : Steady s s') : Minds s s' :=
  ⟨steady, fun _ _ same _ => stands_replaced found replaced stands same⟩

theorem Attaches.minds {index : Nat} (attaches : Attaches h f index s s')
    (found : s.get? h = some f) (unattached : f.isUnattached = true) (sustains : Sustains s s') :
    Minds s s' :=
  minds_replaced found attaches.facts (Fact.stands_attached unattached index _) sustains.steady

theorem Detaches.minds (detaches : Detaches h f s s') (found : s.get? h = some f)
    (asserted : f.isAsserted = true) : Minds s s' := by
  refine minds_replaced found detaches.facts (Fact.stands_buried asserted)
    ⟨fun k g same holds => ?_, fun a => ?_⟩
  · refine (detaches.facts.backed ⟨fun dead => ?_, .inl rfl⟩ k g same).pinned holds
    simp [Fact.isAsserted, Fact.buried] at dead
  · have claims := detaches.facts.count_claims found a
    have same : f.buried.claims = f.claims := rfl
    rw [same] at claims
    obtain ⟨_, _, _, _, _, _, _, _, rest⟩ := detaches.rest
    have atoms : s'.atoms = s.atoms := by rw [rest]
    exact atoms ▸ Nat.le_of_eq (congrArg _ (Nat.add_right_cancel claims))

/-! ### Chores -/

/-- Chores take nothing the fact base counts on. -/
theorem Chore.sustains (chore : Chore s s') (sound : s.Sound) : Sustains s s' := by
  cases chore with
  | createWith done => exact .createWith sound.tidy done
  | createFact done =>
    obtain ⟨-, rfl⟩ | ⟨e, h, created, -⟩ := createFact_eq_ok done
    · exact .refl _
    · obtain ⟨draws, drawn⟩ := defaultFields_eq e.id e.template.slots.zipIdx s
      rw [drawn] at created
      have asked : Sustains s { s with draws } := .of_facts_eq rfl rfl fun _ => Nat.le_refl _
      exact asked.trans (.createWith (s := { s with draws }) sound.tidy created)
  | createOrdered done =>
    obtain ⟨e, -, -, rfl⟩ | ⟨id, templates, template, h, -, created, -⟩ := createOrdered_eq_ok done
    · exact .refl _
    · have implied : Sustains s { s with templates } := .of_facts_eq rfl rfl fun _ => Nat.le_refl _
      exact implied.trans (.createWith (s := { s with templates }) sound.tidy created)
  | putSlot done => exact .putSlot done
  | putSlotAt done => exact .putSlotAt done
  | discard done => exact .discard sound.tidy done
  | free _ _ done => exact (Sustains.free sound.tidy done).1
  | retain done => exact .retain done
  | install done => exact .install done
  | collectGarbage done => exact .collectGarbage sound.tidy done
  | maybeCollect done => exact .maybeCollect sound.tidy done
  | defineTemplate done =>
    obtain ⟨_, -, rfl⟩ := defineTemplate_eq_ok done
    exact .of_facts_eq rfl rfl fun _ => Nat.le_refl _
  | undefineTemplate done =>
    unfold Store.undefineTemplate at done
    split at done
    · cases done
    · obtain rfl := Except.ok.inj done
      refine .of_facts_eq rfl rfl fun a => ?_
      dsimp only
      split
      · exact Nat.le_of_eq (AtomTable.installs_settle _ _ a).symm
      · exact Nat.le_refl _
  | drawDefault _ t position =>
    obtain ⟨draws, drawn⟩ := drawDefault_eq s t position
    rw [drawn]
    exact .of_facts_eq rfl rfl fun _ => Nat.le_refl _
  | makeBuilder done =>
    unfold Builder.make at done
    split at done
    · cases done
    · split at done
      · cases done
      · obtain ⟨-, rfl⟩ := Prod.mk.inj (Except.ok.inj done)
        exact .of_facts_eq rfl rfl fun _ => Nat.le_refl _
  | builderFields b slots =>
    obtain ⟨draws, drawn⟩ := builderFields_eq b slots s
    rw [drawn]
    exact .of_facts_eq rfl rfl fun _ => Nat.le_refl _
  | intern _ a =>
    exact .of_facts_eq rfl rfl fun b => Nat.le_of_eq (AtomTable.installs_intern s.atoms a b).symm
  | settle _ depth =>
    exact .of_facts_eq rfl rfl fun b =>
      Nat.le_of_eq (AtomTable.installs_settle s.atoms (.changes depth) b).symm
  | impliedTemplate | defineModule | setCurrentModule | dropBuilder | listeners | guarded
  | countAsserted | countDuplicate | countModified | countRefusal | lend | clearEvaluationError =>
    exact .of_facts_eq rfl rfl fun _ => Nat.le_refl _

/-- Only a fact that is not attached goes or changes. -/
theorem stands_of_names {o : Option Fact}
    (names : ∀ k, s'.facts.get? k = if k = h then o else s.facts.get? k)
    (free : ∀ f, s.get? h = some f → f.isUnattached = true) {k : Handle}
    (found : s.get? k = some f) (attached : f.isUnattached = false) :
    ∃ g, s'.get? k = some g ∧ f.Stands g := by
  refine ⟨f, (names k).trans ((if_neg ?_).trans found), .refl f⟩
  rintro rfl
  rw [free f found] at attached
  cases attached

theorem stands_createWith (sound : s.Sound) {t : TemplateId} {template : Template}
    {fields : List Field} (done : s.createWith t template fields = .ok (h, s')) {k : Handle}
    (found : s.get? k = some f) : ∃ g, s'.get? k = some g ∧ f.Stands g := by
  obtain ⟨templates, facts, -, inserted, rfl⟩ := createWith_eq_ok done
  obtain ⟨fresh, -, names⟩ := Arena.insert_spec sound.tidy inserted
  refine ⟨f, (names k).trans ((if_neg ?_).trans found), .refl f⟩
  rintro rfl
  rw [show s.facts.get? k = some f from found] at fresh
  cases fresh

theorem stands_free (sound : s.Sound) {x : Fact} (stored : s.get? h = some x)
    (unattached : x.isUnattached = true) (done : s.free h = .ok s') {k : Handle}
    (found : s.get? k = some f) (attached : f.isUnattached = false) :
    ∃ g, s'.get? k = some g ∧ f.Stands g := by
  obtain ⟨_, facts, atoms, templates, removed, -, -, rfl⟩ := free_eq_ok done
  obtain ⟨-, -, names⟩ := Arena.remove?_spec sound.tidy removed
  exact stands_of_names names (fun y same => Option.some.inj (stored.symm.trans same) ▸ unattached)
    found attached

theorem stands_putSlotAt {position : Nat} {v : Value} (done : s.putSlotAt h position v = .ok s')
    {k : Handle} (found : s.get? k = some f) (attached : f.isUnattached = false) :
    ∃ g, s'.get? k = some g ∧ f.Stands g := by
  obtain ⟨x, unattached, done⟩ := bind_eq_ok.mp done
  obtain ⟨stored, free⟩ := unattached_eq_ok unattached
  split at done
  · cases done
  · split at done
    · cases done
    · obtain rfl := Except.ok.inj done
      exact stands_of_names (fun k => Arena.get?_update _ h k _)
        (fun y same => Option.some.inj (stored.symm.trans same) ▸ free) found attached

theorem minds_retain (done : s.retain h = .ok s') : Minds s s' := by
  refine ⟨(Sustains.retain done).steady, fun k f found _ => ?_⟩
  obtain ⟨x, stored, rfl⟩ := retain_eq_ok done
  rw [get?_update_facts k rfl]
  split
  · rename_i here
    obtain rfl := Option.some.inj (stored.symm.trans (here ▸ found))
    rw [show s.facts.get? h = some x from stored]
    exact ⟨_, rfl, .of_same rfl rfl rfl (Nat.le_succ _) rfl rfl⟩
  · exact ⟨f, found, .refl f⟩

theorem minds_install (done : s.install h = .ok s') : Minds s s' := by
  obtain ⟨u, retained, done⟩ := bind_eq_ok.mp done
  obtain rfl := Except.ok.inj done
  cases found : u.get? h with
  | none =>
    rw [Store.installFields, found]
    exact minds_retain retained
  | some f => exact (minds_retain retained).trans (minds_installFields found)

/-- An attached fact stands every chore as long as it is pinned. -/
theorem Chore.stands (chore : Chore s s') (sound : s.Sound) {k : Handle} (found : s.get? k = some f)
    (attached : f.isUnattached = false) (spare : 0 < f.spare) :
    ∃ g, s'.get? k = some g ∧ f.Stands g := by
  cases chore with
  | createWith done => exact stands_createWith sound done found
  | createFact done =>
    obtain ⟨-, rfl⟩ | ⟨e, h, created, -⟩ := createFact_eq_ok done
    · exact ⟨f, found, .refl f⟩
    · obtain ⟨draws, drawn⟩ := defaultFields_eq e.id e.template.slots.zipIdx s
      rw [drawn] at created
      exact stands_createWith (sound.quiet .unchanged) created found
  | createOrdered done =>
    obtain ⟨e, -, -, rfl⟩ | ⟨id, templates, template, h, -, created, -⟩ :=
      createOrdered_eq_ok done
    · exact ⟨f, found, .refl f⟩
    · exact stands_createWith (sound.quiet .unchanged) created found
  | putSlot done =>
    obtain ⟨x, -, done⟩ := bind_eq_ok.mp done
    split at done
    · cases done
    · exact stands_putSlotAt done found attached
  | putSlotAt done => exact stands_putSlotAt done found attached
  | discard done =>
    obtain ⟨e, -, rfl⟩ | ⟨x, stored, free, freed, -⟩ := discard_eq_ok done
    · exact ⟨f, found, .refl f⟩
    · exact stands_free sound stored free freed found attached
  | free stored free done => exact stands_free sound stored free done found attached
  | retain done => exact (minds_retain done).facts k f found spare
  | install done => exact (minds_install done).facts k f found spare
  | collectGarbage done =>
    have pinned : 0 < f.busy := Nat.lt_of_lt_of_le spare (Nat.sub_le _ _)
    exact ⟨f, (collects_collectGarbage sound done).held k f found pinned, .refl f⟩
  | maybeCollect done =>
    have pinned : 0 < f.busy := Nat.lt_of_lt_of_le spare (Nat.sub_le _ _)
    exact ⟨f, (collects_maybeCollect sound done).held k f found pinned, .refl f⟩
  | defineTemplate done =>
    obtain ⟨_, -, rfl⟩ := defineTemplate_eq_ok done
    exact ⟨f, found, .refl f⟩
  | undefineTemplate done =>
    unfold Store.undefineTemplate at done
    split at done
    · cases done
    · obtain rfl := Except.ok.inj done
      exact ⟨f, found, .refl f⟩
  | drawDefault _ t position =>
    obtain ⟨draws, drawn⟩ := drawDefault_eq s t position
    rw [drawn]
    exact ⟨f, found, .refl f⟩
  | makeBuilder done =>
    unfold Builder.make at done
    split at done
    · cases done
    · split at done
      · cases done
      · obtain ⟨-, rfl⟩ := Prod.mk.inj (Except.ok.inj done)
        exact ⟨f, found, .refl f⟩
  | builderFields b slots =>
    obtain ⟨draws, drawn⟩ := builderFields_eq b slots s
    rw [drawn]
    exact ⟨f, found, .refl f⟩
  | impliedTemplate | defineModule | setCurrentModule | dropBuilder | intern | listeners
  | guarded | countAsserted | countDuplicate | countModified | countRefusal | lend | settle
  | clearEvaluationError => exact ⟨f, found, .refl f⟩

/-- Chores that leave alone what is not attached mind pins. -/
theorem Chore.minds (chore : Chore s s') (sound : s.Sound) (leaves : Leaves [] s s') :
    Minds s s' := by
  refine ⟨(chore.sustains sound).steady, fun k f found spare => ?_⟩
  cases attached : f.isUnattached with
  | true => exact ⟨f, leaves.facts k f found attached List.not_mem_nil, .refl f⟩
  | false => exact chore.stands sound found attached spare

end Store

end FactBase

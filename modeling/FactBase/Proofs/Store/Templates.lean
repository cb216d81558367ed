import FactBase.Proofs.Memory.Walks
import FactBase.Proofs.Pattern.Shapes
import FactBase.Proofs.Store.Errand
import FactBase.Proofs.Store.Replaying
import FactBase.Proofs.Store.Tally

/-!
# Templates and those who use them

A template has a pattern tree while it has patterns, tailored to the template, and a template with
patterns stays defined.
Names of templates do not come twice, and a number that was issued once is never issued again. Only
requests for builders and dropping them change how many builders are counted.
-/

namespace FactBase

/-! ### Trees -/

namespace PatternNetwork
open PatternTree

variable {n n' : PatternNetwork} {t : TemplateId} {id : EntryId}

/-- The trees keep some ledger, and only templates with entries have trees. -/
def Rooted (n : PatternNetwork) : Prop :=
  ∃ L, n.Keeps L ∧ ∀ t, (n.tree? t).isSome → ∃ x ∈ L, x.2.template = t

theorem rooted_empty (threshold : Nat) : Rooted { threshold } :=
  ⟨[], ⟨fun _ _ found => (by cases found), fun _ listed => (by cases listed), rfl,
    fun _ listed => (by cases listed), List.nodup_nil⟩, fun _ planted => (by cases planted)⟩

/-- A template has a tree exactly if it owns a live entry. -/
theorem Rooted.isSome_tree?_iff (rooted : n.Rooted) (t : TemplateId) :
    (n.tree? t).isSome ↔ ∃ x ∈ n.owners, x.2 = t := by
  obtain ⟨L, keeps, needed⟩ := rooted
  rw [keeps.owned]
  constructor
  · intro planted
    obtain ⟨x, listed, same⟩ := needed t planted
    exact ⟨_, List.mem_map_of_mem listed, same⟩
  · rintro ⟨_, owned, rfl⟩
    obtain ⟨x, listed, rfl⟩ := List.mem_map.mp owned
    exact keeps.planted x listed

theorem Rooted.add (rooted : n.Rooted) {template : Template} {p : Pattern} {label : String}
    (added : n.add template p label = .ok (id, n')) : n'.Rooted := by
  obtain ⟨L, keeps, needed⟩ := rooted
  refine ⟨_, keeps.add added, fun t planted => ?_⟩
  obtain ⟨-, -, -, tree, -, trees⟩ := add_eq_ok added
  rw [trees] at planted
  split at planted
  · rename_i same
    exact ⟨(id, p), List.mem_append_right _ (List.mem_singleton_self _), same.symm⟩
  · obtain ⟨x, listed, same⟩ := needed t planted
    exact ⟨x, List.mem_append_left _ listed, same⟩

/-- A tree goes with its last entry. -/
theorem Rooted.remove (rooted : n.Rooted) (removed : n.remove id = .ok n') : n'.Rooted := by
  obtain ⟨L, keeps, needed⟩ := rooted
  have keeps' := keeps.remove removed
  refine ⟨_, keeps', fun t planted => ?_⟩
  obtain ⟨u, tree, tree', owned, found, pruned, -, -, trees⟩ := remove_eq_ok removed
  by_cases same : t = u
  · have stays := trees t
    rw [if_pos same] at stays
    rw [stays] at planted
    split at planted
    · cases planted
    · rename_i some
      rw [if_neg some] at stays
      have kept := keeps'.trees t tree' stays
      have listed : ofTemplate t (L.filter (·.1 != id)) ≠ [] := by
        intro none
        have bare := kept.listed
        rw [none, List.map_nil, List.map_eq_nil_iff] at bare
        exact some (List.isEmpty_iff.mpr bare)
      obtain ⟨x, inside⟩ := List.exists_mem_of_ne_nil _ listed
      exact ⟨x, mem_ofTemplate.mp inside⟩
  · rw [trees, if_neg same] at planted
    obtain ⟨x, listed, template⟩ := needed t planted
    refine ⟨x, List.mem_filter.mpr ⟨listed, bne_iff_ne.mpr fun here => same ?_⟩, template⟩
    exact template.symm.trans (keeps.template_of_owner owned listed here)

/-- The entries and what trees there are stay the same. -/
structure Regrown (n n' : PatternNetwork) : Prop where
  owners : n'.owners = n.owners
  rooted : n.Rooted → n'.Rooted
  trees : ∀ t tree', n'.tree? t = some tree' → ∃ tree, n.tree? t = some tree ∧ Retailors tree tree'

theorem Regrown.of_eq (same : n' = n) : Regrown n n' :=
  ⟨same ▸ rfl, same ▸ id, fun _ tree found => ⟨tree, same ▸ found, rfl, id⟩⟩

theorem regrown_updateTree {f : PatternTree → PatternTree} (t : TemplateId)
    (kept : ∀ L, n.Keeps L → (n.updateTree t f).Keeps L) (retailors : ∀ tree, Retailors tree (f tree)) :
    Regrown n (n.updateTree t f) := by
  refine ⟨rfl, fun ⟨L, keeps, needed⟩ => ⟨L, kept L keeps, fun u planted => needed u ?_⟩,
    fun u tree' found => ?_⟩
  · rw [tree?_updateTree] at planted
    split at planted
    · rwa [Option.isSome_map] at planted
    · exact planted
  · rw [tree?_updateTree] at found
    split at found
    · obtain ⟨tree, before, rfl⟩ := Option.map_eq_some_iff.mp found
      exact ⟨tree, before, retailors tree⟩
    · exact ⟨tree', found, rfl, id⟩

end PatternNetwork

/-! ### The registry -/

namespace TemplateRegistry

variable {r r' : TemplateRegistry} {id : TemplateId}

/-- The defined templates with their numbers and the builders that are counted. -/
def roster (r : TemplateRegistry) : List (TemplateId × Template × Nat) :=
  r.entries.map fun e => (e.id, e.template, e.builders)

/-- The defined templates with their numbers. -/
def catalogue (r : TemplateRegistry) : List (TemplateId × Template) :=
  r.entries.map fun e => (e.id, e.template)

theorem catalogue_eq (r : TemplateRegistry) :
    r.catalogue = r.roster.map fun x => (x.1, x.2.1) := by
  rw [catalogue, roster, List.map_map]
  rfl

theorem catalogue_filter (roster : r'.roster = r.roster.filter (·.1 != id)) :
    r'.catalogue = r.catalogue.filter (·.1 != id) := by
  rw [catalogue_eq, roster, catalogue_eq, List.filter_map]
  rfl

theorem mem_catalogue {x : TemplateId × Template} :
    x ∈ r.catalogue ↔ ∃ e ∈ r.entries, e.id = x.1 ∧ e.template = x.2 := by
  simp only [catalogue, List.mem_map, Prod.ext_iff]

theorem mem_catalogue_of_get? {t : Template} (known : r.get? id = some t) : (id, t) ∈ r.catalogue := by
  obtain ⟨e, found, template⟩ := Option.map_eq_some_iff.mp known
  refine mem_catalogue.mpr ⟨e, List.mem_of_find?_eq_some found, ?_, template⟩
  simpa using List.find?_some found

/-- Where numbers do not come twice, each stands for one template. -/
theorem get?_of_mem_catalogue (once : (r.entries.map (·.id)).Nodup) {x : TemplateId × Template}
    (listed : x ∈ r.catalogue) : r.get? x.1 = some x.2 := by
  obtain ⟨e, defined, number, template⟩ := mem_catalogue.mp listed
  have found : r.entryOf? e.id = some e := find?_eq_some_of_nodup once defined rfl
  rw [TemplateRegistry.get?, ← number, found]
  exact congrArg some template

/-- Nothing but busy counts, modules and scope changes. -/
structure SameRoster (r r' : TemplateRegistry) : Prop where
  roster : r'.roster = r.roster
  nextId : r'.nextId = r.nextId

theorem SameRoster.of_eq (same : r' = r) : SameRoster r r' := ⟨same ▸ rfl, same ▸ rfl⟩

theorem SameRoster.catalogue (same : SameRoster r r') : r'.catalogue = r.catalogue := by
  rw [catalogue_eq, catalogue_eq, same.roster]

theorem SameRoster.trans {r'' : TemplateRegistry} (first : SameRoster r r')
    (second : SameRoster r' r'') : SameRoster r r'' :=
  ⟨second.roster.trans first.roster, second.nextId.trans first.nextId⟩

theorem sameRoster_update (r : TemplateRegistry) (id : TemplateId)
    {f : TemplateEntry → TemplateEntry}
    (same : ∀ e, ((f e).id, (f e).template, (f e).builders) = (e.id, e.template, e.builders)) :
    SameRoster r (r.update id f) := by
  refine ⟨?_, rfl⟩
  rw [roster, update, List.map_map]
  refine List.map_congr_left fun e _ => ?_
  rw [Function.comp_apply]
  split
  · exact same e
  · rfl

theorem sameRoster_incrementBusy (done : r.incrementBusy id = .ok r') : SameRoster r r' := by
  unfold incrementBusy at done
  split at done
  · obtain rfl := Except.ok.inj done
    exact sameRoster_update r id fun _ => rfl
  · cases done

theorem sameRoster_decrementBusy (done : r.decrementBusy id = .ok r') : SameRoster r r' := by
  unfold decrementBusy at done
  split at done
  · cases done
  · split at done
    · cases done
    · obtain rfl := Except.ok.inj done
      exact sameRoster_update r id fun _ => rfl

end TemplateRegistry

/-! ### What chores do to templates -/

namespace Store
open TemplateRegistry PatternNetwork

variable {N : Type} {s s' s'' : Store N} {h : Handle}

/-- The templates and their builders stay the same, or a template goes that nobody uses. -/
inductive Trims (s s' : Store N) : Prop
  | kept (same : SameRoster s.templates s'.templates)
  | undefined {name : String} {e : TemplateEntry} (named : s.templates.byName? name = some e)
      (unused : e.busy + s.templateShares e.id + e.builders = 0)
      (roster : s'.templates.roster = s.templates.roster.filter (·.1 != e.id))
      (nextId : s'.templates.nextId = s.templates.nextId)

/-- What may become of templates while the builders stay the same. -/
inductive Recasts (s s' : Store N) : Prop
  | kept (same : SameRoster s.templates s'.templates)
  | defined {t : Template} (new : s.templates.find? t.name = none)
      (roster : s'.templates.roster = s.templates.roster ++ [(⟨s.templates.nextId⟩, t, 0)])
      (nextId : s'.templates.nextId = s.templates.nextId + 1)
  | undefined {name : String} {e : TemplateEntry} (named : s.templates.byName? name = some e)
      (unused : e.busy + s.templateShares e.id + e.builders = 0)
      (roster : s'.templates.roster = s.templates.roster.filter (·.1 != e.id))
      (nextId : s'.templates.nextId = s.templates.nextId)

theorem Trims.recasts (trims : Trims s s') : Recasts s s' := by
  cases trims with
  | kept same => exact .kept same
  | undefined named unused roster nextId => exact .undefined named unused roster nextId

theorem Recasts.then (first : Recasts s s') (second : SameRoster s'.templates s''.templates) :
    Recasts s s'' := by
  cases first with
  | kept same => exact .kept (same.trans second)
  | defined new roster nextId =>
    exact .defined new (second.roster.trans roster) (second.nextId.trans nextId)
  | undefined named unused roster nextId =>
    exact .undefined named unused (second.roster.trans roster) (second.nextId.trans nextId)

theorem sameRoster_createWith {t : TemplateId} {template : Template} {fields : List Field}
    (done : s.createWith t template fields = .ok (h, s')) :
    SameRoster s.templates s'.templates := by
  obtain ⟨templates, facts, counted, -, rfl⟩ := createWith_eq_ok done
  exact sameRoster_incrementBusy counted

theorem sameRoster_free (done : s.free h = .ok s') : SameRoster s.templates s'.templates := by
  obtain ⟨f, facts, atoms, templates, -, -, counted, rfl⟩ := free_eq_ok done
  exact sameRoster_decrementBusy counted

theorem sameRoster_collectFrom {hs : List Handle} {n : Nat}
    (done : collectFrom hs s = .ok (n, s')) : SameRoster s.templates s'.templates := by
  induction hs generalizing s n with
  | nil =>
    obtain ⟨-, rfl⟩ := Prod.mk.inj (Except.ok.inj done)
    exact .of_eq rfl
  | cons h rest ih =>
    unfold Store.collectFrom at done
    split at done
    · cases done
    · split at done
      · obtain ⟨u, freed, done⟩ := bind_eq_ok.mp done
        obtain ⟨⟨m, v⟩, others, done⟩ := bind_eq_ok.mp done
        obtain ⟨-, rfl⟩ := Prod.mk.inj (Except.ok.inj done)
        exact (sameRoster_free freed).trans (ih others)
      · have others := ih done
        exact ⟨others.roster, others.nextId⟩

theorem sameRoster_collectGarbage {n : Nat} (done : s.collectGarbage = .ok (n, s')) :
    SameRoster s.templates s'.templates := by
  unfold Store.collectGarbage at done
  split at done
  · obtain ⟨-, rfl⟩ := Prod.mk.inj (Except.ok.inj done)
    exact .of_eq rfl
  · obtain ⟨⟨m, u⟩, collected, done⟩ := bind_eq_ok.mp done
    obtain ⟨-, rfl⟩ := Prod.mk.inj (Except.ok.inj done)
    have all := sameRoster_collectFrom collected
    exact ⟨all.roster, all.nextId⟩

theorem recasts_define {t : Template} {id : TemplateId} {templates : TemplateRegistry}
    (done : s.templates.define t = .ok (id, templates)) : Recasts s { s with templates } := by
  obtain ⟨new, -, -, -, rfl⟩ := TemplateRegistry.define_eq_ok done
  exact .defined new List.map_append rfl

theorem recasts_impliedTemplate {relation : String} {id : TemplateId}
    {templates : TemplateRegistry}
    (done : s.templates.impliedTemplate relation = .ok (id, templates)) :
    Recasts s { s with templates } := by
  obtain ⟨e, -, -, -, rfl⟩ | ⟨-, defined⟩ := TemplateRegistry.impliedTemplate_eq_ok done
  · exact .kept (.of_eq rfl)
  · exact recasts_define defined

theorem undefineTemplate_eq_ok {name : String} (done : s.undefineTemplate name = .ok s') :
    ∃ e, s.templates.byName? name = some e ∧ e.busy + s.templateShares e.id + e.builders = 0 ∧
      s'.templates =
        { s.templates with entries := s.templates.entries.filter (·.id != e.id) } := by
  unfold Store.undefineTemplate at done
  split at done
  · cases done
  · rename_i templates removed
    obtain rfl := Except.ok.inj done
    unfold TemplateRegistry.undefine at removed
    split at removed
    · cases removed
    · rename_i e named
      dsimp only at removed
      split at removed
      · cases removed
      · rename_i unused
        exact ⟨e, named, Nat.eq_zero_of_not_pos unused, (Except.ok.inj removed).symm⟩

theorem trims_undefineTemplate {name : String} (done : s.undefineTemplate name = .ok s') :
    Trims s s' := by
  obtain ⟨e, named, unused, templates⟩ := undefineTemplate_eq_ok done
  refine .undefined named unused ?_ (by rw [templates])
  rw [templates, roster, roster, List.filter_map]
  rfl

/-- Making something defines one template at most. -/
theorem Making.recasts (making : Making s s') : Recasts s s' := by
  cases making with
  | createWith done => exact .kept (sameRoster_createWith done)
  | createFact done =>
    obtain ⟨-, rfl⟩ | ⟨e, h, created, -⟩ := createFact_eq_ok done
    · exact .kept (.of_eq rfl)
    · obtain ⟨draws, drawn⟩ := defaultFields_eq e.id e.template.slots.zipIdx s
      rw [drawn] at created
      have same := sameRoster_createWith created
      exact .kept ⟨same.roster, same.nextId⟩
  | createOrdered done =>
    obtain ⟨e, -, -, rfl⟩ | ⟨id, templates, template, h, implied, created, -⟩ :=
      createOrdered_eq_ok done
    · exact .kept (.of_eq rfl)
    · exact (recasts_impliedTemplate implied).then (sameRoster_createWith created)
  | defineTemplate done =>
    obtain ⟨templates, defined, rfl⟩ := defineTemplate_eq_ok done
    exact recasts_define defined
  | impliedTemplate done => exact recasts_impliedTemplate done

/-- Errands remove templates that nobody uses. -/
theorem Errand.trims (errand : Errand s s') : Trims s s' := by
  cases errand with
  | collectGarbage done => exact .kept (sameRoster_collectGarbage done)
  | maybeCollect done =>
    unfold Store.maybeCollect at done
    split at done
    · obtain ⟨⟨n, u⟩, collected, rfl⟩ := map_eq_ok.mp done
      exact .kept (sameRoster_collectGarbage collected)
    · obtain rfl := Except.ok.inj done
      exact .kept (.of_eq rfl)
  | undefineTemplate done => exact trims_undefineTemplate done
  | defineModule done =>
    unfold TemplateRegistry.defineModule at done
    split at done
    · cases done
    · obtain rfl := Except.ok.inj done
      exact .kept ⟨rfl, rfl⟩
  | setCurrentModule done =>
    unfold TemplateRegistry.setCurrentModule at done
    split at done
    · obtain rfl := Except.ok.inj done
      exact .kept ⟨rfl, rfl⟩
    · cases done
  | drawDefault _ t position =>
    obtain ⟨draws, drawn⟩ := drawDefault_eq s t position
    exact .kept (.of_eq (by rw [drawn]))
  | builderFields b slots =>
    obtain ⟨draws, drawn⟩ := builderFields_eq b slots s
    exact .kept (.of_eq (by rw [drawn]))
  | intern | listeners | guarded | countAsserted | countDuplicate | countModified | countRefusal
  | lend | settle | clearEvaluationError => exact .kept (.of_eq rfl)

theorem Errand.recasts (errand : Errand s s') : Recasts s s' := errand.trims.recasts

/-! ### What moves do to templates -/

/-- Templates are defined under numbers that were not issued before, and a number stands for the same
template as long as it is defined. -/
structure Ages (s s' : Store N) : Prop where
  issued : s.templates.nextId ≤ s'.templates.nextId
  old : ∀ x ∈ s'.templates.catalogue, x.1.number < s.templates.nextId → x ∈ s.templates.catalogue

theorem Ages.refl (s : Store N) : Ages s s := ⟨Nat.le_refl _, fun _ inside _ => inside⟩

theorem Ages.trans (first : Ages s s') (second : Ages s' s'') : Ages s s'' :=
  ⟨Nat.le_trans first.issued second.issued, fun x inside old =>
    first.old x (second.old x inside (Nat.lt_of_lt_of_le old first.issued)) old⟩

/-- No template is defined or removed. -/
structure SameCatalogue (r r' : TemplateRegistry) : Prop where
  catalogue : r'.catalogue = r.catalogue
  nextId : r'.nextId = r.nextId

theorem SameCatalogue.ages (same : SameCatalogue s.templates s'.templates) : Ages s s' :=
  ⟨Nat.le_of_eq same.nextId.symm, fun _ inside _ => same.catalogue ▸ inside⟩

theorem Recasts.ages (recasts : Recasts s s') : Ages s s' := by
  cases recasts with
  | kept same => exact SameCatalogue.ages ⟨same.catalogue, same.nextId⟩
  | defined _ roster nextId =>
    refine ⟨by omega, fun x inside old => ?_⟩
    rw [catalogue_eq, roster, List.map_append, ← catalogue_eq] at inside
    rcases List.mem_append.mp inside with before | new
    · exact before
    · rw [List.mem_singleton.mp new] at old
      exact absurd old (Nat.lt_irrefl _)
  | undefined _ _ roster nextId =>
    refine ⟨Nat.le_of_eq nextId.symm, fun x inside _ => ?_⟩
    rw [catalogue_eq, roster] at inside
    rw [catalogue_eq]
    exact (List.filter_sublist.map _).subset inside

theorem sameCatalogue_update (r : TemplateRegistry) (id : TemplateId)
    {f : TemplateEntry → TemplateEntry}
    (same : ∀ e, ((f e).id, (f e).template) = (e.id, e.template)) :
    SameCatalogue r (r.update id f) := by
  refine ⟨?_, rfl⟩
  rw [TemplateRegistry.catalogue, TemplateRegistry.catalogue, update, List.map_map]
  refine List.map_congr_left fun e _ => ?_
  rw [Function.comp_apply]
  split
  · exact same e
  · rfl

theorem Demand.sameCatalogue (demand : Demand s s') : SameCatalogue s.templates s'.templates := by
  have same {u : Store N} (stock : SameStock s u) : SameCatalogue s.templates u.templates := by
    rw [stock.templates]
    exact ⟨rfl, rfl⟩
  have freed {u : Store N} {h : Handle} (done : s.free h = .ok u) :
      SameCatalogue s.templates u.templates :=
    ⟨(sameRoster_free done).catalogue, (sameRoster_free done).nextId⟩
  cases demand with
  | putSlot done => exact same (stock_putSlot done)
  | putSlotAt done => exact same (stock_putSlotAt done)
  | discard done =>
    obtain ⟨e, -, rfl⟩ | ⟨f, -, -, done, -⟩ := discard_eq_ok done
    · exact ⟨rfl, rfl⟩
    · exact freed done
  | free _ _ done => exact freed done
  | retain done => exact same (stock_retain done)
  | install done => exact same (stock_install done)
  | makeBuilder done =>
    unfold Builder.make at done
    split at done
    · cases done
    · split at done
      · cases done
      · obtain ⟨-, rfl⟩ := Prod.mk.inj (Except.ok.inj done)
        exact sameCatalogue_update s.templates _ fun _ => rfl
  | dropBuilder b => exact sameCatalogue_update s.templates b.templateId fun _ => rfl

section JoinNetwork

variable [JoinNetwork N]

/-- Moves that neither make something nor are errands leave the templates as they are. -/
theorem Move.recasts_or_sameCatalogue (move : Move s s') :
    Recasts s s' ∨ SameCatalogue s.templates s'.templates := by
  have same {u : Store N} (stock : SameStock s u) : SameCatalogue s.templates u.templates := by
    rw [stock.templates]
    exact ⟨rfl, rfl⟩
  cases move with
  | chore chore =>
    rcases chore.making_or_errand_or_demand with making | errand | demand
    · exact .inl making.recasts
    · exact .inl errand.recasts
    · exact .inr demand.sameCatalogue
  | release done => exact .inr (same (stock_release done))
  | deinstall done => exact .inr (same (stock_deinstall done))
  | asserts _ _ _ done => exact .inr (same (stock_attach done))
  | supersedes _ _ _ _ detached done =>
    exact .inr (same ((stock_detach detached).trans (stock_attach done)))
  | detach done => exact .inr (same (stock_detach done))
  | matchFact _ done => exact .inr (same (stock_matchFact done))
  | addPattern done => exact .inr (same (stock_addPattern done))
  | removePattern done => exact .inr (same (stock_removePattern done))
  | replayNewPatterns done => exact .inr (same (stock_replayAll done))
  | renumber | probe | allowDuplicates => exact .inr ⟨rfl, rfl⟩

theorem Move.ages (move : Move s s') : Ages s s' :=
  move.recasts_or_sameCatalogue.elim Recasts.ages SameCatalogue.ages

end JoinNetwork

/-! ### Names and trees -/

/-- Names of templates do not come twice, and templates with patterns are defined and have trees
tailored to them. -/
structure Furnished (s : Store N) : Prop where
  named : (s.templates.catalogue.map (·.2.name)).Nodup
  rooted : s.patterns.Rooted
  owned : ∀ x ∈ s.patterns.owners, x.2 ∈ s.templates.catalogue.map (·.1)
  planted : ∀ t tree, s.patterns.tree? t = some tree →
    (t, tree.template) ∈ s.templates.catalogue ∧ tree.Tailored

theorem patterns_matchFact [JoinNetwork N] {mode : MatchMode} {o : MatchOutcome}
    (done : s.matchFact h mode = .ok (o, s')) : s'.patterns = s.patterns := by
  obtain ⟨_, _, _, _, _, _, patterns, _⟩ := matchFact_eq_ok done
  exact patterns

namespace Furnished

/-- A template is found by its name. -/
theorem byName? (furnished : s.Furnished) {e : TemplateEntry} (defined : e ∈ s.templates.entries) :
    s.templates.byName? e.template.name = some e := by
  have once : (s.templates.entries.map (·.template.name)).Nodup := by
    have named := furnished.named
    rwa [TemplateRegistry.catalogue, List.map_map] at named
  exact find?_eq_some_of_nodup once defined rfl

theorem keep (furnished : s.Furnished) (catalogue : s'.templates.catalogue = s.templates.catalogue)
    (regrown : Regrown s.patterns s'.patterns) : s'.Furnished := by
  refine ⟨?_, regrown.rooted furnished.rooted, ?_, fun t tree' found => ?_⟩
  · rw [catalogue]
    exact furnished.named
  · rw [catalogue, regrown.owners]
    exact furnished.owned
  · obtain ⟨tree, before, retailors⟩ := regrown.trees t tree' found
    obtain ⟨listed, tailored⟩ := furnished.planted t tree before
    rw [catalogue, retailors.template]
    exact ⟨listed, retailors.tailored tailored⟩

/-- Only templates without patterns are removed. -/
theorem recast (furnished : s.Furnished) (recasts : Recasts s s')
    (patterns : s'.patterns = s.patterns) : s'.Furnished := by
  cases recasts with
  | kept same => exact furnished.keep same.catalogue (.of_eq patterns)
  | @defined t new roster nextId =>
    have catalogue : s'.templates.catalogue =
        s.templates.catalogue ++ [(⟨s.templates.nextId⟩, t)] := by
      rw [catalogue_eq, roster, List.map_append, ← catalogue_eq]
      rfl
    refine ⟨?_, patterns ▸ furnished.rooted, ?_, ?_⟩
    · rw [catalogue, List.map_append]
      refine List.nodup_append'.mpr ⟨furnished.named, List.nodup_singleton _, ?_⟩
      intro name before here
      obtain ⟨x, inside, rfl⟩ := List.mem_map.mp before
      obtain ⟨e, defined, -, template⟩ := mem_catalogue.mp inside
      have missing := List.find?_eq_none.mp (Option.map_eq_none_iff.mp new) e defined
      rw [template] at missing
      exact missing (beq_iff_eq.mpr (List.mem_singleton.mp here))
    · rw [patterns, catalogue, List.map_append]
      exact fun x inside => List.mem_append_left _ (furnished.owned x inside)
    · rw [patterns, catalogue]
      intro t tree found
      obtain ⟨listed, tailored⟩ := furnished.planted t tree found
      exact ⟨List.mem_append_left _ listed, tailored⟩
  | @undefined name e named unused roster nextId =>
    have catalogue := catalogue_filter roster
    have bare : (s.patterns.tree? e.id).isSome = false := by
      have unshared : s.templateShares e.id = 0 := by omega
      rw [templateShares] at unshared
      by_contra planted
      rw [Bool.not_eq_false] at planted
      rw [if_pos planted] at unshared
      omega
    refine ⟨?_, patterns ▸ furnished.rooted, ?_, ?_⟩
    · rw [catalogue]
      exact furnished.named.sublist (List.filter_sublist.map _)
    · rw [patterns, catalogue]
      intro x inside
      obtain ⟨y, listed, same⟩ := List.mem_map.mp (furnished.owned x inside)
      refine List.mem_map.mpr ⟨y, List.mem_filter.mpr ⟨listed, bne_iff_ne.mpr fun here => ?_⟩, same⟩
      rw [(furnished.rooted.isSome_tree?_iff e.id).mpr ⟨x, inside, same.symm.trans here⟩] at bare
      cases bare
    · rw [patterns, catalogue]
      intro t tree found
      obtain ⟨listed, tailored⟩ := furnished.planted t tree found
      refine ⟨List.mem_filter.mpr ⟨listed, bne_iff_ne.mpr fun here => ?_⟩, tailored⟩
      rw [show t = e.id from here] at found
      rw [found] at bare
      cases bare

theorem removePattern (furnished : s.Furnished) {id : EntryId}
    (done : s.removePattern id = .ok s') : s'.Furnished := by
  unfold Store.removePattern at done
  split at done
  · cases done
  · rename_i patterns removed
    obtain rfl := Except.ok.inj done
    obtain ⟨t, tree, tree', -, found, pruned, -, owners, trees⟩ := remove_eq_ok removed
    refine ⟨furnished.named, furnished.rooted.remove removed, fun x inside => furnished.owned x ?_,
      fun u tree'' found' => ?_⟩
    · dsimp only at inside
      rw [owners] at inside
      exact (List.mem_filter.mp inside).1
    · dsimp only at found'
      rw [trees] at found'
      split at found'
      · rename_i here
        subst here
        split at found'
        · cases found'
        · obtain rfl := Option.some.inj found'
          have retailors := PatternTree.retailors_remove pruned
          obtain ⟨listed, tailored⟩ := furnished.planted u tree found
          rw [retailors.template]
          exact ⟨listed, retailors.tailored tailored⟩
      · exact furnished.planted u tree'' found'

variable [JoinNetwork N]

theorem replayable_furnished : Replayable fun s s' : Store N => s.Furnished → s'.Furnished where
  refl _ := id
  trans first second := second ∘ first
  recorded _ t h furnished :=
    furnished.keep rfl (regrown_updateTree t (fun _ keeps => keeps.recordReplayed t h)
      fun tree => PatternTree.retailors_recordReplayed tree h)
  marked _ t furnished :=
    furnished.keep rfl (regrown_updateTree t (fun _ keeps => keeps.markInitialized t)
      PatternTree.retailors_markInitialized)
  guarded _ _ furnished := furnished.keep rfl (.of_eq rfl)
  matchFact done furnished :=
    furnished.keep (by rw [(stock_matchFact done).templates]) (.of_eq (patterns_matchFact done))
  withdraw done furnished := by
    obtain ⟨⟨failed, ns, u⟩, retracted, done⟩ := bind_eq_ok.mp done
    obtain ⟨-, rfl⟩ := Prod.mk.inj (Except.ok.inj done)
    obtain ⟨network, counters, evaluationError, rfl⟩ := retractMatches_eq_ok retracted
    exact furnished.keep rfl (.of_eq rfl)

theorem addPattern (furnished : s.Furnished) {p : Pattern} {label : String}
    {r : Except PatternError EntryId} {notices : List Notice}
    (done : s.addPattern p label = .ok (r, notices, s')) : s'.Furnished := by
  refine replayable_furnished.addPattern (fun template id patterns known added furnished => ?_) done
    furnished
  have listed : (p.template, template) ∈ s.templates.catalogue := mem_catalogue_of_get? known
  obtain ⟨-, -, owners, tree, grown, trees⟩ := add_eq_ok added
  refine ⟨furnished.named, furnished.rooted.add added, ?_, fun t tree' found => ?_⟩
  · dsimp only
    rw [owners]
    intro x inside
    rcases List.mem_append.mp inside with before | new
    · exact furnished.owned x before
    · rw [List.mem_singleton.mp new]
      exact List.mem_map.mpr ⟨(p.template, template), listed, rfl⟩
  · dsimp only at found
    rw [trees] at found
    split at found
    · rename_i here
      subst here
      obtain rfl := Option.some.inj found
      have retailors := PatternTree.retailors_add grown
      rw [retailors.template]
      refine (?_ : _ ∧ PatternTree.Tailored _).imp_right retailors.tailored
      cases before : s.patterns.tree? p.template with
      | none => exact ⟨listed, fun _ inside => absurd inside List.not_mem_nil⟩
      | some tree₀ => exact furnished.planted _ tree₀ before
    · exact furnished.planted t tree' found

theorem move (furnished : s.Furnished) (sound : s.Sound) (move : Move s s') : s'.Furnished := by
  have kept {u v : Store N} (stock : SameStock u v) (patterns : v.patterns = u.patterns)
      (furnished : u.Furnished) : v.Furnished :=
    furnished.keep (by rw [stock.templates]) (.of_eq patterns)
  have attached {u v : Store N} {h : Handle} {f : Fact} {index : Nat} (stock : SameStock u v)
      (attaches : Attaches h f index u v) (furnished : u.Furnished) : v.Furnished := by
    obtain ⟨_, _, _, _, _, _, shape⟩ := attaches.rest
    exact kept stock (by rw [shape]) furnished
  have detached {h : Handle} {d : Detached} {u : Store N} (done : s.detach h = .ok (d, u)) :
      u.Furnished := by
    obtain ⟨_, _, _, _, detaches, _⟩ := detach_spec sound done
    obtain ⟨_, _, _, _, _, _, _, _, shape⟩ := detaches.rest
    exact kept (stock_detach done) (by rw [shape]) furnished
  cases move with
  | chore chore =>
    rcases chore.making_or_errand_or_demand with making | errand | demand
    · exact furnished.recast making.recasts (chore.aloof sound).patterns
    · exact furnished.recast errand.recasts (chore.aloof sound).patterns
    · exact furnished.keep demand.sameCatalogue.catalogue (.of_eq (chore.aloof sound).patterns)
  | release done => exact kept (stock_release done) (aloof_release done).patterns furnished
  | deinstall done => exact kept (stock_deinstall done) (aloof_deinstall done).patterns furnished
  | asserts found unattached listed done =>
    have positive : ∀ i, (none : Option Nat) = some i → i ≠ 0 := by simp
    obtain ⟨v, done', -, attaches⟩ :=
      attach_spec sound found unattached positive listed fun _ => (sound.listedByTemplate _).tail
    obtain ⟨-, rfl⟩ := Prod.mk.inj (Except.ok.inj (done'.symm.trans done))
    exact attached (stock_attach done) attaches furnished
  | supersedes found waiting unattached template before done =>
    obtain ⟨-, -, -, -, -, attaches⟩ :=
      supersedes_spec sound found waiting unattached template before done
    exact attached (stock_attach done) attaches (detached before)
  | detach done => exact detached done
  | matchFact _ done => exact kept (stock_matchFact done) (patterns_matchFact done) furnished
  | addPattern done => exact furnished.addPattern done
  | removePattern done => exact furnished.removePattern done
  | replayNewPatterns done => exact replayable_furnished.replayAll done furnished
  | renumber | probe | allowDuplicates => exact furnished.keep rfl (.of_eq rfl)

end Furnished

theorem Reached.furnished [JoinNetwork N] (reached : s.Reached) : s.Furnished :=
  reached.kept (fun config _ _ => ⟨List.nodup_nil, rooted_empty config.selectorThreshold,
    fun _ owned => (by cases owned), fun _ _ found => (by cases found)⟩) fun _ _ reached furnished move =>
      furnished.move reached.sound move

end Store

end FactBase

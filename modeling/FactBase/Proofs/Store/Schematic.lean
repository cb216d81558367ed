import FactBase.Proofs.Store.Schema

/-!
# What keeps facts to their templates

A fact base is schematic if the defaults of its templates pass the checks of their slots and every
stored fact holds in each slot what the slot takes, apart from blanks that wait to be set. Facts are
made from defaults, from the members of an ordered fact, from what a builder was given, and as
changed copies, and one slot at a time is written. Nothing else touches what facts hold.
-/

namespace FactBase

open TemplateRegistry

/-! ### Templates -/

/-- A template whose defaults its slots take; that of ordered facts takes whatever members there
are. -/
structure Template.Apt (t : Template) : Prop where
  yields : t.Yields
  proper : t.isProper = true

/-- Whether each slot takes its default, without a producer to ask for it. -/
def Template.isApt (t : Template) : Bool :=
  t.isProper && t.slots.all fun slot =>
    !slot.hasProducer && (slot.defaultValue? 0).all fun v => (slot.check v).isOk

theorem Slot.defaultValue?_of_hasProducer {slot : Slot} (settled : slot.hasProducer = false)
    (draws draws' : Nat) : slot.defaultValue? draws = slot.defaultValue? draws' := by
  unfold hasProducer at settled
  unfold defaultValue?
  cases default : slot.default with
  | dynamic => rw [default] at settled; cases settled
  | _ => rfl

/-- Where there is no producer, one look at each default is enough. -/
theorem Template.apt_of_isApt {t : Template} (isApt : t.isApt = true) : t.Apt := by
  obtain ⟨proper, all⟩ := Bool.and_eq_true_iff.mp isApt
  refine ⟨fun slot inside draws v default => ?_, proper⟩
  obtain ⟨settled, taken⟩ := Bool.and_eq_true_iff.mp (List.all_eq_true.mp all slot inside)
  rw [Bool.not_eq_true'] at settled
  rw [Slot.defaultValue?_of_hasProducer settled draws 0] at default
  rw [default, Option.all_some] at taken
  exact isOk_iff.mp taken

/-- A slot without constraints takes any multifield. -/
theorem Slot.check_free {slot : Slot} (traits : slot.traits = ⟨true, {}, false⟩) (vs : List Value) :
    slot.check (.multifield vs) = .ok () := by
  obtain ⟨multi, constraints, -⟩ := SlotTraits.mk.inj traits
  have free (name : String) (v : Value) : ({} : Constraints).checkField name v = .ok () := by
    unfold Constraints.checkField
    cases v.number? <;> rfl
  have all (name : String) (vs : List Value) : ({} : Constraints).checkFields name vs = .ok () := by
    induction vs with
    | nil => rfl
    | cons v rest ih =>
      unfold Constraints.checkFields
      rw [free]
      exact ih
  unfold Slot.check
  rw [multi, constraints]
  simpa using all slot.name vs

theorem Template.apt_implied (relation module : String) : (Template.implied relation module).Apt := by
  refine ⟨List.forall_mem_singleton.mpr fun _ v derived => ?_, rfl⟩
  obtain rfl := Option.some.inj derived
  exact Slot.check_free rfl _

/-- Whatever members an ordered fact has, its slot takes them. -/
theorem Template.Apt.holds_members {t : Template} (apt : t.Apt) (ordered : t.isImplied = true)
    (vs : List Value) : t.Holds [.multifield vs] fun _ => False := by
  have proper := apt.proper
  rw [Template.isProper, ordered, Bool.not_true, Bool.false_or, Template.traits] at proper
  intro position slot v found stands
  obtain ⟨here, rfl⟩ : position = 0 ∧ v = .multifield vs := by
    obtain ⟨bound, same⟩ := List.getElem?_eq_some_iff.mp stands
    rw [List.length_singleton, Nat.lt_one_iff] at bound
    subst bound
    exact ⟨rfl, same.symm⟩
  subst here
  have first : t.slots.head? = some slot := List.head?_eq_getElem?.trans found
  rw [List.head?_map, first, Option.map_some, beq_iff_eq] at proper
  exact .inl (Slot.check_free (Option.some.inj proper) vs)

namespace TemplateRegistry

variable {r r' : TemplateRegistry} {id : TemplateId}

theorem catalogue_define {t : Template} (done : r.define t = .ok (id, r')) :
    r'.catalogue = r.catalogue ++ [(id, t)] := by
  obtain ⟨-, -, -, rfl, rfl⟩ := define_eq_ok done
  exact List.map_append

theorem isImplied_of_impliedTemplate (once : (r'.entries.map (·.id)).Nodup) {relation : String}
    (done : r.impliedTemplate relation = .ok (id, r')) {t : Template} (known : r'.get? id = some t) :
    t.isImplied = true := by
  obtain ⟨e, named, ordered, rfl, rfl⟩ | ⟨-, defined⟩ := impliedTemplate_eq_ok done
  · have listed : (e.id, e.template) ∈ r'.catalogue :=
      List.mem_map_of_mem (List.mem_of_find?_eq_some named)
    obtain rfl := Option.some.inj ((get?_of_mem_catalogue once listed).symm.trans known)
    exact ordered
  · have listed : (id, Template.implied relation r.currentModule) ∈ r'.catalogue :=
      catalogue_define defined ▸ List.mem_append_right _ (List.mem_singleton_self _)
    obtain rfl := Option.some.inj ((get?_of_mem_catalogue once listed).symm.trans known)
    rfl

end TemplateRegistry

/-! ### Facts -/

/-- The slots of each fact that wait to be set. -/
abbrev Blanks := Handle → List Nat

namespace Store

variable {N : Type} {s s' : Store N} {blanks : Blanks} {h k : Handle} {f : Fact} {t : Template}
  {id : TemplateId}

structure Schematic (blanks : Blanks) (s : Store N) : Prop where
  templates : ∀ x ∈ s.templates.catalogue, x.2.Apt
  facts : ∀ h f, s.get? h = some f → ∃ t, (f.templateId, t) ∈ s.templates.catalogue ∧
    t.traits = f.template.traits ∧ f.template.Holds f.values (· ∈ blanks h)

theorem schematic_fresh (config : Config) (network : N)
    (contentHash : TemplateId → List Value → UInt64) :
    (fresh config network contentHash).Schematic blanks := by
  refine ⟨fun _ inside => (by cases inside), fun h f found => ?_⟩
  rw [get?_fresh] at found
  cases found

namespace Schematic

/-- No template is removed, and the facts that stay hold what they held. -/
theorem keeps (schematic : s.Schematic blanks)
    (catalogue : s'.templates.catalogue = s.templates.catalogue) (keeps : KeepsContents s s') :
    s'.Schematic blanks := by
  refine ⟨catalogue ▸ schematic.templates, fun h g found => ?_⟩
  obtain ⟨f, before, same⟩ := keeps h g found
  obtain ⟨number, template, values⟩ : g.templateId = f.templateId ∧ g.template = f.template ∧
      g.values = f.values := by
    simpa only [Fact.content, Prod.mk.injEq] using same
  rw [catalogue, number, template, values]
  exact schematic.facts h f before

/-- A template goes only if no stored fact was made from it. -/
theorem trims (schematic : s.Schematic blanks) (trims : Trims s s') (keeps : KeepsContents s s') :
    s'.Schematic blanks := by
  cases trims with
  | kept same => exact schematic.keeps same.catalogue keeps
  | @undefined name e named unused roster nextId =>
    have catalogue : s'.templates.catalogue = s.templates.catalogue.filter (·.1 != e.id) :=
      catalogue_filter roster
    refine ⟨fun x inside => ?_, fun h g found => ?_⟩
    · rw [catalogue] at inside
      exact schematic.templates x (List.mem_filter.mp inside).1
    · obtain ⟨f, before, same⟩ := keeps h g found
      obtain ⟨number, template, values⟩ : g.templateId = f.templateId ∧ g.template = f.template ∧
          g.values = f.values := by
        simpa only [Fact.content, Prod.mk.injEq] using same
      obtain ⟨t, listed, traits, holds⟩ := schematic.facts h f before
      have other : f.templateId ≠ e.id := by
        intro here
        have shares : s.templateShares e.id = 0 := by omega
        have none := List.countP_eq_zero.mp (Nat.add_eq_zero_iff.mp shares).1
        exact none f (Arena.mem_values before) (beq_iff_eq.mpr here)
      rw [number, template, values, catalogue]
      exact ⟨t, List.mem_filter.mpr ⟨listed, bne_iff_ne.mpr other⟩, traits, holds⟩

/-- Another template is defined. -/
theorem define (schematic : s.Schematic blanks) (apt : t.Apt) {templates : TemplateRegistry}
    (done : s.templates.define t = .ok (id, templates)) :
    Schematic blanks { s with templates } := by
  have catalogue := catalogue_define done
  refine ⟨fun x inside => ?_, fun h f found => ?_⟩
  · rw [catalogue] at inside
    rcases List.mem_append.mp inside with before | new
    · exact schematic.templates x before
    · exact List.mem_singleton.mp new ▸ apt
  · obtain ⟨t, listed, traits, holds⟩ := schematic.facts h f found
    exact ⟨t, catalogue ▸ List.mem_append_left _ listed, traits, holds⟩

theorem impliedTemplate (schematic : s.Schematic blanks) {relation : String}
    {templates : TemplateRegistry}
    (done : s.templates.impliedTemplate relation = .ok (id, templates)) :
    Schematic blanks { s with templates } := by
  obtain ⟨-, -, -, -, rfl⟩ | ⟨-, defined⟩ := impliedTemplate_eq_ok done
  · exact schematic
  · exact schematic.define (Template.apt_implied _ _) defined

/-! ### Making facts -/

/-- A fact is made that holds what its slots take. -/
theorem createWith (schematic : s.Schematic blanks) (tidy : s.facts.Tidy) {template : Template}
    {fields : List Field} (done : s.createWith id template fields = .ok (k, s'))
    (known : s.templates.get? id = some t) (traits : t.traits = template.traits)
    (holds : template.Holds (fields.map (·.value)) (· ∈ blanks s.facts.nextHandle)) :
    s'.Schematic blanks := by
  have catalogue := (sameRoster_createWith done).catalogue
  obtain rfl := createWith_nextHandle done
  obtain ⟨templates, facts, -, inserted, rfl⟩ := createWith_eq_ok done
  obtain ⟨-, -, names⟩ := Arena.insert_spec tidy inserted
  refine ⟨catalogue ▸ schematic.templates, fun h f found => ?_⟩
  rw [catalogue]
  rw [Store.get?, names] at found
  split at found
  · rename_i here
    subst here
    obtain rfl := Option.some.inj found
    exact ⟨t, mem_catalogue_of_get? known, traits, holds⟩
  · exact schematic.facts h f found

theorem createFact (schematic : s.Schematic blanks) (tidy : s.facts.Tidy) (tallied : s.Tallied)
    {name : String} {r : Except StoreError Handle} (done : s.createFact name = .ok (r, s'))
    (blank : ∀ e, s.templates.byName? name = some e →
      blanks s.facts.nextHandle = e.template.required) : s'.Schematic blanks := by
  obtain ⟨-, rfl⟩ | ⟨e, h, created, -, named⟩ := createFact_eq_ok done
  · exact schematic
  · have listed : (e.id, e.template) ∈ s.templates.catalogue :=
      List.mem_map_of_mem (List.mem_of_find?_eq_some named)
    have known : s.templates.get? e.id = some e.template :=
      get?_of_mem_catalogue tallied.once listed
    have holds := holds_defaultFields known (schematic.templates _ listed).yields
    obtain ⟨draws, drawn⟩ := defaultFields_eq e.id e.template.slots.zipIdx s
    rw [drawn] at created
    have drawn : Schematic blanks { s with draws } := schematic.keeps rfl (.of_facts_eq rfl)
    refine drawn.createWith tidy created known rfl (holds.mono fun position waits => ?_)
    rwa [blank e named]

theorem createOrdered (schematic : s.Schematic blanks) (tidy : s.facts.Tidy) (tallied : s.Tallied)
    {relation : String} {values : List Value} {r : Except StoreError Handle}
    (done : s.createOrdered relation values = .ok (r, s')) : s'.Schematic blanks := by
  obtain ⟨e, -, -, rfl⟩ | ⟨id, templates, template, h, implied, created, -, known⟩ :=
    createOrdered_eq_ok done
  · exact schematic
  · have implies : Schematic blanks { s with templates } := schematic.impliedTemplate implied
    have ordered := isImplied_of_impliedTemplate (tallied.impliedTemplate implied).once implied known
    have apt : template.Apt := implies.templates _ (mem_catalogue_of_get? known)
    refine implies.createWith tidy created known rfl ?_
    exact (apt.holds_members ordered values).mono fun _ => False.elim

/-- A copy waits for what its model waits for, unless it is changed in that place. -/
theorem copy (schematic : s.Schematic blanks) (tidy : s.facts.Tidy) (tallied : s.Tallied)
    {changes : List (Nat × Value)} {fields : List Field} {u : Store N}
    (patched : u.patched h changes = .ok (f, fields)) (facts : s.facts = u.facts)
    (done : s.createWith f.templateId f.template fields = .ok (k, s'))
    (blank : ∀ position ∈ blanks h, position ∉ changes.map (·.1) →
      position ∈ blanks s.facts.nextHandle) : s'.Schematic blanks := by
  obtain ⟨f', read, patched⟩ := bind_eq_ok.mp patched
  obtain ⟨fields', written, same⟩ := bind_eq_ok.mp patched
  obtain ⟨rfl, rfl⟩ := Prod.mk.inj (Except.ok.inj same)
  have found : s.get? h = some f' := by
    rw [Store.get?, facts]
    exact (asserted_eq_ok read).1
  obtain ⟨t, listed, traits, holds⟩ := schematic.facts h f' found
  obtain ⟨accepted, values⟩ := patch_eq_ok written
  refine schematic.createWith tidy done (get?_of_mem_catalogue tallied.once listed) traits ?_
  rw [values]
  exact (holds.overwrite accepted).mono fun position both => blank position both.1 both.2

/-- A builder waits for nothing. -/
theorem build (schematic : s.Schematic blanks) (tidy : s.facts.Tidy) {b : Builder}
    (current : b.isCurrent s = true) (suits : b.suits s = true) {fields : List Field} {u : Store N}
    (drawn : b.fields (b.template.slots.zip b.staged).zipIdx s = (.ok fields, u))
    (done : u.createWith b.templateId b.template fields = .ok (k, s')) : s'.Schematic blanks := by
  rw [Builder.suits, current, Bool.not_true, Bool.false_or, Bool.and_eq_true,
    Option.any_eq_true] at suits
  obtain ⟨⟨t, known, same⟩, fit⟩ := suits
  have traits := beq_iff_eq.mp same
  have yields := (schematic.templates _ (mem_catalogue_of_get? known)).yields
  have holds := Builder.holds_fields known yields traits fit drawn
  obtain ⟨draws, rfl⟩ : ∃ draws, u = { s with draws } := by
    have drew := builderFields_eq b (b.template.slots.zip b.staged).zipIdx s
    rwa [drawn] at drew
  have drew : Schematic blanks { s with draws } := schematic.keeps rfl (.of_facts_eq rfl)
  exact drew.createWith tidy done known traits
    ((holds.of_traits traits.symm).mono fun _ => False.elim)

/-! ### Writing slots -/

/-- A slot that is written waits no longer. -/
theorem putSlotAt (schematic : s.Schematic blanks) {position : Nat} {v : Value}
    (done : s.putSlotAt h position v = .ok s') :
    s'.Schematic (Function.update blanks h ((blanks h).filter (· != position))) := by
  obtain ⟨f, stored, done⟩ := bind_eq_ok.mp done
  split at done
  · cases done
  · rename_i slot own
    split at done
    · cases done
    · rename_i passes
      obtain rfl := Except.ok.inj done
      obtain ⟨found, -⟩ := unattached_eq_ok stored
      refine ⟨schematic.templates, fun k g found' => ?_⟩
      rw [setField, get?_update_facts k rfl] at found'
      split at found'
      · rename_i here
        subst here
        rw [show s.facts.get? k = some f from found] at found'
        obtain rfl := Option.some.inj found'
        obtain ⟨t, listed, traits, holds⟩ := schematic.facts k f found
        refine ⟨t, listed, traits, ?_⟩
        rw [Function.update_self, Fact.values, List.map_set]
        refine (holds.set own passes).mono ?_
        rintro other ⟨waits, elsewhere⟩
        exact List.mem_filter.mpr ⟨waits, bne_iff_ne.mpr elsewhere⟩
      · rename_i elsewhere
        rw [Function.update_of_ne elsewhere]
        exact schematic.facts k g found'

/-! ### What holds of each fact -/

/-- Each fact has one value per slot, and the values of a slot without a blank pass its check. Every
pattern finds what it looks for. -/
theorem admits (schematic : s.Schematic blanks) (tallied : s.Tallied) (furnished : s.Furnished)
    (found : s.get? h = some f) : f.values.length = f.template.arity ∧
      f.template.Admits f.values ∧
      ∀ tree, s.patterns.tree? f.templateId = some tree →
        ∀ n ∈ tree.roots, n.Everywhere (·.Meets f.values) := by
  obtain ⟨t, listed, traits, holds⟩ := schematic.facts h f found
  have length : f.values.length = f.template.arity := by
    rw [Fact.values, List.length_map]
    exact tallied.length_fields found
  refine ⟨length, holds.admits length, fun tree planted => ?_⟩
  obtain ⟨listed', tailored⟩ := furnished.planted _ tree planted
  have same : t = tree.template := by
    have known := get?_of_mem_catalogue tallied.once listed
    rw [get?_of_mem_catalogue tallied.once listed'] at known
    exact (Option.some.inj known).symm
  subst same
  exact tailored.meets ((holds.of_traits traits).admits
    (length.trans (Template.arity_of_traits traits).symm))

end Schematic

end Store

end FactBase

import FactBase.Builder
import FactBase.Modifier
import FactBase.Proofs.Store.Step

/-!
# What matching does not notice

Matches depend on the content of asserted facts, on the pattern trees and on the predicates. Making,
filling, pinning and freeing facts that are not asserted leaves all of these alone, and so does
everything that concerns templates, texts, listeners and counts.
-/

namespace FactBase

/-- What matching and the network know of a fact. -/
def Fact.profile (f : Fact) : Nat × Bool × TemplateId × List Value × List MatchId :=
  (f.index, f.isGarbage, f.templateId, f.values, f.matched)

/-- What a handle named before and after: facts of one profile, or facts that are not asserted and,
afterwards, free of matches. -/
def Unnoticed (a b : Option Fact) : Prop :=
  a.map Fact.profile = b.map Fact.profile ∨
    (∀ f, a = some f → ¬ f.isAsserted = true) ∧
      ∀ g, b = some g → ¬ g.isAsserted = true ∧ ((∀ f, a = some f → f.matched = []) → g.matched = [])

theorem isAsserted_of_profile {f g : Fact} (same : f.profile = g.profile) :
    f.isAsserted = g.isAsserted := by
  simp only [Fact.profile, Prod.mk.injEq] at same
  rw [Fact.isAsserted, Fact.isAsserted, same.1, same.2.1]

theorem Unnoticed.refl (a : Option Fact) : Unnoticed a a := .inl rfl

theorem Unnoticed.trans {a b c : Option Fact} (ab : Unnoticed a b) (bc : Unnoticed b c) :
    Unnoticed a c := by
  rcases ab with ab | ⟨ha, hb⟩
  · rcases bc with bc | ⟨hb, hc⟩
    · exact .inl (ab.trans bc)
    · refine .inr ⟨fun f hf => ?_, fun g hg => ⟨(hc g hg).1, fun idle => (hc g hg).2 ?_⟩⟩
      · rw [hf, Option.map_some, eq_comm, Option.map_eq_some_iff] at ab
        obtain ⟨g, hg, same⟩ := ab
        rw [← isAsserted_of_profile same]
        exact hb g hg
      · intro k hk
        rw [hk, Option.map_some, Option.map_eq_some_iff] at ab
        obtain ⟨f, hf, same⟩ := ab
        rw [← idle f hf]
        simp only [Fact.profile, Prod.mk.injEq] at same
        exact same.2.2.2.2.symm
  · rcases bc with bc | ⟨_, hc⟩
    · refine .inr ⟨ha, fun g hg => ?_⟩
      rw [hg, Option.map_some, Option.map_eq_some_iff] at bc
      obtain ⟨k, hk, same⟩ := bc
      rw [← isAsserted_of_profile same]
      refine ⟨(hb k hk).1, fun idle => ?_⟩
      rw [← (hb k hk).2 idle]
      simp only [Fact.profile, Prod.mk.injEq] at same
      exact same.2.2.2.2.symm
    · exact .inr ⟨ha, fun g hg => ⟨(hc g hg).1, fun idle => (hc g hg).2 fun k hk =>
        (hb k hk).2 idle⟩⟩

/-- Asserted facts keep their profiles unnoticed. -/
theorem Unnoticed.asserted {a b : Option Fact} (unnoticed : Unnoticed a b)
    (asserted : (∃ f, a = some f ∧ f.isAsserted = true) ∨ ∃ g, b = some g ∧ g.isAsserted = true) :
    a.map Fact.profile = b.map Fact.profile := by
  rcases unnoticed with same | ⟨before, after⟩
  · exact same
  · rcases asserted with ⟨f, found, asserted⟩ | ⟨g, found, asserted⟩
    · exact absurd asserted (before f found)
    · exact absurd asserted (after g found).1

namespace Store

variable {N : Type} {s s' s'' : Store N} {h : Handle} {f : Fact}

/-- A change that matching does not notice. -/
structure Aloof (s s' : Store N) : Prop where
  facts : ∀ h, Unnoticed (s.get? h) (s'.get? h)
  network : s'.network = s.network
  patterns : s'.patterns = s.patterns
  probe : s'.probe = s.probe
  config : s'.config = s.config

theorem Aloof.trans (first : Aloof s s') (second : Aloof s' s'') : Aloof s s'' :=
  ⟨fun h => (first.facts h).trans (second.facts h), second.network.trans first.network,
    second.patterns.trans first.patterns, second.probe.trans first.probe,
    second.config.trans first.config⟩

/-- Whatever happens outside the facts, the patterns and the network. -/
theorem Aloof.of_facts_eq (facts : s'.facts = s.facts) (network : s'.network = s.network)
    (patterns : s'.patterns = s.patterns) (probe : s'.probe = s.probe)
    (config : s'.config = s.config) : Aloof s s' := by
  refine ⟨fun h => ?_, network, patterns, probe, config⟩
  rw [Store.get?, Store.get?, facts]
  exact .refl _

theorem Aloof.refl (s : Store N) : Aloof s s := .of_facts_eq rfl rfl rfl rfl rfl

theorem isAsserted_of_map_profile
    (same : (s.get? h).map Fact.profile = (s'.get? h).map Fact.profile) :
    s'.isAsserted h = s.isAsserted h := by
  have asserted (a : Option Fact) : a.any (·.isAsserted) =
      (a.map Fact.profile).any fun p => p.1 != 0 && !p.2.1 := by
    cases a <;> rfl
  rw [Store.isAsserted, Store.isAsserted, asserted, asserted, same]

/-- Asserted facts stay asserted, and no others come to be. -/
theorem isAsserted_of_unnoticed (unnoticed : Unnoticed (s.get? h) (s'.get? h)) :
    s'.isAsserted h = s.isAsserted h := by
  rcases unnoticed with same | ⟨before, after⟩
  · exact isAsserted_of_map_profile same
  · have none {a : Option Fact} (unasserted : ∀ f, a = some f → ¬ f.isAsserted = true) :
        a.any (·.isAsserted) = false := by
      cases a with
      | none => rfl
      | some f => exact Bool.eq_false_iff.mpr (unasserted f rfl)
    rw [Store.isAsserted, Store.isAsserted, none before, none fun g hg => (after g hg).1]

theorem Aloof.isAsserted (aloof : Aloof s s') (h : Handle) : s'.isAsserted h = s.isAsserted h :=
  isAsserted_of_unnoticed (aloof.facts h)

/-- One fact changes in what matching does not look at. -/
theorem unnoticed_update {u : Fact → Fact} (alike : ∀ f, (u f).profile = f.profile)
    (k : Handle) : Unnoticed (s.get? k) ((s.facts.update h u).get? k) := by
  rw [Arena.get?_update]
  split
  · rename_i here
    refine .inl ?_
    rw [here, Option.map_map]
    exact congrArg (Option.map · (s.get? h)) (funext fun f => (alike f).symm)
  · exact .refl _

/-- One handle names another fact, both not asserted and the new one free of matches. -/
theorem unnoticed_replace {a b : Arena Fact} {g : Option Fact}
    (before : ∀ f, a.get? h = some f → ¬ f.isAsserted = true)
    (after : ∀ k, g = some k → ¬ k.isAsserted = true ∧ k.matched = [])
    (names : ∀ k, b.get? k = if k = h then g else a.get? k) (k : Handle) :
    Unnoticed (a.get? k) (b.get? k) := by
  rw [names]
  split
  · rename_i here
    subst here
    exact .inr ⟨before, fun k hk => ⟨(after k hk).1, fun _ => (after k hk).2⟩⟩
  · exact .refl _

/-! ### Facts that are not asserted -/

theorem aloof_setBusy (s : Store N) (h : Handle) (busy : Nat) : Aloof s (s.setBusy h busy) :=
  ⟨unnoticed_update fun _ => rfl, rfl, rfl, rfl, rfl⟩

theorem profile_sourced (f : Fact) (source : Source) :
    ({ f with fields := f.fields.map fun field => { field with source } } : Fact).profile =
      f.profile := by
  simp only [Fact.profile, values_sourced]

theorem aloof_installFields (s : Store N) (h : Handle) : Aloof s (s.installFields h) := by
  unfold installFields
  cases s.get? h with
  | none => exact .refl s
  | some f => exact ⟨unnoticed_update fun g => profile_sourced g .table, rfl, rfl, rfl, rfl⟩

theorem aloof_retain (done : s.retain h = .ok s') : Aloof s s' := by
  obtain ⟨f, -, rfl⟩ := retain_eq_ok done
  exact aloof_setBusy s h _

theorem aloof_release {r : Except StoreError Unit} (done : s.release h = .ok (r, s')) :
    Aloof s s' := by
  obtain ⟨-, -, rfl⟩ | ⟨f, -, -, -, rfl⟩ := release_eq_ok done
  · exact .refl _
  · exact aloof_setBusy s h _

theorem aloof_install (done : s.install h = .ok s') : Aloof s s' := by
  obtain ⟨u, retained, done⟩ := bind_eq_ok.mp done
  obtain rfl := Except.ok.inj done
  exact (aloof_retain retained).trans (aloof_installFields u h)

theorem aloof_deinstall {r : Except StoreError Unit} (done : s.deinstall h = .ok (r, s')) :
    Aloof s s' := by
  obtain ⟨-, -, rfl⟩ | ⟨f, atoms, -, -, -, -, rfl⟩ := deinstall_eq_ok done
  · exact .refl _
  · exact ⟨unnoticed_update fun _ => rfl, rfl, rfl, rfl, rfl⟩

theorem aloof_createWith (sound : s.Sound) {t : TemplateId} {template : Template}
    {fields : List Field} (done : s.createWith t template fields = .ok (h, s')) : Aloof s s' := by
  obtain ⟨templates, facts, -, inserted, rfl⟩ := createWith_eq_ok done
  obtain ⟨fresh, -, names⟩ := Arena.insert_spec sound.tidy inserted
  refine ⟨unnoticed_replace (by simp [fresh]) ?_ names, rfl, rfl, rfl, rfl⟩
  rintro k new
  rw [← Option.some.inj new]
  exact ⟨Bool.false_ne_true, rfl⟩

theorem aloof_setField (found : s.get? h = some f) (unattached : f.isUnattached = true)
    (position : Nat) (field : Field) : Aloof s (s.setField h position field) := by
  refine ⟨fun k => ?_, rfl, rfl, rfl, rfl⟩
  change Unnoticed (s.get? k) ((s.facts.update h _).get? k)
  rw [Arena.get?_update]
  split
  · rename_i here
    rw [here, found, show s.facts.get? h = some f from found]
    refine .inr ⟨fun g same => ?_, fun g same => ?_⟩
    · rw [← Option.some.inj same]
      exact not_asserted_of_unattached unattached
    · rw [← Option.some.inj same]
      exact ⟨not_asserted_of_unattached unattached, fun idle => idle f rfl⟩
  · exact .refl _

theorem aloof_putSlotAt {position : Nat} {v : Value} (done : s.putSlotAt h position v = .ok s') :
    Aloof s s' := by
  obtain ⟨f, found, done⟩ := bind_eq_ok.mp done
  obtain ⟨stored, unattached⟩ := unattached_eq_ok found
  split at done
  · cases done
  · split at done
    · cases done
    · obtain rfl := Except.ok.inj done
      exact aloof_setField stored unattached position ⟨v, .own⟩

theorem aloof_putSlot {slot : String} {v : Value} (done : s.putSlot h slot v = .ok s') :
    Aloof s s' := by
  obtain ⟨f, found, done⟩ := bind_eq_ok.mp done
  split at done
  · cases done
  · exact aloof_putSlotAt done

/-- Freeing a fact that is not asserted. -/
theorem aloof_free (tidy : s.facts.Tidy) (found : s.get? h = some f)
    (unasserted : ¬ f.isAsserted = true) (done : s.free h = .ok s') :
    Aloof s s' ∧ s'.facts.Tidy := by
  obtain ⟨f', facts, atoms, templates, removed, -, -, rfl⟩ := free_eq_ok done
  obtain ⟨_, tidy', names⟩ := Arena.remove?_spec tidy removed
  refine ⟨⟨unnoticed_replace (fun g same => ?_) (by simp) names, rfl, rfl, rfl, rfl⟩, tidy'⟩
  rw [show s.facts.get? h = some f from found] at same
  rw [← Option.some.inj same]
  exact unasserted

theorem aloof_discard (sound : s.Sound) {r : Except StoreError Unit}
    (done : s.discard h = .ok (r, s')) : Aloof s s' := by
  obtain ⟨e, -, rfl⟩ | ⟨f, stored, unattached, freed, -⟩ := discard_eq_ok done
  · exact .refl _
  · exact (aloof_free sound.tidy stored (not_asserted_of_unattached unattached) freed).1

/-! ### New facts and templates -/

theorem aloof_drawDefault (s : Store N) (t : TemplateId) (position : Nat) :
    Aloof s (s.drawDefault t position).2 := by
  obtain ⟨draws, same⟩ := drawDefault_eq s t position
  rw [same]
  exact .of_facts_eq rfl rfl rfl rfl rfl

theorem aloof_defaultFields (t : TemplateId) (slots : List (Slot × Nat)) (s : Store N) :
    Aloof s (s.defaultFields t slots).2 := by
  obtain ⟨draws, same⟩ := defaultFields_eq t slots s
  rw [same]
  exact .of_facts_eq rfl rfl rfl rfl rfl

theorem aloof_createFact (sound : s.Sound) {name : String} {r : Except StoreError Handle}
    (done : s.createFact name = .ok (r, s')) : Aloof s s' := by
  obtain ⟨-, rfl⟩ | ⟨e, h, created, -⟩ := createFact_eq_ok done
  · exact .refl _
  · have drawn := defaultFields_spec e.id e.template.slots.zipIdx s
    exact (aloof_defaultFields e.id e.template.slots.zipIdx s).trans
      (aloof_createWith (sound.quiet drawn) created)

/-- A new ordered fact was not there before. -/
theorem aloof_createOrdered (sound : s.Sound) {relation : String} {values : List Value}
    {r : Except StoreError Handle} (done : s.createOrdered relation values = .ok (r, s')) :
    Aloof s s' := by
  obtain ⟨e, -, -, rfl⟩ | ⟨id, templates, template, h, -, created, -⟩ := createOrdered_eq_ok done
  · exact .refl _
  · have defined : Quiet [] s { s with templates } := .unchanged
    have aloof : Aloof s { s with templates } := .of_facts_eq rfl rfl rfl rfl rfl
    exact aloof.trans (aloof_createWith (sound.quiet defined) created)

theorem aloof_builderFields (b : Builder) (slots : List ((Slot × Option Value) × Nat))
    (s : Store N) : Aloof s (b.fields slots s).2 := by
  obtain ⟨draws, same⟩ := builderFields_eq b slots s
  rw [same]
  exact .of_facts_eq rfl rfl rfl rfl rfl

theorem aloof_makeBuilder {name : String} {b : Builder} (done : Builder.make name s = .ok (b, s')) :
    Aloof s s' := by
  unfold Builder.make at done
  split at done
  · cases done
  · split at done
    · cases done
    · obtain ⟨-, rfl⟩ := Prod.mk.inj (Except.ok.inj done)
      exact .of_facts_eq rfl rfl rfl rfl rfl

theorem aloof_defineTemplate {t : Template} {id : TemplateId}
    (done : s.defineTemplate t = .ok (id, s')) : Aloof s s' := by
  obtain ⟨_, -, rfl⟩ := defineTemplate_eq_ok done
  exact .of_facts_eq rfl rfl rfl rfl rfl

theorem aloof_undefineTemplate {name : String} (done : s.undefineTemplate name = .ok s') :
    Aloof s s' := by
  unfold undefineTemplate at done
  split at done
  · cases done
  · obtain rfl := Except.ok.inj done
    exact .of_facts_eq rfl rfl rfl rfl rfl

/-! ### Garbage -/

theorem aloof_collectFrom {hs : List Handle} {n : Nat} (tidy : s.facts.Tidy)
    (unasserted : ∀ h ∈ hs, s.isAsserted h = false) (done : collectFrom hs s = .ok (n, s')) :
    Aloof s s' := by
  induction hs generalizing s n with
  | nil =>
    obtain ⟨-, rfl⟩ := Prod.mk.inj (Except.ok.inj done)
    exact .refl s
  | cons h rest ih =>
    unfold collectFrom at done
    split at done
    · cases done
    · rename_i f found
      have here := unasserted h List.mem_cons_self
      rw [Store.isAsserted, found, Option.any_some] at here
      split at done
      · obtain ⟨u, freed, done⟩ := bind_eq_ok.mp done
        obtain ⟨⟨m, v⟩, others, done⟩ := bind_eq_ok.mp done
        obtain ⟨-, rfl⟩ := Prod.mk.inj (Except.ok.inj done)
        obtain ⟨first, tidy'⟩ := aloof_free tidy found (Bool.eq_false_iff.mp here) freed
        refine first.trans (ih tidy' (fun k hk => ?_) others)
        rw [first.isAsserted]
        exact unasserted k (List.mem_cons_of_mem h hk)
      · have kept : Aloof s { s with garbage := s.garbage ++ [h] } :=
          .of_facts_eq rfl rfl rfl rfl rfl
        exact kept.trans (ih tidy (fun k hk => unasserted k (List.mem_cons_of_mem h hk)) done)

theorem aloof_collectGarbage (sound : s.Sound) {n : Nat} (done : s.collectGarbage = .ok (n, s')) :
    Aloof s s' := by
  unfold collectGarbage at done
  split at done
  · obtain ⟨-, rfl⟩ := Prod.mk.inj (Except.ok.inj done)
    exact .refl s
  · obtain ⟨⟨m, u⟩, collected, done⟩ := bind_eq_ok.mp done
    obtain ⟨-, rfl⟩ := Prod.mk.inj (Except.ok.inj done)
    have emptied : Aloof s { s with garbage := [] } := .of_facts_eq rfl rfl rfl rfl rfl
    have unasserted : ∀ h ∈ s.garbage, Store.isAsserted { s with garbage := [] } h = false := by
      intro h hh
      obtain ⟨f, found, garbage⟩ := (sound.garbage h).mp hh
      rw [Store.isAsserted, show Store.get? { s with garbage := [] } h = some f from found]
      simp [Fact.isAsserted, garbage]
    have freed : Aloof { s with garbage := [] } u :=
      aloof_collectFrom (s := { s with garbage := [] }) sound.tidy unasserted collected
    exact (emptied.trans freed).trans (.of_facts_eq rfl rfl rfl rfl rfl)

theorem aloof_maybeCollect (sound : s.Sound) (done : s.maybeCollect = .ok s') : Aloof s s' := by
  unfold maybeCollect at done
  split at done
  · obtain ⟨⟨n, u⟩, collected, rfl⟩ := map_eq_ok.mp done
    exact aloof_collectGarbage sound collected
  · obtain rfl := Except.ok.inj done
    exact .refl s

end Store

end FactBase

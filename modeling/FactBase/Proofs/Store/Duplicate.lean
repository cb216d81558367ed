import FactBase.Proofs.Store.Attach

/-!
# Facts of the same content

Facts have the same content if they agree in template and values. As long as duplicates are not
allowed, looking an asserted fact up by content finds one if there is one, whatever hash contents
have: facts of the same content have the same hash, and the index holds each under its hash.
-/

namespace FactBase

/-- Facts that agree in template and values. -/
def Fact.SameContent (f g : Fact) : Prop := g.templateId = f.templateId ∧ g.values = f.values

namespace Fact.SameContent

variable {f g k : Fact}

theorem symm (same : f.SameContent g) : g.SameContent f := ⟨same.1.symm, same.2.symm⟩

theorem trans (first : f.SameContent g) (second : g.SameContent k) : f.SameContent k :=
  ⟨second.1.trans first.1, second.2.trans first.2⟩

end Fact.SameContent

theorem HashIndex.mem_candidates {t : HashIndex} (sound : t.Sound) {hash : UInt64} {h : Handle} :
    h ∈ t.candidates hash ↔ ⟨hash, h⟩ ∈ t.entries := by
  rw [candidates, List.mem_map]
  constructor
  · rintro ⟨⟨hash', fact⟩, he, rfl⟩
    obtain ⟨he, same⟩ := List.mem_filter.mp he
    obtain rfl : hash' = hash := by simpa using same
    exact mem_entries_of_mem_chain he
  · intro he
    exact ⟨⟨hash, h⟩, List.mem_filter.mpr ⟨sound.mem_chain he rfl, by simp⟩, rfl⟩

namespace Store

variable {N : Type} {s s' : Store N} {h e : Handle} {f : Fact}

/-- No asserted fact has the content of this one. -/
def Unrivalled (s : Store N) (f : Fact) : Prop :=
  ∀ k g, s.get? k = some g → g.isAsserted = true → ¬ f.SameContent g

/-- No two asserted facts have the same content. -/
def Distinct (s : Store N) : Prop :=
  ∀ h k f g, s.get? h = some f → f.isAsserted = true → s.get? k = some g → g.isAsserted = true →
    f.SameContent g → h = k

/-- The look-up accepts other facts of the same content. -/
theorem accepts_iff {k : Handle} :
    (k != h && (s.get? k).any fun g => g.templateId == f.templateId && g.values == f.values) = true ↔
      k ≠ h ∧ ∃ g, s.get? k = some g ∧ f.SameContent g := by
  simp [Fact.SameContent, Option.any_eq_true]

/-- A duplicate that is found is asserted and has the content looked up. -/
theorem Consistent.duplicateOf?_eq_some (consistent : s.Consistent)
    (found : s.duplicateOf? h f (s.hashOf f) = some e) :
    e ≠ h ∧ ∃ g, s.get? e = some g ∧ g.isAsserted = true ∧ f.SameContent g := by
  unfold duplicateOf? HashIndex.find? at found
  split at found
  · cases found
  · have accepted := List.find?_some found
    obtain ⟨other, g, stored, same⟩ := accepts_iff.mp accepted
    have indexed := (HashIndex.mem_candidates consistent.index).mp (List.mem_of_find?_eq_some found)
    obtain ⟨g', stored', asserted, -⟩ := (consistent.indexed _).mp indexed
    rw [stored] at stored'
    obtain rfl := Option.some.inj stored'
    exact ⟨other, g, stored, asserted, same⟩

/-- If none is found although duplicates are not allowed, there is none. -/
theorem Consistent.duplicateOf?_eq_none (consistent : s.Consistent)
    (disallowed : s.config.allowDuplicates = false)
    (missed : s.duplicateOf? h f (s.hashOf f) = none) {k : Handle} {g : Fact}
    (stored : s.get? k = some g) (asserted : g.isAsserted = true) (same : f.SameContent g) :
    k = h := by
  unfold duplicateOf? HashIndex.find? at missed
  rw [if_neg (by simp [disallowed]), List.find?_eq_none] at missed
  by_contra other
  have hashed : s.hashOf f = s.hashOf g := by
    rw [Store.hashOf, Store.hashOf, same.1, same.2]
  have indexed : ⟨s.hashOf f, k⟩ ∈ s.index.entries :=
    (consistent.indexed _).mpr ⟨g, stored, asserted, hashed⟩
  exact missed k ((HashIndex.mem_candidates consistent.index).mpr indexed)
    (accepts_iff.mpr ⟨other, g, stored, same⟩)

/-- An unattached fact of which no duplicate is found has no rival. -/
theorem Consistent.unrivalled (consistent : s.Consistent)
    (disallowed : s.config.allowDuplicates = false) (free : s.isAsserted h = false)
    (missed : s.duplicateOf? h f (s.hashOf f) = none) : s.Unrivalled f := by
  intro k g stored asserted same
  obtain rfl := consistent.duplicateOf?_eq_none disallowed missed stored asserted same
  rw [Store.isAsserted, stored, Option.any_some, asserted] at free
  cases free

/-! ### What keeps contents apart -/

theorem Alike.asserted (alike : s.Alike s') {k : Handle} {g : Fact} (stored : s'.get? k = some g)
    (asserted : g.isAsserted = true) :
    ∃ f, s.get? k = some f ∧ f.Like g := by
  have attached : g.isUnattached = false :=
    Bool.eq_false_iff.mpr fun u => not_asserted_of_unattached u asserted
  obtain ⟨f, before, like⟩ := (alike.facts k).symm.attached stored attached
  exact ⟨f, before, like.index.symm, like.isGarbage.symm, like.global.symm, like.inTemplate.symm,
    like.hash.symm, like.templateId.symm, like.values.symm⟩

theorem Unrivalled.of_same (unrivalled : s.Unrivalled f) {g : Fact}
    (templateId : g.templateId = f.templateId) (values : g.values = f.values) : s.Unrivalled g :=
  fun k x stored asserted same => unrivalled k x stored asserted
    ⟨templateId ▸ same.1, values ▸ same.2⟩

theorem Unrivalled.alike (unrivalled : s.Unrivalled f) (alike : s.Alike s') :
    s'.Unrivalled f := by
  intro k g stored asserted same
  obtain ⟨g', before, like⟩ := alike.asserted stored asserted
  exact unrivalled k g' before (like.isAsserted ▸ asserted) (same.trans ⟨like.templateId, like.values⟩)

/-- A fact that is asserted after a detachment was before, and has the same content. -/
theorem Detaches.asserted {b : Fact} (detaches : Detaches h b s s') {k : Handle} {g : Fact}
    (stored : s'.get? k = some g) (asserted : g.isAsserted = true) :
    k ≠ h ∧ ∃ f, s.get? k = some f ∧ f.isAsserted = true ∧ f.SameContent g := by
  have after := (detaches.facts.exists_iff (P := fun x => x.isAsserted = true ∧ x.SameContent g) k
    (fun _ => .rfl)).mp ⟨g, stored, asserted, rfl, rfl⟩
  by_cases here : k = h
  · rw [if_pos here] at after
    have dead : b.buried.isAsserted = false := by simp [Fact.isAsserted, Fact.buried]
    rw [dead] at after
    exact absurd after.1 Bool.false_ne_true
  · rw [if_neg here] at after
    exact ⟨here, after⟩

theorem Unrivalled.detaches {b : Fact} (unrivalled : s.Unrivalled f) (detaches : Detaches h b s s') :
    s'.Unrivalled f := by
  intro k g stored asserted same
  obtain ⟨-, g', before, asserted', same'⟩ := detaches.asserted stored asserted
  exact unrivalled k g' before asserted' (same.trans same'.symm)

/-- Contents stay apart if every asserted fact has its content from one that was asserted. -/
theorem Distinct.of_asserted (distinct : s.Distinct)
    (before : ∀ k g, s'.get? k = some g → g.isAsserted = true →
      ∃ f, s.get? k = some f ∧ f.isAsserted = true ∧ f.SameContent g) : s'.Distinct := by
  intro h k f g stored asserted stored' asserted' same
  obtain ⟨f', found, holds, from_f⟩ := before h f stored asserted
  obtain ⟨g', found', holds', from_g⟩ := before k g stored' asserted'
  exact distinct h k f' g' found holds found' holds' ((from_f.trans same).trans from_g.symm)

theorem Distinct.alike (distinct : s.Distinct) (alike : s.Alike s') : s'.Distinct :=
  distinct.of_asserted fun k g stored asserted => by
    obtain ⟨f, before, like⟩ := alike.asserted stored asserted
    exact ⟨f, before, like.isAsserted ▸ asserted, like.templateId.symm, like.values.symm⟩

/-- A fact without a rival is attached. -/
theorem Distinct.attaches (distinct : s.Distinct) (unrivalled : s.Unrivalled f) {index : Nat}
    (attaches : Attaches h f index s s') : s'.Distinct := by
  have content {k : Handle} {g : Fact} (stored : s'.get? k = some g) (asserted : g.isAsserted = true) :
      if k = h then f.SameContent g
      else ∃ x, s.get? k = some x ∧ x.isAsserted = true ∧ x.SameContent g := by
    have after := (attaches.facts.exists_iff
      (P := fun x => x.isAsserted = true ∧ x.SameContent g) k (fun _ => .rfl)).mp
      ⟨g, stored, asserted, rfl, rfl⟩
    by_cases here : k = h
    · rw [if_pos here] at after ⊢
      exact ⟨after.2.1, by rw [after.2.2, Fact.attached_values]⟩
    · rw [if_neg here] at after ⊢
      exact after
  intro j k a b stored asserted stored' asserted' same
  have ha := content stored asserted
  have hb := content stored' asserted'
  by_cases hj : j = h <;> by_cases hk : k = h
  · rw [hj, hk]
  · rw [if_pos hj] at ha
    rw [if_neg hk] at hb
    obtain ⟨x, found, holds, from_x⟩ := hb
    exact absurd ((ha.trans same).trans from_x.symm) (unrivalled k x found holds)
  · rw [if_neg hj] at ha
    rw [if_pos hk] at hb
    obtain ⟨x, found, holds, from_x⟩ := ha
    exact absurd ((hb.trans same.symm).trans from_x.symm) (unrivalled j x found holds)
  · rw [if_neg hj] at ha
    rw [if_neg hk] at hb
    obtain ⟨x, found, holds, from_x⟩ := ha
    obtain ⟨y, found', holds', from_y⟩ := hb
    exact distinct j k x y found holds found' holds' ((from_x.trans same).trans from_y.symm)

end Store

end FactBase

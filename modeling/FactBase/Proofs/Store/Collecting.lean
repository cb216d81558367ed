import FactBase.Proofs.Store.Order

/-!
# What collecting takes

Collecting takes garbage that nobody holds and nothing else: facts that are not garbage stay, and so
does whatever is pinned.
-/

namespace FactBase.Store

variable {N : Type} {s s' s'' : Store N} {h : Handle} {f : Fact}

/-- What garbage collection leaves alone. -/
structure Collects (s s' : Store N) : Prop where
  kept : ∀ k f, s.get? k = some f → f.isGarbage = false → s'.get? k = some f
  held : ∀ k f, s.get? k = some f → 0 < f.busy → s'.get? k = some f
  old : ∀ k f, s'.get? k = some f → s.get? k = some f
  global : s'.global = s.global
  lists : s'.templateLists = s.templateLists
  nextIndex : s'.nextIndex = s.nextIndex

namespace Collects

/-- Whatever else changes, the facts and their lists are the same. -/
theorem of_facts_eq (facts : s'.facts = s.facts) (global : s'.global = s.global)
    (lists : s'.templateLists = s.templateLists)
    (nextIndex : s'.nextIndex = s.nextIndex) : Collects s s' := by
  have same (k : Handle) : s'.get? k = s.get? k := by rw [Store.get?, Store.get?, facts]
  refine ⟨fun k f found _ => ?_, fun k f found _ => ?_, fun k f found => ?_, global, lists,
    nextIndex⟩
  · exact (same k).trans found
  · exact (same k).trans found
  · exact (same k).symm.trans found

theorem refl (s : Store N) : Collects s s := of_facts_eq rfl rfl rfl rfl

theorem trans (first : Collects s s') (second : Collects s' s'') : Collects s s'' :=
  ⟨fun k f found stays => second.kept k f (first.kept k f found stays) stays,
    fun k f found held => second.held k f (first.held k f found held) held,
    fun k f found => first.old k f (second.old k f found), second.global.trans first.global,
    second.lists.trans first.lists, second.nextIndex.trans first.nextIndex⟩

theorem linksAt_eq (collects : Collects s s') {thread : Thread} {k : Handle}
    (found : s.get? k = some f) (stays : f.isGarbage = false) :
    FactList.linksAt s'.facts thread k = FactList.linksAt s.facts thread k := by
  rw [FactList.linksAt, FactList.linksAt, show s.facts.get? k = some f from found,
    show s'.facts.get? k = some f from collects.kept k f found stays]

theorem order (collects : Collects s s') (consistent : s.Consistent) : s'.order = s.order := by
  have threaded := consistent.threaded_order.congr (b := s'.facts) fun k mem => by
    obtain ⟨f, found, asserted⟩ := consistent.mem_order.mp mem
    exact collects.linksAt_eq found (Fact.isAsserted_iff.mp asserted).2
  rw [Store.order, collects.global, threaded.onward_eq]

theorem templateFacts (collects : Collects s s') (consistent : s.Consistent) (t : TemplateId) :
    s'.templateFacts t = s.templateFacts t := by
  have threaded := (consistent.threaded_templateFacts t).congr (b := s'.facts) fun k mem => by
    obtain ⟨f, found, asserted, -⟩ := consistent.mem_templateFacts.mp mem
    exact collects.linksAt_eq found (Fact.isAsserted_iff.mp asserted).2
  have list : s'.listOf t = s.listOf t := by rw [listOf, listOf, collects.lists]
  rw [Store.templateFacts, list, threaded.onward_eq]

/-- Asserted facts are not collected. -/
theorem isAsserted (collects : Collects s s') (asserted : s.isAsserted k = true) :
    s'.isAsserted k = true := by
  obtain ⟨f, found, holds⟩ := isAsserted_iff_exists.mp asserted
  exact isAsserted_iff_exists.mpr ⟨f, collects.kept k f found (Fact.isAsserted_iff.mp holds).2, holds⟩

/-- Freeing garbage that nobody holds. -/
theorem free (tidy : s.facts.Tidy) (found : s.get? h = some f) (garbage : f.isGarbage = true)
    (loose : f.busy = 0) (done : s.free h = .ok s') : Collects s s' ∧ s'.facts.Tidy ∧
      ∀ k, s'.get? k = if k = h then none else s.get? k := by
  obtain ⟨f', facts, atoms, templates, removed, -, -, rfl⟩ := free_eq_ok done
  obtain ⟨-, tidy', names⟩ := Arena.remove?_spec tidy removed
  refine ⟨⟨fun k g same stays => ?_, fun k g same held => ?_, fun k g same => ?_, rfl, rfl, rfl⟩,
    tidy', names⟩
  · refine (names k).trans ((if_neg ?_).trans same)
    rintro rfl
    rw [Option.some.inj (found.symm.trans same), stays] at garbage
    cases garbage
  · refine (names k).trans ((if_neg ?_).trans same)
    rintro rfl
    rw [Option.some.inj (found.symm.trans same)] at loose
    exact Nat.ne_of_gt held loose
  · rw [Store.get?, names] at same
    split at same
    · cases same
    · exact same

end Collects

theorem collects_collectFrom {hs : List Handle} {n : Nat} (tidy : s.facts.Tidy) (once : hs.Nodup)
    (garbage : ∀ h ∈ hs, ∃ f, s.get? h = some f ∧ f.isGarbage = true)
    (done : collectFrom hs s = .ok (n, s')) : Collects s s' := by
  induction hs generalizing s n with
  | nil =>
    obtain ⟨-, rfl⟩ := Prod.mk.inj (Except.ok.inj done)
    exact .refl s
  | cons h rest ih =>
    obtain ⟨f, found, dead⟩ := garbage h List.mem_cons_self
    obtain ⟨absent, once⟩ := List.nodup_cons.mp once
    unfold collectFrom at done
    simp only [found] at done
    split at done
    · rename_i loose
      obtain ⟨u, freed, done⟩ := bind_eq_ok.mp done
      obtain ⟨⟨m, v⟩, others, done⟩ := bind_eq_ok.mp done
      obtain ⟨-, rfl⟩ := Prod.mk.inj (Except.ok.inj done)
      obtain ⟨first, tidy', names⟩ := Collects.free tidy found dead loose freed
      refine first.trans (ih tidy' once (fun k inside => ?_) others)
      have other : k ≠ h := fun here => absent (here ▸ inside)
      rw [names, if_neg other]
      exact garbage k (List.mem_cons_of_mem h inside)
    · have put : Collects s { s with garbage := s.garbage ++ [h] } := .of_facts_eq rfl rfl rfl rfl
      exact put.trans (ih tidy once (fun k inside => garbage k (List.mem_cons_of_mem h inside)) done)

theorem collects_collectGarbage (sound : s.Sound) {n : Nat}
    (done : s.collectGarbage = .ok (n, s')) : Collects s s' := by
  unfold collectGarbage at done
  split at done
  · obtain ⟨-, rfl⟩ := Prod.mk.inj (Except.ok.inj done)
    exact .refl s
  · obtain ⟨⟨m, u⟩, collected, done⟩ := bind_eq_ok.mp done
    obtain ⟨-, rfl⟩ := Prod.mk.inj (Except.ok.inj done)
    have emptied : Collects s { s with garbage := [] } := .of_facts_eq rfl rfl rfl rfl
    have collects := collects_collectFrom (s := { s with garbage := [] }) sound.tidy
      sound.garbageOnce (fun h => (sound.garbage h).mp) collected
    exact (emptied.trans collects).trans (.of_facts_eq rfl rfl rfl rfl)

theorem collects_maybeCollect (sound : s.Sound) (done : s.maybeCollect = .ok s') :
    Collects s s' := by
  unfold maybeCollect at done
  split at done
  · obtain ⟨⟨n, u⟩, collected, rfl⟩ := map_eq_ok.mp done
    exact collects_collectGarbage sound collected
  · obtain rfl := Except.ok.inj done
    exact .refl s

end FactBase.Store

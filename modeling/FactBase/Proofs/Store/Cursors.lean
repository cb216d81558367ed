import FactBase.Proofs.Store.Loose
import FactBase.Proofs.Store.Order
import FactBase.Proofs.Store.Tally

/-!
# Walks by cursor

Whoever walks through the facts asks for the fact behind the last one, again and again, until there
is none. Such a walk meets the asserted facts in their order, once each, and every question is
answered, though a walk through the facts in scope may pass over many others on its way.
-/

namespace FactBase

/-- Asking for the next from one place on leads through a row and then nowhere. -/
inductive Visits (next : Option Handle → Option Handle) : Option Handle → List Handle → Prop
  | done {here : Option Handle} (last : next here = none) : Visits next here []
  | onward {here : Option Handle} {h : Handle} {hs : List Handle} (there : next here = some h)
      (rest : Visits next (some h) hs) : Visits next here (h :: hs)

section Visits

variable {next : Option Handle → Option Handle} {here there : Option Handle} {hs front : List Handle}
  {h : Handle}

/-- A walk goes on the same from two places that lead to the same. -/
theorem Visits.congr (visits : Visits next here hs) (same : next there = next here) :
    Visits next there hs := by
  cases visits with
  | done last => exact .done (same.trans last)
  | onward first rest => exact .onward (same.trans first) rest

/-- From a place that a walk comes to it goes on through what is behind. -/
theorem Visits.behind (visits : Visits next here (front ++ h :: hs)) : Visits next (some h) hs := by
  induction front generalizing here with
  | nil =>
    cases visits with
    | onward _ rest => exact rest
  | cons k front ih =>
    cases visits with
    | onward _ rest => exact ih rest

/-- Whoever follows the links goes through a chain. -/
theorem FactList.Chain.visits {look : Handle → Option Links} {previous start last : Option Handle}
    (chain : FactList.Chain look previous start hs last none) (sets : next here = start)
    (follows : ∀ k ∈ hs, ∀ links, look k = some links → next (some k) = links.next) :
    Visits next here hs := by
  induction hs generalizing here previous start with
  | nil =>
    cases chain
    exact .done sets
  | cons k ks ih =>
    cases chain with
    | cons found rest =>
      have leads := follows k List.mem_cons_self _ found
      exact .onward sets (ih rest leads fun j inside => follows j (List.mem_cons_of_mem k inside))

end Visits

namespace Store

variable {N : Type} {s : Store N} {t : TemplateId} {here : Option Handle} {h : Handle} {f : Fact}
  {hs : List Handle}

/-- The search for the next fact in scope, however long it takes. -/
inductive Seeks (s : Store N) : Option Handle → Option Handle → Prop
  | ended {here : Option Handle} (last : s.next? here = none) : Seeks s here none
  | met {here : Option Handle} {h : Handle} (there : s.next? here = some h)
      (inScope : s.isInScope h = true) : Seeks s here (some h)
  | passed {here found : Option Handle} {h : Handle} (there : s.next? here = some h)
      (hidden : s.isInScope h = false) (rest : Seeks s (some h) found) : Seeks s here found

/-- A search has one end at most. -/
theorem Seeks.unique {found other : Option Handle} (seeks : Seeks s here found)
    (seeks' : Seeks s here other) : other = found := by
  induction seeks with
  | ended last =>
    cases seeks' with
    | ended => rfl
    | met there | passed there => cases last.symm.trans there
  | met there inScope =>
    cases seeks' with
    | ended last => cases last.symm.trans there
    | met there' => exact there'.symm.trans there
    | passed there' hidden =>
      obtain rfl := Option.some.inj (there.symm.trans there')
      cases inScope.symm.trans hidden
  | passed there hidden _ ih =>
    cases seeks' with
    | ended last => cases last.symm.trans there
    | met there' inScope =>
      obtain rfl := Option.some.inj (there.symm.trans there')
      cases inScope.symm.trans hidden
    | passed there' _ rest =>
      obtain rfl := Option.some.inj (there.symm.trans there')
      exact ih rest

/-- A search that sets out on a walk ends at the first fact in scope. -/
theorem Seeks.of_visits (visits : Visits s.next? here hs) : Seeks s here (hs.find? s.isInScope) := by
  induction visits with
  | done last => exact .ended last
  | @onward here h hs there _ ih =>
    cases visible : s.isInScope h with
    | true =>
      rw [List.find?_cons_of_pos visible]
      exact .met there visible
    | false =>
      rw [List.find?_cons_of_neg (by simp [visible])]
      exact .passed there visible ih

/-- Where the links of a list lead from a fact, whether or not a walk may go on from it. -/
def linked? (s : Store N) (thread : Thread) (l : FactList) : Option Handle → Option Handle
  | none => l.head
  | some h => (s.get? h).bind fun f => (f.links thread).next

/-- What a template's module has to be for its facts to be in scope. -/
def SeesModule (s : Store N) (module : String) : Prop :=
  module = s.templates.currentModule ∨
    ∃ imports, s.templates.imports? s.templates.currentModule = some imports ∧ module ∈ imports

/-- The walks by cursor and what they meet. -/
structure Walked (s : Store N) : Prop where
  order : Visits s.next? none s.order
  templateFacts : ∀ t, Visits (s.nextInTemplate? t) none (s.templateFacts t)
  inScope : Visits s.nextInScope? none (s.order.filter s.isInScope)
  /-- Every search for the next fact in scope ends, wherever it sets out from. -/
  seeks : ∀ here found, Seeks s here found ↔ found = s.nextInScope? here
  /-- The lists leave out nothing that links lead to. -/
  linked : Visits (s.linked? .global s.global) none s.order
  linkedInTemplate : ∀ t, Visits (s.linked? .inTemplate (s.listOf t)) none (s.templateFacts t)
  mem_order : ∀ h, h ∈ s.order ↔ ∃ f, s.get? h = some f ∧ f.isAsserted = true
  mem_templateFacts : ∀ t h,
    h ∈ s.templateFacts t ↔ ∃ f, s.get? h = some f ∧ f.isAsserted = true ∧ f.templateId = t
  scope : ∀ h f, s.get? h = some f → ∃ template, s.templates.get? f.templateId = some template ∧
    (s.isInScope h = true ↔ s.SeesModule template.module)
  once : s.order.Nodup
  onceInTemplate : ∀ t, (s.templateFacts t).Nodup
  count : s.factCount = s.order.length
  countInTemplate : ∀ t, s.templateFactCount t = (s.templateFacts t).length

theorem cursor?_of_asserted (found : s.get? h = some f) (asserted : f.isAsserted = true) :
    s.cursor? h = some f := by
  have alive := (Fact.isAsserted_iff.mp asserted).2
  simp [cursor?, found, alive]

section Consistent

variable (consistent : s.Consistent)

include consistent

theorem Consistent.visits_order : Visits s.next? none s.order := by
  refine consistent.threaded_order.chain.visits rfl fun k inside links found => ?_
  obtain ⟨f, stored, asserted⟩ := consistent.mem_order.mp inside
  have same : f.global = links := by
    simpa [FactList.linksAt, show s.facts.get? k = some f from stored, Fact.links] using found
  simp [next?, cursor?_of_asserted stored asserted, same]

theorem Consistent.visits_templateFacts (t : TemplateId) :
    Visits (s.nextInTemplate? t) none (s.templateFacts t) := by
  refine (consistent.threaded_templateFacts t).chain.visits rfl fun k inside links found => ?_
  obtain ⟨f, stored, asserted, -⟩ := consistent.mem_templateFacts.mp inside
  have same : f.inTemplate = links := by
    simpa [FactList.linksAt, show s.facts.get? k = some f from stored, Fact.links] using found
  simp [nextInTemplate?, cursor?_of_asserted stored asserted, same]

omit consistent in
theorem visits_linked {thread : Thread} {l : FactList}
    (threaded : FactList.Threaded s.facts thread l hs) : Visits (s.linked? thread l) none hs := by
  refine threaded.chain.visits rfl fun k _ links found => ?_
  obtain ⟨f, stored, same⟩ := Option.map_eq_some_iff.mp found
  simp [linked?, show s.get? k = some f from stored, same]

/-- From wherever a walk sets out it goes through the end of the list, be it none of it. -/
theorem Consistent.visits_from (loose : s.Loose) (here : Option Handle) :
    ∃ hs, Visits s.next? here hs ∧ hs <:+ s.order := by
  have nowhere (last : s.next? here = none) : ∃ hs, Visits s.next? here hs ∧ hs <:+ s.order :=
    ⟨[], .done last, List.nil_suffix⟩
  cases here with
  | none => exact ⟨s.order, consistent.visits_order, List.suffix_refl _⟩
  | some h =>
    cases found : s.get? h with
    | none => exact nowhere (by simp [next?, cursor?, found])
    | some f =>
      by_cases asserted : f.isAsserted = true
      · obtain ⟨front, back, split⟩ := List.append_of_mem (consistent.mem_order.mpr ⟨f, found, asserted⟩)
        refine ⟨back, (split ▸ consistent.visits_order).behind, front ++ [h], ?_⟩
        rw [List.append_assoc, List.singleton_append, split]
      · refine nowhere ?_
        cases dead : f.isGarbage with
        | true => simp [next?, cursor?, found, dead]
        | false =>
          have unattached : f.isUnattached = true := by
            simpa [Fact.isUnattached, Fact.isAsserted, dead] using asserted
          simp [next?, cursor?, found, dead, (loose h f found unattached).1]

/-- The bound on the search is not met: there are no more facts behind one than slots. -/
theorem Consistent.nextInScope?_eq (visits : Visits s.next? here hs) (behind : hs <:+ s.order) :
    s.nextInScope? here = hs.find? s.isInScope := by
  have threaded := consistent.threaded_order
  obtain ⟨front, split⟩ := behind
  rw [← split] at threaded
  obtain ⟨p, start, -, rest⟩ := FactList.chain_append.mp threaded.chain
  have begins : s.next? here = start := by
    rw [rest.start_eq]
    cases visits with
    | done last => exact last
    | onward there => exact there
  rw [nextInScope?, begins, FactList.onward, FactList.walk_eq rest rfl ?_]
  refine Arena.length_le_slots (List.nodup_append'.mp threaded.once).2.1 fun k inside => ?_
  exact threaded.stored k (List.mem_append_right front inside)

/-- A walk through the facts in scope passes over the others. -/
theorem Consistent.visits_inScope (visits : Visits s.next? here hs) (behind : hs <:+ s.order) :
    Visits s.nextInScope? here (hs.filter s.isInScope) := by
  induction visits with
  | done last => exact .done (consistent.nextInScope?_eq (.done last) behind)
  | @onward here h hs there rest ih =>
    have later := (List.suffix_cons h hs).trans behind
    have goes := consistent.nextInScope?_eq (.onward there rest) behind
    cases visible : s.isInScope h with
    | true =>
      rw [List.find?_cons_of_pos visible] at goes
      rw [List.filter_cons_of_pos visible]
      exact .onward goes (ih later)
    | false =>
      rw [List.find?_cons_of_neg (by simp [visible]), ← consistent.nextInScope?_eq rest later] at goes
      rw [List.filter_cons_of_neg (by simp [visible])]
      exact (ih later).congr goes

end Consistent

/-- The template of a stored fact is known, and its module decides whether the fact is in scope. -/
theorem Tallied.scope [JoinNetwork N] (tallied : s.Tallied) (found : s.get? h = some f) :
    ∃ template, s.templates.get? f.templateId = some template ∧
      (s.isInScope h = true ↔ s.SeesModule template.module) := by
  have known := tallied.busy_pos found
  cases entry : s.templates.entryOf? f.templateId with
  | none => simp [TemplateRegistry.busyCount, entry] at known
  | some e =>
    have named : s.templates.get? f.templateId = some e.template := by
      simp [TemplateRegistry.get?, entry]
    refine ⟨e.template, named, ?_⟩
    rw [isInScope, found, Option.any_some, TemplateRegistry.isVisible, named, Option.any_some,
      SeesModule, Bool.or_eq_true, beq_iff_eq, List.contains_iff_mem]
    cases s.templates.imports? s.templates.currentModule <;> simp

theorem Consistent.walked [JoinNetwork N] (consistent : s.Consistent) (loose : s.Loose)
    (tallied : s.Tallied) : s.Walked where
  order := consistent.visits_order
  templateFacts := consistent.visits_templateFacts
  inScope := consistent.visits_inScope consistent.visits_order (List.suffix_refl _)
  seeks here found := by
    obtain ⟨hs, visits, behind⟩ := consistent.visits_from loose here
    rw [consistent.nextInScope?_eq visits behind]
    exact ⟨(Seeks.of_visits visits).unique, fun same => same ▸ .of_visits visits⟩
  linked := visits_linked consistent.threaded_order
  linkedInTemplate t := visits_linked (consistent.threaded_templateFacts t)
  mem_order _ := consistent.mem_order
  mem_templateFacts _ _ := consistent.mem_templateFacts
  scope _ _ found := tallied.scope found
  once := consistent.threaded_order.once
  onceInTemplate t := (consistent.threaded_templateFacts t).once
  count := consistent.threaded_order.length
  countInTemplate t := (consistent.threaded_templateFacts t).length

end Store

end FactBase

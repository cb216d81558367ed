import FactBase.Store.Attach
import FactBase.Proofs.Store.Index
import FactBase.Proofs.Store.Threads

/-!
# Consistent fact bases

The lists, the hash index and the garbage list all say which facts are asserted and which are
retracted. A fact base is consistent when they agree with each other and with the facts. Whatever
changes facts without changing what these structures record of them keeps a fact base consistent;
so do all changes of unattached facts.
-/

namespace FactBase

/-- A list leads through exactly the stored facts that satisfy a condition, once each and in both
directions. -/
def Lists (facts : Arena Fact) (thread : Thread) (l : FactList) (P : Fact → Prop) : Prop :=
  ∃ hs, FactList.Threaded facts thread l hs ∧ ∀ h, h ∈ hs ↔ ∃ f, facts.get? h = some f ∧ P f

namespace Store

variable {N : Type}

structure Consistent (s : Store N) : Prop where
  listed : Lists s.facts .global s.global (·.isAsserted = true)
  listedByTemplate : ∀ t, Lists s.facts .inTemplate (s.listOf t) fun f =>
    f.isAsserted = true ∧ f.templateId = t
  /-- Every asserted fact is indexed by its content, and nothing else is indexed. -/
  indexed : ∀ e, e ∈ s.index.entries ↔
    ∃ f, s.get? e.fact = some f ∧ f.isAsserted = true ∧ e.hash = s.hashOf f
  indexedOnce : s.index.entries.Nodup
  index : s.index.Sound
  garbage : ∀ h, h ∈ s.garbage ↔ ∃ f, s.get? h = some f ∧ f.isGarbage = true
  garbageOnce : s.garbage.Nodup

/-- Beside everything: in no list, not indexed and no garbage. -/
structure Aside (s : Store N) (h : Handle) : Prop where
  unlisted : h ∉ s.order
  unlistedByTemplate : ∀ t, h ∉ s.templateFacts t
  unindexed : ∀ hash, ⟨hash, h⟩ ∉ s.index.entries
  kept : h ∉ s.garbage

/-- A consistent fact base together with what keeps it so. -/
structure Sound (s : Store N) : Prop extends Consistent s where
  tidy : s.facts.Tidy
  hashed : ∀ h f, s.get? h = some f → f.isAsserted = true → f.hash = s.hashOf f
  numbered : 0 < s.nextIndex
  /-- Only facts that were asserted become garbage. -/
  retracted : ∀ h f, s.get? h = some f → f.isGarbage = true → f.index ≠ 0

end Store

/-! ### Facts of which the same is recorded -/

/-- Facts that agree in everything that lists, index and garbage list depend on. -/
structure Fact.Like (f g : Fact) : Prop where
  index : f.index = g.index
  isGarbage : f.isGarbage = g.isGarbage
  global : f.global = g.global
  inTemplate : f.inTemplate = g.inTemplate
  hash : f.hash = g.hash
  templateId : f.templateId = g.templateId
  values : f.values = g.values

namespace Fact.Like

variable {f g : Fact}

theorem refl (f : Fact) : f.Like f := ⟨rfl, rfl, rfl, rfl, rfl, rfl, rfl⟩

theorem isAsserted (like : f.Like g) : f.isAsserted = g.isAsserted := by
  rw [Fact.isAsserted, Fact.isAsserted, like.index, like.isGarbage]

theorem isUnattached (like : f.Like g) : f.isUnattached = g.isUnattached := by
  rw [Fact.isUnattached, Fact.isUnattached, like.index, like.isGarbage]

theorem links (like : f.Like g) (thread : Thread) : f.links thread = g.links thread := by
  cases thread
  · exact like.global
  · exact like.inTemplate

end Fact.Like

theorem Fact.isUnattached_iff {f : Fact} :
    f.isUnattached = true ↔ f.index = 0 ∧ f.isGarbage = false := by
  simp [Fact.isUnattached]

theorem Fact.isAsserted_iff {f : Fact} :
    f.isAsserted = true ↔ f.index ≠ 0 ∧ f.isGarbage = false := by
  simp [Fact.isAsserted]

theorem isAsserted_iff_exists {N : Type} {s : Store N} {h : Handle} :
    s.isAsserted h = true ↔ ∃ f, s.get? h = some f ∧ f.isAsserted = true :=
  Option.any_eq_true _ _

/-- Only asserted facts can be changed. -/
theorem asserted_eq_ok {N : Type} {s : Store N} {h : Handle} {f : Fact}
    (held : s.asserted h = .ok f) : s.get? h = some f ∧ f.isAsserted = true := by
  unfold Store.asserted at held
  split at held
  · cases held
  · split at held
    · cases held
    · split at held
      · cases held
      · rename_i g found notGarbage numbered
        obtain rfl := Except.ok.inj held
        exact ⟨found, Fact.isAsserted_iff.mpr ⟨numbered, Bool.eq_false_iff.mpr notGarbage⟩⟩

/-- What a handle named before and after a change: facts of which the same is recorded, or
unattached facts at most. -/
def Same (a b : Option Fact) : Prop :=
  (∃ f g, a = some f ∧ b = some g ∧ f.Like g) ∨
    (∀ f, a = some f → f.isUnattached = true) ∧ ∀ g, b = some g → g.isUnattached = true

theorem Same.refl (a : Option Fact) : Same a a := by
  cases a with
  | none => exact .inr ⟨by simp, by simp⟩
  | some f => exact .inl ⟨f, f, rfl, rfl, .refl f⟩

/-- A condition on what is recorded of attached facts holds before a change if it does after. -/
theorem Same.exists_iff {a b : Option Fact} (same : Same a b) {P : Fact → Prop}
    (recorded : ∀ f g : Fact, f.Like g → (P f ↔ P g))
    (attached : ∀ f : Fact, f.isUnattached = true → ¬ P f) :
    (∃ f, a = some f ∧ P f) ↔ ∃ f, b = some f ∧ P f := by
  rcases same with ⟨f, g, rfl, rfl, like⟩ | ⟨before, after⟩
  · simp [recorded f g like]
  · constructor
    · rintro ⟨f, hf, holds⟩
      exact absurd holds (attached f (before f hf))
    · rintro ⟨f, hf, holds⟩
      exact absurd holds (attached f (after f hf))

/-- An attached fact stays, and the same is recorded of it. -/
theorem Same.attached {a b : Option Fact} (same : Same a b) {f : Fact} (hf : a = some f)
    (attached : f.isUnattached = false) : ∃ g, b = some g ∧ f.Like g := by
  rcases same with ⟨f', g, ha, hb, like⟩ | ⟨before, _⟩
  · rw [hf] at ha
    obtain rfl := Option.some.inj ha
    exact ⟨g, hb, like⟩
  · rw [before f hf] at attached
    cases attached

theorem Same.symm {a b : Option Fact} (same : Same a b) : Same b a := by
  rcases same with ⟨f, g, hf, hg, like⟩ | ⟨before, after⟩
  · exact .inl ⟨g, f, hg, hf, like.index.symm, like.isGarbage.symm, like.global.symm,
      like.inTemplate.symm, like.hash.symm, like.templateId.symm, like.values.symm⟩
  · exact .inr ⟨after, before⟩

/-- The ends of a list satisfy the condition. -/
theorem Lists.tail {a : Arena Fact} {thread : Thread} {l : FactList} {P : Fact → Prop} {p : Handle}
    (lists : Lists a thread l P) (ends : l.tail = some p) : ∃ f, a.get? p = some f ∧ P f := by
  obtain ⟨hs, threaded, mem⟩ := lists
  have last := threaded.chain.last_eq
  rw [ends, Option.or_none, eq_comm] at last
  exact (mem p).mp (List.mem_of_getLast? last)

theorem Lists.head {a : Arena Fact} {thread : Thread} {l : FactList} {P : Fact → Prop} {p : Handle}
    (lists : Lists a thread l P) (begins : l.head = some p) : ∃ f, a.get? p = some f ∧ P f := by
  obtain ⟨hs, threaded, mem⟩ := lists
  have first := threaded.chain.start_eq
  rw [begins, Option.or_none, eq_comm] at first
  exact (mem p).mp (List.mem_of_head? first)

theorem Lists.head_ne_none {a : Arena Fact} {thread : Thread} {l : FactList} {P : Fact → Prop}
    (lists : Lists a thread l P) {h : Handle} {f : Fact} (found : a.get? h = some f) (holds : P f) :
    l.head ≠ none := by
  obtain ⟨hs, threaded, mem⟩ := lists
  have first := threaded.chain.start_eq
  rw [Option.or_none] at first
  rw [first, ne_eq, List.head?_eq_none_iff]
  exact List.ne_nil_of_mem ((mem h).mpr ⟨f, found, holds⟩)

/-- A list is empty if no fact satisfies the condition. -/
theorem Lists.eq_empty {a : Arena Fact} {thread : Thread} {l : FactList} {P : Fact → Prop}
    (lists : Lists a thread l P) (none : ∀ h f, a.get? h = some f → ¬ P f) : l = {} := by
  obtain ⟨hs, ⟨chain, length, once⟩, mem⟩ := lists
  cases hs with
  | cons h hs =>
    obtain ⟨f, found, holds⟩ := (mem h).mp List.mem_cons_self
    exact absurd holds (none h f found)
  | nil =>
    obtain ⟨head, tail, n⟩ := l
    obtain rfl : n = 0 := length
    cases chain
    rfl

theorem Lists.congr {a b : Arena Fact} {thread : Thread} {l : FactList} {P : Fact → Prop}
    (lists : Lists a thread l P) (same : ∀ h, Same (a.get? h) (b.get? h))
    (recorded : ∀ f g : Fact, f.Like g → (P f ↔ P g))
    (attached : ∀ f : Fact, f.isUnattached = true → ¬ P f) : Lists b thread l P := by
  obtain ⟨hs, threaded, mem⟩ := lists
  refine ⟨hs, ⟨threaded.chain.congr fun h hh => ?_, threaded.length, threaded.once⟩, fun h => ?_⟩
  · obtain ⟨f, hf, holds⟩ := (mem h).mp hh
    have listed : f.isUnattached = false := Bool.eq_false_iff.mpr fun u => attached f u holds
    obtain ⟨g, hg, like⟩ := (same h).attached hf listed
    simp [FactList.linksAt, hf, hg, like.links thread]
  · rw [mem h]
    exact (same h).exists_iff recorded attached

namespace Store

variable {N : Type} {s s' : Store N}

theorem not_asserted_of_unattached {f : Fact} (unattached : f.isUnattached = true) :
    ¬ f.isAsserted = true := by
  rw [Fact.isUnattached_iff] at unattached
  rw [Fact.isAsserted_iff]
  exact fun asserted => asserted.1 unattached.1

/-- The way along the list of all facts meets the asserted facts. -/
theorem Consistent.mem_order (consistent : s.Consistent) {h : Handle} :
    h ∈ s.order ↔ ∃ f, s.get? h = some f ∧ f.isAsserted = true := by
  obtain ⟨hs, threaded, mem⟩ := consistent.listed
  rw [order, threaded.onward_eq]
  exact mem h

/-- The way along a template's list meets its asserted facts. -/
theorem Consistent.mem_templateFacts (consistent : s.Consistent) {t : TemplateId} {h : Handle} :
    h ∈ s.templateFacts t ↔ ∃ f, s.get? h = some f ∧ f.isAsserted = true ∧ f.templateId = t := by
  obtain ⟨hs, threaded, mem⟩ := consistent.listedByTemplate t
  rw [templateFacts, threaded.onward_eq]
  exact mem h

theorem Consistent.aside (consistent : s.Consistent) {h : Handle} {f : Fact}
    (found : s.get? h = some f) (unattached : f.isUnattached = true) : s.Aside h := by
  have not_asserted {g : Fact} (same : s.get? h = some g) : ¬ g.isAsserted = true := by
    rw [found] at same
    cases same
    exact not_asserted_of_unattached unattached
  refine ⟨fun inside => ?_, fun t inside => ?_, fun hash inside => ?_, fun inside => ?_⟩
  · obtain ⟨g, same, asserted⟩ := consistent.mem_order.mp inside
    exact not_asserted same asserted
  · obtain ⟨g, same, asserted, _⟩ := consistent.mem_templateFacts.mp inside
    exact not_asserted same asserted
  · obtain ⟨g, same, asserted, _⟩ := (consistent.indexed _).mp inside
    exact not_asserted same asserted
  · obtain ⟨g, same, garbage⟩ := (consistent.garbage h).mp inside
    rw [found] at same
    cases same
    rw [(Fact.isUnattached_iff.mp unattached).2] at garbage
    cases garbage

theorem Sound.attached_of_mem_templateFacts (sound : s.Sound) {t : TemplateId} {h : Handle}
    (mem : h ∈ s.templateFacts t) : ∃ f, s.get? h = some f ∧ f.isUnattached = false := by
  obtain ⟨f, found, asserted, _⟩ := sound.mem_templateFacts.mp mem
  exact ⟨f, found, Bool.eq_false_iff.mpr fun u => not_asserted_of_unattached u asserted⟩

/-- An unnumbered fact was never attached. -/
theorem unattached_of_unnumbered (sound : s.Sound) {h : Handle} {f : Fact}
    (found : s.get? h = some f) (unnumbered : f.index = 0) : f.isUnattached = true := by
  rw [Fact.isUnattached_iff]
  refine ⟨unnumbered, Bool.eq_false_iff.mpr fun garbage => ?_⟩
  exact sound.retracted h f found garbage unnumbered

/-- A change of which lists, index and garbage list see nothing. -/
structure Alike (s s' : Store N) : Prop where
  facts : ∀ h, Same (s.get? h) (s'.get? h)
  tidy : s.facts.Tidy → s'.facts.Tidy
  global : s'.global = s.global
  lists : ∀ t, s'.listOf t = s.listOf t
  index : s'.index = s.index
  contentHash : s'.contentHash = s.contentHash
  garbage : s'.garbage = s.garbage
  nextIndex : s'.nextIndex = s.nextIndex
  guarded : s'.guarded = s.guarded

theorem Alike.hashOf (alike : s.Alike s') {f g : Fact} (like : f.Like g) :
    s'.hashOf g = s.hashOf f := by
  rw [Store.hashOf, Store.hashOf, alike.contentHash, like.templateId, like.values]

theorem Alike.isAsserted (alike : s.Alike s') (h : Handle) : s'.isAsserted h = s.isAsserted h := by
  have none {a : Option Fact} (unattached : ∀ f, a = some f → f.isUnattached = true) :
      a.any (·.isAsserted) = false := by
    cases a with
    | none => rfl
    | some f => exact Bool.eq_false_iff.mpr (not_asserted_of_unattached (unattached f rfl))
  unfold Store.isAsserted
  rcases alike.facts h with ⟨f, g, found, found', like⟩ | ⟨before, after⟩
  · rw [found, found']
    exact like.isAsserted.symm
  · rw [none before, none after]

theorem Sound.alike (sound : s.Sound) (alike : s.Alike s') : s'.Sound where
  listed := by
    rw [alike.global]
    refine sound.listed.congr alike.facts (fun f g like => ?_) fun f => not_asserted_of_unattached
    rw [like.isAsserted]
  listedByTemplate t := by
    rw [alike.lists]
    refine (sound.listedByTemplate t).congr alike.facts (fun f g like => ?_) fun f u holds =>
      not_asserted_of_unattached u holds.1
    rw [like.isAsserted, like.templateId]
  indexed e := by
    rw [alike.index, sound.indexed]
    have hash (f : Fact) : s'.hashOf f = s.hashOf f := alike.hashOf (.refl f)
    simp only [hash]
    refine (alike.facts e.fact).exists_iff (fun f g like => ?_) fun f u holds =>
      not_asserted_of_unattached u holds.1
    rw [like.isAsserted, Store.hashOf, Store.hashOf, like.templateId, like.values]
  indexedOnce := alike.index ▸ sound.indexedOnce
  index := alike.index ▸ sound.index
  garbage h := by
    rw [alike.garbage, sound.garbage]
    refine (alike.facts h).exists_iff (fun f g like => by rw [like.isGarbage]) fun f u holds => ?_
    rw [(Fact.isUnattached_iff.mp u).2] at holds
    cases holds
  garbageOnce := alike.garbage ▸ sound.garbageOnce
  tidy := alike.tidy sound.tidy
  hashed h g hg asserted := by
    have attached : g.isUnattached = false :=
      Bool.eq_false_iff.mpr fun u => not_asserted_of_unattached u asserted
    obtain ⟨f, hf, like⟩ := (alike.facts h).symm.attached hg attached
    have before := sound.hashed h f hf (like.isAsserted ▸ asserted)
    rw [like.hash, before, Store.hashOf, Store.hashOf, alike.contentHash, like.templateId,
      like.values]
  numbered := alike.nextIndex ▸ sound.numbered
  retracted h g hg garbage := by
    have attached : g.isUnattached = false :=
      Bool.eq_false_iff.mpr fun u => by
        rw [(Fact.isUnattached_iff.mp u).2] at garbage
        cases garbage
    obtain ⟨f, hf, like⟩ := (alike.facts h).symm.attached hg attached
    rw [like.index]
    exact sound.retracted h f hf (like.isGarbage ▸ garbage)

end Store

end FactBase

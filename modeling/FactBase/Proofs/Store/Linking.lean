import FactBase.Store.Attach
import FactBase.Proofs.Basic
import FactBase.Proofs.Store.Consistent

/-!
# Both lists of a fact

An asserted fact stands in the list of all facts and in that of its template. Linking puts a fact
behind given facts of either list, unlinking takes it out of both. Neither changes anything but
links, and the lists of other templates stay as they are.
-/

namespace FactBase

/-- A fact apart from its links. -/
def Fact.bare (f : Fact) : Fact := { f with global := {}, inTemplate := {} }

/-- Arenas that differ in links at most. -/
structure Relinked (a b : Arena Fact) : Prop where
  bare : ∀ h, (b.get? h).map Fact.bare = (a.get? h).map Fact.bare
  tidy : a.Tidy → b.Tidy

namespace Relinked

variable {a b c : Arena Fact}

theorem trans (ab : Relinked a b) (bc : Relinked b c) : Relinked a c :=
  ⟨fun h => (bc.bare h).trans (ab.bare h), fun tidy => bc.tidy (ab.tidy tidy)⟩

theorem of_sameBut {thread : Thread} (same : FactList.SameBut thread a b) : Relinked a b := by
  refine ⟨fun h => ?_, same.tidy⟩
  have bare := congrArg (Option.map Fact.bare) (same.facts h)
  simp only [Option.map_map] at bare
  cases thread <;> exact bare

/-- A stored fact stays, apart from its links. -/
theorem get? (relinked : Relinked a b) {h : Handle} {f : Fact} (found : a.get? h = some f) :
    ∃ g, b.get? h = some g ∧ g.bare = f.bare := by
  have bare := relinked.bare h
  rw [found, Option.map_some, Option.map_eq_some_iff] at bare
  exact bare

end Relinked

/-- What a view that is blind to links shows of facts that are the same apart from their links. -/
theorem Fact.view_eq {α : Type} {f g : Fact} (view : Fact → α) (same : g.bare = f.bare)
    (blind : ∀ f, view f.bare = view f) : view g = view f := by
  rw [← blind g, same, blind]

/-- An arena in which one fact stands where another did or none, and in which links may differ. -/
structure Replaced (h : Handle) (g : Fact) (a b : Arena Fact) : Prop where
  bare : ∀ k, (b.get? k).map Fact.bare = if k = h then some g.bare else (a.get? k).map Fact.bare

namespace Replaced

variable {h : Handle} {g : Fact} {a b : Arena Fact}

theorem of_relinked {c : Arena Fact} (relinked : Relinked c b)
    (names : ∀ k, c.get? k = if k = h then some g else a.get? k) : Replaced h g a b := by
  refine ⟨fun k => ?_⟩
  rw [relinked.bare, names]
  split <;> rfl

/-- One fact changes in other things than its links. -/
theorem of_update {f : Fact} {u : Fact → Fact} (relinked : Relinked a b)
    (found : a.get? h = some f) (blind : ∀ f, (u f.bare).bare = (u f).bare) :
    Replaced h (u f) a (b.update h u) := by
  obtain ⟨f', after, same⟩ := relinked.get? found
  refine ⟨fun k => ?_⟩
  rw [Arena.get?_update]
  by_cases here : k = h
  · rw [if_pos here, if_pos here, after, Option.map_some, Option.map_some, ← blind, same, blind]
  · rw [if_neg here, if_neg here, relinked.bare]

theorem here (replaced : Replaced h g a b) : ∃ f, b.get? h = some f ∧ f.bare = g.bare := by
  have bare := replaced.bare h
  rw [if_pos rfl] at bare
  exact Option.map_eq_some_iff.mp bare

theorem elsewhere (replaced : Replaced h g a b) {k : Handle} (other : k ≠ h) {f : Fact}
    (found : a.get? k = some f) : ∃ f', b.get? k = some f' ∧ f'.bare = f.bare := by
  have bare := replaced.bare k
  rw [if_neg other, found] at bare
  exact Option.map_eq_some_iff.mp bare

/-- A condition that is blind to links holds of the new fact or of an old one. -/
theorem exists_iff (replaced : Replaced h g a b) {P : Fact → Prop} (k : Handle)
    (blind : ∀ f, P f.bare ↔ P f) :
    (∃ f, b.get? k = some f ∧ P f) ↔ if k = h then P g else ∃ f, a.get? k = some f ∧ P f := by
  have bare := replaced.bare k
  by_cases here : k = h
  · rw [if_pos here, Option.map_eq_some_iff] at bare
    obtain ⟨f, found, same⟩ := bare
    simp only [found, Option.some.injEq, exists_eq_left', if_pos here]
    rw [← blind f, same, blind]
  · rw [if_neg here] at bare
    rw [if_neg here]
    cases before : a.get? k with
    | none =>
      rw [before, Option.map_none, Option.map_eq_none_iff] at bare
      simp [bare]
    | some f =>
      rw [before, Option.map_some, Option.map_eq_some_iff] at bare
      obtain ⟨f', found, same⟩ := bare
      simp only [found, Option.some.injEq, exists_eq_left']
      rw [← blind f', same, blind]

theorem all (replaced : Replaced h g a b) {Q : Fact → Prop} (new : Q g)
    (old : ∀ k f, a.get? k = some f → Q f)
    (blind : ∀ f, Q f.bare ↔ Q f) : ∀ k f, b.get? k = some f → Q f := by
  intro k f found
  have bare := replaced.bare k
  rw [found, Option.map_some] at bare
  rw [← blind]
  by_cases here : k = h
  · rw [if_pos here, Option.some.injEq] at bare
    rw [bare, blind]
    exact new
  · rw [if_neg here, eq_comm, Option.map_eq_some_iff] at bare
    obtain ⟨f', before, same⟩ := bare
    rw [← same, blind]
    exact old k f' before

end Replaced

namespace FactList

variable {a b : Arena Fact} {thread other : Thread} {hs front back : List Handle} {l : FactList}

/-- Changing the links of one thread leaves those of the other. -/
theorem SameBut.linksAt_eq (same : SameBut thread a b) (apart : other ≠ thread) (h : Handle) :
    linksAt b other h = linksAt a other h := by
  have links := congrArg (Option.map (·.links other)) (same.facts h)
  simp only [Option.map_map] at links
  cases thread <;> cases other <;> first | exact absurd rfl apart | exact links

theorem linksAt_update (a : Arena Fact) (thread : Thread) (h k : Handle) {u : Fact → Fact}
    (same : ∀ f, (u f).links thread = f.links thread) :
    linksAt (a.update h u) thread k = linksAt a thread k := by
  unfold linksAt
  rw [Arena.get?_update]
  by_cases here : k = h
  · rw [if_pos here, here, Option.map_map]
    exact congrArg (Option.map · _) (funext same)
  · rw [if_neg here]

theorem Threaded.congr (threaded : Threaded a thread l hs)
    (same : ∀ h ∈ hs, linksAt b thread h = linksAt a thread h) : Threaded b thread l hs :=
  ⟨threaded.chain.congr same, threaded.length, threaded.once⟩

end FactList

namespace Lists

variable {h : Handle} {g : Fact} {a b : Arena Fact} {thread : Thread} {l m : FactList}
  {front back : List Handle} {P : Fact → Prop}

/-- A fact that comes to satisfy the condition is put in. -/
theorem join (replaced : Replaced h g a b) (holds : P g)
    (mem : ∀ k, k ∈ front ++ back ↔ ∃ f, a.get? k = some f ∧ P f)
    (threaded : FactList.Threaded b thread l (front ++ h :: back))
    (blind : ∀ f, P f.bare ↔ P f) : Lists b thread l P := by
  refine ⟨_, threaded, fun k => ?_⟩
  rw [replaced.exists_iff k blind, ← mem, List.mem_append, List.mem_cons, List.mem_append]
  by_cases here : k = h
  · simp [here, holds]
  · simp [here]

/-- A fact that no longer satisfies the condition is taken out. -/
theorem leave (replaced : Replaced h g a b) (fails : ¬ P g)
    (mem : ∀ k, k ∈ front ++ h :: back ↔ ∃ f, a.get? k = some f ∧ P f)
    (once : (front ++ h :: back).Nodup) (threaded : FactList.Threaded b thread l (front ++ back))
    (blind : ∀ f, P f.bare ↔ P f) : Lists b thread l P := by
  refine ⟨_, threaded, fun k => ?_⟩
  rw [replaced.exists_iff k blind, ← mem, List.mem_append, List.mem_append, List.mem_cons]
  obtain ⟨out, -⟩ := List.nodup_cons.mp (List.nodup_middle.mp once)
  by_cases here : k = h
  · subst here
    simpa [fails] using out
  · simp [here]

/-- The facts that satisfy the condition are the same. -/
theorem of_agree (lists : Lists a thread l P)
    (agree : ∀ k f, P f → (b.get? k = some f ↔ a.get? k = some f)) : Lists b thread l P := by
  obtain ⟨hs, threaded, mem⟩ := lists
  refine ⟨hs, threaded.congr fun k hk => ?_, fun k => ?_⟩
  · obtain ⟨f, found, holds⟩ := (mem k).mp hk
    rw [FactList.linksAt, FactList.linksAt, found, (agree k f holds).mpr found]
  · rw [mem]
    refine exists_congr fun f => and_congr_left fun holds => ?_
    exact (agree k f holds).symm

/-- A list that the fact is in neither before nor after, and whose links stay. -/
theorem keep (lists : Lists a thread l P) (replaced : Replaced h g a b)
    (before : ∀ f, a.get? h = some f → ¬ P f) (after : ¬ P g)
    (links : ∀ k, k ≠ h → (∃ f, a.get? k = some f ∧ P f) →
      FactList.linksAt b thread k = FactList.linksAt a thread k)
    (blind : ∀ f, P f.bare ↔ P f) : Lists b thread l P := by
  obtain ⟨hs, threaded, mem⟩ := lists
  refine ⟨hs, threaded.congr fun k hk => ?_, fun k => ?_⟩
  · refine links k ?_ ((mem k).mp hk)
    rintro rfl
    obtain ⟨f, found, holds⟩ := (mem k).mp hk
    exact before f found holds
  · rw [replaced.exists_iff k blind, mem]
    by_cases here : k = h
    · subst here
      simpa [after] using before
    · rw [if_neg here]

end Lists

/-- Where a list is split to go on behind one of its members, or at the head. -/
theorem split_behind {α : Type} {xs : List α} {previous : Option α}
    (listed : ∀ p, previous = some p → p ∈ xs) :
    ∃ front back, xs = front ++ back ∧ front.getLast? = previous := by
  cases previous with
  | none => exact ⟨[], xs, rfl, rfl⟩
  | some p =>
    obtain ⟨front, back, rfl⟩ := List.append_of_mem (listed p rfl)
    exact ⟨front ++ [p], back, by simp, by simp⟩

namespace Store

variable {N : Type} {s : Store N} {t : TemplateId} {h : Handle} {hs ts : List Handle}

theorem listOf_setListOf (s : Store N) (t u : TemplateId) (l : FactList) :
    (s.setListOf t l).listOf u = if u = t then l else s.listOf u := by
  unfold listOf setListOf
  by_cases same : u = t
  · simp [same]
  · have passed : (u == t) = false := by simpa using same
    rw [if_neg same, List.lookup_cons, passed, lookup_filter_of_ne _ same]

/-- Both lists of a fact lead through it where it was put, and the links of all other threads stay
as they are. -/
theorem link_at {front back templateFront templateBack : List Handle}
    (global : FactList.Threaded s.facts .global s.global (front ++ back))
    (byTemplate : FactList.Threaded s.facts .inTemplate (s.listOf t) (templateFront ++ templateBack))
    (new : h ∉ front ++ back) (newInTemplate : h ∉ templateFront ++ templateBack)
    (stored : (s.facts.get? h).isSome) :
    ∃ l facts m, s.link t h front.getLast? templateFront.getLast? =
        .ok ({ s with global := l, facts }.setListOf t m) ∧
      FactList.Threaded facts .global l (front ++ h :: back) ∧
      FactList.Threaded facts .inTemplate m (templateFront ++ h :: templateBack) ∧
      Relinked s.facts facts ∧
      (∀ k, k ≠ h → k ∉ templateFront ++ templateBack →
        FactList.linksAt facts .inTemplate k = FactList.linksAt s.facts .inTemplate k) ∧
      ∀ k, k ≠ h → k ∉ front ++ back → k ∉ templateFront ++ templateBack →
        facts.get? k = s.facts.get? k := by
  obtain ⟨l, a, linked, threaded, same, elsewhere⟩ := FactList.linkAfter_spec global new stored
  have crossed (k : Handle) :
      FactList.linksAt a .inTemplate k = FactList.linksAt s.facts .inTemplate k :=
    same.linksAt_eq (by simp) k
  obtain ⟨m, b, linkedInTemplate, threadedInTemplate, sameInTemplate, elsewhereInTemplate⟩ :=
    FactList.linkAfter_spec (byTemplate.congr fun k _ => crossed k) newInTemplate
      (same.isSome h ▸ stored)
  refine ⟨l, b, m, ?_, threaded.congr fun k _ => sameInTemplate.linksAt_eq (by simp) k,
    threadedInTemplate, (Relinked.of_sameBut same).trans (.of_sameBut sameInTemplate),
    fun k hk outside => ?_, fun k hk outside outsideTemplate => ?_⟩
  · simp only [link, linked, linkedInTemplate, bind, Except.bind]
  · rw [← crossed, FactList.linksAt, FactList.linksAt, elsewhereInTemplate]
    simpa [hk] using outside
  · rw [elsewhereInTemplate k (by simpa [hk] using outsideTemplate),
      elsewhere k (by simpa [hk] using outside)]

/-- A fact is put behind given ones of its lists. -/
theorem link_spec (global : FactList.Threaded s.facts .global s.global hs)
    (byTemplate : FactList.Threaded s.facts .inTemplate (s.listOf t) ts)
    (new : h ∉ hs) (newInTemplate : h ∉ ts) (stored : (s.facts.get? h).isSome)
    {previous templatePrevious : Option Handle} (listed : ∀ p, previous = some p → p ∈ hs)
    (listedInTemplate : ∀ p, templatePrevious = some p → p ∈ ts) :
    ∃ l facts m front back templateFront templateBack,
      s.link t h previous templatePrevious =
        .ok ({ s with global := l, facts }.setListOf t m) ∧
      hs = front ++ back ∧ ts = templateFront ++ templateBack ∧
      FactList.Threaded facts .global l (front ++ h :: back) ∧
      FactList.Threaded facts .inTemplate m (templateFront ++ h :: templateBack) ∧
      Relinked s.facts facts ∧
      (∀ k, k ≠ h → k ∉ ts →
        FactList.linksAt facts .inTemplate k = FactList.linksAt s.facts .inTemplate k) ∧
      ∀ k, k ≠ h → k ∉ hs → k ∉ ts → facts.get? k = s.facts.get? k := by
  obtain ⟨front, back, rfl, rfl⟩ := split_behind listed
  obtain ⟨templateFront, templateBack, rfl, rfl⟩ := split_behind listedInTemplate
  obtain ⟨l, facts, m, linked, rest⟩ := link_at global byTemplate new newInTemplate stored
  exact ⟨l, facts, m, front, back, templateFront, templateBack, linked, rfl, rfl, rest⟩

/-- A fact that both lists lead through is taken out of both. -/
theorem unlink_spec (global : FactList.Threaded s.facts .global s.global hs)
    (byTemplate : FactList.Threaded s.facts .inTemplate (s.listOf t) ts)
    (listed : h ∈ hs) (listedInTemplate : h ∈ ts) :
    ∃ l facts m front back templateFront templateBack,
      s.unlink t h = .ok (front.getLast?, templateFront.getLast?,
        { s with global := l, facts }.setListOf t m) ∧
      hs = front ++ h :: back ∧ ts = templateFront ++ h :: templateBack ∧
      FactList.Threaded facts .global l (front ++ back) ∧
      FactList.Threaded facts .inTemplate m (templateFront ++ templateBack) ∧
      Relinked s.facts facts ∧
      (∀ k, k ∉ ts →
        FactList.linksAt facts .inTemplate k = FactList.linksAt s.facts .inTemplate k) ∧
      ∀ k, k ∉ hs → k ∉ ts → facts.get? k = s.facts.get? k := by
  obtain ⟨front, back, rfl⟩ := List.append_of_mem listed
  obtain ⟨templateFront, templateBack, rfl⟩ := List.append_of_mem listedInTemplate
  obtain ⟨l, a, unlinked, threaded, same, elsewhere⟩ := FactList.unlink_spec global
  have crossed (k : Handle) :
      FactList.linksAt a .inTemplate k = FactList.linksAt s.facts .inTemplate k :=
    same.linksAt_eq (by simp) k
  obtain ⟨m, b, unlinkedInTemplate, threadedInTemplate, sameInTemplate, elsewhereInTemplate⟩ :=
    FactList.unlink_spec (byTemplate.congr fun k _ => crossed k)
  -- The template has a list, for the fact is in it.
  have kept : s.templateLists.lookup t = some (s.listOf t) := by
    cases found : s.templateLists.lookup t with
    | some m => simp [listOf, found]
    | none =>
      have length := byTemplate.length
      simp [listOf, found] at length
  refine ⟨l, b, m, front, back, templateFront, templateBack, ?_, rfl, rfl,
    threaded.congr fun k _ => sameInTemplate.linksAt_eq (by simp) k, threadedInTemplate,
    (Relinked.of_sameBut same).trans (.of_sameBut sameInTemplate), fun k outside => ?_,
    fun k outside outsideTemplate => ?_⟩
  · simp only [unlink, unlinked, kept, unlinkedInTemplate, bind, Except.bind]
  · rw [← crossed, FactList.linksAt, FactList.linksAt, elsewhereInTemplate k outside]
  · rw [elsewhereInTemplate k outsideTemplate, elsewhere k outside]

end Store

end FactBase

import FactBase.Proofs.Store.Collecting
import FactBase.Proofs.Store.Move

/-!
# Numbers of facts

A fact gets its number when it is asserted and keeps it as long as it is stored; a fact that
supersedes another takes over its number. The number issued next is greater than all numbers of
stored facts, and numbering only starts again once no stored fact has a number. Hence no two asserted
facts share a number, and every template lists its facts in the order of their numbers, wherever
they stand in the list of all facts.
-/

namespace FactBase

/-- What is blind to links changes for one fact only. -/
theorem Replaced.map_eq {a b : Arena Fact} {h : Handle} {g : Fact} (replaced : Replaced h g a b)
    {β : Type} (view : Fact → β) (k : Handle)
    (blind : ∀ f, view f.bare = view f) :
    (b.get? k).map view = if k = h then some (view g) else (a.get? k).map view := by
  have seen (x : Option Fact) : x.map view = (x.map Fact.bare).map view := by
    cases x with
    | none => rfl
    | some f => exact congrArg some (blind f).symm
  rw [seen, replaced.bare]
  split
  · exact congrArg some (blind g)
  · exact (seen _).symm

namespace Store

variable {N : Type} {s s' : Store N} {h r : Handle} {f g : Fact}

/-- The number of a stored fact; zero if it has none. -/
def numberOf (s : Store N) (h : Handle) : Nat := ((s.get? h).map (·.index)).getD 0

/-- The asserted facts have numbers of their own, all numbers are below the next one, and every
template lists its facts by number. -/
structure Numbered (s : Store N) : Prop where
  positive : ∀ h ∈ s.order, 0 < s.numberOf h
  distinct : (s.order.map s.numberOf).Nodup
  below : ∀ h, s.numberOf h < s.nextIndex
  sorted : ∀ t, ((s.templateFacts t).map s.numberOf).Pairwise (· < ·)

/-- How numbers come and go. -/
inductive Numbers (s s' : Store N) : Prop
  /-- Asserted facts keep their numbers, and garbage does until it is freed. -/
  | kept (next : s'.nextIndex = s.nextIndex)
      (numbers : ∀ k, s'.numberOf k = s.numberOf k ∨ s.isAsserted k = false ∧ s'.numberOf k = 0)
      (asserted : ∀ k, s'.isAsserted k = true → s.isAsserted k = true)
  /-- A fact is asserted under a number greater than that of any other stored fact. -/
  | issued (h : Handle) (next : s'.nextIndex = s.nextIndex + 1) (new : s.numberOf h = 0)
      (numbers : ∀ k, s'.numberOf k = if k = h then s.nextIndex else s.numberOf k)
      (greatest : ∀ k, s.numberOf k < s.nextIndex)
      (asserted : ∀ k, s'.isAsserted k = true ↔ k = h ∨ s.isAsserted k = true)
  /-- A fact takes over the number of one that is retracted. -/
  | passed (h r : Handle) (next : s'.nextIndex = s.nextIndex) (old : s.isAsserted h = true)
      (new : s.numberOf r = 0)
      (numbers : ∀ k, s'.numberOf k = if k = r then s.numberOf h else s.numberOf k)
      (asserted : ∀ k, s'.isAsserted k = true ↔ k = r ∨ k ≠ h ∧ s.isAsserted k = true)
  /-- Numbering starts again. -/
  | restarted (next : s'.nextIndex = 1) (unnumbered : ∀ k, s.numberOf k = 0)
      (still : ∀ k, s'.numberOf k = 0)

theorem numberOf_eq (found : s.get? h = some f) : s.numberOf h = f.index := by
  rw [numberOf, found]
  rfl

theorem numberOf_of_unattached (found : s.get? h = some f) (unattached : f.isUnattached = true) :
    s.numberOf h = 0 :=
  (numberOf_eq found).trans (Fact.isUnattached_iff.mp unattached).1

/-- Whatever has a number is asserted or garbage. -/
theorem numberOf_eq_zero (unasserted : s.isAsserted h = false)
    (notGarbage : ∀ f, s.get? h = some f → f.isGarbage = false) : s.numberOf h = 0 := by
  cases found : s.get? h with
  | none => rw [numberOf, found]; rfl
  | some f =>
    rw [Store.isAsserted, found, Option.any_some, Fact.isAsserted, notGarbage f found] at unasserted
    rw [numberOf_eq found]
    simpa using unasserted

/-! ### How single changes concern numbers -/

theorem Alike.numberOf (alike : s.Alike s') (h : Handle) : s'.numberOf h = s.numberOf h := by
  have none {u : Store N} (unattached : ∀ f, u.get? h = some f → f.isUnattached = true) :
      u.numberOf h = 0 := by
    cases found : u.get? h with
    | none => rw [Store.numberOf, found]; rfl
    | some f => exact numberOf_of_unattached found (unattached f found)
  rcases alike.facts h with ⟨f, g, found, found', like⟩ | ⟨before, after⟩
  · rw [numberOf_eq found, numberOf_eq found', like.index]
  · rw [none before, none after]

theorem Alike.numbers (alike : s.Alike s') : Numbers s s' := by
  refine .kept alike.nextIndex (fun k => .inl (alike.numberOf k)) fun k asserted => ?_
  rwa [alike.isAsserted] at asserted

theorem Collects.numbers (collects : Collects s s') : Numbers s s' := by
  refine .kept collects.nextIndex (fun k => ?_) fun k asserted => ?_
  · cases found : s'.get? k with
    | some f => exact .inl ((numberOf_eq found).trans (numberOf_eq (collects.old k f found)).symm)
    | none =>
      cases before : s.get? k with
      | none => exact .inl (by rw [numberOf, numberOf, found, before])
      | some f =>
        refine .inr ⟨Bool.eq_false_iff.mpr fun asserted => ?_, by rw [numberOf, found]; rfl⟩
        rw [Store.isAsserted, before, Option.any_some] at asserted
        have stays := collects.kept k f before (Fact.isAsserted_iff.mp asserted).2
        rw [found] at stays
        cases stays
  · obtain ⟨f, found, asserted⟩ := isAsserted_iff_exists.mp asserted
    exact isAsserted_iff_exists.mpr ⟨f, collects.old k f found, asserted⟩

theorem numberOf_replaced (replaced : Replaced h g s.facts s'.facts) (k : Handle) :
    s'.numberOf k = if k = h then g.index else s.numberOf k := by
  rw [numberOf, show (s'.get? k).map (·.index) = _ from replaced.map_eq Fact.index k fun _ => rfl]
  split
  · rfl
  · rfl

theorem isAsserted_replaced (replaced : Replaced h g s.facts s'.facts) (k : Handle) :
    s'.isAsserted k = true ↔ if k = h then g.isAsserted = true else s.isAsserted k = true := by
  rw [isAsserted_iff_exists, isAsserted_iff_exists]
  exact replaced.exists_iff k fun _ => .rfl

theorem Attaches.numberOf {index : Nat} (attaches : Attaches h f index s s') (k : Handle) :
    s'.numberOf k = if k = h then index else s.numberOf k :=
  numberOf_replaced attaches.facts k

theorem Attaches.isAsserted {index : Nat} (attaches : Attaches h f index s s')
    (unattached : f.isUnattached = true) (positive : index ≠ 0) (k : Handle) :
    s'.isAsserted k = true ↔ k = h ∨ s.isAsserted k = true := by
  rw [isAsserted_replaced attaches.facts, attached_isAsserted unattached positive]
  by_cases here : k = h <;> simp [here]

theorem Detaches.numberOf (detaches : Detaches h f s s') (found : s.get? h = some f) (k : Handle) :
    s'.numberOf k = s.numberOf k := by
  rw [numberOf_replaced detaches.facts]
  split
  · rename_i here
    rw [here, numberOf_eq found]
    rfl
  · rfl

theorem Detaches.isAsserted (detaches : Detaches h f s s') (k : Handle) :
    s'.isAsserted k = true ↔ k ≠ h ∧ s.isAsserted k = true := by
  have buried : f.buried.isAsserted = false := by simp [Fact.isAsserted, Fact.buried]
  rw [isAsserted_replaced detaches.facts, buried]
  by_cases here : k = h <;> simp [here]

/-! ### Numbers of asserted facts -/

/-- All numbers are below the next one, and no two asserted facts share a number. -/
structure Apart (s : Store N) : Prop where
  below : ∀ k, s.numberOf k < s.nextIndex
  injective : ∀ k l, s.isAsserted k = true → s.isAsserted l = true → s.numberOf k = s.numberOf l →
    k = l

theorem numberOf_pos (asserted : s.isAsserted h = true) : 0 < s.numberOf h := by
  obtain ⟨f, found, asserted⟩ := isAsserted_iff_exists.mp asserted
  rw [numberOf_eq found]
  exact Nat.pos_iff_ne_zero.mpr (Fact.isAsserted_iff.mp asserted).1

theorem Apart.numbers (apart : s.Apart) (numbers : Numbers s s') : s'.Apart := by
  obtain ⟨below, injective⟩ := apart
  cases numbers with
  | kept next numbers asserted =>
    have same (k : Handle) (holds : s'.isAsserted k = true) : s'.numberOf k = s.numberOf k := by
      rcases numbers k with same | ⟨unasserted, -⟩
      · exact same
      · rw [asserted k holds] at unasserted
        cases unasserted
    constructor
    · intro k
      have before := below k
      rcases numbers k with same | ⟨-, none⟩ <;> omega
    · intro k l hk hl equal
      rw [same k hk, same l hl] at equal
      exact injective k l (asserted k hk) (asserted l hl) equal
  | issued h next new numbers greatest asserted =>
    constructor
    · intro k
      have before := below k
      rw [numbers, next]
      split <;> omega
    · intro k l hk hl equal
      have fresh {m : Handle} (holds : s'.isAsserted m = true) (other : m ≠ h) :
          s.isAsserted m = true := ((asserted m).mp holds).resolve_left other
      have hk' := below k
      have hl' := below l
      rw [numbers, numbers] at equal
      by_cases here : k = h <;> by_cases there : l = h
      · exact here.trans there.symm
      · rw [if_pos here, if_neg there] at equal
        omega
      · rw [if_neg here, if_pos there] at equal
        omega
      · rw [if_neg here, if_neg there] at equal
        exact injective k l (fresh hk here) (fresh hl there) equal
  | passed h r next old new numbers asserted =>
    constructor
    · intro k
      rw [numbers, next]
      split
      · exact below h
      · exact below k
    · intro k l hk hl equal
      have others {m : Handle} (holds : s'.isAsserted m = true) (other : m ≠ r) :
          m ≠ h ∧ s.isAsserted m = true := ((asserted m).mp holds).resolve_left other
      rw [numbers, numbers] at equal
      by_cases here : k = r <;> by_cases there : l = r
      · exact here.trans there.symm
      · rw [if_pos here, if_neg there] at equal
        exact absurd (injective h l old (others hl there).2 equal).symm (others hl there).1
      · rw [if_neg here, if_pos there] at equal
        exact absurd (injective k h (others hk here).2 old equal) (others hk here).1
      · rw [if_neg here, if_neg there] at equal
        exact injective k l (others hk here).2 (others hl there).2 equal
  | restarted next unnumbered still =>
    constructor
    · intro k
      rw [still, next]
      exact Nat.zero_lt_one
    · intro k l hk
      have positive := numberOf_pos hk
      rw [still] at positive
      cases positive

/-! ### Lists by number -/

/-- Every template lists its facts by number. -/
def Sorted (s : Store N) : Prop := ∀ t, ((s.templateFacts t).map s.numberOf).Pairwise (· < ·)

theorem Sorted.of_sublist (sorted : s.Sorted)
    (sub : ∀ t, ((s'.templateFacts t).map s'.numberOf).Sublist
      ((s.templateFacts t).map s.numberOf)) :
    s'.Sorted := fun t => (sorted t).sublist (sub t)

theorem Sorted.same (sorted : s.Sorted) (lists : ∀ t, s'.templateFacts t = s.templateFacts t)
    (numbers : ∀ t, ∀ k ∈ s.templateFacts t, s'.numberOf k = s.numberOf k) : s'.Sorted := by
  refine sorted.of_sublist fun t => ?_
  rw [lists, List.map_congr_left (numbers t)]

theorem Sorted.alike (sorted : s.Sorted) (sound : s.Sound) (alike : s.Alike s') : s'.Sorted :=
  sorted.same (alike.templateFacts sound.toConsistent) fun _ k _ => alike.numberOf k

/-- A fact whose number is the greatest goes to the end of its list. -/
theorem Sorted.asserts (sorted : s.Sorted) (sound : s.Sound) (below : ∀ k, s.numberOf k < s.nextIndex)
    (found : s.get? h = some f) (unattached : f.isUnattached = true) {previous : Option Handle}
    (listed : ∀ p, previous = some p → ∃ g, s.get? p = some g ∧ g.isAsserted = true) {index : Nat}
    (done : s.attach h none (s.hashOf f) previous (s.listOf f.templateId).tail =
      .ok (index, s')) : s'.Sorted := by
  obtain ⟨u, attached, -, attaches⟩ := attach_spec sound found unattached
    (show ∀ i, none = some i → i ≠ 0 by simp) listed
    fun p tail => (sound.listedByTemplate _).tail tail
  obtain ⟨-, rfl⟩ := Prod.mk.inj (Except.ok.inj (attached.symm.trans done))
  obtain ⟨front, back, order, rfl⟩ := sound.exists_front listed
  rw [sound.listOf_tail] at done
  obtain ⟨-, here, elsewhere⟩ :=
    attach_places sound found unattached order (List.append_nil _).symm done
  have numbers := attaches.numberOf
  have old (t : TemplateId) :
      (s.templateFacts t).map u.numberOf = (s.templateFacts t).map s.numberOf := by
    refine List.map_congr_left fun k inside => ?_
    rw [numbers, if_neg]
    rintro rfl
    exact (sound.aside found unattached).unlistedByTemplate t inside
  intro t
  by_cases same : t = f.templateId
  · subst same
    rw [here, List.map_append, old, List.map_singleton, numbers, if_pos rfl, List.pairwise_append]
    refine ⟨sorted _, List.pairwise_singleton _ _, fun i inside j last => ?_⟩
    obtain ⟨k, -, rfl⟩ := List.mem_map.mp inside
    rw [List.mem_singleton.mp last]
    exact below k
  · rw [elsewhere t same, old]
    exact sorted t

variable [JoinNetwork N]

/-- A fact with the number of another stands in its place. -/
theorem Sorted.supersedes (sorted : s.Sorted) (sound : s.Sound) (found : s.get? h = some f)
    (waiting : s.get? r = some g) (unattached : g.isUnattached = true)
    (template : g.templateId = f.templateId) {d : Detached} {u : Store N}
    (detached : s.detach h = .ok (d, u)) {index : Nat}
    (done : u.attach r (some f.index) (s.hashOf g) d.previous d.templatePrevious =
      .ok (index, s')) : s'.Sorted := by
  obtain ⟨-, sound', detaches, waits, -, attaches⟩ :=
    supersedes_spec sound found waiting unattached template detached done
  obtain ⟨f', front, back, templateFront, templateBack, found', -, order, previous, before, after,
    templatePrevious, others⟩ := detach_places sound detached
  obtain rfl := Option.some.inj (found.symm.trans found')
  have hashed : s.hashOf g = u.hashOf g := by
    rw [Store.hashOf, Store.hashOf, detaches.leaves.contentHash]
  rw [hashed, previous, templatePrevious] at done
  rw [← template] at before after others
  obtain ⟨-, here, elsewhere⟩ := attach_places sound' waits unattached order after done
  have numbers (k : Handle) : s'.numberOf k = if k = r then s.numberOf h else s.numberOf k := by
    rw [attaches.numberOf, detaches.numberOf found, numberOf_eq found]
  have old {t : TemplateId} {k : Handle} (inside : k ∈ s.templateFacts t) :
      s'.numberOf k = s.numberOf k := by
    rw [numbers, if_neg]
    rintro rfl
    exact (sound.aside waiting unattached).unlistedByTemplate t inside
  refine sorted.of_sublist fun t => ?_
  by_cases same : t = g.templateId
  · subst same
    have frontSame : templateFront.map s'.numberOf = templateFront.map s.numberOf :=
      List.map_congr_left fun k inside => old (before ▸ List.mem_append_left _ inside)
    have backSame : templateBack.map s'.numberOf = templateBack.map s.numberOf :=
      List.map_congr_left fun k inside =>
        old (before ▸ List.mem_append_right _ (List.mem_cons_of_mem h inside))
    rw [here, before, List.map_append, List.map_append, List.map_cons, List.map_cons, frontSame,
      backSame, numbers, if_pos rfl]
  · rw [elsewhere t same, others t same, List.map_congr_left fun k inside => old inside]

theorem Sorted.detach (sorted : s.Sorted) (sound : s.Sound) {d : Detached}
    (done : s.detach h = .ok (d, s')) : s'.Sorted := by
  obtain ⟨f, found, -, -, detaches, -⟩ := detach_spec sound done
  obtain ⟨f', front, back, templateFront, templateBack, found', -, -, -, before, after, -, others⟩ :=
    detach_places sound done
  have numbers : s'.numberOf = s.numberOf := funext (detaches.numberOf found)
  refine sorted.of_sublist fun t => ?_
  rw [numbers]
  refine List.Sublist.map _ ?_
  by_cases same : t = f'.templateId
  · subst same
    rw [before, after]
    exact (List.Sublist.refl _).append (List.sublist_cons_self h templateBack)
  · rw [others t same]

/-! ### Moves -/

/-- Every move gives, keeps and takes numbers in one of these ways. -/
theorem Move.numbers (move : Move s s') (sound : s.Sound) (below : ∀ k, s.numberOf k < s.nextIndex) :
    Numbers s s' := by
  have alike : Alike s s' → Numbers s s' := Alike.numbers
  cases move with
  | chore chore =>
    rcases chore.recorded sound with alike | ⟨guarded, rfl⟩ | collects
    · exact alike.numbers
    · exact .kept rfl (fun _ => .inl rfl) fun _ => id
    · exact collects.numbers
  | release done => exact alike (release_spec done).alike
  | deinstall done => exact alike (deinstall_spec done).alike
  | asserts found unattached listed done =>
    obtain ⟨next, -⟩ := attach_counts found (Fact.isUnattached_iff.mp unattached).1 done
    obtain ⟨u, attached, -, attaches⟩ := attach_spec sound found unattached
      (show ∀ i, none = some i → i ≠ 0 by simp) listed
      fun p tail => (sound.listedByTemplate _).tail tail
    obtain ⟨-, rfl⟩ := Prod.mk.inj (Except.ok.inj (attached.symm.trans done))
    exact .issued _ next (numberOf_of_unattached found unattached) attaches.numberOf below
      (attaches.isAsserted unattached (Nat.ne_of_gt sound.numbered))
  | @supersedes _ _ h r f g _ _ found waiting unattached template detached done =>
    obtain ⟨asserted, -, detaches, waits, -, attaches⟩ :=
      supersedes_spec sound found waiting unattached template detached done
    obtain ⟨next, -⟩ := attach_counts waits (Fact.isUnattached_iff.mp unattached).1 done
    obtain ⟨_, _, _, _, _, _, _, _, rest⟩ := detaches.rest
    refine .passed h r (next.trans (by rw [rest]; rfl)) (isAsserted_iff_exists.mpr ⟨f, found, asserted⟩)
      (numberOf_of_unattached waiting unattached) (fun k => ?_) fun k => ?_
    · rw [attaches.numberOf, detaches.numberOf found, numberOf_eq found]
    · rw [attaches.isAsserted unattached (Fact.isAsserted_iff.mp asserted).1, detaches.isAsserted]
  | detach done =>
    obtain ⟨f, found, -, -, detaches, -⟩ := detach_spec sound done
    obtain ⟨_, _, _, _, _, _, _, _, rest⟩ := detaches.rest
    exact .kept (by rw [rest]) (fun k => .inl (detaches.numberOf found k))
      fun k asserted => ((detaches.isAsserted k).mp asserted).2
  | matchFact _ done => exact alike (matchFact_spec done).alike
  | addPattern done => exact alike (addPattern_spec sound done).alike
  | removePattern done => exact alike (removePattern_spec done).alike
  | replayNewPatterns done => exact alike (replayNewPatterns_spec sound done).alike
  | renumber none_asserted none_retracted =>
    have unnumbered (k : Handle) : s.numberOf k = 0 := by
      refine numberOf_eq_zero (Bool.eq_false_iff.mpr fun asserted => ?_) fun f found => ?_
      · obtain ⟨f, found, asserted⟩ := isAsserted_iff_exists.mp asserted
        exact sound.listed.head_ne_none found asserted none_asserted
      · refine Bool.eq_false_iff.mpr fun garbage => ?_
        have inside := (sound.garbage k).mpr ⟨f, found, garbage⟩
        rw [none_retracted] at inside
        cases inside
    exact .restarted rfl unnumbered unnumbered
  | probe | allowDuplicates => exact alike (Quiet.unchanged (s := s)).alike

theorem Sorted.move (sorted : s.Sorted) (sound : s.Sound) (below : ∀ k, s.numberOf k < s.nextIndex)
    (move : Move s s') : s'.Sorted := by
  cases move with
  | chore chore =>
    rcases chore.recorded sound with alike | ⟨guarded, rfl⟩ | collects
    · exact sorted.alike sound alike
    · exact sorted.same (fun _ => rfl) fun _ _ _ => rfl
    · refine sorted.same (collects.templateFacts sound.toConsistent) fun t k inside => ?_
      obtain ⟨f, found, asserted, -⟩ := sound.mem_templateFacts.mp inside
      have stays := collects.kept k f found (Fact.isAsserted_iff.mp asserted).2
      rw [numberOf_eq found, numberOf_eq stays]
  | release done => exact sorted.alike sound (release_spec done).alike
  | deinstall done => exact sorted.alike sound (deinstall_spec done).alike
  | asserts found unattached listed done =>
    exact sorted.asserts sound below found unattached listed done
  | supersedes found waiting unattached template detached done =>
    exact sorted.supersedes sound found waiting unattached template detached done
  | detach done => exact sorted.detach sound done
  | matchFact _ done => exact sorted.alike sound (matchFact_spec done).alike
  | addPattern done => exact sorted.alike sound (addPattern_spec sound done).alike
  | removePattern done => exact sorted.alike sound (removePattern_spec done).alike
  | replayNewPatterns done => exact sorted.alike sound (replayNewPatterns_spec sound done).alike
  | renumber => exact sorted.same (fun _ => rfl) fun _ _ _ => rfl
  | probe | allowDuplicates => exact sorted.alike sound (Quiet.unchanged (s := s)).alike

theorem Reached.apart_sorted (reached : s.Reached) : s.Apart ∧ s.Sorted := by
  refine reached.kept (P := fun s => s.Apart ∧ s.Sorted) (fun config network contentHash => ?_)
    fun s s' reached ⟨apart, sorted⟩ move => ?_
  · have none (k : Handle) : (Store.fresh config network contentHash).numberOf k = 0 := by
      rw [numberOf, get?_fresh]
      rfl
    have unasserted (k : Handle) : (Store.fresh config network contentHash).isAsserted k = false := by
      rw [Store.isAsserted, get?_fresh]
      rfl
    refine ⟨⟨fun k => ?_, fun k l hk => ?_⟩, fun t => ?_⟩
    · rw [none]
      exact Nat.zero_lt_one
    · rw [unasserted] at hk
      cases hk
    · exact List.Pairwise.nil
  · have sound := reached.sound
    exact ⟨apart.numbers (move.numbers sound apart.below), sorted.move sound apart.below move⟩

/-- Wherever moves lead, facts are numbered. -/
theorem Reached.numbered (reached : s.Reached) : s.Numbered := by
  obtain ⟨⟨below, injective⟩, sorted⟩ := reached.apart_sorted
  have sound := reached.sound
  have asserted {k : Handle} (inside : k ∈ s.order) : s.isAsserted k = true :=
    isAsserted_iff_exists.mpr (sound.mem_order.mp inside)
  refine ⟨fun k inside => numberOf_pos (asserted inside), ?_, below, sorted⟩
  refine List.Nodup.map_on (fun k hk l hl equal => ?_) sound.threaded_order.once
  exact injective k l (asserted hk) (asserted hl) equal

end Store

end FactBase

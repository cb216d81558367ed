import FactBase.Store.Lists
import FactBase.Proofs.Store.Arena

/-!
# Lists threaded through the arena

A list of handles is threaded when the links of its facts lead through it in both directions and
the ends and the length are those of the list. Putting a fact in and taking one out redirects the
links on both sides of it and touches nothing else.
-/

namespace FactBase.FactList

/-- The links of a thread that a handle leads to. -/
def linksAt (facts : Arena Fact) (thread : Thread) (h : Handle) : Option Links :=
  (facts.get? h).map (·.links thread)

/-- Links lead through facts one after the other. In front of the first comes `previous`, and
`start` leads to it; behind the last one, which is `last`, they lead to `next`. -/
inductive Chain (look : Handle → Option Links) :
    Option Handle → Option Handle → List Handle → Option Handle → Option Handle → Prop
  | nil (previous start : Option Handle) : Chain look previous start [] previous start
  | cons {previous behind last next : Option Handle} {h : Handle} {hs : List Handle}
      (here : look h = some ⟨previous, behind⟩) (rest : Chain look (some h) behind hs last next) :
      Chain look previous (some h) (h :: hs) last next

/-- The facts of a list in order, with the links, the ends and the length to match. -/
structure Threaded (facts : Arena Fact) (thread : Thread) (l : FactList) (hs : List Handle) :
    Prop where
  chain : Chain (linksAt facts thread) none l.head hs l.tail none
  length : l.length = hs.length
  once : hs.Nodup

section Chain

variable {look look' : Handle → Option Links} {previous start last next : Option Handle}
  {hs : List Handle}

theorem Chain.congr (chain : Chain look previous start hs last next)
    (same : ∀ h ∈ hs, look' h = look h) : Chain look' previous start hs last next := by
  induction chain with
  | nil previous start => exact .nil previous start
  | cons here rest ih =>
    refine .cons ((same _ List.mem_cons_self).trans here) (ih fun k hk => ?_)
    exact same k (List.mem_cons_of_mem _ hk)

theorem Chain.stored (chain : Chain look previous start hs last next) :
    ∀ h ∈ hs, (look h).isSome := by
  induction chain with
  | nil => simp
  | cons here rest ih =>
    intro k hk
    rcases List.mem_cons.mp hk with rfl | hk
    · simp [here]
    · exact ih k hk

theorem Chain.last_eq (chain : Chain look previous start hs last next) :
    last = hs.getLast?.or previous := by
  induction chain with
  | nil => simp
  | cons here rest ih =>
    rw [ih, List.getLast?_cons]
    cases List.getLast? _ <;> simp

theorem Chain.start_eq (chain : Chain look previous start hs last next) :
    start = hs.head?.or next := by
  cases chain with
  | nil => simp
  | cons => simp

theorem chain_append {front back : List Handle} :
    Chain look previous start (front ++ back) last next ↔
      ∃ p s, Chain look previous start front p s ∧ Chain look p s back last next := by
  induction front generalizing previous start with
  | nil =>
    refine ⟨fun chain => ⟨previous, start, .nil _ _, chain⟩, ?_⟩
    rintro ⟨p, s, first, rest⟩
    cases first
    exact rest
  | cons h front ih =>
    constructor
    · intro chain
      cases chain with
      | cons here rest =>
        obtain ⟨p, s, first, rest⟩ := ih.mp rest
        exact ⟨p, s, .cons here first, rest⟩
    · rintro ⟨p, s, first, rest⟩
      cases first with
      | cons here first => exact .cons here (ih.mpr ⟨p, s, first, rest⟩)

/-- The last fact of a chain leads out of it. -/
theorem Chain.out (chain : Chain look previous start hs last next) (nonempty : hs ≠ []) :
    ∃ p q, last = some p ∧ p ∈ hs ∧ look p = some ⟨q, next⟩ := by
  induction chain with
  | nil => exact absurd rfl nonempty
  | @cons previous behind last next h hs here rest ih =>
    cases hs with
    | nil =>
      cases rest
      exact ⟨h, previous, rfl, List.mem_cons_self, here⟩
    | cons k ks =>
      obtain ⟨p, q, ended, hp, links⟩ := ih (List.cons_ne_nil k ks)
      exact ⟨p, q, ended, List.mem_cons_of_mem h hp, links⟩

/-- A chain leads elsewhere once its last fact does. -/
theorem Chain.retarget {next' : Option Handle} (chain : Chain look previous start hs last next)
    (once : hs.Nodup)
    (same : ∀ h ∈ hs, look' h = if last = some h then (look h).map ({ · with next := next' })
      else look h) :
    Chain look' previous (if hs = [] then next' else start) hs last next' := by
  induction chain with
  | nil => exact .nil _ _
  | @cons previous behind last next h hs here rest ih =>
    obtain ⟨absent, once⟩ := List.nodup_cons.mp once
    have tail := ih once fun k hk => same k (List.mem_cons_of_mem h hk)
    have first := same h List.mem_cons_self
    rw [if_neg (List.cons_ne_nil h hs)]
    have ends := rest.last_eq
    cases hs with
    | nil =>
      cases rest
      rw [if_pos rfl, here] at first
      exact .cons first (.nil _ _)
    | cons k ks =>
      rw [if_neg (List.cons_ne_nil k ks)] at tail
      have other : last ≠ some h := by
        intro ended
        rw [ended] at ends
        have inside : (k :: ks).getLast? = some h := by
          cases found : (k :: ks).getLast? with
          | none => simp at found
          | some x =>
            rw [found] at ends
            simpa using ends.symm
        exact absent (List.mem_of_getLast? inside)
      rw [if_neg other, here] at first
      exact .cons first tail

/-- A chain comes from elsewhere once its first fact does. -/
theorem Chain.reroot {previous' : Option Handle} (chain : Chain look previous start hs last next)
    (once : hs.Nodup)
    (same : ∀ h ∈ hs, look' h = if start = some h then
      (look h).map ({ · with previous := previous' }) else look h) :
    Chain look' previous' start hs (if hs = [] then previous' else last) next := by
  cases chain with
  | nil => exact .nil _ _
  | @cons _ _ _ _ h hs here rest =>
    have first := same h List.mem_cons_self
    rw [if_pos rfl, here] at first
    rw [if_neg (List.cons_ne_nil h hs)]
    refine .cons first (rest.congr fun k hk => ?_)
    have apart : some h ≠ some k := fun same =>
      (List.nodup_cons.mp once).1 (Option.some.inj same ▸ hk)
    rw [same k (List.mem_cons_of_mem h hk), if_neg apart]

end Chain

/-! ### Changing the links of a thread -/

/-- Arenas that differ in the links of one thread at most. -/
structure SameBut (thread : Thread) (a b : Arena Fact) : Prop where
  facts : ∀ h, (b.get? h).map (·.setLinks thread {}) = (a.get? h).map (·.setLinks thread {})
  tidy : a.Tidy → b.Tidy

variable {thread : Thread} {a b c : Arena Fact}

theorem SameBut.refl (a : Arena Fact) : SameBut thread a a := ⟨fun _ => rfl, id⟩

theorem SameBut.trans (ab : SameBut thread a b) (bc : SameBut thread b c) : SameBut thread a c :=
  ⟨fun h => (bc.facts h).trans (ab.facts h), fun tidy => bc.tidy (ab.tidy tidy)⟩

theorem SameBut.isSome (ab : SameBut thread a b) (h : Handle) :
    (b.get? h).isSome = (a.get? h).isSome := by
  have same := congrArg Option.isSome (ab.facts h)
  simpa only [Option.isSome_map] using same

theorem setLinks_links (f : Fact) (thread : Thread) :
    (f.setLinks thread {}).setLinks thread (f.links thread) = f := by
  cases thread <;> rfl

/-- A fact whose links are the same is the same. -/
theorem SameBut.get?_eq (ab : SameBut thread a b) {h : Handle}
    (same : linksAt b thread h = linksAt a thread h) : b.get? h = a.get? h := by
  have rest := ab.facts h
  unfold linksAt at same
  cases ha : a.get? h with
  | none =>
    rw [ha] at same
    simpa using same
  | some f =>
    rw [ha] at same rest
    obtain ⟨g, hg, links⟩ := Option.map_eq_some_iff.mp same
    rw [hg] at rest ⊢
    have bare : g.setLinks thread {} = f.setLinks thread {} := Option.some.inj rest
    rw [← setLinks_links g thread, links, bare, setLinks_links]

/-- Changing the links of a stored fact. -/
theorem relink_spec (facts : Arena Fact) (thread : Thread) {h : Handle}
    (stored : (facts.get? h).isSome) (change : Links → Links) :
    ∃ facts', relink facts thread h change = .ok facts' ∧ SameBut thread facts facts' ∧
      ∀ k, linksAt facts' thread k =
        if k = h then (linksAt facts thread h).map change else linksAt facts thread k := by
  obtain ⟨f, hf⟩ := Option.isSome_iff_exists.mp stored
  refine ⟨facts.update h (·.setLinks thread (change (f.links thread))), ?_, ⟨fun k => ?_, ?_⟩,
    fun k => ?_⟩
  · simp [relink, linksOf, hf, bind, Except.bind]
  · rw [Arena.get?_update]
    by_cases same : k = h
    · rw [if_pos same, same, hf]
      cases thread <;> rfl
    · rw [if_neg same]
  · exact fun tidy => tidy.update h _
  · unfold linksAt
    rw [Arena.get?_update]
    by_cases same : k = h
    · rw [if_pos same, if_pos same, hf]
      cases thread <;> rfl
    · rw [if_neg same, if_neg same]

theorem setNext_spec (l : FactList) (facts : Arena Fact) (thread : Thread)
    {previous : Option Handle} (stored : ∀ p, previous = some p → (facts.get? p).isSome)
    (next : Option Handle) :
    ∃ facts', l.setNext facts thread previous next =
        .ok ({ l with head := if previous = none then next else l.head }, facts') ∧
      SameBut thread facts facts' ∧
      ∀ k, linksAt facts' thread k = if previous = some k then
        (linksAt facts thread k).map ({ · with next }) else linksAt facts thread k := by
  cases previous with
  | none => exact ⟨facts, rfl, .refl facts, fun k => by simp⟩
  | some p =>
    obtain ⟨facts', linked, same, links⟩ :=
      relink_spec facts thread (stored p rfl) ({ · with next })
    refine ⟨facts', by simp [setNext, linked, Except.map], same, fun k => ?_⟩
    rw [links]
    by_cases here : k = p
    · simp [here]
    · simp [here, Ne.symm here]

theorem setPrevious_spec (l : FactList) (facts : Arena Fact) (thread : Thread)
    (previous : Option Handle) {next : Option Handle}
    (stored : ∀ n, next = some n → (facts.get? n).isSome) :
    ∃ facts', l.setPrevious facts thread previous next =
        .ok ({ l with tail := if next = none then previous else l.tail }, facts') ∧
      SameBut thread facts facts' ∧
      ∀ k, linksAt facts' thread k = if next = some k then
        (linksAt facts thread k).map ({ · with previous }) else linksAt facts thread k := by
  cases next with
  | none => exact ⟨facts, rfl, .refl facts, fun k => by simp⟩
  | some n =>
    obtain ⟨facts', linked, same, links⟩ :=
      relink_spec facts thread (stored n rfl) ({ · with previous })
    refine ⟨facts', by simp [setPrevious, linked, Except.map], same, fun k => ?_⟩
    rw [links]
    by_cases here : k = n
    · simp [here]
    · simp [here, Ne.symm here]

/-! ### Putting in and taking out -/

variable {l : FactList} {facts : Arena Fact} {front back : List Handle} {h : Handle}

theorem Threaded.stored {hs : List Handle} (threaded : Threaded facts thread l hs) :
    ∀ h ∈ hs, (facts.get? h).isSome := fun h hh => by
  have linked := threaded.chain.stored h hh
  simpa only [linksAt, Option.isSome_map] using linked

theorem walk_eq {look : Handle → Option Links} {previous start last : Option Handle}
    {hs : List Handle} (chain : Chain look previous start hs last none)
    (linked : look = linksAt facts thread) {steps : Nat} (enough : hs.length ≤ steps) :
    walk facts thread steps start = hs := by
  induction hs generalizing previous start steps with
  | nil =>
    cases chain
    cases steps <;> rfl
  | cons h hs ih =>
    cases chain with
    | cons here rest =>
      subst linked
      obtain ⟨f, hf, links⟩ := Option.map_eq_some_iff.mp here
      cases steps with
      | zero => simp at enough
      | succ steps =>
        simp only [List.length_cons] at enough
        rw [walk, hf]
        simp only [links, ih rest (Nat.le_of_succ_le_succ enough)]

/-- The way along the successors from the head meets the facts of the list in order. -/
theorem Threaded.onward_eq {hs : List Handle} (threaded : Threaded facts thread l hs) :
    onward facts thread l.head = hs :=
  walk_eq threaded.chain rfl (Arena.length_le_slots threaded.once threaded.stored)

/-- Redirects the links at the two ends of a gap: those of `front` to `next`, those of `back` to
`previous`. -/
theorem couple_spec {p n e c : Option Handle}
    (first : Chain (linksAt facts thread) none l.head front p e)
    (rest : Chain (linksAt facts thread) c n back l.tail none) (once : (front ++ back).Nodup)
    (next previous : Option Handle) :
    ∃ l₁ a l' b, l.setNext facts thread p next = .ok (l₁, a) ∧
      l₁.setPrevious a thread previous n = .ok (l', b) ∧
      Chain (linksAt b thread) none l'.head front p next ∧
      Chain (linksAt b thread) previous n back l'.tail none ∧ l'.length = l.length ∧
      SameBut thread facts b ∧
      ∀ k, k ∉ front ++ back → linksAt b thread k = linksAt facts thread k := by
  have hp : p = front.getLast? := by simpa using first.last_eq
  have hn : n = back.head? := by simpa using rest.start_eq
  have inFront {k : Handle} (hk : p = some k) : k ∈ front := List.mem_of_getLast? (hp ▸ hk)
  have inBack {k : Handle} (hk : n = some k) : k ∈ back := List.mem_of_head? (hn ▸ hk)
  obtain ⟨onceFront, onceBack, apart⟩ := List.nodup_append'.mp once
  have storedFront : ∀ k, p = some k → (facts.get? k).isSome := fun k hk => by
    simpa only [linksAt, Option.isSome_map] using first.stored k (inFront hk)
  have storedBack : ∀ k, n = some k → (facts.get? k).isSome := fun k hk => by
    simpa only [linksAt, Option.isSome_map] using rest.stored k (inBack hk)
  obtain ⟨a, nexted, sameA, linksA⟩ := setNext_spec l facts thread storedFront next
  obtain ⟨b, previoused, sameB, linksB⟩ := setPrevious_spec
    { l with head := if p = none then next else l.head } a thread previous
    fun k hk => sameA.isSome k ▸ storedBack k hk
  have lookFront (k : Handle) (hk : k ∉ back) : linksAt b thread k =
      if p = some k then (linksAt facts thread k).map ({ · with next })
        else linksAt facts thread k := by
    rw [linksB, if_neg fun same => hk (inBack same), linksA]
  have lookBack (k : Handle) (hk : k ∉ front) : linksAt b thread k =
      if n = some k then (linksAt facts thread k).map ({ · with previous })
        else linksAt facts thread k := by
    rw [linksB, linksA, if_neg fun same => hk (inFront same)]
  refine ⟨_, a, _, b, nexted, previoused, ?_, ?_, rfl, sameA.trans sameB, fun k hk => ?_⟩
  · have empty : p = none ↔ front = [] := by rw [hp, List.getLast?_eq_none_iff]
    simp only [empty]
    exact first.retarget onceFront fun k hk => lookFront k (apart hk)
  · have empty : n = none ↔ back = [] := by rw [hn, List.head?_eq_none_iff]
    simp only [empty]
    exact rest.reroot onceBack fun k hk => lookBack k fun hf => apart hf hk
  · simp only [List.mem_append, not_or] at hk
    rw [lookFront k hk.2, if_neg fun same => hk.1 (inFront same)]

/-- A fact put behind the last one of `front` stands between `front` and what was behind. -/
theorem linkAfter_spec (threaded : Threaded facts thread l (front ++ back))
    (new : h ∉ front ++ back) (stored : (facts.get? h).isSome) :
    ∃ l' facts', l.linkAfter facts thread front.getLast? h = .ok (l', facts') ∧
      Threaded facts' thread l' (front ++ h :: back) ∧ SameBut thread facts facts' ∧
      ∀ k, k ∉ front ++ h :: back → facts'.get? k = facts.get? k := by
  obtain ⟨p, n, first, rest⟩ := chain_append.mp threaded.chain
  have hp : p = front.getLast? := by simpa using first.last_eq
  -- The successor is read off the predecessor, or off the head.
  have found : l.behind facts thread p = .ok n := by
    by_cases empty : front = []
    · subst empty
      obtain rfl : p = none := hp
      have start := first.start_eq
      simpa [behind] using start
    · obtain ⟨q, r, ended, _, links⟩ := first.out empty
      obtain ⟨f, hf, hl⟩ := Option.map_eq_some_iff.mp links
      simp [behind, ended, linksOf, hf, hl, Except.map]
  obtain ⟨a, relinked, sameA, linksA⟩ := relink_spec facts thread stored fun _ => ⟨p, n⟩
  have elsewhere {k : Handle} (hk : k ∈ front ++ back) :
      linksAt a thread k = linksAt facts thread k := by
    rw [linksA, if_neg fun same : k = h => new (same ▸ hk)]
  obtain ⟨l₁, b, l', c, nexted, previoused, toNew, fromNew, length, sameC, linksC⟩ := couple_spec
    (first.congr fun k hk => elsewhere (List.mem_append_left back hk))
    (rest.congr fun k hk => elsewhere (List.mem_append_right front hk)) threaded.once (some h)
    (some h)
  have here : linksAt c thread h = some ⟨p, n⟩ := by
    obtain ⟨f, hf⟩ := Option.isSome_iff_exists.mp stored
    rw [linksC h new, linksA, if_pos rfl]
    simp [linksAt, hf]
  refine ⟨{ l' with length := l'.length + 1 }, c, ?_,
    ⟨chain_append.mpr ⟨p, some h, toNew, .cons here fromNew⟩, ?_, ?_⟩, sameA.trans sameC,
    fun k hk => (sameA.trans sameC).get?_eq ?_⟩
  · rw [← hp, linkAfter, found]
    simp only [bind, Except.bind, relinked, nexted, previoused]
  · have before := threaded.length
    simp only [List.length_append, List.length_cons, length] at before ⊢
    omega
  · exact List.nodup_middle.mpr (List.nodup_cons.mpr ⟨new, threaded.once⟩)
  · simp only [List.mem_append, List.mem_cons, not_or] at hk
    rw [linksC k (by simp [hk.1, hk.2.2]), linksA, if_neg hk.2.1]

/-- A fact taken out leaves what was in front of it and what was behind. -/
theorem unlink_spec (threaded : Threaded facts thread l (front ++ h :: back)) :
    ∃ l' facts', l.unlink facts thread h = .ok (front.getLast?, l', facts') ∧
      Threaded facts' thread l' (front ++ back) ∧ SameBut thread facts facts' ∧
      ∀ k, k ∉ front ++ h :: back → facts'.get? k = facts.get? k := by
  obtain ⟨p, s, first, rest⟩ := chain_append.mp threaded.chain
  have hp : p = front.getLast? := by simpa using first.last_eq
  obtain ⟨new, once⟩ := List.nodup_cons.mp (List.nodup_middle.mp threaded.once)
  cases rest with
  | @cons _ n _ _ _ _ here rest =>
    obtain ⟨f, hf, hl⟩ := Option.map_eq_some_iff.mp here
    have stored : (facts.get? h).isSome := by simp [hf]
    obtain ⟨a, relinked, sameA, linksA⟩ := relink_spec facts thread stored fun _ => {}
    have elsewhere {k : Handle} (hk : k ∈ front ++ back) :
        linksAt a thread k = linksAt facts thread k := by
      rw [linksA, if_neg fun same : k = h => new (same ▸ hk)]
    obtain ⟨l₁, b, l', c, nexted, previoused, toBack, fromFront, length, sameC, linksC⟩ :=
      couple_spec (first.congr fun k hk => elsewhere (List.mem_append_left back hk))
        (rest.congr fun k hk => elsewhere (List.mem_append_right front hk)) once n p
    have before := threaded.length
    simp only [List.length_append, List.length_cons] at before
    refine ⟨{ l' with length := l'.length - 1 }, c, ?_,
      ⟨chain_append.mpr ⟨p, n, toBack, fromFront⟩, ?_, once⟩, sameA.trans sameC,
      fun k hk => (sameA.trans sameC).get?_eq ?_⟩
    · have links : linksOf facts thread h = .ok ⟨p, n⟩ := by simp [linksOf, hf, hl]
      have nonzero : ¬ l'.length = 0 := by omega
      rw [← hp, unlink]
      simp only [bind, Except.bind, links, relinked, nexted, previoused, if_neg nonzero]
    · simp only [List.length_append, length]
      omega
    · simp only [List.mem_append, List.mem_cons, not_or] at hk
      rw [linksC k (by simp [hk.1, hk.2.2]), linksA, if_neg hk.2.1]

end FactBase.FactList

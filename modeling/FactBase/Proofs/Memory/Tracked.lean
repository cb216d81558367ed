import FactBase.Proofs.Memory.Aloof
import FactBase.Proofs.Memory.Walks

/-!
# Memories that follow the facts

An entry has reached a fact when the facts before the entry were replayed into it, or when a replay
has dealt with the fact since. An alpha memory follows a fact base if it holds, for an entry that has
reached an asserted fact, the matches of the entry's pattern on the fact, each once, and holds
nothing else for live entries.
-/

namespace FactBase

/-- What matches depend on in a fact. -/
def Fact.gist (f : Fact) : Nat × Bool × TemplateId × List Value :=
  (f.index, f.isGarbage, f.templateId, f.values)

namespace Store
open PatternTree

section Sees

variable {N : Type} {s s' : Store N} {x : EntryId × Pattern} {h : Handle} {f : Fact}

/-- An entry has reached an asserted fact of its template. -/
structure Sees (s : Store N) (x : EntryId × Pattern) (h : Handle) (f : Fact) : Prop where
  found : s.get? h = some f
  asserted : f.isAsserted = true
  template : f.templateId = x.2.template
  reached : s.patterns.Initialized x.2.template x.1 ∨ h ∈ s.patterns.replayed x.2.template

/-- The matches of an entry's pattern on a fact, as predicates decide them. -/
def owed (s : Store N) (probe : Probe) (x : EntryId × Pattern) (f : Fact) :
    List (Nat × List Marker) :=
  match s.patterns.template? x.2.template with
  | none => []
  | some template => (x.2.matchList (holdsBy probe.answer) template f.values).map (f.index, ·)

/-- What is the same of a fact before is the same of one after. -/
theorem exists_view {α : Type} {view : Fact → α} {a b : Option Fact}
    (same : a.map view = b.map view) (found : a = some f) : ∃ g, b = some g ∧ view f = view g := by
  rw [found, Option.map_some, eq_comm, Option.map_eq_some_iff] at same
  obtain ⟨g, found, same⟩ := same
  exact ⟨g, found, same.symm⟩

theorem gist_of_profile {a b : Option Fact} (same : a.map Fact.profile = b.map Fact.profile) :
    a.map Fact.gist = b.map Fact.gist := by
  have gists := congrArg (Option.map fun p => (p.1, p.2.1, p.2.2.1, p.2.2.2.1)) same
  rw [Option.map_map, Option.map_map] at gists
  exact gists

theorem isAsserted_of_gist (same : (s.get? h).map Fact.gist = (s'.get? h).map Fact.gist) :
    s'.isAsserted h = s.isAsserted h := by
  have asserted (a : Option Fact) : a.any (·.isAsserted) =
      (a.map Fact.gist).any fun p => p.1 != 0 && !p.2.1 := by
    cases a <;> rfl
  rw [Store.isAsserted, Store.isAsserted, asserted, asserted, same]

/-- To an entry that a fact has still reached, a fact of the same gist looks the same. -/
theorem Sees.carry (sees : s.Sees x h f) (s' : Store N)
    (gist : (s.get? h).map Fact.gist = (s'.get? h).map Fact.gist)
    (template : s'.patterns.template? x.2.template = s.patterns.template? x.2.template)
    (reached : s.patterns.Initialized x.2.template x.1 ∨ h ∈ s.patterns.replayed x.2.template →
      s'.patterns.Initialized x.2.template x.1 ∨ h ∈ s'.patterns.replayed x.2.template) :
    ∃ g, s'.Sees x h g ∧ ∀ probe, s'.owed probe x g = s.owed probe x f := by
  obtain ⟨g, found, like⟩ := exists_view gist sees.found
  have asserted := isAsserted_iff_exists.mpr ⟨f, sees.found, sees.asserted⟩
  rw [← isAsserted_of_gist gist, Store.isAsserted, found, Option.any_some] at asserted
  simp only [Fact.gist, Prod.mk.injEq] at like
  refine ⟨g, ⟨found, asserted, like.2.2.1 ▸ sees.template, reached sees.reached⟩, fun probe => ?_⟩
  rw [owed, owed, template, like.1, like.2.2.2]

/-- An entry that is none the wiser sees no difference either. -/
theorem Sees.transfer (sees : s.Sees x h f) (s' : Store N)
    (gist : (s.get? h).map Fact.gist = (s'.get? h).map Fact.gist)
    (same : PatternNetwork.Same x s.patterns s'.patterns) :
    ∃ g, s'.Sees x h g ∧ ∀ probe, s'.owed probe x g = s.owed probe x f := by
  refine sees.carry s' gist same.template fun reached => ?_
  rw [same.initialized, same.replayed]
  exact reached

end Sees

/-- Records and facts refer to each other. A fact that was just asserted may be pending: it is not
matched yet. -/
structure Filed (pending : Option Handle) (s : Store AlphaMemory) : Prop where
  sound : s.network.Sound
  /-- An asserted fact answers for its records. -/
  answered : ∀ h f, s.get? h = some f → f.isAsserted = true →
    f.matched.Perm ((s.network.records.filter (·.fact == h)).map (·.id))
  idle : ∀ h f, s.get? h = some f → ¬ f.isAsserted = true → f.matched = []
  recorded : ∀ r ∈ s.network.records, s.isAsserted r.fact = true ∧ pending ≠ some r.fact ∧
    r.entry.number < s.patterns.nextEntry

/-- The memory follows the entries of a ledger. -/
structure Tracked (probe : Probe) (L : Ledger) (pending : Option Handle)
    (s : Store AlphaMemory) : Prop extends Filed pending s where
  pure : probe.predicates.Pure
  rules : s.probe.predicates.rules = probe.predicates.rules
  keeps : s.patterns.Keeps L
  seen : ∀ x ∈ L, ∀ h f, s.Sees x h f → pending ≠ some h →
    (s.network.held x.1 h).Perm (s.owed probe x f)
  unseen : ∀ x ∈ L, ∀ h, (∀ f, ¬ s.Sees x h f) → s.network.held x.1 h = []
  waiting : ∀ h, pending = some h →
    s.isAsserted h = true ∧ ∀ t, h ∉ s.patterns.replayed t

namespace Tracked

variable {s s' : Store AlphaMemory} {probe : Probe} {L L' : Ledger} {pending : Option Handle}
  {h : Handle} {f : Fact}

/-- No record is of a fact that is not asserted. -/
theorem filter_fact_eq_nil (filed : s.Filed pending)
    (unasserted : ¬ s.isAsserted h = true) : s.network.records.filter (·.fact == h) = [] := by
  refine List.filter_eq_nil_iff.mpr fun r hr same => unasserted ?_
  rw [← beq_iff_eq.mp same]
  exact (filed.recorded r hr).1

/-! ### What matching does not notice -/

theorem same_refl (x : EntryId × Pattern) (n : PatternNetwork) : PatternNetwork.Same x n n :=
  ⟨rfl, .rfl, rfl⟩

/-- What neither facts nor records show, the memory follows. -/
theorem unnoticed (tracked : s.Tracked probe L pending)
    (facts : ∀ h, Unnoticed (s.get? h) (s'.get? h)) (sound : s'.network.Sound)
    (records : s'.network.records = s.network.records) (patterns : s'.patterns = s.patterns)
    (rules : s'.probe.predicates.rules = s.probe.predicates.rules) :
    s'.Tracked probe L pending := by
  have asserted (h : Handle) : s'.isAsserted h = s.isAsserted h := isAsserted_of_unnoticed (facts h)
  have held (e : EntryId) (h : Handle) : s'.network.held e h = s.network.held e h := by
    rw [AlphaMemory.held, AlphaMemory.held, AlphaMemory.matchesOf, AlphaMemory.matchesOf, records]
  exact {
    pure := tracked.pure
    rules := rules.trans tracked.rules
    keeps := patterns ▸ tracked.keeps
    sound
    answered h g found holds := by
      obtain ⟨f, before, same⟩ :=
        exists_view ((facts h).asserted (.inr ⟨g, found, holds⟩)).symm found
      rw [isAsserted_of_profile same] at holds
      simp only [Fact.profile, Prod.mk.injEq] at same
      rw [same.2.2.2.2, records]
      exact tracked.answered h f before holds
    idle h g found unasserted := by
      rcases facts h with same | ⟨before, after⟩
      · obtain ⟨f, before, same⟩ := exists_view same.symm found
        rw [isAsserted_of_profile same] at unasserted
        simp only [Fact.profile, Prod.mk.injEq] at same
        rw [same.2.2.2.2]
        exact tracked.idle h f before unasserted
      · exact (after g found).2 fun f found => tracked.idle h f found (before f found)
    recorded r hr := by
      rw [records] at hr
      rw [asserted, patterns]
      exact tracked.recorded r hr
    seen x hx h g sees other := by
      obtain ⟨f, before, same⟩ := sees.transfer _
        (gist_of_profile ((facts h).asserted (.inr ⟨g, sees.found, sees.asserted⟩)).symm)
        (patterns ▸ same_refl x s'.patterns)
      rw [held, ← same]
      exact tracked.seen x hx h f before other
    unseen x hx h none := by
      rw [held]
      refine tracked.unseen x hx h fun f sees => ?_
      obtain ⟨g, after, _⟩ := sees.transfer _
        (gist_of_profile ((facts h).asserted (.inl ⟨f, sees.found, sees.asserted⟩)))
        (patterns ▸ same_refl x s.patterns)
      exact none g after
    waiting h same := by
      obtain ⟨holds, new⟩ := tracked.waiting h same
      exact ⟨(asserted h).trans holds, patterns ▸ new⟩ }

theorem aloof (tracked : s.Tracked probe L pending) (aloof : Aloof s s') :
    s'.Tracked probe L pending :=
  tracked.unnoticed aloof.facts (aloof.network ▸ tracked.sound)
    (congrArg AlphaMemory.records aloof.network) aloof.patterns
    (congrArg (fun probe => probe.predicates.rules) aloof.probe)

/-! ### Attaching and detaching -/

/-- Replacing a fact changes no other profile. -/
theorem profile_replaced {a b : Arena Fact} {g : Fact} (replaced : Replaced h g a b) (k : Handle) :
    (b.get? k).map Fact.profile =
      if k = h then some g.profile else (a.get? k).map Fact.profile := by
  have bare := congrArg (Option.map Fact.profile) (replaced.bare k)
  rw [Option.map_map] at bare
  refine bare.trans ?_
  split
  · rfl
  · rw [Option.map_map]
    rfl

/-- A fact just attached is pending; until now it had no matches. -/
theorem attach (tracked : s.Tracked probe L none) (found : s.get? h = some f)
    (unattached : f.isUnattached = true) {index : Nat} (numbered : index ≠ 0)
    (attaches : Attaches h f index s s') (new : ∀ t, h ∉ s.patterns.replayed t) :
    s'.Tracked probe L (some h) := by
  have unasserted : ¬ f.isAsserted = true := not_asserted_of_unattached unattached
  have asserted : (f.attached index (s.hashOf f)).isAsserted = true :=
    attached_isAsserted unattached numbered (s.hashOf f)
  have profiles := profile_replaced attaches.facts
  obtain ⟨atoms, facts, global, templateLists, hashes, nextIndex, rfl⟩ := attaches.rest
  have other {k : Handle} (other : k ≠ h) :
      (s.get? k).map Fact.profile = (facts.get? k).map Fact.profile := by
    rw [profiles, if_neg other]
    rfl
  have here {g : Fact} (same : facts.get? h = some g) :
      g.profile = (f.attached index (s.hashOf f)).profile := by
    have profile := profiles h
    rw [if_pos rfl, show _ = some g from same, Option.map_some] at profile
    exact Option.some.inj profile
  have bare : s.network.records.filter (·.fact == h) = [] := by
    refine filter_fact_eq_nil tracked.toFiled fun holds => unasserted ?_
    obtain ⟨g, same, holds⟩ := isAsserted_iff_exists.mp holds
    exact Option.some.inj (found.symm.trans same) ▸ holds
  have elsewhere {r : MatchRecord} (hr : r ∈ s.network.records) : r.fact ≠ h := by
    simpa using List.filter_eq_nil_iff.mp bare r hr
  refine ⟨⟨tracked.sound, fun k g found' holds => ?_, fun k g found' holds => ?_, fun r hr => ?_⟩,
    tracked.pure, tracked.rules, tracked.keeps, fun x hx k g sees waits => ?_, fun x hx k none => ?_,
    fun k same => ?_⟩
  · by_cases same : k = h
    · subst same
      have profile := here found'
      simp only [Fact.profile, Prod.mk.injEq] at profile
      rw [profile.2.2.2.2, bare]
      exact List.Perm.of_eq (tracked.idle k f found unasserted)
    · obtain ⟨f₀, found₀, profile⟩ := exists_view (other same).symm found'
      rw [isAsserted_of_profile profile] at holds
      simp only [Fact.profile, Prod.mk.injEq] at profile
      rw [profile.2.2.2.2]
      exact tracked.answered k f₀ found₀ holds
  · by_cases same : k = h
    · subst same
      rw [isAsserted_of_profile (here found')] at holds
      exact absurd asserted holds
    · obtain ⟨f₀, found₀, profile⟩ := exists_view (other same).symm found'
      rw [isAsserted_of_profile profile] at holds
      simp only [Fact.profile, Prod.mk.injEq] at profile
      rw [profile.2.2.2.2]
      exact tracked.idle k f₀ found₀ holds
  · obtain ⟨recorded, -, numbered⟩ := tracked.recorded r hr
    refine ⟨?_, fun same => elsewhere hr (Option.some.inj same).symm, numbered⟩
    rw [← recorded]
    exact isAsserted_of_map_profile (other (elsewhere hr))
  · have different : k ≠ h := fun same => waits (congrArg some same.symm)
    obtain ⟨f₀, sees₀, owed⟩ := sees.transfer s (gist_of_profile (other different).symm)
      (same_refl x _)
    rw [← owed]
    exact tracked.seen x hx k f₀ sees₀ (by simp)
  · refine tracked.unseen x hx k fun f₀ sees => ?_
    have different : k ≠ h := by
      rintro rfl
      have stored := sees.found
      rw [found] at stored
      exact unasserted (Option.some.inj stored ▸ sees.asserted)
    obtain ⟨g, sees', -⟩ := sees.transfer ({ s with
      atoms, facts, global, templateLists, index := hashes, nextIndex })
      (gist_of_profile (other different))
      (same_refl x _)
    exact none g sees'
  · obtain rfl := Option.some.inj same
    refine ⟨?_, new⟩
    have profile := profiles h
    rw [if_pos rfl, Option.map_eq_some_iff] at profile
    obtain ⟨g, stored, profile⟩ := profile
    exact isAsserted_iff_exists.mpr ⟨g, stored, (isAsserted_of_profile profile).trans asserted⟩

/-- Taking matches back takes their records. -/
theorem records_retractMatches {ids : List MatchId} {report : EvalError → Notice} {failed : Bool}
    {notices : List Notice} (sound : s.network.Sound)
    (done : s.retractMatches h ids report = .ok (failed, notices, s')) : s'.network.Sound ∧
      s'.network.records = s.network.records.filter (fun r => !ids.contains r.id) ∧
      s'.network.issued = s.network.issued := by
  unfold retractMatches at done
  split at done
  · rename_i none
    simp only [Except.ok.injEq, Prod.mk.injEq] at done
    obtain ⟨-, -, rfl⟩ := done
    rw [List.isEmpty_iff.mp none]
    exact ⟨sound, (List.filter_eq_self.mpr fun _ _ => rfl).symm, rfl⟩
  · obtain ⟨⟨refusal, network⟩, retracted, done⟩ := bind_eq_ok.mp done
    obtain ⟨m, taken, same⟩ := map_eq_ok.mp retracted
    obtain ⟨rfl, rfl⟩ := Prod.mk.inj same
    simp only [Except.ok.injEq, Prod.mk.injEq] at done
    obtain ⟨-, -, rfl⟩ := done
    exact sound.retract taken

/-- A fact that is detached leaves no records behind. -/
theorem records_detach (tracked : s.Tracked probe L pending) {d : Detached}
    (done : s.detach h = .ok (d, s')) (asserted : s.isAsserted h = true) :
    s'.network.Sound ∧ s'.network.records = s.network.records.filter (·.fact != h) := by
  obtain ⟨f, index, u, found, -, unlinked, -, retracted⟩ := detach_eq_ok done
  have network : (u.bury h).network = s.network := by
    obtain ⟨_, _, _, rfl⟩ := unlink_eq_ok unlinked
    rfl
  obtain ⟨sound, records, -⟩ := records_retractMatches (network ▸ tracked.sound) retracted
  rw [network] at records
  refine ⟨sound, records.trans (List.filter_congr fun r hr => ?_)⟩
  obtain ⟨g, same, holds⟩ := isAsserted_iff_exists.mp asserted
  obtain rfl := Option.some.inj (found.symm.trans same)
  have answered := (tracked.answered h f found holds).mem_iff (a := r.id)
  have mine : r.id ∈ f.matched ↔ r.fact = h := by
    rw [answered, List.mem_map]
    constructor
    · rintro ⟨r', hr', number⟩
      obtain ⟨inside, fact⟩ := List.mem_filter.mp hr'
      rw [← List.inj_on_of_nodup_map tracked.sound.once inside hr number]
      exact beq_iff_eq.mp fact
    · exact fun fact => ⟨r, List.mem_filter.mpr ⟨hr, beq_iff_eq.mpr fact⟩, rfl⟩
  by_cases fact : r.fact = h
  · simp [mine.mpr fact, fact]
  · have other : r.id ∉ f.matched := fun inside => fact (mine.mp inside)
    simp [other, fact]

/-- Nothing is recorded of a fact once its records are taken away. -/
theorem held_filter {m m' : AlphaMemory} (records : m'.records = m.records.filter (·.fact != h))
    (e : EntryId) (k : Handle) : m'.held e k = if k = h then [] else m.held e k := by
  rw [AlphaMemory.held, AlphaMemory.held, AlphaMemory.matchesOf, AlphaMemory.matchesOf, records,
    List.filter_filter, List.filter_filter, List.filter_filter]
  split
  · rename_i same
    rw [List.map_eq_nil_iff, List.filter_eq_nil_iff]
    intro r _
    simpa [same] using fun fact _ => fact
  · rename_i other
    congr 1
    refine List.filter_congr fun r _ => ?_
    by_cases fact : r.fact = k
    · simp [fact, other]
    · simp [fact]

theorem detach (tracked : s.Tracked probe L none) (storeSound : s.Sound) {d : Detached}
    (done : s.detach h = .ok (d, s')) : s'.Tracked probe L none := by
  obtain ⟨f, found, asserted, -, detaches, -⟩ := detach_spec storeSound done
  obtain ⟨sound, records⟩ :=
    tracked.records_detach done (isAsserted_iff_exists.mpr ⟨f, found, asserted⟩)
  have held := held_filter records
  have profiles := profile_replaced detaches.facts
  have buried : ¬ f.buried.isAsserted = true := by simp [Fact.isAsserted, Fact.buried]
  have patterns : s'.patterns = s.patterns := by
    obtain ⟨_, _, _, _, _, _, _, _, shape⟩ := detaches.rest
    rw [shape]
  have probes : s'.probe = s.probe := by
    obtain ⟨_, _, _, _, _, _, _, _, shape⟩ := detaches.rest
    rw [shape]
  have other {k : Handle} (other : k ≠ h) :
      (s.get? k).map Fact.profile = (s'.get? k).map Fact.profile := by
    have profile := profiles k
    rw [if_neg other] at profile
    exact profile.symm
  have here {g : Fact} (same : s'.get? h = some g) : g.profile = f.buried.profile := by
    have profile := profiles h
    rw [if_pos rfl, show s'.facts.get? h = some g from same, Option.map_some] at profile
    exact Option.some.inj profile
  have apart {k : Handle} {g : Fact} (stored : s'.get? k = some g) (holds : g.isAsserted = true) :
      k ≠ h := by
    rintro rfl
    rw [isAsserted_of_profile (here stored)] at holds
    exact buried holds
  have unchanged (x : EntryId × Pattern) : PatternNetwork.Same x s.patterns s'.patterns :=
    patterns ▸ same_refl x s.patterns
  refine ⟨⟨sound, fun k g stored holds => ?_, fun k g stored holds => ?_, fun r hr => ?_⟩,
    tracked.pure, probes ▸ tracked.rules, patterns ▸ tracked.keeps, fun x hx k g sees _ => ?_,
    fun x hx k none => ?_, by simp⟩
  · have different := apart stored holds
    obtain ⟨g₀, stored₀, profile⟩ := exists_view (other different).symm stored
    rw [isAsserted_of_profile profile] at holds
    simp only [Fact.profile, Prod.mk.injEq] at profile
    rw [profile.2.2.2.2, records, List.filter_filter]
    have kept := tracked.answered k g₀ stored₀ holds
    refine kept.trans (List.Perm.of_eq (congrArg _ (List.filter_congr fun r _ => ?_)))
    by_cases fact : r.fact = k
    · simp [fact, different]
    · simp [fact]
  · by_cases same : k = h
    · subst same
      have profile := here stored
      simp only [Fact.profile, Prod.mk.injEq] at profile
      exact profile.2.2.2.2
    · obtain ⟨g₀, stored₀, profile⟩ := exists_view (other same).symm stored
      rw [isAsserted_of_profile profile] at holds
      simp only [Fact.profile, Prod.mk.injEq] at profile
      rw [profile.2.2.2.2]
      exact tracked.idle k g₀ stored₀ holds
  · rw [records] at hr
    obtain ⟨hr, fact⟩ := List.mem_filter.mp hr
    obtain ⟨recorded, -, numbered⟩ := tracked.recorded r hr
    refine ⟨?_, by simp, patterns ▸ numbered⟩
    rw [← recorded]
    exact isAsserted_of_map_profile (other (bne_iff_ne.mp fact))
  · have different := apart sees.found sees.asserted
    obtain ⟨g₀, sees₀, owed⟩ := sees.transfer _ (gist_of_profile (other different).symm)
      (patterns ▸ same_refl x _)
    rw [held, if_neg different, ← owed]
    exact tracked.seen x hx k g₀ sees₀ (by simp)
  · rw [held]
    split
    · rfl
    · rename_i different
      refine tracked.unseen x hx k fun g₀ sees => ?_
      obtain ⟨g, sees', -⟩ := sees.transfer _ (gist_of_profile (other different)) (unchanged x)
      exact none g sees'

/-! ### Matching -/

theorem mem_markersOf_of_recorded {issued : Nat} {ds : List Delivery} {r : MatchRecord}
    (mem : r ∈ AlphaMemory.recordsFrom issued (ds.filterMap (handed h f))) :
    r.markers ∈ markersOf r.entry ds := by
  induction ds generalizing issued with
  | nil => cases mem
  | cons d ds ih =>
    cases d with
    | failed test => exact ih mem
    | matched entry markers =>
      rcases List.mem_cons.mp mem with rfl | later
      · simp [markersOf]
      · have inside := ih later
        rw [markersOf, List.mem_filterMap] at inside ⊢
        obtain ⟨d, hd, taken⟩ := inside
        exact ⟨d, List.mem_cons_of_mem _ hd, taken⟩

end Tracked

/-- Matching changes nothing of facts that matches depend on. -/
theorem gist_matchFact {s s' : Store AlphaMemory} {h : Handle} {mode : MatchMode} {o : MatchOutcome}
    (done : s.matchFact h mode = .ok (o, s')) (k : Handle) :
    (s.get? k).map Fact.gist = (s'.get? k).map Fact.gist := by
  obtain ⟨f, found, -, -, -, -, -, here, others⟩ := matchFact_eq_ok done
  by_cases same : k = h
  · rw [same, found, here]
    rfl
  · rw [others k same]

/-- What a fact is delivered is filed under its number. -/
theorem Filed.matchFact {s s' : Store AlphaMemory} {pending : Option Handle} {h : Handle}
    {f : Fact} {mode : MatchMode} {o : MatchOutcome} (filed : s.Filed pending)
    (only : ∀ k, pending = some k → k = h) (found : s.get? h = some f)
    (asserted : f.isAsserted = true) (done : s.matchFact h mode = .ok (o, s'))
    (numbered : ∀ e ms, ms ∈ markersOf e (s.walked f mode).1 → e.number < s.patterns.nextEntry) :
    s'.Filed none := by
  have gists := gist_matchFact done
  obtain ⟨f', found', ids, -, network, -, patterns, here, others⟩ := matchFact_eq_ok done
  obtain rfl := Option.some.inj (found.symm.trans found')
  obtain ⟨records, numbers, -⟩ := deliverAll_records h f (s.walked f mode).1 s.network
  rw [← network] at records
  rw [← ids] at numbers
  have mine : (AlphaMemory.recordsFrom s.network.issued
      ((s.walked f mode).1.filterMap (handed h f))).filter (·.fact == h) =
      AlphaMemory.recordsFrom s.network.issued ((s.walked f mode).1.filterMap (handed h f)) :=
    List.filter_eq_self.mpr fun r hr => beq_iff_eq.mpr (fact_of_mem_recordsFrom hr)
  have others' {k : Handle} (other : k ≠ h) : (AlphaMemory.recordsFrom s.network.issued
      ((s.walked f mode).1.filterMap (handed h f))).filter (·.fact == k) = [] := by
    refine List.filter_eq_nil_iff.mpr fun r hr => ?_
    rw [fact_of_mem_recordsFrom hr]
    simpa using Ne.symm other
  refine ⟨network ▸ sound_deliverAll filed.sound _, fun k g stored holds => ?_,
    fun k g stored holds => ?_, fun r hr => ?_⟩
  · rw [records, List.filter_append, List.map_append]
    by_cases same : k = h
    · subst same
      obtain rfl := Option.some.inj (here.symm.trans stored)
      rw [mine, ← numbers]
      exact (filed.answered k f found asserted).append_right _
    · rw [others' same, List.map_nil, List.append_nil]
      exact filed.answered k g ((others k same).symm.trans stored) holds
  · by_cases same : k = h
    · subst same
      obtain rfl := Option.some.inj (here.symm.trans stored)
      exact absurd asserted holds
    · exact filed.idle k g ((others k same).symm.trans stored) holds
  · rw [records] at hr
    rw [isAsserted_of_gist (gists r.fact), patterns]
    rcases List.mem_append.mp hr with old | new
    · obtain ⟨recorded, -, numbered⟩ := filed.recorded r old
      exact ⟨recorded, by simp, numbered⟩
    · refine ⟨?_, by simp, numbered r.entry r.markers (Tracked.mem_markersOf_of_recorded new)⟩
      rw [fact_of_mem_recordsFrom new]
      exact isAsserted_iff_exists.mpr ⟨f, found, asserted⟩

namespace Tracked

variable {s s' : Store AlphaMemory} {probe : Probe} {L L' : Ledger} {pending : Option Handle}
  {h : Handle} {f : Fact} {mode : MatchMode} {o : MatchOutcome}

theorem pure' (tracked : s.Tracked probe L pending) : s.probe.predicates.Pure := by
  intro i rule found
  exact tracked.pure i rule (tracked.rules ▸ found)

/-- Only entries of the ledger are delivered anything. -/
theorem numbered_walked (tracked : s.Tracked probe L pending)
    (unhalted : (s.walked f mode).2.halted = false) {e : EntryId} {ms : List Marker}
    (delivered : ms ∈ markersOf e (s.walked f mode).1) : e.number < s.patterns.nextEntry := by
  by_contra beyond
  have none : markersOf e (s.walked f mode).1 = [] := by
    refine markersOf_walked_eq_nil tracked.keeps tracked.pure' unhalted fun x hx same _ _ => ?_
    exact beyond (same ▸ tracked.keeps.numbered x hx)
  rw [none] at delivered
  cases delivered

/-- What an entry is delivered that a mode means. -/
theorem markersOf_owed (tracked : s.Tracked probe L pending)
    (unhalted : (s.walked f mode).2.halted = false) {x : EntryId × Pattern} (listed : x ∈ L)
    (same : f.templateId = x.2.template)
    (meant : s.patterns.Initialized x.2.template x.1 ↔ mode = .assert) :
    (markersOf x.1 (s.walked f mode).1).map (f.index, ·) = s.owed probe x f := by
  obtain ⟨tree, grown⟩ := Option.isSome_iff_exists.mp (tracked.keeps.planted x listed)
  have known : s.patterns.template? x.2.template = some tree.template := by
    rw [PatternNetwork.template?, grown]
    rfl
  rw [markersOf_walked tracked.keeps tracked.pure' unhalted listed same meant known, owed, known,
    answer_eq tracked.pure tracked.rules]

theorem markersOf_eq_nil (tracked : s.Tracked probe L pending)
    (unhalted : (s.walked f mode).2.halted = false) {x : EntryId × Pattern} (listed : x ∈ L)
    (unmeant : f.templateId = x.2.template →
      ¬ (s.patterns.Initialized x.2.template x.1 ↔ mode = .assert)) :
    markersOf x.1 (s.walked f mode).1 = [] := by
  refine markersOf_walked_eq_nil tracked.keeps tracked.pure' unhalted fun y hy same => ?_
  rw [tracked.keeps.eq_of_entry hy listed same]
  exact unmeant

/-- The rules outlast a walk. -/
theorem rules_matchFact (tracked : s.Tracked probe L pending)
    (done : s.matchFact h mode = .ok (o, s')) :
    s'.probe.predicates.rules = probe.predicates.rules := by
  obtain ⟨f, -, -, -, -, walk, -⟩ := matchFact_eq_ok done
  rw [walk, (walked_probe tracked.keeps tracked.pure' f mode).1]
  exact tracked.rules

/-- A pending fact is matched. -/
theorem matchFact (tracked : s.Tracked probe L (some h))
    (done : s.matchFact h .assert = .ok (o, s')) (unhalted : o.halted = false) :
    s'.Tracked probe L none := by
  obtain ⟨asserted, new⟩ := tracked.waiting h rfl
  obtain ⟨f, found, holds⟩ := isAsserted_iff_exists.mp asserted
  have gists := gist_matchFact done
  obtain ⟨f', found', -, same, network, -, patterns, -⟩ := matchFact_eq_ok done
  obtain rfl := Option.some.inj (found.symm.trans found')
  rw [same] at unhalted
  have filed := tracked.toFiled.matchFact (by simp) found holds done
    fun e ms => tracked.numbered_walked unhalted
  have held (e : EntryId) (k : Handle) : s'.network.held e k = s.network.held e k ++
      if k = h then (markersOf e (s.walked f .assert).1).map (f.index, ·) else [] := by
    rw [network]
    exact held_deliverAll _ e k
  have unchanged (x : EntryId × Pattern) : PatternNetwork.Same x s'.patterns s.patterns :=
    patterns ▸ same_refl x s'.patterns
  -- Nothing was recorded of the fact while it was pending.
  have bare (e : EntryId) : s.network.held e h = [] := by
    rw [AlphaMemory.held, AlphaMemory.matchesOf, List.map_eq_nil_iff, List.filter_eq_nil_iff]
    intro r hr fact
    refine (tracked.recorded r (List.mem_filter.mp hr).1).2.1 ?_
    rw [beq_iff_eq.mp fact]
  refine ⟨filed, tracked.pure, tracked.rules_matchFact done, patterns ▸ tracked.keeps,
    fun x hx k g sees _ => ?_, fun x hx k none => ?_, by simp⟩
  · obtain ⟨g₀, sees₀, owed⟩ := sees.transfer _ (gists k).symm (unchanged x)
    rw [held, ← owed]
    by_cases same : k = h
    · subst same
      obtain rfl := Option.some.inj (found.symm.trans sees₀.found)
      have initialized := sees₀.reached.resolve_right (new x.2.template)
      rw [if_pos rfl, bare, List.nil_append]
      exact List.Perm.of_eq (tracked.markersOf_owed unhalted hx sees₀.template (by simp [initialized]))
    · rw [if_neg same, List.append_nil]
      exact tracked.seen x hx k g₀ sees₀ fun other => same (Option.some.inj other).symm
  · have none' (g₀ : Fact) : ¬ s.Sees x k g₀ := fun sees => by
      obtain ⟨g, sees', -⟩ := sees.transfer _ (gists k) (patterns ▸ same_refl x s.patterns)
      exact none g sees'
    rw [held, tracked.unseen x hx k none', List.nil_append]
    split
    · rename_i same
      subst same
      refine List.map_eq_nil_iff.mpr (tracked.markersOf_eq_nil unhalted hx fun template meant => ?_)
      exact none' f ⟨found, holds, template, .inl (meant.mpr rfl)⟩
    · rfl

end Tracked

end Store

end FactBase

import FactBase.Proofs.Memory.Tracked

/-!
# Replays

A replay takes the facts of a template one after the other and leaves out those it has dealt with
before. A memory that follows the facts goes on doing so, whether the replay is completed or halted:
the fact at which it is halted gives its new matches back.
-/

namespace FactBase.Store
open PatternTree

variable {s s' s'' u : Store AlphaMemory} {probe : Probe} {L : Ledger} {pending : Option Handle}
  {t : TemplateId} {h : Handle} {f : Fact} {mode : MatchMode}

/-- What replaying facts of a template leaves alone. -/
structure Progress (t : TemplateId) (s s' : Store AlphaMemory) : Prop where
  gists : ∀ k, (s.get? k).map Fact.gist = (s'.get? k).map Fact.gist
  initialized : ∀ u e, s'.patterns.Initialized u e ↔ s.patterns.Initialized u e
  planted : ∀ u, (s'.patterns.tree? u).isSome = (s.patterns.tree? u).isSome
  replayed : s.patterns.replayed t ⊆ s'.patterns.replayed t
  others : ∀ u, u ≠ t → s'.patterns.replayed u = s.patterns.replayed u

theorem Progress.refl (t : TemplateId) (s : Store AlphaMemory) : Progress t s s :=
  ⟨fun _ => rfl, fun _ _ => .rfl, fun _ => rfl, fun _ => id, fun _ _ => rfl⟩

theorem Progress.trans (first : Progress t s s') (second : Progress t s' s'') :
    Progress t s s'' :=
  ⟨fun k => (first.gists k).trans (second.gists k),
    fun u e => (second.initialized u e).trans (first.initialized u e),
    fun u => (second.planted u).trans (first.planted u),
    fun _ inside => second.replayed (first.replayed inside),
    fun u other => (second.others u other).trans (first.others u other)⟩

/-- Where trees stay as they are there is no progress, but nothing is lost either. -/
theorem Progress.of_patterns_eq (gists : ∀ k, (s.get? k).map Fact.gist = (s'.get? k).map Fact.gist)
    (patterns : s'.patterns = s.patterns) : Progress t s s' := by
  refine ⟨gists, ?_, ?_, ?_, ?_⟩ <;> rw [patterns] <;> simp

/-- A fact of a template is still one. -/
theorem Progress.member (progress : Progress t s s') {v : TemplateId}
    (member : ∃ f, s.get? h = some f ∧ f.isAsserted = true ∧ f.templateId = v) :
    ∃ f, s'.get? h = some f ∧ f.isAsserted = true ∧ f.templateId = v := by
  obtain ⟨f, found, asserted, same⟩ := member
  obtain ⟨g, found', like⟩ := exists_view (progress.gists h) found
  have kept := isAsserted_of_gist (progress.gists h)
  rw [Store.isAsserted, Store.isAsserted, found, found', Option.any_some, Option.any_some] at kept
  simp only [Fact.gist, Prod.mk.injEq] at like
  exact ⟨g, found', kept.trans asserted, like.2.2.1 ▸ same⟩

/-- A template without a tree has had no replays. -/
theorem any_isReplayed (s : Store AlphaMemory) (t : TemplateId) (h : Handle) :
    (s.patterns.tree? t).any (·.isReplayed h) = true ↔ h ∈ s.patterns.replayed t := by
  rw [PatternNetwork.replayed]
  cases s.patterns.tree? t with
  | none => simp
  | some tree => simp [isReplayed]

theorem progress_recordReplayed (planted : (s.patterns.tree? t).isSome) (h : Handle) :
    Progress t s { s with patterns := s.patterns.updateTree t (·.recordReplayed h) } ∧
      h ∈ (s.patterns.updateTree t (·.recordReplayed h)).replayed t := by
  obtain ⟨tree, grown⟩ := Option.isSome_iff_exists.mp planted
  have replayed (v : TemplateId) : (s.patterns.updateTree t (·.recordReplayed h)).replayed v =
      if v = t then h :: s.patterns.replayed v else s.patterns.replayed v :=
    PatternNetwork.replayed_recordReplayed grown
  refine ⟨⟨fun _ => rfl, fun _ _ => PatternNetwork.initialized_recordReplayed, fun v => ?_, ?_,
    fun v other => ?_⟩, ?_⟩
  · rw [PatternNetwork.tree?_updateTree]
    split
    · rw [Option.isSome_map]
    · rfl
  · rw [replayed, if_pos rfl]
    exact List.subset_cons_self h _
  · rw [replayed, if_neg other]
  · rw [replayed, if_pos rfl]
    exact List.mem_cons_self

namespace Tracked

variable {o : MatchOutcome}

/-- A fact is replayed and counts as dealt with. -/
theorem replayFact (tracked : s.Tracked probe L none) (planted : (s.patterns.tree? t).isSome)
    (found : s.get? h = some f) (asserted : f.isAsserted = true) (member : f.templateId = t)
    (unreplayed : h ∉ s.patterns.replayed t) (done : s.matchFact h .replay = .ok (o, s'))
    (unhalted : o.halted = false) :
    Tracked probe L none
      { s' with patterns := s'.patterns.updateTree t (·.recordReplayed h) } := by
  have gists := gist_matchFact done
  have rules := tracked.rules_matchFact done
  obtain ⟨f', found', -, same, network, -, patterns, -⟩ := matchFact_eq_ok done
  obtain rfl := Option.some.inj (found.symm.trans found')
  rw [same] at unhalted
  have filed := tracked.toFiled.matchFact (by simp) found asserted done
    fun e ms => tracked.numbered_walked unhalted
  have held (e : EntryId) (k : Handle) : s'.network.held e k = s.network.held e k ++
      if k = h then (markersOf e (s.walked f .replay).1).map (f.index, ·) else [] := by
    rw [network]
    exact held_deliverAll _ e k
  obtain ⟨tree, grown⟩ := Option.isSome_iff_exists.mp planted
  rw [← patterns] at grown
  have replayed (v : TemplateId) : (s'.patterns.updateTree t (·.recordReplayed h)).replayed v =
      if v = t then h :: s.patterns.replayed v else s.patterns.replayed v := by
    rw [PatternNetwork.replayed_recordReplayed grown, patterns]
  have initialized {v : TemplateId} {e : EntryId} :
      (s'.patterns.updateTree t (·.recordReplayed h)).Initialized v e ↔
        s.patterns.Initialized v e := by
    rw [PatternNetwork.initialized_recordReplayed, patterns]
  have template (v : TemplateId) : (s'.patterns.updateTree t (·.recordReplayed h)).template? v =
      s.patterns.template? v := by
    rw [PatternNetwork.template?_updateTree, patterns]
    exact fun _ => rfl
  let u : Store AlphaMemory := { s' with patterns := s'.patterns.updateTree t (·.recordReplayed h) }
  -- To whom the fact is not new it looks as before.
  have before {x : EntryId × Pattern} {k : Handle} {g : Fact} (sees : u.Sees x k g)
      (old : k = h → s.patterns.Initialized x.2.template x.1) :
      ∃ g₀, s.Sees x k g₀ ∧ s.owed probe x g₀ = u.owed probe x g := by
    obtain ⟨g₀, sees₀, owed⟩ := sees.carry s (gists k).symm (template _).symm fun reached => by
      by_cases same : k = h
      · exact .inl (old same)
      · rw [initialized, replayed] at reached
        split at reached
        · simpa [same] using reached
        · exact reached
    exact ⟨g₀, sees₀, owed probe⟩
  have after {x : EntryId × Pattern} {k : Handle} {g : Fact} (sees : s.Sees x k g) :
      ∃ g', u.Sees x k g' := by
    obtain ⟨g', sees', -⟩ := sees.carry u (gists k) (template _) fun reached => by
      rw [initialized, replayed]
      split
      · exact reached.imp_right (List.mem_cons_of_mem h)
      · exact reached
    exact ⟨g', sees'⟩
  refine ⟨⟨filed.sound, filed.answered, filed.idle, filed.recorded⟩, tracked.pure,
    rules, patterns ▸ tracked.keeps.recordReplayed t h,
    fun x hx k g sees _ => ?_, fun x hx k none => ?_, by simp⟩
  · by_cases new : k = h ∧ ¬ s.patterns.Initialized x.2.template x.1
    · obtain ⟨rfl, uninitialized⟩ := new
      obtain ⟨f₀, found₀, like⟩ := exists_view (gists k).symm sees.found
      obtain rfl := Option.some.inj (found.symm.trans found₀)
      simp only [Fact.gist, Prod.mk.injEq] at like
      have same : f.templateId = x.2.template := like.2.2.1 ▸ sees.template
      have bare : s.network.held x.1 k = [] := by
        refine tracked.unseen x hx k fun f₀ sees₀ => ?_
        rcases sees₀.reached with reached | reached
        · exact uninitialized reached
        · rw [← same, member] at reached
          exact unreplayed reached
      have owed : u.owed probe x g = s.owed probe x f := by
        rw [Store.owed, Store.owed, template, like.1, like.2.2.2]
      change (s'.network.held x.1 k).Perm (u.owed probe x g)
      rw [held, if_pos rfl, bare, List.nil_append, owed]
      exact List.Perm.of_eq (tracked.markersOf_owed unhalted hx same (by simp [uninitialized]))
    · rw [not_and, not_not] at new
      obtain ⟨g₀, sees₀, owed⟩ := before sees new
      change (s'.network.held x.1 k).Perm (u.owed probe x g)
      rw [held, ← owed]
      split
      · rename_i same
        rw [tracked.markersOf_eq_nil unhalted hx fun _ => by simp [new same], List.map_nil,
          List.append_nil]
        exact tracked.seen x hx k g₀ sees₀ (by simp)
      · rw [List.append_nil]
        exact tracked.seen x hx k g₀ sees₀ (by simp)
  · have bare : s.network.held x.1 k = [] := by
      refine tracked.unseen x hx k fun f₀ sees₀ => ?_
      obtain ⟨g', sees'⟩ := after sees₀
      exact none g' sees'
    change s'.network.held x.1 k = []
    rw [held, bare, List.nil_append]
    split
    · rename_i same
      subst same
      refine List.map_eq_nil_iff.mpr (tracked.markersOf_eq_nil unhalted hx fun template meant => ?_)
      obtain ⟨g, found', like⟩ := exists_view (gists k) found
      have holds := isAsserted_of_gist (gists k)
      rw [Store.isAsserted, Store.isAsserted, found, found', Option.any_some, Option.any_some] at holds
      simp only [Fact.gist, Prod.mk.injEq] at like
      refine none g ⟨found', holds.trans asserted, like.2.2.1 ▸ template, .inr ?_⟩
      change k ∈ (s'.patterns.updateTree t (·.recordReplayed k)).replayed x.2.template
      rw [replayed, if_pos (template.symm.trans member)]
      exact List.mem_cons_self
    · rfl

/-- A fact that gives its new matches back is as it was. -/
theorem withdraw (tracked : s.Tracked probe L none) (asserted : s.isAsserted h = true)
    (matched : s.matchFact h mode = .ok (o, u)) {notices : List Notice}
    (done : u.withdraw h o.ids = .ok (notices, s')) : s'.Tracked probe L none ∧ Progress t s s' := by
  have rules := tracked.rules_matchFact matched
  obtain ⟨f, found, ids, -, network, -, patterns, here, others⟩ := matchFact_eq_ok matched
  have taken := filter_deliverAll (h := h) (f := f) tracked.sound (s.walked f mode).1
  rw [← network, ← ids] at taken
  have old (r : MatchRecord) (hr : r ∈ s.network.records) : o.ids.contains r.id = false := by
    rw [← taken] at hr
    simpa using (List.mem_filter.mp hr).2
  have new : o.ids.filter (!o.ids.contains ·) = [] :=
    List.filter_eq_nil_iff.mpr fun id inside => by simpa using inside
  obtain ⟨⟨failed, notices', v⟩, retracted, done⟩ := bind_eq_ok.mp done
  obtain ⟨-, rfl⟩ := Prod.mk.inj (Except.ok.inj done)
  obtain ⟨sound, records, -⟩ := records_retractMatches
    (network ▸ sound_deliverAll tracked.sound (s.walked f mode).1) retracted
  obtain ⟨network', counters, evaluationError, rfl⟩ := retractMatches_eq_ok retracted
  have facts (k : Handle) : s.get? k = (u.facts.update h fun g =>
      { g with matched := g.matched.filter (!o.ids.contains ·) }).get? k := by
    rw [Arena.get?_update]
    by_cases same : k = h
    · rw [same, if_pos rfl, show u.facts.get? h = _ from here, found, Option.map_some]
      obtain ⟨g, found', holds⟩ := isAsserted_iff_exists.mp asserted
      obtain rfl := Option.some.inj (found.symm.trans found')
      have kept : f.matched.filter (!o.ids.contains ·) = f.matched := by
        refine List.filter_eq_self.mpr fun id inside => ?_
        obtain ⟨r, hr, rfl⟩ := List.mem_map.mp ((tracked.answered h f found holds).mem_iff.mp inside)
        rw [old r (List.mem_filter.mp hr).1]
        rfl
      rw [List.filter_append, new, kept, List.append_nil]
    · rw [if_neg same]
      exact (others k same).symm
  refine ⟨tracked.unnoticed (fun k => .inl (congrArg _ (facts k))) sound (records.trans taken)
    patterns (rules.trans tracked.rules.symm), .of_patterns_eq (fun k => congrArg _ (facts k))
    patterns⟩

/-! ### Rows of facts -/

/-- What is made sure of by facts being replayed one after the other. Where no halt is requested, all
of them are dealt with. -/
theorem replayFacts {hs : List Handle} {o : ReplayOutcome} (tracked : s.Tracked probe L none)
    (planted : (s.patterns.tree? t).isSome)
    (members : ∀ h ∈ hs, ∃ f, s.get? h = some f ∧ f.isAsserted = true ∧ f.templateId = t)
    (done : Store.replayFacts t hs s = .ok (o, s')) :
    s'.Tracked probe L none ∧ Progress t s s' ∧
      (o.complete = true → ∀ h ∈ hs, h ∈ s'.patterns.replayed t) ∧
      (s.probe.Quiet → o.complete = true ∧ s'.probe.Quiet) := by
  induction hs generalizing s o with
  | nil =>
    obtain ⟨rfl, rfl⟩ := Prod.mk.inj (Except.ok.inj done)
    exact ⟨tracked, .refl t s, by simp, fun quiet => ⟨rfl, quiet⟩⟩
  | cons h rest ih =>
    rw [List.forall_mem_cons] at members
    obtain ⟨⟨f, found, asserted, member⟩, members⟩ := members
    unfold Store.replayFacts at done
    split at done
    · rename_i dealt
      obtain ⟨tracked', progress, complete, quiet⟩ := ih tracked planted members done
      refine ⟨tracked', progress, fun all => List.forall_mem_cons.mpr ⟨?_, complete all⟩, quiet⟩
      exact progress.replayed ((any_isReplayed s t h).mp dealt)
    · rename_i fresh
      have unreplayed : h ∉ s.patterns.replayed t := fun inside =>
        fresh ((any_isReplayed s t h).mpr inside)
      obtain ⟨⟨m, v⟩, matched, done⟩ := bind_eq_ok.mp done
      have gists := gist_matchFact matched
      obtain ⟨f', found', -, halted, -, walk, patterns, -⟩ := matchFact_eq_ok matched
      obtain rfl := Option.some.inj (found.symm.trans found')
      have unhalted (quiet : s.probe.Quiet) : v.probe.Quiet ∧ m.halted = false := by
        rw [walk, halted]
        exact walked_quiet tracked.keeps quiet f .replay
      dsimp only at done
      split at done
      · rename_i interrupted
        obtain ⟨⟨notices, v'⟩, withdrawn, done⟩ := bind_eq_ok.mp done
        obtain ⟨rfl, rfl⟩ := Prod.mk.inj (Except.ok.inj done)
        obtain ⟨tracked', progress⟩ :=
          tracked.withdraw (isAsserted_iff_exists.mpr ⟨f, found, asserted⟩) matched withdrawn
        refine ⟨tracked', progress, by simp, fun quiet => ?_⟩
        rw [(unhalted quiet).2] at interrupted
        cases interrupted
      · rename_i through
        obtain ⟨⟨r, v'⟩, replayed, done⟩ := bind_eq_ok.mp done
        obtain ⟨rfl, rfl⟩ := Prod.mk.inj (Except.ok.inj done)
        have noted := tracked.replayFact planted found asserted member unreplayed matched
          (Bool.eq_false_iff.mpr through)
        have first : Progress t s v := .of_patterns_eq gists patterns
        obtain ⟨second, dealt⟩ :=
          progress_recordReplayed (s := v) ((first.planted t).trans planted) h
        have progress := first.trans second
        obtain ⟨tracked', progress', complete, quiet⟩ := ih noted ((progress.planted t).trans planted)
          (fun k hk => progress.member (members k hk)) replayed
        exact ⟨tracked', progress.trans progress', fun all => List.forall_mem_cons.mpr
          ⟨progress'.replayed dealt, complete all⟩, fun before => quiet (unhalted before).1⟩

/-- Where every fact of a template is dealt with, its entries have reached all of them. -/
theorem markInitialized (tracked : s.Tracked probe L none)
    (dealt : ∀ h f, s.get? h = some f → f.isAsserted = true → f.templateId = t →
      h ∈ s.patterns.replayed t) :
    Tracked probe L none { s with patterns := s.patterns.updateTree t (·.markInitialized) } := by
  have template (v : TemplateId) : (s.patterns.updateTree t (·.markInitialized)).template? v =
      s.patterns.template? v := by
    rw [PatternNetwork.template?_updateTree]
    exact fun _ => rfl
  let u : Store AlphaMemory := { s with patterns := s.patterns.updateTree t (·.markInitialized) }
  have same {x : EntryId × Pattern} (hx : x ∈ L) {h : Handle} {f : Fact} :
      u.Sees x h f ↔ s.Sees x h f := by
    have initialized : u.patterns.Initialized x.2.template x.1 ↔
        x.2.template = t ∨ s.patterns.Initialized x.2.template x.1 :=
      tracked.keeps.initialized_markInitialized hx
    have replayed : u.patterns.replayed x.2.template =
        if x.2.template = t then [] else s.patterns.replayed x.2.template :=
      PatternNetwork.replayed_markInitialized
    constructor
    · rintro ⟨found, asserted, template, reached⟩
      refine ⟨found, asserted, template, ?_⟩
      by_cases here : x.2.template = t
      · rw [here]
        exact .inr (dealt h f found asserted (template.trans here))
      · rw [initialized, replayed, if_neg here] at reached
        simpa [here] using reached
    · rintro ⟨found, asserted, template, reached⟩
      refine ⟨found, asserted, template, ?_⟩
      rw [initialized, replayed]
      by_cases here : x.2.template = t
      · exact .inl (.inl here)
      · rw [if_neg here]
        exact reached.imp_left .inr
  refine ⟨⟨tracked.sound, tracked.answered, tracked.idle, tracked.recorded⟩, tracked.pure,
    tracked.rules, tracked.keeps.markInitialized t, fun x hx k g sees _ => ?_,
    fun x hx k none => ?_, by simp⟩
  · have owed : u.owed probe x g = s.owed probe x g := by rw [owed, owed, template]
    change (s.network.held x.1 k).Perm (u.owed probe x g)
    rw [owed]
    exact tracked.seen x hx k g ((same hx).mp sees) (by simp)
  · exact tracked.unseen x hx k fun g sees => none g ((same hx).mpr sees)

end Tracked

/-! ### Replays of a template -/

/-- What comes of a replay of a template. A complete one leaves nothing to be dealt with. -/
structure Replayed (L : Ledger) (t : TemplateId) (o : ReplayOutcome) (s s' : Store AlphaMemory) :
    Prop where
  gists : ∀ k, (s.get? k).map Fact.gist = (s'.get? k).map Fact.gist
  planted : ∀ u, (s'.patterns.tree? u).isSome = (s.patterns.tree? u).isSome
  others : ∀ u, u ≠ t → s'.patterns.replayed u = s.patterns.replayed u
  complete : o.complete = true → s'.patterns.replayed t = [] ∧
    ∀ x ∈ L, x.2.template = t → s'.patterns.Initialized t x.1
  /-- Where no halt is requested, none is seen. -/
  quiet : s.probe.Quiet → o.complete = true ∧ s'.probe.Quiet

theorem Tracked.replay {o : ReplayOutcome} (tracked : s.Tracked probe L none) (sound : s.Sound)
    (planted : (s.patterns.tree? t).isSome) (done : s.replay t = .ok (o, s')) :
    s'.Tracked probe L none ∧ Replayed L t o s s' := by
  obtain ⟨⟨o', v⟩, replayed, done⟩ := bind_eq_ok.mp done
  obtain ⟨rfl, rfl⟩ := Prod.mk.inj (Except.ok.inj done)
  have begun : Tracked probe L none { s with guarded := true } :=
    tracked.aloof (.of_facts_eq rfl rfl rfl rfl rfl)
  obtain ⟨through, progress, dealt, quiet⟩ := begun.replayFacts planted
    (fun h inside => sound.mem_templateFacts.mp inside) replayed
  have released : Tracked probe L none { v with guarded := s.guarded } :=
    through.aloof (.of_facts_eq rfl rfl rfl rfl rfl)
  split
  · rename_i complete
    -- Whatever is asserted of the template was so when the replay began.
    have all (h : Handle) (f : Fact) (found : v.get? h = some f) (asserted : f.isAsserted = true)
        (member : f.templateId = t) : h ∈ v.patterns.replayed t := by
      obtain ⟨g, before, like⟩ := exists_view (progress.gists h).symm found
      have kept := isAsserted_of_gist (progress.gists h)
      rw [Store.isAsserted, Store.isAsserted, found, before, Option.any_some, Option.any_some] at kept
      simp only [Fact.gist, Prod.mk.injEq] at like
      exact dealt complete h (sound.mem_templateFacts.mpr
        ⟨g, before, kept.symm.trans asserted, like.2.2.1 ▸ member⟩)
    refine ⟨released.markInitialized all, progress.gists, fun u => ?_, fun u other => ?_,
      fun _ => ⟨?_, fun x hx same => ?_⟩, quiet⟩
    · refine Eq.trans ?_ (progress.planted u)
      rw [PatternNetwork.tree?_updateTree]
      split
      · rw [Option.isSome_map]
      · rfl
    · refine Eq.trans ?_ (progress.others u other)
      rw [PatternNetwork.replayed_markInitialized, if_neg other]
    · rw [PatternNetwork.replayed_markInitialized, if_pos rfl]
    · rw [← same]
      exact (through.keeps.initialized_markInitialized hx).mpr (.inl rfl)
  · rename_i halted
    exact ⟨released, progress.gists, progress.planted, progress.others,
      fun complete => absurd complete halted, quiet⟩

end FactBase.Store

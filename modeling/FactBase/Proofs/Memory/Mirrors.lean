import FactBase.Proofs.Memory.Follows

/-!
# Memories as views

A memory mirrors the facts if it is what matching all facts anew would give for the entries that are
initialized, and empty for those that wait for a replay.
-/

namespace FactBase.Store
open PatternTree

variable {s s' : Store AlphaMemory} {probe : Probe} {L : Ledger} {pending : Option Handle}
  {x : EntryId × Pattern}

/-- For an entry the memory holds the matches of its pattern on the asserted facts of its template,
each once, provided the entry is initialized, and nothing else. -/
def MirrorsIn (probe : Probe) (x : EntryId × Pattern) (s : Store AlphaMemory) : Prop :=
  ∃ template, s.patterns.template? x.2.template = some template ∧ ∀ h,
    (s.network.held x.1 h).Nodup ∧ ∀ index markers, (index, markers) ∈ s.network.held x.1 h ↔
      s.patterns.Initialized x.2.template x.1 ∧ ∃ f, s.get? h = some f ∧ f.isAsserted = true ∧
        f.templateId = x.2.template ∧ index = f.index ∧
        x.2.Matches (holdsBy probe.answer) template f.values markers

/-- The live entries are those of a ledger, and the memory mirrors the facts in each. -/
structure Mirrors (probe : Probe) (L : Ledger) (s : Store AlphaMemory) : Prop where
  live : s.patterns.owners = L.map fun x => (x.1, x.2.template)
  entries : ∀ x ∈ L, s.MirrorsIn probe x

/-- An entry is mirrored once it is initialized, and before if no halted replay has reached it. -/
theorem Tracked.mirrorsIn (tracked : s.Tracked probe L none) (hx : x ∈ L)
    (settled : s.patterns.Initialized x.2.template x.1 ∨ s.patterns.replayed x.2.template = []) :
    s.MirrorsIn probe x := by
  obtain ⟨tree, grown⟩ := Option.isSome_iff_exists.mp (tracked.keeps.planted x hx)
  have known : s.patterns.template? x.2.template = some tree.template := by
    rw [PatternNetwork.template?, grown]
    rfl
  have owed (f : Fact) : s.owed probe x f =
      (x.2.matchList (holdsBy probe.answer) tree.template f.values).map (f.index, ·) := by
    rw [Store.owed, known]
  refine ⟨tree.template, known, fun h => ?_⟩
  by_cases sees : ∃ f, s.Sees x h f
  · obtain ⟨f, sees⟩ := sees
    have held := tracked.seen x hx h f sees (by simp)
    have initialized : s.patterns.Initialized x.2.template x.1 := by
      refine settled.elim id fun none => sees.reached.resolve_right ?_
      rw [none]
      exact List.not_mem_nil
    rw [owed] at held
    constructor
    · refine held.nodup_iff.mpr (List.Nodup.map (fun _ _ same => ?_) (Pattern.nodup_matchList _ _ _ _))
      exact (Prod.mk.inj same).2
    · intro index markers
      rw [held.mem_iff, List.mem_map]
      constructor
      · rintro ⟨ms, mem, same⟩
        obtain ⟨rfl, rfl⟩ := Prod.mk.inj same
        exact ⟨initialized, f, sees.found, sees.asserted, sees.template, rfl,
          Pattern.mem_matchList.mp mem⟩
      · rintro ⟨-, g, found, -, -, rfl, matched⟩
        obtain rfl := Option.some.inj (sees.found.symm.trans found)
        exact ⟨markers, Pattern.mem_matchList.mpr matched, rfl⟩
  · rw [not_exists] at sees
    rw [tracked.unseen x hx h sees]
    refine ⟨List.nodup_nil, fun index markers => iff_of_false List.not_mem_nil ?_⟩
    rintro ⟨initialized, f, found, asserted, template, -⟩
    exact sees f ⟨found, asserted, template, .inl initialized⟩

theorem Follows.mirrors {incremental : Bool} (follows : s.Follows probe incremental none L) :
    s.Mirrors probe L :=
  ⟨follows.keeps.owned, fun _ hx => follows.toTracked.mirrorsIn hx (.inr (follows.settled _))⟩

/-! ### The beginning -/

/-- A fact base without facts and patterns, and with predicates. -/
def freshWith (probe : Probe) (config : Config) (contentHash : TemplateId → List Value → UInt64) :
    Store AlphaMemory :=
  { Store.fresh config {} contentHash with probe }

theorem tracked_freshWith (pure : probe.predicates.Pure) (config : Config)
    (contentHash : TemplateId → List Value → UInt64) :
    (freshWith probe config contentHash).Tracked probe [] none := by
  have none (h : Handle) : (freshWith probe config contentHash).get? h = none :=
    get?_fresh config ({} : AlphaMemory) contentHash h
  exact {
    sound := ⟨List.nodup_nil, fun _ inside => absurd inside List.not_mem_nil⟩
    answered := fun h f found => by simp [none] at found
    idle := fun h f found => by simp [none] at found
    recorded := fun _ inside => absurd inside List.not_mem_nil
    pure
    rules := rfl
    keeps := ⟨fun _ _ found => by simp [PatternNetwork.tree?, freshWith, fresh, empty] at found,
      by simp, rfl, by simp, List.nodup_nil⟩
    seen := by simp
    unseen := by simp
    waiting := by simp }

theorem follows_freshWith (quiet : probe.Quiet) (config : Config)
    (contentHash : TemplateId → List Value → UInt64) :
    (freshWith probe config contentHash).Follows probe config.incrementalReset none [] :=
  ⟨tracked_freshWith quiet.pure config contentHash, quiet, fun _ => rfl, rfl⟩

theorem quiet_default : Probe.Quiet {} :=
  ⟨rfl, by simp, fun i rule found => by simp at found, fun i rule found => by simp at found⟩

end FactBase.Store

import FactBase.Proofs.Memory.Mirrors
import FactBase.Proofs.Process.Recorders

/-!
# Replays that are interrupted

A replay that is halted goes on later where it was interrupted, whatever is asserted, retracted,
modified and removed meanwhile. It loses and repeats nothing, as long as no pattern is added to the
template in between: the facts dealt with so far count as dealt with for a new entry too.
-/

namespace FactBase.Store
open PatternTree

variable {s s' : Store AlphaMemory} {probe : Probe} {L : Ledger} {pending : Option Handle}

/-- What a fact base can go through if halts are requested at any time but are only seen by replays,
and no pattern is added to a template while a replay of it is interrupted. -/
inductive Course (probe : Probe) : Ledger → Option Handle → Store AlphaMemory → Prop
  | outset (config : Config) (contentHash : TemplateId → List Value → UInt64) :
      Course probe [] none (freshWith probe config contentHash)
  | aside {L : Ledger} {pending : Option Handle} {s s' : Store AlphaMemory}
      (before : Course probe L pending s) (step : Step s s') (aloof : Aloof s s') :
      Course probe L pending s'
  /-- Halts are requested and withdrawn from outside. -/
  | probe {L : Ledger} {pending : Option Handle} {s : Store AlphaMemory}
      (before : Course probe L pending s) (q : Probe)
      (rules : q.predicates.rules = s.probe.predicates.rules) :
      Course probe L pending { s with probe := q }
  /-- A handle is new as long as a slot has not had 2 ^ 32 occupants. -/
  | attach {L : Ledger} {s s' : Store AlphaMemory} {h : Handle} {f : Fact} {index : Nat}
      (before : Course probe L none s) (step : Step s s') (found : s.get? h = some f)
      (unattached : f.isUnattached = true) (numbered : index ≠ 0)
      (attaches : Attaches h f index s s') (new : ∀ t, h ∉ s.patterns.replayed t) :
      Course probe L (some h) s'
  | matchFact {L : Ledger} {s s' : Store AlphaMemory} {h : Handle} {o : MatchOutcome}
      (before : Course probe L (some h) s) (done : s.matchFact h .assert = .ok (o, s'))
      (unhalted : o.halted = false) : Course probe L none s'
  | detach {L : Ledger} {s s' : Store AlphaMemory} {h : Handle} {d : Detached}
      (before : Course probe L none s) (done : s.detach h = .ok (d, s')) : Course probe L none s'
  | add {L : Ledger} {s : Store AlphaMemory} {template : Template} {p : Pattern} {label : String}
      {id : EntryId} {patterns : PatternNetwork} (before : Course probe L none s)
      (added : s.patterns.add template p label = .ok (id, patterns))
      (settled : s.patterns.replayed p.template = []) :
      Course probe (L ++ [(id, p)]) none { s with patterns }
  | remove {L : Ledger} {s s' : Store AlphaMemory} {id : EntryId} (before : Course probe L none s)
      (done : s.removePattern id = .ok s') : Course probe (L.filter (·.1 != id)) none s'
  | replay {L : Ledger} {s s' : Store AlphaMemory} {t : TemplateId} {o : ReplayOutcome}
      (before : Course probe L none s) (planted : (s.patterns.tree? t).isSome)
      (done : s.replay t = .ok (o, s')) : Course probe L none s'

/-- Whatever is interrupted, entries have the matches on the facts that have reached them. -/
theorem Course.tracked (course : Course probe L pending s) (pure : probe.predicates.Pure) :
    s.Tracked probe L pending ∧ s.Sound := by
  induction course with
  | outset config contentHash =>
    exact ⟨tracked_freshWith pure config contentHash,
      (sound_fresh config ({} : AlphaMemory) contentHash).quiet .unchanged⟩
  | aside _ step aloof ih => exact ⟨ih.1.aloof aloof, step.sound ih.2⟩
  | probe _ q rules ih =>
    exact ⟨ih.1.unnoticed (fun _ => .refl _) ih.1.sound rfl rfl rules, ih.2.quiet .unchanged⟩
  | attach _ step found unattached numbered attaches new ih =>
    exact ⟨ih.1.attach found unattached numbered attaches new, step.sound ih.2⟩
  | matchFact _ done unhalted ih =>
    exact ⟨ih.1.matchFact done unhalted, ih.2.quiet (matchFact_spec done)⟩
  | detach _ done ih =>
    obtain ⟨_, _, _, sound, _⟩ := detach_spec ih.2 done
    exact ⟨ih.1.detach ih.2 done, sound⟩
  | add _ added settled ih => exact ⟨ih.1.add added settled, ih.2.quiet .unchanged⟩
  | remove _ done ih =>
    obtain ⟨patterns, removed, rfl⟩ := removePattern_eq done
    exact ⟨ih.1.remove removed, ih.2.quiet (removePattern_spec done)⟩
  | replay _ planted done ih =>
    exact ⟨(ih.1.replay ih.2 planted done).1, ih.2.quiet (replay_spec ih.2 done)⟩

/-- Adding a pattern goes through a growing tree and, with incremental reset, a replay. -/
theorem Course.addPattern (course : Course probe L none s) {p : Pattern} {label : String}
    {r : Except PatternError EntryId} {notices : List Notice}
    (settled : s.patterns.replayed p.template = [])
    (done : s.addPattern p label = .ok (r, notices, s')) :
    (∃ e, r = .error e ∧ s' = s) ∨ ∃ id, r = .ok id ∧ Course probe (L ++ [(id, p)]) none s' := by
  rcases addPattern_eq done with error | ⟨template, id, patterns, rfl, added, rest⟩
  · exact .inl error
  · have grown : Course probe (L ++ [(id, p)]) none { s with patterns } := course.add added settled
    refine .inr ⟨id, rfl, ?_⟩
    rcases rest with ⟨-, rfl⟩ | ⟨-, o, replayed⟩
    · exact grown
    · obtain ⟨-, -, -, tree, -, trees⟩ := PatternNetwork.add_eq_ok added
      refine grown.replay ?_ replayed
      change (patterns.tree? p.template).isSome
      rw [trees, if_pos rfl]
      rfl

/-- New patterns go through a replay for each template. -/
theorem Course.replayNewPatterns (course : Course probe L none s) (pure : probe.predicates.Pure)
    {n : Nat} {notices : List Notice} (done : s.replayNewPatterns = .ok (n, notices, s')) :
    Course probe L none s' := by
  have all {ts : List TemplateId} {s s' : Store AlphaMemory} {n : Nat} {notices : List Notice}
      (course : Course probe L none s) (planted : ∀ t ∈ ts, (s.patterns.tree? t).isSome)
      (done : replayAll ts s = .ok (n, notices, s')) : Course probe L none s' := by
    induction ts generalizing s n notices with
    | nil =>
      simp only [replayAll, Except.ok.injEq, Prod.mk.injEq] at done
      obtain ⟨-, -, rfl⟩ := done
      exact course
    | cons t rest ih =>
      rw [List.forall_mem_cons] at planted
      obtain ⟨⟨o, u⟩, replayed, done⟩ := bind_eq_ok.mp done
      obtain ⟨⟨m, notices', v⟩, others, done⟩ := bind_eq_ok.mp done
      simp only [Except.ok.injEq, Prod.mk.injEq] at done
      obtain ⟨-, -, rfl⟩ := done
      obtain ⟨tracked, sound⟩ := course.tracked pure
      refine ih (course.replay planted.1 replayed) (fun t' inside => ?_) others
      rw [(tracked.replay sound planted.1 replayed).2.planted]
      exact planted.2 t' inside
  exact all course (fun _ inside => PatternNetwork.planted_of_mem_needingReplay inside) done

/-- Once a replay is completed, the entries of its template have what they would have if none had
been halted. -/
theorem completed_replay_mirrors (pure : probe.predicates.Pure) (course : Course probe L none s)
    {t : TemplateId} {o : ReplayOutcome} (done : s.replay t = .ok (o, s'))
    (complete : o.complete = true) {x : EntryId × Pattern} (listed : x ∈ L)
    (member : x.2.template = t) :
    s'.patterns.Initialized t x.1 ∧ s'.MirrorsIn probe x := by
  obtain ⟨tracked, sound⟩ := course.tracked pure
  obtain ⟨tracked', replayed⟩ :=
    tracked.replay sound (member ▸ tracked.keeps.planted x listed) done
  have initialized := (replayed.complete complete).2 x listed member
  exact ⟨initialized, tracked'.mirrorsIn listed (.inl (member ▸ initialized))⟩


/-- A lamp is asserted before a pattern for lamps is added, and the replay is halted at it. -/
theorem completed_replay_mirrors_lamp :
    let any : Pattern := ⟨⟨0⟩, [⟨0, [.multi .any]⟩]⟩
    ∃ L s t o o' u v id, Course {} L none s ∧ s.replay t = .ok (o, u) ∧ o.complete = false ∧
      Store.replay { u with probe := {} } t = .ok (o', v) ∧ v.MirrorsIn {} (id, any) := by
  intro any
  let s₀ := freshWith {} {} fun _ _ => 0
  let lamp : Option (Store AlphaMemory) := do
    let made ← (s₀.createOrdered "lamp" [.nil]).toOption
    let h ← made.1.toOption
    let f ← (made.2.get? h).filter (·.isUnattached)
    let attached ← (made.2.attach h none (made.2.hashOf f) none none).toOption
    let matched ← (attached.2.matchFact h .assert).toOption.filter (!·.1.halted)
    let added ← (matched.2.patterns.add f.template any "any").toOption.filter
      (fun x => (x.2.tree? ⟨0⟩).isSome)
    let noticing : Store AlphaMemory :=
      { matched.2 with patterns := added.2, probe := { interrupts := [false, true] } }
    let halted ← (noticing.replay ⟨0⟩).toOption.filter (!·.1.complete)
    let resumed ← (Store.replay { halted.2 with probe := {} } ⟨0⟩).toOption.filter (·.1.complete)
    return resumed.2
  have done : lamp.isSome = true := by decide +kernel
  obtain ⟨v, done⟩ := Option.isSome_iff_exists.mp done
  simp only [lamp, Option.bind_eq_bind, Option.bind_eq_some_iff, Option.filter_eq_some_iff,
    toOption_eq_some, Prod.exists] at done
  obtain ⟨r, s₁, created, h, rfl, f, ⟨found, unattached⟩, i, s₂, attached, m, s₃, ⟨matched, unhalted⟩,
    id, patterns, ⟨added, planted⟩, o, u, ⟨halted, incomplete⟩, o', v', ⟨resumed, complete⟩, same⟩ :=
    done
  have begun : Course {} [] none s₀ := .outset {} fun _ _ => 0
  have aloof := aloof_createOrdered (begun.tracked quiet_default.pure).2 created
  have made := begun.aside (.createOrdered created) aloof
  have sound := (made.tracked quiet_default.pure).2
  have positive : ∀ i, (none : Option Nat) = some i → i ≠ 0 := by simp
  have listed : ∀ p, (none : Option Handle) = some p →
      ∃ g, s₁.get? p = some g ∧ g.isAsserted = true := by simp
  have listedInTemplate : ∀ p, (none : Option Handle) = some p →
      ∃ g, s₁.get? p = some g ∧ g.isAsserted = true ∧ g.templateId = f.templateId := by simp
  obtain ⟨s, attached', -, attaches⟩ :=
    attach_spec sound found unattached positive listed listedInTemplate
  obtain ⟨-, rfl⟩ := Prod.mk.inj (Except.ok.inj (attached.symm.trans attached'))
  have unpatterned : s₂.patterns = s₀.patterns := by
    obtain ⟨_, _, _, _, _, _, shape⟩ := attaches.rest
    rw [shape]
    exact aloof.patterns
  have pending := made.attach (.attach found unattached positive listed listedInTemplate attached)
    found unattached (Nat.pos_iff_ne_zero.mp sound.numbered) attaches fun t => by
      rw [aloof.patterns]
      exact List.not_mem_nil
  have asserted := pending.matchFact matched (by simpa using unhalted)
  have settled : s₃.patterns.replayed any.template = [] := by
    obtain ⟨_, -, -, -, -, -, patterns, -⟩ := matchFact_eq_ok matched
    rw [patterns, unpatterned]
    rfl
  have grown := asserted.add added settled
  have noticed := grown.probe { interrupts := [false, true] }
    (grown.tracked quiet_default.pure).1.rules.symm
  have interrupted := noticed.replay planted halted
  have cleared := interrupted.probe {} (interrupted.tracked quiet_default.pure).1.rules.symm
  refine ⟨_, _, _, _, _, _, _, id, noticed, halted, by simpa using incomplete, resumed, ?_⟩
  exact (completed_replay_mirrors quiet_default.pure cleared resumed complete
    (List.mem_append_right _ (List.mem_singleton_self _)) rfl).2

/-- Two lamps are asserted, and two patterns for them are added and replayed. -/
theorem not_resumed_with_new_pattern :
    let any : Pattern := ⟨⟨0⟩, [⟨0, [.multi .any]⟩]⟩
    let lamps (interrupts : List Bool) : Recording Unit := do
      let _ ← enter idle (.assertOrdered "lamp" [.integer 1])
      let _ ← enter idle (.assertOrdered "lamp" [.integer 2])
      let _ ← enter idle (.addPattern any "first")
      let _ ← enter idle (.setProbe fun q => { q with interrupts })
      let _ ← enter idle .replayNewPatterns
      let _ ← enter idle (.setProbe fun q => { q with interrupts := [], halted := false })
      let _ ← enter idle (.addPattern any "second")
      let _ ← enter idle .replayNewPatterns
    ¬ ∀ (interrupts : List Bool) (w w' : World AlphaMemory (Memo Ledger) (Store AlphaMemory)),
      lamps interrupts (outset (freshWith {} { incrementalReset := false } fun _ _ => 0) []) =
        .ok () w →
      lamps [] (outset (freshWith {} { incrementalReset := false } fun _ _ => 0) []) = .ok () w' →
      ∀ e h, (w.store.network.held e h).Perm (w'.store.network.held e h) := by
  intro any lamps resumed
  let held (interrupts : List Bool) : Option (List (Nat × List Marker)) :=
    ((lamps interrupts).outcome
      (outset (freshWith {} { incrementalReset := false } fun _ _ => 0) [])).map
        fun x => x.2.store.network.held ⟨1⟩ ⟨0, 0⟩
  have halted : held [false, false, false, true] = some [] := by decide +kernel
  have through : held [] = some [(1, [⟨0, 0, 0, 1⟩])] := by decide +kernel
  obtain ⟨⟨_, w⟩, ended, none⟩ := Option.map_eq_some_iff.mp halted
  obtain ⟨⟨_, w'⟩, ended', one⟩ := Option.map_eq_some_iff.mp through
  have same := resumed _ w w' (Process.outcome_eq_some.mp ended)
    (Process.outcome_eq_some.mp ended') ⟨1⟩ ⟨0, 0⟩
  rw [none, one] at same
  exact absurd same.length_eq (by decide)

end FactBase.Store

import FactBase.Proofs.Memory.Replays
import FactBase.Proofs.Store.Stock

/-!
# Memories and changing patterns

A memory follows the entries of a ledger while patterns are added and removed. Where no halt is ever
requested, every replay is completed and leaves nothing to be dealt with.
-/

namespace FactBase.Store
open PatternTree

variable {s s' : Store AlphaMemory} {probe : Probe} {L : Ledger} {pending : Option Handle}
  {h : Handle} {f : Fact} {p : Pattern} {label : String} {id : EntryId}

/-! ### Adding and removing -/

namespace Tracked

/-- A new entry has reached no fact, unless a halted replay of its template has dealt with some. -/
theorem add (tracked : s.Tracked probe L pending) {template : Template}
    {patterns : PatternNetwork} (added : s.patterns.add template p label = .ok (id, patterns))
    (settled : s.patterns.replayed p.template = []) :
    Tracked probe (L ++ [(id, p)]) pending { s with patterns } := by
  have keeps := tracked.keeps.add added
  have initialized := tracked.keeps.add_new added
  have replayed (u : TemplateId) : patterns.replayed u = s.patterns.replayed u :=
    PatternNetwork.replayed_add added
  obtain ⟨number, next, -⟩ := PatternNetwork.add_eq_ok added
  have unseen (k : Handle) (g : Fact) : ¬ Sees { s with patterns } (id, p) k g := by
    rintro ⟨-, -, -, reached | reached⟩
    · exact initialized reached
    · change k ∈ patterns.replayed p.template at reached
      rw [replayed, settled] at reached
      cases reached
  -- No record has the number of the new entry yet.
  have bare (k : Handle) : s.network.held id k = [] := by
    rw [AlphaMemory.held, AlphaMemory.matchesOf, List.map_eq_nil_iff, List.filter_filter,
      List.filter_eq_nil_iff]
    intro r hr same
    have numbered := (tracked.recorded r hr).2.2
    simp only [Bool.and_eq_true, beq_iff_eq] at same
    rw [same.2, number] at numbered
    exact Nat.lt_irrefl _ numbered
  refine ⟨⟨tracked.sound, tracked.answered, tracked.idle, fun r hr => ?_⟩, tracked.pure,
    tracked.rules, keeps, fun x hx k g sees other => ?_, fun x hx k none => ?_, fun k same => ?_⟩
  · obtain ⟨asserted, pending, numbered⟩ := tracked.recorded r hr
    exact ⟨asserted, pending, next ▸ Nat.lt_succ_of_lt numbered⟩
  · rcases List.mem_append.mp hx with old | new
    · obtain ⟨g₀, sees₀, owed⟩ :=
        sees.transfer s rfl (tracked.keeps.add_same added old).symm
      rw [← owed]
      exact tracked.seen x old k g₀ sees₀ other
    · rw [List.mem_singleton.mp new] at sees
      exact absurd sees (unseen k g)
  · rcases List.mem_append.mp hx with old | new
    · refine tracked.unseen x old k fun g₀ sees₀ => ?_
      obtain ⟨g, sees, -⟩ := sees₀.transfer { s with patterns } rfl
        (tracked.keeps.add_same added old)
      exact none g sees
    · rw [List.mem_singleton.mp new]
      exact bare k
  · obtain ⟨asserted, new⟩ := tracked.waiting k same
    refine ⟨asserted, fun u => ?_⟩
    rw [replayed]
    exact new u

theorem remove (tracked : s.Tracked probe L pending) {patterns : PatternNetwork}
    (removed : s.patterns.remove id = .ok patterns) :
    Tracked probe (L.filter (·.1 != id)) pending { s with patterns } := by
  have stays {x : EntryId × Pattern} (hx : x ∈ L.filter (·.1 != id)) :
      x ∈ L ∧ PatternNetwork.Same x s.patterns patterns := by
    obtain ⟨listed, other⟩ := List.mem_filter.mp hx
    exact ⟨listed, tracked.keeps.remove_same removed listed (bne_iff_ne.mp other)⟩
  have next : patterns.nextEntry = s.patterns.nextEntry := by
    obtain ⟨_, _, _, -, -, -, next, -⟩ := PatternNetwork.remove_eq_ok removed
    exact next
  refine ⟨⟨tracked.sound, tracked.answered, tracked.idle, fun r hr => ?_⟩, tracked.pure,
    tracked.rules, tracked.keeps.remove removed, fun x hx k g sees other => ?_,
    fun x hx k none => ?_, fun k same => ?_⟩
  · obtain ⟨asserted, pending, numbered⟩ := tracked.recorded r hr
    exact ⟨asserted, pending, next ▸ numbered⟩
  · obtain ⟨listed, same⟩ := stays hx
    obtain ⟨g₀, sees₀, owed⟩ := sees.transfer s rfl same.symm
    rw [← owed]
    exact tracked.seen x listed k g₀ sees₀ other
  · obtain ⟨listed, same⟩ := stays hx
    refine tracked.unseen x listed k fun g₀ sees₀ => ?_
    obtain ⟨g, sees, -⟩ := sees₀.transfer { s with patterns } rfl same
    exact none g sees
  · obtain ⟨asserted, new⟩ := tracked.waiting k same
    exact ⟨asserted, fun u inside => new u (PatternNetwork.replayed_remove removed inside)⟩

end Tracked

theorem addPattern_eq {r : Except PatternError EntryId} {notices : List Notice}
    (done : s.addPattern p label = .ok (r, notices, s')) : (∃ e, r = .error e ∧ s' = s) ∨
    ∃ template id patterns, r = .ok id ∧ s.patterns.add template p label = .ok (id, patterns) ∧
      (s.config.incrementalReset = false ∧ s' = { s with patterns } ∨
        s.config.incrementalReset = true ∧
          ∃ o, Store.replay { s with patterns } p.template = .ok (o, s')) := by
  unfold addPattern at done
  split at done
  · simp only [Except.ok.injEq, Prod.mk.injEq] at done
    obtain ⟨rfl, -, rfl⟩ := done
    exact .inl ⟨_, rfl, rfl⟩
  · rename_i template _
    split at done
    · simp only [Except.ok.injEq, Prod.mk.injEq] at done
      obtain ⟨rfl, -, rfl⟩ := done
      exact .inl ⟨_, rfl, rfl⟩
    · rename_i id patterns added
      dsimp only at done
      split at done
      · rename_i incremental
        obtain ⟨⟨o, u⟩, replayed, done⟩ := bind_eq_ok.mp done
        simp only [Except.ok.injEq, Prod.mk.injEq] at done
        obtain ⟨rfl, -, rfl⟩ := done
        exact .inr ⟨template, id, patterns, rfl, added, .inr ⟨incremental, o, replayed⟩⟩
      · rename_i deferred
        simp only [Except.ok.injEq, Prod.mk.injEq] at done
        obtain ⟨rfl, -, rfl⟩ := done
        exact .inr ⟨template, id, patterns, rfl, added, .inl ⟨Bool.eq_false_iff.mpr deferred, rfl⟩⟩

theorem removePattern_eq (done : s.removePattern id = .ok s') :
    ∃ patterns, s.patterns.remove id = .ok patterns ∧ s' = { s with patterns } := by
  unfold removePattern at done
  split at done
  · cases done
  · rename_i patterns removed
    exact ⟨patterns, removed, (Except.ok.inj done).symm⟩

/-! ### Without halts -/

/-- The memory follows the entries of a ledger, and nothing was or will be halted. -/
structure Follows (probe : Probe) (incremental : Bool) (pending : Option Handle) (L : Ledger)
    (s : Store AlphaMemory) : Prop extends Tracked probe L pending s where
  quiet : s.probe.Quiet
  /-- All replays were completed. -/
  settled : ∀ t, s.patterns.replayed t = []
  reset : s.config.incrementalReset = incremental

namespace Follows

variable {incremental : Bool}

theorem aloof (follows : s.Follows probe incremental pending L) (aloof : Aloof s s') :
    s'.Follows probe incremental pending L :=
  ⟨follows.toTracked.aloof aloof, aloof.probe ▸ follows.quiet, aloof.patterns ▸ follows.settled,
    aloof.config ▸ follows.reset⟩

theorem attach (follows : s.Follows probe incremental none L) (found : s.get? h = some f)
    (unattached : f.isUnattached = true) {index : Nat} (numbered : index ≠ 0)
    (attaches : Attaches h f index s s') : s'.Follows probe incremental (some h) L := by
  have tracked := follows.toTracked.attach found unattached numbered attaches fun t => by
    simp [follows.settled t]
  obtain ⟨_, _, _, _, _, _, rfl⟩ := attaches.rest
  exact ⟨tracked, follows.quiet, follows.settled, follows.reset⟩

theorem matchFact (follows : s.Follows probe incremental (some h) L) {o : MatchOutcome}
    (done : s.matchFact h .assert = .ok (o, s')) : s'.Follows probe incremental none L := by
  have config := (stock_matchFact done).config
  obtain ⟨f, found, -, halted, -, walk, patterns, -⟩ := matchFact_eq_ok done
  obtain ⟨quiet, unhalted⟩ := walked_quiet follows.keeps follows.quiet f .assert
  exact ⟨follows.toTracked.matchFact done (halted.trans unhalted), walk ▸ quiet,
    patterns ▸ follows.settled, config ▸ follows.reset⟩

theorem detach (follows : s.Follows probe incremental none L) (sound : s.Sound) {d : Detached}
    (done : s.detach h = .ok (d, s')) : s'.Follows probe incremental none L := by
  have tracked := follows.toTracked.detach sound done
  obtain ⟨f, -, -, -, detaches, -⟩ := detach_spec sound done
  obtain ⟨_, _, _, _, _, _, _, _, rfl⟩ := detaches.rest
  exact ⟨tracked, follows.quiet, follows.settled, follows.reset⟩

theorem add (follows : s.Follows probe incremental pending L) {template : Template}
    {patterns : PatternNetwork} (added : s.patterns.add template p label = .ok (id, patterns)) :
    Follows probe incremental pending (L ++ [(id, p)]) { s with patterns } :=
  ⟨follows.toTracked.add added (follows.settled p.template), follows.quiet,
    fun _ => (PatternNetwork.replayed_add added).trans (follows.settled _), follows.reset⟩

theorem removePattern (follows : s.Follows probe incremental pending L)
    (done : s.removePattern id = .ok s') :
    s'.Follows probe incremental pending (L.filter (·.1 != id)) := by
  obtain ⟨patterns, removed, rfl⟩ := removePattern_eq done
  refine ⟨follows.toTracked.remove removed, follows.quiet, fun t => ?_, follows.reset⟩
  have fewer := PatternNetwork.replayed_remove removed (u := t)
  rw [follows.settled t] at fewer
  exact List.subset_nil.mp fewer

theorem replay (follows : s.Follows probe incremental none L) (sound : s.Sound) {t : TemplateId}
    (planted : (s.patterns.tree? t).isSome) {o : ReplayOutcome} (done : s.replay t = .ok (o, s')) :
    s'.Follows probe incremental none L ∧ Replayed L t o s s' := by
  obtain ⟨tracked, replayed⟩ := follows.toTracked.replay sound planted done
  obtain ⟨complete, quiet⟩ := replayed.quiet follows.quiet
  refine ⟨⟨tracked, quiet, fun u => ?_, (stock_replay done).config ▸ follows.reset⟩, replayed⟩
  by_cases same : u = t
  · rw [same]
    exact (replayed.complete complete).1
  · exact (replayed.others u same).trans (follows.settled u)

theorem addPattern (follows : s.Follows probe incremental none L) (sound : s.Sound)
    {r : Except PatternError EntryId} {notices : List Notice}
    (done : s.addPattern p label = .ok (r, notices, s')) :
    (∃ e, r = .error e ∧ s' = s) ∨
      ∃ id, r = .ok id ∧ s'.Follows probe incremental none (L ++ [(id, p)]) := by
  rcases addPattern_eq done with error | ⟨template, id, patterns, rfl, added, rest⟩
  · exact .inl error
  · have grown := follows.add added
    refine .inr ⟨id, rfl, ?_⟩
    rcases rest with ⟨-, rfl⟩ | ⟨-, o, replayed⟩
    · exact grown
    · refine (grown.replay (sound.quiet .unchanged) ?_ replayed).1
      exact grown.keeps.planted (id, p) (List.mem_append_right L (List.mem_singleton_self _))

/-- Where patterns wait for a replay, they may be added also while a fact is pending. -/
theorem addPattern_pending (follows : s.Follows probe false pending L)
    {r : Except PatternError EntryId} {notices : List Notice}
    (done : s.addPattern p label = .ok (r, notices, s')) :
    (∃ e, r = .error e ∧ s' = s) ∨
      ∃ id, r = .ok id ∧ s'.Follows probe false pending (L ++ [(id, p)]) := by
  rcases addPattern_eq done with error | ⟨template, id, patterns, rfl, added, rest⟩
  · exact .inl error
  · refine .inr ⟨id, rfl, ?_⟩
    rcases rest with ⟨-, rfl⟩ | ⟨incremental, -⟩
    · exact follows.add added
    · rw [follows.reset] at incremental
      cases incremental

theorem replayAll (follows : s.Follows probe incremental none L) (sound : s.Sound)
    {ts : List TemplateId} (planted : ∀ t ∈ ts, (s.patterns.tree? t).isSome) {n : Nat}
    {notices : List Notice} (done : Store.replayAll ts s = .ok (n, notices, s')) :
    s'.Follows probe incremental none L := by
  induction ts generalizing s n notices with
  | nil =>
    simp only [Store.replayAll, Except.ok.injEq, Prod.mk.injEq] at done
    obtain ⟨-, -, rfl⟩ := done
    exact follows
  | cons t rest ih =>
    rw [List.forall_mem_cons] at planted
    obtain ⟨⟨o, u⟩, replayed, done⟩ := bind_eq_ok.mp done
    obtain ⟨⟨m, notices', v⟩, others, done⟩ := bind_eq_ok.mp done
    simp only [Except.ok.injEq, Prod.mk.injEq] at done
    obtain ⟨-, -, rfl⟩ := done
    obtain ⟨follows', first⟩ := follows.replay sound planted.1 replayed
    refine ih follows' (sound.quiet (replay_spec sound replayed)) (fun t' inside => ?_) others
    rw [first.planted]
    exact planted.2 t' inside

theorem replayNewPatterns (follows : s.Follows probe incremental none L) (sound : s.Sound) {n : Nat}
    {notices : List Notice} (done : s.replayNewPatterns = .ok (n, notices, s')) :
    s'.Follows probe incremental none L :=
  follows.replayAll sound (fun _ inside => PatternNetwork.planted_of_mem_needingReplay inside) done

end Follows

end FactBase.Store

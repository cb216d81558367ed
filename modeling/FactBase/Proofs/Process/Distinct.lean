import FactBase.Proofs.Process.Consistency
import FactBase.Proofs.Store.Order
import FactBase.Proofs.Store.Tally

/-!
# Asserted facts of different content

Where duplicates are never allowed, no two asserted facts have the same content at any time. An
assert finds out exactly whether some asserted fact has the content submitted. If so, the fact
submitted is freed and nothing else about facts changes.
-/

namespace FactBase

open Store Process

variable {N ρ ν σ α : Type}

/-- Requests that do not allow duplicates. -/
def Request.BarsDuplicates : Request α → Prop
  | .setAllowDuplicates allowed => allowed = false
  | _ => True

namespace Store

variable {s s' : Store N} {h : Handle} {f : Fact}

/-- Duplicates are not allowed, and there are none. -/
structure Exclusive (s : Store N) : Prop where
  disallowed : s.config.allowDuplicates = false
  distinct : s.Distinct

theorem Exclusive.alike (exclusive : s.Exclusive) (alike : s.Alike s')
    (config : s'.config = s.config) : s'.Exclusive :=
  ⟨config ▸ exclusive.disallowed, exclusive.distinct.alike alike⟩

theorem Exclusive.aloof (exclusive : s.Exclusive) (aloof : Aloof s s') : s'.Exclusive := by
  refine ⟨aloof.config ▸ exclusive.disallowed,
    exclusive.distinct.of_asserted fun k g stored asserted => ?_⟩
  have profile := (aloof.facts k).asserted (.inr ⟨g, stored, asserted⟩)
  rw [stored, Option.map_some, Option.map_eq_some_iff] at profile
  obtain ⟨f, before, same⟩ := profile
  refine ⟨f, before, isAsserted_of_profile same ▸ asserted, ?_⟩
  simp only [Fact.profile, Prod.mk.injEq] at same
  exact ⟨same.2.2.1.symm, same.2.2.2.1.symm⟩

variable [JoinNetwork N]

theorem robust_exclusive : Robust (Always σ fun s : Store N => s.Exclusive) where
  chore exclusive reached chore := exclusive.aloof (chore.aloof reached.sound)
  detach exclusive reached done := by
    obtain ⟨f, -, -, -, detaches, -⟩ := detach_spec reached.sound done
    exact ⟨(stock_detach done).config ▸ exclusive.disallowed,
      exclusive.distinct.of_asserted fun k g stored asserted =>
        (detaches.asserted stored asserted).2⟩
  attach exclusive _ _ _ _ unrivalled _ attaches _ := by
    have distinct := exclusive.distinct.attaches (unrivalled fun _ _ e => e.disallowed) attaches
    obtain ⟨_, _, _, _, _, _, rfl⟩ := attaches.rest
    exact ⟨exclusive.disallowed, distinct⟩
  matchFact exclusive _ _ done :=
    exclusive.alike (matchFact_spec done).alike (stock_matchFact done).config
  release exclusive _ done := exclusive.aloof (aloof_release done)
  deinstall exclusive _ done := exclusive.aloof (aloof_deinstall done)

theorem upheld_exclusive : Upheld (Always σ fun s : Store N => s.Exclusive) :=
  robust_exclusive.upheld

theorem upheldFrom_exclusive (r : Request α) (start : Store N) (bars : r.BarsDuplicates) :
    r.UpheldFrom start (Always σ fun s => s.Exclusive) := by
  refine robust_exclusive.upheldFrom r start fun governs _ => ?_
  cases r with
  | clear => exact fun _ _ exclusive _ _ _ => ⟨exclusive.disallowed, exclusive.distinct⟩
  | addPattern =>
    exact fun _ _ _ _ _ exclusive reached done =>
      exclusive.alike (addPattern_spec reached.sound done).alike (stock_addPattern done).config
  | removePattern =>
    exact fun _ _ _ exclusive _ done =>
      exclusive.alike (removePattern_spec done).alike (stock_removePattern done).config
  | replayNewPatterns =>
    exact fun _ _ _ _ _ exclusive reached done =>
      exclusive.alike (replayNewPatterns_spec reached.sound done).alike
        (stock_replayAll done).config
  | setAllowDuplicates => exact fun _ _ exclusive _ => ⟨bars, exclusive.distinct⟩
  | setProbe => exact fun _ _ exclusive _ => ⟨exclusive.disallowed, exclusive.distinct⟩
  | _ => exact governs.elim

/-! ### Dismissing a duplicate -/

/-- An unattached fact is freed and no longer counted by its template; everything else about facts
is as before. -/
structure Dismisses (h : Handle) (f : Fact) (s s' : Store N) : Prop where
  freed : s'.get? h = none
  kept : ∀ k, k ≠ h → s'.get? k = s.get? k
  counted : ∀ t, s.templates.busyCount t =
    s'.templates.busyCount t + if t = f.templateId then 1 else 0
  order : s'.order = s.order
  templateFacts : ∀ t, s'.templateFacts t = s.templateFacts t
  index : s'.index = s.index
  garbage : s'.garbage = s.garbage
  network : s'.network = s.network
  nextIndex : s'.nextIndex = s.nextIndex

omit [JoinNetwork N] in
/-- A fact that is counted can be freed. -/
theorem free_eq_of_unattached (tallied : s.Tallied) (found : s.get? h = some f)
    (unattached : f.isUnattached = true) : ∃ facts templates,
      s.facts.remove? h = some (f, facts) ∧
      s.templates.decrementBusy f.templateId = .ok templates ∧
      s.free h = .ok { s with facts, templates } := by
  obtain ⟨-, templates, counted⟩ :=
    TemplateRegistry.counted_of_busy (tallied.busy_pos found)
  obtain ⟨facts, removed⟩ : ∃ facts, s.facts.remove? h = some (f, facts) := by
    rw [Arena.remove?, show s.facts.get? h = some f from found]
    exact ⟨_, rfl⟩
  have unnumbered := (Fact.isUnattached_iff.mp unattached).1
  refine ⟨facts, templates, removed, counted, ?_⟩
  simp only [free, removed, unnumbered, if_true, counted, bind, Except.bind]

omit [JoinNetwork N] in
theorem free_dismisses (sound : s.Sound) (tallied : s.Tallied) (found : s.get? h = some f)
    (unattached : f.isUnattached = true) : ∃ s', s.free h = .ok s' ∧ Dismisses h f s s' := by
  obtain ⟨facts, templates, removed, counted, freed⟩ :=
    free_eq_of_unattached tallied found unattached
  obtain ⟨-, -, names⟩ := Arena.remove?_spec sound.tidy removed
  obtain ⟨⟨alike, -⟩, -⟩ := free_spec sound found unattached freed
  refine ⟨_, freed, (names h).trans (if_pos rfl), fun k other => (names k).trans (if_neg other),
    TemplateRegistry.busyCount_decrementBusy counted, ?_, ?_, rfl, rfl, rfl, rfl⟩
  · exact alike.order sound.toConsistent
  · exact alike.templateFacts sound.toConsistent

end Store

section Assert

variable [JoinNetwork N] (hooks : Hooks N ρ ν) {w : World N ρ ν} {h e : Handle} {f : Fact}
  {position : Position} {previous : Option Handle}

/-- Where an asserted fact has the content, an assert dismisses the fact submitted. -/
theorem assertAt_of_duplicate (sound : w.store.Sound) (tallied : w.store.Tallied)
    (found : w.store.get? h = some f) (unattached : f.isUnattached = true)
    (free : w.store.guarded = false) (placed : predecessor w.store position = .ok previous)
    (duplicate : w.store.duplicateOf? h f (w.store.hashOf f) = some e) :
    Ensures (assertAt hooks h position) w
      (fun a w' => a = .ok (.duplicate e) ∧ Dismisses h f w.store w'.store) fun _ => False := by
  obtain ⟨unnumbered, notGarbage⟩ := Fact.isUnattached_iff.mp unattached
  obtain ⟨s, freed, dismisses⟩ := free_dismisses sound tallied found unattached
  refine ensures_bind (ensures_getStore ?_)
  simp only [found, notGarbage, unnumbered, free, placed, duplicate, Bool.false_eq_true, if_false,
    ne_eq, not_true_eq_false]
  refine ensures_bind (ensures_bind (ensures_change_of_ok freed ?_))
  exact ensures_updateStore (ensures_pure ⟨rfl, { dismisses with }⟩)

/-- What is not known to be a duplicate is never reported as one. -/
theorem assertAt_of_none (found : w.store.get? h = some f) (unattached : f.isUnattached = true)
    (free : w.store.guarded = false) (placed : predecessor w.store position = .ok previous)
    (missed : w.store.duplicateOf? h f (w.store.hashOf f) = none) :
    Ensures (assertAt hooks h position) w (fun a _ => ∀ e, a ≠ .ok (.duplicate e))
      fun _ => True := by
  obtain ⟨unnumbered, notGarbage⟩ := Fact.isUnattached_iff.mp unattached
  refine ensures_bind (ensures_getStore ?_)
  simp only [found, notGarbage, unnumbered, free, placed, missed, Bool.false_eq_true, if_false,
    ne_eq, not_true_eq_false]
  refine ensures_after fun index _ => ensures_after fun _ _ => ensures_after fun _ _ =>
    ensures_after fun _ _ => ensures_after fun failed _ => ?_
  refine ensures_after fun _ _ => ensures_after fun _ _ => ensures_after fun _ _ =>
    ensures_pure fun e => ?_
  cases failed <;> simp

end Assert

/-! ### Exactly the duplicates -/

variable [JoinNetwork N]

/-- Where duplicates are never allowed, all asserted facts that are ever seen differ in content. An
assert that is not refused reports a duplicate exactly if the content is asserted already; the fact
submitted is dismissed then. Nothing is supposed of the content hash. -/
theorem exactly_duplicates_dismissed :
    (∀ {α : Type} {p : Process N (Memo σ) (Store N) α} (config : Config) (network : N)
        (contentHash : TemplateId → List Value → UInt64) (notes : σ),
      ClientOf (fun _ r => r.BarsDuplicates) p → config.allowDuplicates = false →
      ∀ s ∈ (p.aftermath (outset (Store.fresh config network contentHash) notes)).looks,
        s.Distinct) ∧
    ∀ (hooks : Hooks N ρ ν) (w : World N ρ ν) (h : Handle) (f : Fact) (position : Position)
        (previous : Option Handle),
      w.store.Reachable → w.store.config.allowDuplicates = false → w.store.guarded = false →
      w.store.get? h = some f → f.isUnattached = true →
      predecessor w.store position = .ok previous →
      ((∃ e w', assertAt hooks h position w = .ok (.ok (.duplicate e)) w') ↔
        ∃ e g, w.store.get? e = some g ∧ g.isAsserted = true ∧ f.SameContent g) ∧
      ∀ e w', assertAt hooks h position w = .ok (.ok (.duplicate e)) w' →
        (∃ g, w.store.get? e = some g ∧ g.isAsserted = true ∧ f.SameContent g) ∧
          Dismisses h f w.store w'.store := by
  constructor
  · intro α p config network contentHash notes client disallowed s seen
    have begins : (Store.fresh config network contentHash).Exclusive :=
      ⟨disallowed, fun h k f g found => by simp [get?_fresh] at found⟩
    exact (client.script.of_mem_looks upheld_exclusive
      (fun r start bars => upheldFrom_exclusive r start bars) config network contentHash notes begins
      seen).2.distinct
  · intro hooks w h f position previous reachable disallowed free found unattached placed
    have sound := reachable.sound
    have unasserted : w.store.isAsserted h = false := by
      rw [Store.isAsserted, found, Option.any_some]
      exact Bool.eq_false_iff.mpr (not_asserted_of_unattached unattached)
    cases duplicate : w.store.duplicateOf? h f (w.store.hashOf f) with
    | some e =>
      obtain ⟨-, g, stored, asserted, same⟩ := sound.duplicateOf?_eq_some duplicate
      have ensures := assertAt_of_duplicate hooks sound reachable.tallied found unattached
        free placed duplicate
      unfold Ensures at ensures
      cases ran : assertAt hooks h position w with
      | error fault w' =>
        rw [ran] at ensures
        exact ensures.elim
      | ok a w' =>
        rw [ran] at ensures
        obtain ⟨rfl, dismisses⟩ := ensures
        refine ⟨iff_of_true ⟨e, w', rfl⟩ ⟨e, g, stored, asserted, same⟩, fun e' w'' answer => ?_⟩
        cases answer
        exact ⟨⟨g, stored, asserted, same⟩, dismisses⟩
    | none =>
      have unrivalled := sound.unrivalled disallowed unasserted duplicate
      have ensures := assertAt_of_none hooks found unattached free placed duplicate
      have unreported (e : Handle) (w' : World N ρ ν) :
          assertAt hooks h position w ≠ .ok (.ok (.duplicate e)) w' := by
        intro answer
        rw [Ensures, answer] at ensures
        exact ensures e rfl
      refine ⟨iff_of_false ?_ ?_, fun e w' answer => absurd answer (unreported e w')⟩
      · rintro ⟨e, w', answer⟩
        exact unreported e w' answer
      · rintro ⟨e, g, stored, asserted, same⟩
        exact unrivalled e g stored asserted same

/-- A lamp is asserted; another of the same content is not, although all contents hash alike. -/
theorem exactly_duplicates_dismissed_lamp :
    let quiet : Hooks MatchCounter (Memo Unit) (Store MatchCounter) := fun _ _ => pure ()
    let lamps : Process MatchCounter (Memo Unit) (Store MatchCounter) Unit := do
      let _ ← ask quiet (.assertOrdered "lamp" [.nil])
      let _ ← ask quiet (.createOrdered "lamp" [.nil])
      let _ ← look
    ∃ s ∈ (lamps.aftermath (outset (Store.fresh {} {} fun _ _ => 0) ())).looks, s.Distinct ∧
      ∃ e w', assertAt quiet ⟨1, 0⟩ .tail { store := s, host := { notes := () } } =
          .ok (.ok (.duplicate e)) w' ∧ w'.store.get? ⟨1, 0⟩ = none := by
  intro quiet lamps
  have rests (id : ListenerId) (e : Event) : ClientOf (fun _ r => r.BarsDuplicates) (quiet id e) :=
    .pure ()
  have client : ClientOf (fun _ r => r.BarsDuplicates) lamps :=
    .bind (.ask rests _ trivial) fun _ => .bind (.ask rests _ trivial) fun _ =>
      .bind .look fun _ => .pure ()
  have looked : ((lamps.aftermath (outset (Store.fresh {} {} fun _ _ => 0) ())).looks[0]?).any
      (fun s => !s.config.allowDuplicates && !s.guarded &&
        ((s.get? ⟨0, 0⟩).any fun f =>
          f.templateId == ⟨0⟩ && f.values == [.multifield [.nil]] && f.isAsserted) &&
        (s.get? ⟨1, 0⟩).any fun f =>
          f.templateId == ⟨0⟩ && f.values == [.multifield [.nil]] && f.isUnattached) = true := by
    decide +kernel
  simp only [Option.any_eq_true, Bool.and_eq_true, beq_iff_eq, Bool.not_eq_true'] at looked
  obtain ⟨s, found, ⟨⟨disallowed, free⟩, g, stored, template, asserted⟩, f, stored', template',
    unattached⟩ := looked
  have seen := List.mem_of_getElem? found
  obtain ⟨distinct, exactly⟩ :=
    @exactly_duplicates_dismissed MatchCounter (Memo Unit) (Store MatchCounter) Unit _
  obtain ⟨iff, dismissed⟩ := exactly quiet { store := s, host := { notes := () } } ⟨1, 0⟩ f .tail _
    (client.client.reachable_of_mem_looks {} {} (fun _ _ => 0) () seen) disallowed free stored'
    unattached rfl
  obtain ⟨e, w', answer⟩ := iff.mpr ⟨⟨0, 0⟩, g, stored, asserted, by
    rw [template.1, template'.1], by rw [template.2, template'.2]⟩
  exact ⟨s, seen, distinct {} {} (fun _ _ => 0) () client rfl s seen, e, w', answer,
    (dismissed e w' answer).2.freed⟩

end FactBase

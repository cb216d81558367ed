import FactBase.Proofs.Store.Collecting
import FactBase.Proofs.Store.Covered
import FactBase.Proofs.Store.Tally

/-!
# Steps that cannot break off

A fact base that is sound, counts its facts right and has what it counts on can detach any asserted
fact and collect any garbage. Collecting takes nothing but garbage.
-/

namespace FactBase.Store

variable {N : Type} {s s' s'' : Store N} {h : Handle} {f : Fact}

/-- What steps that cannot break off need of a fact base. -/
structure Solid [JoinNetwork N] [Custodian N] (s : Store N) : Prop where
  sound : s.Sound
  tallied : s.Tallied
  covered : s.Covered

/-- A template with a stored fact can have one more. -/
theorem createWith_total (tallied : s.Tallied) (found : s.get? h = some f) {fields : List Field}
    (fits : fields.length = f.fields.length) :
    ∃ r s', s.createWith f.templateId f.template fields = .ok (r, s') := by
  obtain ⟨⟨templates, counted⟩, -⟩ :=
    TemplateRegistry.counted_of_busy (tallied.busy_pos found)
  exact createWith_of_counted counted (fits.trans (tallied.length_fields found))

/-- A stored fact that is counted and whose atoms are installed can be freed. -/
theorem free_total (tallied : s.Tallied) (found : s.get? h = some f)
    (installed : ∀ a, f.claims.count a ≤ s.atoms.installs a) : ∃ s', s.free h = .ok s' := by
  obtain ⟨-, templates, counted⟩ := TemplateRegistry.counted_of_busy (tallied.busy_pos found)
  obtain ⟨facts, removed⟩ : ∃ facts, s.facts.remove? h = some (f, facts) := by
    rw [Arena.remove?, show s.facts.get? h = some f from found]
    exact ⟨_, rfl⟩
  unfold free
  simp only [removed]
  by_cases unnumbered : f.index = 0
  · simp only [unnumbered, if_true, counted, bind, Except.bind]
    exact ⟨_, rfl⟩
  · have claims : f.claims = Value.allAtoms f.values := if_neg unnumbered
    rw [claims] at installed
    obtain ⟨atoms, given⟩ : ∃ atoms, f.values.foldlM AtomTable.deinstall s.atoms = .ok atoms := by
      rw [AtomTable.foldlM_deinstall]
      exact AtomTable.deinstallAtoms_total installed
    simp only [unnumbered, if_false, given, counted, bind, Except.bind]
    exact ⟨_, rfl⟩

variable [JoinNetwork N] [Custodian N]

theorem Solid.step (solid : s.Solid) (step : Step s s') (covered : s'.Covered) : s'.Solid :=
  ⟨step.sound solid.sound, step.tallied solid.sound solid.tallied, covered⟩

theorem FairlyReachable.solid (fairly : s.FairlyReachable) : s.Solid :=
  ⟨fairly.reachable.sound, fairly.reachable.tallied, fairly.covered⟩

theorem collectFrom_total {hs : List Handle} (tidy : s.facts.Tidy) (tallied : s.Tallied)
    (covered : s.Covered) (once : hs.Nodup)
    (garbage : ∀ h ∈ hs, ∃ f, s.get? h = some f ∧ f.isGarbage = true) :
    ∃ n s', collectFrom hs s = .ok (n, s') := by
  induction hs generalizing s with
  | nil => exact ⟨0, s, rfl⟩
  | cons h rest ih =>
    obtain ⟨f, found, dead⟩ := garbage h List.mem_cons_self
    obtain ⟨absent, once⟩ := List.nodup_cons.mp once
    unfold collectFrom
    simp only [found]
    split
    · rename_i loose
      obtain ⟨u, freed⟩ := free_total tallied found (covered.claimed found)
      obtain ⟨sustains, tidy'⟩ := Sustains.free tidy freed
      obtain ⟨-, -, names⟩ := Collects.free tidy found dead loose freed
      obtain ⟨n, s', collected⟩ := ih tidy' (tallied.free freed) (covered.sustain sustains) once
        fun k inside => by
          have other : k ≠ h := fun here => absent (here ▸ inside)
          rw [names, if_neg other]
          exact garbage k (List.mem_cons_of_mem h inside)
      refine ⟨n + 1, s', ?_⟩
      simp only [freed, collected, bind, Except.bind]
    · exact ih (s := { s with garbage := s.garbage ++ [h] }) tidy
        (tallied.sameStock ⟨rfl, rfl, rfl⟩) { covered with } once fun k inside =>
          garbage k (List.mem_cons_of_mem h inside)

theorem maybeCollect_total (solid : s.Solid) : ∃ s', s.maybeCollect = .ok s' ∧ Collects s s' := by
  obtain ⟨sound, tallied, covered⟩ := solid
  obtain ⟨s', done⟩ : ∃ s', s.maybeCollect = .ok s' := by
    unfold maybeCollect collectGarbage
    split
    · split
      · exact ⟨s, rfl⟩
      · obtain ⟨n, u, collected⟩ := collectFrom_total (s := { s with garbage := [] }) sound.tidy
          (tallied.sameStock ⟨rfl, rfl, rfl⟩) { covered with } sound.garbageOnce
          fun h => (sound.garbage h).mp
        simp only [collected, bind, Except.bind, Except.map]
        exact ⟨_, rfl⟩
    · exact ⟨s, rfl⟩
  exact ⟨s', done, collects_maybeCollect sound done⟩

/-- An asserted fact can be detached. -/
theorem detach_total (solid : s.Solid) (found : s.get? h = some f)
    (asserted : f.isAsserted = true) : ∃ d s', s.detach h = .ok (d, s') := by
  obtain ⟨sound, -, covered⟩ := solid
  have indexed : (s.index.remove f.hash h).1 = true :=
    HashIndex.remove_found sound.index
      ((sound.indexed _).mpr ⟨f, found, asserted, sound.hashed h f found asserted⟩)
  obtain ⟨l, facts, m, front, back, templateFront, templateBack, unlinked, -⟩ :=
    unlink_spec (s := { s with index := (s.index.remove f.hash h).2 }) (h := h)
      sound.threaded_order (sound.threaded_templateFacts f.templateId)
      (sound.mem_order.mpr ⟨f, found, asserted⟩)
      (sound.mem_templateFacts.mpr ⟨f, found, asserted, rfl⟩)
  have pinned : ¬ f.busy = 0 := Nat.pos_iff_ne_zero.mp (covered.pinned h f found asserted)
  obtain ⟨once, answered⟩ := covered.matched h f found
  obtain ⟨failed, notices, s', retracted, -⟩ := retractMatches_total (h := h)
    (s := bury (setListOf { s with
      index := (s.index.remove f.hash h).2, global := l, facts } f.templateId m) h)
    covered.valid once answered (.retractionFailed f.index)
  refine ⟨⟨front.getLast?, templateFront.getLast?, failed, notices⟩, s', ?_⟩
  unfold detach
  simp only [found, indexed, Bool.not_true, Bool.false_eq_true, if_false, unlinked, pinned, bind,
    Except.bind]
  change (retractMatches (bury _ h) h f.matched _ >>= _) = _
  rw [retracted]
  rfl

omit [Custodian N] in
/-- A stored fact can be matched. -/
theorem matchFact_total (found : s.get? h = some f) (mode : MatchMode) :
    ∃ o s', s.matchFact h mode = .ok (o, s') := by
  unfold matchFact
  simp only [found]
  split <;> exact ⟨_, _, rfl⟩

end FactBase.Store

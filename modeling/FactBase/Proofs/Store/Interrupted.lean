import FactBase.Proofs.Store.Holdings

/-!
# Replays that are halted

A replay deals with the facts of a template one after the other, up to one at which it is halted.
That fact gives its new matches back. A network that gives no name twice names them apart from those
the fact had, so it is left with exactly those; the facts behind it were not reached.
-/

namespace FactBase.Store

variable {N : Type} [JoinNetwork N] {s s' u : Store N} {t : TemplateId} {h : Handle}
  {hs front back : List Handle} {o r : ReplayOutcome}

/-- A row of facts is dealt with up to a fact that was not dealt with before. -/
def Reaches (t : TemplateId) (hs : List Handle) (s : Store N) (h : Handle) (u : Store N) : Prop :=
  ∃ front back o, hs = front ++ h :: back ∧ replayFacts t front s = .ok (o, u) ∧
    o.complete = true ∧ (u.patterns.tree? t).any (·.isReplayed h) = false

/-- A replay of a template reaches a fact and is halted while the fact is matched. -/
def HaltsAt (s : Store N) (t : TemplateId) (h : Handle) (u : Store N) : Prop :=
  Reaches t (s.templateFacts t) { s with guarded := true } h u ∧
    ∃ m v, u.matchFact h .replay = .ok (m, v) ∧ m.halted = true

/-- What a replay does with the first fact of a row. -/
theorem replayFacts_cons {rest : List Handle}
    (done : replayFacts t (h :: rest) s = .ok (o, s')) :
    ((s.patterns.tree? t).any (·.isReplayed h) = true ∧ replayFacts t rest s = .ok (o, s')) ∨
    ∃ m u, (s.patterns.tree? t).any (·.isReplayed h) = false ∧
      s.matchFact h .replay = .ok (m, u) ∧
      ((m.halted = true ∧ o.complete = false ∧ ∃ ns, u.withdraw h m.ids = .ok (ns, s')) ∨
        (m.halted = false ∧ ∃ r, r.complete = o.complete ∧ replayFacts t rest
          { u with patterns := u.patterns.updateTree t (·.recordReplayed h) } = .ok (r, s'))) := by
  unfold replayFacts at done
  split at done
  · rename_i dealt
    exact .inl ⟨dealt, done⟩
  · rename_i fresh
    obtain ⟨⟨m, u⟩, matched, done⟩ := bind_eq_ok.mp done
    refine .inr ⟨m, u, Bool.eq_false_iff.mpr fresh, matched, ?_⟩
    dsimp only at done
    split at done
    · rename_i halted
      obtain ⟨⟨ns, v⟩, withdrawn, done⟩ := bind_eq_ok.mp done
      obtain ⟨rfl, rfl⟩ := Prod.mk.inj (Except.ok.inj done)
      exact .inl ⟨halted, rfl, ns, withdrawn⟩
    · rename_i running
      obtain ⟨⟨r, v⟩, others, done⟩ := bind_eq_ok.mp done
      obtain ⟨rfl, rfl⟩ := Prod.mk.inj (Except.ok.inj done)
      exact .inr ⟨Bool.eq_false_iff.mpr running, r, rfl, others⟩

/-- A row is dealt with by dealing with its front and then with the rest, if the front is not
halted. -/
theorem replayFacts_append (first : replayFacts t front s = .ok (r, u))
    (complete : r.complete = true) (all : replayFacts t (front ++ back) s = .ok (o, s')) :
    ∃ q, q.complete = o.complete ∧ replayFacts t back u = .ok (q, s') := by
  induction front generalizing s r o with
  | nil =>
    obtain ⟨-, rfl⟩ := Prod.mk.inj (Except.ok.inj first)
    exact ⟨o, rfl, all⟩
  | cons h rest ih =>
    rcases replayFacts_cons first with ⟨dealt, first⟩ | ⟨m, v, fresh, matched, ended⟩ <;>
      rcases replayFacts_cons all with ⟨dealt', all⟩ | ⟨m', v', fresh', matched', ended'⟩
    · exact ih first complete all
    · rw [dealt] at fresh'
      cases fresh'
    · rw [fresh] at dealt'
      cases dealt'
    · obtain ⟨rfl, rfl⟩ := Prod.mk.inj (Except.ok.inj (matched.symm.trans matched'))
      rcases ended with ⟨-, halted, -⟩ | ⟨running, r', same, first⟩
      · rw [complete] at halted
        cases halted
      rcases ended' with ⟨halted, -⟩ | ⟨-, o', same', all⟩
      · rw [running] at halted
        cases halted
      obtain ⟨q, outcome, later⟩ := ih first (same.trans complete) all
      exact ⟨q, outcome.trans same', later⟩

/-- A row that is not completed was halted at one of its facts. -/
theorem exists_halted (done : replayFacts t hs s = .ok (o, s')) (ended : o.complete = false) :
    ∃ h u, Reaches t hs s h u ∧ ∃ m v, u.matchFact h .replay = .ok (m, v) ∧ m.halted = true := by
  induction hs generalizing s o with
  | nil =>
    obtain ⟨rfl, -⟩ := Prod.mk.inj (Except.ok.inj done)
    cases ended
  | cons k rest ih =>
    -- What is reached behind the first fact is reached in the whole row.
    have later {v : Store N} {h : Handle} {u : Store N} (reaches : Reaches t rest v h u)
        (dealt : ∀ front r, replayFacts t front v = .ok (r, u) → r.complete = true →
          ∃ q, replayFacts t (k :: front) s = .ok (q, u) ∧ q.complete = true) :
        Reaches t (k :: rest) s h u := by
      obtain ⟨front, back, r, rfl, first, complete, fresh⟩ := reaches
      obtain ⟨q, first, complete⟩ := dealt front r first complete
      exact ⟨k :: front, back, q, rfl, first, complete, fresh⟩
    rcases replayFacts_cons done with ⟨dealt, done⟩ | ⟨m, v, fresh, matched, next⟩
    · obtain ⟨h, u, reaches, halted⟩ := ih done ended
      refine ⟨h, u, later reaches fun front r first complete => ⟨r, ?_, complete⟩, halted⟩
      unfold replayFacts
      rw [if_pos dealt, first]
    · rcases next with ⟨halted, -⟩ | ⟨running, r, same, done⟩
      · exact ⟨k, s, ⟨[], rest, {}, rfl, rfl, rfl, fresh⟩, m, v, matched, halted⟩
      · obtain ⟨h, u, reaches, halted⟩ := ih done (same.trans ended)
        refine ⟨h, u, later reaches fun front r first complete => ?_, halted⟩
        refine ⟨{ r with produced := m.ids.length + r.produced, notices := m.notices ++ r.notices },
          ?_, complete⟩
        unfold replayFacts
        rw [if_neg (Bool.eq_false_iff.mp fresh), matched]
        simp only [bind, Except.bind, running, Bool.false_eq_true, if_false, first]

/-- The facts that a row is completed without have the matches they had. -/
theorem matchedOf_replayFacts {k : Handle} (done : replayFacts t hs s = .ok (o, s'))
    (complete : o.complete = true) (outside : k ∉ hs) : s'.matchedOf k = s.matchedOf k := by
  induction hs generalizing s o with
  | nil =>
    obtain ⟨-, rfl⟩ := Prod.mk.inj (Except.ok.inj done)
    rfl
  | cons h rest ih =>
    obtain ⟨other, outside⟩ := List.ne_and_not_mem_of_not_mem_cons outside
    rcases replayFacts_cons done with ⟨-, done⟩ | ⟨m, u, -, matched, ended⟩
    · exact ih done complete outside
    · rcases ended with ⟨-, halted, -⟩ | ⟨-, r, same, done⟩
      · rw [complete] at halted
        cases halted
      · obtain ⟨-, -, -, -, -, -, -, -, others⟩ := matchFact_eq_ok matched
        refine (ih done (same.trans complete) outside).trans ?_
        change u.matchedOf k = s.matchedOf k
        rw [matchedOf, matchedOf, others k other]

variable {start : N} {b : Books}

/-- A row of asserted facts that is halted leaves the fact at which it is with the matches it had.
-/
theorem InCustody.interrupted (custody : s.InCustody start b) (new : NeverReuses start)
    (sound : s.Sound) (asserted : ∀ k ∈ hs, s.isAsserted k = true) (once : hs.Nodup)
    (done : Store.replayFacts t hs s = .ok (o, s')) (reaches : Reaches t hs s h u)
    {m : MatchOutcome} {v : Store N} (matched : u.matchFact h .replay = .ok (m, v))
    (halted : m.halted = true) : o.complete = false ∧ s'.matchedOf h = u.matchedOf h ∧
      u.matchedOf h = s.matchedOf h := by
  obtain ⟨front, back, r, rfl, first, complete, fresh⟩ := reaches
  have ahead : ∀ k ∈ front, s.isAsserted k = true := fun k inside =>
    asserted k (List.mem_append_left _ inside)
  have apart : h ∉ front := fun inside =>
    (List.nodup_append'.mp once).2.2 inside List.mem_cons_self
  obtain ⟨b', custody'⟩ := custody.replayFacts new sound ahead first
  have quiet : Quiet [] s u := replayFacts_spec (fun k inside => by
    obtain ⟨f, found, attached⟩ := isAsserted_iff_exists.mp (ahead k inside)
    refine ⟨f, found, Bool.eq_false_iff.mpr fun unattached => ?_⟩
    exact not_asserted_of_unattached unattached attached) first
  have there : u.isAsserted h = true := by
    rw [quiet.alike.isAsserted]
    exact asserted h (List.mem_append_right _ List.mem_cons_self)
  obtain ⟨q, same, rest⟩ := replayFacts_append first complete done
  obtain ⟨dealt, -⟩ | ⟨m', v', -, matched', ended⟩ := replayFacts_cons rest
  · rw [fresh] at dealt
    cases dealt
  obtain ⟨rfl, rfl⟩ := Prod.mk.inj (Except.ok.inj (matched.symm.trans matched'))
  rcases ended with ⟨-, incomplete, ns, withdrawn⟩ | ⟨running, -⟩
  · obtain ⟨custody'', more⟩ := custody'.matchFact (sound.quiet quiet) there matched
    have consistent := ((sound.quiet quiet).quiet (matchFact_spec matched)).toConsistent
    obtain ⟨restored, -⟩ := matchedOf_withdraw (custody''.matchedOf_nodup new consistent h) more
      withdrawn
    exact ⟨same.symm.trans incomplete, restored, matchedOf_replayFacts first complete apart⟩
  · rw [halted] at running
    cases running

/-- A replay that is not completed was halted at a fact. The fact at which it is halted has the
matches it had before the replay reached it. -/
theorem InCustody.replay_halted (custody : s.InCustody start b) (new : NeverReuses start)
    (sound : s.Sound) (done : s.replay t = .ok (o, s')) :
    (o.complete = false → ∃ h u, s.HaltsAt t h u) ∧
      ∀ h u, s.HaltsAt t h u → o.complete = false ∧ s'.matchedOf h = u.matchedOf h ∧
        u.matchedOf h = s.matchedOf h := by
  obtain ⟨⟨r, v⟩, replayed, done⟩ := bind_eq_ok.mp done
  obtain ⟨rfl, rfl⟩ := Prod.mk.inj (Except.ok.inj done)
  refine ⟨fun ended => exists_halted replayed ended, fun h u ⟨reaches, m, w, matched, halted⟩ => ?_⟩
  have guarded : InCustody start b { s with guarded := true } := { custody with }
  obtain ⟨incomplete, restored, before⟩ := guarded.interrupted new
    ((Step.guarded s true).sound sound) (fun k inside => by
      obtain ⟨f, found, asserted, -⟩ := sound.mem_templateFacts.mp inside
      exact isAsserted_iff_exists.mpr ⟨f, found, asserted⟩)
    (sound.threaded_templateFacts t).once replayed reaches matched halted
  refine ⟨incomplete, ?_, before⟩
  split <;> exact restored

end FactBase.Store

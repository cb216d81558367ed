import FactBase.Proofs.Process.Consistency
import FactBase.Proofs.Store.Exchange

/-!
# Modifying a fact

Where nobody listens, modifying an asserted fact comes to an end, and either leaves everything as it
was, or lets the fact go in favour of one that has the new values already, or puts a new fact of the
same index in its place. It reports a failure exactly if the network refuses to drop the fact's
matches or a test fails on the new values.
-/

namespace FactBase

open Store Process

variable {N ρ ν : Type} [JoinNetwork N]

/-- The fact of the new values, or the report that a test or the network failed over it. -/
def Process.answer (failed : Bool) (result : Handle) (index : Nat) : Except ModifyError Handle :=
  if failed then .error (.ruleNetwork result index) else .ok result

namespace Store

/-- What modifying an asserted fact comes to if its values change. -/
inductive Exchanges (h : Handle) (f : Fact) (vs : List Value) (s s' : Store N) :
    Except ModifyError Handle → Prop
  | merged {e : Handle} (disallowed : s.config.allowDuplicates = false)
      (rival : s.Rival f.templateId vs e) (merges : Merges h s s') :
      Exchanges h f vs s s' (answer (refuses s.network h f.matched) e f.index)
  | superseded {r : Handle}
      (unrivalled : s.config.allowDuplicates = true ∨ ∀ e, ¬ s.Rival f.templateId vs e)
      (supersedes : Supersedes h r f vs s s') :
      Exchanges h f vs s s'
        (answer (refuses s.network h f.matched || s.testFails f.templateId vs) r f.index)

variable {s s' s'' : Store N} {h r : Handle} {f : Fact} {vs : List Value}
  {a : Except ModifyError Handle}

theorem Exchanges.collects (exchanges : Exchanges h f vs s s' a) (collects : Collects s' s'')
    (consistent : s'.Consistent) : Exchanges h f vs s s'' a := by
  cases exchanges with
  | merged disallowed rival merges =>
    exact .merged disallowed rival (merges.collects collects consistent)
  | superseded unrivalled supersedes =>
    exact .superseded unrivalled (supersedes.collects collects consistent)

/-- It makes no difference how many change lists lend their texts. -/
theorem Exchanges.lent {openChanges : Nat}
    (exchanges : Exchanges h f vs { s with openChanges } s' a) : Exchanges h f vs s s' a := by
  cases exchanges with
  | merged disallowed rival merges =>
    obtain ⟨retires, order, templateFacts⟩ := merges
    exact .merged disallowed rival ⟨{ retires with }, order, templateFacts⟩
  | superseded unrivalled supersedes =>
    obtain ⟨retires, fresh, replacement, order, templateFacts⟩ := supersedes
    exact .superseded unrivalled ⟨{ retires with }, fresh, replacement, order, templateFacts⟩

omit [JoinNetwork N] in
/-- Looking for a duplicate of a fact that is not asserted finds a rival. -/
theorem Consistent.rival_of_duplicateOf? (consistent : s.Consistent) {e : Handle}
    (found : s.duplicateOf? r f (s.hashOf f) = some e) :
    s.config.allowDuplicates = false ∧ s.Rival f.templateId f.values e := by
  obtain ⟨-, g, stored, asserted, same⟩ := consistent.duplicateOf?_eq_some found
  refine ⟨?_, g, stored, asserted, same.1, same.2⟩
  unfold duplicateOf? at found
  split at found
  · cases found
  · exact Bool.eq_false_iff.mpr ‹_›

omit [JoinNetwork N] in
/-- If none is found, duplicates are allowed or there is no rival. -/
theorem Consistent.unrivalled_of_duplicateOf? (consistent : s.Consistent)
    (unasserted : s.isAsserted r = false) (missed : s.duplicateOf? r f (s.hashOf f) = none) :
    s.config.allowDuplicates = true ∨ ∀ e, ¬ s.Rival f.templateId f.values e := by
  cases allowed : s.config.allowDuplicates with
  | true => exact .inl rfl
  | false =>
    refine .inr fun e rival => ?_
    obtain ⟨g, stored, asserted, template, values⟩ := rival
    exact consistent.unrivalled allowed unasserted missed e g stored asserted
      ⟨template, values⟩

end Store

variable [Custodian N] {w : World N ρ ν} {h : Handle} {f : Fact} {fields : List Field}
  {vs : List Value}

/-- What ends the replacement of a fact concerns none but garbage. -/
theorem ensures_finish (hooks : Hooks N ρ ν) (solid : w.store.Solid)
    (unheard : w.store.listeners.entries = []) (e : Event) {a : Except ModifyError Handle} :
    Ensures (do
      setGuarded false
      updateStore fun s =>
        { s with counters := { s.counters with modified := s.counters.modified + 1 } }
      signal hooks e
      change (·.maybeCollect)
      return a) w (fun b w' => b = a ∧ w'.store.Sound ∧ Collects w.store w'.store)
      fun _ => False := by
  refine ensures_bind (ensures_updateStore (ensures_bind (ensures_updateStore ?_)))
  refine ensures_bind (ensures_signal_of_unheard unheard ?_)
  have freed := solid.step (.guarded w.store false) { solid.covered with }
  have counted := freed.step (.counters _ { w.store.counters with
    modified := w.store.counters.modified + 1 }) { freed.covered with }
  obtain ⟨s, collected, collects⟩ := maybeCollect_total counted
  refine ensures_bind (ensures_change_of_ok collected (ensures_pure ⟨rfl, ?_, ?_⟩))
  · exact (maybeCollect_spec counted.sound collected).1
  · refine Collects.trans ?_ collects
    exact .of_facts_eq rfl rfl rfl rfl

theorem ensures_replaceFact (hooks : Hooks N ρ ν) (solid : w.store.Solid)
    (unheard : w.store.listeners.entries = []) (found : w.store.get? h = some f)
    (asserted : f.isAsserted = true) (fits : fields.length = f.fields.length)
    (values : fields.map (·.value) = vs) :
    Ensures (replaceFact hooks h f fields) w
      (fun a w' => w'.store.Sound ∧ Exchanges h f vs w.store w'.store a) fun _ => False := by
  obtain ⟨r, u, d, s, created, detached, failed, vacates⟩ :=
    vacate_total solid found asserted fits
  obtain ⟨quiet, -, waiting⟩ := createWith_spec solid.sound created
  have consistent := (solid.sound.quiet quiet).toConsistent
  obtain ⟨listeners, config, contentHash⟩ : u.listeners = w.store.listeners ∧
      u.config = w.store.config ∧ u.contentHash = w.store.contentHash := by
    obtain ⟨_, _, -, -, rfl⟩ := createWith_eq_ok created
    exact ⟨rfl, rfl, rfl⟩
  unfold replaceFact
  refine ensures_bind (ensures_step_of_ok created (ensures_bind (ensures_getStore ?_)))
  extract_lets copy hash duplicate
  refine ensures_bind (ensures_updateStore ?_)
  refine ensures_bind (ensures_signal_of_unheard (listeners ▸ unheard) ?_)
  refine ensures_bind (ensures_bind (ensures_step_of_ok detached (ensures_bind
    (ensures_notifyAll (ensures_pure ?_)))))
  extract_lets finish
  -- Whatever stands instead of the fact, the rest only collects garbage.
  have finishes {result : Handle} {failed : Bool} {v : World N ρ ν} (solid : v.store.Solid)
      (unheard : v.store.listeners.entries = [])
      (exchanges : Exchanges h f vs w.store v.store
        (answer (d.networkFailed || failed) result f.index)) :
      Ensures (finish (result, failed)) v
        (fun a w' => w'.store.Sound ∧ Exchanges h f vs w.store w'.store a) fun _ => False := by
    refine ensures_mono (ensures_finish hooks solid unheard _) ?_
    rintro _ w' ⟨rfl, sound, collects⟩
    exact ⟨sound, exchanges.collects collects solid.sound.toConsistent⟩
  have content : copy.values = vs := values
  cases looked : duplicate with
  | some e =>
    obtain ⟨disallowed, rival⟩ := consistent.rival_of_duplicateOf? looked
    obtain ⟨v, freed, solid', listeners', merges⟩ :=
      vacates.merges solid.sound.toConsistent found
    have counted := solid'.step (.counters v { v.counters with
      duplicatesRejected := v.counters.duplicatesRejected + 1 }) { solid'.covered with }
    refine ensures_bind (ensures_bind (ensures_change_of_ok freed (ensures_updateStore ?_)))
    refine finishes counted (listeners' ▸ unheard) ?_
    rw [Bool.or_false, failed]
    refine .merged (config ▸ disallowed) (content ▸ quiet.alike.rival.mp rival) ?_
    exact merges.collects (.of_facts_eq rfl rfl rfl rfl) solid'.sound.toConsistent
  | none =>
    have unrivalled := consistent.unrivalled_of_duplicateOf?
      (by rw [Store.isAsserted, waiting]; rfl) looked
    obtain ⟨v, o, v', attached, matched, failed', solid', listeners', supersedes⟩ :=
      vacates.supersedes solid.sound.toConsistent found asserted values
    have hashed : hash = w.store.contentHash f.templateId vs := by
      change u.contentHash f.templateId copy.values = _
      rw [contentHash, content]
    rw [← hashed] at attached
    refine ensures_bind (ensures_step_of_ok attached (ensures_bind (ensures_bind
      (ensures_step_of_ok matched (ensures_bind (ensures_notifyAll (ensures_pure ?_)))))))
    refine finishes solid' (listeners' ▸ unheard) ?_
    rw [failed, failed']
    refine .superseded ?_ supersedes
    rw [config, content] at unrivalled
    exact unrivalled.imp id fun none e rival => none e (quiet.alike.rival.mpr rival)

/-- Modifying an asserted fact where nobody listens. If no value changes, nothing happens. Otherwise
the fact is gone: a fact that has the new values already is returned if duplicates are not allowed
and there is one; if not, a new one stands in its place, with its index. Other asserted facts and the
numbering stay as they are. -/
theorem modifyFact_exchanges (hooks : Hooks N ρ ν) (fairly : w.store.FairlyReachable)
    (unheard : w.store.listeners.entries = []) (free : w.store.guarded = false)
    (found : w.store.get? h = some f) (asserted : f.isAsserted = true)
    {changes : List (Nat × Value)} (accepted : f.template.Accepts changes) :
    (overwrite changes f.values = f.values → modifyFact hooks h changes w = .ok (.ok h) w) ∧
      (overwrite changes f.values ≠ f.values → ∃ a w', modifyFact hooks h changes w = .ok a w' ∧
        Exchanges h f (overwrite changes f.values) w.store w'.store a) := by
  obtain ⟨fields, patched, values⟩ := patched_total found asserted accepted
  constructor
  · intro unchanged
    have ensures : Ensures (modifyFact hooks h changes) w (fun a w' => a = .ok h ∧ w' = w)
        fun _ => False := by
      refine ensures_bind (ensures_getStore ?_)
      simp only [patched, values, unchanged, if_true]
      exact ensures_pure ⟨rfl, rfl⟩
    obtain ⟨_, _, done, rfl, rfl⟩ := ensures_exists ensures
    exact done
  · intro changed
    refine ensures_exists ?_
    have solid := fairly.solid
    have lent := solid.step (.lend w.store) { solid.covered with }
    have fits : fields.length = f.fields.length := by
      have length := congrArg List.length values
      rwa [List.length_map, overwrite, List.length_mapIdx, Fact.values, List.length_map] at length
    refine ensures_bind (ensures_getStore ?_)
    simp only [patched, values, changed, if_false, free, Bool.false_eq_true]
    refine ensures_bind (ensures_getStore (ensures_bind (ensures_updateStore ?_)))
    refine ensures_bind (ensures_mono
      (ensures_replaceFact hooks lent unheard found asserted fits values) ?_)
    intro a w' both
    refine ensures_bind (ensures_updateStore (ensures_pure ?_))
    exact both.2.lent.collects (.of_facts_eq rfl rfl rfl rfl) both.1.toConsistent

/-- The only fact is asserted and comes to have another value. -/
theorem modifyFact_exchanges_lamp :
    let red : List (Nat × Value) := [(0, .multifield [.symbol "red"])]
    ∃ (w : World MatchCounter Unit Unit) (f : Fact), w.store.FairlyReachable ∧
      w.store.get? ⟨0, 0⟩ = some f ∧ overwrite red f.values ≠ f.values ∧
      ∃ a w', modifyFact (fun _ _ => pure ()) ⟨0, 0⟩ red w = .ok a w' ∧
        Exchanges ⟨0, 0⟩ f (overwrite red f.values) w.store w'.store a := by
  intro red
  let empty : Store MatchCounter := .fresh {} {} fun _ _ => 0
  let ready (s : Store MatchCounter) : Bool := s.listeners.entries.isEmpty && !s.guarded &&
    (s.get? ⟨0, 0⟩).any fun f => f.isAsserted && decide (f.template.Accepts red) &&
      decide (overwrite red f.values ≠ f.values)
  have shown : (empty.createOrdered "lamp" [.nil]).toOption.any (fun x =>
      (x.2.get? ⟨0, 0⟩).any fun f => f.isUnattached &&
        (x.2.attach ⟨0, 0⟩ none (x.2.hashOf f) none none).toOption.any fun y => ready y.2) = true := by
    decide +kernel
  obtain ⟨⟨r, s⟩, made, shown⟩ := (Option.any_eq_true _ _).mp shown
  obtain ⟨e, waiting, shown⟩ := (Option.any_eq_true _ _).mp shown
  obtain ⟨unattached, shown⟩ := Bool.and_eq_true_iff.mp shown
  obtain ⟨⟨index, s'⟩, put, shown⟩ := (Option.any_eq_true _ _).mp shown
  simp only [ready, Bool.and_eq_true, List.isEmpty_iff, Bool.not_eq_true'] at shown
  obtain ⟨⟨unheard, free⟩, shown⟩ := shown
  obtain ⟨f, found, shown⟩ := (Option.any_eq_true _ _).mp shown
  simp only [Bool.and_eq_true, decide_eq_true_eq] at shown
  obtain ⟨⟨asserted, accepted⟩, changed⟩ := shown
  have created : empty.createOrdered "lamp" [.nil] = .ok (r, s) := toOption_eq_some.mp made
  have attached : s.attach ⟨0, 0⟩ none (s.hashOf e) none none = .ok (index, s') :=
    toOption_eq_some.mp put
  -- Nothing is there at first, and nothing is asserted before the lamp is.
  have empties (h : Handle) : empty.get? h = none :=
    get?_fresh {} ({} : MatchCounter) (fun _ _ => 0) h
  have begins : s.FairlyReachable := by
    refine .step (.fresh {} trivial fun _ _ => 0) (.createOrdered created) ⟨?_, ?_⟩
    · exact fun h r _ f found => nomatch (empties h).symm.trans found
    · exact fun h r _ f found => nomatch (empties h).symm.trans found
  have quiet := (createOrdered_spec (sound_fresh {} _ fun _ _ => 0) created).1
  have none_asserted (h : Handle) (g : Fact) (stored : s.get? h = some g) : g.isUnattached = true := by
    rcases quiet.alike.facts h with ⟨f, _, before, _⟩ | ⟨-, after⟩
    · cases (empties h).symm.trans before
    · exact after g stored
  have fairly : s'.FairlyReachable := by
    refine .step begins (.attach waiting unattached (by simp) (by simp) (by simp) attached) ⟨?_, ?_⟩
    · exact fun h r _ g stored asserted =>
        absurd asserted (not_asserted_of_unattached (none_asserted h g stored))
    · intro h r given
      have kept := (deinstall_spec given).alike.nextIndex
      have counted := (attach_counts waiting (Fact.isUnattached_iff.mp unattached).1 attached).1
      exact absurd (counted.symm.trans kept) (Nat.succ_ne_self _)
  let w : World MatchCounter Unit Unit := { store := s', host := () }
  exact ⟨w, f, fairly, found, changed,
    (modifyFact_exchanges _ fairly unheard free found asserted accepted).2 changed⟩

/-- A number that is replaced makes a test fail that compares numbers, and the failure is reported;
where a pin was given back that nobody had taken, a fault ends the process. -/
theorem not_modifyFact_ok :
    let quiet : Hooks MatchCounter (Memo Unit) (Store MatchCounter) := fun _ _ => pure ()
    let always (Q : EStateM.Result Fault (World MatchCounter (Memo Unit) (Store MatchCounter))
        (Except ModifyError Handle) → Prop) : Prop :=
      ∀ (w : World MatchCounter (Memo Unit) (Store MatchCounter)) (h : Handle) (f : Fact)
        (changes : List (Nat × Value)), w.store.Reachable → w.store.listeners.entries = [] →
        w.store.guarded = false → w.store.get? h = some f → f.isAsserted = true →
        f.template.Accepts changes → Q (modifyFact quiet h changes w)
    (¬ always fun result => ∀ a w', result = .ok a w' → ∃ r, a = .ok r) ∧
      ¬ always fun result => ∃ a w', result = .ok a w' := by
  intro quiet always
  let numbers (q : Probe) : Probe :=
    { q with predicates := { rules := #[RuleSpec.judge (.greater .zero)], calls := #[0] } }
  let tested : Process MatchCounter (Memo Unit) (Store MatchCounter) Unit := do
    let _ ← ask quiet (.assertOrdered "lamp" [.integer 1])
    let _ ← ask quiet (.setProbe numbers)
    let _ ← ask quiet (.addPattern ⟨⟨0⟩, [⟨0, [.single (.expression ⟨0, "positive"⟩)]⟩]⟩ "lamps")
    let _ ← look
  let released : Process MatchCounter (Memo Unit) (Store MatchCounter) Unit := do
    let _ ← ask quiet (.assertOrdered "lamp" [.integer 1])
    let _ ← ask quiet (.release ⟨0, 0⟩)
    let _ ← look
  let red : List (Nat × Value) := [(0, .multifield [.symbol "red"])]
  let start (s : Store MatchCounter) : World MatchCounter (Memo Unit) (Store MatchCounter) :=
    { store := s, host := { notes := () } }
  -- In what a client sees first, the fact may be modified, to a bad end.
  have first {p : Process MatchCounter (Memo Unit) (Store MatchCounter) Unit} (client : Client p)
      {bad : Store MatchCounter → Bool}
      (seen : ((p.aftermath (outset (Store.fresh {} {} fun _ _ => 0) ())).looks[0]?).any
        (fun s => s.listeners.entries.isEmpty && !s.guarded && bad s &&
          (s.get? ⟨0, 0⟩).any fun f => f.isAsserted && decide (f.template.Accepts red)) = true) :
      ∃ s f, s.Reachable ∧ s.listeners.entries = [] ∧ s.guarded = false ∧ s.get? ⟨0, 0⟩ = some f ∧
        f.isAsserted = true ∧ f.template.Accepts red ∧ bad s = true := by
    obtain ⟨s, looked, shown⟩ := (Option.any_eq_true _ _).mp seen
    simp only [Bool.and_eq_true, List.isEmpty_iff, Bool.not_eq_true'] at shown
    obtain ⟨⟨⟨unheard, free⟩, bad⟩, inside⟩ := shown
    obtain ⟨f, found, holds⟩ := (Option.any_eq_true _ _).mp inside
    rw [Bool.and_eq_true, decide_eq_true_eq] at holds
    have reachable :=
      client.reachable_of_mem_looks {} {} (fun _ _ => 0) () (List.mem_of_getElem? looked)
    exact ⟨s, f, reachable, unheard, free, found, holds.1, holds.2, bad⟩
  have listeners (id : ListenerId) (e : Event) : Client (quiet id e) := .pure ()
  constructor
  · intro modified
    have client : Client tested :=
      .bind (.ask listeners _) fun _ => .bind (.ask listeners _) fun _ =>
        .bind (.ask listeners _) fun _ => .bind .look fun _ => .pure ()
    let reports (s : Store MatchCounter) : Bool :=
      ((modifyFact quiet ⟨0, 0⟩ red).outcome (start s)).any fun x => x.1.toOption.isNone
    obtain ⟨s, f, reachable, unheard, free, found, asserted, accepted, failed⟩ :=
      @first tested client reports (by decide +kernel)
    obtain ⟨⟨a, w'⟩, ended, error⟩ := (Option.any_eq_true _ _).mp failed
    obtain ⟨r, rfl⟩ := modified (start s) _ f red reachable unheard free found asserted accepted a w'
      (outcome_eq_some.mp ended)
    cases error
  · intro ends
    have client : Client released :=
      .bind (.ask listeners _) fun _ => .bind (.ask listeners _) fun _ =>
        .bind .look fun _ => .pure ()
    let breaksOff (s : Store MatchCounter) : Bool :=
      ((modifyFact quiet ⟨0, 0⟩ red).outcome (start s)).isNone
    obtain ⟨s, f, reachable, unheard, free, found, asserted, accepted, fault⟩ :=
      @first released client breaksOff (by decide +kernel)
    obtain ⟨a, w', ended⟩ := ends (start s) _ f red reachable unheard free found asserted accepted
    have none : (modifyFact quiet ⟨0, 0⟩ red).outcome (start s) = none :=
      Option.isNone_iff_eq_none.mp fault
    rw [outcome_eq_some.mpr ended] at none
    cases none

end FactBase

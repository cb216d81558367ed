import FactBase.Proofs.Process.Consistency
import FactBase.Proofs.Process.Declined
import FactBase.Proofs.Store.Ordered

/-!
# Asserting ordered facts

An ordered assert makes the template of its relation on first use, makes a fact of it and asserts the
fact. If the guard is held, the fact goes again and nothing of it is left, but the template stays,
although nobody asked for it. As long as clients define no implied template that has not one slot,
every ordered fact that is asked for is refused or made.
-/

namespace FactBase

open Store Process TemplateRegistry

variable {N ρ ν σ α : Type} [JoinNetwork N]

/-! ### Two halves of an ordered assert -/

/-- Asserts a fact that was made for the occasion and does not stay behind unless it is attached. -/
def Process.assertMade (hooks : Hooks N ρ ν) (h : Handle) :
    Process N ρ ν (Except Failure Asserted) := do
  match ← assertFact hooks h with
  | .ok a => return .ok a
  | .error e =>
    if ((← getStore).get? h).any (·.index == 0) then change (·.free h)
    return .error (.assert e)

variable {w w' : World N ρ ν} {hooks : Hooks N ρ ν} {relation : String} {values : List Value}
  {h : Handle} {s : Store N}

theorem assertOrdered_of_refused {e : StoreError}
    (done : w.store.createOrdered relation values = .ok (.error e, s)) :
    assertOrdered hooks relation values w = .ok (.error (.store e)) { w with store := s } := by
  unfold assertOrdered
  rw [step_bind_of_ok done]
  rfl

theorem assertOrdered_of_made (done : w.store.createOrdered relation values = .ok (.ok h, s)) :
    assertOrdered hooks relation values w = assertMade hooks h { w with store := s } := by
  unfold assertOrdered
  rw [step_bind_of_ok done]
  rfl

/-- While the guard is held, an unattached fact is not asserted, and only the refusal counts. -/
theorem assertFact_of_guarded {f : Fact} (found : w.store.get? h = some f)
    (unattached : f.isUnattached = true) (guarded : w.store.guarded = true) :
    assertFact hooks h w = .ok (.error .couldNotAssert)
      { w with
        store := { w.store with counters := { w.store.counters with
          guardRejections := w.store.counters.guardRejections + 1 } }
        journal := w.journal.push (.notice (.refused .assert)) } := by
  obtain ⟨unnumbered, notGarbage⟩ := Fact.isUnattached_iff.mp unattached
  have refused : assertFact hooks h w =
      (refuse .assert >>= fun _ => pure (.error .couldNotAssert)) w := by
    simp only [assertFact, Process.assertAt, getStore_bind, found, notGarbage, Bool.false_eq_true,
      if_false, unnumbered, ne_eq, not_true_eq_false, guarded, if_true]
  rw [refused]
  rfl

/-! ### Refused asserts -/

/-- What a refused ordered assert leaves behind: the template that it has made for a relation that
was new, if it was the guard that refused it, and nothing else. -/
structure Store.Disowns (relation : String) (e : Failure) (s s' : Store N) : Prop where
  undone : s.Undone s'
  held : e = .assert .couldNotAssert → s.guarded = true
  kept : e ≠ .assert .couldNotAssert ∨ (s.templates.find? relation).isSome = true →
    s'.templates = s.templates
  left : e = .assert .couldNotAssert → s.templates.find? relation = none →
    s'.templates = s.templates.enter relation

omit [JoinNetwork N] in
theorem Store.Disowns.unchanged (s : Store N) {e : Failure} (other : e ≠ .assert .couldNotAssert) :
    s.Disowns relation e s :=
  ⟨.refl s, fun same => absurd same other, fun _ => rfl, fun same => absurd same other⟩

omit [JoinNetwork N] in
theorem Store.Disowns.of_free {s' u : Store N} (tidy : s.facts.Tidy) (guarded : s.guarded = true)
    (done : s.createOrdered relation values = .ok (.ok h, u))
    (freed : { u with counters := { u.counters with
      guardRejections := u.counters.guardRejections + 1 } }.free h = .ok s') :
    s.Disowns relation (.assert .couldNotAssert) s' := by
  obtain ⟨undone, id, implied⟩ := undone_of_free tidy done freed
  refine ⟨undone, fun _ => guarded, fun known => ?_, fun _ free => ?_⟩
  · obtain ⟨_, -, -, -, same⟩ | ⟨free, -, -⟩ := impliedTemplate_cases implied
    · exact same
    · rcases known with other | known
      · exact absurd rfl other
      · rw [TemplateRegistry.find?, free] at known
        cases known
  · obtain ⟨e, named, -⟩ | ⟨-, -, same⟩ := impliedTemplate_cases implied
    · rw [TemplateRegistry.find?, named] at free
      cases free
    · exact same

/-- Under the guard, the fact made for the occasion is freed again. -/
theorem ensures_assertMade_of_guarded {u : Store N} (sound : w.store.Sound)
    (guarded : w.store.guarded = true)
    (done : w.store.createOrdered relation values = .ok (.ok h, u)) {f : Fact}
    (found : u.get? h = some f) (unattached : f.isUnattached = true) :
    Ensures (assertMade hooks h) { w with store := u } (fun a w' =>
      a = .error (.assert .couldNotAssert) ∧
        w.store.Disowns relation (.assert .couldNotAssert) w'.store) fun _ => True := by
  have held : u.guarded = true :=
    (createOrdered_spec sound done).1.alike.guarded.trans guarded
  refine ensures_bind (ensures_of_ok (assertFact_of_guarded found unattached held) ?_)
  refine ensures_bind (ensures_getStore ?_)
  have unnumbered : ((u.get? h).any fun f => f.index == 0) = true := by
    rw [found, Option.any_some, beq_iff_eq]
    exact (Fact.isUnattached_iff.mp unattached).1
  refine Eq.mpr (congrArg (fun p => Ensures p _ _ _) (if_pos unnumbered)) ?_
  refine ensures_bind (ensures_change (fun s' freed => ?_) fun _ _ => trivial)
  exact ensures_pure ⟨rfl, .of_free sound.tidy guarded done freed⟩

theorem ensures_assertOrdered (hooks : Hooks N ρ ν) (reached : w.store.Reached)
    (relation : String) (values : List Value) :
    Ensures (assertOrdered hooks relation values) w (fun a w' => ∀ e, a = .error e →
      (∀ k i, e ≠ .assert (.ruleNetwork k i)) → w.store.Disowns relation e w'.store)
      fun _ => True := by
  have sound := reached.sound
  refine ensures_bind (ensures_step (fun r u done => ?_) fun _ _ => trivial)
  cases r with
  | error e =>
    refine ensures_pure fun e' answered _ => ?_
    obtain rfl := Except.error.inj answered
    obtain ⟨_, -, -, rfl⟩ | ⟨_, _, _, _, -, -, made, -⟩ := createOrdered_eq_ok done
    · exact .unchanged _ (by simp)
    · cases made
  | ok h =>
    obtain ⟨-, -, f, found, unattached, -⟩ :=
      MadeOrdered.of_done sound reached.reachable.tallied done
    change Ensures (assertMade hooks h) { w with store := u } _ _
    cases guarded : w.store.guarded with
    | true =>
      refine ensures_mono (ensures_assertMade_of_guarded sound guarded done found unattached) ?_
      rintro _ _ ⟨rfl, disowns⟩ e answered -
      obtain rfl := Except.error.inj answered
      exact disowns
    | false =>
      -- Once the fact is attached, only the rule network has anything to say.
      have free : u.guarded = false :=
        (createOrdered_spec sound done).1.alike.guarded.trans guarded
      refine ensures_bind (ensures_mono
        (ensures_assertMade hooks (w := { w with store := u }) found unattached free) ?_)
      intro a w' failed
      cases a with
      | ok a => exact ensures_pure fun _ answered => by cases answered
      | error e =>
        obtain ⟨k, i, rfl⟩ := failed e rfl
        refine ensures_after fun s _ => ?_
        dsimp only
        split
        · refine ensures_after fun _ _ => ensures_pure fun e answered other => ?_
          obtain rfl := Except.error.inj answered
          exact absurd rfl (other k i)
        · refine ensures_pure fun e answered other => ?_
          obtain rfl := Except.error.inj answered
          exact absurd rfl (other k i)

/-- An ordered assert that is refused leaves nothing behind, but for the template of a relation that
was new if it was refused by the guard. -/
theorem refused_ordered_disowned (hooks : Hooks N ρ ν) (reached : w.store.Reached) {e : Failure}
    (refused : assertOrdered hooks relation values w = .ok (.error e) w')
    (other : ∀ k i, e ≠ .assert (.ruleNetwork k i)) : w.store.Disowns relation e w'.store := by
  have ensures := ensures_assertOrdered hooks reached relation values
  unfold Ensures at ensures
  rw [refused] at ensures
  exact ensures e rfl other

/-- Lamps are known when the guard refuses one, and the names of templates stay as they are. -/
theorem refused_ordered_disowned_lamp :
    let hooks : Hooks MatchCounter Unit Unit := fun _ _ => pure ()
    let templates : TemplateRegistry := ({} : TemplateRegistry).enter "lamp"
    let w : World MatchCounter Unit Unit :=
      { store := { Store.fresh {} {} (fun _ _ => 0) with templates, guarded := true }, host := () }
    let w' := (assertOrdered hooks "lamp" [.nil]).aftermath w
    w.store.Reached ∧
      assertOrdered hooks "lamp" [.nil] w = .ok (.error (.assert .couldNotAssert)) w' ∧
      w.store.Disowns "lamp" (.assert .couldNotAssert) w'.store ∧
      w'.store.templates.find? "lamp" = some ⟨0⟩ ∧ w'.store.facts.size = 0 ∧
      w'.store.counters.guardRejections = 1 := by
  intro hooks templates w w'
  have defined : (Store.fresh {} ({} : MatchCounter) fun _ _ => 0).templates.impliedTemplate "lamp" =
      .ok (⟨0⟩, templates) := rfl
  have reached : w.store.Reached :=
    ((Reached.fresh {} {} fun _ _ => 0).move (.chore (.impliedTemplate defined))).move
      (.chore (.guarded _ true))
  have refused : assertOrdered hooks "lamp" [.nil] w = .ok (.error (.assert .couldNotAssert)) w' :=
    rfl
  refine ⟨reached, refused, refused_ordered_disowned hooks reached refused (by simp), ?_⟩
  decide +kernel

/-- The name of a relation that was new is taken although the ordered fact was refused. -/
theorem not_refused_ordered_unnoticed : ¬ ∀ (hooks : Hooks MatchCounter Unit Unit)
    (w w' : World MatchCounter Unit Unit) (relation : String) (values : List Value) (e : Failure),
    w.store.Reached → assertOrdered hooks relation values w = .ok (.error e) w' →
      (∀ k i, e ≠ .assert (.ruleNetwork k i)) →
        w'.store.templates.find? relation = w.store.templates.find? relation := by
  intro always
  let hooks : Hooks MatchCounter Unit Unit := fun _ _ => pure ()
  let w : World MatchCounter Unit Unit :=
    { store := { Store.fresh {} {} (fun _ _ => 0) with guarded := true }, host := () }
  have reached : w.store.Reached :=
    (Reached.fresh {} {} fun _ _ => 0).move (.chore (.guarded _ true))
  have refused : assertOrdered hooks "lamp" [.nil] w = .ok (.error (.assert .couldNotAssert))
      ((assertOrdered hooks "lamp" [.nil]).aftermath w) := rfl
  have same := always hooks w _ "lamp" [.nil] _ reached refused (by simp)
  have taken : ((assertOrdered hooks "lamp" [.nil]).aftermath w).store.templates.find? "lamp" =
      some ⟨0⟩ := by decide +kernel
  rw [taken] at same
  cases same

/-! ### Clients that define no odd templates -/

/-- Whether a request that defines an implied template gives it one slot. -/
def Request.DefinesOrdinary : Request α → Prop
  | .defineTemplate t => t.isImplied = true → t.arity = 1
  | _ => True

namespace TemplateRegistry.Ordinary

variable {r r' : TemplateRegistry}

omit [JoinNetwork N]

theorem kept (ordinary : r.Ordinary) (same : r'.catalogue = r.catalogue) : r'.Ordinary := by
  intro x inside
  rw [same] at inside
  exact ordinary x inside

theorem trims {s s' : Store N} (ordinary : s.templates.Ordinary) (trims : Trims s s') :
    s'.templates.Ordinary := by
  cases trims with
  | kept same => exact ordinary.kept same.catalogue
  | undefined _ _ roster _ =>
    intro x inside
    rw [catalogue_filter roster] at inside
    exact ordinary x (List.mem_of_mem_filter inside)

theorem define (ordinary : r.Ordinary) {t : Template} (single : t.isImplied = true → t.arity = 1)
    {id : TemplateId} (done : r.define t = .ok (id, r')) : r'.Ordinary := by
  obtain ⟨-, -, -, -, rfl⟩ := define_eq_ok done
  intro x inside
  rw [catalogue, List.map_append] at inside
  rcases List.mem_append.mp inside with before | new
  · exact ordinary x before
  · rw [List.mem_singleton.mp new]
    exact single

theorem impliedTemplate (ordinary : r.Ordinary) {id : TemplateId}
    (done : r.impliedTemplate relation = .ok (id, r')) : r'.Ordinary := by
  obtain ⟨e, -, -, -, rfl⟩ | ⟨-, defined⟩ := impliedTemplate_eq_ok done
  · exact ordinary
  · exact ordinary.define (fun _ => rfl) defined

end TemplateRegistry.Ordinary

theorem upheld_ordinary : Upheld (N := N) (Always σ (·.templates.Ordinary)) where
  errand ordinary _ errand := ordinary.trims errand.trims
  detach ordinary _ done := ordinary.kept (by rw [(stock_detach done).templates])

theorem assertive_ordinary (start : Store N) : Assertive start (Always σ (·.templates.Ordinary)) where
  attach ordinary _ _ _ _ _ _ _ attaches _ _ := by
    obtain ⟨_, _, _, _, _, _, shape⟩ := attaches.rest
    exact ordinary.kept (by rw [shape])
  matchFact ordinary _ _ done := ordinary.kept (by rw [(stock_matchFact done).templates])
  free ordinary _ _ _ _ done := ordinary.kept (sameRoster_free done).catalogue

omit [JoinNetwork N] in
/-- What an ordinary request makes leaves the templates ordinary. -/
theorem Request.Makes.ordinary {r : Request α} (single : r.DefinesOrdinary) {start s s' : Store N}
    (makes : r.Makes start s s') (ordinary : s.templates.Ordinary) : s'.templates.Ordinary := by
  cases makes with
  | created done =>
    obtain ⟨-, rfl⟩ | ⟨e, _, created, -⟩ := createFact_eq_ok done
    · exact ordinary
    · obtain ⟨draws, drawn⟩ := defaultFields_eq e.id e.template.slots.zipIdx start
      rw [drawn] at created
      exact ordinary.kept (sameRoster_createWith created).catalogue
  | ordered _ done =>
    obtain ⟨_, -, -, rfl⟩ | ⟨_, _, _, _, implied, created, -⟩ := createOrdered_eq_ok done
    · exact ordinary
    · exact (ordinary.impliedTemplate implied).kept (sameRoster_createWith created).catalogue
  | copied _ _ _ _ done | built _ _ done =>
    exact ordinary.kept (sameRoster_createWith done).catalogue
  | defined done =>
    obtain ⟨templates, defined, rfl⟩ := defineTemplate_eq_ok done
    exact ordinary.define single defined
  | implied done => exact ordinary.impliedTemplate done

/-- Only definitions bring in templates. -/
theorem upheldFrom_ordinary (r : Request α) (single : r.DefinesOrdinary) (start : Store N) :
    r.UpheldFrom start (Always σ (·.templates.Ordinary)) := by
  have kept {u v : Store N} (same : SameStock u v) (ordinary : u.templates.Ordinary) :
      v.templates.Ordinary := ordinary.kept (by rw [same.templates])
  refine fun notes => ⟨?_, fun _ _ makes ordinary _ => makes.ordinary single ordinary⟩
  cases r with
  | putSlot => exact fun _ done ordinary _ => kept (stock_putSlot done) ordinary
  | putSlotAt => exact fun _ done ordinary _ => kept (stock_putSlotAt done) ordinary
  | discard =>
    intro _ _ done ordinary _
    obtain ⟨_, -, rfl⟩ | ⟨_, -, -, freed, -⟩ := discard_eq_ok done
    · exact ordinary
    · exact ordinary.kept (sameRoster_free freed).catalogue
  | assertAt =>
    exact ⟨assertive_ordinary start, fun _ _ _ _ _ done ordinary _ =>
      ordinary.kept (sameRoster_free done).catalogue⟩
  | assertOrdered | modify | duplicate | commitBuilder => exact assertive_ordinary start
  | commitModifier =>
    exact ⟨assertive_ordinary start, fun _ _ done ordinary _ => kept (stock_release done) ordinary⟩
  | clear => exact fun _ _ ordinary _ _ _ => ordinary
  | retain | makeModifier => exact fun _ done ordinary _ => kept (stock_retain done) ordinary
  | release | abortModifier => exact fun _ _ done ordinary _ => kept (stock_release done) ordinary
  | install => exact fun _ done ordinary _ => kept (stock_install done) ordinary
  | deinstall =>
    exact ⟨fun _ _ done ordinary _ => kept (stock_deinstall done) ordinary, fun _ => trivial⟩
  | makeBuilder =>
    exact fun _ _ done ordinary _ =>
      ordinary.kept (Demand.makeBuilder done).sameCatalogue.catalogue
  | dropBuilder b =>
    exact fun ordinary _ => ordinary.kept (Demand.dropBuilder b start).sameCatalogue.catalogue
  | addPattern => exact fun _ _ _ _ _ ordinary _ done => kept (stock_addPattern done) ordinary
  | removePattern => exact fun _ _ _ ordinary _ done => kept (stock_removePattern done) ordinary
  | replayNewPatterns => exact fun _ _ _ _ _ ordinary _ done => kept (stock_replayAll done) ordinary
  | setAllowDuplicates | setProbe => exact fun _ _ ordinary _ => ordinary
  | _ => exact trivial

/-! ### Every ordered fact is refused or made -/

/-- A call for an ordered fact ends for good over a misfit only. Otherwise it is refused and nothing
changes, or the fact is made; an ordered assert goes on to assert it. -/
structure Store.AnswersOrdered (s : Store N) (relation : String) (values : List Value) : Prop where
  fatal : ∀ b, s.createOrdered relation values = .error b ↔
    ∃ e, s.templates.byName? relation = some e ∧ e.template.isImplied = true ∧
      e.template.arity ≠ 1 ∧ b = .arityMismatch 1 relation e.template.arity
  answered : s.Misfit relation ∨
    (∃ e, s.createOrdered relation values = .ok (.error e, s) ∧
      ∀ {ρ ν : Type} (hooks : Hooks N ρ ν) (w : World N ρ ν), w.store = s →
        assertOrdered hooks relation values w = .ok (.error (.store e)) w) ∨
    ∃ h s', s.createOrdered relation values = .ok (.ok h, s') ∧
      s.MadeOrdered relation values h s' ∧
      ∀ {ρ ν : Type} (hooks : Hooks N ρ ν) (w : World N ρ ν), w.store = s →
        assertOrdered hooks relation values w = assertMade hooks h { w with store := s' }

theorem Store.Reached.answersOrdered (reached : s.Reached) (relation : String)
    (values : List Value) : s.AnswersOrdered relation values := by
  have tallied := reached.reachable.tallied
  refine ⟨fun b => createOrdered_eq_error_iff tallied, ?_⟩
  cases done : s.createOrdered relation values with
  | error b =>
    obtain ⟨e, named, implied, misfit, -⟩ := (createOrdered_eq_error_iff tallied).mp done
    exact .inl ⟨e, named, implied, misfit⟩
  | ok x =>
    obtain ⟨r, s'⟩ := x
    cases r with
    | error e =>
      obtain ⟨_, -, -, rfl⟩ | ⟨_, _, _, _, -, -, made, -⟩ := createOrdered_eq_ok done
      · refine .inr (.inl ⟨e, rfl, ?_⟩)
        rintro ρ ν hooks w rfl
        exact assertOrdered_of_refused done
      · cases made
    | ok h =>
      refine .inr (.inr ⟨h, s', rfl, .of_done reached.sound tallied done, ?_⟩)
      rintro ρ ν hooks w rfl
      exact assertOrdered_of_made done

/-- Whatever clients and listeners do, a fact base answers every call for an ordered fact unless the
relation is a misfit, and where they define ordinary templates only, no relation is one. -/
theorem ordered_facts_answered {ok : (α : Type) → Request α → Prop}
    {p : Process N (Memo σ) (Store N) α} (script : Script ok p) (config : Config) (network : N)
    (contentHash : TemplateId → List Value → UInt64) (notes : σ) {s : Store N}
    (inside : s ∈ (p.aftermath (outset (Store.fresh config network contentHash) notes)).looks ++
      [(p.aftermath (outset (Store.fresh config network contentHash) notes)).store])
    (relation : String) (values : List Value) :
    s.AnswersOrdered relation values ∧
      ((∀ {β : Type} (r : Request β), ok β r → r.DefinesOrdinary) → ¬ s.Misfit relation) := by
  constructor
  · have seen := script.seen_trivial config network contentHash notes
    rcases List.mem_append.mp inside with looked | last
    · exact (seen.looks s (mem_looks.mp looked)).1.answersOrdered relation values
    · obtain rfl := List.mem_singleton.mp last
      exact seen.reached.answersOrdered relation values
  · intro single
    have none : (Store.fresh config network contentHash).templates.Ordinary :=
      fun _ inside => by cases inside
    have seen := script.seen upheld_ordinary
      (fun r start allowed => upheldFrom_ordinary r (single r allowed) start) config network
      contentHash notes none
    rcases List.mem_append.mp inside with looked | last
    · obtain ⟨-, _, ordinary⟩ := seen.looks s (mem_looks.mp looked)
      exact not_misfit_of_ordinary ordinary relation
    · obtain rfl := List.mem_singleton.mp last
      exact not_misfit_of_ordinary seen.holds relation

/-- A room of lamps in a module of its own; the template of lamps is removed once. -/
theorem ordered_facts_answered_lamp :
    let hooks : Hooks MatchCounter (Memo Unit) (Store MatchCounter) := fun _ _ => pure ()
    let lamps : Process MatchCounter (Memo Unit) (Store MatchCounter) Unit := do
      let _ ← ask hooks (.defineModule "ROOM" [])
      let _ ← ask hooks (.setCurrentModule "ROOM")
      let _ ← ask hooks (.defineTemplate (.implied "lamp" "ROOM"))
      let _ ← ask hooks (.undefineTemplate "lamp")
      let _ ← ask hooks (.assertOrdered "lamp" [.nil])
    let s := (lamps.aftermath (outset (Store.fresh {} {} fun _ _ => 0) ())).store
    s.AnswersOrdered "lamp" [.integer 5] ∧ ¬ s.Misfit "lamp" ∧
      (s.createOrdered "lamp" [.integer 5]).map (fun x => (x.1.toOption,
        (x.2.get? ⟨1, 0⟩).map fun f => (f.values, f.template.arity))) =
          .ok (some ⟨1, 0⟩, some ([.multifield [.integer 5]], 1)) := by
  intro hooks lamps s
  have idle (id : ListenerId) (e : Event) :
      Script (fun _ r => r.DefinesOrdinary) (hooks id e) := .pure ()
  have script : Script (fun _ r => r.DefinesOrdinary) lamps :=
    .bind (.ask idle _ trivial) fun _ => .bind (.ask idle _ trivial) fun _ =>
      .bind (.ask idle _ fun _ => rfl) fun _ => .bind (.ask idle _ trivial) fun _ =>
        .bind (.ask idle _ trivial) fun _ => .pure ()
  obtain ⟨answers, fits⟩ := ordered_facts_answered script {} {} (fun _ _ => 0) ()
    (List.mem_append_right _ (List.mem_singleton_self _)) "lamp" [.integer 5]
  refine ⟨answers, fits fun _ single => single, ?_⟩
  decide +kernel

/-- An implied template is defined with a further slot, and then no fact of the relation can be
made. -/
theorem not_ordered_facts_answered_odd :
    let hooks : Hooks MatchCounter (Memo Unit) (Store MatchCounter) := fun _ _ => pure ()
    let odd : Template :=
      { name := "lamp", slots := [{ name := impliedSlot, isMulti := true }, { name := "watts" }],
        isImplied := true }
    let lamp : Process MatchCounter (Memo Unit) (Store MatchCounter) (Option TemplateId) := do
      let defined ← ask hooks (.defineTemplate odd)
      return defined.bind (·.toOption)
    let start := outset (Store.fresh {} {} fun _ _ => 0) ()
    let s := (lamp.aftermath start).store
    Client lamp ∧ (lamp.outcome start).map (·.1) = some (some ⟨0⟩) ∧
      ¬ ∀ relation values, ∃ r s', s.createOrdered relation values = .ok (r, s') := by
  intro hooks odd lamp start s
  refine ⟨.bind (.ask (fun _ _ => .pure ()) _) fun _ => .pure _, by decide +kernel, fun always => ?_⟩
  obtain ⟨r, s', made⟩ := always "lamp" [.nil]
  have broken : (s.createOrdered "lamp" [.nil]).isOk = false := by decide +kernel
  rw [made] at broken
  cases broken

end FactBase

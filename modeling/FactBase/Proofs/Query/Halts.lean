import FactBase.Proofs.Query.Enumeration

/-!
# Halts of queries

A halt may be requested at any time, by a test or from outside. It ends a search between two
candidates: what is found by then is the beginning of what would have been found.
-/

namespace FactBase.Query

open Store Process

variable {N ρ ν : Type} {w : World N ρ ν} {s s' : Store N}

/-- Nothing is different but whether a halt is requested. -/
def SameButHalt (s s' : Store N) : Prop :=
  s' = { s with
    probe := { s.probe with halted := s'.probe.halted, interrupts := s'.probe.interrupts } }

/-- A test that leaves the fact base as it is, though it may request a halt, and goes by the binding
and the fact base whether a halt is requested or not. -/
structure Unheeding (test : Test N ρ ν) (judge : Store N → Binding → Except EvalError Bool) : Prop where
  runs : ∀ x w, ∃ w', test x w = .ok (judge w.store x) w' ∧ SameButHalt w.store w'.store
  blind : ∀ {s s'} x, SameButHalt s s' → judge s' x = judge s x

namespace SameButHalt

theorem refl (s : Store N) : SameButHalt s s := rfl

theorem trans {s'' : Store N} (first : SameButHalt s s') (second : SameButHalt s' s'') :
    SameButHalt s s'' := by
  unfold SameButHalt at *
  rw [second, first]

theorem undisturbed (same : SameButHalt s s') : Undisturbed s s' := by
  unfold Undisturbed SameButHalt at *
  rw [same]

theorem templateFacts (same : SameButHalt s s') : s'.templateFacts = s.templateFacts := by
  rw [same]
  rfl

end SameButHalt

theorem ensures_pollHalt {Q : Bool → World N ρ ν → Prop} {E : World N ρ ν → Prop}
    (polled : ∀ halted w', SameButHalt w.store w'.store → Q halted w') :
    Ensures pollHalt w Q E := by
  refine polled w.store.probe.poll.1 { w with store := { w.store with probe := w.store.probe.poll.2 } } ?_
  unfold SameButHalt Probe.poll
  split <;> rfl

section Halts

variable {test : Test N ρ ν} {judge : Store N → Binding → Except EvalError Bool} {bound : Binding}
  {found : List Binding} {xs ys : List Binding}

/-- What is found once some bindings are tested. -/
def gathered (p : Binding → Except EvalError Bool) (found xs : List Binding) (flow : Flow) :
    Except QueryError (List Binding × Flow) :=
  ((xs.filterM p).map fun more => (found ++ more, flow)).mapError .evaluation

/-- Of some bindings the first were tested, or all if the search goes on. -/
def Gathers (p : Binding → Except EvalError Bool) (found xs : List Binding)
    (r : Except QueryError (List Binding × Flow)) : Prop :=
  r = gathered p found xs .onward ∨ ∃ front, front <+: xs ∧ r = gathered p found front .stop

theorem gathered_nil (p : Binding → Except EvalError Bool) (found : List Binding) (flow : Flow) :
    gathered p found [] flow = .ok (found, flow) := by
  change Except.ok (found ++ [], flow) = _
  rw [List.append_nil]

theorem gathered_eq_ok {p : Binding → Except EvalError Bool} {found' : List Binding}
    {flow flow' : Flow} (gathers : gathered p found xs flow = .ok (found', flow')) :
    flow' = flow ∧ ∃ more, xs.filterM p = .ok more ∧ found' = found ++ more := by
  unfold gathered at gathers
  cases done : xs.filterM p with
  | error e =>
    rw [done] at gathers
    cases gathers
  | ok more =>
    rw [done] at gathers
    cases gathers
    exact ⟨rfl, more, rfl, rfl⟩

theorem gathered_append {p : Binding → Except EvalError Bool} {more : List Binding} {flow : Flow}
    (done : xs.filterM p = .ok more) (ys : List Binding) :
    gathered p found (xs ++ ys) flow = gathered p (found ++ more) ys flow := by
  unfold gathered
  rw [filterM_append, done]
  change Except.mapError _ (Except.map _ (ys.filterM p >>= fun b => pure (more ++ b))) = _
  cases ys.filterM p with
  | error e => rfl
  | ok rest =>
    change Except.ok (found ++ (more ++ rest), flow) = .ok (found ++ more ++ rest, flow)
    rw [List.append_assoc]

theorem gathered_of_error {p : Binding → Except EvalError Bool} {x : Binding} {e : EvalError}
    (found : List Binding) (judged : p x = .error e) :
    gathered p found [x] .onward = .error (.evaluation e) := by
  unfold gathered
  rw [filterM_cons, judged]
  rfl

theorem gathered_of_ok {p : Binding → Except EvalError Bool} {x : Binding} {wanted : Bool}
    (found : List Binding) (judged : p x = .ok wanted) :
    gathered p found [x] .onward = .ok (found ++ if wanted then [x] else [], .onward) := by
  unfold gathered
  rw [filterM_cons, judged]
  cases wanted <;> rfl

theorem Gathers.append_stop {p : Binding → Except EvalError Bool}
    {r : Except QueryError (List Binding × Flow)} (gathers : Gathers p found xs r)
    (ended : ∀ found, r ≠ .ok (found, .onward)) (ys : List Binding) :
    Gathers p found (xs ++ ys) r := by
  rcases gathers with rfl | ⟨front, isFront, rfl⟩
  · refine .inr ⟨xs, List.prefix_append xs ys, ?_⟩
    unfold gathered at ended ⊢
    cases done : xs.filterM p with
    | error e => rfl
    | ok more =>
      rw [done] at ended
      exact absurd rfl (ended _)
  · exact .inr ⟨front, isFront.trans (List.prefix_append xs ys), rfl⟩

theorem Gathers.append_onward {p : Binding → Except EvalError Bool} {found' : List Binding}
    {r : Except QueryError (List Binding × Flow)}
    (first : Gathers p found xs (.ok (found', .onward))) (second : Gathers p found' ys r) :
    Gathers p found (xs ++ ys) r := by
  obtain ⟨more, done, rfl⟩ : ∃ more, xs.filterM p = .ok more ∧ found' = found ++ more := by
    rcases first with first | ⟨front, -, first⟩
    · exact (gathered_eq_ok first.symm).2
    · cases (gathered_eq_ok first.symm).1
  rcases second with rfl | ⟨front, isFront, rfl⟩
  · exact .inl (gathered_append done ys).symm
  · exact .inr ⟨xs ++ front, (List.prefix_append_right_inj xs).mpr isFront,
      (gathered_append done front).symm⟩

/-- Whatever is requested meanwhile, a search gathers what the bindings tested so far come to. -/
theorem ensures_tryFacts_gathers {p : Binding → Except EvalError Bool}
    {d : Handle → List Binding → Process N ρ ν (Except QueryError (List Binding × Flow))}
    {further : Handle → List Binding} (outer : allAsserted s bound = true)
    (deeper : ∀ h found w, s.isAsserted h = true → SameButHalt s w.store →
      Ensures (d h found) w (fun r w' => SameButHalt s w'.store ∧ Gathers p found (further h) r)
        fun _ => False)
    (hs : List Handle) (same : SameButHalt s w.store) :
    Ensures (tryFacts bound d hs found) w (fun r w' => SameButHalt s w'.store ∧
      Gathers p found ((hs.filter s.isAsserted).flatMap further) r) fun _ => False := by
  induction hs generalizing w found with
  | nil => exact ensures_pure ⟨same, .inl (gathered_nil p found .onward).symm⟩
  | cons h rest ih =>
    unfold tryFacts
    refine ensures_bind (ensures_pollHalt fun halted w₁ polled => ?_)
    have same := same.trans polled
    cases halted with
    | true =>
      exact ensures_pure ⟨same, .inr ⟨[], List.nil_prefix, (gathered_nil p found .stop).symm⟩⟩
    | false =>
      refine ensures_bind (ensures_getStore ?_)
      rw [same.undisturbed.allAsserted, outer, same.undisturbed.isAsserted]
      by_cases asserted : s.isAsserted h = true
      · rw [asserted, List.filter_cons_of_pos asserted, List.flatMap_cons]
        refine ensures_bind (ensures_mono (deeper h found w₁ asserted same) ?_)
        rintro r w₂ ⟨same, first⟩
        split
        · rename_i found'
          refine ensures_mono (ih same) fun r w₃ ⟨same, second⟩ => ?_
          exact ⟨same, first.append_onward second⟩
        · rename_i ended
          exact ensures_pure ⟨same, first.append_stop ended _⟩
      · rw [Bool.eq_false_iff.mpr asserted, List.filter_cons_of_neg asserted]
        exact ih same

theorem ensures_tryTemplates_gathers {p : Binding → Except EvalError Bool}
    {d : Handle → List Binding → Process N ρ ν (Except QueryError (List Binding × Flow))}
    {further : Handle → List Binding} (outer : allAsserted s bound = true)
    (deeper : ∀ h found w, s.isAsserted h = true → SameButHalt s w.store →
      Ensures (d h found) w (fun r w' => SameButHalt s w'.store ∧ Gathers p found (further h) r)
        fun _ => False)
    (ts : List TemplateId) (same : SameButHalt s w.store) :
    Ensures (tryTemplates bound d ts found) w (fun r w' => SameButHalt s w'.store ∧
      Gathers p found (((ts.flatMap s.templateFacts).filter s.isAsserted).flatMap further) r)
      fun _ => False := by
  induction ts generalizing w found with
  | nil => exact ensures_pure ⟨same, .inl (gathered_nil p found .onward).symm⟩
  | cons t rest ih =>
    unfold tryTemplates
    rw [List.flatMap_cons, List.filter_append, List.flatMap_append]
    refine ensures_bind (ensures_getStore ?_)
    rw [same.templateFacts]
    refine ensures_bind (ensures_mono (ensures_tryFacts_gathers outer deeper _ same) ?_)
    rintro r w₁ ⟨same, first⟩
    split
    · rename_i found'
      refine ensures_mono (ih same) fun r w₂ ⟨same, second⟩ => ?_
      exact ⟨same, first.append_onward second⟩
    · rcases first with first | ⟨_, -, first⟩ <;> cases (gathered_eq_ok first.symm).1
    · rename_i ended _
      exact ensures_pure ⟨same, first.append_stop ended _⟩

theorem ensures_descend_gathers (unheeding : Unheeding test judge)
    (restrictions : List Restriction) (outer : Binding) (asserted : allAsserted s outer = true)
    (same : SameButHalt s w.store) :
    Ensures (descend test (fun x found => return .ok (found ++ [x], .onward))
        (restrictions.map (level s.templates)) outer found) w
      (fun r w' => SameButHalt s w'.store ∧
        Gathers (judge s) found ((bindings s restrictions).map (outer ++ ·)) r) fun _ => False := by
  induction restrictions generalizing outer w found with
  | nil =>
    obtain ⟨w', ran, quiet⟩ := unheeding.runs outer w
    rw [unheeding.blind outer same] at ran
    refine ensures_bind (ensures_of_ok ran ?_)
    have same := same.trans quiet
    rw [bindings, List.map_singleton, List.append_nil]
    cases judged : judge s outer with
    | error e => exact ensures_pure ⟨same, .inl (gathered_of_error found judged).symm⟩
    | ok wanted =>
      have first := gathered_of_ok found judged
      cases wanted with
      | false =>
        simp only [Bool.false_eq_true, if_false, List.append_nil] at first
        exact ensures_pure ⟨same, .inl first.symm⟩
      | true => exact ensures_pure ⟨same, .inl first.symm⟩
  | cons x rest ih =>
    rw [List.map_cons, descend, bindings, candidates_eq, List.map_flatMap]
    refine ensures_tryTemplates_gathers asserted (fun h found w holds same => ?_) _ same
    have further : allAsserted s (outer ++ [(x.name, h)]) = true := by
      rw [allAsserted, List.all_append, ← allAsserted, asserted]
      simpa using holds
    change Ensures (descend _ _ _ (outer ++ [(x.name, h)]) found) _ _ _
    simpa [Function.comp_def] using ih _ further same

theorem ensures_findAll_gathers {restrictions : List Restriction}
    (wellFormed : WellFormed s.templates restrictions) (unheeding : Unheeding test judge)
    (same : SameButHalt s w.store) :
    Ensures (findAll test restrictions) w (fun r _ => ∃ front, front <+: bindings s restrictions ∧
      r = (front.filterM (judge s)).mapError .evaluation) fun _ => False := by
  have templates : w.store.templates = s.templates := by rw [same]
  unfold findAll search
  refine ensures_bind (ensures_getStore ?_)
  rw [templates, wellFormed.compile]
  refine ensures_bind (ensures_mono (ensures_descend_gathers unheeding restrictions [] rfl same) ?_)
  rintro r w' ⟨-, gathers⟩
  simp only [List.nil_append, List.map_id'] at gathers
  obtain ⟨front, flow, isFront, rfl⟩ : ∃ front flow, front <+: bindings s restrictions ∧
      r = gathered (judge s) [] front flow := by
    rcases gathers with gathers | ⟨front, isFront, gathers⟩
    · exact ⟨_, _, List.prefix_rfl, gathers⟩
    · exact ⟨front, _, isFront, gathers⟩
  unfold gathered
  cases done : front.filterM (judge s) with
  | error e => exact ensures_pure ⟨front, isFront, congrArg (Except.mapError _) done.symm⟩
  | ok more => exact ensures_pure ⟨front, isFront, congrArg (Except.mapError _) done.symm⟩

/-- What the first of some members come to is the beginning of what all come to. -/
theorem filterM_prefix {p : Binding → Except EvalError Bool} (isFront : xs <+: ys)
    {all : List Binding} (done : ys.filterM p = .ok all) :
    ∃ found, xs.filterM p = .ok found ∧ found <+: all := by
  obtain ⟨rest, rfl⟩ := isFront
  rw [filterM_append] at done
  obtain ⟨found, first, done⟩ := bind_eq_ok.mp done
  obtain ⟨more, -, done⟩ := bind_eq_ok.mp done
  exact ⟨found, first, ⟨more, Except.ok.inj done⟩⟩

end Halts

/-! ### All together -/

/-- As long as no halt is requested and nothing is changed, a query deals with all bindings in
lexicographic order, up to the first that settles it or cannot be dealt with. A search for all
bindings that is halted comes to the beginning of what it would have come to. -/
theorem enumerates {restrictions : List Restriction} (wellFormed : WellFormed s.templates restrictions) :
    let B := bindings s restrictions
    (∀ (test : Test N ρ ν) judge noted (act : Act N ρ ν) outcome marked,
      Neutral test judge noted → Neutral act outcome marked →
      ∀ w, w.store = s → Unhalted s →
        let fails (x : Binding) := !(judge s x).isOk
        let settles (x : Binding) := (judge s x).toOption != some false
        let perform (x : Binding) := outcome (pinned s x) x
        let deal := deal judge outcome s
        findAll test restrictions w =
            .ok ((B.filterM (judge s)).mapError .evaluation)
              (after noted marked w ((upTo fails B).map .test)) ∧
          findFirst test restrictions w =
            .ok ((B.findM? (judge s)).mapError .evaluation)
              (after noted marked w ((upTo settles B).map .test)) ∧
          any test restrictions w =
            .ok ((B.anyM (judge s)).mapError .evaluation)
              (after noted marked w ((upTo settles B).map .test)) ∧
          doForFirst test act restrictions w =
            .ok ((B.anyM deal).mapError .evaluation) (after noted marked w
              ((upTo (fun x => (deal x).toOption != some false) B).flatMap (callsFor (judge s)))) ∧
          doForAll test act restrictions w =
            .ok (((B.filterM deal).map List.length).mapError .evaluation) (after noted marked w
              ((upTo (fun x => !(deal x).isOk) B).flatMap (callsFor (judge s)))) ∧
          delayedDoForAll test act restrictions w =
            .ok ((do
                let found ← B.filterM (judge s)
                found.forM perform
                return found.length).mapError .evaluation)
              (after noted marked w ((upTo fails B).map .test ++
                (upTo (fun x => !(perform x).isOk) ((B.filterM (judge s)).toOption.getD [])).map .act))) ∧
    ∀ (test : Test N ρ ν) judge, Unheeding test judge → ∀ w, SameButHalt s w.store →
      ∃ front w', front <+: B ∧
        findAll test restrictions w = .ok ((front.filterM (judge s)).mapError .evaluation) w' ∧
        ∀ all, B.filterM (judge s) = .ok all →
          ∃ found, front.filterM (judge s) = .ok found ∧ found <+: all := by
  intro B
  refine ⟨?_, fun test judge unheeding w same => ?_⟩
  · intro test judge noted act outcome marked tests acts w same unhalted fails settles perform deal
    subst same
    exact ⟨findAll_eq unhalted wellFormed tests marked, findFirst_eq unhalted wellFormed tests marked,
      any_eq unhalted wellFormed tests marked, doForFirst_eq unhalted wellFormed tests acts,
      doForAll_eq unhalted wellFormed tests acts, delayedDoForAll_eq unhalted wellFormed tests acts⟩
  · obtain ⟨r, w', ran, front, isFront, rfl⟩ :=
      ensures_exists (ensures_findAll_gathers wellFormed unheeding same)
    exact ⟨front, w', isFront, ran, fun all done => filterM_prefix isFront done⟩

/-- Two lamps are paired with another lamp or a bulb. The action runs on the first pair only; of all
pairs, the first are found if a halt is requested before the fifth look. -/
theorem enumerates_lamps :
    let quiet : Hooks MatchCounter (Memo Unit) (Store MatchCounter) := fun _ _ => pure ()
    let lamps : Process MatchCounter (Memo Unit) (Store MatchCounter) Unit := do
      let _ ← ask quiet (.assertOrdered "lamp" [.integer 1])
      let _ ← ask quiet (.assertOrdered "lamp" [.integer 2])
      let _ ← ask quiet (.assertOrdered "bulb" [.integer 1])
      let _ ← look
    let restrictions : List Restriction := [⟨"x", ["lamp"]⟩, ⟨"y", ["lamp", "bulb"]⟩]
    let call (c : Call) : Process MatchCounter (List Call) Unit Unit :=
      modify fun w => { w with host := w.host ++ [c] }
    let test : Test MatchCounter (List Call) Unit := fun x => do
      call (.test x)
      return .ok (x.lookup "x" != x.lookup "y")
    let act : Act MatchCounter (List Call) Unit := fun x => do
      call (.act x)
      return .ok ()
    let pair (h k : Handle) : Binding := [("x", h), ("y", k)]
    ∃ s ∈ (lamps.aftermath (outset (Store.fresh {} {} fun _ _ => 0) ())).looks,
      doForFirst test act restrictions { store := s, host := [] } =
        .ok (.ok true) { store := s, host := [.test (pair ⟨0, 0⟩ ⟨0, 0⟩),
          .test (pair ⟨0, 0⟩ ⟨1, 0⟩), .act (pair ⟨0, 0⟩ ⟨1, 0⟩)] } ∧
      findAll test restrictions { store := s, host := [] } =
        .ok (.ok [pair ⟨0, 0⟩ ⟨1, 0⟩, pair ⟨0, 0⟩ ⟨2, 0⟩, pair ⟨1, 0⟩ ⟨0, 0⟩, pair ⟨1, 0⟩ ⟨2, 0⟩])
          { store := s, host := (bindings s restrictions).map .test } ∧
      ∃ found w', found <+: [pair ⟨0, 0⟩ ⟨1, 0⟩, pair ⟨0, 0⟩ ⟨2, 0⟩, pair ⟨1, 0⟩ ⟨0, 0⟩,
          pair ⟨1, 0⟩ ⟨2, 0⟩] ∧
        findAll test restrictions { store := { s with
            probe := { s.probe with interrupts := [false, false, false, false, true] } }, host := [] } =
          .ok (.ok found) w' := by
  intro quiet lamps restrictions call test act pair
  let judge (_ : Store MatchCounter) (x : Binding) : Except EvalError Bool :=
    .ok (x.lookup "x" != x.lookup "y")
  let called (c : Binding → Call) (x : Binding) (w : World MatchCounter (List Call) Unit) :=
    { w with host := w.host ++ [c x] }
  have tests : Neutral test judge (called .test) := ⟨fun _ _ => rfl, fun _ _ => rfl⟩
  have acts : Neutral act (fun _ _ => .ok ()) (called .act) := ⟨fun _ _ => rfl, fun _ _ => rfl⟩
  have told : ((lamps.aftermath (outset (Store.fresh {} {} fun _ _ => 0) ())).looks[0]?).any
      (fun s => s.isHalted == false && s.probe.interrupts == [] &&
        restrictions.all (fun x => x.templates.all fun name => (s.templates.find? name).isSome) &&
        bindings s restrictions == [pair ⟨0, 0⟩ ⟨0, 0⟩, pair ⟨0, 0⟩ ⟨1, 0⟩, pair ⟨0, 0⟩ ⟨2, 0⟩,
          pair ⟨1, 0⟩ ⟨0, 0⟩, pair ⟨1, 0⟩ ⟨1, 0⟩, pair ⟨1, 0⟩ ⟨2, 0⟩]) = true := by decide +kernel
  obtain ⟨s, found, holds⟩ := (Option.any_eq_true _ _).mp told
  simp only [Bool.and_eq_true, beq_iff_eq, List.all_eq_true] at holds
  obtain ⟨⟨⟨halted, interrupts⟩, defined⟩, all⟩ := holds
  have wellFormed : WellFormed s.templates restrictions :=
    ⟨by simp [restrictions], by decide, by decide, defined⟩
  have unheeding : Unheeding test judge := ⟨fun x w => ⟨_, rfl, rfl⟩, fun _ _ => rfl⟩
  obtain ⟨unhalted, halts⟩ := enumerates wellFormed
  obtain ⟨findAll, -, -, doForFirst, -⟩ := unhalted test judge (called .test) act
    (fun _ _ => .ok ()) (called .act) tests acts { store := s, host := [] } rfl ⟨halted, interrupts⟩
  refine ⟨s, List.mem_of_getElem? found, doForFirst.trans ?_, findAll.trans ?_, ?_⟩
  · rw [all]
    rfl
  · rw [all]
    rfl
  · obtain ⟨front, w', -, ran, first⟩ := halts test judge unheeding { store := { s with
      probe := { s.probe with interrupts := [false, false, false, false, true] } }, host := [] } rfl
    rw [all] at first
    obtain ⟨some, done, isFront⟩ := first _ rfl
    rw [done] at ran
    exact ⟨some, w', isFront, ran⟩

end FactBase.Query

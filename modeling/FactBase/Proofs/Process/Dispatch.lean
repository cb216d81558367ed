import FactBase.Proofs.Process.Attention

/-!
# The course of events

Whatever clients, listeners and queries ask of a fact base, it is known at any time who listens: the
registry is the roll of the calls so far, ranked. An event is told to those who are registered when it
occurs, each once, but for those that are running further up. What the listeners change about the
registry meanwhile concerns later events.
-/

namespace FactBase

open Store Process ListenerRegistry

variable {N τ α : Type} [JoinNetwork N] {running : List ListenerId}
  {w : World N (Memo (Book (List Enrolment) τ)) (Store N)}
  {hooks : Hooks N (Memo (Book (List Enrolment) τ)) (Store N)}

/-! ### Requests -/

/-- When a request is answered, the calls that it makes by itself have been made. -/
theorem ensures_perform_enrolled (heeds : Heeds hooks) (r : Request α)
    (enrolled : w.Enrolled running []) :
    Ensures (r.perform hooks) w (fun _ => World.Enrolled running r.enrolments)
      fun w' => ∃ others, w'.Enrolled others [] := by
  have plain {p : Keeping N (List Enrolment) τ α} (minds : Minds p) :
      Ensures p w (fun _ => World.Enrolled running []) fun w' => ∃ others, w'.Enrolled others [] :=
    minds running w enrolled
  cases r with
  | createFact => exact plain (minds_step fun _ _ _ => listeners_createFact)
  | createOrdered => exact plain (minds_step fun _ _ _ => listeners_createOrdered)
  | putSlot => exact plain (minds_attemptChange fun _ _ => listeners_putSlot)
  | putSlotAt => exact plain (minds_attemptChange fun _ _ => listeners_putSlotAt)
  | discard => exact plain (minds_step fun _ _ _ => listeners_discard)
  | assertAt h position => exact plain (minds_assertAt heeds h position)
  | assertOrdered relation values => exact plain (minds_assertOrdered heeds relation values)
  | retract h => exact plain (minds_retract heeds h)
  | retractAll rounds => exact plain (minds_retractAll heeds rounds)
  | clear rounds => exact plain (minds_clear heeds rounds)
  | modify h changes => exact plain (minds_modifyFact heeds h changes)
  | duplicate h changes => exact plain (minds_duplicateFact heeds h changes)
  | collectGarbage => exact plain (minds_step fun _ _ _ => listeners_collectGarbage)
  | retain => exact plain (minds_attemptChange fun _ _ => listeners_retain)
  | release => exact plain (minds_step fun _ _ _ => listeners_release)
  | install => exact plain (minds_attemptChange fun _ _ => listeners_install)
  | deinstall => exact plain (minds_step fun _ _ _ => listeners_deinstall)
  | makeBuilder => exact plain (minds_attempt fun _ _ _ => listeners_makeBuilder)
  | commitBuilder builder => exact plain (minds_commitBuilder heeds builder)
  | makeModifier => exact plain (minds_attempt fun _ _ _ => listeners_makeModifier)
  | commitModifier m => exact plain (minds_commitModifier heeds m)
  | abortModifier m => exact plain (minds_unpinModifier m)
  | addPattern =>
    refine plain (minds_bind (minds_step fun _ _ _ done => ?_) fun x =>
      minds_bind (minds_notifyAll x.2) fun _ => minds_pure _)
    exact listeners_addPattern (addPattern_eq_ok done)
  | removePattern => exact plain (minds_attemptChange fun _ _ => listeners_removePattern)
  | replayNewPatterns =>
    refine plain (minds_bind (minds_step fun _ _ _ done => ?_) fun x =>
      minds_bind (minds_notifyAll x.2) fun _ => minds_pure _)
    exact listeners_replayAll (replayNewPatterns_eq_ok done)
  | defineTemplate => exact plain (minds_attempt fun _ _ _ => listeners_defineTemplate)
  | undefineTemplate => exact plain (minds_attemptChange fun _ _ => listeners_undefineTemplate)
  | impliedTemplate =>
    refine plain (minds_attempt fun _ _ _ done => ?_)
    obtain ⟨x, -, same⟩ := map_eq_ok.mp done
    obtain ⟨rfl, rfl⟩ := Prod.mk.inj same
    rfl
  | defineModule | setCurrentModule =>
    refine plain (minds_attemptChange fun _ _ done => ?_)
    obtain ⟨x, -, rfl⟩ := map_eq_ok.mp done
    rfl
  | drawDefault t position =>
    refine plain (minds_step fun s _ _ done => ?_)
    have drawn := listeners_drawDefault s t position
    rw [Except.ok.inj done] at drawn
    exact drawn
  | addListener name priority =>
    have called := enrolled.enrol (.add name priority)
    refine ensures_attempt (fun id s done => ?_) fun e refused => ?_
    · obtain ⟨x, added, same⟩ := map_eq_ok.mp done
      obtain ⟨rfl, rfl⟩ := Prod.mk.inj same
      rw [enrol_of_added added] at called
      exact called
    · rw [enrol_of_refused (map_eq_error.mp refused)] at called
      exact called
  | removeListener name =>
    have called := enrolled.enrol (.remove name)
    refine ensures_step (fun found s done => ?_) fun b failed => by cases failed
    obtain ⟨rfl, rfl⟩ := Prod.mk.inj (Except.ok.inj done)
    exact called
  | dropBuilder | intern | setAllowDuplicates | setProbe | clearEvaluationError =>
    unfold Request.perform
    exact plain (minds_update fun _ => rfl)

/-- The calls that a request has made by itself are taken down once it is answered. -/
theorem minds_keep (heeds : Heeds hooks) (r : Request α) : Minds (keep (enrolmentRules N) hooks r) := by
  intro running w enrolled
  unfold keep
  refine ensures_bind (ensures_getStore (ensures_bind (ensures_consult ?_)))
  split
  · refine ensures_bind (ensures_note (ensures_bind (ensures_ask ?_ fun _ => ?_)))
    · exact ensures_bind (ensures_note (ensures_pure (enrolled.same rfl rfl)))
    · refine ensures_mono (ensures_perform_enrolled heeds r (enrolled.same rfl rfl)) ?_
      intro a w' called
      refine ensures_bind (ensures_consult (ensures_bind (ensures_note (ensures_pure ?_))))
      unfold World.Enrolled at called ⊢
      rw [List.append_nil]
      exact called
  · exact ensures_pure enrolled

/-! ### Clients -/

omit [JoinNetwork N] in
theorem acting_minds : Query.Acting fun _ (p : Keeping N (List Enrolment) τ _) => Minds p where
  pure := minds_pure
  bind := minds_bind
  read := fun _ _ enrolled => ensures_getStore enrolled
  poll := minds_getStore fun _ => minds_bind (minds_update fun _ => rfl) fun _ => minds_pure _
  pin h := minds_bind (minds_attemptChange fun _ _ => listeners_retain) fun r => by
    cases r with
    | error e => exact minds_breach _
    | ok u => exact minds_pure ()
  unpin h := minds_bind (minds_step fun _ _ _ => listeners_release) fun r => by
    cases r with
    | error e => exact minds_breach _
    | ok u => exact minds_pure ()

/-- Whatever a client does, the history tells who listens. -/
theorem Inquirer.minds {p : Keeping N (List Enrolment) τ α}
    (inquirer : Inquirer (enrolmentRules N) p) : Minds p := by
  induction inquirer with
  | pure a => exact minds_pure a
  | bind _ _ first rest => exact minds_bind first rest
  | look =>
    exact minds_getStore fun _ => fun _ _ enrolled =>
      ensures_bind (ensures_record (ensures_pure (enrolled.same rfl rfl)))
  | consult => exact fun _ _ enrolled => ensures_consult enrolled
  | jot own =>
    exact fun _ _ enrolled => ensures_bind (ensures_consult (ensures_note (enrolled.same rfl rfl)))
  | giveUp => exact minds_throw _
  | keep _ r heeds => exact minds_keep heeds r
  | query _ _ restrictions mode tests acts => exact acting_minds.run tests acts restrictions mode

/-! ### Events -/

/-- An event is told to those who are registered and not running. -/
structure Told (hooks : Hooks N (Memo (Book (List Enrolment) τ)) (Store N)) (e : Event)
    (w : World N (Memo (Book (List Enrolment) τ)) (Store N)) : Prop where
  /-- Nobody who is registered shares a name with another one. -/
  names : w.store.listeners.names.Nodup
  /-- The audience are those who were registered and not removed since and are not running, in
  descending priority, those of equal priority in the order of their registration. -/
  ranks : Ranks ((Roll.after w.host.notes.ledger).members.filter fun x =>
    !w.store.listeners.running.contains x.id) w.store.listeners.audience
  once : (w.store.listeners.audience.map (·.id)).Nodup
  /-- Telling an event is nothing but the turns of this audience. -/
  turns : signal hooks e w =
    (w.store.listeners.audience.forM (turn hooks e w.store.listeners.running)) w
  /-- When the turn comes to someone, the same listeners are running as at the start, and the calls
  made by the listeners ahead are in the history. So it is when all turns are over. -/
  between : ∀ ahead, ahead <+: w.store.listeners.entries → Ensures (callAll hooks e ahead) w
    (fun _ => World.Enrolled w.store.listeners.running []) fun w' => ∃ others, w'.Enrolled others []

omit [JoinNetwork N] in
theorem told_of_enrolled (heeds : Heeds hooks) (e : Event) (enrolled : w.Enrolled running []) :
    Told hooks e w := by
  have follows := enrolled.follows
  obtain rfl := running_of_enrolled enrolled
  exact ⟨follows.names, follows.ranks_audience, follows.audience_once,
    callAll_eq heeds e w.store.listeners.entries enrolled,
    fun ahead _ => minds_callAll heeds e ahead _ w enrolled⟩

/-- Whatever a client, its listeners and its queries do, wherever one of them breaks off, the registry
is what the history has made of it, and nobody is running when the client is done. Whoever is
running, an event is told to those who are registered by then and not running. -/
theorem events_told {p : Keeping N (List Enrolment) τ α} (inquirer : Inquirer (enrolmentRules N) p)
    (listeners : ∀ id e, Inquirer (enrolmentRules N) (hooks id e)) (e : Event) (config : Config)
    (network : N) (contentHash : TemplateId → List Value → UInt64) (own : τ) :
    let w := outset (Store.fresh config network contentHash) ⟨[], own⟩
    (∃ running, (p.aftermath w).Enrolled running []) ∧
    (∀ a w', p w = .ok a w' → w'.Enrolled [] []) ∧
    ∀ running (w' : World N (Memo (Book (List Enrolment) τ)) (Store N)),
      w'.Enrolled running [] → Told hooks e w' := by
  intro w
  have minds := inquirer.minds [] w rfl
  refine ⟨ensures_aftermath (ensures_mono minds fun _ _ enrolled => ⟨[], enrolled⟩),
    fun a w' ran => ?_, fun running w' => told_of_enrolled (fun id e => (listeners id e).minds) e⟩
  unfold Ensures at minds
  rw [ran] at minds
  exact minds

/-- When the lamp is switched on, the second listener removes the first one, which still has its turn,
and registers a last one, which has none before the next event. The third one switches the lamp off and
has no turn in the course of that. -/
theorem events_told_lamp :
    let rules := enrolmentRules AlphaMemory
    let calm : Hooks AlphaMemory (Memo (Book (List Enrolment) (List Nat))) (Store AlphaMemory) :=
      fun id _ => do
        let book ← consult
        jot (book.own ++ [id.number])
    let hooks : Hooks AlphaMemory (Memo (Book (List Enrolment) (List Nat))) (Store AlphaMemory) :=
      fun id e => do
        calm id e
        if id = ⟨1⟩ ∧ e = .beforeAssert ⟨0, 0⟩ then
          let _ ← keep rules calm (.removeListener "low")
          let _ ← keep rules calm (.addListener "late" 20)
        if id = ⟨2⟩ ∧ e = .afterAssert ⟨0, 0⟩ then
          let _ ← keep rules calm (.assertOrdered "lamp" [.symbol "off"])
    let lamp : Keeping AlphaMemory (List Enrolment) (List Nat) Unit := do
      let _ ← keep rules hooks (.addListener "low" (-5))
      let _ ← keep rules hooks (.addListener "high" 10)
      let _ ← keep rules hooks (.addListener "mid" 0)
      let _ ← keep rules hooks (.addListener "mid-later" 0)
      let _ ← keep rules hooks (.assertOrdered "lamp" [.symbol "on"])
    let w := outset (Store.fresh {} {} fun _ _ => 0) ⟨[], []⟩
    ∃ a w', lamp w = .ok a w' ∧ w'.Enrolled [] [] ∧ Told hooks (.beforeRetract ⟨0, 0⟩) w' ∧
      (lamp.outcome w).map (fun r => (r.2.host.notes.own, r.2.store.listeners.names)) =
        some ([1, 2, 3, 0, 4, 1, 2, 4, 1, 3, 4, 1, 3, 3], ["late", "high", "mid", "mid-later"]) := by
  intro rules calm hooks lamp w
  have calms (id : ListenerId) (e : Event) : Inquirer rules (calm id e) :=
    .bind .consult fun _ => .jot _
  have changes (id : ListenerId) (e : Event) : Inquirer rules (hooks id e) := by
    refine .bind (calms id e) fun _ => ?_
    extract_lets dim
    have dims (u : Unit) : Inquirer rules (dim u) := by
      unfold dim
      split
      · exact .bind (.keep calms _) fun _ => .pure _
      · exact .pure _
    split
    · exact .bind (.keep calms _) fun _ => .bind (.keep calms _) fun _ => dims ()
    · exact dims ()
  have inquirer : Inquirer rules lamp :=
    .bind (.keep changes _) fun _ => .bind (.keep changes _) fun _ => .bind (.keep changes _) fun _ =>
      .bind (.keep changes _) fun _ => .bind (.keep changes _) fun _ => .pure _
  have ends : (lamp.outcome w).isSome = true := by decide +kernel
  obtain ⟨⟨a, w'⟩, outcome⟩ := Option.isSome_iff_exists.mp ends
  have ran := outcome_eq_some.mp outcome
  obtain ⟨-, idle, told⟩ :=
    events_told inquirer changes (.beforeRetract ⟨0, 0⟩) {} {} (fun _ _ => 0) []
  exact ⟨a, w', ran, idle a w' ran, told [] w' (idle a w' ran), by decide +kernel⟩

end FactBase

import FactBase.Proofs.Listener.Registry
import FactBase.Proofs.Process.Keepers
import FactBase.Proofs.Store.Audience

/-!
# Processes that mind who listens

Operations tell listeners of events, and listeners may register others, remove them and cause
further events. A client keeps a history of the calls that change who listens, as do its listeners.
Whatever they do, the registry is what the history has made of it, and when a process comes to an end
the same listeners are running as at its start.
-/

namespace FactBase

open Store Process ListenerRegistry

variable {N τ α β : Type}

/-! ### The history -/

/-- The calls of the registry that a request makes by itself. -/
def Request.enrolments : Request α → List Enrolment
  | .addListener name priority => [.add name priority]
  | .removeListener name => [.remove name]
  | _ => []

/-- A history of the calls that change who listens. -/
def enrolmentRules (N : Type) : Rules N (List Enrolment) where
  allows _ _ _ := true
  before calls _ _ := calls
  after calls _ r _ := calls ++ r.enrolments

variable {w w' : World N (Memo (Book (List Enrolment) τ)) (Store N)}
  {running : List ListenerId} {pending : List Enrolment}

/-- The registry is what the history and some calls that it does not mention yet have made of it,
and some listeners are running. -/
def World.Enrolled (running : List ListenerId) (pending : List Enrolment)
    (w : World N (Memo (Book (List Enrolment) τ)) (Store N)) : Prop :=
  w.store.listeners =
    { ({} : ListenerRegistry).play (w.host.notes.ledger ++ pending) with running }

theorem World.Enrolled.same (enrolled : w.Enrolled running pending)
    (ledger : w'.host.notes.ledger = w.host.notes.ledger)
    (listeners : w'.store.listeners = w.store.listeners) : w'.Enrolled running pending := by
  unfold World.Enrolled
  rw [ledger, listeners]
  exact enrolled

theorem running_of_enrolled (enrolled : w.Enrolled running pending) :
    w.store.listeners.running = running := congrArg ListenerRegistry.running enrolled

theorem World.Enrolled.run (enrolled : w.Enrolled running pending) (others : List ListenerId) :
    World.Enrolled others pending { w with store := { w.store with
      listeners := { w.store.listeners with running := others } } } := by
  unfold World.Enrolled at enrolled ⊢
  rw [enrolled]

/-- One more call. -/
theorem World.Enrolled.enrol (enrolled : w.Enrolled running []) (call : Enrolment) :
    World.Enrolled running [call] { w with store := { w.store with
      listeners := w.store.listeners.enrol call } } := by
  have played : w.store.listeners.enrol call =
      { (({} : ListenerRegistry).play w.host.notes.ledger).enrol call with running } := by
    rw [World.Enrolled, List.append_nil] at enrolled
    rw [enrolled, enrol_running]
  refine played.trans ?_
  rw [play_append]
  rfl

/-- Who is registered is the roll of the history, ranked. -/
theorem World.Enrolled.follows (enrolled : w.Enrolled running []) :
    w.store.listeners.Follows (Roll.after w.host.notes.ledger) := by
  obtain ⟨ranks, nextId, names, ids, issued⟩ := follows_play w.host.notes.ledger
  unfold World.Enrolled at enrolled
  rw [List.append_nil] at enrolled
  rw [enrolled]
  exact ⟨ranks, nextId, names, ids, issued⟩

/-- A process in the course of which listeners come and go as the history has it, and at whose end the
same are running as at its start. A fault may strike while some are running. -/
def Minds (p : Keeping N (List Enrolment) τ α) : Prop :=
  ∀ running w, w.Enrolled running [] →
    Ensures p w (fun _ => World.Enrolled running []) fun w' => ∃ others, w'.Enrolled others []

section Rules

variable {p : Keeping N (List Enrolment) τ α} {k : α → Keeping N (List Enrolment) τ β}

theorem minds_pure (a : α) : Minds (pure a : Keeping N (List Enrolment) τ α) :=
  fun _ _ enrolled => ensures_pure enrolled

theorem minds_bind (first : Minds p) (rest : ∀ a, Minds (k a)) : Minds (p >>= k) :=
  fun running w enrolled => ensures_bind (ensures_mono (first running w enrolled)
    fun a w' => rest a running w')

theorem minds_getStore {k : Store N → Keeping N (List Enrolment) τ α} (rest : ∀ s, Minds (k s)) :
    Minds (getStore >>= k) :=
  fun running w enrolled => ensures_bind (ensures_getStore (rest w.store running w enrolled))

theorem minds_throw (fault : Fault) : Minds (throw fault : Keeping N (List Enrolment) τ α) :=
  fun _ _ enrolled => ensures_throw ⟨_, enrolled⟩

theorem minds_breach (broken : Breach) : Minds (breach broken : Keeping N (List Enrolment) τ α) :=
  fun _ _ enrolled => ensures_bind (ensures_record (ensures_throw ⟨_, enrolled.same rfl rfl⟩))

theorem minds_step {f : Store N → Except Breach (α × Store N)}
    (steps : ∀ s a s', f s = .ok (a, s') → s'.listeners = s.listeners) :
    Minds (step f : Keeping N (List Enrolment) τ α) := by
  intro running w enrolled
  refine ensures_step (fun a s done => ?_) fun _ _ => ⟨running, enrolled.same rfl rfl⟩
  exact enrolled.same rfl (steps _ a s done)

theorem minds_change {f : Store N → Except Breach (Store N)}
    (steps : ∀ s s', f s = .ok s' → s'.listeners = s.listeners) :
    Minds (change f : Keeping N (List Enrolment) τ Unit) := by
  intro running w enrolled
  refine ensures_change (fun s done => ?_) fun _ _ => ⟨running, enrolled.same rfl rfl⟩
  exact enrolled.same rfl (steps _ s done)

theorem minds_update {f : Store N → Store N} (same : ∀ s, (f s).listeners = s.listeners) :
    Minds (updateStore f : Keeping N (List Enrolment) τ Unit) :=
  fun _ _ enrolled => ensures_updateStore (enrolled.same rfl (same _))

theorem minds_attempt {ε : Type} {f : Store N → Except ε (α × Store N)}
    (steps : ∀ s a s', f s = .ok (a, s') → s'.listeners = s.listeners) :
    Minds (attempt f : Keeping N (List Enrolment) τ (Except ε α)) := by
  intro running w enrolled
  refine ensures_attempt (fun a s done => ?_) fun _ _ => enrolled
  exact enrolled.same rfl (steps _ a s done)

theorem minds_attemptChange {ε : Type} {f : Store N → Except ε (Store N)}
    (steps : ∀ s s', f s = .ok s' → s'.listeners = s.listeners) :
    Minds (attemptChange f : Keeping N (List Enrolment) τ (Except ε Unit)) := by
  intro running w enrolled
  refine ensures_attemptChange (fun s done => ?_) fun _ _ => enrolled
  exact enrolled.same rfl (steps _ s done)

theorem minds_notify (n : Notice) : Minds (notify n : Keeping N (List Enrolment) τ Unit) :=
  fun _ _ enrolled => ensures_record (enrolled.same rfl rfl)

theorem minds_notifyAll (ns : List Notice) :
    Minds (notifyAll ns : Keeping N (List Enrolment) τ Unit) :=
  fun _ _ enrolled => ensures_notifyAll (enrolled.same rfl rfl)

/-- A choice between two answers. -/
theorem minds_ite {c : Prop} [Decidable c] {p q : Keeping N (List Enrolment) τ α}
    (first : Minds p) (second : Minds q) : Minds (if c then p else q) := by
  split
  · exact first
  · exact second

end Rules

/-! ### Telling listeners -/

section Telling

variable {hooks : Hooks N (Memo (Book (List Enrolment) τ)) (Store N)}

/-- Listeners that mind who listens. -/
def Heeds (hooks : Hooks N (Memo (Book (List Enrolment) τ)) (Store N)) : Prop :=
  ∀ id e, Minds (hooks id e)

/-- A listener's turn, while others are running. -/
def Process.turn {ρ ν : Type} (hooks : Hooks N ρ ν) (e : Event) (running : List ListenerId)
    (r : Registration) : Process N ρ ν Unit := do
  setRunning (r.id :: running)
  hooks r.id e
  setRunning running

/-- After its turn, the listeners are running that were running before. -/
theorem minds_turn (heeds : Heeds hooks) (e : Event) (enrolled : w.Enrolled running [])
    (r : Registration) : Ensures (turn hooks e running r) w (fun _ => World.Enrolled running [])
      fun w' => ∃ others, w'.Enrolled others [] := by
  refine ensures_bind (ensures_updateStore ?_)
  refine ensures_bind (ensures_mono (heeds r.id e _ _ (enrolled.run (r.id :: running))) ?_)
  exact fun _ w' after => ensures_updateStore (after.run running)

theorem callAll_of_running {ρ ν : Type} {hooks : Hooks N ρ ν} {w : World N ρ ν} {r : Registration}
    (busy : w.store.listeners.running.contains r.id = true) (e : Event)
    (rest : List Registration) : callAll hooks e (r :: rest) w = callAll hooks e rest w := by
  rw [callAll, getStore_bind]
  dsimp only
  rw [if_pos busy]

theorem callAll_of_idle {ρ ν : Type} {hooks : Hooks N ρ ν} {w : World N ρ ν} {r : Registration}
    (idle : w.store.listeners.running.contains r.id = false) (e : Event)
    (rest : List Registration) : callAll hooks e (r :: rest) w =
      (turn hooks e w.store.listeners.running r >>= fun _ => callAll hooks e rest) w := by
  rw [callAll, getStore_bind]
  dsimp only
  rw [if_neg (by rw [idle]; exact Bool.false_ne_true)]
  simp only [turn, bind_assoc]

theorem minds_callAll (heeds : Heeds hooks) (e : Event) (rs : List Registration) :
    Minds (callAll hooks e rs) := by
  induction rs with
  | nil => exact minds_pure ()
  | cons r rest ih =>
    intro running w enrolled
    unfold Ensures
    cases busy : w.store.listeners.running.contains r.id with
    | true =>
      rw [callAll_of_running busy]
      exact ih running w enrolled
    | false =>
      rw [callAll_of_idle busy, running_of_enrolled enrolled]
      exact ensures_bind (ensures_mono (minds_turn heeds e enrolled r) fun _ w' => ih running w')

theorem minds_signal (heeds : Heeds hooks) (e : Event) : Minds (signal hooks e) :=
  minds_getStore fun s => minds_callAll heeds e s.listeners.entries

/-- Turns are taken by those that are not running further up, one after the other. -/
theorem callAll_eq (heeds : Heeds hooks) (e : Event) (rs : List Registration)
    (enrolled : w.Enrolled running []) : callAll hooks e rs w =
      ((rs.filter fun r => !running.contains r.id).forM (turn hooks e running)) w := by
  induction rs generalizing w with
  | nil => rfl
  | cons r rest ih =>
    cases busy : running.contains r.id with
    | true =>
      rw [callAll_of_running (by rw [running_of_enrolled enrolled, busy]), List.filter_cons_of_neg (by rw [busy]; exact Bool.false_ne_true)]
      exact ih enrolled
    | false =>
      rw [callAll_of_idle (by rw [running_of_enrolled enrolled, busy]), List.filter_cons_of_pos (by rw [busy]; rfl),
        running_of_enrolled enrolled]
      change _ = (turn hooks e running r >>= fun _ => List.forM _ (turn hooks e running)) w
      have taken := minds_turn heeds e enrolled r
      unfold Ensures at taken
      cases ran : turn hooks e running r w with
      | error f w' => rw [bind_of_error ran, bind_of_error ran]
      | ok _ w' =>
        rw [ran] at taken
        rw [bind_of_ok ran, bind_of_ok ran]
        exact ih taken

end Telling

/-! ### Operations -/

section Operations

variable {hooks : Hooks N (Memo (Book (List Enrolment) τ)) (Store N)}

theorem minds_refuse (operation : GuardedOperation) :
    Minds (refuse operation : Keeping N (List Enrolment) τ Unit) :=
  minds_bind (minds_update fun _ => rfl) fun _ => minds_notify _

theorem minds_rejectDuplicate (h : Handle) :
    Minds (rejectDuplicate h : Keeping N (List Enrolment) τ Unit) :=
  minds_bind (minds_change fun _ _ => listeners_free) fun _ => minds_update fun _ => rfl

theorem minds_maybeCollect :
    Minds (change (·.maybeCollect) : Keeping N (List Enrolment) τ Unit) :=
  minds_change fun _ _ => listeners_maybeCollect

theorem minds_lending {p : Keeping N (List Enrolment) τ α} (minds : Minds p) :
    Minds (lending p) := by
  unfold lending
  refine minds_getStore fun s => minds_bind (minds_update fun _ => rfl) fun _ => ?_
  exact minds_bind minds fun a => minds_bind (minds_update fun _ => rfl) fun _ => minds_pure a

variable [JoinNetwork N]

theorem minds_matchAsserted (h : Handle) :
    Minds (matchAsserted h : Keeping N (List Enrolment) τ Bool) :=
  minds_bind (minds_step fun _ _ _ => listeners_matchFact)
    fun o => minds_bind (minds_notifyAll o.notices) fun _ => minds_pure _

theorem minds_detach (h : Handle) :
    Minds (Process.detach h : Keeping N (List Enrolment) τ Detached) :=
  minds_bind (minds_step fun _ _ _ => listeners_detach)
    fun d => minds_bind (minds_notifyAll d.notices) fun _ => minds_pure _

theorem minds_assertAt (heeds : Heeds hooks) (h : Handle) (position : Position) :
    Minds (assertAt hooks h position) := by
  unfold assertAt
  refine minds_getStore fun s => ?_
  split
  · exact minds_pure _
  · refine minds_ite (minds_pure _) (minds_ite (minds_pure _) (minds_ite ?_ ?_))
    · exact minds_bind (minds_refuse .assert) fun _ => minds_pure _
    · split
      · exact minds_pure _
      · dsimp only
        split
        · exact minds_bind (minds_rejectDuplicate h) fun _ => minds_pure _
        · refine minds_bind (minds_step fun _ _ _ => listeners_attach) fun index => ?_
          refine minds_bind (minds_update fun _ => rfl) fun _ => ?_
          refine minds_bind (minds_update fun _ => rfl) fun _ => ?_
          refine minds_bind (minds_signal heeds _) fun _ => ?_
          refine minds_bind (minds_matchAsserted h) fun failed => ?_
          refine minds_bind (minds_update fun _ => rfl) fun _ => ?_
          refine minds_bind (minds_signal heeds _) fun _ => ?_
          exact minds_bind minds_maybeCollect fun _ => minds_pure _

theorem minds_assertOrdered (heeds : Heeds hooks) (relation : String) (values : List Value) :
    Minds (assertOrdered hooks relation values) := by
  unfold assertOrdered
  refine minds_bind (minds_step fun _ _ _ => listeners_createOrdered) fun r => ?_
  split
  · exact minds_pure _
  · refine minds_bind (minds_assertAt heeds _ _) fun r => ?_
    split
    · exact minds_pure _
    · refine minds_getStore fun s => minds_ite ?_ (minds_pure _)
      exact minds_bind (minds_change fun _ _ => listeners_free) fun _ => minds_pure _

theorem minds_retract (heeds : Heeds hooks) (h : Handle) : Minds (retract hooks h) := by
  unfold retract
  refine minds_getStore fun s => ?_
  split
  · exact minds_pure _
  · refine minds_ite (minds_pure _) (minds_ite (minds_pure _) (minds_ite ?_ ?_))
    · exact minds_bind (minds_refuse .retract) fun _ => minds_pure _
    · refine minds_bind (minds_update fun _ => rfl) fun _ => ?_
      refine minds_bind (minds_signal heeds _) fun _ => minds_bind (minds_detach h) fun d => ?_
      refine minds_bind (minds_update fun _ => rfl) fun _ => ?_
      refine minds_bind (minds_signal heeds _) fun _ => ?_
      exact minds_bind minds_maybeCollect fun _ => minds_pure _

theorem minds_retractAll (heeds : Heeds hooks) (rounds : Nat) :
    Minds (retractAll hooks rounds) := by
  induction rounds with
  | zero => exact minds_throw _
  | succ rounds ih =>
    unfold retractAll
    refine minds_getStore fun s => ?_
    split
    · exact minds_pure _
    · refine minds_bind (minds_retract heeds _) fun r => ?_
      split
      · exact minds_pure _
      · refine minds_bind ih fun r => ?_
        split <;> exact minds_pure _

theorem minds_clear (heeds : Heeds hooks) (rounds : Nat) : Minds (clear hooks rounds) := by
  unfold clear
  refine minds_bind (minds_retractAll heeds rounds) fun r => ?_
  split
  · exact minds_pure _
  · refine minds_bind (minds_step fun _ _ _ => listeners_collectGarbage) fun _ => ?_
    refine minds_getStore fun s => minds_ite ?_ (minds_pure _)
    exact minds_bind (minds_update fun _ => rfl) fun _ => minds_pure _

theorem minds_replaceFact (heeds : Heeds hooks) (h : Handle) (f : Fact) (fields : List Field) :
    Minds (replaceFact hooks h f fields) := by
  unfold replaceFact
  refine minds_bind (minds_step fun _ _ _ => listeners_createWith) fun replacement => ?_
  refine minds_getStore fun s => ?_
  extract_lets copy hash duplicate
  clear_value duplicate
  refine minds_bind (minds_update fun _ => rfl) fun _ => ?_
  refine minds_bind (minds_signal heeds _) fun _ => minds_bind (minds_detach h) fun d => ?_
  extract_lets finish
  have finishes (x : Handle × Bool) : Minds (finish x) := by
    refine minds_bind (minds_update fun _ => rfl) fun _ => ?_
    refine minds_bind (minds_update fun _ => rfl) fun _ => ?_
    refine minds_bind (minds_signal heeds _) fun _ => ?_
    exact minds_bind minds_maybeCollect fun _ => minds_pure _
  cases duplicate with
  | some existing => exact minds_bind (minds_rejectDuplicate _) fun _ => finishes (existing, false)
  | none =>
    refine minds_bind (minds_step fun _ _ _ => listeners_attach) fun _ => ?_
    exact minds_bind (minds_matchAsserted _) fun failed => finishes (replacement, failed)

theorem minds_modifyFact (heeds : Heeds hooks) (h : Handle) (changes : List (Nat × Value)) :
    Minds (modifyFact hooks h changes) := by
  unfold modifyFact
  refine minds_getStore fun s => ?_
  split
  · exact minds_pure _
  · refine minds_ite (minds_pure _) (minds_ite ?_ (minds_lending (minds_replaceFact heeds _ _ _)))
    exact minds_bind (minds_refuse .modify) fun _ => minds_pure _

theorem minds_duplicateFact (heeds : Heeds hooks) (h : Handle) (changes : List (Nat × Value)) :
    Minds (duplicateFact hooks h changes) := by
  unfold duplicateFact
  refine minds_getStore fun s => ?_
  split
  · exact minds_pure _
  · refine minds_ite ?_ (minds_lending ?_)
    · exact minds_bind (minds_refuse .duplicate) fun _ => minds_pure _
    · refine minds_bind (minds_step fun _ _ _ => listeners_createWith) fun copy => ?_
      refine minds_bind (minds_assertAt heeds copy .tail) fun r => ?_
      split <;> exact minds_pure _

theorem minds_commitBuilder (heeds : Heeds hooks) (b : Builder) : Minds (b.commit hooks) := by
  unfold Builder.commit
  intro running w enrolled
  refine ensures_bind (ensures_getStore ?_)
  split
  · exact ensures_pure enrolled
  · split
    · exact ensures_pure enrolled
    · have drawn : World.Enrolled running [] { w with store := (b.fields
          (b.template.slots.zip b.staged).zipIdx w.store).2 } :=
        enrolled.same rfl (listeners_builderFields b _ w.store)
      refine ensures_bind (ensures_setStore ?_)
      split
      · exact ensures_pure drawn
      · refine minds_bind (minds_step fun _ _ _ => listeners_createWith) (fun h => ?_) _ _ drawn
        refine minds_bind (minds_assertAt heeds h .tail) fun r => ?_
        split <;> exact minds_pure _

omit [JoinNetwork N] in
theorem minds_unpinModifier (m : Modifier) :
    Minds (m.unpin : Keeping N (List Enrolment) τ _) := by
  unfold Modifier.unpin
  refine minds_bind (minds_step fun _ _ _ => listeners_release) fun r => ?_
  split <;> exact minds_pure _

theorem minds_commitModifier (heeds : Heeds hooks) (m : Modifier) : Minds (m.commit hooks) := by
  unfold Modifier.commit
  refine minds_bind (minds_unpinModifier m) fun r => ?_
  split
  · exact minds_pure _
  · exact minds_ite (minds_pure _) (minds_modifyFact heeds m.fact m.changes)

end Operations

end FactBase

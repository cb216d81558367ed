import FactBase.Proofs.Memory.Follows
import FactBase.Proofs.Process.Requests

/-!
# Clients that record their patterns

A recorder takes down which entries are live: it enters a pattern when it is added and strikes it
out when it is removed. Its notes are only there to be reasoned about. Listeners may change patterns
and record that too; while a fact is pending they must not replay.
-/

namespace FactBase

open Store Process PatternTree

/-- A process of a client whose notes are the live entries. -/
abbrev Recording := Process AlphaMemory (Memo Ledger) (Store AlphaMemory)

variable {α : Type}

namespace Request

/-- The live entries after a request was answered. -/
def ledger : {α : Type} → Request α → α → Ledger → Ledger
  | _, .addPattern p _, .ok id, L => L ++ [(id, p)]
  | _, .removePattern id, .ok (), L => L.filter (·.1 != id)
  | _, _, _, L => L

def ChangesPatterns : Request α → Prop
  | .addPattern _ _ | .removePattern _ | .replayNewPatterns => True
  | _ => False

/-- Whether a request replays facts, which adding a pattern does with incremental reset. -/
def Replays (incremental : Bool) : Request α → Prop
  | .addPattern _ _ => incremental = true
  | .replayNewPatterns => True
  | _ => False

/-- Requests that neither exchange predicates nor request a halt. -/
def KeepsQuiet : Request α → Prop
  | .setProbe change => ∀ q : Probe, q.Quiet →
      (change q).Quiet ∧ (change q).predicates.rules = q.predicates.rules
  | _ => True

/-- Other requests leave the live entries as they are. -/
theorem ledger_eq_self {r : Request α} (other : ¬ r.ChangesPatterns) (a : α) (L : Ledger) :
    r.ledger a L = L := by
  cases r with
  | addPattern | removePattern => exact absurd trivial other
  | _ => rfl

end Request

/-- Makes a request and records what it changes of the live entries. -/
def enter (hooks : Hooks AlphaMemory (Memo Ledger) (Store AlphaMemory)) (r : Request α) :
    Recording (Option α) := do
  let a ← ask hooks r
  match a with
  | none => return none
  | some a =>
    note (r.ledger a (← consult))
    return some a

/-- Listeners that do nothing. -/
def idle : Hooks AlphaMemory (Memo Ledger) (Store AlphaMemory) := fun _ _ => pure ()

/-- What listeners may do that change patterns. -/
inductive Patterning (ok : (α : Type) → Request α → Prop) : {α : Type} → Recording α → Prop
  | pure {α : Type} (a : α) : Patterning ok (pure a)
  | bind {α β : Type} {p : Recording α} {k : α → Recording β} (first : Patterning ok p)
      (rest : ∀ a, Patterning ok (k a)) : Patterning ok (p >>= k)
  | look : Patterning ok look
  | consult : Patterning ok consult
  | giveUp {α : Type} : Patterning ok (throw .nesting : Recording α)
  | enter {α : Type} (r : Request α) (changes : r.ChangesPatterns) (allowed : ok α r) :
      Patterning ok (enter idle r)

/-- No listener does anything. -/
def Unheard (hooks : Hooks AlphaMemory (Memo Ledger) (Store AlphaMemory)) : Prop := hooks = idle

/-- Listeners that change patterns whenever they like. -/
def Meddling (hooks : Hooks AlphaMemory (Memo Ledger) (Store AlphaMemory)) : Prop :=
  ∀ id e, Patterning (fun _ _ => True) (hooks id e)

/-- Listeners that change patterns, but do not replay while a fact is pending. -/
def Patient (incremental : Bool)
    (hooks : Hooks AlphaMemory (Memo Ledger) (Store AlphaMemory)) : Prop :=
  ∀ id e, Patterning (fun _ r => (∃ h, e = .beforeAssert h) → ¬ r.Replays incremental) (hooks id e)

/-- Clients that record the live entries and whose listeners are of a kind. -/
inductive Recorder (kind : Hooks AlphaMemory (Memo Ledger) (Store AlphaMemory) → Prop) :
    {α : Type} → Recording α → Prop
  | pure {α : Type} (a : α) : Recorder kind (pure a)
  | bind {α β : Type} {p : Recording α} {k : α → Recording β} (first : Recorder kind p)
      (rest : ∀ a, Recorder kind (k a)) : Recorder kind (p >>= k)
  | look : Recorder kind look
  | consult : Recorder kind consult
  | giveUp {α : Type} : Recorder kind (throw .nesting : Recording α)
  | enter {α : Type} {hooks : Hooks AlphaMemory (Memo Ledger) (Store AlphaMemory)}
      (listeners : kind hooks) (r : Request α) (quiet : r.KeepsQuiet) :
      Recorder kind (enter hooks r)

/-- The memory follows the entries that a client recorded. -/
abbrev Followed (probe : Probe) (incremental : Bool) : Condition AlphaMemory Ledger where
  holds pending L s := s.Follows probe incremental pending L
  past L s := ∃ pending, s.Follows probe incremental pending L
  passes follows := ⟨_, follows⟩
  excuses _ := True

variable {probe : Probe} {incremental : Bool} {pending : Option Handle}
  {w : World AlphaMemory (Memo Ledger) (Store AlphaMemory)}
  {hooks : Hooks AlphaMemory (Memo Ledger) (Store AlphaMemory)}

theorem robust_followed : Robust (Followed probe incremental) where
  chore follows reached chore := follows.aloof (chore.aloof reached.sound)
  detach follows reached done := follows.detach reached.sound done
  attach follows _ found unattached numbered _ _ attaches _ :=
    follows.attach found unattached numbered attaches
  matchFact follows _ _ done := follows.matchFact done
  release follows _ done := follows.aloof (aloof_release done)
  deinstall follows _ done := follows.aloof (aloof_deinstall done)

theorem upheld_followed : Upheld (Followed probe incremental) := robust_followed.upheld

theorem upheldFrom_followed {r : Request α} (start : Store AlphaMemory)
    (other : ¬ r.ChangesPatterns) (keeps : r.KeepsQuiet) :
    r.UpheldFrom start (Followed probe incremental) := by
  refine robust_followed.upheldFrom r start fun governs _ => ?_
  cases r with
  | clear =>
    exact fun _ _ follows _ _ _ => follows.aloof (.of_facts_eq rfl rfl rfl rfl rfl)
  | addPattern | removePattern | replayNewPatterns => exact absurd trivial other
  | setAllowDuplicates allowed =>
    intro L s follows _
    exact ⟨follows.toTracked.unnoticed (fun _ => .refl _) follows.sound rfl rfl rfl, follows.quiet,
      follows.settled, follows.reset⟩
  | setProbe change =>
    intro L s follows _
    obtain ⟨quiet, rules⟩ := keeps s.probe follows.quiet
    exact ⟨follows.toTracked.unnoticed (fun _ => .refl _) follows.sound rfl rfl rules, quiet,
      follows.settled, follows.reset⟩
  | _ => exact governs.elim

/-! ### Changes of patterns -/

/-- The world once the answer to a request is recorded. -/
def recorded (r : Request α) (a : α) (w : World AlphaMemory (Memo Ledger) (Store AlphaMemory)) :
    World AlphaMemory (Memo Ledger) (Store AlphaMemory) :=
  { w with host := { w.host with notes := r.ledger a w.host.notes } }

/-- A change of patterns leads to a fact base whose memory follows the entries live then. -/
theorem ensures_changePatterns (stepwise : Stepwise (Followed probe incremental) pending w)
    (r : Request α) (changes : r.ChangesPatterns)
    (patient : pending = none ∨ ¬ r.Replays incremental) :
    Ensures (r.perform hooks) w (fun a w' => w'.host = w.host ∧
      Seen (Followed probe incremental) (recorded r a w') ∧ w'.store.Reached ∧
      Leaves [] w.store w'.store ∧ SameGuard w w' ∧
      w'.store.Follows probe incremental pending (r.ledger a w.host.notes))
      (Seen (Followed probe incremental)) := by
  have sound := stepwise.reachable.sound
  have follows : w.store.Follows probe incremental pending w.host.notes := stepwise.holds
  have seen {a : α} {s : Store AlphaMemory} (path : Path w.store s)
      (follows : s.Follows probe incremental pending (r.ledger a w.host.notes)) :
      Seen (Followed probe incremental) (recorded r a { w with store := s }) :=
    stepwise.seen.go rfl path ⟨pending, follows⟩
  cases r with
  | addPattern p label =>
    refine ensures_bind (ensures_step (fun r s done => ?_) fun b failed =>
      stepwise.fail (.addPattern (map_eq_error.mp failed)))
    have added := addPattern_eq_ok done
    have move := Move.addPattern added
    have cases : (∃ e, r.1 = .error e ∧ s = w.store) ∨
        ∃ id, r.1 = .ok id ∧ s.Follows probe incremental pending (w.host.notes ++ [(id, p)]) := by
      rcases patient with rfl | waits
      · exact follows.addPattern sound added
      · obtain rfl : incremental = false := Bool.eq_false_iff.mpr waits
        exact follows.addPattern_pending added
    have follows' : s.Follows probe incremental pending
        ((Request.addPattern p label).ledger r.1 w.host.notes) := by
      rcases cases with ⟨e, error, rfl⟩ | ⟨id, answer, follows'⟩
      · rw [error]
        exact follows
      · rw [answer]
        exact follows'
    exact ensures_bind (ensures_notifyAll (ensures_pure
      ⟨rfl, (seen (.single move) follows').append (unbroken_addPattern added),
        stepwise.reached.move move, (addPattern_spec sound added).leaves,
        (addPattern_spec sound added).alike.guarded, follows'⟩))
  | removePattern id =>
    refine ensures_attemptChange (fun s removed => ?_) fun e _ => ?_
    · have move := Move.removePattern removed
      have follows' := follows.removePattern removed
      exact ⟨rfl, seen (.single move) follows', stepwise.reached.move move,
        (removePattern_spec removed).leaves, (removePattern_spec removed).alike.guarded, follows'⟩
    · exact ⟨rfl, seen .refl follows, stepwise.reached, leaves_of_facts_eq rfl rfl, rfl, follows⟩
  | replayNewPatterns =>
    obtain rfl : pending = none := patient.resolve_right (not_not.mpr trivial)
    refine ensures_bind (ensures_step (fun r s done => ?_) fun b failed =>
      stepwise.fail (.replayNewPatterns (map_eq_error.mp failed)))
    have replayed := replayNewPatterns_eq_ok done
    have move := Move.replayNewPatterns replayed
    have follows' := follows.replayNewPatterns sound replayed
    exact ensures_bind (ensures_notifyAll (ensures_pure
      ⟨rfl, (seen (.single move) follows').append (unbroken_replayAll replayed),
        stepwise.reached.move move, (replayNewPatterns_spec sound replayed).leaves,
        (replayNewPatterns_spec sound replayed).alike.guarded, follows'⟩))
  | _ => exact changes.elim

/-- What was answered is recorded at last. -/
theorem ensures_recordAnswer {r : Request α} {a : α}
    {Q : Option α → World AlphaMemory (Memo Ledger) (Store AlphaMemory) → Prop}
    {E : World AlphaMemory (Memo Ledger) (Store AlphaMemory) → Prop}
    (holds : Q (some a) (recorded r a w)) :
    Ensures (do
      note (r.ledger a (← consult))
      return some a) w Q E := holds

theorem runs_changePatterns (stepwise : Stepwise (Followed probe incremental) pending w)
    (r : Request α) (changes : r.ChangesPatterns)
    (patient : pending = none ∨ ¬ r.Replays incremental) :
    Runs (Followed probe incremental) pending (enter hooks r) w [] fun _ => SameGuard w := by
  have free : r.facts = [] ∧ ∀ a, r.made a = none := by
    cases r <;> first | exact changes.elim | exact ⟨rfl, fun _ => rfl⟩
  have asked : Ensures (ask hooks r) w (fun answer w' => ∃ a, answer = some a ∧
      w'.host.notes = w.host.notes ∧ Seen (Followed probe incremental) (recorded r a w') ∧
      w'.store.Reached ∧ Spares [] w w' ∧ SameGuard w w' ∧
      w'.store.Follows probe incremental pending (r.ledger a w.host.notes))
      (Seen (Followed probe incremental)) := by
    unfold FactBase.ask
    refine ensures_bind (ensures_mono (runs_forget stepwise) ?_)
    rintro _ w₁ ⟨stepwise₁, spares, -, store, notes⟩
    refine ensures_bind (show Ensures get w₁ _ _ from ?_)
    change Ensures (if r.facts.all (mayUse w₁) then _ else _) w₁ _ _
    rw [free.1, List.all_nil, if_pos rfl]
    refine ensures_bind (ensures_mono (ensures_changePatterns stepwise₁ r changes patient) ?_)
    rintro a w₂ ⟨host, seen, reached, leaves, guard, follows⟩
    rw [notes] at follows
    have kept : Spares [] w₁ w₂ :=
      ⟨fun k f found unattached strange outside =>
        ⟨⟨f, leaves.facts k f found unattached outside, rfl⟩, host ▸ strange⟩,
        leaves.contentHash⟩
    refine ⟨a, rfl, (congrArg Memo.notes host).trans notes, seen.go rfl .refl seen.holds, reached, ?_,
      ?_, follows⟩
    · exact (spares.trans kept).remember (by simp [free.2])
    · exact guard.trans (congrArg Store.guarded store)
  refine ensures_bind (ensures_mono asked ?_)
  rintro _ w' ⟨a, rfl, notes, seen, reached, spares, guard, follows⟩
  refine ensures_recordAnswer ?_
  rw [← notes] at follows
  exact ⟨⟨stepwise.upheld, reached, follows, seen⟩, ⟨spares.facts, spares.contentHash⟩, guard⟩

theorem runs_patterning {ok : (α : Type) → Request α → Prop} {p : Recording α}
    (patterning : Patterning ok p)
    (patient : ∀ (β : Type) (r : Request β), ok β r → pending = none ∨ ¬ r.Replays incremental)
    (stepwise : Stepwise (Followed probe incremental) pending w) :
    Runs (Followed probe incremental) pending p w [] fun _ => SameGuard w := by
  induction patterning generalizing w with
  | pure a => exact runs_pure stepwise rfl
  | bind _ _ first rest =>
    exact (first stepwise).followed fun a _ stepwise => rest a stepwise
  | look => exact runs_look stepwise
  | consult => exact ⟨stepwise, .refl w, rfl⟩
  | giveUp => exact runs_throw stepwise _
  | enter r changes allowed =>
    exact runs_changePatterns stepwise r changes (patient _ r allowed)

/-- Recording aside, whoever changes patterns is a client. -/
theorem Patterning.client {ok : (α : Type) → Request α → Prop} {p : Recording α}
    (patterning : Patterning ok p) : Client p := by
  induction patterning with
  | pure a => exact .pure a
  | bind _ _ first rest => exact .bind first rest
  | look => exact .look
  | consult => exact .consult
  | giveUp => exact .giveUp
  | enter r =>
    refine .bind (.ask (fun _ _ => .pure ()) r) fun a => ?_
    cases a with
    | none => exact .pure none
    | some a => exact .bind .consult fun L => .bind (.note _) fun _ => .pure (some a)

theorem Patient.courteous (listeners : Patient incremental hooks) :
    Courteous (Followed probe incremental) hooks where
  runs id e _ stepwise :=
    runs_patterning (listeners id e) (fun _ _ _ => .inl rfl) stepwise
  waits id h _ stepwise _ :=
    (runs_patterning (listeners id (.beforeAssert h)) (fun _ _ patient => .inr (patient ⟨h, rfl⟩))
      stepwise).mono (fun _ _ _ => trivial) (List.Subset.refl _)
  rests id e _ _ := (listeners id e).client.clientOf.script.rests

/-- Whatever a recorder does, the memory follows the entries it records. -/
theorem runs_recorder {kind : Hooks AlphaMemory (Memo Ledger) (Store AlphaMemory) → Prop}
    {p : Recording α} (recorder : Recorder kind p)
    (patient : ∀ hooks, kind hooks → Patient incremental hooks)
    (stepwise : Stepwise (Followed probe incremental) none w) :
    Runs (Followed probe incremental) none p w [] fun _ => SameGuard w := by
  induction recorder generalizing w with
  | pure a => exact runs_pure stepwise rfl
  | bind _ _ first rest =>
    exact (first stepwise).followed fun a _ stepwise => rest a stepwise
  | look => exact runs_look stepwise
  | consult => exact ⟨stepwise, .refl w, rfl⟩
  | giveUp => exact runs_throw stepwise _
  | @enter _ hooks listeners r quiet =>
    by_cases changes : r.ChangesPatterns
    · exact runs_changePatterns stepwise r changes (.inl rfl)
    · refine (runs_ask (patient hooks listeners).courteous stepwise r
        (upheldFrom_followed w.store changes quiet _)).bind fun answer w' stepwise _ same => ?_
      cases answer with
      | none => exact runs_pure stepwise same
      | some a =>
        refine ensures_recordAnswer ?_
        rw [recorded, Request.ledger_eq_self changes]
        exact ⟨stepwise, .unchanged rfl rfl, same⟩

end FactBase

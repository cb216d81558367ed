import FactBase.Proofs.Process.Keepers
import FactBase.Proofs.Store.Census
import FactBase.Proofs.Store.Duplicate

/-!
# What is counted of facts

A client keeps a tab of its modifications: how many have attached a replacement, and how many are
under way. At each request it takes down what it finds by then, and so do its listeners. Whatever is
under way, the census balances up to the replacements that are attached and not on the tab yet.
-/

namespace FactBase

open Store Process

variable {N τ α β : Type}

/-- What a request finds. -/
structure Sight (N : Type) where
  store : Store N
  /-- How many modifications had attached a replacement and come back. -/
  replaced : Nat
  /-- How many modifications had been called and not come back. -/
  underway : Nat

structure Tab (N : Type) where
  replaced : Nat := 0
  underway : Nat := 0
  sights : List (Sight N) := []

/-- The fact that a modification comes back with, also if the join network failed over it. -/
def modified? : Except ModifyError Handle → Option Handle
  | .ok h | .error (.ruleNetwork h _) => some h
  | .error _ => none

/-- Whether a modification attached a replacement: it comes back with a fact that was not there when
it was called. Otherwise it comes back with the fact itself or with another one of the content. -/
def replacements (s : Store N) (r : Except ModifyError Handle) : Nat :=
  if (modified? r).any fun h => (s.get? h).isNone then 1 else 0

namespace Request

/-- How many modifications a request calls. -/
def modifications : Request α → Nat
  | .modify _ _ | .commitModifier _ => 1
  | _ => 0

/-- How many replacements a request has attached, by its answer. -/
def replacements (s : Store N) : {α : Type} → Request α → α → Nat
  | _, .modify _ _, r | _, .commitModifier _, r => FactBase.replacements s r
  | _, _, _ => 0

end Request

/-- A tab of modifications. -/
def tabRules (N : Type) : Rules N (Tab N) where
  allows _ _ _ := true
  before l s r := { l with
    underway := l.underway + r.modifications
    sights := ⟨s, l.replaced, l.underway⟩ :: l.sights }
  after l s r a := { l with
    replaced := l.replaced + r.replacements s a
    underway := l.underway - r.modifications }

/-- Clients that keep a tab of their modifications and may run queries, as may their listeners. -/
inductive Accountant [JoinNetwork N] : {α : Type} → Keeping N (Tab N) τ α → Prop
  | pure {α : Type} (a : α) : Accountant (pure a)
  | bind {α β : Type} {p : Keeping N (Tab N) τ α} {k : α → Keeping N (Tab N) τ β}
      (first : Accountant p) (rest : ∀ a, Accountant (k a)) : Accountant (p >>= k)
  | look : Accountant look
  | consult : Accountant consult
  | jot (own : τ) : Accountant (jot own)
  | giveUp {α : Type} : Accountant (throw .nesting : Keeping N (Tab N) τ α)
  | keep {α : Type} {hooks : Hooks N (Memo (Book (Tab N) τ)) (Store N)}
      (listeners : ∀ id e, Accountant (hooks id e)) (r : Request α) :
      Accountant (keep (tabRules N) hooks r)
  | query {α : Type} {test : Query.Test N (Memo (Book (Tab N) τ)) (Store N)}
      {act : Query.Act N (Memo (Book (Tab N) τ)) (Store N)} (tests : ∀ x, Accountant (test x))
      (acts : ∀ x, Accountant (act x)) (restrictions : List Restriction) (mode : Query.Mode α) :
      Accountant (mode.run test act restrictions)

/-- What requests have found balances up to the replacements of modifications under way. -/
def World.Fair (w : World N (Memo (Book (Tab N) τ)) (Store N)) : Prop :=
  ∀ x ∈ w.host.notes.ledger.sights,
    ∃ c ≤ x.underway, x.store.census.Balanced (x.replaced + c)

/-- While some modifications are under way, `c` replacements are attached and not on the tab. -/
structure Kept (underway c : Nat) (w : World N (Memo (Book (Tab N) τ)) (Store N)) : Prop where
  tidy : w.store.facts.Tidy
  balanced : w.store.census.Balanced (w.host.notes.ledger.replaced + c)
  underway : w.host.notes.ledger.underway = underway
  fair : w.Fair

variable {w w' : World N (Memo (Book (Tab N) τ)) (Store N)} {o b c d e : Nat} {f g : α → Nat}

theorem World.Fair.same (fair : w.Fair) (ledger : w'.host.notes.ledger = w.host.notes.ledger) :
    w'.Fair := by
  unfold World.Fair
  rw [ledger]
  exact fair

theorem Kept.rebalance (kept : Kept o (c + d) w)
    (ledger : w'.host.notes.ledger = w.host.notes.ledger)
    (step : Rebalances d e w.store w'.store) : Kept o (c + e) w' := by
  refine ⟨step.tidy kept.tidy, ?_, ?_, kept.fair.same ledger⟩
  · have balanced := kept.balanced
    rw [← Nat.add_assoc] at balanced ⊢
    rw [ledger]
    exact step.balanced _ balanced
  · rw [ledger]
    exact kept.underway

theorem Kept.steady (kept : Kept o c w) (ledger : w'.host.notes.ledger = w.host.notes.ledger)
    (steady : SameCensus w.store w'.store) : Kept o c w' :=
  Kept.rebalance (c := c) (d := 0) (e := 0) kept ledger (steady.rebalances 0)

theorem Kept.same (kept : Kept o c w) (ledger : w'.host.notes.ledger = w.host.notes.ledger)
    (store : w'.store = w.store) : Kept o c w' := by
  obtain ⟨tidy, balanced, underway, fair⟩ := kept
  refine ⟨store ▸ tidy, ?_, ledger ▸ underway, fair.same ledger⟩
  rw [store, ledger]
  exact balanced

/-! ### Processes that attach replacements -/

/-- A process in front of which `d` more replacements are attached than are on the tab comes to an
answer that tells how many more there are then. At most `b` more are attached when listeners are
told of an event, and no more than modifications are under way. -/
def Shifts (o b d : Nat) (f : α → Nat) (p : Keeping N (Tab N) τ α) : Prop :=
  ∀ c w, c + b ≤ o → Kept o (c + d) w → Ensures p w (fun a => Kept o (c + f a)) World.Fair

/-- Listeners that add up. -/
def Heard (o : Nat) (hooks : Hooks N (Memo (Book (Tab N) τ)) (Store N)) : Prop :=
  ∀ id e, Shifts o 0 0 (fun _ => 0) (hooks id e)

section Rules

variable {p : Keeping N (Tab N) τ α} {k : α → Keeping N (Tab N) τ β}

theorem shifts_pure (a : α) (same : f a = d) :
    Shifts o b d f (pure a : Keeping N (Tab N) τ α) := by
  intro c w _ kept
  rw [← same] at kept
  exact ensures_pure kept

theorem shifts_bind {g : β → Nat} (first : Shifts o b d f p)
    (rest : ∀ a, Shifts o b (f a) g (k a)) : Shifts o b d g (p >>= k) := by
  intro c w room kept
  exact ensures_bind (ensures_mono (first c w room kept) fun a w' => rest a c w' room)

theorem Shifts.at (shifts : Shifts o b d f p) (room : c + b ≤ o) (kept : Kept o (c + d) w) :
    Ensures p w (fun a => Kept o (c + f a)) World.Fair := shifts c w room kept

theorem shifts_getStore {k : Store N → Keeping N (Tab N) τ α}
    (rest : ∀ s, Shifts o b d f (k s)) : Shifts o b d f (getStore >>= k) :=
  fun c w room kept => ensures_bind (ensures_getStore (rest w.store c w room kept))

/-- Listeners do not mind how many replacements are attached and not on the tab. -/
theorem Shifts.lift (shifts : Shifts o 0 0 (fun _ => 0) p) (few : d ≤ b) :
    Shifts o b d (fun _ => d) p := by
  intro c w room kept
  exact shifts (c + d) w (by omega) kept

theorem shifts_throw (fault : Fault) :
    Shifts o b d f (throw fault : Keeping N (Tab N) τ α) :=
  fun _ _ _ kept => ensures_throw kept.fair

theorem shifts_breach (broken : Breach) :
    Shifts o b d f (breach broken : Keeping N (Tab N) τ α) :=
  fun _ _ _ kept => ensures_bind (ensures_record (ensures_throw (kept.fair.same rfl)))

theorem shifts_step {f : Store N → Except Breach (α × Store N)}
    (steps : ∀ s a s', f s = .ok (a, s') → Rebalances d e s s') :
    Shifts o b d (fun _ => e) (step f : Keeping N (Tab N) τ α) := by
  intro c w _ kept
  refine ensures_step (fun a s done => ?_) fun _ _ => kept.fair.same rfl
  exact kept.rebalance rfl (steps _ a s done)

theorem shifts_change {f : Store N → Except Breach (Store N)}
    (steps : ∀ s s', f s = .ok s' → Rebalances d e s s') :
    Shifts o b d (fun _ => e) (change f : Keeping N (Tab N) τ Unit) := by
  intro c w _ kept
  refine ensures_change (fun s done => ?_) fun _ _ => kept.fair.same rfl
  exact kept.rebalance rfl (steps _ s done)

theorem shifts_update {f : Store N → Store N} (steps : ∀ s, Rebalances d e s (f s)) :
    Shifts o b d (fun _ => e) (updateStore f : Keeping N (Tab N) τ Unit) :=
  fun _ _ _ kept => ensures_updateStore (kept.rebalance rfl (steps _))

/-- What is changed concerns neither the facts nor what is counted of them. -/
theorem shifts_aside {f : Store N → Store N} (facts : ∀ s, (f s).facts = s.facts)
    (census : ∀ s, (f s).census = s.census) :
    Shifts o b d (fun _ => d) (updateStore f : Keeping N (Tab N) τ Unit) :=
  shifts_update fun s => (SameCensus.of_facts_eq (facts s) (census s)).rebalances d

theorem shifts_attempt {ε : Type} {f : Store N → Except ε (α × Store N)}
    (steps : ∀ s a s', f s = .ok (a, s') → SameCensus s s') :
    Shifts o b d (fun _ => d) (attempt f : Keeping N (Tab N) τ (Except ε α)) := by
  intro c w _ kept
  refine ensures_attempt (fun a s done => ?_) fun _ _ => kept
  exact kept.rebalance rfl ((steps _ a s done).rebalances d)

theorem shifts_attemptChange {ε : Type} {f : Store N → Except ε (Store N)}
    (steps : ∀ s s', f s = .ok s' → SameCensus s s') :
    Shifts o b d (fun _ => d) (attemptChange f : Keeping N (Tab N) τ (Except ε Unit)) := by
  refine shifts_attempt fun s a s' done => ?_
  obtain ⟨u, changed, same⟩ := map_eq_ok.mp done
  obtain ⟨-, rfl⟩ := Prod.mk.inj same
  exact steps s u changed

theorem shifts_notify (n : Notice) :
    Shifts o b d (fun _ => d) (notify n : Keeping N (Tab N) τ Unit) :=
  fun _ _ _ kept => ensures_record (kept.same rfl rfl)

theorem shifts_notifyAll (ns : List Notice) :
    Shifts o b d (fun _ => d) (notifyAll ns : Keeping N (Tab N) τ Unit) :=
  fun _ _ _ kept => ensures_notifyAll (kept.same rfl rfl)

/-- A choice between two answers. -/
theorem shifts_ite {c : Prop} [Decidable c] {p q : Keeping N (Tab N) τ α}
    (first : c → Shifts o b d f p) (second : ¬c → Shifts o b d f q) :
    Shifts o b d f (if c then p else q) := by
  split
  · rename_i holds
    exact first holds
  · rename_i fails
    exact second fails

end Rules

/-! ### Parts of operations -/

section Parts

variable {hooks : Hooks N (Memo (Book (Tab N) τ)) (Store N)}

theorem shifts_setGuarded (guarded : Bool) :
    Shifts o b d (fun _ => d) (setGuarded guarded : Keeping N (Tab N) τ Unit) :=
  shifts_aside (fun _ => rfl) fun _ => rfl

theorem shifts_setRunning (running : List ListenerId) :
    Shifts o b d (fun _ => d) (setRunning running : Keeping N (Tab N) τ Unit) :=
  shifts_aside (fun _ => rfl) fun _ => rfl

theorem shifts_callAll (heard : Heard o hooks) (few : d ≤ b) (e : Event) (rs : List Registration) :
    Shifts o b d (fun _ => d) (callAll hooks e rs) := by
  induction rs with
  | nil => exact shifts_pure () rfl
  | cons r rest ih =>
    unfold callAll
    refine shifts_getStore fun s => shifts_ite (fun _ => ih) fun _ => ?_
    refine shifts_bind (shifts_setRunning _) fun _ => ?_
    refine shifts_bind ((heard r.id e).lift few) fun _ => ?_
    exact shifts_bind (shifts_setRunning _) fun _ => ih

theorem shifts_signal (heard : Heard o hooks) (few : d ≤ b) (e : Event) :
    Shifts o b d (fun _ => d) (signal hooks e) :=
  shifts_getStore fun s => shifts_callAll heard few e s.listeners.entries

theorem shifts_refuse (operation : GuardedOperation) :
    Shifts o b d (fun _ => d) (refuse operation : Keeping N (Tab N) τ Unit) :=
  shifts_bind (shifts_aside (fun _ => rfl) fun _ => rfl)
    fun _ => shifts_notify _

theorem shifts_rejectDuplicate (h : Handle) :
    Shifts o b d (fun _ => d) (rejectDuplicate h : Keeping N (Tab N) τ Unit) :=
  shifts_bind (shifts_change fun _ _ done => (sameCensus_free done).rebalances d)
    fun _ => shifts_aside (fun _ => rfl) fun _ => rfl

theorem shifts_maybeCollect :
    Shifts o b d (fun _ => d) (change (·.maybeCollect) : Keeping N (Tab N) τ Unit) :=
  shifts_change fun _ _ => rebalances_maybeCollect

theorem shifts_attach (h : Handle) (reuse : Option Nat) (hash : UInt64)
    (previous templatePrevious : Option Handle) :
    Shifts o b d (fun _ => d + 1) (step (·.attach h reuse hash previous templatePrevious) :
      Keeping N (Tab N) τ Nat) :=
  shifts_step fun _ _ _ => rebalances_attach

theorem shifts_createWith (t : TemplateId) (template : Template) (fields : List Field) :
    Shifts o b d (fun _ => d) (step (·.createWith t template fields) :
      Keeping N (Tab N) τ Handle) :=
  shifts_step fun _ _ _ done => (sameCensus_createWith done).rebalances d

theorem shifts_collectGarbage :
    Shifts o b d (fun _ => d) (collectGarbage : Keeping N (Tab N) τ Nat) :=
  shifts_step fun _ _ _ => rebalances_collectGarbage

theorem shifts_lending {p : Keeping N (Tab N) τ α} (shifts : Shifts o b d f p) :
    Shifts o b d f (lending p) := by
  unfold lending
  refine shifts_getStore fun s => ?_
  refine shifts_bind (shifts_aside (fun _ => rfl) fun _ => rfl) fun _ => ?_
  refine shifts_bind shifts fun a => ?_
  refine shifts_bind (shifts_aside (fun _ => rfl) fun _ => rfl) fun _ => shifts_pure a rfl

end Parts

/-! ### Operations -/

section Operations

variable [JoinNetwork N] {hooks : Hooks N (Memo (Book (Tab N) τ)) (Store N)}

theorem shifts_matchAsserted (h : Handle) :
    Shifts o b d (fun _ => d) (matchAsserted h : Keeping N (Tab N) τ Bool) :=
  shifts_bind (shifts_step fun _ _ _ done => (sameCensus_matchFact done).rebalances d)
    fun o => shifts_bind (shifts_notifyAll o.notices) fun _ => shifts_pure _ rfl

theorem shifts_detach (h : Handle) :
    Shifts o b d (fun _ => d) (Process.detach h : Keeping N (Tab N) τ Detached) :=
  shifts_bind (shifts_step fun _ _ _ => rebalances_detach)
    fun d => shifts_bind (shifts_notifyAll d.notices) fun _ => shifts_pure _ rfl

/-- A fact that is asserted is counted before any listener is told of it. -/
theorem shifts_assertAt (heard : Heard o hooks) (h : Handle) (position : Position) :
    Shifts o 0 0 (fun _ => 0) (assertAt hooks h position) := by
  unfold assertAt
  refine shifts_getStore fun s => ?_
  split
  · exact shifts_pure _ rfl
  · refine shifts_ite (fun _ => shifts_pure _ rfl) fun _ => ?_
    refine shifts_ite (fun _ => shifts_pure _ rfl) fun _ => ?_
    refine shifts_ite (fun _ => ?_) fun _ => ?_
    · exact shifts_bind (shifts_refuse .assert) fun _ => shifts_pure _ rfl
    · split
      · exact shifts_pure _ rfl
      · dsimp only
        split
        · exact shifts_bind (shifts_rejectDuplicate h) fun _ => shifts_pure _ rfl
        · refine shifts_bind (shifts_attach _ _ _ _ _) fun index => ?_
          refine shifts_bind (shifts_update rebalances_countAsserted) fun _ => ?_
          refine shifts_bind (shifts_setGuarded true) fun _ => ?_
          refine shifts_bind (shifts_signal heard (Nat.le_refl 0) _) fun _ => ?_
          refine shifts_bind (shifts_matchAsserted h) fun failed => ?_
          refine shifts_bind (shifts_setGuarded false) fun _ => ?_
          refine shifts_bind (shifts_signal heard (Nat.le_refl 0) _) fun _ => ?_
          exact shifts_bind shifts_maybeCollect fun _ => shifts_pure _ rfl

theorem shifts_assertOrdered (heard : Heard o hooks) (relation : String) (values : List Value) :
    Shifts o 0 0 (fun _ => 0) (assertOrdered hooks relation values) := by
  unfold assertOrdered
  refine shifts_bind (shifts_step fun _ _ _ done =>
    (sameCensus_createOrdered done).rebalances 0) fun r => ?_
  split
  · exact shifts_pure _ rfl
  · refine shifts_bind (shifts_assertAt heard _ _) fun r => ?_
    split
    · exact shifts_pure _ rfl
    · refine shifts_getStore fun s => shifts_ite (fun _ => ?_) fun _ => shifts_pure _ rfl
      exact shifts_bind (shifts_change fun _ _ done => (sameCensus_free done).rebalances 0)
        fun _ => shifts_pure _ rfl

theorem shifts_retract (heard : Heard o hooks) (h : Handle) :
    Shifts o 0 0 (fun _ => 0) (retract hooks h) := by
  unfold retract
  refine shifts_getStore fun s => ?_
  split
  · exact shifts_pure _ rfl
  · refine shifts_ite (fun _ => shifts_pure _ rfl) fun _ => ?_
    refine shifts_ite (fun _ => shifts_pure _ rfl) fun _ => ?_
    refine shifts_ite (fun _ => ?_) fun _ => ?_
    · exact shifts_bind (shifts_refuse .retract) fun _ => shifts_pure _ rfl
    · refine shifts_bind (shifts_setGuarded true) fun _ => ?_
      refine shifts_bind (shifts_signal heard (Nat.le_refl 0) _) fun _ => ?_
      refine shifts_bind (shifts_detach h) fun d => ?_
      refine shifts_bind (shifts_setGuarded false) fun _ => ?_
      refine shifts_bind (shifts_signal heard (Nat.le_refl 0) _) fun _ => ?_
      exact shifts_bind shifts_maybeCollect fun _ => shifts_pure _ rfl

theorem shifts_retractAll (heard : Heard o hooks) (rounds : Nat) :
    Shifts o 0 0 (fun _ => 0) (retractAll hooks rounds) := by
  induction rounds with
  | zero => exact shifts_throw _
  | succ rounds ih =>
    unfold retractAll
    refine shifts_getStore fun s => ?_
    split
    · exact shifts_pure _ rfl
    · refine shifts_bind (shifts_retract heard _) fun r => ?_
      split
      · exact shifts_pure _ rfl
      · refine shifts_bind ih fun r => ?_
        split <;> exact shifts_pure _ rfl

theorem shifts_clear (heard : Heard o hooks) (rounds : Nat) :
    Shifts o 0 0 (fun _ => 0) (clear hooks rounds) := by
  unfold clear
  refine shifts_bind (shifts_retractAll heard rounds) fun r => ?_
  split
  · exact shifts_pure _ rfl
  · refine shifts_bind shifts_collectGarbage fun _ => shifts_getStore fun s => ?_
    refine shifts_ite (fun _ => ?_) fun _ => shifts_pure _ rfl
    exact shifts_bind (shifts_aside (fun _ => rfl) fun _ => rfl) fun _ => shifts_pure _ rfl

/-! ### Modifications -/

omit [JoinNetwork N] in
theorem replacements_le_one (s : Store N) (r : Except ModifyError Handle) :
    replacements s r ≤ 1 := by
  unfold replacements
  split <;> omega

omit [JoinNetwork N] in
theorem replacements_of_none {s : Store N} {h : Handle} (missing : s.get? h = none) :
    replacements s (.ok h) = 1 := by
  simp [replacements, modified?, missing]

omit [JoinNetwork N] in
theorem replacements_of_some {s : Store N} {h : Handle} (found : (s.get? h).isSome) :
    replacements s (.ok h) = 0 := by
  rw [Option.isSome_iff_ne_none] at found
  simp [replacements, modified?, found]

omit [JoinNetwork N] in
/-- A duplicate is a fact that is there. -/
theorem isSome_of_duplicateOf? {s : Store N} {h existing : Handle} {x : Fact} {hash : UInt64}
    (looked : s.duplicateOf? h x hash = some existing) :
    existing ≠ h ∧ (s.get? existing).isSome := by
  unfold Store.duplicateOf? at looked
  split at looked
  · cases looked
  · have accepted := List.find?_some looked
    obtain ⟨other, g, found, -⟩ := accepts_iff.mp accepted
    exact ⟨other, by rw [found]; rfl⟩

/-- A modification attaches a replacement that was not there, or comes back with a duplicate that
was. -/
theorem ensures_replaceFact_census (heard : Heard o hooks) (room : c + 1 ≤ o) (kept : Kept o c w)
    (h : Handle) (x : Fact) (fields : List Field) :
    Ensures (replaceFact hooks h x fields) w (fun r => Kept o (c + replacements w.store r))
      World.Fair := by
  unfold replaceFact
  refine ensures_bind (ensures_step (fun r s created => ?_) fun _ _ => kept.fair.same rfl)
  refine ensures_bind (ensures_getStore ?_)
  extract_lets copy hash duplicate
  obtain ⟨templates, facts, -, inserted, rfl⟩ := createWith_eq_ok created
  obtain ⟨missing, -, names⟩ := Arena.insert_spec kept.tidy inserted
  have existed (existing : Handle) (looked : duplicate = some existing) :
      (w.store.get? existing).isSome := by
    obtain ⟨other, found⟩ := isSome_of_duplicateOf? looked
    change (facts.get? existing).isSome at found
    rwa [names, if_neg other] at found
  clear_value duplicate
  have made : Kept o (c + 0) { w with store := { w.store with templates, facts } } :=
    kept.steady rfl (sameCensus_createWith created)
  refine Shifts.at ?_ room made
  refine shifts_bind (shifts_setGuarded true) fun _ => ?_
  refine shifts_bind (shifts_signal heard (Nat.zero_le 1) _) fun _ => ?_
  refine shifts_bind (shifts_detach h) fun d => ?_
  extract_lets finish
  have finishes (y : Handle × Bool) : Shifts o 1 (replacements w.store (.ok y.1))
      (replacements w.store) (finish y) := by
    refine shifts_bind (shifts_setGuarded false) fun _ => ?_
    refine shifts_bind (shifts_aside (fun _ => rfl) fun _ => rfl) fun _ => ?_
    refine shifts_bind (shifts_signal heard (replacements_le_one _ _) _) fun _ => ?_
    refine shifts_bind shifts_maybeCollect fun _ => shifts_pure _ ?_
    split <;> rfl
  cases duplicate with
  | some existing =>
    refine shifts_bind (shifts_rejectDuplicate r) fun _ => ?_
    have same := finishes (existing, false)
    rwa [replacements_of_some (existed existing rfl)] at same
  | none =>
    refine shifts_bind (shifts_attach _ _ _ _ _) fun _ => ?_
    refine shifts_bind (shifts_matchAsserted r) fun failed => ?_
    have same := finishes (r, failed)
    rwa [replacements_of_none missing] at same

omit [JoinNetwork N] in
/-- A modification that fails, but not over the rule network, comes back with no fact. -/
theorem modified?_of_plain {e : ModifyError}
    (plain : (Failure.modify e).isRuleNetwork = false) : modified? (.error e) = none := by
  cases e with
  | ruleNetwork => cases plain
  | _ => rfl

theorem ensures_modifyFact_census (heard : Heard o hooks) (room : c + 1 ≤ o) (kept : Kept o c w)
    (h : Handle) (changes : List (Nat × Value)) :
    Ensures (modifyFact hooks h changes) w (fun r => Kept o (c + replacements w.store r))
      World.Fair := by
  unfold modifyFact
  refine ensures_bind (ensures_getStore ?_)
  split
  · rename_i e declined
    refine ensures_pure ?_
    rw [replacements, modified?_of_plain (patched_eq_error declined)]
    exact kept
  · rename_i x fields patched
    split
    · rename_i unchanged
      refine ensures_pure ?_
      rw [replacements_of_some]
      · exact kept
      · rw [(patched_eq_ok patched).1]
        rfl
    · split
      · have refused : Shifts o 1 0 (replacements w.store) (do
            refuse .modify
            return .error .couldNotModify : Keeping N (Tab N) τ _) :=
          shifts_bind (shifts_refuse .modify) fun _ => shifts_pure _ rfl
        exact refused.at room kept
      · unfold lending
        refine ensures_bind (ensures_getStore ?_)
        have lends : Kept o (c + 0) { w with store := { w.store with
            openChanges := w.store.openChanges + 1 } } :=
          kept.steady rfl (.of_facts_eq rfl rfl)
        refine ensures_bind (ensures_updateStore (ensures_bind (ensures_mono
          (ensures_replaceFact_census heard room lends h x fields) fun r w' kept => ?_)))
        have settles : Shifts o 1 (replacements w.store r) (replacements w.store)
            (do
              updateStore fun s => { s with
                openChanges := w.store.openChanges
                atoms := s.atoms.settle (.changes w.store.openChanges) }
              return r : Keeping N (Tab N) τ _) :=
          shifts_bind (shifts_aside (fun _ => rfl) fun _ => rfl) fun _ => shifts_pure r rfl
        exact settles.at room kept

theorem shifts_duplicateFact (heard : Heard o hooks) (h : Handle) (changes : List (Nat × Value)) :
    Shifts o 0 0 (fun _ => 0) (duplicateFact hooks h changes) := by
  unfold duplicateFact
  refine shifts_getStore fun s => ?_
  split
  · exact shifts_pure _ rfl
  · refine shifts_ite (fun _ => ?_) fun _ => shifts_lending ?_
    · exact shifts_bind (shifts_refuse .duplicate) fun _ => shifts_pure _ rfl
    · refine shifts_bind (shifts_createWith _ _ _) fun copy => ?_
      refine shifts_bind (shifts_assertAt heard copy .tail) fun r => ?_
      split <;> exact shifts_pure _ rfl

/-! ### Builders and modifiers -/

theorem shifts_commitBuilder (heard : Heard o hooks) (builder : Builder) :
    Shifts o 0 0 (fun _ => 0) (builder.commit hooks) := by
  intro c w room kept
  unfold Builder.commit
  refine ensures_bind (ensures_getStore ?_)
  split
  · exact ensures_pure kept
  · split
    · exact ensures_pure kept
    · have drawn : Kept o c { w with store := (builder.fields
          (builder.template.slots.zip builder.staged).zipIdx w.store).2 } :=
        kept.steady rfl (sameCensus_builderFields builder _ w.store)
      refine ensures_bind (ensures_setStore ?_)
      split
      · exact ensures_pure drawn
      · refine Shifts.at (d := 0) (f := fun _ => 0) ?_ room drawn
        refine shifts_bind (shifts_createWith _ _ _) fun h => ?_
        refine shifts_bind (shifts_assertAt heard h .tail) fun r => ?_
        split <;> exact shifts_pure _ rfl

omit [JoinNetwork N] in
theorem ensures_unpin_census (kept : Kept o c w) (m : Modifier) :
    Ensures m.unpin w (fun r w' => Kept o c w' ∧
      replacements w.store (r.map fun _ => m.fact) = 0 ∧
      ∀ k, (w'.store.get? k).isSome = (w.store.get? k).isSome) World.Fair := by
  unfold Modifier.unpin
  refine ensures_bind (ensures_step (fun r s done => ?_) fun _ _ => kept.fair.same rfl)
  have after : Kept o c { w with store := s } := kept.steady rfl (sameCensus_release done)
  have there := isSome_release done
  obtain ⟨-, rfl, -⟩ | ⟨x, found, -, rfl, -⟩ := release_eq_ok done
  · exact ensures_pure ⟨after, rfl, there⟩
  · exact ensures_pure ⟨after, replacements_of_some (by rw [found]; rfl), there⟩

theorem ensures_commitModifier (heard : Heard o hooks) (room : c + 1 ≤ o) (kept : Kept o c w)
    (m : Modifier) : Ensures (m.commit hooks) w
      (fun r => Kept o (c + replacements w.store r)) World.Fair := by
  unfold Modifier.commit
  refine ensures_bind (ensures_mono (ensures_unpin_census kept m)
    fun r w' ⟨kept, unpinned, there⟩ => ?_)
  cases r with
  | error e =>
    refine ensures_pure ?_
    change replacements w.store (.error e) = 0 at unpinned
    rw [unpinned]
    exact kept
  | ok u =>
    dsimp only
    split
    · refine ensures_pure ?_
      change replacements w.store (.ok m.fact) = 0 at unpinned
      rw [unpinned]
      exact kept
    · refine ensures_mono (ensures_modifyFact_census heard room kept m.fact m.changes)
        fun r w'' kept => ?_
      have none (k : Handle) : (w'.store.get? k).isNone = (w.store.get? k).isNone := by
        rw [← Option.not_isSome, ← Option.not_isSome, there]
      unfold replacements at kept
      simp only [none] at kept
      exact kept

/-! ### Requests -/

/-- However a request is answered, the replacements it has attached are told by its answer. -/
theorem ensures_perform_census (heard : Heard o hooks) (r : Request α)
    (room : c + r.modifications ≤ o) (kept : Kept o c w) :
    Ensures (r.perform hooks) w (fun a => Kept o (c + r.replacements w.store a)) World.Fair := by
  have plain {p : Keeping N (Tab N) τ α} (shifts : Shifts o 0 0 (fun _ => 0) p) :
      Ensures p w (fun _ => Kept o (c + 0)) World.Fair :=
    shifts.at (Nat.le_trans (Nat.le_add_right c _) room) kept
  cases r with
  | createFact =>
    exact plain (shifts_step fun _ _ _ done => (sameCensus_createFact done).rebalances 0)
  | createOrdered =>
    exact plain (shifts_step fun _ _ _ done => (sameCensus_createOrdered done).rebalances 0)
  | putSlot => exact plain (shifts_attemptChange fun _ _ => sameCensus_putSlot)
  | putSlotAt => exact plain (shifts_attemptChange fun _ _ => sameCensus_putSlotAt)
  | discard => exact plain (shifts_step fun _ _ _ done => (sameCensus_discard done).rebalances 0)
  | assertAt h position => exact plain (shifts_assertAt heard h position)
  | assertOrdered relation values => exact plain (shifts_assertOrdered heard relation values)
  | retract h => exact plain (shifts_retract heard h)
  | retractAll rounds => exact plain (shifts_retractAll heard rounds)
  | clear rounds => exact plain (shifts_clear heard rounds)
  | modify h changes => exact ensures_modifyFact_census heard room kept h changes
  | duplicate h changes => exact plain (shifts_duplicateFact heard h changes)
  | collectGarbage => exact plain shifts_collectGarbage
  | retain => exact plain (shifts_attemptChange fun _ _ => sameCensus_retain)
  | release => exact plain (shifts_step fun _ _ _ done => (sameCensus_release done).rebalances 0)
  | install => exact plain (shifts_attemptChange fun _ _ => sameCensus_install)
  | deinstall =>
    exact plain (shifts_step fun _ _ _ done => (sameCensus_deinstall done).rebalances 0)
  | makeBuilder => exact plain (shifts_attempt fun _ _ _ => sameCensus_makeBuilder)
  | commitBuilder builder => exact plain (shifts_commitBuilder heard builder)
  | makeModifier => exact plain (shifts_attempt fun _ _ _ => sameCensus_makeModifier)
  | commitModifier m => exact ensures_commitModifier heard room kept m
  | abortModifier m =>
    exact ensures_mono (ensures_unpin_census kept m) fun _ _ ⟨kept, _⟩ => kept
  | addPattern p label =>
    refine plain (shifts_bind (shifts_step fun s x s' done => ?_) fun x =>
      shifts_bind (shifts_notifyAll x.2) fun _ => shifts_pure _ rfl)
    exact (sameCensus_addPattern (addPattern_eq_ok done)).rebalances 0
  | removePattern => exact plain (shifts_attemptChange fun _ _ => sameCensus_removePattern)
  | replayNewPatterns =>
    refine plain (shifts_bind (shifts_step fun s x s' done => ?_) fun x =>
      shifts_bind (shifts_notifyAll x.2) fun _ => shifts_pure _ rfl)
    exact (sameCensus_replayNewPatterns (replayNewPatterns_eq_ok done)).rebalances 0
  | defineTemplate => exact plain (shifts_attempt fun _ _ _ => sameCensus_defineTemplate)
  | undefineTemplate => exact plain (shifts_attemptChange fun _ _ => sameCensus_undefineTemplate)
  | impliedTemplate | addListener =>
    refine plain (shifts_attempt fun s a s' done => ?_)
    obtain ⟨x, -, same⟩ := map_eq_ok.mp done
    obtain ⟨rfl, rfl⟩ := Prod.mk.inj same
    exact .of_facts_eq rfl rfl
  | defineModule | setCurrentModule =>
    refine plain (shifts_attemptChange fun s s' done => ?_)
    obtain ⟨x, -, rfl⟩ := map_eq_ok.mp done
    exact .of_facts_eq rfl rfl
  | drawDefault t position =>
    refine plain (shifts_step fun s a s' done => ?_)
    have drawn := sameCensus_drawDefault s t position
    rw [Except.ok.inj done] at drawn
    exact drawn.rebalances 0
  | removeListener name =>
    refine plain (shifts_step fun s a s' done => ?_)
    obtain ⟨rfl, rfl⟩ := Prod.mk.inj (Except.ok.inj done)
    have kept : SameCensus s { s with listeners := (s.listeners.remove name).2 } :=
      .of_facts_eq rfl rfl
    exact kept.rebalances 0
  | dropBuilder | intern | setAllowDuplicates | setProbe | clearEvaluationError =>
    unfold Request.perform
    exact plain (shifts_aside (fun _ => rfl) fun _ => rfl)

/-- While a request is dealt with, the tab says what it has found. -/
theorem shifts_keep (heard : ∀ o, Heard o hooks) (r : Request α) :
    Shifts o 0 0 (fun _ => 0) (keep (tabRules N) hooks r) := by
  intro c w room kept
  have few : c ≤ o := room
  unfold keep
  refine ensures_bind (ensures_getStore (ensures_bind (ensures_consult ?_)))
  split
  · let opened : World N (Memo (Book (Tab N) τ)) (Store N) :=
      w.setLedger ((tabRules N).before w.host.notes.ledger w.store r)
    have fair : opened.Fair := by
      intro x inside
      rcases List.mem_cons.mp inside with rfl | before
      · refine ⟨c, ?_, kept.balanced⟩
        dsimp only
        rw [kept.underway]
        exact few
      · exact kept.fair x before
    have begun : Kept (o + r.modifications) c opened := by
      refine ⟨kept.tidy, kept.balanced, ?_, fair⟩
      change w.host.notes.ledger.underway + r.modifications = _
      rw [kept.underway]
    refine ensures_bind (ensures_note (ensures_bind (ensures_ask ?_ fun _ => ?_)))
    · exact ensures_bind (ensures_note (ensures_pure (kept.same rfl rfl)))
    · have heeded : Kept (o + r.modifications) c opened.forgotten := begun.same rfl rfl
      have performed := ensures_perform_census (heard _) r (Nat.add_le_add_right few _) heeded
      refine ensures_mono performed fun a w₂ done => ?_
      refine ensures_bind (ensures_consult (ensures_bind (ensures_note (ensures_pure ?_))))
      obtain ⟨tidy, balanced, underway, fair⟩ := done
      refine ⟨tidy, ?_, ?_, fair⟩
      · change w₂.store.census.Balanced
          (w₂.host.notes.ledger.replaced + r.replacements w.store a + c)
        rw [Nat.add_assoc, Nat.add_comm (r.replacements w.store a)]
        exact balanced
      · change w₂.host.notes.ledger.underway - r.modifications = o
        rw [underway, Nat.add_sub_cancel]
  · exact ensures_pure kept

end Operations

/-! ### Queries -/

/-- Processes at whose end the tab is as right as at their beginning. -/
def Steadfast (p : Keeping N (Tab N) τ α) : Prop := ∀ o, Shifts o 0 0 (fun _ => 0) p

theorem acting_steadfast : Query.Acting fun _ (p : Keeping N (Tab N) τ _) => Steadfast p where
  pure a _ := shifts_pure a rfl
  bind first rest o := shifts_bind (first o) fun a => rest a o
  read _ := fun _ _ _ kept => ensures_getStore kept
  poll _ := shifts_getStore fun _ => shifts_bind (shifts_aside (fun _ => rfl) fun _ => rfl)
    fun _ => shifts_pure _ rfl
  pin h _ := shifts_bind (shifts_attemptChange fun _ _ => sameCensus_retain) fun r => by
    cases r with
    | error e => exact shifts_breach _
    | ok u => exact shifts_pure () rfl
  unpin h _ := shifts_bind (shifts_step fun _ _ _ done => (sameCensus_release done).rebalances 0)
    fun r => by
      cases r with
      | error e => exact shifts_breach _
      | ok u => exact shifts_pure () rfl

variable [JoinNetwork N]

/-- Whatever an accountant does, its tab stays right. -/
theorem Accountant.steadfast {p : Keeping N (Tab N) τ α} (accountant : Accountant p) :
    Steadfast p := by
  induction accountant with
  | pure a => exact fun _ => shifts_pure a rfl
  | bind _ _ first rest => exact fun o => shifts_bind (first o) fun a => rest a o
  | look =>
    exact fun _ _ _ _ kept => ensures_bind (ensures_getStore (ensures_bind (ensures_record
      (ensures_pure (kept.same rfl rfl)))))
  | consult => exact fun _ _ _ _ kept => ensures_consult kept
  | jot own =>
    exact fun _ _ _ _ kept => ensures_bind (ensures_consult (ensures_note (kept.same rfl rfl)))
  | giveUp => exact fun _ => shifts_throw _
  | keep _ r heard => exact fun _ => shifts_keep (fun o id e => heard id e o) r
  | query _ _ restrictions mode tests acts =>
    exact acting_steadfast.run tests acts restrictions mode

/-- Accountants do what scripts do. -/
theorem Accountant.script {p : Keeping N (Tab N) τ α} (accountant : Accountant p) :
    Script (fun _ _ => True) p := by
  induction accountant with
  | pure a => exact .pure a
  | bind _ _ first rest => exact .bind first rest
  | look => exact .look
  | consult => exact .consult
  | jot own => exact script_jot own
  | giveUp => exact .giveUp
  | keep _ r heard => exact script_keep heard r
  | query _ _ restrictions mode tests acts =>
    exact Query.script_run ⟨trivial, fun _ => trivial, fun _ => trivial⟩ tests acts restrictions
      mode

/-! ### Fact accounting -/

/-- Whatever a client, its listeners and its queries ask of a fact base, whenever the client is done
the retracted facts are those that were collected and those that wait, and the facts that were
asserted or attached as a replacement are those that are asserted and those that were retracted. So
it is when anyone asks anything of the fact base, listeners included and wherever the client breaks
off, up to replacements of modifications that are under way by then. -/
theorem facts_accounted {p : Keeping N (Tab N) τ α} (accountant : Accountant p) (config : Config)
    (network : N) (contentHash : TemplateId → List Value → UInt64) (own : τ) :
    let w := outset (Store.fresh config network contentHash) ⟨{}, own⟩
    (∀ a w', p w = .ok a w' →
      w'.store.counters.retracted = w'.store.counters.reclaimed + w'.store.garbage.length ∧
      w'.store.counters.asserted + w'.host.notes.ledger.replaced =
        w'.store.order.length + w'.store.counters.retracted) ∧
    ∀ x ∈ (p.aftermath w).host.notes.ledger.sights,
      ∃ c ≤ x.underway, x.store.census.Balanced (x.replaced + c) := by
  intro w
  have begun : Kept 0 0 w := by
    refine ⟨Arena.tidy_empty, ⟨rfl, rfl⟩, rfl, fun x inside => ?_⟩
    cases inside
  have shifts := accountant.steadfast 0 0 w (Nat.le_refl 0) begun
  constructor
  · intro a w' ran
    unfold Ensures at shifts
    rw [ran] at shifts
    have seen := accountant.script.seen_trivial config network contentHash ⟨{}, own⟩
    change Seen _ (p.aftermath w) at seen
    rw [aftermath, ran] at seen
    have length : w'.store.factCount = w'.store.order.length :=
      seen.reached.sound.threaded_order.length
    rw [← length]
    exact ⟨shifts.balanced.retracted, shifts.balanced.asserted⟩
  · exact ensures_aftermath (ensures_mono shifts fun _ _ kept => kept.fair)

/-- A lamp that is off already is not switched off, the other one is dimmed, and a listener collects
what it can of both. -/
theorem facts_accounted_lamp :
    let rules := tabRules AlphaMemory
    let idle : Hooks AlphaMemory (Memo (Book (Tab AlphaMemory) Unit)) (Store AlphaMemory) :=
      fun _ _ => pure ()
    let hooks : Hooks AlphaMemory (Memo (Book (Tab AlphaMemory) Unit)) (Store AlphaMemory) :=
      fun _ _ => do
        let _ ← keep rules idle .collectGarbage
    let lamp : Keeping AlphaMemory (Tab AlphaMemory) Unit Unit := do
      let _ ← keep rules hooks (.addListener "sweeper" 0)
      let _ ← keep rules hooks (.assertOrdered "lamp" [.symbol "on"])
      let _ ← keep rules hooks (.assertOrdered "lamp" [.symbol "off"])
      let _ ← keep rules hooks (.retain ⟨0, 0⟩)
      let _ ← keep rules hooks (.modify ⟨0, 0⟩ [(0, .multifield [.symbol "off"])])
      let _ ← keep rules hooks (.modify ⟨1, 0⟩ [(0, .multifield [.symbol "dim"])])
    let w := outset (Store.fresh {} {} fun _ _ => 0) ⟨{}, ()⟩
    ∃ a w', lamp w = .ok a w' ∧
      w'.store.counters.retracted = w'.store.counters.reclaimed + w'.store.garbage.length ∧
      w'.store.counters.asserted + w'.host.notes.ledger.replaced =
        w'.store.order.length + w'.store.counters.retracted ∧
      (lamp.outcome w).map (fun r => [r.2.store.counters.asserted, r.2.host.notes.ledger.replaced,
        r.2.store.order.length, r.2.store.counters.retracted, r.2.store.counters.reclaimed,
        r.2.store.garbage.length, r.2.host.notes.ledger.sights.length]) =
          some [2, 1, 1, 2, 1, 1, 14] := by
  intro rules idle hooks lamp w
  have sweeps (id : ListenerId) (e : Event) : Accountant (hooks id e) :=
    .bind (.keep (fun _ _ => .pure ()) _) fun _ => .pure ()
  have accountant : Accountant lamp :=
    .bind (.keep sweeps _) fun _ => .bind (.keep sweeps _) fun _ => .bind (.keep sweeps _) fun _ =>
      .bind (.keep sweeps _) fun _ => .bind (.keep sweeps _) fun _ =>
        .bind (.keep sweeps _) fun _ => .pure ()
  have ends : (lamp.outcome w).isSome = true := by decide +kernel
  obtain ⟨⟨a, w'⟩, outcome⟩ := Option.isSome_iff_exists.mp ends
  have ran := outcome_eq_some.mp outcome
  obtain ⟨waiting, present⟩ := (facts_accounted accountant {} {} (fun _ _ => 0) ()).1 a w' ran
  exact ⟨a, w', ran, waiting, present, by decide +kernel⟩

end FactBase

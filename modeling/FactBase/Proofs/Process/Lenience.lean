import FactBase.Proofs.Process.Requests
import FactBase.Proofs.Store.Lenience
import FactBase.Proofs.Store.Tending

/-!
# Runs that take failures for answers

Two runs of the same requests, where the second takes the tests that fail in the first not to hold,
keep abreast: after each request the fact bases are the same but for the record of failures. Where
the first run reports that the rule network failed for a fact, the second may hand that fact out
instead.
-/

namespace FactBase

open Store

variable {N ρ ν α β : Type}

def Entry.isTestFailure : Entry ν → Bool
  | .notice n => n.isTestFailure
  | .remark _ => false

/-- The second world takes the failures of the first one for answers and lets nothing known of them.
-/
structure World.Lenient (w w' : World N ρ ν) : Prop where
  store : w.store.Lenient w'.store
  host : w'.host = w.host
  journal : w'.journal.toList = w.journal.toList.filter (!·.isTestFailure)

variable {w w' : World N ρ ν}

theorem World.Lenient.setStore (lenient : w.Lenient w') {s s' : Store N} (store : s.Lenient s') :
    World.Lenient { w with store := s } { w' with store := s' } :=
  { lenient with store }

theorem World.Lenient.notice (lenient : w.Lenient w') {ns ns' : List Notice}
    (same : ns' = Notice.forgiven ns) :
    World.Lenient { w with journal := w.journal ++ (ns.map Entry.notice).toArray }
      { w' with journal := w'.journal ++ (ns'.map Entry.notice).toArray } := by
  refine { lenient with journal := ?_ }
  subst same
  simp only [Array.toList_append, lenient.journal, List.filter_append, Notice.forgiven,
    List.filter_map]
  rfl

/-- The same answer, or, in place of a report that the rule network failed for a fact, that very
fact. -/
def Pardons {ε : Type} (report : Handle → Nat → ε) (answer : Handle → α) (a a' : Except ε α) : Prop :=
  a' = a ∨ ∃ h i, a = .error (report h i) ∧ a' = .ok (answer h)

namespace Process

/-- Two processes end in the same way, by the same fault or with related results, in worlds of which
the second takes the failures of the first for answers. -/
def Abreast (p p' : Process N ρ ν α) (w w' : World N ρ ν) (R : α → World N ρ ν → α → Prop) : Prop :=
  match p w, p' w' with
  | .ok a v, .ok a' v' => R a v a' ∧ v.Lenient v'
  | .error e v, .error e' v' => e = e' ∧ v.Lenient v'
  | _, _ => False

variable {p p' : Process N ρ ν α} {w w' : World N ρ ν} {R : α → World N ρ ν → α → Prop}
  {Q : β → World N ρ ν → β → Prop}

theorem abreast_pure {a a' : α} (related : R a w a') (lenient : w.Lenient w') :
    Abreast (pure a) (pure a') w w' R := ⟨related, lenient⟩

theorem abreast_throw (e : Fault) (lenient : w.Lenient w') :
    Abreast (throw e) (throw e) w w' R := ⟨rfl, lenient⟩

theorem Abreast.bind {k k' : α → Process N ρ ν β} (first : Abreast p p' w w' R)
    (rest : ∀ a v a' v', R a v a' → v.Lenient v' → Abreast (k a) (k' a') v v' Q) :
    Abreast (p >>= k) (p' >>= k') w w' Q := by
  unfold Abreast at first ⊢
  rw [show (p >>= k) w = EStateM.bind p k w from rfl,
    show (p' >>= k') w' = EStateM.bind p' k' w' from rfl, EStateM.bind, EStateM.bind]
  cases ran : p w with
  | ok a v =>
    cases ran' : p' w' with
    | ok a' v' =>
      rw [ran, ran'] at first
      exact rest a v a' v' first.1 first.2
    | error e' v' =>
      rw [ran, ran'] at first
      exact first.elim
  | error e v =>
    cases ran' : p' w' with
    | ok a' v' =>
      rw [ran, ran'] at first
      exact first.elim
    | error e' v' =>
      rw [ran, ran'] at first
      exact first

theorem Abreast.mono {R' : α → World N ρ ν → α → Prop} (abreast : Abreast p p' w w' R)
    (implies : ∀ a v a', R a v a' → R' a v a') : Abreast p p' w w' R' := by
  unfold Abreast at abreast ⊢
  split at abreast
  · exact ⟨implies _ _ _ abreast.1, abreast.2⟩
  · exact abreast
  · exact abreast

/-- What is known of the first process besides. -/
theorem Abreast.and {R' : α → World N ρ ν → Prop} {E : World N ρ ν → Prop}
    (abreast : Abreast p p' w w' R) (ensures : Ensures p w R' E) :
    Abreast p p' w w' fun a v a' => R a v a' ∧ R' a v := by
  unfold Abreast at abreast ⊢
  unfold Ensures at ensures
  cases ran : p w with
  | ok a v =>
    rw [ran] at abreast ensures
    cases ran' : p' w' with
    | ok a' v' =>
      rw [ran'] at abreast
      exact ⟨⟨abreast.1, ensures⟩, abreast.2⟩
    | error e' v' =>
      rw [ran'] at abreast
      exact abreast
  | error e v =>
    cases ran' : p' w' with
    | ok a' v' =>
      rw [ran, ran'] at abreast
      exact abreast
    | error e' v' =>
      rw [ran, ran'] at abreast
      exact abreast

theorem Abreast.aftermath (abreast : Abreast p p' w w' R) :
    (p.aftermath w).Lenient (p'.aftermath w') := by
  unfold Abreast at abreast
  unfold Process.aftermath
  split at abreast
  · rename_i ran ran'
    rw [ran, ran']
    exact abreast.2
  · rename_i ran ran'
    rw [ran, ran']
    exact abreast.2
  · exact abreast.elim

theorem abreast_getStore_left {k : Store N → Process N ρ ν β} {q : Process N ρ ν β}
    (rest : Abreast (k w.store) q w w' Q) : Abreast (getStore >>= k) q w w' Q := rest

theorem abreast_getStore {k k' : Store N → Process N ρ ν β} (lenient : w.Lenient w')
    (rest : ∀ t, w'.store = w.store.under t → Abreast (k w.store) (k' (w.store.under t)) w w' Q) :
    Abreast (getStore >>= k) (getStore >>= k') w w' Q := by
  obtain ⟨failed, errors, same⟩ := lenient.store
  have both := rest _ same
  rw [← same] at both
  exact both

/-! ### Steps -/

theorem abreast_setStore {s s' : Store N} (lenient : w.Lenient w') (same : s.Lenient s') :
    Abreast (setStore s) (setStore s') w w' fun _ _ _ => True :=
  ⟨trivial, lenient.setStore same⟩

theorem abreast_updateStore {f f' : Store N → Store N} (lenient : w.Lenient w')
    (same : (f w.store).Lenient (f' w'.store)) :
    Abreast (updateStore f) (updateStore f') w w' fun _ _ _ => True :=
  ⟨trivial, lenient.setStore same⟩

theorem abreast_update {f : Store N → Store N} (untested : ∀ s t, f (s.under t) = (f s).under t)
    (lenient : w.Lenient w') : Abreast (updateStore f) (updateStore f) w w' fun _ _ _ => True :=
  abreast_updateStore lenient (lenient.store.update untested)

theorem abreast_notifyAll (lenient : w.Lenient w') {ns ns' : List Notice}
    (same : ns' = Notice.forgiven ns) :
    Abreast (notifyAll ns) (notifyAll ns') w w' fun _ _ _ => True :=
  ⟨trivial, lenient.notice same⟩

theorem abreast_notify (lenient : w.Lenient w') {n : Notice} (other : n.isTestFailure = false) :
    Abreast (notify n) (notify n) w w' fun _ _ _ => True := by
  refine ⟨trivial, ⟨lenient.store, lenient.host, ?_⟩⟩
  change (w'.journal.push _).toList = ((w.journal.push _).toList).filter _
  rw [Array.toList_push, Array.toList_push, lenient.journal, List.filter_append,
    List.filter_cons_of_pos (by exact congrArg (!·) other)]
  rfl

theorem abreast_breach (lenient : w.Lenient w') (b : Breach) {R : α → World N ρ ν → α → Prop} :
    Abreast (breach b) (breach b) w w' R :=
  (abreast_notify lenient rfl).bind fun _ _ _ _ _ lenient => abreast_throw _ lenient

theorem abreast_step {f f' : Store N → Except Breach (α × Store N)} {S : α → α → Prop}
    (lenient : w.Lenient w') (same : Store.Abreast S (f w.store) (f' w'.store)) :
    Abreast (step f) (step f') w w' fun a _ a' => S a a' := by
  change Abreast (orBreach (f w.store) >>= fun x => setStore x.2 >>= fun _ => pure x.1)
    (orBreach (f' w'.store) >>= fun x => setStore x.2 >>= fun _ => pure x.1) w w' _
  generalize f w.store = x, f' w'.store = x' at same
  cases x with
  | error e =>
    cases x' with
    | error e' =>
      obtain rfl : e = e' := same
      exact (abreast_breach lenient e (R := fun _ _ _ => False)).bind fun _ _ _ _ related =>
        related.elim
    | ok y => exact same.elim
  | ok y =>
    cases x' with
    | error e => exact same.elim
    | ok y' => exact And.intro same.1 (lenient.setStore same.2)

theorem abreast_change {f : Store N → Except Breach (Store N)} (untested : UntestedChange f)
    (lenient : w.Lenient w') : Abreast (change f) (change f) w w' fun _ _ _ => True := by
  rw [change_eq_step]
  exact (abreast_step lenient (untested.untested.abreast lenient.store)).mono fun _ _ _ _ => trivial

/-- A step that may be declined is declined in both runs or in neither. -/
theorem abreast_attempt {ε : Type} {f : Store N → Except ε (α × Store N)} (untested : Untested f)
    (lenient : w.Lenient w') : Abreast (attempt f) (attempt f) w w' fun a _ a' => a' = a := by
  have same := untested.abreast lenient.store
  refine abreast_getStore lenient fun t store => ?_
  rw [store] at same
  generalize f w.store = x, f (w.store.under t) = x' at same
  cases x with
  | error e =>
    cases x' with
    | error e' =>
      obtain rfl : e = e' := same
      exact abreast_pure rfl lenient
    | ok y => exact same.elim
  | ok y =>
    cases x' with
    | error e => exact same.elim
    | ok y' => exact And.intro (congrArg Except.ok same.1.symm) (lenient.setStore same.2)

theorem abreast_attemptChange {ε : Type} {f : Store N → Except ε (Store N)}
    (untested : UntestedChange f) (lenient : w.Lenient w') :
    Abreast (attemptChange f) (attemptChange f) w w' fun a _ a' => a' = a :=
  abreast_attempt untested.untested lenient

/-! ### Operations -/

theorem abreast_setGuarded (lenient : w.Lenient w') (guarded : Bool) :
    Abreast (setGuarded guarded) (setGuarded guarded) w w' fun _ _ _ => True :=
  abreast_update (fun _ _ => rfl) lenient

theorem abreast_refuse (lenient : w.Lenient w') (operation : GuardedOperation) :
    Abreast (refuse operation) (refuse operation) w w' fun _ _ _ => True :=
  (abreast_update (fun _ _ => rfl) lenient).bind fun _ _ _ _ _ lenient => abreast_notify lenient rfl

theorem abreast_rejectDuplicate (lenient : w.Lenient w') (h : Handle) :
    Abreast (rejectDuplicate h) (rejectDuplicate h) w w' fun _ _ _ => True := by
  refine (abreast_change (untested_free h) lenient).bind fun _ _ _ _ _ lenient => ?_
  exact abreast_update (fun _ _ => rfl) lenient

/-- What is done while a change list is applied. -/
theorem abreast_lending {p p' : Process N ρ ν α} {S : α → α → Prop} (lenient : w.Lenient w')
    (within : ∀ {w w' : World N ρ ν}, w.Lenient w' → Abreast p p' w w' fun a _ a' => S a a') :
    Abreast (lending p) (lending p') w w' fun a _ a' => S a a' := by
  refine abreast_getStore lenient fun t _ => ?_
  refine (abreast_update (fun _ _ => rfl) lenient).bind fun _ _ _ _ _ lenient => ?_
  refine (within lenient).bind fun a _ a' _ same lenient => ?_
  exact (abreast_update (fun _ _ => rfl) lenient).bind fun _ _ _ _ _ lenient =>
    abreast_pure same lenient

section Unheard

variable {hooks : Hooks N ρ ν} (unheard : ∀ id e, hooks id e = pure ())
include unheard

theorem abreast_callAll (lenient : w.Lenient w') (e : Event) (rs : List Registration) :
    Abreast (callAll hooks e rs) (callAll hooks e rs) w w' fun _ _ _ => True := by
  have running {w w' : World N ρ ν} (lenient : w.Lenient w') (running : List ListenerId) :
      Abreast (setRunning running) (setRunning running) w w' fun _ _ _ => True :=
    abreast_update (fun _ _ => rfl) lenient
  induction rs generalizing w w' with
  | nil => exact abreast_pure trivial lenient
  | cons r rest ih =>
    unfold callAll
    refine abreast_getStore lenient fun t _ => ?_
    rw [show (w.store.under t).listeners = w.store.listeners from rfl]
    dsimp only
    split
    · exact ih lenient
    · refine (running lenient _).bind fun _ _ _ _ _ lenient => ?_
      rw [unheard]
      refine (abreast_pure trivial lenient (R := fun _ _ _ => True)).bind fun _ _ _ _ _ lenient => ?_
      exact (running lenient _).bind fun _ _ _ _ _ lenient => ih lenient

theorem abreast_signal (lenient : w.Lenient w') (e : Event) :
    Abreast (signal hooks e) (signal hooks e) w w' fun _ _ _ => True :=
  abreast_getStore lenient fun _ _ => abreast_callAll unheard lenient e _

end Unheard

variable [JoinNetwork N]

theorem abreast_matchAsserted (lenient : w.Lenient w') (h : Handle) :
    Abreast (matchAsserted h) (matchAsserted h) w w' fun _ _ failed' => failed' = false := by
  refine (abreast_step lenient (abreast_matchFact lenient.store h .assert)).bind
    fun o _ o' _ same lenient => ?_
  subst same
  exact (abreast_notifyAll lenient rfl).bind fun _ _ _ _ _ lenient => abreast_pure rfl lenient

theorem abreast_detached (lenient : w.Lenient w') (h : Handle) :
    Abreast (detach h) (detach h) w w' fun d _ d' => d' = d := by
  refine (abreast_step lenient (abreast_detach lenient.store h)).bind
    fun d _ d' _ same lenient => ?_
  obtain ⟨rfl, plain⟩ := same
  exact (abreast_notifyAll lenient plain.symm).bind fun _ _ _ _ _ lenient => abreast_pure rfl lenient

section Unheard

variable {hooks : Hooks N ρ ν} (unheard : ∀ id e, hooks id e = pure ())
include unheard

theorem abreast_assertAt (lenient : w.Lenient w') (h : Handle) (position : Position) :
    Abreast (assertAt hooks h position) (assertAt hooks h position) w w'
      fun a _ a' => Pardons .ruleNetwork .new a a' := by
  unfold assertAt
  refine abreast_getStore lenient fun t _ => ?_
  rw [show (w.store.under t).get? h = w.store.get? h from rfl,
    show (w.store.under t).guarded = w.store.guarded from rfl,
    show predecessor (w.store.under t) position = predecessor w.store position by
      cases position <;> rfl]
  split
  · exact abreast_pure (.inl rfl) lenient
  · rename_i f _
    split
    · exact abreast_pure (.inl rfl) lenient
    · split
      · exact abreast_pure (.inl rfl) lenient
      · split
        · exact (abreast_refuse lenient .assert).bind fun _ _ _ _ _ lenient =>
            abreast_pure (.inl rfl) lenient
        · split
          · exact abreast_pure (.inl rfl) lenient
          · rename_i previous _
            dsimp only
            rw [show (w.store.under t).duplicateOf? h f ((w.store.under t).hashOf f) =
              w.store.duplicateOf? h f (w.store.hashOf f) from rfl]
            split
            · exact (abreast_rejectDuplicate lenient h).bind fun _ _ _ _ _ lenient =>
                abreast_pure (.inl rfl) lenient
            · refine (abreast_step lenient ((untested_attach h none _ previous _).abreast
                lenient.store)).bind fun index _ _ _ same lenient => ?_
              subst same
              refine (abreast_update (fun _ _ => rfl) lenient).bind fun _ _ _ _ _ lenient => ?_
              refine (abreast_setGuarded lenient true).bind fun _ _ _ _ _ lenient => ?_
              refine (abreast_signal unheard lenient _).bind fun _ _ _ _ _ lenient => ?_
              refine (abreast_matchAsserted lenient h).bind fun failed _ _ _ same lenient => ?_
              subst same
              refine (abreast_setGuarded lenient false).bind fun _ _ _ _ _ lenient => ?_
              refine (abreast_signal unheard lenient _).bind fun _ _ _ _ _ lenient => ?_
              refine (abreast_change untested_maybeCollect lenient).bind fun _ _ _ _ _ lenient => ?_
              refine abreast_pure ?_ lenient
              cases failed with
              | true => exact .inr ⟨h, index, rfl, rfl⟩
              | false => exact .inl rfl

omit [JoinNetwork N] in
/-- An event that nobody does anything about. -/
theorem ensures_signal_unheard {e : Event} {Q : Unit → World N ρ ν → Prop} {E : World N ρ ν → Prop}
    (holds : ∀ listeners, Q () { w with store := { w.store with listeners } }) :
    Ensures (signal hooks e) w Q E := by
  have called (rs : List Registration) {w : World N ρ ν}
      (holds : ∀ listeners, Q () { w with store := { w.store with listeners } }) :
      Ensures (callAll hooks e rs) w Q E := by
    induction rs generalizing w with
    | nil => exact ensures_pure (holds w.store.listeners)
    | cons r rest ih =>
      unfold callAll
      refine ensures_bind (ensures_getStore ?_)
      dsimp only
      split
      · exact ih holds
      · rw [unheard]
        exact ensures_bind (ensures_updateStore (ensures_bind (ensures_pure (ensures_bind
          (ensures_updateStore (ih holds))))))
  exact ensures_bind (ensures_getStore (called _ holds))

/-- A fact for which the rule network fails is asserted. -/
theorem ensures_assertAt_reported (sound : w.store.Sound) (h : Handle) (position : Position) :
    Ensures (assertAt hooks h position) w (fun a v => ∀ k i, a = .error (.ruleNetwork k i) →
      k = h ∧ v.store.isAsserted h = true) fun _ => True := by
  unfold assertAt
  refine ensures_bind (ensures_getStore ?_)
  split
  · exact ensures_pure fun _ _ answered => by cases answered
  · rename_i f found
    split
    · exact ensures_pure fun _ _ answered => by cases answered
    · split
      · exact ensures_pure fun _ _ answered => by cases answered
      · split
        · exact ensures_after fun _ _ => ensures_pure fun _ _ answered => by cases answered
        · split
          · rename_i e astray
            obtain ⟨p, rfl⟩ := unknown_of_predecessor astray
            exact ensures_pure fun _ _ answered => by cases answered
          · rename_i garbage unnumbered guarded _ previous placed
            have unattached : f.isUnattached = true :=
              Fact.isUnattached_iff.mpr ⟨not_not.mp unnumbered, Bool.eq_false_iff.mpr garbage⟩
            have listed := asserted_of_predecessor sound placed
            have numbered := Nat.pos_iff_ne_zero.mp sound.numbered
            obtain ⟨s, attached, sound, attaches⟩ := attach_spec sound found unattached
              (show ∀ i, none = some i → i ≠ 0 by simp) listed
              fun p tail => (sound.listedByTemplate _).tail tail
            have asserted : s.isAsserted h = true :=
              isAsserted_iff_exists.mpr (attaches.asserted unattached numbered)
            dsimp only
            split
            · exact ensures_after fun _ _ => ensures_pure fun _ _ answered => by cases answered
            · refine ensures_bind (ensures_step_of_ok attached ?_)
              refine ensures_bind (ensures_updateStore (ensures_bind (ensures_updateStore ?_)))
              refine ensures_bind (ensures_signal_unheard unheard fun listeners => ?_)
              refine ensures_bind (ensures_bind
                (ensures_step (fun o u matched => ?_) fun _ _ => trivial))
              have sound : u.Sound := by
                refine (Step.matchFact matched).sound ?_
                refine (Step.listeners _ _).sound ((Step.guarded _ _).sound ?_)
                exact (Step.counters s _).sound sound
              have asserted : u.isAsserted h = true := by
                exact ((rematched_matchFact matched).isAsserted h).trans asserted
              refine ensures_bind (ensures_notifyAll (ensures_pure ?_))
              refine ensures_bind (ensures_updateStore ?_)
              refine ensures_bind (ensures_signal_unheard unheard fun listeners => ?_)
              refine ensures_bind (ensures_change (fun v collected => ?_) fun _ _ => trivial)
              refine ensures_pure fun k i answered => ?_
              split at answered
              · cases answered
                have sound := (Step.listeners _ listeners).sound ((Step.guarded u false).sound sound)
                exact ⟨rfl, (collects_maybeCollect sound collected).isAsserted asserted⟩
              · cases answered

theorem abreast_assertOrdered (sound : w.store.Sound) (lenient : w.Lenient w') (relation : String)
    (values : List Value) :
    Abreast (assertOrdered hooks relation values) (assertOrdered hooks relation values) w w'
      fun a _ a' => Pardons (fun h i => .assert (.ruleNetwork h i)) .new a a' := by
  unfold assertOrdered
  have created : Ensures (step (·.createOrdered relation values)) w (fun _ v => v.store.Sound)
      fun _ => True :=
    ensures_step (fun _ _ done => (Step.createOrdered done).sound sound) fun _ _ => trivial
  refine ((abreast_step lenient ((untested_createOrdered relation values).abreast
    lenient.store)).and created).bind fun r v r' v' known lenient => ?_
  obtain ⟨rfl, sound⟩ := known
  split
  · exact abreast_pure (.inl rfl) lenient
  · rename_i h
    refine ((abreast_assertAt unheard lenient h .tail).and
      (ensures_assertAt_reported unheard sound h .tail)).bind fun a v a' v' known lenient => ?_
    obtain ⟨rfl | ⟨k, i, rfl, rfl⟩, reported⟩ := known
    · split
      · exact abreast_pure (.inl rfl) lenient
      · refine abreast_getStore lenient fun t _ => ?_
        rw [show (v.store.under t).get? h = v.store.get? h from rfl]
        split
        · exact (abreast_change (untested_free h) lenient).bind fun _ _ _ _ _ lenient =>
            abreast_pure (.inl rfl) lenient
        · exact abreast_pure (.inl rfl) lenient
    · -- the first run looks whether the fact stayed behind, which it does not since it is asserted
      obtain ⟨rfl, asserted⟩ := reported k i rfl
      obtain ⟨f, found, holds⟩ := isAsserted_iff_exists.mp asserted
      have numbered : ¬ (v.store.get? k).any (·.index == 0) = true := by
        rw [found]
        exact fun none => (Fact.isAsserted_iff.mp holds).1 (beq_iff_eq.mp none)
      refine abreast_getStore_left ?_
      dsimp only
      rw [if_neg numbered]
      exact abreast_pure (.inr ⟨k, i, rfl, rfl⟩) lenient

theorem abreast_retract (lenient : w.Lenient w') (h : Handle) :
    Abreast (retract hooks h) (retract hooks h) w w' fun a _ a' => a' = a := by
  unfold retract
  refine abreast_getStore lenient fun t _ => ?_
  rw [show (w.store.under t).get? h = w.store.get? h from rfl,
    show (w.store.under t).guarded = w.store.guarded from rfl]
  split
  · exact abreast_pure rfl lenient
  · split
    · exact abreast_pure rfl lenient
    · split
      · exact abreast_pure rfl lenient
      · split
        · exact (abreast_refuse lenient .retract).bind fun _ _ _ _ _ lenient =>
            abreast_pure rfl lenient
        · refine (abreast_setGuarded lenient true).bind fun _ _ _ _ _ lenient => ?_
          refine (abreast_signal unheard lenient _).bind fun _ _ _ _ _ lenient => ?_
          refine (abreast_detached lenient h).bind fun d _ _ _ same lenient => ?_
          subst same
          refine (abreast_setGuarded lenient false).bind fun _ _ _ _ _ lenient => ?_
          refine (abreast_signal unheard lenient _).bind fun _ _ _ _ _ lenient => ?_
          exact (abreast_change untested_maybeCollect lenient).bind fun _ _ _ _ _ lenient =>
            abreast_pure rfl lenient

theorem abreast_retractAll (lenient : w.Lenient w') (rounds : Nat) :
    Abreast (retractAll hooks rounds) (retractAll hooks rounds) w w' fun a _ a' => a' = a := by
  induction rounds generalizing w w' with
  | zero => exact abreast_throw _ lenient
  | succ rounds ih =>
    unfold retractAll
    refine abreast_getStore lenient fun t _ => ?_
    rw [show (w.store.under t).global = w.store.global from rfl]
    split
    · exact abreast_pure rfl lenient
    · refine (abreast_retract unheard lenient _).bind fun a _ _ _ same lenient => ?_
      subst same
      split
      · exact abreast_pure rfl lenient
      · refine (ih lenient).bind fun a _ _ _ same lenient => ?_
        subst same
        split
        · exact abreast_pure rfl lenient
        · exact abreast_pure rfl lenient

theorem abreast_clear (lenient : w.Lenient w') (rounds : Nat) :
    Abreast (clear hooks rounds) (clear hooks rounds) w w' fun a _ a' => a' = a := by
  unfold clear
  refine (abreast_retractAll unheard lenient rounds).bind fun a _ _ _ same lenient => ?_
  subst same
  split
  · exact abreast_pure rfl lenient
  · refine (abreast_step lenient (untested_collectGarbage.abreast lenient.store)).bind
      fun n v _ _ same lenient => ?_
    subst same
    refine abreast_getStore lenient fun t _ => ?_
    rw [show (v.store.under t).garbage = v.store.garbage from rfl]
    split
    · exact (abreast_update (fun _ _ => rfl) lenient).bind fun _ _ _ _ _ lenient =>
        abreast_pure rfl lenient
    · exact abreast_pure rfl lenient

theorem abreast_replaceFact (lenient : w.Lenient w') (h : Handle) (f : Fact) (fields : List Field) :
    Abreast (replaceFact hooks h f fields) (replaceFact hooks h f fields) w w'
      fun a _ a' => Pardons .ruleNetwork id a a' := by
  unfold replaceFact
  refine (abreast_step lenient ((untested_createWith _ _ _).abreast lenient.store)).bind
    fun replacement v _ _ same lenient => ?_
  subst same
  refine abreast_getStore lenient fun t _ => ?_
  rw [show (v.store.under t).duplicateOf? = v.store.duplicateOf? from rfl,
    show (v.store.under t).hashOf = v.store.hashOf from rfl]
  refine (abreast_setGuarded lenient true).bind fun _ _ _ _ _ lenient => ?_
  refine (abreast_signal unheard lenient _).bind fun _ _ _ _ _ lenient => ?_
  refine (abreast_detached lenient h).bind fun _ _ d _ same lenient => ?_
  subst same
  extract_lets finish
  have finishes {w w' : World N ρ ν} (lenient : w.Lenient w') (result : Handle) (failed : Bool) :
      Abreast (finish (result, failed)) (finish (result, false)) w w'
        fun a _ a' => Pardons .ruleNetwork id a a' := by
    refine (abreast_setGuarded lenient false).bind fun _ _ _ _ _ lenient => ?_
    refine (abreast_update (fun _ _ => rfl) lenient).bind fun _ _ _ _ _ lenient => ?_
    refine (abreast_signal unheard lenient _).bind fun _ _ _ _ _ lenient => ?_
    refine (abreast_change untested_maybeCollect lenient).bind fun _ _ _ _ _ lenient => ?_
    refine abreast_pure ?_ lenient
    cases d.networkFailed with
    | true => exact .inl rfl
    | false =>
      cases failed with
      | true => exact .inr ⟨result, f.index, rfl, rfl⟩
      | false => exact .inl rfl
  split
  · rename_i existing _
    exact (abreast_rejectDuplicate lenient replacement).bind fun _ _ _ _ _ lenient =>
      finishes lenient existing false
  · refine (abreast_step lenient ((untested_attach _ _ _ _ _).abreast lenient.store)).bind
      fun _ _ _ _ _ lenient => ?_
    refine (abreast_matchAsserted lenient replacement).bind fun failed _ _ _ same lenient => ?_
    subst same
    exact finishes lenient replacement failed

theorem abreast_modifyFact (lenient : w.Lenient w') (h : Handle) (changes : List (Nat × Value)) :
    Abreast (modifyFact hooks h changes) (modifyFact hooks h changes) w w'
      fun a _ a' => Pardons .ruleNetwork id a a' := by
  unfold modifyFact
  refine abreast_getStore lenient fun t _ => ?_
  rw [show (w.store.under t).patched h changes = w.store.patched h changes from rfl,
    show (w.store.under t).guarded = w.store.guarded from rfl]
  split
  · exact abreast_pure (.inl rfl) lenient
  · split
    · exact abreast_pure (.inl rfl) lenient
    · split
      · exact (abreast_refuse lenient .modify).bind fun _ _ _ _ _ lenient =>
          abreast_pure (.inl rfl) lenient
      · exact abreast_lending lenient fun lenient =>
          abreast_replaceFact unheard lenient h _ _

theorem abreast_duplicateFact (lenient : w.Lenient w') (h : Handle) (changes : List (Nat × Value)) :
    Abreast (duplicateFact hooks h changes) (duplicateFact hooks h changes) w w'
      fun a _ a' => Pardons .ruleNetwork .new a a' := by
  unfold duplicateFact
  refine abreast_getStore lenient fun t _ => ?_
  rw [show (w.store.under t).patched h changes = w.store.patched h changes from rfl,
    show (w.store.under t).guarded = w.store.guarded from rfl]
  split
  · exact abreast_pure (.inl rfl) lenient
  · split
    · exact (abreast_refuse lenient .duplicate).bind fun _ _ _ _ _ lenient =>
        abreast_pure (.inl rfl) lenient
    · refine abreast_lending lenient fun lenient => ?_
      refine (abreast_step lenient ((untested_createWith _ _ _).abreast lenient.store)).bind
        fun copy _ _ _ same lenient => ?_
      subst same
      refine (abreast_assertAt unheard lenient copy .tail).bind fun a _ a' _ pardons lenient => ?_
      rcases pardons with rfl | ⟨k, i, rfl, rfl⟩
      · split
        · exact abreast_pure (.inl rfl) lenient
        · exact abreast_pure (.inl rfl) lenient
        · exact abreast_pure (.inl rfl) lenient
      · exact abreast_pure (.inr ⟨k, i, rfl, rfl⟩) lenient

/-! ### Builders and modifiers -/

theorem abreast_commitBuilder (lenient : w.Lenient w') (b : Builder) :
    Abreast (b.commit hooks) (b.commit hooks) w w' fun a _ a' =>
      Pardons .ruleNetwork .new a.1 a'.1 ∧ a'.2 = a.2 := by
  unfold Builder.commit
  refine abreast_getStore lenient fun t store => ?_
  have filled := lenient.store.update
    (f := fun s => (b.fields (b.template.slots.zip b.staged).zipIdx s).2)
    fun s t => by rw [Builder.under_fields]
  rw [store, Builder.under_fields] at filled
  rw [show (w.store.under t).guarded = w.store.guarded from rfl,
    show b.isCurrent (w.store.under t) = b.isCurrent w.store from rfl, Builder.under_fields]
  split
  · exact abreast_pure ⟨.inl rfl, rfl⟩ lenient
  · split
    · exact abreast_pure ⟨.inl rfl, rfl⟩ lenient
    · generalize b.fields (b.template.slots.zip b.staged).zipIdx w.store = x at filled ⊢
      obtain ⟨fields, u⟩ := x
      refine (abreast_setStore lenient filled).bind fun _ _ _ _ _ lenient => ?_
      cases fields with
      | error e => exact abreast_pure ⟨.inl rfl, rfl⟩ lenient
      | ok fields =>
        refine (abreast_step lenient ((untested_createWith _ _ _).abreast lenient.store)).bind
          fun h _ _ _ same lenient => ?_
        subst same
        refine (abreast_assertAt unheard lenient h .tail).bind fun a _ a' _ pardons lenient => ?_
        rcases pardons with rfl | ⟨k, i, rfl, rfl⟩
        · split
          · exact abreast_pure ⟨.inl rfl, rfl⟩ lenient
          · exact abreast_pure ⟨.inl rfl, rfl⟩ lenient
        · exact abreast_pure ⟨.inr ⟨k, i, rfl, rfl⟩, rfl⟩ lenient

end Unheard

omit [JoinNetwork N] in
theorem abreast_unpin (lenient : w.Lenient w') (m : Modifier) :
    Abreast m.unpin m.unpin w w' fun a _ a' => a' = a := by
  refine (abreast_step lenient ((untested_release m.fact).abreast lenient.store)).bind
    fun a _ _ _ same lenient => ?_
  subst same
  split
  · exact abreast_pure rfl lenient
  · exact abreast_pure rfl lenient
  · exact abreast_pure rfl lenient

section Unheard

variable {hooks : Hooks N ρ ν} (unheard : ∀ id e, hooks id e = pure ())
include unheard

theorem abreast_commitModifier (lenient : w.Lenient w') (m : Modifier) :
    Abreast (m.commit hooks) (m.commit hooks) w w' fun a _ a' => Pardons .ruleNetwork id a a' := by
  unfold Modifier.commit
  refine (abreast_unpin lenient m).bind fun a _ _ _ same lenient => ?_
  subst same
  split
  · exact abreast_pure (.inl rfl) lenient
  · split
    · exact abreast_pure (.inl rfl) lenient
    · exact abreast_modifyFact unheard lenient m.fact m.changes

end Unheard

/-! ### Patterns -/

theorem abreast_added (lenient : w.Lenient w') (p : Pattern) (label : String) :
    Abreast (addPattern p label) (addPattern p label) w w' fun a _ a' => a' = a := by
  refine (abreast_step lenient (abreast_addPattern lenient.store p label)).bind
    fun a _ _ _ same lenient => ?_
  subst same
  exact (abreast_notifyAll lenient rfl).bind fun _ _ _ _ _ lenient => abreast_pure rfl lenient

theorem abreast_replayed (lenient : w.Lenient w') :
    Abreast replayNewPatterns replayNewPatterns w w' fun a _ a' => a' = a := by
  refine (abreast_step lenient (abreast_replayNewPatterns lenient.store)).bind
    fun a _ _ _ same lenient => ?_
  subst same
  exact (abreast_notifyAll lenient rfl).bind fun _ _ _ _ _ lenient => abreast_pure rfl lenient

end Process

end FactBase

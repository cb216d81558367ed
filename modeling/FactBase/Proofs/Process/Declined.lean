import FactBase.Proofs.Process.Client
import FactBase.Proofs.Process.Guard
import FactBase.Proofs.Store.Move

/-!
# Requests that are declined

A request that is declined leaves the fact base as it was, whatever its listeners would have done.
Only the refusals of the guard are counted, and a builder asks the producers of its slots' defaults
before it finds that a slot has none.
-/

namespace FactBase

open Store Process

variable {N ρ ν α : Type}

/-- Nothing has changed but the count of refusals and, if they were asked, what producers are up to.
-/
structure Store.Unchanged (asked : Prop) (s s' : Store N) : Prop where
  rest : s' = { s with
    draws := s'.draws
    counters := { s.counters with guardRejections := s'.counters.guardRejections } }
  refusals : s.counters.guardRejections ≤ s'.counters.guardRejections
  draws : ¬ asked → s'.draws = s.draws

namespace Request

/-- Whether an answer is an error, and not one of the rule network, which comes after the deed. -/
def Declines : {α : Type} → Request α → α → Prop
  | _, .createFact _, .error _ => True
  | _, .createOrdered _ _, .error _ => True
  | _, .putSlot _ _ _, .error _ => True
  | _, .putSlotAt _ _ _, .error _ => True
  | _, .discard _, .error _ => True
  | _, .assertAt _ _, .error e => ∀ h i, e ≠ .ruleNetwork h i
  | _, .retract _, .error e => ∀ h i, e ≠ .ruleNetwork h i
  | _, .modify _ _, .error e => ∀ h i, e ≠ .ruleNetwork h i
  | _, .duplicate _ _, .error e => ∀ h i, e ≠ .ruleNetwork h i
  | _, .retain _, .error _ => True
  | _, .release _, .error _ => True
  | _, .install _, .error _ => True
  | _, .deinstall _, .error _ => True
  | _, .defineTemplate _, .error _ => True
  | _, .undefineTemplate _, .error _ => True
  | _, .addPattern _ _, .error _ => True
  | _, .removePattern _, .error _ => True
  | _, .addListener _ _, .error _ => True
  | _, .makeModifier _, .error _ => True
  | _, .makeBuilder _, .error _ => True
  | _, .commitBuilder _, (.error e, _) => ∀ h i, e ≠ .ruleNetwork h i
  | _, _, _ => False

/-- Whether a request asks producers for defaults before it can be declined. -/
def AsksFirst : Request α → Prop
  | .commitBuilder _ => True
  | _ => False

end Request

namespace Store.Unchanged

variable {asked : Prop} {s s' : Store N}

theorem refl (s : Store N) : Unchanged asked s s := ⟨rfl, Nat.le_refl _, fun _ => rfl⟩

/-- The guard refuses, and nothing else happens. -/
theorem ensures_refuse {β : Type} (operation : GuardedOperation) {w : World N ρ ν} {a : β}
    {Q : β → World N ρ ν → Prop} {E : World N ρ ν → Prop}
    (holds : ∀ w' : World N ρ ν, Unchanged asked w.store w'.store → Q a w') :
    Ensures (do refuse operation; return a) w Q E :=
  ensures_bind (ensures_bind (ensures_updateStore (ensures_record (ensures_pure
    (holds _ ⟨rfl, Nat.le_succ _, fun _ => rfl⟩)))))

end Store.Unchanged

variable [JoinNetwork N] {hooks : Hooks N ρ ν} {w : World N ρ ν}

/-- An assert is declined if the fact is not unattached, the guard is held or the predecessor is not
asserted. -/
def Store.TurnsDown (s : Store N) (h : Handle) (position : Position) : Prop :=
  (∀ f, s.get? h = some f → f.isUnattached = false) ∨ s.guarded = true ∨
    ∃ e, predecessor s position = .error e

/-- Once a fact is attached, only the rule network has anything to say. -/
theorem ensures_assertAt (hooks : Hooks N ρ ν) (w : World N ρ ν) (h : Handle) (position : Position) :
    Ensures (assertAt hooks h position) w (fun a w' => ∀ e, a = .error e →
      (∀ k i, e ≠ .ruleNetwork k i) → w.store.Unchanged False w'.store ∧ w.store.TurnsDown h position)
      fun _ => True := by
  unfold assertAt
  refine ensures_bind (ensures_getStore ?_)
  split
  · rename_i missing
    refine ensures_pure fun _ _ _ => ⟨.refl _, .inl fun f found => ?_⟩
    rw [missing] at found
    cases found
  · rename_i f found
    have attached (other : f.isUnattached = false) : w.store.TurnsDown h position :=
      .inl fun g same => Option.some.inj (found.symm.trans same) ▸ other
    split
    · rename_i garbage
      refine ensures_pure fun _ _ _ => ⟨.refl _, attached ?_⟩
      rw [Fact.isUnattached, garbage]
      exact Bool.and_false _
    · split
      · exact ensures_pure fun _ answered => by cases answered
      · split
        · rename_i held
          exact Unchanged.ensures_refuse .assert fun _ unchanged _ _ _ =>
            ⟨unchanged, .inr (.inl held)⟩
        · split
          · rename_i e astray
            exact ensures_pure fun _ _ _ => ⟨.refl _, .inr (.inr ⟨e, astray⟩)⟩
          · dsimp only
            split
            · exact ensures_after fun _ _ => ensures_pure fun _ answered => by cases answered
            · refine ensures_after fun index _ => ensures_after fun _ _ => ensures_after fun _ _ =>
                ensures_after fun _ _ => ensures_after fun failed _ => ensures_after fun _ _ =>
                ensures_after fun _ _ => ensures_after fun _ _ =>
                  ensures_pure fun e answered other => ?_
              split at answered
              · cases answered
                exact absurd rfl (other h index)
              · cases answered

theorem ensures_retract (hooks : Hooks N ρ ν) (w : World N ρ ν) (h : Handle) :
    Ensures (retract hooks h) w (fun a w' => ∀ e, a = .error e →
      (∀ k i, e ≠ .ruleNetwork k i) → w.store.Unchanged False w'.store) fun _ => True := by
  unfold retract
  refine ensures_bind (ensures_getStore ?_)
  split
  · exact ensures_pure fun _ _ _ => .refl _
  · rename_i f found
    split
    · exact ensures_pure fun _ answered => by cases answered
    · split
      · exact ensures_pure fun _ _ _ => .refl _
      · split
        · exact Unchanged.ensures_refuse .retract fun _ unchanged _ _ _ => unchanged
        · refine ensures_after fun _ _ => ensures_after fun _ _ => ensures_after fun d _ =>
            ensures_after fun _ _ => ensures_after fun _ _ => ensures_after fun _ _ =>
            ensures_pure fun e answered other => ?_
          split at answered
          · cases answered
            exact absurd rfl (other h f.index)
          · cases answered

/-- A fact that is to be replaced is replaced, whatever the rule network says. -/
theorem ensures_replaceFact_answer (hooks : Hooks N ρ ν) (w : World N ρ ν) (h : Handle) (f : Fact)
    (fields : List Field) : Ensures (replaceFact hooks h f fields) w
      (fun a _ => ∀ e, a = .error e → ∃ k i, e = .ruleNetwork k i) fun _ => True := by
  unfold replaceFact
  refine ensures_after fun r _ => ensures_bind (ensures_getStore ?_)
  refine ensures_after fun _ _ => ensures_after fun _ _ => ensures_after fun d w' => ?_
  extract_lets finish
  have finishes (x : Handle × Bool) (w : World N ρ ν) : Ensures (finish x) w
      (fun a _ => ∀ e, a = .error e → ∃ k i, e = .ruleNetwork k i) fun _ => True := by
    obtain ⟨result, failed⟩ := x
    refine ensures_after fun _ _ => ensures_after fun _ _ => ensures_after fun _ _ =>
      ensures_after fun _ _ => ensures_pure fun e answered => ?_
    split at answered
    · cases answered
      exact ⟨result, f.index, rfl⟩
    · cases answered
  split
  · exact ensures_after fun _ _ => ensures_after fun x w => finishes x w
  · exact ensures_after fun _ _ => ensures_after fun _ _ => ensures_after fun x w => finishes x w

omit [JoinNetwork N] in
theorem ensures_lending {β : Type} {p : Process N ρ ν β} {w : World N ρ ν} {Q : β → Prop}
    (ensures : ∀ w', w'.store = { w.store with openChanges := w.store.openChanges + 1 } →
      Ensures p w' (fun a _ => Q a) fun _ => True) :
    Ensures (lending p) w (fun a _ => Q a) fun _ => True :=
  ensures_bind (ensures_getStore (ensures_bind (ensures_updateStore (ensures_bind
    (ensures_mono (ensures _ rfl) fun _ _ holds =>
      ensures_bind (ensures_updateStore (ensures_pure holds)))))))

theorem ensures_modifyFact (hooks : Hooks N ρ ν) (w : World N ρ ν) (h : Handle)
    (changes : List (Nat × Value)) :
    Ensures (modifyFact hooks h changes) w (fun a w' => ∀ e, a = .error e →
      (∀ k i, e ≠ .ruleNetwork k i) → w.store.Unchanged False w'.store) fun _ => True := by
  unfold modifyFact
  refine ensures_bind (ensures_getStore ?_)
  split
  · exact ensures_pure fun _ _ _ => .refl _
  · split
    · exact ensures_pure fun _ answered => by cases answered
    · split
      · exact Unchanged.ensures_refuse .modify fun _ unchanged _ _ _ => unchanged
      · refine ensures_mono (ensures_lending fun w' _ => ensures_replaceFact_answer hooks w' h _ _) ?_
        intro a _ failed e answered other
        obtain ⟨k, i, rfl⟩ := failed e answered
        exact absurd rfl (other k i)

/-- A fact made for the occasion is asserted unless the guard is held. -/
theorem ensures_assertMade (hooks : Hooks N ρ ν) {w : World N ρ ν} {h : Handle} {f : Fact}
    (found : w.store.get? h = some f) (unattached : f.isUnattached = true)
    (unguarded : w.store.guarded = false) :
    Ensures (assertFact hooks h) w (fun a _ => ∀ e, a = .error e → ∃ k i, e = .ruleNetwork k i)
      fun _ => True := by
  refine ensures_mono (ensures_assertAt hooks w h .tail) fun a _ declined e answered => ?_
  by_contra other
  obtain ⟨-, attached | guarded | ⟨e, astray⟩⟩ :=
    declined e answered fun k i same => other ⟨k, i, same⟩
  · rw [attached f found] at unattached
    cases unattached
  · rw [unguarded] at guarded
    cases guarded
  · cases astray

omit [JoinNetwork N] in
theorem ensures_createWith (sound : w.store.Sound) {β : Type} {t : TemplateId} {template : Template}
    {fields : List Field} {k : Handle → Process N ρ ν β} {Q : β → World N ρ ν → Prop}
    (rest : ∀ h f s, s.get? h = some f → f.isUnattached = true → s.guarded = w.store.guarded →
      Ensures (k h) { w with store := s } Q fun _ => True) :
    Ensures (step (·.createWith t template fields) >>= k) w Q fun _ => True := by
  refine ensures_bind (ensures_step (fun h s done => ?_) fun _ _ => trivial)
  obtain ⟨quiet, -, found⟩ := createWith_spec sound done
  exact rest h _ s found rfl quiet.alike.guarded

theorem ensures_duplicateFact (hooks : Hooks N ρ ν) (sound : w.store.Sound) (h : Handle)
    (changes : List (Nat × Value)) :
    Ensures (duplicateFact hooks h changes) w (fun a w' => ∀ e, a = .error e →
      (∀ k i, e ≠ .ruleNetwork k i) → w.store.Unchanged False w'.store) fun _ => True := by
  unfold duplicateFact
  refine ensures_bind (ensures_getStore ?_)
  split
  · exact ensures_pure fun _ _ _ => .refl _
  · rename_i f fields patched
    split
    · exact Unchanged.ensures_refuse .duplicate fun _ unchanged _ _ _ => unchanged
    · rename_i unguarded
      refine ensures_mono (ensures_lending
        (Q := fun a => ∀ e, a = .error e → ∃ k i, e = .ruleNetwork k i)
        fun w' lent => ?_) ?_
      · have sound' : w'.store.Sound := by
          rw [lent]
          exact (Step.lend w.store).sound sound
        refine ensures_createWith sound' fun copy g s found unattached same => ?_
        rw [lent] at same
        have free : s.guarded = false := same.trans (Bool.eq_false_iff.mpr unguarded)
        refine ensures_bind (ensures_mono (ensures_assertMade hooks found unattached free) ?_)
        intro a _ failed
        split
        · exact ensures_pure fun _ answered => by cases answered
        · rename_i fact index
          refine ensures_pure fun e answered => ?_
          cases answered
          exact ⟨fact, index, rfl⟩
        · rename_i e other
          obtain ⟨k, i, rfl⟩ := failed e rfl
          exact absurd rfl (other k i)
      · intro a _ failed e answered other
        obtain ⟨k, i, rfl⟩ := failed e answered
        exact absurd rfl (other k i)

theorem ensures_commitBuilder (hooks : Hooks N ρ ν) (sound : w.store.Sound) (b : Builder) :
    Ensures (b.commit hooks) w (fun a w' => ∀ e, a.1 = .error e →
      (∀ k i, e ≠ .ruleNetwork k i) → w.store.Unchanged True w'.store) fun _ => True := by
  unfold Builder.commit
  refine ensures_bind (ensures_getStore ?_)
  split
  · exact ensures_pure fun _ _ _ => .refl _
  · rename_i unguarded
    split
    · exact ensures_pure fun _ _ _ => .refl _
    · obtain ⟨draws, drawn⟩ := builderFields_eq b (b.template.slots.zip b.staged).zipIdx w.store
      have sound' := (Step.builderFields b (b.template.slots.zip b.staged).zipIdx w.store).sound sound
      revert drawn sound'
      generalize b.fields (b.template.slots.zip b.staged).zipIdx w.store = collected
      obtain ⟨fields, s⟩ := collected
      rintro rfl sound'
      refine ensures_bind (ensures_setStore ?_)
      cases fields with
      | error e => exact ensures_pure fun _ _ _ => ⟨rfl, Nat.le_refl _, fun no => absurd trivial no⟩
      | ok fields =>
        refine ensures_createWith (w := { w with store := { w.store with draws } }) sound'
          fun h g s found unattached same => ?_
        have free : s.guarded = false := same.trans (Bool.eq_false_iff.mpr unguarded)
        refine ensures_bind (ensures_mono (ensures_assertMade hooks found unattached free) ?_)
        intro a _ failed
        split
        · exact ensures_pure fun _ answered => by cases answered
        · rename_i e
          obtain ⟨k, i, rfl⟩ := failed e rfl
          refine ensures_pure fun e answered other => ?_
          cases answered
          exact absurd rfl (other k i)

/-- A pattern is compiled before anything else happens. -/
theorem addPattern_answer {s s' : Store N} {p : Pattern} {label : String}
    {r : Except PatternError EntryId} {notices : List Notice}
    (done : s.addPattern p label = .ok (r, notices, s')) : s' = s ∨ ∃ id, r = .ok id := by
  unfold Store.addPattern at done
  split at done
  · cases done
    exact .inl rfl
  · split at done
    · cases done
      exact .inl rfl
    · dsimp only at done
      split at done
      · obtain ⟨⟨o, u⟩, -, done⟩ := bind_eq_ok.mp done
        cases done
        exact .inr ⟨_, rfl⟩
      · cases done
        exact .inr ⟨_, rfl⟩

/-- A request that is declined changes nothing. -/
theorem declined_changes_nothing (hooks : Hooks N ρ ν) (reached : w.store.Reached) {r : Request α}
    {a : α} {w' : World N ρ ν} (answered : r.perform hooks w = .ok a w') (declined : r.Declines a) :
    w.store.Unchanged r.AsksFirst w'.store := by
  have sound := reached.sound
  have ensures : Ensures (r.perform hooks) w
      (fun a w' => r.Declines a → w.store.Unchanged r.AsksFirst w'.store) fun _ => True := by
    cases r with
    | createFact template =>
      refine ensures_step (fun a s done declined => ?_) fun _ _ => trivial
      obtain ⟨-, rfl⟩ | ⟨_, _, _, rfl, -⟩ := createFact_eq_ok done
      · exact .refl _
      · exact declined.elim
    | createOrdered relation values =>
      refine ensures_step (fun a s done declined => ?_) fun _ _ => trivial
      obtain ⟨_, -, -, rfl⟩ | ⟨_, _, _, _, _, _, rfl, -⟩ := createOrdered_eq_ok done
      · exact .refl _
      · exact declined.elim
    | discard h =>
      refine ensures_step (fun a s done declined => ?_) fun _ _ => trivial
      obtain ⟨_, -, rfl⟩ | ⟨_, _, _, _, rfl⟩ := discard_eq_ok done
      · exact .refl _
      · exact declined.elim
    | release h =>
      refine ensures_step (fun a s done declined => ?_) fun _ _ => trivial
      obtain ⟨-, -, rfl⟩ | ⟨_, _, _, rfl, _⟩ := release_eq_ok done
      · exact .refl _
      · exact declined.elim
    | deinstall h =>
      refine ensures_step (fun a s done declined => ?_) fun _ _ => trivial
      obtain ⟨-, -, rfl⟩ | ⟨_, _, _, _, _, rfl, _⟩ := deinstall_eq_ok done
      · exact .refl _
      · exact declined.elim
    | assertAt h position =>
      refine ensures_mono (ensures_assertAt hooks w h position) fun a _ unchanged declined => ?_
      cases a with
      | ok => exact declined.elim
      | error e => exact (unchanged e rfl declined).1
    | retract h =>
      refine ensures_mono (ensures_retract hooks w h) fun a _ unchanged declined => ?_
      cases a with
      | ok => exact declined.elim
      | error e => exact unchanged e rfl declined
    | modify h changes =>
      refine ensures_mono (ensures_modifyFact hooks w h changes) fun a _ unchanged declined => ?_
      cases a with
      | ok => exact declined.elim
      | error e => exact unchanged e rfl declined
    | duplicate h changes =>
      refine ensures_mono (ensures_duplicateFact hooks sound h changes)
        fun a _ unchanged declined => ?_
      cases a with
      | ok => exact declined.elim
      | error e => exact unchanged e rfl declined
    | commitBuilder b =>
      refine ensures_mono (ensures_commitBuilder hooks sound b) fun a _ unchanged declined => ?_
      obtain ⟨a, b'⟩ := a
      cases a with
      | ok => exact declined.elim
      | error e => exact unchanged e rfl declined
    | addPattern p label =>
      refine ensures_bind (ensures_step (fun x s done => ?_) fun _ _ => trivial)
      refine ensures_bind (ensures_notifyAll (ensures_pure fun declined => ?_))
      obtain rfl | ⟨id, answered⟩ := addPattern_answer (addPattern_eq_ok done)
      · exact .refl _
      · rw [answered] at declined
        exact declined.elim
    | putSlot | putSlotAt | retain | install | undefineTemplate | removePattern =>
      exact ensures_attemptChange (fun _ _ declined => declined.elim) fun _ _ _ => .refl _
    | defineTemplate | addListener | makeBuilder | makeModifier =>
      exact ensures_attempt (fun _ _ _ declined => declined.elim) fun _ _ _ => .refl _
    | _ => exact ensures_mono (ensures_trivial _ _) fun _ _ _ declined => declined.elim
  unfold Ensures at ensures
  rw [answered] at ensures
  exact ensures declined

/-- While the guard is held, a lamp is not asserted; the refusal is counted. -/
theorem declined_changes_nothing_lamp :
    let begun : Store MatchCounter := .fresh {} {} fun _ _ => 0
    let quiet : Hooks MatchCounter Unit Unit := fun _ _ => pure ()
    let made : Except StoreError Handle × Store MatchCounter :=
      ((begun.createOrdered "lamp" [.nil]).toOption).getD (.error (.unknownFact ⟨0, 0⟩), begun)
    let w : World MatchCounter Unit Unit := { store := { made.2 with guarded := true }, host := () }
    let w' := (assertAt quiet ⟨0, 0⟩ .tail).aftermath w
    w'.store.counters.guardRejections = 1 ∧ w.store.Unchanged False w'.store := by
  intro begun quiet made w w'
  have created : begun.createOrdered "lamp" [.nil] = .ok made := rfl
  have reached : w.store.Reached :=
    .move (.move (.fresh {} {} fun _ _ => 0) (.chore (.createOrdered created)))
      (.chore (.guarded made.2 true))
  have answered : (Request.assertAt ⟨0, 0⟩ .tail).perform quiet w = .ok (.error .couldNotAssert) w' :=
    rfl
  exact ⟨rfl, declined_changes_nothing quiet reached answered fun _ _ => AssertError.noConfusion⟩

end FactBase

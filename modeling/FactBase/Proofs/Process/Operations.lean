import FactBase.Proofs.Process.Stepwise
import FactBase.Proofs.Store.Sweeping

/-!
# Operations as rows of steps

Whatever its listeners do, as long as they go on by steps themselves, every operation goes on by
steps and upholds what its listeners uphold, and it spares the unattached facts that neither it nor
a client made.
-/

namespace FactBase

open Store Process

variable {N σ : Type} [JoinNetwork N] {R : Condition N σ} {pending : Option Handle}
  {start : Store N} {w : World N (Memo σ) (Store N)} {es : List Handle}
  {hooks : Hooks N (Memo σ) (Store N)}

/-! ### Answers -/

/-- Whether an assert attached a fact or ended with what the rule network said of it. -/
def attached {ε : Type} (failure : ε → Failure) : Except ε Asserted → Bool
  | .ok a => a.isNew
  | .error e => (failure e).isRuleNetwork

/-- Whether a retraction was carried out, whatever the rule network said. -/
def detached : Except RetractError Unit → Bool
  | .ok () => true
  | .error e => (Failure.retract e).isRuleNetwork

/-- Whether a modification put another fact in the place of one, whatever the rule network said. -/
def replaced (h : Handle) : Except ModifyError Handle → Bool
  | .ok k => k != h
  | .error e => (Failure.modify e).isRuleNetwork

/-- The guard is at the value it had, and if facts came or went no garbage waits that is due. -/
structure Tidied (turned : Prop) (w w' : World N (Memo σ) (Store N)) : Prop where
  guard : SameGuard w w'
  swept : turned → w'.store.Swept

omit [JoinNetwork N] in
theorem Tidied.of_not {turned : Prop} {w' : World N (Memo σ) (Store N)} (guard : SameGuard w w')
    (still : ¬ turned) : Tidied turned w w' :=
  ⟨guard, fun happened => absurd happened still⟩

omit [JoinNetwork N] in
/-- A change list is not applied over what is wrong with it. -/
theorem patch_eq_error {template : Template} {depth : Nat} {changes : List (Nat × Value)}
    {fields : List Field} {e : ModifyError} (failed : patch template depth changes fields = .error e) :
    (Failure.modify e).isRuleNetwork = false := by
  induction changes generalizing fields with
  | nil => cases failed
  | cons change rest ih =>
    unfold patch at failed
    split at failed
    · rw [← Except.error.inj failed]
      rfl
    · split at failed
      · rw [← Except.error.inj failed]
        rfl
      · exact ih failed

omit [JoinNetwork N] in
theorem patched_eq_error {s : Store N} {h : Handle} {changes : List (Nat × Value)} {e : ModifyError}
    (failed : s.patched h changes = .error e) : (Failure.modify e).isRuleNetwork = false := by
  rcases bind_eq_error.mp failed with missing | ⟨f, -, failed⟩
  · unfold Store.asserted at missing
    repeat' split at missing
    all_goals cases missing <;> rfl
  · rcases bind_eq_error.mp failed with refused | ⟨fields, -, done⟩
    · exact patch_eq_error refused
    · cases done

/-! ### Assert -/

/-- A pending fact is pending no more once it is matched. -/
theorem runs_matchAsserted (assertive : Assertive start R) {h : Handle}
    (stepwise : Stepwise R (some h) w) (asserted : w.store.isAsserted h = true) :
    Runs R none (matchAsserted h) w [h] fun _ => SameGuard w := by
  have matched : Runs R none (step (·.matchFact h .assert)) w [h] fun o w' =>
      Unbroken o.notices ∧ SameGuard w w' :=
    runs_step stepwise (fun o s done =>
      ⟨stepwise.move (.matchFact asserted done)
        (assertive.matchFact stepwise.holds stepwise.reached asserted done),
        (matchFact_spec done).leaves, unbroken_matchFact done, (matchFact_spec done).alike.guarded⟩)
      fun _ => .matchFact asserted
  refine matched.bindExcept fun o _ stepwise _ ⟨unbroken, same⟩ => ?_
  refine (runs_notifyAll stepwise unbroken).bind fun _ _ stepwise _ ⟨store, _⟩ => ?_
  exact runs_pure stepwise ((congrArg Store.guarded store).trans same)

theorem runs_count (stepwise : Stepwise R pending w) {f : Store N → Store N}
    (errand : Errand w.store (f w.store))
    (counts : ∀ s, f s = { s with counters := (f s).counters }) :
    Runs R pending (updateStore f) w [] fun _ w' =>
      w'.store.global = w.store.global ∧ w'.store.facts = w.store.facts ∧ SameGuard w w' := by
  have leaves : Leaves [] w.store (f w.store) := by
    rw [counts]
    exact leaves_of_facts_eq rfl rfl
  refine runs_update (stepwise.errand errand) leaves ?_
  dsimp only [SameGuard]
  rw [counts]
  exact ⟨rfl, rfl, rfl⟩

theorem runs_free (stepwise : Stepwise R none w) {h : Handle} {f : Fact}
    (found : w.store.get? h = some f) (unattached : f.isUnattached = true)
    (holds : ∀ s, w.store.free h = .ok s → R none w.host.notes s) :
    Runs R none (change (·.free h)) w [h] fun _ w' =>
      SameGuard w w' ∧ (w.store.Swept → w'.store.Swept) :=
  runs_change stepwise (fun s done => by
    obtain ⟨quiet, -⟩ := free_spec stepwise.reached.sound found unattached done
    exact ⟨stepwise.move (.chore (.free found unattached done)) (holds s done), quiet.leaves,
      quiet.alike.guarded, fun swept => swept.free stepwise.reached.sound found unattached done⟩)
    fun _ => .free found unattached

theorem runs_rejectDuplicate (stepwise : Stepwise R none w) {h : Handle} {f : Fact}
    (found : w.store.get? h = some f) (unattached : f.isUnattached = true)
    (holds : ∀ s, w.store.free h = .ok s → R none w.host.notes s) :
    Runs R none (rejectDuplicate h) w [h] fun _ => SameGuard w :=
  (runs_free stepwise found unattached holds).bindExcept fun _ _ stepwise _ ⟨same, _⟩ =>
    (runs_count stepwise (.countDuplicate _) fun _ => rfl).mono
      (fun _ _ counted => counted.2.2.trans same)
      (List.nil_subset _)

theorem runs_maybeCollect (stepwise : Stepwise R none w) :
    Runs R none (change (·.maybeCollect)) w [] fun _ => Tidied (w.store.guarded = false) w :=
  runs_change stepwise (fun _ done => by
    obtain ⟨leaves, same⟩ := (maybeCollect_spec stepwise.reached.sound done).2
    exact ⟨stepwise.errand (.maybeCollect done), leaves, same,
      fun unguarded => swept_maybeCollect stepwise.reached.sound unguarded done⟩)
    fun _ => .maybeCollect

/-- Attaching a fact that is unattached, behind asserted facts. It is pending then. Whether this is a
move of its own is left open. -/
theorem runs_attach (assertive : Assertive start R) (stepwise : Stepwise R none w) {h : Handle}
    {f : Fact} {hash : UInt64} {reuse : Option Nat} {previous templatePrevious : Option Handle}
    (moves : ∀ index s, w.store.attach h reuse hash previous templatePrevious = .ok (index, s) →
      s.Reached ∧ World.Trail { w with store := s })
    (found : w.store.get? h = some f) (unattached : f.isUnattached = true)
    (new : start.isAsserted h = false) (unrivalled : Strict R → w.store.Unrivalled f)
    (hashed : hash = w.store.hashOf f) (positive : ∀ i, reuse = some i → i ≠ 0)
    (listed : ∀ p, previous = some p → ∃ g, w.store.get? p = some g ∧ g.isAsserted = true)
    (listedInTemplate : ∀ p, templatePrevious = some p →
      ∃ g, w.store.get? p = some g ∧ g.isAsserted = true ∧ g.templateId = f.templateId) :
    Runs R (some h) (step (·.attach h reuse hash previous templatePrevious)) w [h]
      fun _ w' => w'.store.global.head ≠ none ∧ w'.store.isAsserted h = true ∧ SameGuard w w' := by
  subst hashed
  obtain ⟨u, attached, sound, attaches⟩ :=
    attach_spec stepwise.reached.sound found unattached positive listed listedInTemplate
  refine runs_step stepwise (fun index s done => ?_) fun b failed => ?_
  · obtain ⟨reached, trail⟩ := moves index s done
    rw [attached] at done
    obtain ⟨-, rfl⟩ := Prod.mk.inj (Except.ok.inj done)
    have numbered : reuse.getD w.store.nextIndex ≠ 0 := by
      cases reuse with
      | none => exact Nat.pos_iff_ne_zero.mp stepwise.reached.sound.numbered
      | some i => exact positive i rfl
    have step := Step.attach found unattached positive listed listedInTemplate attached
    obtain ⟨counted, -⟩ := attach_counts found (Fact.isUnattached_iff.mp unattached).1 attached
    have grown : w.store.nextIndex ≤ u.nextIndex := by
      rw [counted]
      split <;> omega
    have sustains := Sustains.attach stepwise.reached.sound found unattached positive listed
      listedInTemplate attached
    have holds := assertive.attach stepwise.holds stepwise.reached found unattached numbered new
      unrivalled step attaches sustains grown
    obtain ⟨g, stored, asserted⟩ := attaches.asserted unattached numbered
    refine ⟨⟨stepwise.upheld, reached, holds, stepwise.seen.looks, trail, stepwise.seen.broken,
        R.passes holds, reached⟩,
      attaches.leaves, sound.listed.head_ne_none stored asserted,
      isAsserted_iff_exists.mpr ⟨g, stored, asserted⟩, ?_⟩
    obtain ⟨_, _, _, _, _, _, rest⟩ := attaches.rest
    dsimp only [SameGuard]
    rw [rest]
  · rw [attached] at failed
    cases failed

omit [JoinNetwork N] in
/-- A fact is only put behind an asserted one. -/
theorem asserted_of_predecessor {s : Store N} (sound : s.Sound) {position : Position}
    {previous : Option Handle} (placed : predecessor s position = .ok previous) :
    ∀ p, previous = some p → ∃ g, s.get? p = some g ∧ g.isAsserted = true := by
  rintro p rfl
  cases position with
  | tail => exact sound.listed.tail (Except.ok.inj placed)
  | head => cases placed
  | after h =>
    simp only [predecessor] at placed
    split at placed
    · rename_i asserted
      obtain rfl := Option.some.inj (Except.ok.inj placed)
      exact isAsserted_iff_exists.mp asserted
    · cases placed

omit [JoinNetwork N] in
/-- Otherwise the fact named is not known. -/
theorem unknown_of_predecessor {s : Store N} {position : Position} {e : AssertError}
    (astray : predecessor s position = .error e) : ∃ h, e = .unknownFact h := by
  cases position with
  | tail | head => cases astray
  | after h =>
    simp only [predecessor] at astray
    split at astray
    · cases astray
    · exact ⟨h, (Except.error.inj astray).symm⟩

/-- At last the guard is given up, listeners hear of it and garbage is collected. -/
theorem runs_finish {w₀ : World N (Memo σ) (Store N)} {α : Type} (courteous : Courteous R hooks)
    (stepwise : Stepwise R none w) (unguarded : w₀.store.guarded = false) (e : Event) (a : α) :
    Runs R none (do
      setGuarded false
      signal hooks e
      change (·.maybeCollect)
      return a) w es fun _ => Tidied True w₀ := by
  refine (runs_setGuarded stepwise false).bind fun _ _ stepwise _ same => ?_
  subst same
  refine (runs_signal courteous e stepwise).bind fun _ _ stepwise _ heard => ?_
  refine (runs_maybeCollect stepwise).bind fun _ _ stepwise _ collected => ?_
  exact runs_pure stepwise
    ⟨(collected.guard.trans heard).trans unguarded.symm, fun _ => collected.swept heard⟩

omit [JoinNetwork N] in
theorem rejects_of_duplicate {s : Store N} {h existing : Handle} {f : Fact} {position : Position}
    {previous : Option Handle} (found : s.get? h = some f) (unattached : f.isUnattached = true)
    (unguarded : ¬ s.guarded = true) (placed : predecessor s position = .ok previous)
    (duplicate : s.duplicateOf? h f (s.hashOf f) = some existing) :
    s.rejects h position = true := by
  simp [Store.rejects, found, unattached, unguarded, placed, duplicate, Except.toOption]

theorem runs_assertAt (courteous : Courteous R hooks) (assertive : Assertive start R)
    (stepwise : Stepwise R none w) {h : Handle}
    (new : w.store.isAsserted h = false → start.isAsserted h = false) (position : Position)
    (rejected : ∀ f s, w.store.rejects h position = true → w.store.get? h = some f →
      f.isUnattached = true → w.store.free h = .ok s → R none w.host.notes s) :
    Runs R none (assertAt hooks h position) w [h] fun a =>
      Tidied (w.store.isAsserted h = false ∧ attached .assert a = true) w := by
  have idle {e : AssertError} {w' : World N (Memo σ) (Store N)} (same : SameGuard w w')
      (other : (Failure.assert e).isRuleNetwork = false) :
      Tidied (w.store.isAsserted h = false ∧ attached .assert (.error e) = true) w w' :=
    .of_not same fun ⟨_, turned⟩ => by
      rw [attached, other] at turned
      cases turned
  unfold assertAt
  refine runs_getStore ?_
  split
  · exact runs_pure stepwise (idle rfl rfl)
  · rename_i f found
    split
    · exact runs_pure stepwise (idle rfl rfl)
    · split
      · rename_i notGarbage numbered
        refine runs_pure stepwise (.of_not rfl fun ⟨aside, _⟩ => ?_)
        rw [Store.isAsserted, found, Option.any_some] at aside
        have asserted := Fact.isAsserted_iff.mpr ⟨numbered, Bool.eq_false_iff.mpr notGarbage⟩
        exact absurd asserted (Bool.eq_false_iff.mp aside)
      · split
        · exact (runs_refuse stepwise .assert).bind fun _ _ stepwise _ same =>
            runs_pure stepwise (idle same rfl)
        · split
          · rename_i e astray
            obtain ⟨_, rfl⟩ := unknown_of_predecessor astray
            exact runs_pure stepwise (idle rfl rfl)
          · rename_i notGarbage unnumbered unguarded _ previous placed
            have unattached : f.isUnattached = true :=
              Fact.isUnattached_iff.mpr ⟨not_not.mp unnumbered, Bool.eq_false_iff.mpr notGarbage⟩
            have free : w.store.isAsserted h = false := by
              rw [Store.isAsserted, found, Option.any_some]
              exact Bool.eq_false_iff.mpr (not_asserted_of_unattached unattached)
            dsimp only
            split
            · rename_i duplicate
              have rejects := rejects_of_duplicate found unattached unguarded placed duplicate
              exact (runs_rejectDuplicate stepwise found unattached
                fun s => rejected f s rejects found unattached).bindExcept
                fun _ _ stepwise _ same =>
                  runs_pure stepwise (.of_not same fun both => by cases both.2)
            · rename_i missed
              have sound := stepwise.reached.sound
              have listed := asserted_of_predecessor sound placed
              refine (runs_attach assertive stepwise (fun index s done => ?_) found unattached
                (new free) (fun strict => ?_) rfl (fun i same => ?_) listed ?_).bindExcept ?_
              · have move := Move.asserts found unattached listed done
                exact ⟨stepwise.reached.move move, stepwise.seen.trail.move move⟩
              · exact sound.unrivalled (strict _ _ stepwise.holds) free missed
              · cases same
              · exact fun p tail => (sound.listedByTemplate _).tail tail
              · rintro index w₁ stepwise - ⟨occupied, asserted, -⟩
                refine (runs_count stepwise (.countAsserted _) fun _ => rfl).bind ?_
                rintro - w₂ stepwise - ⟨global, facts, -⟩
                refine (runs_setGuarded stepwise true).bind fun _ _ stepwise _ same => ?_
                subst same
                have guarded : Guarded { w₂.store with guarded := true } :=
                  ⟨stepwise.reached.sound, rfl, global ▸ occupied⟩
                refine (waits_signal courteous h stepwise guarded).bind
                  fun _ w₃ stepwise _ still => ?_
                have waits : w₃.store.isAsserted h = true := by
                  rw [still.alike.isAsserted]
                  rwa [Store.isAsserted, Store.get?, ← facts] at asserted
                refine (runs_matchAsserted assertive stepwise waits).bindExcept
                  fun failed _ stepwise _ _ => ?_
                exact (runs_finish courteous stepwise (Bool.eq_false_iff.mpr unguarded) _ _).mono
                  (fun _ _ tidied => ⟨tidied.guard, fun _ => tidied.swept trivial⟩)
                  (List.Subset.refl _)

omit [JoinNetwork N] in
theorem not_asserted_of_missing {s : Store N} {h : Handle} (missing : s.get? h = none) :
    s.isAsserted h = false := by
  rw [Store.isAsserted, missing, Option.any_none]

/-- A fact made for the occasion is asserted. -/
theorem runs_assertMade (courteous : Courteous R hooks) (assertive : Assertive start R)
    (stepwise : Stepwise R none w) {h : Handle} (fresh : start.get? h = none)
    (named : h = start.facts.nextHandle) (aside : w.store.isAsserted h = false) :
    Runs R none (assertFact hooks h) w [h] fun a => Tidied (attached .assert a = true) w :=
  (runs_assertAt courteous assertive stepwise (fun _ => not_asserted_of_missing fresh) .tail
    fun _ _ _ found unattached =>
      assertive.free stepwise.holds stepwise.reached found unattached named).mono
    (fun _ _ tidied => ⟨tidied.guard, fun turned => tidied.swept ⟨aside, turned⟩⟩)
    (List.Subset.refl _)

theorem runs_assertOrdered (courteous : Courteous R hooks) (assertive : Assertive w.store R)
    (stepwise : Stepwise R none w) {relation : String} {values : List Value}
    (makes : ∀ r s, w.store.createOrdered relation values = .ok (r, s) →
      Survives R w.host.notes w.store s) :
    Runs R none (assertOrdered hooks relation values) w [] fun a =>
      Tidied (attached id a = true) w := by
  unfold assertOrdered
  have created : Runs R none (step (·.createOrdered relation values)) w [] fun r w' =>
      (∀ h, r = .ok h → w.store.get? h = none ∧ h = w.store.facts.nextHandle ∧
        w'.store.isAsserted h = false) ∧ SameGuard w w' :=
    runs_step stepwise (fun r _ done => by
      obtain ⟨quiet, fresh⟩ := createOrdered_spec stepwise.reached.sound done
      refine ⟨stepwise.move (.chore (.createOrdered done))
        (makes r _ done stepwise.holds stepwise.reached), quiet.leaves, ?_, quiet.alike.guarded⟩
      rintro h rfl
      refine ⟨fresh h rfl, createOrdered_nextHandle done, ?_⟩
      exact (quiet.alike.isAsserted h).trans (not_asserted_of_missing (fresh h rfl)))
      fun _ => .createOrdered
  refine created.bindFresh fun r _ stepwise _ ⟨fresh, before⟩ => ?_
  cases r with
  | error e =>
    exact ⟨[], by simp, runs_pure stepwise (.of_not before fun turned => by cases turned)⟩
  | ok h =>
    obtain ⟨fresh, named, aside⟩ := fresh h rfl
    refine ⟨[h], by simpa using fresh, ?_⟩
    refine (runs_assertMade courteous assertive stepwise fresh named aside).bindExcept
      fun a w' stepwise _ ⟨after, swept⟩ => ?_
    cases a with
    | ok a => exact runs_pure stepwise ⟨after.trans before, swept⟩
    | error e =>
      refine runs_getStore ?_
      split
      · rename_i unnumbered
        obtain ⟨f, found, zero⟩ := (Option.any_eq_true _ _).mp unnumbered
        have unattached :=
          unattached_of_unnumbered stepwise.reachable.sound found (by simpa using zero)
        exact (runs_free stepwise found unattached fun _ =>
          assertive.free stepwise.holds stepwise.reached found unattached named).bindExcept
          fun _ _ stepwise _ ⟨freed, keeps⟩ => runs_pure stepwise
            ⟨(freed.trans after).trans before, fun turned => keeps (swept turned)⟩
      · exact runs_pure stepwise ⟨after.trans before, swept⟩

/-! ### Retract -/

theorem runs_detach (stepwise : Stepwise R none w) (h : Handle) :
    Runs R none (Process.detach h) w [] fun d w' =>
      w.store.detach h = .ok (d, w'.store) ∧ w'.looks = w.looks := by
  unfold Process.detach
  have detached : Runs R none (step (·.detach h)) w [] fun d w' =>
      w.store.detach h = .ok (d, w'.store) ∧ w'.looks = w.looks :=
    runs_step stepwise (fun d _ done => by
      obtain ⟨f, _, _, _, detaches, _⟩ := detach_spec stepwise.reached.sound done
      exact ⟨stepwise.move (.detach done)
        (stepwise.upheld.detach stepwise.holds stepwise.reached done), detaches.leaves, done, rfl⟩)
      fun _ => .detach
  refine detached.bind fun d w' stepwise _ ⟨done, looks⟩ => ?_
  refine (runs_notifyAll stepwise (unbroken_detach done)).bind
    fun _ w'' stepwise _ ⟨store, looks'⟩ => ?_
  exact runs_pure stepwise ⟨store ▸ done, looks'.trans looks⟩

theorem runs_retract (courteous : Courteous R hooks) (stepwise : Stepwise R none w) (h : Handle) :
    Runs R none (retract hooks h) w [] fun a =>
      Tidied (w.store.isAsserted h = true ∧ detached a = true) w := by
  have idle {e : RetractError} {w' : World N (Memo σ) (Store N)} (same : SameGuard w w')
      (other : (Failure.retract e).isRuleNetwork = false) :
      Tidied (w.store.isAsserted h = true ∧ detached (.error e) = true) w w' :=
    .of_not same fun ⟨_, turned⟩ => by
      rw [detached, other] at turned
      cases turned
  unfold retract
  refine runs_getStore ?_
  split
  · exact runs_pure stepwise (idle rfl rfl)
  · rename_i f found
    split
    · rename_i garbage
      refine runs_pure stepwise (.of_not rfl fun ⟨asserted, _⟩ => ?_)
      rw [Store.isAsserted, found, Option.any_some] at asserted
      exact absurd garbage (Bool.eq_false_iff.mp (Fact.isAsserted_iff.mp asserted).2)
    · split
      · exact runs_pure stepwise (idle rfl rfl)
      · split
        · exact (runs_refuse stepwise .retract).bind fun _ _ stepwise _ same =>
            runs_pure stepwise (idle same rfl)
        · rename_i unguarded
          refine (runs_setGuarded stepwise true).bind fun _ _ stepwise _ _ => ?_
          refine (runs_signal courteous _ stepwise).bind fun _ _ stepwise _ _ => ?_
          refine (runs_detach stepwise h).bind fun d _ stepwise _ _ => ?_
          exact (runs_finish courteous stepwise (Bool.eq_false_iff.mpr unguarded) _ _).mono
            (fun _ _ tidied => ⟨tidied.guard, fun _ => tidied.swept trivial⟩)
            (List.Subset.refl _)

theorem runs_retractAll (courteous : Courteous R hooks) (rounds : Nat) (stepwise : Stepwise R none w) :
    Runs R none (retractAll hooks rounds) w [] fun r w' =>
      (∀ n, r = .ok n → w'.store.global.head = none) ∧ SameGuard w w' := by
  induction rounds generalizing w with
  | zero => exact runs_throw stepwise .nesting
  | succ rounds ih =>
    unfold retractAll
    refine runs_getStore ?_
    split
    · rename_i empty
      exact runs_pure stepwise ⟨fun _ _ => empty, rfl⟩
    · rename_i h _
      refine (runs_retract courteous stepwise h).bind fun r _ stepwise _ ⟨first, _⟩ => ?_
      cases r with
      | error e => exact runs_pure stepwise ⟨by simp, first⟩
      | ok u =>
        refine (ih stepwise).bind fun r w' stepwise _ ⟨empty, others⟩ => ?_
        cases r with
        | error e => exact runs_pure stepwise ⟨by simp, others.trans first⟩
        | ok n => exact runs_pure stepwise ⟨fun _ _ => empty n rfl, others.trans first⟩

theorem runs_collectGarbage (stepwise : Stepwise R none w) :
    Runs R none Process.collectGarbage w [] fun _ w' =>
      w'.store.global = w.store.global ∧ SameGuard w w' :=
  runs_step stepwise (fun n _ done => by
    obtain ⟨_, leaves, same⟩ := collectGarbage_spec stepwise.reached.sound done
    exact ⟨stepwise.errand (.collectGarbage done), leaves, same⟩) fun _ => .collectGarbage

theorem runs_clear (courteous : Courteous R hooks) (rounds : Nat)
    (upheld : (Request.clear rounds).KeptAt w.store w.host.notes R) (stepwise : Stepwise R none w) :
    Runs R none (clear hooks rounds) w [] fun _ => SameGuard w := by
  unfold clear
  refine (runs_retractAll courteous rounds stepwise).bind fun r w' stepwise _ ⟨empty, first⟩ => ?_
  cases r with
  | error e => exact runs_pure stepwise first
  | ok n =>
    refine (runs_collectGarbage stepwise).bind fun _ w'' stepwise _ ⟨global, collected⟩ => ?_
    refine runs_getStore ?_
    have same := collected.trans first
    dsimp only
    split
    · rename_i none_left
      have none_asserted : w''.store.global.head = none := by rw [global, empty n rfl]
      have none_retracted := List.isEmpty_iff.mp none_left
      have renumbered : Runs R none (updateStore fun s : Store N => { s with nextIndex := 1 }) w'' []
          fun _ => SameGuard w'' :=
        runs_update (stepwise.move (.renumber none_asserted none_retracted)
          (upheld stepwise.holds stepwise.reached none_asserted none_retracted))
          (leaves_of_facts_eq rfl rfl) rfl
      exact renumbered.bind fun _ _ stepwise _ again => runs_pure stepwise (again.trans same)
    · exact runs_pure stepwise same

/-! ### Modify -/

/-- All facts that a client made, as far as it remembers, are still there. -/
def Current (w : World N (Memo σ) (Store N)) : Prop :=
  ∀ h ∈ w.host.made, (w.store.get? h).isSome

theorem runs_createWith (stepwise : Stepwise R none w) {t : TemplateId} {template : Template}
    {fields : List Field} (makes : ∀ h s, w.store.createWith t template fields = .ok (h, s) →
      Survives R w.host.notes w.store s) :
    Runs R none (step (·.createWith t template fields)) w [] fun h w' => w'.host = w.host ∧
      w.store.get? h = none ∧ w'.store.get? h = some { template, templateId := t, fields } ∧
      w.store.Alike w'.store ∧ h = w.store.facts.nextHandle :=
  runs_step stepwise (fun h _ done => by
    obtain ⟨quiet, fresh, found⟩ := createWith_spec stepwise.reached.sound done
    exact ⟨stepwise.move (.chore (.createWith done))
      (makes h _ done stepwise.holds stepwise.reached), quiet.leaves, rfl, fresh, found,
      quiet.alike, createWith_nextHandle done⟩)
    fun _ => .createWith

/-- The replacement is out of everyone's reach until it takes the place of the fact. -/
theorem runs_replaceFact (courteous : Courteous R hooks) (assertive : Assertive start R)
    (missing : ∀ k, w.store.get? k = none → start.isAsserted k = false)
    (next : w.store.facts.nextHandle = start.facts.nextHandle)
    (stepwise : Stepwise R none w) (current : Current w) {h : Handle} {f : Fact}
    (found : w.store.get? h = some f) (asserted : f.isAsserted = true) {fields : List Field}
    (unguarded : w.store.guarded = false)
    (makes : ∀ k s, w.store.createWith f.templateId f.template fields = .ok (k, s) →
      Survives R w.host.notes w.store s) :
    Runs R none (replaceFact hooks h f fields) w [] fun _ => Tidied True w := by
  unfold replaceFact
  refine (runs_createWith stepwise makes).bindFresh fun r w₁ stepwise _ made => ?_
  obtain ⟨host, fresh, stored, alike, named⟩ := made
  refine ⟨[r], List.forall_mem_singleton.mpr fresh, runs_getStore ?_⟩
  extract_lets copy hash duplicate
  have attached : f.isUnattached = false :=
    Bool.eq_false_iff.mpr fun u => not_asserted_of_unattached u asserted
  obtain ⟨g, found₁, like⟩ := (alike.facts h).attached found attached
  have unrivalled (missed : duplicate = none) (strict : Strict R) :
      Unrivalled { w₁.store with guarded := true } copy :=
    stepwise.reached.sound.unrivalled (strict _ _ stepwise.holds)
      (by rw [Store.isAsserted, stored]; rfl) missed
  have strange : r ∉ w₁.host.made := by
    rw [host]
    intro inside
    have kept := current r inside
    rw [fresh] at kept
    cases kept
  refine (runs_setGuarded stepwise true).bind fun _ w₂ stepwise _ same => ?_
  subst same
  have guarded : Guarded { w₁.store with guarded := true } :=
    ⟨stepwise.reached.sound, rfl, stepwise.reached.sound.listed.head_ne_none found₁
      (like.isAsserted ▸ asserted)⟩
  refine (runs_signal_guarded courteous _ stepwise guarded).bind
    fun _ w₃ stepwise₃ spares₃ still => ?_
  refine (runs_detach stepwise₃ h).bind ?_
  rintro d w₄ stepwise - ⟨detached, looks⟩
  extract_lets finish
  have finishes (x : Handle × Bool) {w' : World N (Memo σ) (Store N)} (stepwise : Stepwise R none w') :
      Runs R none (finish x) w' [r] fun _ => Tidied True w := by
    obtain ⟨result, failed⟩ := x
    refine (runs_setGuarded stepwise false).bind fun _ _ stepwise _ same => ?_
    subst same
    refine (runs_count stepwise (.countModified _) fun _ => rfl).bind ?_
    rintro - _ stepwise - ⟨-, -, counted⟩
    refine (runs_signal courteous _ stepwise).bind fun _ _ stepwise _ heard => ?_
    refine (runs_maybeCollect stepwise).bind fun _ _ stepwise _ collected => ?_
    have free := heard.trans counted
    exact runs_pure stepwise
      ⟨(collected.guard.trans free).trans unguarded.symm, fun _ => collected.swept free⟩
  obtain ⟨⟨x, waiting, same⟩, -⟩ := spares₃.facts r _ stored rfl strange List.not_mem_nil
  have free : x.isUnattached = true := Fact.view_unpinned Fact.isUnattached same fun _ => rfl
  have templateId := Fact.view_unpinned Fact.templateId same fun _ => rfl
  have values : x.values = fields.map (·.value) := Fact.view_unpinned Fact.values same fun _ => rfl
  clear_value duplicate
  obtain ⟨g', found₃, -, -, detaches, listed, listedInTemplate⟩ :=
    detach_spec stepwise₃.reached.sound detached
  have found₄ := detaches.leaves.facts r x waiting free List.not_mem_nil
  cases duplicate with
  | some existing =>
    refine (runs_rejectDuplicate stepwise found₄ free fun _ =>
      assertive.free stepwise.holds stepwise.reached found₄ free (named.trans next)).bindExcept
      fun _ _ stepwise _ _ => ?_
    exact finishes (existing, false) stepwise
  | none =>
    obtain ⟨k, found₃', like'⟩ := (still.alike.facts h).attached found₁
      (like.isUnattached ▸ attached)
    rw [found₃] at found₃'
    obtain rfl := Option.some.inj found₃'
    have template : x.templateId = g'.templateId :=
      templateId.trans (like.templateId.trans like'.templateId)
    have index : f.index = g'.index := like.index.trans like'.index
    have hashed : hash = w₃.store.hashOf x := by
      rw [Store.hashOf, templateId, values, spares₃.contentHash]
      rfl
    refine (runs_attach assertive stepwise (fun i s done => ?_) found₄ free (missing r fresh)
      (fun strict => ?_) ?_ ?_ listed ?_).bindExcept ?_
    · rw [hashed, index] at done
      have move := Move.supersedes found₃ waiting free template detached done
      exact ⟨stepwise₃.reached.move move, stepwise₃.seen.trail.go looks (.single move)⟩
    · refine Unrivalled.detaches (Unrivalled.alike ?_ still.alike) detaches
      exact (unrivalled rfl strict).of_same templateId values
    · rw [hashed, Store.hashOf, Store.hashOf, detaches.leaves.contentHash]
    · intro i same
      rw [← Option.some.inj same]
      exact (Fact.isAsserted_iff.mp asserted).1
    · intro p previous
      rw [template]
      exact listedInTemplate p previous
    · rintro - w₅ stepwise - ⟨-, waits, -⟩
      refine (runs_matchAsserted assertive stepwise waits).bindExcept fun failed _ stepwise _ _ => ?_
      exact finishes (r, failed) stepwise

theorem runs_lending {α : Type} {turned : α → Prop} (stepwise : Stepwise R none w)
    {p : Process N (Memo σ) (Store N) α}
    (runs : ∀ w', Stepwise R none w' →
      w' = { w with store := { w.store with openChanges := w.store.openChanges + 1 } } →
      Runs R none p w' [] fun a => Tidied (turned a) w') :
    Runs R none (lending p) w [] fun a => Tidied (turned a) w := by
  unfold lending
  refine runs_getStore ?_
  have lends : Runs R none (updateStore fun s => { s with openChanges := w.store.openChanges + 1 }) w []
      fun _ w' => w' = { w with store := { w.store with openChanges := w.store.openChanges + 1 } } :=
    runs_update (stepwise.errand (.lend w.store))
      (leaves_of_facts_eq rfl rfl) rfl
  refine lends.bind fun _ w₁ stepwise _ same => ?_
  refine (runs w₁ stepwise same).bind fun a w₂ stepwise _ ⟨guard, swept⟩ => ?_
  have settles : Runs R none (updateStore fun s => { s with
      openChanges := w.store.openChanges
      atoms := s.atoms.settle (.changes w.store.openChanges) }) w₂ [] fun _ w' =>
        SameGuard w₂ w' ∧ (w₂.store.Swept → w'.store.Swept) :=
    runs_update (stepwise.errand (.settle w₂.store _))
      (leaves_of_facts_eq rfl rfl) ⟨rfl, id⟩
  subst same
  exact settles.bind fun _ _ stepwise _ ⟨settled, keeps⟩ =>
    runs_pure stepwise ⟨settled.trans guard, fun happened => keeps (swept happened)⟩

/-- A condition that is kept when a changed copy of a fact is made. -/
abbrev Copies (R : Condition N σ) (notes : σ) (start : Store N) (h : Handle)
    (changes : List (Nat × Value)) : Prop :=
  ∀ ⦃u s : Store N⦄ ⦃f fields k s'⦄, u.patched h changes = .ok (f, fields) → s.facts = u.facts →
    s.facts.nextHandle = start.facts.nextHandle →
    s.createWith f.templateId f.template fields = .ok (k, s') → Survives R notes s s'

omit [JoinNetwork N] in
/-- Only asserted facts are changed by a change list. -/
theorem patched_eq_ok {s : Store N} {h : Handle} {changes : List (Nat × Value)} {f : Fact}
    {fields : List Field} (done : s.patched h changes = .ok (f, fields)) :
    s.get? h = some f ∧ f.isAsserted = true := by
  obtain ⟨g, asserted, done⟩ := bind_eq_ok.mp done
  obtain ⟨fields', -, done⟩ := bind_eq_ok.mp done
  obtain ⟨rfl, -⟩ := Prod.mk.inj (Except.ok.inj done)
  exact asserted_eq_ok asserted

theorem runs_modifyFact (courteous : Courteous R hooks) (assertive : Assertive start R)
    (missing : ∀ k, w.store.get? k = none → start.isAsserted k = false)
    (next : w.store.facts.nextHandle = start.facts.nextHandle)
    (stepwise : Stepwise R none w) (current : Current w) {h : Handle} {changes : List (Nat × Value)}
    (copies : Copies R w.host.notes w.store h changes) :
    Runs R none (modifyFact hooks h changes) w [] fun a => Tidied (replaced h a = true) w := by
  unfold modifyFact
  refine runs_getStore ?_
  split
  · rename_i e failed
    refine runs_pure stepwise (.of_not rfl fun turned => ?_)
    rw [replaced, patched_eq_error failed] at turned
    cases turned
  · rename_i f fields patched
    obtain ⟨found, asserted⟩ := patched_eq_ok patched
    split
    · exact runs_pure stepwise (.of_not rfl (by simp [replaced]))
    · split
      · exact (runs_refuse stepwise .modify).bind fun _ _ stepwise _ same =>
          runs_pure stepwise (.of_not same fun turned => by cases turned)
      · rename_i unguarded
        refine runs_lending stepwise fun w' stepwise same => ?_
        subst same
        refine (runs_replaceFact courteous assertive ?_ ?_ stepwise current found asserted
          (Bool.eq_false_iff.mpr unguarded) fun _ _ => ?_).mono
          (fun _ _ tidied => ⟨tidied.guard, fun _ => tidied.swept trivial⟩) (List.Subset.refl _)
        · exact missing
        · exact next
        · exact copies patched rfl rfl

theorem runs_duplicateFact (courteous : Courteous R hooks) (assertive : Assertive w.store R)
    (stepwise : Stepwise R none w) {h : Handle} {changes : List (Nat × Value)}
    (copies : Copies R w.host.notes w.store h changes) :
    Runs R none (duplicateFact hooks h changes) w [] fun a =>
      Tidied (attached .modify a = true) w := by
  unfold duplicateFact
  refine runs_getStore ?_
  split
  · rename_i e failed
    refine runs_pure stepwise (.of_not rfl fun turned => ?_)
    rw [attached, patched_eq_error failed] at turned
    cases turned
  · rename_i f fields patched
    split
    · exact (runs_refuse stepwise .duplicate).bind fun _ _ stepwise _ same =>
        runs_pure stepwise (.of_not same fun turned => by cases turned)
    · refine runs_lending stepwise fun w' stepwise same => ?_
      subst same
      refine (runs_createWith stepwise fun _ _ => copies patched rfl rfl).bindFresh
        fun r w₁ stepwise _ made => ⟨[r], by simpa using made.2.1, ?_⟩
      obtain ⟨-, fresh, -, alike, named⟩ := made
      refine (runs_assertMade courteous assertive stepwise fresh named
        ((alike.isAsserted r).trans (not_asserted_of_missing fresh))).bindExcept
        fun a _ stepwise _ ⟨after, swept⟩ => ?_
      have same := after.trans alike.guarded
      split
      · exact runs_pure stepwise ⟨same, swept⟩
      · exact runs_pure stepwise ⟨same, fun _ => swept rfl⟩
      · exact runs_pure stepwise (.of_not same fun turned => by cases turned)

/-! ### Patterns -/

theorem runs_addPattern (stepwise : Stepwise R none w) {p : Pattern} {label : String}
    (upheld : (Request.addPattern p label).KeptAt w.store w.host.notes R) :
    Runs R none (Process.addPattern p label) w [] fun _ => SameGuard w := by
  unfold Process.addPattern
  refine Runs.bind (Q := fun r w' => Unbroken r.2 ∧ SameGuard w w')
    (runs_step stepwise (fun _ _ done => ?_) fun b failed => ?_)
    fun r _ (stepwise : Stepwise R none _) _ ⟨unbroken, same⟩ => ?_
  · have added := addPattern_eq_ok done
    have quiet := addPattern_spec stepwise.reached.sound added
    exact ⟨stepwise.move (.addPattern added) (upheld stepwise.holds stepwise.reached added),
      quiet.leaves, unbroken_addPattern added, quiet.alike.guarded⟩
  · exact .addPattern (map_eq_error.mp failed)
  · exact (runs_notifyAll stepwise unbroken).bind fun _ _ stepwise _ ⟨store, _⟩ =>
      runs_pure stepwise ((congrArg Store.guarded store).trans same)

theorem runs_replayNewPatterns (stepwise : Stepwise R none w)
    (upheld : Request.replayNewPatterns.KeptAt w.store w.host.notes R) :
    Runs R none Process.replayNewPatterns w [] fun _ => SameGuard w := by
  unfold Process.replayNewPatterns
  refine Runs.bind (Q := fun r w' => Unbroken r.2 ∧ SameGuard w w')
    (runs_step stepwise (fun _ _ done => ?_) fun b failed => ?_)
    fun r _ (stepwise : Stepwise R none _) _ ⟨unbroken, same⟩ => ?_
  · have replayed := replayNewPatterns_eq_ok done
    have quiet := replayNewPatterns_spec stepwise.reached.sound replayed
    exact ⟨stepwise.move (.replayNewPatterns replayed)
      (upheld stepwise.holds stepwise.reached replayed), quiet.leaves, unbroken_replayAll replayed,
      quiet.alike.guarded⟩
  · exact .replayNewPatterns (map_eq_error.mp failed)
  · exact (runs_notifyAll stepwise unbroken).bind fun _ _ stepwise _ ⟨store, _⟩ =>
      runs_pure stepwise ((congrArg Store.guarded store).trans same)

/-! ### Builders and modifiers -/

omit [JoinNetwork N] in
/-- Nothing but a slot that has to be set keeps a builder from filling in the others. -/
theorem builderFields_eq_error {b : Builder} {slots : List ((Slot × Option Value) × Nat)}
    {s : Store N} {e : BuilderError} (failed : (b.fields slots s).1 = .error e) :
    (Failure.builder e).isRuleNetwork = false := by
  induction slots generalizing s with
  | nil => cases failed
  | cons x rest ih =>
    obtain ⟨⟨slot, value⟩, position⟩ := x
    cases value with
    | some v => exact ih (map_eq_error.mp failed)
    | none =>
      unfold Builder.fields at failed
      split at failed
      · rw [← Except.error.inj failed]
        rfl
      · exact ih (map_eq_error.mp failed)

theorem runs_commitBuilder (courteous : Courteous R hooks) (assertive : Assertive w.store R)
    (stepwise : Stepwise R none w) {b : Builder}
    (makes : b.isCurrent w.store = true → ∀ fields s k s',
      b.fields (b.template.slots.zip b.staged).zipIdx w.store = (.ok fields, s) →
      s.createWith b.templateId b.template fields = .ok (k, s') →
      Survives R w.host.notes s s') :
    Runs R none (b.commit hooks) w [] fun a => Tidied (attached .builder a.1 = true) w := by
  unfold Builder.commit
  refine runs_getStore ?_
  split
  · exact runs_pure stepwise (.of_not rfl fun turned => by cases turned)
  · split
    · exact runs_pure stepwise (.of_not rfl fun turned => by cases turned)
    · rename_i current
      have current : b.isCurrent w.store = true := by simpa using current
      have quiet := builderFields_spec b (b.template.slots.zip b.staged).zipIdx w.store
      have drawn : Runs R none
          (setStore (b.fields (b.template.slots.zip b.staged).zipIdx w.store).2) w []
          fun _ w' => w'.host = w.host ∧
            w'.store = (b.fields (b.template.slots.zip b.staged).zipIdx w.store).2 ∧
            (∀ k, w'.store.get? k = none → w.store.get? k = none) ∧
            w'.store.facts.nextHandle = w.store.facts.nextHandle ∧ SameGuard w w' := by
        refine ensures_setStore ⟨stepwise.errand (.builderFields b _ w.store),
          .of_leaves quiet.leaves, rfl, rfl, fun _ => quiet.fresh, ?_, quiet.alike.guarded⟩
        obtain ⟨draws, same⟩ := builderFields_eq b (b.template.slots.zip b.staged).zipIdx w.store
        rw [same]
      refine drawn.bind fun _ w' stepwise _ ⟨host, store, missing, next, before⟩ => ?_
      split
      · rename_i e unfilled
        refine runs_pure stepwise (.of_not before fun turned => ?_)
        rw [attached, builderFields_eq_error unfilled] at turned
        cases turned
      · rename_i fields filled
        have makes k s : w'.store.createWith b.templateId b.template fields = .ok (k, s) →
            Survives R w'.host.notes w'.store s := by
          rw [host, store]
          exact makes current fields _ k s (Prod.ext filled rfl)
        refine (runs_createWith stepwise makes).bindFresh
          fun r w₁ stepwise _ made => ⟨[r], by simpa using made.2.1, ?_⟩
        obtain ⟨-, fresh, -, alike, named⟩ := made
        refine (runs_assertMade courteous assertive stepwise (missing r fresh)
          (named.trans next) ((alike.isAsserted r).trans
            (not_asserted_of_missing fresh))).bindExcept fun a _ stepwise _ ⟨after, swept⟩ => ?_
        have same := (after.trans alike.guarded).trans before
        cases a with
        | ok a => exact runs_pure stepwise ⟨same, swept⟩
        | error e =>
          refine runs_pure stepwise ⟨same, fun turned => swept ?_⟩
          cases e with
          | ruleNetwork => rfl
          | unknownFact | factRetracted | couldNotAssert => cases turned

/-- Giving back a pin takes no fact away, and a client remembers what it did. -/
theorem runs_unpinModifier (stepwise : Stepwise R none w) (m : Modifier)
    (yields : ∀ r s, w.store.release m.fact = .ok (r, s) → Survives R w.host.notes w.store s) :
    Runs R none m.unpin w [m.fact] fun r w' => w'.host = w.host ∧
      (∀ k, (w'.store.get? k).isSome = (w.store.get? k).isSome) ∧
        w'.store.facts.nextHandle = w.store.facts.nextHandle ∧ SameGuard w w' ∧
        ∀ e, r = .error e → (Failure.modify e).isRuleNetwork = false := by
  unfold Modifier.unpin
  have released : Runs R none (step (·.release m.fact)) w [m.fact] fun _ w' =>
      w'.host = w.host ∧ (∀ k, (w'.store.get? k).isSome = (w.store.get? k).isSome) ∧
        w'.store.facts.nextHandle = w.store.facts.nextHandle ∧ SameGuard w w' :=
    runs_step stepwise (fun r s done =>
      ⟨stepwise.move (.release done) (yields r s done stepwise.holds stepwise.reached),
        (release_spec done).leaves, rfl, isSome_release done,
        nextHandle_release stepwise.reached.sound.tidy done, (release_spec done).alike.guarded⟩)
      fun _ => .release
  refine released.bindExcept fun r _ stepwise _ ⟨host, kept, next, same⟩ => ?_
  split
  · exact runs_pure stepwise ⟨host, kept, next, same, fun _ failed => by cases failed; rfl⟩
  · exact runs_pure stepwise ⟨host, kept, next, same, fun _ failed => by cases failed; rfl⟩
  · exact runs_pure stepwise ⟨host, kept, next, same, fun _ failed => by cases failed⟩

theorem runs_commitModifier (courteous : Courteous R hooks) (assertive : Assertive w.store R)
    (stepwise : Stepwise R none w) (current : Current w) (m : Modifier)
    (copies : Copies R w.host.notes w.store m.fact m.changes)
    (yields : ∀ r s, w.store.release m.fact = .ok (r, s) → Survives R w.host.notes w.store s) :
    Runs R none (m.commit hooks) w [m.fact] fun a => Tidied (replaced m.fact a = true) w := by
  unfold Modifier.commit
  refine (runs_unpinModifier stepwise m yields).bindExcept
    fun r w' stepwise _ ⟨host, kept, next, before, other⟩ => ?_
  cases r with
  | error e =>
    refine runs_pure stepwise (.of_not before fun turned => ?_)
    rw [replaced, other e rfl] at turned
    cases turned
  | ok u =>
    dsimp only
    split
    · exact runs_pure stepwise (.of_not before (by simp [replaced]))
    · refine (runs_modifyFact courteous assertive (fun k missing => ?_) next stepwise
        (fun k inside => ?_) ?_).mono
        (fun _ _ after => ⟨after.guard.trans before, after.swept⟩) (List.nil_subset _)
      · refine not_asserted_of_missing (Option.isNone_iff_eq_none.mp ?_)
        rw [← Option.not_isSome, ← kept, missing]
        rfl
      · rw [kept]
        rw [host] at inside
        exact current k inside
      · intro u s f fields k s' patched facts place
        rw [host]
        exact copies patched facts (place.trans next)

end FactBase

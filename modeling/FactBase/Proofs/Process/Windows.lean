import FactBase.Proofs.Process.Consistency

/-!
# The guard

Asserting, retracting and modifying hold the guard from before they tell their listeners until the
matches of the fact are delivered or withdrawn. Whatever the listeners do meanwhile, nested queries
included, the asserted facts stay what they are and where they are, and every attempt to change them
is refused. Whatever is asked of a fact base leaves the guard as it was.
-/

namespace FactBase

open Store Process

variable {N ρ σ α β : Type}

/-! ### What the guard protects -/

/-- The asserted facts stand in the same order and have the same values and numbers, and the same
facts are garbage. -/
structure Store.Intact (s s' : Store N) : Prop where
  order : s'.order = s.order
  facts : ∀ h ∈ s.order, (s'.get? h).map (fun f => (f.templateId, f.values, f.index)) =
    (s.get? h).map fun f => (f.templateId, f.values, f.index)
  garbage : s'.garbage = s.garbage
  nextIndex : s'.nextIndex = s.nextIndex
  guarded : s'.guarded = s.guarded

theorem Store.Alike.intact {s s' : Store N} (alike : s.Alike s') (consistent : s.Consistent) :
    s.Intact s' := by
  refine ⟨alike.order consistent, fun h inside => ?_, alike.garbage, alike.nextIndex, alike.guarded⟩
  obtain ⟨f, found, asserted⟩ := consistent.mem_order.mp inside
  have attached : f.isUnattached = false :=
    Bool.eq_false_iff.mpr fun u => not_asserted_of_unattached u asserted
  obtain ⟨g, found', like⟩ := (alike.facts h).attached found attached
  rw [found, found', Option.map_some, Option.map_some, like.templateId, like.values, like.index]

variable [JoinNetwork N]

section Holding

variable {s s' : Store N} {h : Handle}

end Holding

section Operations

variable {ok : (α : Type) → Request α → Prop} {hooks : Hooks N (Memo σ) (Store N)}
  (scripts : ∀ id e, Script ok (hooks id e)) {w : World N (Memo σ) (Store N)}
include scripts

end Operations

/-! ### Refusals -/

/-- A refused operation is counted and reported, and that is all. -/
def World.refused (w : World N ρ (Store N)) (operation : GuardedOperation) :
    World N ρ (Store N) :=
  { w with
    store := { w.store with counters := { w.store.counters with
      guardRejections := w.store.counters.guardRejections + 1 } }
    journal := w.journal.push (.notice (.refused operation)) }

/-- Every attempt to assert an unattached fact, to retract an asserted one, to change values of one
and to duplicate one is refused. -/
structure Refuses (hooks : Hooks N ρ (Store N)) (w : World N ρ (Store N)) : Prop where
  assertAt : ∀ h f position, w.store.get? h = some f → f.isUnattached = true →
    assertAt hooks h position w = .ok (.error .couldNotAssert) (w.refused .assert)
  assertOrdered : ∀ relation values, Ensures (assertOrdered hooks relation values) w
    (fun r _ => (∃ e, r = .error (.store e)) ∨ r = .error (.assert .couldNotAssert)) fun _ => True
  retract : ∀ h, w.store.isAsserted h = true →
    retract hooks h w = .ok (.error .couldNotRetract) (w.refused .retract)
  modifyFact : ∀ h changes f fields, w.store.patched h changes = .ok (f, fields) →
    fields.map (·.value) ≠ f.values →
    modifyFact hooks h changes w = .ok (.error .couldNotModify) (w.refused .modify)
  duplicateFact : ∀ h changes f fields, w.store.patched h changes = .ok (f, fields) →
    duplicateFact hooks h changes w = .ok (.error .couldNotModify) (w.refused .duplicate)
  builder : ∀ b : Builder, b.commit hooks w = .ok (.error .couldNotAssert, b) w
  modifier : ∀ (m : Modifier) s f fields, w.store.release m.fact = .ok (.ok (), s) →
    s.patched m.fact m.changes = .ok (f, fields) → fields.map (·.value) ≠ f.values →
    m.changes ≠ [] → m.commit hooks w =
      .ok (.error .couldNotModify) (World.refused { w with store := s } .modify)

theorem refuses {hooks : Hooks N ρ (Store N)} {w : World N ρ (Store N)} (sound : w.store.Sound)
    (guarded : w.store.guarded = true) : Refuses hooks w := by
  have asserts {w : World N ρ (Store N)} (guarded : w.store.guarded = true) (h : Handle) (f : Fact)
      (position : Position) (found : w.store.get? h = some f) (unattached : f.isUnattached = true) :
      Process.assertAt hooks h position w =
        .ok (.error .couldNotAssert) (w.refused .assert) := by
    obtain ⟨unnumbered, notGarbage⟩ := Fact.isUnattached_iff.mp unattached
    simp only [Process.assertAt, getStore_bind, found, notGarbage, Bool.false_eq_true, if_false,
      unnumbered, ne_eq, not_true_eq_false, guarded, if_true]
    rfl
  have modifies {w : World N ρ (Store N)} (guarded : w.store.guarded = true) (h : Handle)
      (changes : List (Nat × Value)) (f : Fact) (fields : List Field)
      (patched : w.store.patched h changes = .ok (f, fields))
      (changed : fields.map (·.value) ≠ f.values) :
      Process.modifyFact hooks h changes w = .ok (.error .couldNotModify) (w.refused .modify) := by
    simp only [Process.modifyFact, getStore_bind, patched, if_neg changed, if_pos guarded]
    rfl
  refine ⟨asserts guarded, fun relation values => ?_, fun h asserted => ?_, modifies guarded,
    fun h changes f fields patched => ?_, fun b => ?_,
    fun m s f fields released patched changed staged => ?_⟩
  · refine ensures_bind (ensures_step (fun r s done => ?_) fun _ _ => trivial)
    obtain ⟨e, -, rfl, rfl⟩ | ⟨id, templates, template, h, -, created, rfl, -⟩ :=
      createOrdered_eq_ok done
    · exact ensures_pure (.inl ⟨_, rfl⟩)
    · have defined : Quiet [] w.store { w.store with templates } := .unchanged
      obtain ⟨quiet, -, stored⟩ := createWith_spec (sound.quiet defined) created
      have held : s.guarded = true := quiet.alike.guarded.trans guarded
      refine ensures_bind (ensures_of_ok (asserts held h _ .tail stored rfl) ?_)
      refine ensures_bind (ensures_getStore ?_)
      split
      · exact ensures_bind (ensures_change (fun _ _ => ensures_pure (.inr rfl)) fun _ _ => trivial)
      · exact ensures_pure (.inr rfl)
  · obtain ⟨f, found, asserted⟩ := isAsserted_iff_exists.mp asserted
    obtain ⟨numbered, notGarbage⟩ := Fact.isAsserted_iff.mp asserted
    simp only [Process.retract, getStore_bind, found, notGarbage, Bool.false_eq_true, if_false,
      numbered, guarded, if_true]
    rfl
  · simp only [Process.duplicateFact, getStore_bind, patched, if_pos guarded]
    rfl
  · simp only [Builder.commit, getStore_bind, if_pos guarded]
    rfl
  · have held : s.guarded = true := (release_spec released).alike.guarded.trans guarded
    simp only [Modifier.commit, Modifier.unpin, bind_assoc]
    rw [step_bind_of_ok released]
    have pending : m.changes.isEmpty = false := by simpa using staged
    simp only [pure_bind, pending, Bool.false_eq_true, if_false]
    exact modifies held m.fact m.changes f fields patched changed

/-! ### Guarded operations -/

end FactBase

import FactBase.Proofs.Memory.Aloof
import FactBase.Proofs.Store.Collecting

/-!
# Moves of a fact base

A move is what a client or a listener can observe at least: whatever operations do between two looks
is a row of moves. Chores concern neither lists nor matches and give back no pin. The other moves are
listed one by one, with all that their callers make sure of. A fact is attached in two ways only: it
gets the next number when it is asserted, or the number and the places of the fact it supersedes.
-/

namespace FactBase.Store

variable {N : Type}

/-- Steps that matching does not notice and that give back no pin. -/
inductive Chore : Store N → Store N → Prop
  | createWith {s s' : Store N} {t : TemplateId} {template : Template} {fields : List Field}
      {h : Handle} (done : s.createWith t template fields = .ok (h, s')) : Chore s s'
  | createFact {s s' : Store N} {name : String} {r : Except StoreError Handle}
      (done : s.createFact name = .ok (r, s')) : Chore s s'
  | createOrdered {s s' : Store N} {relation : String} {values : List Value}
      {r : Except StoreError Handle} (done : s.createOrdered relation values = .ok (r, s')) :
      Chore s s'
  | putSlot {s s' : Store N} {h : Handle} {slot : String} {v : Value}
      (done : s.putSlot h slot v = .ok s') : Chore s s'
  | putSlotAt {s s' : Store N} {h : Handle} {position : Nat} {v : Value}
      (done : s.putSlotAt h position v = .ok s') : Chore s s'
  | discard {s s' : Store N} {h : Handle} {r : Except StoreError Unit}
      (done : s.discard h = .ok (r, s')) : Chore s s'
  | free {s s' : Store N} {h : Handle} {f : Fact} (found : s.get? h = some f)
      (unattached : f.isUnattached = true) (done : s.free h = .ok s') : Chore s s'
  | retain {s s' : Store N} {h : Handle} (done : s.retain h = .ok s') : Chore s s'
  | install {s s' : Store N} {h : Handle} (done : s.install h = .ok s') : Chore s s'
  | collectGarbage {s s' : Store N} {n : Nat} (done : s.collectGarbage = .ok (n, s')) : Chore s s'
  | maybeCollect {s s' : Store N} (done : s.maybeCollect = .ok s') : Chore s s'
  | defineTemplate {s s' : Store N} {t : Template} {id : TemplateId}
      (done : s.defineTemplate t = .ok (id, s')) : Chore s s'
  | undefineTemplate {s s' : Store N} {name : String} (done : s.undefineTemplate name = .ok s') :
      Chore s s'
  | impliedTemplate {s : Store N} {relation : String} {id : TemplateId}
      {templates : TemplateRegistry}
      (done : s.templates.impliedTemplate relation = .ok (id, templates)) :
      Chore s { s with templates }
  | defineModule {s : Store N} {name : String} {imports : List String}
      {templates : TemplateRegistry} (done : s.templates.defineModule name imports = .ok templates) :
      Chore s { s with templates }
  | setCurrentModule {s : Store N} {name : String} {templates : TemplateRegistry}
      (done : s.templates.setCurrentModule name = .ok templates) : Chore s { s with templates }
  | drawDefault (s : Store N) (t : TemplateId) (position : Nat) :
      Chore s (s.drawDefault t position).2
  | makeBuilder {s s' : Store N} {name : String} {b : Builder}
      (done : Builder.make name s = .ok (b, s')) : Chore s s'
  | dropBuilder (b : Builder) (s : Store N) : Chore s (b.drop s)
  | builderFields (b : Builder) (slots : List ((Slot × Option Value) × Nat)) (s : Store N) :
      Chore s (b.fields slots s).2
  | intern (s : Store N) (a : Atom) : Chore s { s with atoms := s.atoms.intern a }
  | listeners (s : Store N) (listeners : ListenerRegistry) : Chore s { s with listeners }
  | guarded (s : Store N) (guarded : Bool) : Chore s { s with guarded }
  | countAsserted (s : Store N) :
      Chore s { s with counters := { s.counters with asserted := s.counters.asserted + 1 } }
  | countDuplicate (s : Store N) : Chore s { s with
      counters := { s.counters with duplicatesRejected := s.counters.duplicatesRejected + 1 } }
  | countModified (s : Store N) :
      Chore s { s with counters := { s.counters with modified := s.counters.modified + 1 } }
  | countRefusal (s : Store N) : Chore s { s with
      counters := { s.counters with guardRejections := s.counters.guardRejections + 1 } }
  | lend (s : Store N) : Chore s { s with openChanges := s.openChanges + 1 }
  | settle (s : Store N) (depth : Nat) :
      Chore s { s with openChanges := depth, atoms := s.atoms.settle (.changes depth) }
  | clearEvaluationError (s : Store N) : Chore s { s with evaluationError := false }

variable [JoinNetwork N] {s s' s'' : Store N} {h r : Handle} {f g : Fact}

theorem Chore.step (chore : Chore s s') : Step s s' := by
  cases chore with
  | createWith done => exact .createWith done
  | createFact done => exact .createFact done
  | createOrdered done => exact .createOrdered done
  | putSlot done => exact .putSlot done
  | putSlotAt done => exact .putSlotAt done
  | discard done => exact .discard done
  | free found unattached done => exact .free found unattached done
  | retain done => exact .retain done
  | install done => exact .install done
  | collectGarbage done => exact .collectGarbage done
  | maybeCollect done => exact .maybeCollect done
  | defineTemplate done => exact .defineTemplate done
  | undefineTemplate done => exact .undefineTemplate done
  | impliedTemplate done => exact .impliedTemplate done
  | defineModule done => exact .defineModule done
  | setCurrentModule done => exact .setCurrentModule done
  | drawDefault _ t position => exact .drawDefault s t position
  | makeBuilder done => exact .makeBuilder done
  | dropBuilder b => exact .dropBuilder b s
  | builderFields b slots => exact .builderFields b slots s
  | intern _ a => exact .intern s a
  | listeners _ listeners => exact .listeners s listeners
  | guarded _ guarded => exact .guarded s guarded
  | countAsserted | countDuplicate | countModified | countRefusal => exact .counters s _
  | lend => exact .lend s
  | settle _ depth => exact .settle s depth
  | clearEvaluationError => exact .clearEvaluationError s

omit [JoinNetwork N] in
theorem Chore.aloof (chore : Chore s s') (sound : s.Sound) : Aloof s s' := by
  cases chore with
  | createWith done => exact aloof_createWith sound done
  | createFact done => exact aloof_createFact sound done
  | createOrdered done => exact aloof_createOrdered sound done
  | putSlot done => exact aloof_putSlot done
  | putSlotAt done => exact aloof_putSlotAt done
  | discard done => exact aloof_discard sound done
  | free found unattached done =>
    exact (aloof_free sound.tidy found (not_asserted_of_unattached unattached) done).1
  | retain done => exact aloof_retain done
  | install done => exact aloof_install done
  | collectGarbage done => exact aloof_collectGarbage sound done
  | maybeCollect done => exact aloof_maybeCollect sound done
  | defineTemplate done => exact aloof_defineTemplate done
  | undefineTemplate done => exact aloof_undefineTemplate done
  | drawDefault _ t position => exact aloof_drawDefault s t position
  | makeBuilder done => exact aloof_makeBuilder done
  | builderFields b slots => exact aloof_builderFields b slots s
  | impliedTemplate | defineModule | setCurrentModule | dropBuilder | intern | listeners
  | guarded | countAsserted | countDuplicate | countModified | countRefusal | lend | settle
  | clearEvaluationError => exact .of_facts_eq rfl rfl rfl rfl rfl

omit [JoinNetwork N] in
/-- Nothing is recorded of a chore that neither turns the guard nor collects garbage. -/
theorem Chore.recorded (chore : Chore s s') (sound : s.Sound) :
    s.Alike s' ∨ (∃ guarded, s' = { s with guarded }) ∨ Collects s s' := by
  cases chore with
  | createWith done => exact .inl (createWith_spec sound done).1.alike
  | createFact done => exact .inl (createFact_spec sound done).1.alike
  | createOrdered done => exact .inl (createOrdered_spec sound done).1.alike
  | putSlot done => exact .inl (putSlot_spec done).alike
  | putSlotAt done => exact .inl (putSlotAt_spec done).alike
  | discard done => exact .inl (discard_spec sound done).alike
  | free found unattached done => exact .inl (free_spec sound found unattached done).1.alike
  | retain done => exact .inl (retain_spec done).alike
  | install done => exact .inl (install_spec done).alike
  | collectGarbage done => exact .inr (.inr (collects_collectGarbage sound done))
  | maybeCollect done => exact .inr (.inr (collects_maybeCollect sound done))
  | defineTemplate done => exact .inl (defineTemplate_spec done).alike
  | undefineTemplate done => exact .inl (undefineTemplate_spec sound done).alike
  | drawDefault _ t position => exact .inl (drawDefault_spec s t position).alike
  | makeBuilder done => exact .inl (makeBuilder_spec done).alike
  | builderFields b slots => exact .inl (builderFields_spec b slots s).alike
  | guarded _ guarded => exact .inr (.inl ⟨guarded, rfl⟩)
  | impliedTemplate | defineModule | setCurrentModule | dropBuilder | intern | listeners
  | countAsserted | countDuplicate | countModified | countRefusal | lend | settle
  | clearEvaluationError => exact .inl (Quiet.unchanged (s := s)).alike

/-- What happens between two looks at least. -/
inductive Move : Store N → Store N → Prop
  | chore {s s' : Store N} (chore : Chore s s') : Move s s'
  | release {s s' : Store N} {h : Handle} {r : Except StoreError Unit}
      (done : s.release h = .ok (r, s')) : Move s s'
  | deinstall {s s' : Store N} {h : Handle} {r : Except StoreError Unit}
      (done : s.deinstall h = .ok (r, s')) : Move s s'
  /-- An unattached fact gets the next number, behind any asserted fact in the list of all facts and
  at the end of its template's list. -/
  | asserts {s s' : Store N} {h : Handle} {f : Fact} {previous : Option Handle} {index : Nat}
      (found : s.get? h = some f) (unattached : f.isUnattached = true)
      (listed : ∀ p, previous = some p → ∃ g, s.get? p = some g ∧ g.isAsserted = true)
      (done : s.attach h none (s.hashOf f) previous (s.listOf f.templateId).tail =
        .ok (index, s')) : Move s s'
  /-- A fact is detached, and an unattached one of its template takes its number and its places. -/
  | supersedes {s u s' : Store N} {h r : Handle} {f g : Fact} {d : Detached} {index : Nat}
      (found : s.get? h = some f) (waiting : s.get? r = some g) (unattached : g.isUnattached = true)
      (template : g.templateId = f.templateId) (detached : s.detach h = .ok (d, u))
      (done : u.attach r (some f.index) (s.hashOf g) d.previous d.templatePrevious =
        .ok (index, s')) : Move s s'
  | detach {s s' : Store N} {h : Handle} {d : Detached} (done : s.detach h = .ok (d, s')) :
      Move s s'
  | matchFact {s s' : Store N} {h : Handle} {o : MatchOutcome} (asserted : s.isAsserted h = true)
      (done : s.matchFact h .assert = .ok (o, s')) : Move s s'
  | addPattern {s s' : Store N} {p : Pattern} {label : String} {r : Except PatternError EntryId}
      {notices : List Notice} (done : s.addPattern p label = .ok (r, notices, s')) : Move s s'
  | removePattern {s s' : Store N} {id : EntryId} (done : s.removePattern id = .ok s') : Move s s'
  | replayNewPatterns {s s' : Store N} {n : Nat} {notices : List Notice}
      (done : s.replayNewPatterns = .ok (n, notices, s')) : Move s s'
  /-- Numbering starts again once no numbered fact is left. -/
  | renumber {s : Store N} (none_asserted : s.global.head = none) (none_retracted : s.garbage = []) :
      Move s { s with nextIndex := 1 }
  | probe (s : Store N) (probe : Probe) : Move s { s with probe }
  | allowDuplicates (s : Store N) (allowDuplicates : Bool) :
      Move s { s with config := { s.config with allowDuplicates } }

/-- Operations that break off over a broken invariant. A deinstallation does so over an
atom that was never installed, or a query over a fact that is gone, only where that is excused. -/
inductive Fails (excuses : Breach → Prop) : Store N → Breach → Prop
  | createWith {s : Store N} {b : Breach} {t : TemplateId} {template : Template}
      {fields : List Field} (failed : s.createWith t template fields = .error b) : Fails excuses s b
  | createFact {s : Store N} {b : Breach} {name : String} (failed : s.createFact name = .error b) :
      Fails excuses s b
  | createOrdered {s : Store N} {b : Breach} {relation : String} {values : List Value}
      (failed : s.createOrdered relation values = .error b) : Fails excuses s b
  | discard {s : Store N} {b : Breach} {h : Handle} (failed : s.discard h = .error b) : Fails excuses s b
  | free {s : Store N} {b : Breach} {h : Handle} {f : Fact} (found : s.get? h = some f)
      (unattached : f.isUnattached = true) (failed : s.free h = .error b) : Fails excuses s b
  | release {s : Store N} {b : Breach} {h : Handle} (failed : s.release h = .error b) : Fails excuses s b
  | deinstall {s : Store N} {b : Breach} {h : Handle}
      (excused : ∀ text, b = .atomNeverInstalled text → excuses b)
      (failed : s.deinstall h = .error b) : Fails excuses s b
  | collectGarbage {s : Store N} {b : Breach} (failed : s.collectGarbage = .error b) : Fails excuses s b
  | maybeCollect {s : Store N} {b : Breach} (failed : s.maybeCollect = .error b) : Fails excuses s b
  | detach {s : Store N} {b : Breach} {h : Handle} (failed : s.detach h = .error b) : Fails excuses s b
  | matchFact {s : Store N} {b : Breach} {h : Handle} (asserted : s.isAsserted h = true)
      (failed : s.matchFact h .assert = .error b) : Fails excuses s b
  | addPattern {s : Store N} {b : Breach} {p : Pattern} {label : String}
      (failed : s.addPattern p label = .error b) : Fails excuses s b
  | replayNewPatterns {s : Store N} {b : Breach} (failed : s.replayNewPatterns = .error b) :
      Fails excuses s b
  /-- A query finds a fact missing that it is to pin. -/
  | pin {s : Store N} {h : Handle} (excused : excuses (.vanishedWhilePinning h))
      (missing : s.get? h = none) : Fails excuses s (.vanishedWhilePinning h)
  /-- A query finds a fact missing that it has pinned. -/
  | unpin {s : Store N} {h : Handle} (excused : excuses (.freedWhilePinned h))
      (missing : s.get? h = none) : Fails excuses s (.freedWhilePinned h)

/-! ### Superseding -/

/-- The fact that is to take the place waits for it, and the place is kept. -/
theorem supersedes_spec (sound : s.Sound) (found : s.get? h = some f) (waiting : s.get? r = some g)
    (unattached : g.isUnattached = true) (template : g.templateId = f.templateId) {d : Detached}
    (detached : s.detach h = .ok (d, s')) {index : Nat}
    (done : s'.attach r (some f.index) (s.hashOf g) d.previous d.templatePrevious =
      .ok (index, s'')) : f.isAsserted = true ∧ s'.Sound ∧ Detaches h f s s' ∧ s'.get? r = some g ∧
      Step s' s'' ∧ Attaches r g f.index s' s'' := by
  obtain ⟨f', found', asserted, sound', detaches, listed, listedInTemplate⟩ :=
    detach_spec sound detached
  obtain rfl := Option.some.inj (found.symm.trans found')
  have waits : s'.get? r = some g :=
    detaches.leaves.facts r g waiting unattached List.not_mem_nil
  have hashed : s.hashOf g = s'.hashOf g := by
    rw [Store.hashOf, Store.hashOf, detaches.leaves.contentHash]
  have positive : ∀ i, some f.index = some i → i ≠ 0 := by
    rintro i same
    obtain rfl := Option.some.inj same
    exact (Fact.isAsserted_iff.mp asserted).1
  rw [← template] at listedInTemplate
  rw [hashed] at done
  obtain ⟨u, attached, -, attaches⟩ :=
    attach_spec sound' waits unattached positive listed listedInTemplate
  obtain ⟨-, rfl⟩ := Prod.mk.inj (Except.ok.inj (attached.symm.trans done))
  have step := Step.attach waits unattached positive listed listedInTemplate attached
  exact ⟨asserted, sound', detaches, waits, step, attaches⟩

/-! ### What moves lead to -/

/-- The fact bases that moves lead to from a fresh one. -/
inductive Reached : Store N → Prop
  | fresh (config : Config) (network : N) (contentHash : TemplateId → List Value → UInt64) :
      Reached (fresh config network contentHash)
  | move {s s' : Store N} (before : Reached s) (move : Move s s') : Reached s'

theorem Move.reachable (move : Move s s') (reachable : s.Reachable) : s'.Reachable := by
  cases move with
  | chore chore => exact reachable.step chore.step
  | release done => exact reachable.step (.release done)
  | deinstall done => exact reachable.step (.deinstall done)
  | asserts found unattached listed done =>
    refine reachable.step (.attach found unattached (by simp) listed (fun p tail => ?_) done)
    exact (reachable.sound.listedByTemplate _).tail tail
  | supersedes found waiting unattached template detached done =>
    obtain ⟨-, -, -, -, step, -⟩ :=
      supersedes_spec reachable.sound found waiting unattached template detached done
    exact (reachable.step (.detach detached)).step step
  | detach done => exact reachable.step (.detach done)
  | matchFact _ done => exact reachable.step (.matchFact done)
  | addPattern done => exact reachable.step (.addPattern done)
  | removePattern done => exact reachable.step (.removePattern done)
  | replayNewPatterns done => exact reachable.step (.replayNewPatterns done)
  | renumber none_asserted none_retracted =>
    exact reachable.step (.renumber none_asserted none_retracted)
  | probe probe => exact reachable.step (.probe s probe)
  | allowDuplicates allowed => exact reachable.step (.allowDuplicates s allowed)

theorem Reached.reachable (reached : s.Reached) : s.Reachable := by
  induction reached with
  | fresh config network contentHash => exact .fresh config network contentHash
  | move _ move ih => exact move.reachable ih

theorem Reached.sound (reached : s.Reached) : s.Sound := reached.reachable.sound

/-- What every move keeps holds wherever moves lead. -/
theorem Reached.kept {P : Store N → Prop} (reached : s.Reached)
    (begins : ∀ config network contentHash, P (Store.fresh config network contentHash))
    (kept : ∀ s s', s.Reached → P s → Move s s' → P s') : P s := by
  induction reached with
  | fresh config network contentHash => exact begins config network contentHash
  | move before move ih => exact kept _ _ before ih move

end FactBase.Store

import FactBase.Builder
import FactBase.Proofs.Store.Attach

/-!
# Steps of a fact base

Every operation is a row of steps on the fact base, with calls of listeners in between. A step is
listed with what its caller makes sure of. Fact bases that steps lead to from a fresh one are
sound: what one step preserves, every run preserves.
-/

namespace FactBase.Store

variable {N : Type} [JoinNetwork N]

inductive Step : Store N → Store N → Prop
  | createWith {s s' : Store N} {t : TemplateId} {template : Template} {fields : List Field}
      {h : Handle} (done : s.createWith t template fields = .ok (h, s')) : Step s s'
  | createFact {s s' : Store N} {name : String} {r : Except StoreError Handle}
      (done : s.createFact name = .ok (r, s')) : Step s s'
  | createOrdered {s s' : Store N} {relation : String} {values : List Value}
      {r : Except StoreError Handle} (done : s.createOrdered relation values = .ok (r, s')) :
      Step s s'
  | putSlot {s s' : Store N} {h : Handle} {slot : String} {v : Value}
      (done : s.putSlot h slot v = .ok s') : Step s s'
  | putSlotAt {s s' : Store N} {h : Handle} {position : Nat} {v : Value}
      (done : s.putSlotAt h position v = .ok s') : Step s s'
  | discard {s s' : Store N} {h : Handle} {r : Except StoreError Unit}
      (done : s.discard h = .ok (r, s')) : Step s s'
  | free {s s' : Store N} {h : Handle} {f : Fact} (found : s.get? h = some f)
      (unattached : f.isUnattached = true) (done : s.free h = .ok s') : Step s s'
  | retain {s s' : Store N} {h : Handle} (done : s.retain h = .ok s') : Step s s'
  | release {s s' : Store N} {h : Handle} {r : Except StoreError Unit}
      (done : s.release h = .ok (r, s')) : Step s s'
  | install {s s' : Store N} {h : Handle} (done : s.install h = .ok s') : Step s s'
  | deinstall {s s' : Store N} {h : Handle} {r : Except StoreError Unit}
      (done : s.deinstall h = .ok (r, s')) : Step s s'
  /-- An unattached fact is put behind asserted ones, under the hash of its content. -/
  | attach {s s' : Store N} {h : Handle} {f : Fact} {reuse : Option Nat}
      {previous templatePrevious : Option Handle} {index : Nat} (found : s.get? h = some f)
      (unattached : f.isUnattached = true) (positive : ∀ i, reuse = some i → i ≠ 0)
      (listed : ∀ p, previous = some p → ∃ g, s.get? p = some g ∧ g.isAsserted = true)
      (listedInTemplate : ∀ p, templatePrevious = some p →
        ∃ g, s.get? p = some g ∧ g.isAsserted = true ∧ g.templateId = f.templateId)
      (done : s.attach h reuse (s.hashOf f) previous templatePrevious = .ok (index, s')) : Step s s'
  | matchFact {s s' : Store N} {h : Handle} {o : MatchOutcome}
      (done : s.matchFact h .assert = .ok (o, s')) : Step s s'
  | detach {s s' : Store N} {h : Handle} {d : Detached} (done : s.detach h = .ok (d, s')) : Step s s'
  | collectGarbage {s s' : Store N} {n : Nat} (done : s.collectGarbage = .ok (n, s')) : Step s s'
  | maybeCollect {s s' : Store N} (done : s.maybeCollect = .ok s') : Step s s'
  /-- Numbering starts again once no numbered fact is left. -/
  | renumber {s : Store N} (none_asserted : s.global.head = none) (none_retracted : s.garbage = []) :
      Step s { s with nextIndex := 1 }
  | addPattern {s s' : Store N} {p : Pattern} {label : String} {r : Except PatternError EntryId}
      {notices : List Notice} (done : s.addPattern p label = .ok (r, notices, s')) : Step s s'
  | removePattern {s s' : Store N} {id : EntryId} (done : s.removePattern id = .ok s') : Step s s'
  | replayNewPatterns {s s' : Store N} {n : Nat} {notices : List Notice}
      (done : s.replayNewPatterns = .ok (n, notices, s')) : Step s s'
  | defineTemplate {s s' : Store N} {t : Template} {id : TemplateId}
      (done : s.defineTemplate t = .ok (id, s')) : Step s s'
  | undefineTemplate {s s' : Store N} {name : String} (done : s.undefineTemplate name = .ok s') :
      Step s s'
  | impliedTemplate {s : Store N} {relation : String} {id : TemplateId}
      {templates : TemplateRegistry}
      (done : s.templates.impliedTemplate relation = .ok (id, templates)) :
      Step s { s with templates }
  | defineModule {s : Store N} {name : String} {imports : List String}
      {templates : TemplateRegistry} (done : s.templates.defineModule name imports = .ok templates) :
      Step s { s with templates }
  | setCurrentModule {s : Store N} {name : String} {templates : TemplateRegistry}
      (done : s.templates.setCurrentModule name = .ok templates) : Step s { s with templates }
  | drawDefault (s : Store N) (t : TemplateId) (position : Nat) : Step s (s.drawDefault t position).2
  | makeBuilder {s s' : Store N} {name : String} {b : Builder}
      (done : Builder.make name s = .ok (b, s')) : Step s s'
  | dropBuilder (b : Builder) (s : Store N) : Step s (b.drop s)
  | builderFields (b : Builder) (slots : List ((Slot × Option Value) × Nat)) (s : Store N) :
      Step s (b.fields slots s).2
  | intern (s : Store N) (a : Atom) : Step s { s with atoms := s.atoms.intern a }
  | listeners (s : Store N) (listeners : ListenerRegistry) : Step s { s with listeners }
  | guarded (s : Store N) (guarded : Bool) : Step s { s with guarded }
  | counters (s : Store N) (counters : Counters) : Step s { s with counters }
  /-- A change list begins to lend its texts. -/
  | lend (s : Store N) : Step s { s with openChanges := s.openChanges + 1 }
  | settle (s : Store N) (depth : Nat) :
      Step s { s with openChanges := depth, atoms := s.atoms.settle (.changes depth) }
  /-- Predicates and the halt request are in the hands of the outside. -/
  | probe (s : Store N) (probe : Probe) : Step s { s with probe }
  | allowDuplicates (s : Store N) (allowDuplicates : Bool) :
      Step s { s with config := { s.config with allowDuplicates } }
  | clearEvaluationError (s : Store N) : Step s { s with evaluationError := false }

variable {s s' : Store N}

omit [JoinNetwork N] in
theorem builderFields_eq (b : Builder) (slots : List ((Slot × Option Value) × Nat)) (s : Store N) :
    ∃ draws, (b.fields slots s).2 = { s with draws } := by
  induction slots generalizing s with
  | nil => exact ⟨_, rfl⟩
  | cons first rest ih =>
    obtain ⟨⟨slot, staged⟩, position⟩ := first
    cases staged with
    | some v => exact ih s
    | none =>
      obtain ⟨draws, drawn⟩ : ∃ draws, (s.defaultField b.templateId slot position).2 =
        { s with draws } := drawDefault_eq s b.templateId position
      unfold Builder.fields
      split
      · rename_i u same
        rw [same] at drawn
        exact ⟨draws, drawn⟩
      · rename_i field u same
        rw [same] at drawn
        obtain rfl : u = { s with draws } := drawn
        obtain ⟨draws', others⟩ := ih { s with draws }
        exact ⟨draws', others⟩

omit [JoinNetwork N] in
theorem builderFields_spec (b : Builder) (slots : List ((Slot × Option Value) × Nat))
    (s : Store N) : Quiet [] s (b.fields slots s).2 := by
  obtain ⟨draws, same⟩ := builderFields_eq b slots s
  rw [same]
  exact .unchanged

omit [JoinNetwork N] in
theorem defineTemplate_spec {t : Template} {id : TemplateId}
    (done : s.defineTemplate t = .ok (id, s')) : Quiet [] s s' := by
  obtain ⟨_, -, rfl⟩ := defineTemplate_eq_ok done
  exact .unchanged

omit [JoinNetwork N] in
/-- A builder is counted when it is made. -/
theorem makeBuilder_eq_ok {name : String} {b : Builder} (done : Builder.make name s = .ok (b, s')) :
    ∃ e, s.templates.byName? name = some e ∧
      b = ⟨s.templates.realm, e.id, e.template, e.template.slots.map fun _ => none⟩ ∧
      s' = { s with
        templates := s.templates.update e.id fun e => { e with builders := e.builders + 1 } } := by
  unfold Builder.make at done
  split at done
  · cases done
  · rename_i e named
    split at done
    · cases done
    · obtain ⟨rfl, rfl⟩ := Prod.mk.inj (Except.ok.inj done)
      exact ⟨e, named, rfl, rfl⟩

omit [JoinNetwork N] in
theorem makeBuilder_spec {name : String} {b : Builder} (done : Builder.make name s = .ok (b, s')) :
    Quiet [] s s' := by
  obtain ⟨e, -, -, rfl⟩ := makeBuilder_eq_ok done
  exact .unchanged

/-- A sound fact base stays sound. -/
theorem Step.sound (step : Step s s') (sound : s.Sound) : s'.Sound := by
  cases step with
  | createWith done => exact sound.quiet (createWith_spec sound done).1
  | createFact done => exact sound.quiet (createFact_spec sound done).1
  | createOrdered done => exact sound.quiet (createOrdered_spec sound done).1
  | putSlot done => exact sound.quiet (putSlot_spec done)
  | putSlotAt done => exact sound.quiet (putSlotAt_spec done)
  | discard done => exact sound.quiet (discard_spec sound done)
  | free found unattached done => exact sound.quiet (free_spec sound found unattached done).1
  | retain done => exact sound.quiet (retain_spec done)
  | release done => exact sound.quiet (release_spec done)
  | install done => exact sound.quiet (install_spec done)
  | deinstall done => exact sound.quiet (deinstall_spec done)
  | attach found unattached positive listed listedInTemplate done =>
    obtain ⟨u, attached, sound', _⟩ :=
      attach_spec sound found unattached positive listed listedInTemplate
    rw [attached] at done
    obtain ⟨-, rfl⟩ := Prod.mk.inj (Except.ok.inj done)
    exact sound'
  | matchFact done => exact sound.quiet (matchFact_spec done)
  | detach done =>
    obtain ⟨f, _, _, sound', _⟩ := detach_spec sound done
    exact sound'
  | collectGarbage done => exact (collectGarbage_spec sound done).1
  | maybeCollect done => exact (maybeCollect_spec sound done).1
  | renumber => exact { sound with numbered := Nat.zero_lt_one }
  | addPattern done => exact sound.quiet (addPattern_spec sound done)
  | removePattern done => exact sound.quiet (removePattern_spec done)
  | replayNewPatterns done => exact sound.quiet (replayNewPatterns_spec sound done)
  | defineTemplate done => exact sound.quiet (defineTemplate_spec done)
  | undefineTemplate done => exact sound.quiet (undefineTemplate_spec sound done)
  | impliedTemplate | defineModule | setCurrentModule | dropBuilder | intern | listeners
  | counters | lend | settle | probe | allowDuplicates | clearEvaluationError =>
    exact sound.quiet (Quiet.unchanged (s := s))
  | guarded => exact { sound with numbered := sound.numbered }
  | drawDefault _ t position => exact sound.quiet (drawDefault_spec s t position)
  | makeBuilder done => exact sound.quiet (makeBuilder_spec done)
  | builderFields b slots => exact sound.quiet (builderFields_spec b slots s)

/-! ### What steps lead to -/

/-- A fact base without facts, whatever its settings, its join network and its content hash. -/
def fresh (config : Config) (network : N) (contentHash : TemplateId → List Value → UInt64) :
    Store N :=
  { Store.empty config network with contentHash }

/-- The fact bases that steps lead to. -/
inductive Reachable : Store N → Prop
  | fresh (config : Config) (network : N) (contentHash : TemplateId → List Value → UInt64) :
      Reachable (fresh config network contentHash)
  | step {s s' : Store N} (before : Reachable s) (step : Step s s') : Reachable s'

omit [JoinNetwork N] in
theorem get?_fresh (config : Config) (network : N)
    (contentHash : TemplateId → List Value → UInt64) (h : Handle) :
    (fresh config network contentHash).get? h = none := by
  simp [fresh, empty, Store.get?, Arena.get?]

omit [JoinNetwork N] in
theorem lists_fresh {facts : Arena Fact} (thread : Thread) (P : Fact → Prop)
    (none : ∀ h, facts.get? h = none) : Lists facts thread {} P :=
  ⟨[], ⟨.nil _ _, rfl, List.nodup_nil⟩, fun h => by simp [none]⟩

omit [JoinNetwork N] in
theorem sound_fresh (config : Config) (network : N)
    (contentHash : TemplateId → List Value → UInt64) :
    (fresh config network contentHash).Sound := by
  have none := get?_fresh config network contentHash
  have entries : (fresh config network contentHash).index.entries = [] :=
    HashIndex.entries_empty _
  exact {
    listed := lists_fresh .global _ none
    listedByTemplate := fun _ => lists_fresh .inTemplate _ none
    indexed := fun e => by simp [entries, none]
    indexedOnce := entries ▸ List.nodup_nil
    index := HashIndex.sound_empty _
    garbage := fun h => iff_of_false List.not_mem_nil (by simp [none])
    garbageOnce := List.nodup_nil
    tidy := Arena.tidy_empty
    hashed := fun h f found => by simp [none] at found
    numbered := Nat.zero_lt_one
    retracted := fun h f found => by simp [none] at found }

theorem Reachable.sound (reachable : s.Reachable) : s.Sound := by
  induction reachable with
  | fresh config network contentHash => exact sound_fresh config network contentHash
  | step _ step ih => exact step.sound ih

end FactBase.Store

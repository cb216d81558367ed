import FactBase.Proofs.Store.Move

/-!
# Errands

Most chores are parts of larger operations or concern what nobody holds: nothing is lent and nothing
given up, and whoever has a fact that is not attached finds it as it was. Some of them make a fact or
a template; the others are errands. All other chores are done on request only.
-/

namespace FactBase.Store

variable {N : Type}

/-- Chores that make a fact or a template. -/
inductive Making : Store N → Store N → Prop
  | createWith {s s' : Store N} {t : TemplateId} {template : Template} {fields : List Field}
      {h : Handle} (done : s.createWith t template fields = .ok (h, s')) : Making s s'
  | createFact {s s' : Store N} {name : String} {r : Except StoreError Handle}
      (done : s.createFact name = .ok (r, s')) : Making s s'
  | createOrdered {s s' : Store N} {relation : String} {values : List Value}
      {r : Except StoreError Handle} (done : s.createOrdered relation values = .ok (r, s')) :
      Making s s'
  | defineTemplate {s s' : Store N} {t : Template} {id : TemplateId}
      (done : s.defineTemplate t = .ok (id, s')) : Making s s'
  | impliedTemplate {s : Store N} {relation : String} {id : TemplateId}
      {templates : TemplateRegistry}
      (done : s.templates.impliedTemplate relation = .ok (id, templates)) :
      Making s { s with templates }

/-- Chores that make nothing, lend neither pins nor builders and leave alone what is not attached. -/
inductive Errand : Store N → Store N → Prop
  | collectGarbage {s s' : Store N} {n : Nat} (done : s.collectGarbage = .ok (n, s')) : Errand s s'
  | maybeCollect {s s' : Store N} (done : s.maybeCollect = .ok s') : Errand s s'
  | undefineTemplate {s s' : Store N} {name : String} (done : s.undefineTemplate name = .ok s') :
      Errand s s'
  | defineModule {s : Store N} {name : String} {imports : List String}
      {templates : TemplateRegistry} (done : s.templates.defineModule name imports = .ok templates) :
      Errand s { s with templates }
  | setCurrentModule {s : Store N} {name : String} {templates : TemplateRegistry}
      (done : s.templates.setCurrentModule name = .ok templates) : Errand s { s with templates }
  | drawDefault (s : Store N) (t : TemplateId) (position : Nat) :
      Errand s (s.drawDefault t position).2
  | builderFields (b : Builder) (slots : List ((Slot × Option Value) × Nat)) (s : Store N) :
      Errand s (b.fields slots s).2
  | intern (s : Store N) (a : Atom) : Errand s { s with atoms := s.atoms.intern a }
  | listeners (s : Store N) (listeners : ListenerRegistry) : Errand s { s with listeners }
  | guarded (s : Store N) (guarded : Bool) : Errand s { s with guarded }
  | countAsserted (s : Store N) :
      Errand s { s with counters := { s.counters with asserted := s.counters.asserted + 1 } }
  | countDuplicate (s : Store N) : Errand s { s with
      counters := { s.counters with duplicatesRejected := s.counters.duplicatesRejected + 1 } }
  | countModified (s : Store N) :
      Errand s { s with counters := { s.counters with modified := s.counters.modified + 1 } }
  | countRefusal (s : Store N) : Errand s { s with
      counters := { s.counters with guardRejections := s.counters.guardRejections + 1 } }
  | lend (s : Store N) : Errand s { s with openChanges := s.openChanges + 1 }
  | settle (s : Store N) (depth : Nat) :
      Errand s { s with openChanges := depth, atoms := s.atoms.settle (.changes depth) }
  | clearEvaluationError (s : Store N) : Errand s { s with evaluationError := false }

section

variable {s s' : Store N}

theorem Making.chore (making : Making s s') : Chore s s' := by
  cases making with
  | createWith done => exact .createWith done
  | createFact done => exact .createFact done
  | createOrdered done => exact .createOrdered done
  | defineTemplate done => exact .defineTemplate done
  | impliedTemplate done => exact .impliedTemplate done

theorem Making.leaves (making : Making s s') (sound : s.Sound) : Leaves [] s s' := by
  cases making with
  | createWith done => exact (createWith_spec sound done).1.leaves
  | createFact done => exact (createFact_spec sound done).1.leaves
  | createOrdered done => exact (createOrdered_spec sound done).1.leaves
  | defineTemplate done => exact (defineTemplate_spec done).leaves
  | impliedTemplate => exact leaves_of_facts_eq rfl rfl

/-- To make something, defaults are drawn or a template is defined, and a fact may be stored. -/
theorem Making.stores (making : Making s s') :
    ∃ draws templates, s' = { s with draws, templates } ∨
    ∃ t template fields h,
      Store.createWith { s with draws, templates } t template fields = .ok (h, s') := by
  cases making with
  | createWith done => exact ⟨s.draws, s.templates, .inr ⟨_, _, _, _, done⟩⟩
  | createFact done =>
    obtain ⟨-, rfl⟩ | ⟨e, h, created, -⟩ := createFact_eq_ok done
    · exact ⟨_, _, .inl rfl⟩
    · obtain ⟨draws, drawn⟩ := defaultFields_eq e.id e.template.slots.zipIdx s
      rw [drawn] at created
      exact ⟨draws, s.templates, .inr ⟨_, _, _, _, created⟩⟩
  | createOrdered done =>
    obtain ⟨e, -, -, rfl⟩ | ⟨id, templates, template, h, -, created, -⟩ := createOrdered_eq_ok done
    · exact ⟨_, _, .inl rfl⟩
    · exact ⟨s.draws, templates, .inr ⟨_, _, _, _, created⟩⟩
  | defineTemplate done =>
    obtain ⟨templates, -, rfl⟩ := defineTemplate_eq_ok done
    exact ⟨s.draws, templates, .inl rfl⟩
  | impliedTemplate => exact ⟨s.draws, _, .inl rfl⟩

theorem Errand.chore (errand : Errand s s') : Chore s s' := by
  cases errand with
  | collectGarbage done => exact .collectGarbage done
  | maybeCollect done => exact .maybeCollect done
  | undefineTemplate done => exact .undefineTemplate done
  | defineModule done => exact .defineModule done
  | setCurrentModule done => exact .setCurrentModule done
  | drawDefault _ t position => exact .drawDefault s t position
  | builderFields b slots => exact .builderFields b slots s
  | intern _ a => exact .intern s a
  | listeners _ listeners => exact .listeners s listeners
  | guarded _ guarded => exact .guarded s guarded
  | countAsserted => exact .countAsserted s
  | countDuplicate => exact .countDuplicate s
  | countModified => exact .countModified s
  | countRefusal => exact .countRefusal s
  | lend => exact .lend s
  | settle _ depth => exact .settle s depth
  | clearEvaluationError => exact .clearEvaluationError s

theorem Errand.leaves (errand : Errand s s') (sound : s.Sound) : Leaves [] s s' := by
  cases errand with
  | collectGarbage done => exact (collectGarbage_spec sound done).2.1
  | maybeCollect done => exact (maybeCollect_spec sound done).2.1
  | undefineTemplate done => exact (undefineTemplate_spec sound done).leaves
  | drawDefault _ t position => exact (drawDefault_spec s t position).leaves
  | builderFields b slots => exact (builderFields_spec b slots s).leaves
  | defineModule | setCurrentModule | intern | listeners | guarded | countAsserted | countDuplicate
  | countModified | countRefusal | lend | settle | clearEvaluationError =>
    exact leaves_of_facts_eq rfl rfl

/-- Errands collect facts or do nothing to facts. -/
theorem Errand.collects_or_facts_eq (errand : Errand s s') (sound : s.Sound) :
    Collects s s' ∨ s'.facts = s.facts := by
  cases errand with
  | collectGarbage done => exact .inl (collects_collectGarbage sound done)
  | maybeCollect done => exact .inl (collects_maybeCollect sound done)
  | undefineTemplate done =>
    unfold Store.undefineTemplate at done
    split at done
    · cases done
    · obtain rfl := Except.ok.inj done
      exact .inr rfl
  | drawDefault _ t position =>
    obtain ⟨draws, drawn⟩ := drawDefault_eq s t position
    exact .inr (by rw [drawn])
  | builderFields b slots =>
    obtain ⟨draws, drawn⟩ := builderFields_eq b slots s
    exact .inr (by rw [drawn])
  | defineModule | setCurrentModule | intern | listeners | guarded | countAsserted | countDuplicate
  | countModified | countRefusal | lend | settle | clearEvaluationError => exact .inr rfl

end

/-- Chores that are done on demand only. -/
inductive Demand : Store N → Store N → Prop
  | putSlot {s s' : Store N} {h : Handle} {slot : String} {v : Value}
      (done : s.putSlot h slot v = .ok s') : Demand s s'
  | putSlotAt {s s' : Store N} {h : Handle} {position : Nat} {v : Value}
      (done : s.putSlotAt h position v = .ok s') : Demand s s'
  | discard {s s' : Store N} {h : Handle} {r : Except StoreError Unit}
      (done : s.discard h = .ok (r, s')) : Demand s s'
  | free {s s' : Store N} {h : Handle} {f : Fact} (found : s.get? h = some f)
      (unattached : f.isUnattached = true) (done : s.free h = .ok s') : Demand s s'
  | retain {s s' : Store N} {h : Handle} (done : s.retain h = .ok s') : Demand s s'
  | install {s s' : Store N} {h : Handle} (done : s.install h = .ok s') : Demand s s'
  | makeBuilder {s s' : Store N} {name : String} {b : Builder}
      (done : Builder.make name s = .ok (b, s')) : Demand s s'
  | dropBuilder (b : Builder) (s : Store N) : Demand s (b.drop s)

/-- Every chore makes something, is an errand or is done on demand. -/
theorem Chore.making_or_errand_or_demand {s s' : Store N} (chore : Chore s s') :
    Making s s' ∨ Errand s s' ∨ Demand s s' := by
  cases chore with
  | createWith done => exact .inl (.createWith done)
  | createFact done => exact .inl (.createFact done)
  | createOrdered done => exact .inl (.createOrdered done)
  | putSlot done => exact .inr (.inr (.putSlot done))
  | putSlotAt done => exact .inr (.inr (.putSlotAt done))
  | discard done => exact .inr (.inr (.discard done))
  | free found unattached done => exact .inr (.inr (.free found unattached done))
  | retain done => exact .inr (.inr (.retain done))
  | install done => exact .inr (.inr (.install done))
  | collectGarbage done => exact .inr (.inl (.collectGarbage done))
  | maybeCollect done => exact .inr (.inl (.maybeCollect done))
  | defineTemplate done => exact .inl (.defineTemplate done)
  | undefineTemplate done => exact .inr (.inl (.undefineTemplate done))
  | impliedTemplate done => exact .inl (.impliedTemplate done)
  | defineModule done => exact .inr (.inl (.defineModule done))
  | setCurrentModule done => exact .inr (.inl (.setCurrentModule done))
  | drawDefault _ t position => exact .inr (.inl (.drawDefault s t position))
  | makeBuilder done => exact .inr (.inr (.makeBuilder done))
  | dropBuilder b => exact .inr (.inr (.dropBuilder b s))
  | builderFields b slots => exact .inr (.inl (.builderFields b slots s))
  | intern _ a => exact .inr (.inl (.intern s a))
  | listeners _ listeners => exact .inr (.inl (.listeners s listeners))
  | guarded _ guarded => exact .inr (.inl (.guarded s guarded))
  | countAsserted => exact .inr (.inl (.countAsserted s))
  | countDuplicate => exact .inr (.inl (.countDuplicate s))
  | countModified => exact .inr (.inl (.countModified s))
  | countRefusal => exact .inr (.inl (.countRefusal s))
  | lend => exact .inr (.inl (.lend s))
  | settle _ depth => exact .inr (.inl (.settle s depth))
  | clearEvaluationError => exact .inr (.inl (.clearEvaluationError s))

end FactBase.Store

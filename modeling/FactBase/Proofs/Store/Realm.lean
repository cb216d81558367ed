import FactBase.Proofs.Store.Templates

/-!
# Fact bases keep their realm

The realm says which fact base templates belong to. No move changes it, so a builder is known by its
realm to the fact base that it was made for.
-/

namespace FactBase

namespace TemplateRegistry

variable {r r' : TemplateRegistry} {id : TemplateId}

theorem realm_incrementBusy (done : r.incrementBusy id = .ok r') : r'.realm = r.realm := by
  unfold incrementBusy at done
  split at done
  · obtain rfl := Except.ok.inj done
    rfl
  · cases done

theorem realm_decrementBusy (done : r.decrementBusy id = .ok r') : r'.realm = r.realm := by
  unfold decrementBusy at done
  split at done
  · cases done
  · split at done
    · cases done
    · obtain rfl := Except.ok.inj done
      rfl

theorem realm_define {t : Template} (done : r.define t = .ok (id, r')) : r'.realm = r.realm := by
  obtain ⟨-, -, -, -, rfl⟩ := define_eq_ok done
  rfl

theorem realm_impliedTemplate {relation : String} (done : r.impliedTemplate relation = .ok (id, r')) :
    r'.realm = r.realm := by
  obtain ⟨e, -, -, -, rfl⟩ | ⟨-, defined⟩ := impliedTemplate_eq_ok done
  · rfl
  · exact realm_define defined

theorem realm_defineModule {name : String} {imports : List String}
    (done : r.defineModule name imports = .ok r') : r'.realm = r.realm := by
  unfold defineModule at done
  split at done
  · cases done
  · obtain rfl := Except.ok.inj done
    rfl

theorem realm_setCurrentModule {name : String} (done : r.setCurrentModule name = .ok r') :
    r'.realm = r.realm := by
  unfold setCurrentModule at done
  split at done
  · obtain rfl := Except.ok.inj done
    rfl
  · cases done

end TemplateRegistry

namespace Store

variable {N : Type} {s s' : Store N} {h : Handle}

def realm (s : Store N) : Nat := s.templates.realm

theorem realm_createWith {t : TemplateId} {template : Template} {fields : List Field}
    (done : s.createWith t template fields = .ok (h, s')) : s'.realm = s.realm := by
  obtain ⟨templates, facts, counted, -, rfl⟩ := createWith_eq_ok done
  exact TemplateRegistry.realm_incrementBusy counted

theorem realm_free (done : s.free h = .ok s') : s'.realm = s.realm := by
  obtain ⟨f, facts, atoms, templates, -, -, counted, rfl⟩ := free_eq_ok done
  exact TemplateRegistry.realm_decrementBusy counted

theorem realm_collectFrom {hs : List Handle} {n : Nat} (done : collectFrom hs s = .ok (n, s')) :
    s'.realm = s.realm := by
  induction hs generalizing s n with
  | nil =>
    obtain ⟨-, rfl⟩ := Prod.mk.inj (Except.ok.inj done)
    rfl
  | cons h rest ih =>
    unfold collectFrom at done
    split at done
    · cases done
    · split at done
      · obtain ⟨u, freed, done⟩ := bind_eq_ok.mp done
        obtain ⟨⟨m, v⟩, others, done⟩ := bind_eq_ok.mp done
        obtain ⟨-, rfl⟩ := Prod.mk.inj (Except.ok.inj done)
        exact (ih others).trans (realm_free freed)
      · have others := ih done
        exact others

theorem realm_collectGarbage {n : Nat} (done : s.collectGarbage = .ok (n, s')) :
    s'.realm = s.realm := by
  unfold collectGarbage at done
  split at done
  · obtain ⟨-, rfl⟩ := Prod.mk.inj (Except.ok.inj done)
    rfl
  · obtain ⟨⟨m, u⟩, collected, done⟩ := bind_eq_ok.mp done
    obtain ⟨-, rfl⟩ := Prod.mk.inj (Except.ok.inj done)
    have all := realm_collectFrom collected
    exact all

theorem realm_of_templates (same : s'.templates = s.templates) : s'.realm = s.realm :=
  congrArg TemplateRegistry.realm same

theorem Making.realm (making : Making s s') : s'.realm = s.realm := by
  cases making with
  | createWith done => exact realm_createWith done
  | createFact done =>
    obtain ⟨-, rfl⟩ | ⟨e, h, created, -⟩ := createFact_eq_ok done
    · rfl
    · obtain ⟨draws, drawn⟩ := defaultFields_eq e.id e.template.slots.zipIdx s
      rw [drawn] at created
      have made := realm_createWith created
      exact made
  | createOrdered done =>
    obtain ⟨e, -, -, rfl⟩ | ⟨id, templates, template, h, implied, created, -⟩ :=
      createOrdered_eq_ok done
    · rfl
    · exact (realm_createWith created).trans (TemplateRegistry.realm_impliedTemplate implied)
  | defineTemplate done =>
    obtain ⟨templates, defined, rfl⟩ := defineTemplate_eq_ok done
    exact TemplateRegistry.realm_define defined
  | impliedTemplate done => exact TemplateRegistry.realm_impliedTemplate done

theorem Errand.realm (errand : Errand s s') : s'.realm = s.realm := by
  cases errand with
  | collectGarbage done => exact realm_collectGarbage done
  | maybeCollect done =>
    unfold Store.maybeCollect at done
    split at done
    · obtain ⟨⟨n, u⟩, collected, rfl⟩ := map_eq_ok.mp done
      exact realm_collectGarbage collected
    · obtain rfl := Except.ok.inj done
      rfl
  | undefineTemplate done =>
    obtain ⟨e, -, -, templates⟩ := undefineTemplate_eq_ok done
    have same := congrArg TemplateRegistry.realm templates
    exact same
  | defineModule done => exact TemplateRegistry.realm_defineModule done
  | setCurrentModule done => exact TemplateRegistry.realm_setCurrentModule done
  | drawDefault _ t position =>
    obtain ⟨draws, same⟩ := drawDefault_eq s t position
    rw [same]
    rfl
  | builderFields b slots =>
    obtain ⟨draws, same⟩ := builderFields_eq b slots s
    rw [same]
    rfl
  | _ => rfl

theorem Demand.realm (demand : Demand s s') : s'.realm = s.realm := by
  cases demand with
  | putSlot done => exact realm_of_templates (stock_putSlot done).templates
  | putSlotAt done => exact realm_of_templates (stock_putSlotAt done).templates
  | discard done =>
    obtain ⟨e, -, rfl⟩ | ⟨f, -, -, freed, -⟩ := discard_eq_ok done
    · rfl
    · exact realm_free freed
  | free _ _ done => exact realm_free done
  | retain done => exact realm_of_templates (stock_retain done).templates
  | install done => exact realm_of_templates (stock_install done).templates
  | makeBuilder done =>
    obtain ⟨e, -, -, rfl⟩ := makeBuilder_eq_ok done
    rfl
  | dropBuilder b => rfl

section JoinNetwork

variable [JoinNetwork N]

theorem Move.realm (move : Move s s') : s'.realm = s.realm := by
  cases move with
  | chore chore =>
    rcases chore.making_or_errand_or_demand with making | errand | demand
    · exact making.realm
    · exact errand.realm
    · exact demand.realm
  | release done => exact realm_of_templates (stock_release done).templates
  | deinstall done => exact realm_of_templates (stock_deinstall done).templates
  | asserts _ _ _ done => exact realm_of_templates (stock_attach done).templates
  | supersedes _ _ _ _ detached done =>
    exact realm_of_templates ((stock_detach detached).trans (stock_attach done)).templates
  | detach done => exact realm_of_templates (stock_detach done).templates
  | matchFact _ done => exact realm_of_templates (stock_matchFact done).templates
  | addPattern done => exact realm_of_templates (stock_addPattern done).templates
  | removePattern done => exact realm_of_templates (stock_removePattern done).templates
  | replayNewPatterns done => exact realm_of_templates (stock_replayAll done).templates
  | renumber | probe | allowDuplicates => rfl

/-- A fact base that was fresh belongs to the first realm. -/
theorem Reached.realm (reached : s.Reached) : s.realm = 0 :=
  reached.kept (fun _ _ _ => rfl) fun _ _ _ same move => move.realm.trans same

end JoinNetwork

end Store

end FactBase

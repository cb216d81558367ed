import FactBase.Store
import FactBase.Proofs.Basic

/-!
# Defining templates

What it takes to define a template, and what comes of it. A template that is defined stands behind the
others, under a number that none of them has had. The template of a relation is found among the
implied ones, or it is defined then.
-/

namespace FactBase

namespace TemplateRegistry

variable {r r' : TemplateRegistry} {id : TemplateId}

theorem define_eq_ok {t : Template} (done : r.define t = .ok (id, r')) :
    r.find? t.name = none ∧ (r.imports? t.module).isSome = true ∧ t.validate = .ok () ∧
      id = ⟨r.nextId⟩ ∧ r' = { r with
        entries := r.entries ++ [{ id := ⟨r.nextId⟩, template := t }]
        nextId := r.nextId + 1 } := by
  unfold define at done
  split at done
  · cases done
  · rename_i free
    split at done
    · cases done
    · rename_i known
      split at done
      · cases done
      · rename_i valid
        obtain ⟨rfl, rfl⟩ := Prod.mk.inj (Except.ok.inj done)
        refine ⟨Option.not_isSome_iff_eq_none.mp free, ?_, valid, rfl, rfl⟩
        rwa [Bool.not_eq_true, ← Option.not_isSome, Bool.not_eq_false'] at known

theorem impliedTemplate_eq_ok {relation : String}
    (done : r.impliedTemplate relation = .ok (id, r')) :
    (∃ e, r.byName? relation = some e ∧ e.template.isImplied = true ∧ id = e.id ∧ r' = r) ∨
      r.byName? relation = none ∧ r.define (.implied relation r.currentModule) = .ok (id, r') := by
  unfold impliedTemplate at done
  split at done
  · rename_i e named
    split at done
    · rename_i implied
      obtain ⟨rfl, rfl⟩ := Prod.mk.inj (Except.ok.inj done)
      exact .inl ⟨e, named, implied, rfl, rfl⟩
    · cases done
  · rename_i free
    exact .inr ⟨free, done⟩

end TemplateRegistry

theorem Store.defineTemplate_eq_ok {N : Type} {s s' : Store N} {t : Template} {id : TemplateId}
    (done : s.defineTemplate t = .ok (id, s')) :
    ∃ templates, s.templates.define t = .ok (id, templates) ∧ s' = { s with templates } := by
  unfold defineTemplate at done
  split at done
  · cases done
  · rename_i templates defined
    obtain ⟨rfl, rfl⟩ := Prod.mk.inj (Except.ok.inj done)
    exact ⟨templates, defined, rfl⟩

end FactBase

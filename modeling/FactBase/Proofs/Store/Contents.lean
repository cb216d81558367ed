import FactBase.Proofs.Store.Errand
import FactBase.Proofs.Store.Tending

/-!
# What facts hold

A handle names a fact of the same template with the same values as long as it names one, unless the
fact is made or written to. Asserting, retracting, matching and collecting do neither: a fact keeps
what it holds when its atoms are installed, and when it is garbage.
-/

namespace FactBase

/-- What a fact is made of. -/
def Fact.content (f : Fact) : TemplateId × Template × List Value :=
  (f.templateId, f.template, f.values)

namespace Store

variable {N : Type} {s s' s'' : Store N} {h : Handle} {f : Fact}

/-- Facts may go. Those that stay hold what they held. -/
def KeepsContents (s s' : Store N) : Prop :=
  ∀ h g, s'.get? h = some g → ∃ f, s.get? h = some f ∧ g.content = f.content

namespace KeepsContents

theorem trans (first : KeepsContents s s') (second : KeepsContents s' s'') :
    KeepsContents s s'' := by
  intro h k found
  obtain ⟨g, found, same'⟩ := second h k found
  obtain ⟨f, found, same⟩ := first h g found
  exact ⟨f, found, same'.trans same⟩

theorem of_facts_eq (facts : s'.facts = s.facts) : KeepsContents s s' := by
  intro h g found
  rw [Store.get?, facts] at found
  exact ⟨g, found, rfl⟩

/-- Facts hold the same that are the same in a view by which that can be told. -/
theorem of_map {α : Type} {view : Fact → α} (same : (s'.get? h).map view = (s.get? h).map view)
    (alike : ∀ f g, view g = view f → g.content = f.content) {g : Fact}
    (found : s'.get? h = some g) : ∃ f, s.get? h = some f ∧ g.content = f.content := by
  rw [found, Option.map_some, eq_comm, Option.map_eq_some_iff] at same
  obtain ⟨f, before, same⟩ := same
  exact ⟨f, before, alike f g same.symm⟩

theorem of_update {u : Fact → Fact} (facts : s'.facts = s.facts.update h u)
    (kept : ∀ f, (u f).content = f.content) : KeepsContents s s' := by
  intro k g found
  rw [get?_update_facts k facts] at found
  split at found
  · rename_i here
    obtain ⟨f, before, rfl⟩ := Option.map_eq_some_iff.mp found
    exact ⟨f, here ▸ before, kept f⟩
  · exact ⟨g, found, rfl⟩

theorem collects (collects : Collects s s') : KeepsContents s s' :=
  fun h g found => ⟨g, collects.old h g found, rfl⟩

theorem rematched (rematched : Rematched s s') : KeepsContents s s' :=
  fun h _ found => of_map (rematched.facts h)
    (fun _ _ same => Fact.view_unmatched Fact.content same fun _ => rfl) found

theorem free (tidy : s.facts.Tidy) (done : s.free h = .ok s') : KeepsContents s s' := by
  obtain ⟨f, facts, atoms, templates, removed, -, -, rfl⟩ := free_eq_ok done
  obtain ⟨-, -, names⟩ := Arena.remove?_spec tidy removed
  intro k g found
  rw [Store.get?, names] at found
  split at found
  · cases found
  · exact ⟨g, found, rfl⟩

theorem discard (tidy : s.facts.Tidy) {r : Except StoreError Unit}
    (done : s.discard h = .ok (r, s')) : KeepsContents s s' := by
  obtain ⟨e, -, rfl⟩ | ⟨f, -, -, freed, -⟩ := discard_eq_ok done
  · exact .of_facts_eq rfl
  · exact .free tidy freed

theorem retain (done : s.retain h = .ok s') : KeepsContents s s' := by
  obtain ⟨f, -, rfl⟩ := retain_eq_ok done
  exact .of_update rfl fun _ => rfl

theorem release {r : Except StoreError Unit} (done : s.release h = .ok (r, s')) :
    KeepsContents s s' := by
  obtain ⟨-, -, rfl⟩ | ⟨f, -, -, -, rfl⟩ := release_eq_ok done
  · exact .of_facts_eq rfl
  · exact .of_update rfl fun _ => rfl

/-- To install the atoms of a fact is to store its texts elsewhere. -/
theorem installFields (s : Store N) (h : Handle) : KeepsContents s (s.installFields h) := by
  unfold Store.installFields
  split
  · exact .of_facts_eq rfl
  · refine .of_update rfl fun f => ?_
    rw [Fact.content, values_sourced]
    rfl

theorem install (done : s.install h = .ok s') : KeepsContents s s' := by
  obtain ⟨u, retained, done⟩ := bind_eq_ok.mp done
  obtain rfl := Except.ok.inj done
  exact (KeepsContents.retain retained).trans (.installFields u h)

theorem deinstall {r : Except StoreError Unit} (done : s.deinstall h = .ok (r, s')) :
    KeepsContents s s' := by
  obtain ⟨-, -, rfl⟩ | ⟨f, atoms, -, -, -, -, rfl⟩ := deinstall_eq_ok done
  · exact .of_facts_eq rfl
  · exact .of_update rfl fun _ => rfl

theorem makeBuilder {name : String} {b : Builder} (done : Builder.make name s = .ok (b, s')) :
    KeepsContents s s' := by
  obtain ⟨e, -, -, rfl⟩ := makeBuilder_eq_ok done
  exact .of_facts_eq rfl

/-- One fact comes to stand for another that holds the same. -/
theorem replaced {g : Fact} (found : s.get? h = some f) (replaced : Replaced h g s.facts s'.facts)
    (same : g.content = f.content) : KeepsContents s s' := by
  intro k x found'
  by_cases here : k = h
  · subst here
    obtain ⟨y, last, bare⟩ := replaced.here
    obtain rfl := Option.some.inj (last.symm.trans found')
    exact ⟨f, found, (Fact.view_eq Fact.content bare fun _ => rfl).trans same⟩
  · refine of_map ((replaced.bare k).trans ?_)
      (fun _ _ same => Fact.view_eq Fact.content same fun _ => rfl) found'
    rw [if_neg here]
    rfl

theorem attaches {index : Nat} (attaches : Attaches h f index s s') (found : s.get? h = some f) :
    KeepsContents s s' := by
  refine .replaced found attaches.facts ?_
  rw [Fact.content, Fact.attached_values]
  rfl

theorem detaches (detaches : Detaches h f s s') (found : s.get? h = some f) : KeepsContents s s' :=
  .replaced found detaches.facts rfl

end KeepsContents

theorem Errand.keepsContents (errand : Errand s s') (sound : s.Sound) : KeepsContents s s' :=
  (errand.collects_or_facts_eq sound).elim .collects fun facts => .of_facts_eq facts

section JoinNetwork

variable [JoinNetwork N]

theorem KeepsContents.matchFact {mode : MatchMode} {o : MatchOutcome}
    (done : s.matchFact h mode = .ok (o, s')) : KeepsContents s s' :=
  .rematched (rematched_matchFact done)

theorem KeepsContents.detach (sound : s.Sound) {d : Detached} (done : s.detach h = .ok (d, s')) :
    KeepsContents s s' := by
  obtain ⟨f, found, -, -, detaches, -⟩ := detach_spec sound done
  exact .detaches detaches found

end JoinNetwork

end Store

end FactBase

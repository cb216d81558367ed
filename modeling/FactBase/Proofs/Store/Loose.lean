import FactBase.Proofs.Store.Errand
import FactBase.Proofs.Store.Tending

/-!
# Facts that are not attached lead nowhere

A fact has links while it is attached. It is made without them, and nothing that is done to a fact
before it is attached gives it any, so a walk that sets out from it ends at once.
-/

namespace FactBase.Store

variable {N : Type} {s s' : Store N} {h : Handle} {f g : Fact}

/-- No links lead away from a fact that is not attached. -/
def Loose (s : Store N) : Prop :=
  ∀ h f, s.get? h = some f → f.isUnattached = true → f.global = {} ∧ f.inTemplate = {}

namespace Loose

/-- Unattached facts were unattached before, with the links they have. -/
theorem keep (loose : s.Loose)
    (kept : ∀ h g, s'.get? h = some g → g.isUnattached = true →
      ∃ f, s.get? h = some f ∧ f.isUnattached = true ∧ g.global = f.global ∧
        g.inTemplate = f.inTemplate) : s'.Loose := by
  intro h g found unattached
  obtain ⟨f, before, unattached', global, inTemplate⟩ := kept h g found unattached
  obtain ⟨noGlobal, noInTemplate⟩ := loose h f before unattached'
  exact ⟨global.trans noGlobal, inTemplate.trans noInTemplate⟩

theorem fewer (loose : s.Loose) (old : ∀ h g, s'.get? h = some g → s.get? h = some g) : s'.Loose :=
  fun h g found => loose h g (old h g found)

theorem of_facts_eq (loose : s.Loose) (facts : s'.facts = s.facts) : s'.Loose :=
  loose.fewer fun h g found => by rwa [Store.get?, facts] at found

/-- A fact is changed in other things than its links. -/
theorem update (loose : s.Loose) {u : Fact → Fact} (facts : s'.facts = s.facts.update h u)
    (unattached : ∀ f, (u f).isUnattached = f.isUnattached) (global : ∀ f, (u f).global = f.global)
    (inTemplate : ∀ f, (u f).inTemplate = f.inTemplate) : s'.Loose := by
  refine loose.keep fun k g found loosed => ?_
  rw [get?_update_facts k facts] at found
  split at found
  · rename_i here
    obtain ⟨f, before, rfl⟩ := Option.map_eq_some_iff.mp found
    exact ⟨f, here ▸ before, (unattached f).symm.trans loosed, global f, inTemplate f⟩
  · exact ⟨g, found, loosed, rfl, rfl⟩

/-- One fact comes to stand for another and is attached; the unattached ones are left as they were. -/
theorem replaced (loose : s.Loose) (replaced : Replaced h g s.facts s'.facts)
    (attached : g.isUnattached = false) (leaves : Leaves [h] s s') : s'.Loose := by
  refine loose.keep fun k x found unattached => ?_
  have bare := replaced.bare k
  rw [show s'.facts.get? k = some x from found, Option.map_some] at bare
  split at bare
  · have same := Option.some.inj bare
    rw [Fact.view_eq Fact.isUnattached same fun _ => rfl, attached] at unattached
    cases unattached
  · rename_i other
    rw [eq_comm, Option.map_eq_some_iff] at bare
    obtain ⟨y, before, same⟩ := bare
    have loosed := (Fact.view_eq Fact.isUnattached same fun _ => rfl).trans unattached
    have stays := leaves.facts k y before loosed (by simpa using other)
    obtain rfl := Option.some.inj (stays.symm.trans found)
    exact ⟨y, before, loosed, rfl, rfl⟩

theorem attaches {index : Nat} (loose : s.Loose) (attaches : Attaches h f index s s')
    (unattached : f.isUnattached = true) (positive : index ≠ 0) : s'.Loose := by
  refine loose.replaced attaches.facts (Bool.eq_false_iff.mpr fun loosed => ?_) attaches.leaves
  exact not_asserted_of_unattached loosed (attached_isAsserted unattached positive _)

theorem detaches (loose : s.Loose) (detaches : Detaches h f s s') : s'.Loose :=
  loose.replaced detaches.facts (by simp [Fact.isUnattached, Fact.buried])
    (detaches.leaves.mono (List.nil_subset _))

theorem rematched (loose : s.Loose) (rematched : Rematched s s') : s'.Loose := by
  refine loose.keep fun h g found unattached => ?_
  have facts := rematched.facts h
  rw [found, Option.map_some, eq_comm, Option.map_eq_some_iff] at facts
  obtain ⟨f, before, same⟩ := facts
  exact ⟨f, before, (Fact.view_unmatched Fact.isUnattached same fun _ => rfl).trans unattached,
    (Fact.view_unmatched Fact.global same fun _ => rfl).symm,
    (Fact.view_unmatched Fact.inTemplate same fun _ => rfl).symm⟩

theorem createWith (loose : s.Loose) (tidy : s.facts.Tidy) {t : TemplateId} {template : Template}
    {fields : List Field} (done : s.createWith t template fields = .ok (h, s')) : s'.Loose := by
  obtain ⟨templates, facts, -, inserted, rfl⟩ := createWith_eq_ok done
  obtain ⟨-, -, names⟩ := Arena.insert_spec tidy inserted
  intro k g found unattached
  rw [Store.get?, names] at found
  split at found
  · obtain rfl := Option.some.inj found
    exact ⟨rfl, rfl⟩
  · exact loose k g found unattached

theorem free (loose : s.Loose) (tidy : s.facts.Tidy) (done : s.free h = .ok s') : s'.Loose := by
  obtain ⟨f, facts, atoms, templates, removed, -, -, rfl⟩ := free_eq_ok done
  obtain ⟨-, -, names⟩ := Arena.remove?_spec tidy removed
  refine loose.fewer fun k g found => ?_
  rw [Store.get?, names] at found
  split at found
  · cases found
  · exact found

theorem setBusy (loose : s.Loose) (h : Handle) (busy : Nat) : (s.setBusy h busy).Loose :=
  loose.update rfl (fun _ => rfl) (fun _ => rfl) fun _ => rfl

theorem installFields (loose : s.Loose) (h : Handle) : (s.installFields h).Loose := by
  unfold Store.installFields
  split
  · exact loose
  · exact loose.update rfl (fun _ => rfl) (fun _ => rfl) fun _ => rfl

theorem retain (loose : s.Loose) (done : s.retain h = .ok s') : s'.Loose := by
  obtain ⟨f, -, rfl⟩ := retain_eq_ok done
  exact loose.setBusy h _

theorem release (loose : s.Loose) {r : Except StoreError Unit}
    (done : s.release h = .ok (r, s')) : s'.Loose := by
  obtain ⟨-, -, rfl⟩ | ⟨f, -, -, -, rfl⟩ := release_eq_ok done
  · exact loose
  · exact loose.setBusy h _

theorem deinstall (loose : s.Loose) {r : Except StoreError Unit}
    (done : s.deinstall h = .ok (r, s')) : s'.Loose := by
  obtain ⟨-, -, rfl⟩ | ⟨f, atoms, -, -, -, -, rfl⟩ := deinstall_eq_ok done
  · exact loose
  · exact (loose.setBusy h _).of_facts_eq rfl

theorem putSlotAt (loose : s.Loose) {position : Nat} {v : Value}
    (done : s.putSlotAt h position v = .ok s') : s'.Loose := by
  obtain ⟨f, -, done⟩ := bind_eq_ok.mp done
  split at done
  · cases done
  · split at done
    · cases done
    · obtain rfl := Except.ok.inj done
      exact loose.update rfl (fun _ => rfl) (fun _ => rfl) fun _ => rfl

theorem putSlot (loose : s.Loose) {slot : String} {v : Value}
    (done : s.putSlot h slot v = .ok s') : s'.Loose := by
  obtain ⟨f, -, done⟩ := bind_eq_ok.mp done
  split at done
  · cases done
  · exact loose.putSlotAt done

end Loose

/-! ### Moves -/

theorem Making.loose (making : Making s s') (tidy : s.facts.Tidy) (loose : s.Loose) : s'.Loose := by
  obtain ⟨draws, templates, rfl | ⟨t, template, fields, h, created⟩⟩ := making.stores
  · exact loose.of_facts_eq rfl
  · exact Loose.createWith (s := { s with draws, templates }) (loose.of_facts_eq rfl) tidy created

theorem Errand.loose (errand : Errand s s') (sound : s.Sound) (loose : s.Loose) : s'.Loose :=
  (errand.collects_or_facts_eq sound).elim (fun collects => loose.fewer collects.old)
    loose.of_facts_eq

theorem Demand.loose (demand : Demand s s') (tidy : s.facts.Tidy) (loose : s.Loose) : s'.Loose := by
  cases demand with
  | putSlot done => exact loose.putSlot done
  | putSlotAt done => exact loose.putSlotAt done
  | discard done =>
    obtain ⟨e, -, rfl⟩ | ⟨f, -, -, freed, -⟩ := discard_eq_ok done
    · exact loose
    · exact loose.free tidy freed
  | free _ _ done => exact loose.free tidy done
  | retain done => exact loose.retain done
  | install done =>
    obtain ⟨u, retained, done⟩ := bind_eq_ok.mp done
    obtain rfl := Except.ok.inj done
    exact (loose.retain retained).installFields _
  | makeBuilder done =>
    obtain ⟨e, -, -, rfl⟩ := makeBuilder_eq_ok done
    exact loose.of_facts_eq rfl
  | dropBuilder b => exact loose.of_facts_eq rfl

variable [JoinNetwork N]

theorem Move.loose (move : Move s s') (sound : s.Sound) (loose : s.Loose) : s'.Loose := by
  cases move with
  | chore chore =>
    rcases chore.making_or_errand_or_demand with making | errand | demand
    · exact making.loose sound.tidy loose
    · exact errand.loose sound loose
    · exact demand.loose sound.tidy loose
  | release done => exact loose.release done
  | deinstall done => exact loose.deinstall done
  | asserts found unattached listed done =>
    obtain ⟨u, attached, -, attaches⟩ := attach_spec sound found unattached
      (show ∀ i, none = some i → i ≠ 0 by simp) listed
      fun p tail => (sound.listedByTemplate _).tail tail
    obtain ⟨-, rfl⟩ := Prod.mk.inj (Except.ok.inj (attached.symm.trans done))
    exact loose.attaches attaches unattached (Nat.ne_of_gt sound.numbered)
  | supersedes found waiting unattached template detached done =>
    obtain ⟨asserted, -, detaches, -, -, attaches⟩ :=
      supersedes_spec sound found waiting unattached template detached done
    exact (loose.detaches detaches).attaches attaches unattached
      (Fact.isAsserted_iff.mp asserted).1
  | detach done =>
    obtain ⟨f, -, -, -, detaches, -⟩ := detach_spec sound done
    exact loose.detaches detaches
  | matchFact _ done => exact loose.rematched (rematched_matchFact done)
  | addPattern done =>
    exact loose.rematched
      (replayable_rematched.addPattern (fun _ _ _ _ _ => .of_facts_eq rfl rfl) done)
  | removePattern done => exact loose.rematched (.removePattern done)
  | replayNewPatterns done => exact loose.rematched (replayable_rematched.replayAll done)
  | renumber | probe | allowDuplicates => exact loose.of_facts_eq rfl

/-- Whatever has happened to a fact base, no links lead away from its unattached facts. -/
theorem Reached.loose (reached : s.Reached) : s.Loose :=
  reached.kept
    (fun config network contentHash h f found => by simp [get?_fresh] at found)
    fun _ _ before loose move => move.loose before.sound loose

end FactBase.Store

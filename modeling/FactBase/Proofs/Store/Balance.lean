import FactBase.Proofs.Store.Errand
import FactBase.Proofs.Store.Tending

/-!
# Balanced atom counts

An atom is installed exactly as often as facts claim it and as it was lent with facts that somebody
had installed. Whatever a fact base does of its own accord moves installations and claims together;
only installing a fact and deinstalling it moves what is lent.
-/

namespace FactBase

namespace AtomTable

variable {t t' : AtomTable} {a b : Atom} {e : AtomEntry}

/-- No atom has two entries. -/
def Once (t : AtomTable) : Prop := (t.entries.map (·.atom)).Nodup

theorem entryOf?_eq_none : t.entryOf? a = none ↔ a ∉ t.entries.map (·.atom) := by
  simp only [entryOf?, List.find?_eq_none, beq_iff_eq, List.mem_map, not_exists, not_and]

theorem entryOf?_eq_some (once : t.Once) : t.entryOf? a = some e ↔ e ∈ t.entries ∧ e.atom = a := by
  constructor
  · intro found
    exact ⟨List.mem_of_find?_eq_some found, by simpa using List.find?_some found⟩
  · rintro ⟨inside, rfl⟩
    exact find?_eq_some_of_nodup once inside rfl

theorem installs_eq (once : t.Once) (inside : e ∈ t.entries) : t.installs e.atom = e.installs := by
  rw [installs, (entryOf?_eq_some once).mpr ⟨inside, rfl⟩]
  rfl

namespace Once

/-- Entries change, and the atoms they are for do not. -/
theorem map (once : t.Once) {f : AtomEntry → AtomEntry} (same : ∀ e, (f e).atom = e.atom)
    (entries : t'.entries = t.entries.map f) : t'.Once := by
  rw [Once, entries, List.map_map]
  exact (congrArg List.Nodup (List.map_congr_left fun e _ => same e)).mpr once

theorem update (once : t.Once) {f : AtomEntry → AtomEntry} (same : ∀ e, (f e).atom = e.atom) :
    (t.update a f).Once := by
  refine once.map (f := fun e => if e.atom == a then f e else e) (fun e => ?_) rfl
  split
  · exact same e
  · rfl

theorem append (once : t.Once) (new : t.entryOf? e.atom = none) :
    Once { t with entries := t.entries ++ [e] } := by
  rw [Once, List.map_append]
  refine List.nodup_append'.mpr ⟨once, List.nodup_singleton _, fun a before added => ?_⟩
  rw [List.mem_singleton.mp added] at before
  exact entryOf?_eq_none.mp new before

theorem installAtom (once : t.Once) (lender : Option Lender) : (t.installAtom lender a).Once := by
  unfold AtomTable.installAtom
  split
  · exact once.update fun _ => rfl
  · rename_i unknown
    exact once.append (Option.not_isSome_iff_eq_none.mp unknown)

theorem install (once : t.Once) (lender : Option Lender) (v : Value) :
    (t.install lender v).Once := by
  unfold AtomTable.install
  induction v.atoms generalizing t with
  | nil => exact once
  | cons a rest ih => exact ih (once.installAtom lender)

theorem fields (once : t.Once) (fields : List Field) (lender : Field → Option Lender) :
    (fields.foldl (fun t field => t.install (lender field) field.value) t).Once := by
  induction fields generalizing t with
  | nil => exact once
  | cons field rest ih => exact ih (once.install (lender field) field.value)

theorem deinstallAtom (once : t.Once) (done : t.deinstallAtom a = .ok t') : t'.Once := by
  unfold AtomTable.deinstallAtom at done
  split at done
  · rw [← Except.ok.inj done]
    exact once.update fun _ => rfl
  · cases done

theorem deinstallAtoms (once : t.Once) {as : List Atom}
    (done : as.foldlM AtomTable.deinstallAtom t = .ok t') : t'.Once := by
  induction as generalizing t with
  | nil =>
    obtain rfl := Except.ok.inj done
    exact once
  | cons a rest ih =>
    rw [List.foldlM_cons] at done
    obtain ⟨u, first, done⟩ := bind_eq_ok.mp done
    exact ih (once.deinstallAtom first) done

theorem intern (once : t.Once) (a : Atom) : (t.intern a).Once := by
  unfold AtomTable.intern
  split
  · exact once
  · rename_i unknown
    exact once.append (Option.not_isSome_iff_eq_none.mp unknown)

theorem settle (once : t.Once) (lender : Lender) : (t.settle lender).Once := by
  refine once.map (f := fun e => if e.lender == some lender then { e with lender := none } else e)
    (fun e => ?_) rfl
  split <;> rfl

theorem sweep (once : t.Once) (inUse : Atom → Bool) : (t.sweep inUse).Once :=
  once.sublist (List.filter_sublist.map _)

/-- A sweep changes no count. -/
theorem installs_sweep (once : t.Once) (inUse : Atom → Bool) (b : Atom) :
    (t.sweep inUse).installs b = t.installs b := by
  refine Nat.le_antisymm ?_ (AtomTable.installs_sweep t inUse b)
  cases left : (t.sweep inUse).entryOf? b with
  | none =>
    rw [AtomTable.installs, left]
    exact Nat.zero_le _
  | some e =>
    obtain ⟨inside, rfl⟩ := (entryOf?_eq_some (once.sweep inUse)).mp left
    rw [installs_eq once (List.mem_of_mem_filter inside), AtomTable.installs, left]
    exact Nat.le_of_eq rfl

end Once

/-- An atom that is installed outlasts every sweep. -/
theorem mem_sweep (installed : 0 < t.installs a) (inUse : Atom → Bool) :
    ∃ e ∈ (t.sweep inUse).entries, e.atom = a := by
  have remains := Nat.lt_of_lt_of_le installed (installs_sweep t inUse a)
  cases found : (t.sweep inUse).entryOf? a with
  | none =>
    rw [installs, found] at remains
    exact absurd remains (Nat.lt_irrefl 0)
  | some e => exact ⟨e, List.mem_of_find?_eq_some found, by simpa using List.find?_some found⟩

end AtomTable

namespace Store

variable {N : Type} {s s' s'' : Store N} {h : Handle} {f g : Fact}

/-- A step by which installations and claims move together, in a table that has no entry twice. -/
structure Balances (s s' : Store N) : Prop where
  once : s.atoms.Once → s'.atoms.Once
  atoms : s.atoms.Once → ∀ a, s'.atoms.installs a + s.facts.claims.count a =
    s.atoms.installs a + s'.facts.claims.count a

namespace Balances

theorem trans (first : Balances s s') (second : Balances s' s'') : Balances s s'' := by
  refine ⟨fun once => second.once (first.once once), fun once a => ?_⟩
  have before := first.atoms once a
  have after := second.atoms (first.once once) a
  omega

/-- Neither installations nor claims change. -/
theorem of_same (once : s.atoms.Once → s'.atoms.Once)
    (installs : s.atoms.Once → ∀ a, s'.atoms.installs a = s.atoms.installs a)
    (claims : ∀ a, s'.facts.claims.count a = s.facts.claims.count a) : Balances s s' :=
  ⟨once, fun same a => by rw [installs same, claims]⟩

/-- The table is left alone, and so are claims. -/
theorem of_claims (atoms : s'.atoms = s.atoms)
    (claims : ∀ a, s'.facts.claims.count a = s.facts.claims.count a) : Balances s s' := by
  refine of_same (fun once => ?_) (fun _ a => ?_) claims
  · rwa [atoms]
  · rw [atoms]

theorem of_eq (atoms : s'.atoms = s.atoms) (facts : s'.facts = s.facts) :
    Balances s s' := of_claims atoms fun _ => by rw [facts]

theorem refl (s : Store N) : Balances s s := of_eq rfl rfl

theorem rematched (rematched : Rematched s s') : Balances s s' :=
  of_claims rematched.atoms fun a => by rw [rematched.claims]

theorem createWith (tidy : s.facts.Tidy) {t : TemplateId} {template : Template}
    {fields : List Field} (done : s.createWith t template fields = .ok (h, s')) :
    Balances s s' := by
  obtain ⟨templates, facts, -, inserted, rfl⟩ := createWith_eq_ok done
  refine of_claims rfl fun a => ?_
  rw [Arena.count_claims_insert tidy inserted]
  exact Nat.add_zero _

theorem setField (found : s.get? h = some f) (unattached : f.isUnattached = true) (position : Nat)
    (field : Field) : Balances s (s.setField h position field) := by
  refine of_claims rfl (Arena.claims_update found ?_)
  rw [Fact.claims_of_unattached unattached]
  exact Fact.claims_of_unattached unattached

theorem putSlotAt {position : Nat} {v : Value} (done : s.putSlotAt h position v = .ok s') :
    Balances s s' := by
  obtain ⟨f, found, done⟩ := bind_eq_ok.mp done
  obtain ⟨stored, unattached⟩ := unattached_eq_ok found
  split at done
  · cases done
  · split at done
    · cases done
    · obtain rfl := Except.ok.inj done
      exact setField stored unattached position ⟨v, .own⟩

theorem putSlot {slot : String} {v : Value} (done : s.putSlot h slot v = .ok s') :
    Balances s s' := by
  obtain ⟨f, found, done⟩ := bind_eq_ok.mp done
  split at done
  · cases done
  · exact putSlotAt done

/-- A fact that goes gives back what it claimed. -/
theorem free (done : s.free h = .ok s') : Balances s s' := by
  obtain ⟨f, facts, atoms, templates, removed, given, -, rfl⟩ := free_eq_ok done
  refine ⟨fun once => ?_, fun _ a => ?_⟩
  · split at given
    · obtain rfl := Except.ok.inj given
      exact once
    · rw [AtomTable.foldlM_deinstall] at given
      exact once.deinstallAtoms given
  · have claimed := Arena.count_claims_remove? removed a
    have taken := Fact.installs_given given a
    dsimp only
    omega

theorem discard {r : Except StoreError Unit} (done : s.discard h = .ok (r, s')) :
    Balances s s' := by
  obtain ⟨e, -, rfl⟩ | ⟨f, -, -, freed, -⟩ := discard_eq_ok done
  · exact .refl _
  · exact free freed

theorem setBusy {busy : Nat} (found : s.get? h = some f) : Balances s (s.setBusy h busy) :=
  of_claims rfl (Arena.claims_update found rfl)

theorem retain (done : s.retain h = .ok s') : Balances s s' := by
  obtain ⟨f, found, rfl⟩ := retain_eq_ok done
  exact setBusy found

theorem release {r : Except StoreError Unit} (done : s.release h = .ok (r, s')) :
    Balances s s' := by
  obtain ⟨-, -, rfl⟩ | ⟨f, found, -, -, rfl⟩ := release_eq_ok done
  · exact .refl _
  · exact setBusy found

theorem collectFrom {hs : List Handle} {n : Nat} (done : collectFrom hs s = .ok (n, s')) :
    Balances s s' := by
  induction hs generalizing s n with
  | nil =>
    obtain ⟨-, rfl⟩ := Prod.mk.inj (Except.ok.inj done)
    exact .refl s
  | cons h rest ih =>
    unfold Store.collectFrom at done
    split at done
    · cases done
    · split at done
      · obtain ⟨u, freed, done⟩ := bind_eq_ok.mp done
        obtain ⟨⟨m, v⟩, others, done⟩ := bind_eq_ok.mp done
        obtain ⟨-, rfl⟩ := Prod.mk.inj (Except.ok.inj done)
        exact (free freed).trans (ih others)
      · have kept : Balances s { s with garbage := s.garbage ++ [h] } := of_eq rfl rfl
        exact kept.trans (ih done)

theorem collectGarbage {n : Nat} (done : s.collectGarbage = .ok (n, s')) : Balances s s' := by
  unfold Store.collectGarbage at done
  split at done
  · obtain ⟨-, rfl⟩ := Prod.mk.inj (Except.ok.inj done)
    exact .refl s
  · obtain ⟨⟨m, u⟩, collected, done⟩ := bind_eq_ok.mp done
    obtain ⟨-, rfl⟩ := Prod.mk.inj (Except.ok.inj done)
    have emptied : Balances s { s with garbage := [] } := of_eq rfl rfl
    refine (emptied.trans (collectFrom (s := { s with garbage := [] }) collected)).trans ?_
    exact of_same (fun once => once.sweep _) (fun once a => once.installs_sweep _ a) fun _ => rfl

theorem maybeCollect (done : s.maybeCollect = .ok s') : Balances s s' := by
  unfold Store.maybeCollect at done
  split at done
  · obtain ⟨⟨n, u⟩, collected, rfl⟩ := map_eq_ok.mp done
    exact collectGarbage collected
  · obtain rfl := Except.ok.inj done
    exact .refl s

/-- A fact that is attached claims what is installed for it. -/
theorem attaches {index : Nat} (attaches : Attaches h f index s s') (found : s.get? h = some f)
    (unattached : f.isUnattached = true) (numbered : index ≠ 0) : Balances s s' := by
  refine ⟨fun once => ?_, fun _ a => ?_⟩
  · rw [attaches.atoms]
    exact once.fields f.fields f.lender?
  · have claims := attaches.facts.count_claims found a
    have none : f.claims = [] := Fact.claims_of_unattached unattached
    have all : (f.attached index (s.hashOf f)).claims = Value.allAtoms f.values :=
      (if_neg numbered).trans (congrArg Value.allAtoms (f.attached_values index _))
    rw [none, all, List.count_nil] at claims
    rw [attaches.atoms, AtomTable.installs_fields]
    change _ + (Value.allAtoms f.values).count a + _ = _
    omega

theorem detaches (detaches : Detaches h f s s') (found : s.get? h = some f) : Balances s s' := by
  obtain ⟨_, _, _, _, _, _, _, _, rest⟩ := detaches.rest
  refine of_claims (by rw [rest]) fun a => ?_
  have claims := detaches.facts.count_claims found a
  have same : f.buried.claims = f.claims := rfl
  rw [same] at claims
  exact Nat.add_right_cancel claims

theorem makeBuilder {name : String} {b : Builder} (done : Builder.make name s = .ok (b, s')) :
    Balances s s' := by
  unfold Builder.make at done
  split at done
  · cases done
  · split at done
    · cases done
    · obtain ⟨-, rfl⟩ := Prod.mk.inj (Except.ok.inj done)
      exact of_eq rfl rfl

end Balances

theorem Making.balances (making : Making s s') (sound : s.Sound) : Balances s s' := by
  obtain ⟨draws, templates, rfl | ⟨t, template, fields, h, created⟩⟩ := making.stores
  · exact .of_eq rfl rfl
  · have prepared : Balances s { s with draws, templates } := .of_eq rfl rfl
    exact prepared.trans (.createWith (s := { s with draws, templates }) sound.tidy created)

/-- Whatever a fact base does of its own accord, installations and claims move together. -/
theorem Errand.balances (errand : Errand s s') : Balances s s' := by
  cases errand with
  | collectGarbage done => exact .collectGarbage done
  | maybeCollect done => exact .maybeCollect done
  | undefineTemplate done =>
    unfold Store.undefineTemplate at done
    split at done
    · cases done
    · obtain rfl := Except.ok.inj done
      dsimp only
      split
      · exact .of_same (fun once => once.settle _) (fun _ => AtomTable.installs_settle _ _)
          fun _ => rfl
      · exact .of_eq rfl rfl
  | drawDefault _ t position =>
    obtain ⟨draws, drawn⟩ := drawDefault_eq s t position
    rw [drawn]
    exact .of_eq rfl rfl
  | builderFields b slots =>
    obtain ⟨draws, drawn⟩ := builderFields_eq b slots s
    rw [drawn]
    exact .of_eq rfl rfl
  | intern _ a =>
    exact .of_same (fun once => once.intern a) (fun _ => AtomTable.installs_intern s.atoms a)
      fun _ => rfl
  | settle _ depth =>
    exact .of_same (fun once => once.settle _)
      (fun _ => AtomTable.installs_settle s.atoms (.changes depth)) fun _ => rfl
  | defineModule | setCurrentModule | listeners | guarded | countAsserted | countDuplicate
  | countModified | countRefusal | lend | clearEvaluationError => exact .of_eq rfl rfl

/-! ### What stays attached -/

/-- Attached facts stay, with the values they have. -/
def Stays (s s' : Store N) : Prop :=
  ∀ k f, s.get? k = some f → f.isUnattached = false → ∃ g, s'.get? k = some g ∧ f.Lasts g

namespace Stays

theorem trans (first : Stays s s') (second : Stays s' s'') : Stays s s'' := by
  intro k f found attached
  obtain ⟨g, found', lasts⟩ := first k f found attached
  obtain ⟨x, found'', lasts'⟩ := second k g found' (lasts.attached attached).1
  exact ⟨x, found'', lasts.trans lasts'⟩

theorem alike (alike : s.Alike s') : Stays s s' := by
  intro k f found attached
  obtain ⟨g, found', like⟩ := (alike.facts k).attached found attached
  exact ⟨g, found', like.templateId.symm, fun _ =>
    ⟨like.isUnattached.symm.trans attached, like.index.symm, like.values.symm⟩⟩

/-- One fact comes to stand for another that it continues. -/
theorem replaced (found : s.get? h = some f) (replaced : Replaced h g s.facts s'.facts)
    (stands : f.Stands g) : Stays s s' := by
  intro k x same _
  obtain ⟨y, there, stands⟩ := stands_replaced found replaced stands same
  exact ⟨y, there, stands.lasts⟩

theorem attaches {index : Nat} (attaches : Attaches h f index s s') (found : s.get? h = some f)
    (unattached : f.isUnattached = true) : Stays s s' :=
  .replaced found attaches.facts (Fact.stands_attached unattached index _)

theorem detaches (detaches : Detaches h f s s') (found : s.get? h = some f)
    (asserted : f.isAsserted = true) : Stays s s' :=
  .replaced found detaches.facts (Fact.stands_buried asserted)

end Stays

/-- As long as an attached fact is stored, its number and its values stay what they are. -/
theorem Move.lasts [JoinNetwork N] (move : Move s s') (sound : s.Sound) (found : s.get? h = some f)
    (attached : f.isUnattached = false) (found' : s'.get? h = some g) : f.Lasts g := by
  have stays (stays : Stays s s') : f.Lasts g := by
    obtain ⟨x, same, lasts⟩ := stays h f found attached
    exact Option.some.inj (same.symm.trans found') ▸ lasts
  cases move with
  | chore chore =>
    rcases chore.recorded sound with alike | ⟨guarded, rfl⟩ | collects
    · exact stays (.alike alike)
    · exact Option.some.inj (found.symm.trans found') ▸ .refl f
    · exact Option.some.inj (found.symm.trans (collects.old h g found')) ▸ .refl f
  | release done => exact stays (.alike (release_spec done).alike)
  | deinstall done => exact stays (.alike (deinstall_spec done).alike)
  | asserts here unattached listed done =>
    obtain ⟨u, attached, -, attaches⟩ := attach_spec sound here unattached
      (show ∀ i, none = some i → i ≠ 0 by simp) listed
      fun p tail => (sound.listedByTemplate _).tail tail
    obtain ⟨-, rfl⟩ := Prod.mk.inj (Except.ok.inj (attached.symm.trans done))
    exact stays (.attaches attaches here unattached)
  | supersedes here waiting unattached template detached done =>
    obtain ⟨asserted, -, detaches, waits, -, attaches⟩ :=
      supersedes_spec sound here waiting unattached template detached done
    exact stays ((Stays.detaches detaches here asserted).trans (.attaches attaches waits unattached))
  | detach done =>
    obtain ⟨x, here, asserted, -, detaches, -⟩ := detach_spec sound done
    exact stays (.detaches detaches here asserted)
  | matchFact _ done => exact stays (.alike (matchFact_spec done).alike)
  | addPattern done => exact stays (.alike (addPattern_spec sound done).alike)
  | removePattern done => exact stays (.alike (removePattern_spec done).alike)
  | replayNewPatterns done => exact stays (.alike (replayNewPatterns_spec sound done).alike)
  | renumber | probe | allowDuplicates =>
    exact Option.some.inj (found.symm.trans found') ▸ .refl f

end Store

end FactBase

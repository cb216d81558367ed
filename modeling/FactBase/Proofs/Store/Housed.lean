import FactBase.Proofs.Store.Balance

/-!
# Texts in the table

Once a fact is attached, its fields use the storage of the atom table, and the table keeps what they
use for as long as the fact is stored, however often its atoms are installed and taken back. So it
makes no difference to the table who lends a text that such a fact holds.
-/

namespace FactBase

namespace AtomTable

variable {t t' : AtomTable} {a : Atom}

/-- The atoms that have an entry. -/
def known (t : AtomTable) : List Atom := t.entries.map (·.atom)

theorem isSome_entryOf? : (t.entryOf? a).isSome = true ↔ a ∈ t.known := by
  rw [← Decidable.not_iff_not, Option.not_isSome_iff_eq_none]
  exact entryOf?_eq_none

theorem known_of_map {f : AtomEntry → AtomEntry} (same : ∀ e, (f e).atom = e.atom)
    (entries : t'.entries = t.entries.map f) : t'.known = t.known := by
  rw [known, entries, List.map_map]
  exact List.map_congr_left fun e _ => same e

theorem known_update {f : AtomEntry → AtomEntry} (same : ∀ e, (f e).atom = e.atom) :
    (t.update a f).known = t.known := by
  refine known_of_map (f := fun e => if e.atom == a then f e else e) (fun e => ?_) rfl
  split
  · exact same e
  · rfl

theorem known_settle (t : AtomTable) (lender : Lender) : (t.settle lender).known = t.known := by
  refine known_of_map
    (f := fun e => if e.lender == some lender then { e with lender := none } else e) (fun e => ?_) rfl
  split <;> rfl

theorem known_append (e : AtomEntry) :
    known { t with entries := t.entries ++ [e] } = t.known ++ [e.atom] := List.map_append

theorem subset_intern (t : AtomTable) (a : Atom) : t.known ⊆ (t.intern a).known := by
  unfold intern
  split
  · exact List.Subset.refl _
  · rw [known_append]
    exact List.subset_append_left _ _

theorem subset_installAtom (t : AtomTable) (lender : Option Lender) (a : Atom) :
    a :: t.known ⊆ (t.installAtom lender a).known := by
  unfold installAtom
  split
  · rename_i known
    rw [known_update (f := fun e => { e with installs := e.installs + 1 }) fun _ => rfl]
    exact List.cons_subset.mpr ⟨isSome_entryOf?.mp known, List.Subset.refl _⟩
  · rw [known_append]
    exact List.cons_subset.mpr ⟨List.mem_append_right _ (List.mem_singleton_self a),
      List.subset_append_left _ _⟩

theorem subset_install (t : AtomTable) (lender : Option Lender) (v : Value) :
    v.atoms ++ t.known ⊆ (t.install lender v).known := by
  unfold install
  induction v.atoms generalizing t with
  | nil => exact List.Subset.refl _
  | cons a rest ih =>
    have first := subset_installAtom t lender a
    obtain ⟨here, before⟩ := List.cons_subset.mp first
    obtain ⟨others, after⟩ := List.append_subset.mp (ih (t.installAtom lender a))
    exact List.cons_subset.mpr
      ⟨after here, List.append_subset.mpr ⟨others, List.Subset.trans before after⟩⟩

/-- Installing fields makes their atoms known. -/
theorem subset_fields (fields : List Field) (lender : Field → Option Lender) (t : AtomTable) :
    let t' := fields.foldl (fun t field => t.install (lender field) field.value) t
    t.known ⊆ t'.known ∧ ∀ field ∈ fields, field.value.atoms ⊆ t'.known := by
  induction fields generalizing t with
  | nil => exact ⟨List.Subset.refl _, fun _ inside => absurd inside List.not_mem_nil⟩
  | cons field rest ih =>
    obtain ⟨own, before⟩ := List.append_subset.mp (subset_install t (lender field) field.value)
    obtain ⟨after, others⟩ := ih (t.install (lender field) field.value)
    exact ⟨List.Subset.trans before after,
      List.forall_mem_cons.mpr ⟨List.Subset.trans own after, others⟩⟩

theorem known_deinstallAtoms {as : List Atom} (done : as.foldlM deinstallAtom t = .ok t') :
    t'.known = t.known := by
  induction as generalizing t with
  | nil => exact congrArg known (Except.ok.inj done).symm
  | cons a rest ih =>
    rw [List.foldlM_cons] at done
    obtain ⟨u, first, done⟩ := bind_eq_ok.mp done
    refine (ih done).trans ?_
    unfold deinstallAtom at first
    split at first
    · rw [← Except.ok.inj first]
      exact known_update fun _ => rfl
    · cases first

/-- A sweep leaves what is in use. -/
theorem mem_known_sweep {inUse : Atom → Bool} (known : a ∈ t.known) (used : inUse a = true) :
    a ∈ (t.sweep inUse).known := by
  obtain ⟨e, inside, rfl⟩ := List.mem_map.mp known
  refine List.mem_map_of_mem (List.mem_filter.mpr ⟨inside, ?_⟩)
  rw [used, Bool.or_true]

/-! ### Who lends what is known -/

/-- Of an atom that is known, the table goes on using its own storage. -/
theorem installAtom_of_known (known : a ∈ t.known) (lender lender' : Option Lender) :
    t.installAtom lender a = t.installAtom lender' a := by
  unfold installAtom
  rw [if_pos (isSome_entryOf?.mpr known), if_pos (isSome_entryOf?.mpr known)]

theorem install_of_known {v : Value} (known : v.atoms ⊆ t.known) (lender lender' : Option Lender) :
    t.install lender v = t.install lender' v := by
  unfold install
  revert known
  induction v.atoms generalizing t with
  | nil => exact fun _ => rfl
  | cons a rest ih =>
    intro known
    obtain ⟨here, others⟩ := List.cons_subset.mp known
    rw [List.foldl_cons, List.foldl_cons, installAtom_of_known here lender lender']
    obtain ⟨-, kept⟩ := List.cons_subset.mp (subset_installAtom t lender' a)
    exact ih (List.Subset.trans others kept)

end AtomTable

/-- A field that uses the storage of the table. -/
structure Field.Housed (t : AtomTable) (field : Field) : Prop where
  source : field.source = .table
  known : field.value.atoms ⊆ t.known

namespace Store

variable {N : Type} {s s' : Store N} {h : Handle} {f g : Fact}

/-- All attached facts use the storage of the table. -/
def Housed (s : Store N) : Prop :=
  ∀ h f, s.get? h = some f → f.isUnattached = false → ∀ field ∈ f.fields, field.Housed s.atoms

namespace Housed

/-- The table keeps what it knows, and facts that are attached were and had the same fields. -/
theorem keep (housed : s.Housed) (grows : s.atoms.known ⊆ s'.atoms.known)
    (facts : ∀ h g, s'.get? h = some g → g.isUnattached = false →
      ∃ f, s.get? h = some f ∧ f.isUnattached = false ∧ g.fields = f.fields) : s'.Housed := by
  intro h g found attached field inside
  obtain ⟨f, before, attached', same⟩ := facts h g found attached
  have lodged := housed h f before attached' field (same ▸ inside)
  exact ⟨lodged.source, List.Subset.trans lodged.known grows⟩

/-- Facts may go. -/
theorem fewer (housed : s.Housed) (grows : s.atoms.known ⊆ s'.atoms.known)
    (old : ∀ h g, s'.get? h = some g → s.get? h = some g) : s'.Housed :=
  housed.keep grows fun h g found attached => ⟨g, old h g found, attached, rfl⟩

theorem of_facts_eq (housed : s.Housed) (grows : s.atoms.known ⊆ s'.atoms.known)
    (facts : s'.facts = s.facts) : s'.Housed :=
  housed.fewer grows fun h g found => by rwa [Store.get?, facts] at found

/-- A fact is changed in other things than its fields. -/
theorem update (housed : s.Housed) (grows : s.atoms.known ⊆ s'.atoms.known) {u : Fact → Fact}
    (facts : s'.facts = s.facts.update h u) (fields : ∀ f, (u f).fields = f.fields)
    (unattached : ∀ f, (u f).isUnattached = f.isUnattached) : s'.Housed := by
  refine housed.keep grows fun k g found attached => ?_
  rw [get?_update_facts k facts] at found
  split at found
  · rename_i here
    obtain ⟨f, before, rfl⟩ := Option.map_eq_some_iff.mp found
    exact ⟨f, here ▸ before, (unattached f).symm.trans attached, fields f⟩
  · exact ⟨g, found, attached, rfl⟩

/-- One fact comes to stand for another, and its fields use the storage of the table if it is
attached. -/
theorem replaced (housed : s.Housed) (grows : s.atoms.known ⊆ s'.atoms.known)
    (replaced : Replaced h g s.facts s'.facts)
    (own : g.isUnattached = false → ∀ field ∈ g.fields, field.Housed s'.atoms) : s'.Housed := by
  intro k x found attached field inside
  have bare := replaced.bare k
  rw [show s'.facts.get? k = some x from found, Option.map_some] at bare
  split at bare
  · have same := Option.some.inj bare
    rw [Fact.view_eq Fact.isUnattached same fun _ => rfl] at attached
    rw [Fact.view_eq Fact.fields same fun _ => rfl] at inside
    exact own attached field inside
  · rw [eq_comm, Option.map_eq_some_iff] at bare
    obtain ⟨y, before, same⟩ := bare
    rw [← Fact.view_eq Fact.isUnattached same fun _ => rfl] at attached
    rw [← Fact.view_eq Fact.fields same fun _ => rfl] at inside
    have lodged := housed k y before attached field inside
    exact ⟨lodged.source, List.Subset.trans lodged.known grows⟩

theorem attaches {index : Nat} (housed : s.Housed) (attaches : Attaches h f index s s') :
    s'.Housed := by
  obtain ⟨grows, own⟩ := AtomTable.subset_fields f.fields f.lender? s.atoms
  rw [← attaches.atoms] at grows own
  refine housed.replaced grows attaches.facts fun _ field inside => ?_
  obtain ⟨x, before, rfl⟩ := List.mem_map.mp inside
  exact ⟨rfl, own x before⟩

theorem detaches (housed : s.Housed) (detaches : Detaches h f s s') (found : s.get? h = some f)
    (asserted : f.isAsserted = true) : s'.Housed := by
  obtain ⟨_, _, _, _, _, _, _, _, shape⟩ := detaches.rest
  have atoms : s'.atoms = s.atoms := by rw [shape]
  refine housed.replaced (atoms ▸ List.Subset.refl _) detaches.facts fun _ field inside => ?_
  have attached : f.isUnattached = false :=
    Bool.eq_false_iff.mpr fun unattached => not_asserted_of_unattached unattached asserted
  exact atoms ▸ housed h f found attached field inside

theorem rematched (housed : s.Housed) (rematched : Rematched s s') : s'.Housed := by
  refine housed.keep (rematched.atoms ▸ List.Subset.refl _) fun h g found attached => ?_
  have facts := rematched.facts h
  rw [found, Option.map_some, eq_comm, Option.map_eq_some_iff] at facts
  obtain ⟨f, before, same⟩ := facts
  exact ⟨f, before, (Fact.view_unmatched Fact.isUnattached same fun _ => rfl).trans attached,
    (Fact.view_unmatched Fact.fields same fun _ => rfl).symm⟩

theorem createWith (housed : s.Housed) (tidy : s.facts.Tidy) {t : TemplateId} {template : Template}
    {fields : List Field} (done : s.createWith t template fields = .ok (h, s')) : s'.Housed := by
  obtain ⟨templates, facts, -, inserted, rfl⟩ := createWith_eq_ok done
  obtain ⟨-, -, names⟩ := Arena.insert_spec tidy inserted
  refine housed.keep (List.Subset.refl _) fun k g found attached => ?_
  rw [Store.get?, names] at found
  split at found
  · obtain rfl := Option.some.inj found
    cases attached
  · exact ⟨g, found, attached, rfl⟩

theorem free (housed : s.Housed) (tidy : s.facts.Tidy) (done : s.free h = .ok s') : s'.Housed := by
  obtain ⟨f, facts, atoms, templates, removed, given, -, rfl⟩ := free_eq_ok done
  obtain ⟨-, -, names⟩ := Arena.remove?_spec tidy removed
  have known : atoms.known = s.atoms.known := by
    split at given
    · rw [← Except.ok.inj given]
    · rw [AtomTable.foldlM_deinstall] at given
      exact AtomTable.known_deinstallAtoms given
  refine housed.fewer (known ▸ List.Subset.refl _) fun k g found => ?_
  rw [Store.get?, names] at found
  split at found
  · cases found
  · exact found

theorem collectFrom {hs : List Handle} {n : Nat} (housed : s.Housed) (tidy : s.facts.Tidy)
    (done : collectFrom hs s = .ok (n, s')) : s'.Housed := by
  induction hs generalizing s n with
  | nil =>
    obtain ⟨-, rfl⟩ := Prod.mk.inj (Except.ok.inj done)
    exact housed
  | cons h rest ih =>
    unfold Store.collectFrom at done
    split at done
    · cases done
    · split at done
      · obtain ⟨u, freed, done⟩ := bind_eq_ok.mp done
        obtain ⟨⟨m, v⟩, others, done⟩ := bind_eq_ok.mp done
        obtain ⟨-, rfl⟩ := Prod.mk.inj (Except.ok.inj done)
        exact ih (housed.free tidy freed) (Sustains.free tidy freed).2 others
      · have kept : Housed { s with garbage := s.garbage ++ [h] } := housed
        exact ih kept tidy done

/-- The table keeps the atoms of attached facts when it is swept. -/
theorem sweep (housed : s.Housed) : Housed { s with atoms := s.atoms.sweep s.holdsAtom } := by
  intro h f found attached field inside
  have lodged := housed h f found attached field inside
  refine ⟨lodged.source, fun a holds => AtomTable.mem_known_sweep (lodged.known holds) ?_⟩
  refine List.any_eq_true.mpr ⟨f, Arena.mem_values found, List.any_eq_true.mpr ⟨field, inside, ?_⟩⟩
  rw [lodged.source, beq_self_eq_true, Bool.true_and, List.contains_iff_mem]
  exact holds

theorem collectGarbage (housed : s.Housed) (tidy : s.facts.Tidy) {n : Nat}
    (done : s.collectGarbage = .ok (n, s')) : s'.Housed := by
  unfold Store.collectGarbage at done
  split at done
  · obtain ⟨-, rfl⟩ := Prod.mk.inj (Except.ok.inj done)
    exact housed
  · obtain ⟨⟨m, u⟩, collected, done⟩ := bind_eq_ok.mp done
    obtain ⟨-, rfl⟩ := Prod.mk.inj (Except.ok.inj done)
    have emptied : Housed { s with garbage := [] } := housed
    have swept := (emptied.collectFrom tidy collected).sweep
    exact swept

theorem setBusy (housed : s.Housed) (h : Handle) (busy : Nat) : (s.setBusy h busy).Housed :=
  housed.update (List.Subset.refl _) rfl (fun _ => rfl) fun _ => rfl

theorem installFields (housed : s.Housed) (h : Handle) : (s.installFields h).Housed := by
  cases found : s.get? h with
  | none =>
    rw [Store.installFields, found]
    exact housed
  | some f =>
    obtain ⟨grows, own⟩ := AtomTable.subset_fields f.fields f.lender? s.atoms
    rw [installFields_eq found]
    intro k g found' attached field inside
    rw [get?_update_facts k rfl] at found'
    split at found'
    · rw [show s.facts.get? h = some f from found, Option.map_some] at found'
      obtain rfl := Option.some.inj found'
      obtain ⟨x, before, rfl⟩ := List.mem_map.mp inside
      exact ⟨rfl, own x before⟩
    · have lodged := housed k g found' attached field inside
      exact ⟨lodged.source, List.Subset.trans lodged.known grows⟩

theorem retain (housed : s.Housed) (done : s.retain h = .ok s') : s'.Housed := by
  obtain ⟨f, -, rfl⟩ := retain_eq_ok done
  exact housed.setBusy h _

theorem release (housed : s.Housed) {r : Except StoreError Unit}
    (done : s.release h = .ok (r, s')) : s'.Housed := by
  obtain ⟨-, -, rfl⟩ | ⟨f, -, -, -, rfl⟩ := release_eq_ok done
  · exact housed
  · exact housed.setBusy h _

theorem deinstall (housed : s.Housed) {r : Except StoreError Unit}
    (done : s.deinstall h = .ok (r, s')) : s'.Housed := by
  obtain ⟨-, -, rfl⟩ | ⟨f, atoms, -, -, given, -, rfl⟩ := deinstall_eq_ok done
  · exact housed
  · rw [AtomTable.foldlM_deinstall] at given
    have known := AtomTable.known_deinstallAtoms given
    exact (housed.setBusy h _).of_facts_eq (known ▸ List.Subset.refl _) rfl

theorem putSlotAt (housed : s.Housed) {position : Nat} {v : Value}
    (done : s.putSlotAt h position v = .ok s') : s'.Housed := by
  obtain ⟨f, unattached, done⟩ := bind_eq_ok.mp done
  obtain ⟨stored, free⟩ := unattached_eq_ok unattached
  split at done
  · cases done
  · split at done
    · cases done
    · obtain rfl := Except.ok.inj done
      refine housed.keep (List.Subset.refl _) fun k g found attached => ?_
      rw [get?_update_facts k rfl] at found
      split at found
      · rw [show s.facts.get? h = some f from stored, Option.map_some] at found
        obtain rfl := Option.some.inj found
        cases free.symm.trans attached
      · exact ⟨g, found, attached, rfl⟩

theorem putSlot (housed : s.Housed) {slot : String} {v : Value}
    (done : s.putSlot h slot v = .ok s') : s'.Housed := by
  obtain ⟨f, -, done⟩ := bind_eq_ok.mp done
  split at done
  · cases done
  · exact housed.putSlotAt done

end Housed

theorem housed_fresh (config : Config) (network : N)
    (contentHash : TemplateId → List Value → UInt64) :
    (Store.fresh config network contentHash).Housed := fun h _ found => by
  rw [get?_fresh] at found
  cases found

theorem Making.housed (making : Making s s') (sound : s.Sound) (housed : s.Housed) : s'.Housed := by
  obtain ⟨draws, templates, rfl | ⟨t, template, fields, h, created⟩⟩ := making.stores
  · exact housed
  · have prepared : Housed { s with draws, templates } := housed
    exact prepared.createWith sound.tidy created

theorem Errand.housed (errand : Errand s s') (sound : s.Sound) (housed : s.Housed) : s'.Housed := by
  cases errand with
  | collectGarbage done => exact housed.collectGarbage sound.tidy done
  | maybeCollect done =>
    unfold Store.maybeCollect at done
    split at done
    · obtain ⟨⟨n, u⟩, collected, rfl⟩ := map_eq_ok.mp done
      exact housed.collectGarbage sound.tidy collected
    · obtain rfl := Except.ok.inj done
      exact housed
  | undefineTemplate done =>
    unfold Store.undefineTemplate at done
    split at done
    · cases done
    · obtain rfl := Except.ok.inj done
      refine housed.of_facts_eq ?_ rfl
      dsimp only
      split
      · rw [AtomTable.known_settle]
        exact List.Subset.refl _
      · exact List.Subset.refl _
  | drawDefault _ t position =>
    obtain ⟨draws, drawn⟩ := drawDefault_eq s t position
    rw [drawn]
    exact housed
  | builderFields b slots =>
    obtain ⟨draws, drawn⟩ := builderFields_eq b slots s
    rw [drawn]
    exact housed
  | intern _ a => exact housed.of_facts_eq (AtomTable.subset_intern s.atoms a) rfl
  | settle _ depth =>
    exact housed.of_facts_eq (AtomTable.known_settle s.atoms _ ▸ List.Subset.refl _) rfl
  | defineModule | setCurrentModule | listeners | guarded | countAsserted | countDuplicate
  | countModified | countRefusal | lend | clearEvaluationError => exact housed

theorem Demand.housed (demand : Demand s s') (sound : s.Sound) (housed : s.Housed) : s'.Housed := by
  cases demand with
  | putSlot done => exact housed.putSlot done
  | putSlotAt done => exact housed.putSlotAt done
  | discard done =>
    obtain ⟨e, -, rfl⟩ | ⟨f, -, -, freed, -⟩ := discard_eq_ok done
    · exact housed
    · exact housed.free sound.tidy freed
  | free _ _ done => exact housed.free sound.tidy done
  | retain done => exact housed.retain done
  | install done =>
    obtain ⟨u, retained, done⟩ := bind_eq_ok.mp done
    obtain rfl := Except.ok.inj done
    exact (housed.retain retained).installFields _
  | makeBuilder done =>
    obtain ⟨e, -, -, rfl⟩ := makeBuilder_eq_ok done
    exact housed
  | dropBuilder b => exact housed

variable [JoinNetwork N]

theorem Housed.move (housed : s.Housed) (sound : s.Sound) (move : Move s s') : s'.Housed := by
  cases move with
  | chore chore =>
    rcases chore.making_or_errand_or_demand with making | errand | demand
    · exact making.housed sound housed
    · exact errand.housed sound housed
    · exact demand.housed sound housed
  | release done => exact housed.release done
  | deinstall done => exact housed.deinstall done
  | asserts found unattached listed done =>
    obtain ⟨u, attached, -, attaches⟩ := attach_spec sound found unattached
      (show ∀ i, none = some i → i ≠ 0 by simp) listed
      fun p tail => (sound.listedByTemplate _).tail tail
    obtain ⟨-, rfl⟩ := Prod.mk.inj (Except.ok.inj (attached.symm.trans done))
    exact housed.attaches attaches
  | supersedes found waiting unattached template detached done =>
    obtain ⟨asserted, -, detaches, -, -, attaches⟩ :=
      supersedes_spec sound found waiting unattached template detached done
    exact (housed.detaches detaches found asserted).attaches attaches
  | detach done =>
    obtain ⟨f, found, asserted, -, detaches, -⟩ := detach_spec sound done
    exact housed.detaches detaches found asserted
  | matchFact _ done => exact housed.rematched (rematched_matchFact done)
  | addPattern done =>
    exact housed.rematched
      (replayable_rematched.addPattern (fun _ _ _ _ _ => .of_facts_eq rfl rfl) done)
  | removePattern done => exact housed.rematched (.removePattern done)
  | replayNewPatterns done => exact housed.rematched (replayable_rematched.replayAll done)
  | renumber | probe | allowDuplicates => exact housed

/-- Whatever has happened to a fact base, the table has the texts of its attached facts. -/
theorem Reached.housed (reached : s.Reached) : s.Housed :=
  reached.kept housed_fresh fun _ _ before housed move => housed.move before.sound move

end Store

end FactBase

import FactBase.Proofs.Store.Exchange
import FactBase.Proofs.Store.Filling
import FactBase.Proofs.Store.Housed

/-!
# Where the texts of a fact are stored

Two fact bases are twins if they are the same but for where one fact, which is not attached, has its
texts, the atom table has them all the same, and the guard is held, so that nothing is collected. What
is done to other facts does not matter to them. Once the fact is attached or freed they are the same.
-/

namespace FactBase

/-- A field of the same value, whose text is stored elsewhere at most where the table has it too. -/
structure Field.Twin (t : AtomTable) (x y : Field) : Prop where
  value : y.value = x.value
  source : y.source = x.source ∨ x.value.atoms ⊆ t.known

abbrev Field.Twins (t : AtomTable) : List Field → List Field → Prop := List.Forall₂ (Field.Twin t)

namespace Field.Twins

variable {t u : AtomTable} {xs ys : List Field} {f : Fact}

theorem values (twins : Field.Twins t xs ys) : ys.map (·.value) = xs.map (·.value) := by
  induction twins with
  | nil => rfl
  | cons twin _ ih => exact congrArg₂ List.cons twin.value ih

theorem length (twins : Field.Twins t xs ys) : ys.length = xs.length :=
  (List.Forall₂.length_eq twins).symm

theorem sourced (twins : Field.Twins t xs ys) (source : Source) :
    (ys.map fun field => { field with source }) = xs.map fun field => { field with source } := by
  induction twins with
  | nil => rfl
  | cons twin _ ih =>
    rw [List.map_cons, List.map_cons, ih, twin.value]

/-- It makes no difference to the table who lends a text that it has. -/
theorem install (twins : Field.Twins t xs ys) (grown : t.known ⊆ u.known) (fields : List Field) :
    ys.foldl (fun t field => t.install (Fact.lender? { f with fields } field) field.value) u =
      xs.foldl (fun t field => t.install (f.lender? field) field.value) u := by
  induction twins generalizing u with
  | nil => rfl
  | @cons x y _ _ twin _ ih =>
    have first : u.install (Fact.lender? { f with fields } y) y.value =
        u.install (f.lender? x) x.value := by
      rw [twin.value]
      rcases twin.source with same | known
      · have lender : Fact.lender? { f with fields } y = f.lender? x := by
          rw [Fact.lender?, Fact.lender?, same]
        rw [lender]
      · exact AtomTable.install_of_known (List.Subset.trans known grown) _ _
    rw [List.foldl_cons, List.foldl_cons, first]
    obtain ⟨-, kept⟩ := List.append_subset.mp
      (AtomTable.subset_install u (f.lender? x) x.value)
    exact ih (List.Subset.trans grown kept)

end Field.Twins

namespace FactList

variable {facts : Arena Fact} {k : Handle} {u : Fact → Fact}

theorem linksOf_update (same : ∀ thread f, (u f).links thread = f.links thread) (thread : Thread)
    (h : Handle) : linksOf (facts.update k u) thread h = linksOf facts thread h := by
  rw [linksOf, linksOf, Arena.get?_update]
  by_cases here : h = k
  · rw [if_pos here, here]
    cases facts.get? k with
    | none => rfl
    | some f => exact congrArg Except.ok (same thread f)
  · rw [if_neg here]

/-! ### What unlinking leaves -/

variable {facts' : Arena Fact} {thread : Thread} {l l' : FactList}

theorem sameBut_relink {h : Handle} {change : Links → Links}
    (done : relink facts thread h change = .ok facts') : SameBut thread facts facts' := by
  obtain ⟨links, -, done⟩ := bind_eq_ok.mp done
  obtain rfl := Except.ok.inj done
  refine ⟨fun k => ?_, fun tidy => tidy.update h _⟩
  rw [Arena.get?_update]
  split
  · rename_i here
    rw [here, Option.map_map]
    refine congrArg (Option.map · (facts.get? h)) (funext fun f => ?_)
    cases thread <;> rfl
  · rfl

theorem sameBut_setNext {previous next : Option Handle}
    (done : l.setNext facts thread previous next = .ok (l', facts')) :
    SameBut thread facts facts' := by
  unfold setNext at done
  split at done
  · obtain ⟨_, relinked, same⟩ := map_eq_ok.mp done
    obtain ⟨-, rfl⟩ := Prod.mk.inj same
    exact sameBut_relink relinked
  · obtain ⟨-, rfl⟩ := Prod.mk.inj (Except.ok.inj done)
    exact .refl _

theorem sameBut_setPrevious {previous next : Option Handle}
    (done : l.setPrevious facts thread previous next = .ok (l', facts')) :
    SameBut thread facts facts' := by
  unfold setPrevious at done
  split at done
  · obtain ⟨_, relinked, same⟩ := map_eq_ok.mp done
    obtain ⟨-, rfl⟩ := Prod.mk.inj same
    exact sameBut_relink relinked
  · obtain ⟨-, rfl⟩ := Prod.mk.inj (Except.ok.inj done)
    exact .refl _

/-- Whether or not links are sound, taking a fact out of a list changes links at most. -/
theorem sameBut_unlink {h : Handle} {p : Option Handle}
    (done : l.unlink facts thread h = .ok (p, l', facts')) : SameBut thread facts facts' := by
  obtain ⟨links, -, done⟩ := bind_eq_ok.mp done
  obtain ⟨a, first, done⟩ := bind_eq_ok.mp done
  obtain ⟨⟨l₁, b⟩, second, done⟩ := bind_eq_ok.mp done
  obtain ⟨⟨l₂, c⟩, third, done⟩ := bind_eq_ok.mp done
  dsimp only at done
  split at done
  · cases done
  · obtain ⟨-, same⟩ := Prod.mk.inj (Except.ok.inj done)
    obtain ⟨-, rfl⟩ := Prod.mk.inj same
    exact ((sameBut_relink first).trans (sameBut_setNext second)).trans (sameBut_setPrevious third)

/-! ### Changes that have nothing to do with links -/

variable (apart : ∀ thread links f, u (f.setLinks thread links) = (u f).setLinks thread links)
  (same : ∀ thread f, (u f).links thread = f.links thread)
include apart same

theorem relink_update (thread : Thread) (h : Handle) (change : Links → Links) :
    relink (facts.update k u) thread h change =
      (relink facts thread h change).map (·.update k u) := by
  unfold relink
  rw [linksOf_update same]
  cases linksOf facts thread h with
  | error b => rfl
  | ok links =>
    exact congrArg Except.ok (Arena.update_swap facts k h fun f => (apart thread _ f).symm)

theorem setNext_update (l : FactList) (thread : Thread) (previous next : Option Handle) :
    l.setNext (facts.update k u) thread previous next =
      (l.setNext facts thread previous next).map fun x => (x.1, x.2.update k u) := by
  unfold setNext
  cases previous with
  | none => rfl
  | some p =>
    dsimp only
    rw [relink_update apart same]
    cases relink facts thread p ({ · with next }) <;> rfl

theorem setPrevious_update (l : FactList) (thread : Thread) (previous next : Option Handle) :
    l.setPrevious (facts.update k u) thread previous next =
      (l.setPrevious facts thread previous next).map fun x => (x.1, x.2.update k u) := by
  unfold setPrevious
  cases next with
  | none => rfl
  | some n =>
    dsimp only
    rw [relink_update apart same]
    cases relink facts thread n ({ · with previous }) <;> rfl

/-- A change that has nothing to do with links can be made before or after a fact is taken out of a
list. -/
theorem unlink_update (l : FactList) (thread : Thread) (h : Handle) :
    l.unlink (facts.update k u) thread h =
      (l.unlink facts thread h).map fun x => (x.1, x.2.1, x.2.2.update k u) := by
  unfold unlink
  rw [linksOf_update same]
  cases linksOf facts thread h with
  | error b => rfl
  | ok links =>
    dsimp only [bind, Except.bind]
    rw [relink_update apart same]
    cases relink facts thread h fun _ => {} with
    | error b => rfl
    | ok facts =>
      dsimp only [Except.map]
      rw [setNext_update apart same]
      cases l.setNext facts thread links.previous links.next with
      | error b => rfl
      | ok x =>
        dsimp only [Except.map]
        rw [setPrevious_update apart same]
        cases x.1.setPrevious x.2 thread links.previous links.next with
        | error b => rfl
        | ok y =>
          dsimp only [Except.map]
          split <;> rfl

end FactList

namespace Store

variable {N : Type} {s s' u : Store N} {h k : Handle} {f : Fact} {fields : List Field}

theorem get?_refield (s : Store N) (k : Handle) (fields : List Field) (h : Handle) :
    (s.refield k fields).get? h =
      if h = k then (s.get? k).map fun f => { f with fields } else s.get? h :=
  Arena.get?_update ..

/-- Other fields of the same values make no difference to whether another fact has the same content. -/
theorem duplicateOf?_refield (s : Store N) (k : Handle) (f : Fact) (hash : UInt64)
    (same : fields.map (·.value) = f.values) :
    (s.refield k fields).duplicateOf? k { f with fields } hash = s.duplicateOf? k f hash := by
  have content (other : Handle) :
      (other != k && ((s.refield k fields).get? other).any fun g =>
        g.templateId == f.templateId && g.values == Fact.values { f with fields }) =
      (other != k && (s.get? other).any fun g =>
        g.templateId == f.templateId && g.values == f.values) := by
    by_cases here : other = k
    · rw [here, bne_self_eq_false, Bool.false_and, Bool.false_and]
    · rw [get?_refield, if_neg here]
      exact congrArg (fun vs => other != k && (s.get? other).any fun g =>
        g.templateId == f.templateId && g.values == vs) same
  unfold duplicateOf?
  dsimp only
  rw [funext content]
  rfl

/-- The same, or, while the guard is held, the same but for where one unattached fact has its texts. -/
inductive Twins (k : Handle) (s : Store N) : Store N → Prop
  | same : Twins k s s
  | refield {f : Fact} {fields : List Field} (guarded : s.guarded = true) (found : s.get? k = some f)
      (unattached : f.isUnattached = true) (alike : Field.Twins s.atoms f.fields fields) :
      Twins k s (s.refield k fields)

namespace Twins

/-- A change of the fact base that has nothing to do with facts, atoms and the guard. -/
theorem keep (twins : Twins k s s') {φ : Store N → Store N} (facts : (φ s).facts = s.facts)
    (atoms : (φ s).atoms = s.atoms) (guarded : (φ s).guarded = s.guarded)
    (apart : ∀ fields, φ (s.refield k fields) = (φ s).refield k fields) :
    Twins k (φ s) (φ s') := by
  cases twins with
  | same => exact .same
  | refield held found unattached alike =>
    rw [apart]
    refine .refield (guarded.trans held) ?_ unattached (atoms ▸ alike)
    rwa [Store.get?, facts]

theorem get?_of_ne (twins : Twins k s s') (other : h ≠ k) : s'.get? h = s.get? h := by
  cases twins with
  | same => rfl
  | refield => rw [get?_refield, if_neg other]

/-- What shows no more of fields than their values shows no difference. -/
theorem view {β : Type} (twins : Twins k s s') (h : Handle) (view : Fact → β)
    (blind : ∀ f fields, fields.map (·.value) = f.values → view { f with fields } = view f) :
    (s'.get? h).map view = (s.get? h).map view := by
  by_cases here : h = k
  · cases twins with
    | same => rfl
    | refield _ found _ alike =>
      rw [get?_refield, if_pos here, here, found]
      exact congrArg some (blind _ _ alike.values)
  · rw [twins.get?_of_ne here]

end Twins

/-! ### Attaching and freeing -/

theorem installFields_refield (found : s.get? k = some f)
    (twins : Field.Twins s.atoms f.fields fields) :
    (s.refield k fields).installFields k = s.installFields k := by
  have changed : (s.refield k fields).get? k = some { f with fields } := by
    rw [get?_refield, if_pos rfl, found]
    rfl
  rw [installFields_eq found, installFields_eq changed]
  have atoms := twins.install (f := f) (List.Subset.refl _) fields
  have facts : (s.refield k fields).facts.update k (fun f =>
      { f with fields := f.fields.map fun field => { field with source := .table } }) =
      s.facts.update k fun f =>
        { f with fields := f.fields.map fun field => { field with source := .table } } := by
    refine (Arena.update_update s.facts k _ _).trans (Arena.update_congr fun g same => ?_)
    obtain rfl := Option.some.inj (found.symm.trans same)
    exact congrArg (fun fields => { f with fields }) (twins.sourced .table)
  dsimp only [refield] at atoms facts ⊢
  rw [atoms, facts]

/-- Once the fact is attached, all its texts are in the table. -/
theorem Twins.attach (twins : Twins k s s') (reuse : Option Nat) (hash : UInt64)
    (previous templatePrevious : Option Handle) :
    s'.attach k reuse hash previous templatePrevious =
      s.attach k reuse hash previous templatePrevious := by
  cases twins with
  | same => rfl
  | @refield f fields guarded found unattached alike =>
    have changed : (s.refield k fields).get? k = some { f with fields } := by
      rw [get?_refield, if_pos rfl, found]
      rfl
    have installed (index nextIndex : Nat) :
        installFields { s.refield k fields with
          nextIndex
          facts := (s.refield k fields).facts.update k fun f =>
            { f with index, hash, busy := f.busy + 1 } } k =
          installFields { s with
            nextIndex
            facts := s.facts.update k fun f => { f with index, hash, busy := f.busy + 1 } } k := by
      have numbered : Store.get? { s with
          nextIndex
          facts := s.facts.update k fun f => { f with index, hash, busy := f.busy + 1 } } k =
          some { f with index, hash, busy := f.busy + 1 } := by
        rw [get?_update_facts k rfl, if_pos rfl, show s.facts.get? k = some f from found]
        rfl
      rw [← installFields_refield numbered alike]
      refine congrArg (installFields · k) (congrArg (fun facts => { s with nextIndex, facts }) ?_)
      exact Arena.update_swap s.facts k k fun _ => rfl
    unfold Store.attach
    rw [found, changed]
    cases reuse with
    | none =>
      dsimp only [bind, Except.bind]
      rw [installed]
      rfl
    | some index =>
      dsimp only
      split
      · dsimp only [bind, Except.bind]
        rw [installed]
        rfl
      · rfl

theorem Twins.free (twins : Twins k s s') : s'.free k = s.free k := by
  cases twins with
  | same => rfl
  | @refield f fields guarded found unattached alike =>
    unfold Store.free
    have removed : (s.refield k fields).facts.remove? k =
        (s.facts.remove? k).map fun x => ({ x.1 with fields }, x.2) :=
      Arena.remove?_update s.facts k _
    rw [removed]
    obtain ⟨facts, gone⟩ : ∃ facts, s.facts.remove? k = some (f, facts) := by
      rw [Arena.remove?, show s.facts.get? k = some f from found]
      exact ⟨_, rfl⟩
    have values : Fact.values { f with fields } = f.values := alike.values
    rw [gone, Option.map_some]
    dsimp only
    rw [values]
    rfl

/-! ### Other facts -/

theorem unlink_refield (s : Store N) (k : Handle) (fields : List Field) (t : TemplateId) (h : Handle) :
    (s.refield k fields).unlink t h =
      (s.unlink t h).map fun x => (x.1, x.2.1, x.2.2.refield k fields) := by
  have taken (l : FactList) (facts : Arena Fact) (thread : Thread) :=
    @FactList.unlink_update facts k (fun f => { f with fields })
      (fun thread _ _ => by cases thread <;> rfl) (fun thread _ => by cases thread <;> rfl) l thread h
  unfold unlink
  dsimp only [refield]
  rw [taken]
  cases s.global.unlink s.facts .global h with
  | error b => rfl
  | ok x =>
    dsimp only [bind, Except.bind, Except.map]
    cases s.templateLists.lookup t with
    | none => rfl
    | some l =>
      dsimp only
      rw [taken]
      cases l.unlink x.2.2 .inTemplate h <;> rfl

variable [JoinNetwork N]

theorem retractMatches_refield (s : Store N) (k : Handle) (fields : List Field) (h : Handle)
    (ids : List MatchId) (report : EvalError → Notice) :
    (s.refield k fields).retractMatches h ids report =
      (s.retractMatches h ids report).map fun x => (x.1, x.2.1, x.2.2.refield k fields) := by
  unfold retractMatches
  split
  · rfl
  · dsimp only [refield]
    cases JoinNetwork.retract h ids s.network with
    | error b => rfl
    | ok x =>
      obtain ⟨refusal, network⟩ := x
      cases refusal <;> rfl

/-- How a stored fact is detached, step by step. -/
theorem detach_eq (found : s.get? h = some f) : s.detach h =
    if (s.index.remove f.hash h).1 = false then .error (.notIndexed h)
    else unlink { s with index := (s.index.remove f.hash h).2 } f.templateId h >>= fun x =>
      if f.busy = 0 then .error (.busyUnderflow f.index)
      else (x.2.2.bury h).retractMatches h f.matched (.retractionFailed f.index) >>= fun y =>
        .ok (⟨x.1, x.2.1, y.1, y.2.1⟩, y.2.2) := by
  unfold detach
  rw [found]
  dsimp only
  cases (s.index.remove f.hash h).1 with
  | false => rfl
  | true =>
    refine congrArg (Except.bind _) (funext fun x => ?_)
    by_cases unpinned : f.busy = 0
    · rw [if_pos unpinned, if_pos unpinned]
      rfl
    · rw [if_neg unpinned, if_neg unpinned]
      rfl

/-- A fact is detached whatever the fields of another, or its own, may be. -/
theorem detach_refield (s : Store N) (k : Handle) (fields : List Field) (h : Handle) :
    (s.refield k fields).detach h = (s.detach h).map fun x => (x.1, x.2.refield k fields) := by
  cases found : s.get? h with
  | none =>
    have missing : (s.refield k fields).get? h = none := by
      rw [get?_refield]
      split
      · rename_i here
        rw [← here, found]
        rfl
      · exact found
    unfold detach
    rw [found, missing]
    rfl
  | some f =>
    obtain ⟨own, changed⟩ : ∃ own, (s.refield k fields).get? h = some { f with fields := own } := by
      rw [get?_refield]
      split
      · rename_i here
        exact ⟨fields, by rw [← here, found]; rfl⟩
      · exact ⟨f.fields, found⟩
    have buried (u : Store N) : (u.refield k fields).bury h = (u.bury h).refield k fields :=
      congrArg (fun facts => { u.bury h with facts })
        (Arena.update_swap (f := fun f => { f with fields }) (g := Fact.buried) u.facts k h
          fun _ => rfl)
    rw [detach_eq found, detach_eq changed]
    dsimp only
    have unlinked := unlink_refield { s with index := (s.index.remove f.hash h).2 } k fields
      f.templateId h
    change (if (s.index.remove f.hash h).1 = false then _
      else unlink (refield { s with index := (s.index.remove f.hash h).2 } k fields) _ _ >>= _) = _
    rw [unlinked]
    cases (s.index.remove f.hash h).1 with
    | false => rfl
    | true =>
      cases unlink { s with index := (s.index.remove f.hash h).2 } f.templateId h with
      | error b => rfl
      | ok x =>
        obtain ⟨p, tp, u⟩ := x
        dsimp only [bind, Except.bind, Except.map]
        rw [buried, retractMatches_refield]
        by_cases unpinned : f.busy = 0
        · rw [if_pos unpinned, if_pos unpinned]
          rfl
        · rw [if_neg unpinned, if_neg unpinned]
          cases (u.bury h).retractMatches h f.matched (.retractionFailed f.index) <;> rfl

/-- Detaching a fact leaves atoms alone, and the other facts as they are, apart from links. -/
theorem detach_elsewhere {d : Detached} (done : s.detach h = .ok (d, u)) (other : k ≠ h) :
    (u.get? k).map Fact.bare = (s.get? k).map Fact.bare ∧ u.atoms = s.atoms ∧
      u.guarded = s.guarded := by
  obtain ⟨f, index, v, -, -, unlinked, -, retracted⟩ := detach_eq_ok done
  obtain ⟨network, counters, evaluationError, rfl⟩ := retractMatches_eq_ok retracted
  obtain ⟨⟨p, l, a⟩, first, unlinked⟩ := bind_eq_ok.mp unlinked
  dsimp only at unlinked
  split at unlinked
  · cases unlinked
  · obtain ⟨⟨q, m, b⟩, second, unlinked⟩ := bind_eq_ok.mp unlinked
    simp only [Except.ok.injEq, Prod.mk.injEq] at unlinked
    obtain ⟨-, -, rfl⟩ := unlinked
    have relinked : Relinked s.facts b :=
      (Relinked.of_sameBut (FactList.sameBut_unlink first)).trans
        (.of_sameBut (FactList.sameBut_unlink second))
    refine ⟨Eq.trans (congrArg _ ?_) (relinked.bare k), rfl, rfl⟩
    exact (Arena.get?_update b h k Fact.buried).trans (if_neg other)

/-- Steps that go the same way from twins: they break off alike or lead to twins with the same
result. -/
inductive StepsAlike {α : Type} (k : Handle) :
    Except Breach (α × Store N) → Except Breach (α × Store N) → Prop
  | ok {a : α} {u u' : Store N} (twins : Twins k u u') : StepsAlike k (.ok (a, u)) (.ok (a, u'))
  | error (b : Breach) : StepsAlike k (.error b) (.error b)

theorem Twins.detach (twins : Twins k s s') (other : k ≠ h) :
    StepsAlike k (s.detach h) (s'.detach h) := by
  cases twins with
  | same =>
    cases s.detach h with
    | error b => exact .error b
    | ok x => exact .ok .same
  | @refield f fields guarded found unattached alike =>
    rw [detach_refield]
    cases done : s.detach h with
    | error b => exact .error b
    | ok x =>
      obtain ⟨d, u⟩ := x
      obtain ⟨bare, atoms, held⟩ := detach_elsewhere done other
      rw [found, Option.map_some, Option.map_eq_some_iff] at bare
      obtain ⟨f', found', bare⟩ := bare
      refine .ok (.refield (held.trans guarded) found'
        ((Fact.view_eq Fact.isUnattached bare fun _ => rfl).trans unattached) ?_)
      rwa [Fact.view_eq Fact.fields bare fun _ => rfl, atoms]

omit [JoinNetwork N] in
/-- Facts of fields that are alike are twins once the guard is held. -/
theorem createWith_twins (tidy : s.facts.Tidy) {id : TemplateId} {t : Template}
    {fields fields' : List Field} (alike : Field.Twins s.atoms fields fields')
    (done : s.createWith id t fields = .ok (k, u)) :
    Twins k { u with guarded := true } { u.refield k fields' with guarded := true } := by
  obtain ⟨templates, facts, -, inserted, rfl⟩ := createWith_eq_ok done
  obtain ⟨-, -, names⟩ := Arena.insert_spec tidy inserted
  exact .refield rfl ((names k).trans (if_pos rfl)) rfl alike

end Store

end FactBase

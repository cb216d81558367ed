import FactBase.Proofs.Memory.Walks
import FactBase.Proofs.Store.Duplicate
import FactBase.Proofs.Store.Total

/-!
# Exchanging a fact

An asserted fact gives way to a changed copy of it, or to a fact that has the copy's content already.
The copy is made first; then the fact is detached; then the copy takes its place in both lists or is
freed. None of these steps can break off, and none concerns any other asserted fact.
-/

namespace FactBase

/-! ### Changed values -/

/-- Values with changes written over them: of several changes of a place the last one counts. -/
def overwrite (changes : List (Nat × Value)) (vs : List Value) : List Value :=
  vs.mapIdx fun i v => (changes.reverse.lookup i).getD v

/-- Changes of slots that there are, to values that the slots take. -/
def Template.Accepts (t : Template) (changes : List (Nat × Value)) : Prop :=
  ∀ c ∈ changes, ∃ slot, t.slot? c.1 = some slot ∧ slot.check c.2 = .ok ()

instance (t : Template) (changes : List (Nat × Value)) : Decidable (t.Accepts changes) :=
  decidable_of_iff (∀ c ∈ changes, (t.slot? c.1).any (fun slot => (slot.check c.2).isOk) = true) <| by
    refine forall₂_congr fun c _ => (Option.any_eq_true _ _).trans ?_
    exact exists_congr fun slot => and_congr_right fun _ => isOk_iff

theorem overwrite_nil (vs : List Value) : overwrite [] vs = vs := by
  refine List.ext_getElem? fun i => ?_
  simp [overwrite]

theorem overwrite_cons (position : Nat) (v : Value) (changes : List (Nat × Value))
    (vs : List Value) :
    overwrite ((position, v) :: changes) vs = overwrite changes (vs.set position v) := by
  refine List.ext_getElem? fun i => ?_
  rw [overwrite, overwrite, List.getElem?_mapIdx, List.getElem?_mapIdx, List.getElem?_set',
    List.reverse_cons, List.lookup_append, List.lookup_cons, List.lookup_nil]
  by_cases here : position = i
  · subst here
    cases vs[position]? <;> cases changes.reverse.lookup position <;> simp
  · rw [beq_false_of_ne (Ne.symm here), if_neg here]
    cases vs[i]? <;> cases changes.reverse.lookup i <;> rfl

/-- Whether a delivery reports a failed test. -/
def Delivery.isFailed : Delivery → Bool
  | .matched _ _ => false
  | .failed _ => true

namespace Store

variable {N : Type} {s s' s'' : Store N} {h r : Handle} {f : Fact}

/-- Accepted changes are written over the fields. -/
theorem patch_total {template : Template} {depth : Nat} {changes : List (Nat × Value)}
    {fields : List Field} (accepted : template.Accepts changes) :
    ∃ fields', patch template depth changes fields = .ok fields' ∧
      fields'.map (·.value) = overwrite changes (fields.map (·.value)) := by
  induction changes generalizing fields with
  | nil => exact ⟨fields, rfl, (overwrite_nil _).symm⟩
  | cons c rest ih =>
    obtain ⟨position, v⟩ := c
    obtain ⟨slot, found, checked⟩ := accepted _ List.mem_cons_self
    obtain ⟨fields', done, values⟩ := @ih (fields.set position ⟨v, .changes depth⟩)
      fun c hc => accepted c (List.mem_cons_of_mem _ hc)
    refine ⟨fields', ?_, ?_⟩
    · unfold patch
      simp only [found, checked]
      exact done
    · rw [values, List.map_set, overwrite_cons]

theorem patched_total (found : s.get? h = some f) (asserted : f.isAsserted = true)
    {changes : List (Nat × Value)} (accepted : f.template.Accepts changes) :
    ∃ fields, s.patched h changes = .ok (f, fields) ∧
      fields.map (·.value) = overwrite changes f.values := by
  obtain ⟨numbered, notGarbage⟩ := Fact.isAsserted_iff.mp asserted
  obtain ⟨fields, done, values⟩ :=
    @patch_total f.template s.openChanges changes f.fields accepted
  have held : s.asserted h = .ok f := by
    simp [Store.asserted, found, notGarbage, numbered]
  refine ⟨fields, ?_, values⟩
  simp only [patched, held, done, bind, Except.bind]

/-! ### Failures -/

/-- Whether a network refuses to drop matches of a fact. -/
def refuses [JoinNetwork N] (n : N) (h : Handle) (ids : List MatchId) : Bool :=
  !ids.isEmpty && (JoinNetwork.retract h ids n).toOption.any (·.1.isSome)

theorem retractMatches_failed [JoinNetwork N] {ids : List MatchId} {report : EvalError → Notice}
    {failed : Bool} {notices : List Notice}
    (done : s.retractMatches h ids report = .ok (failed, notices, s')) :
    failed = refuses s.network h ids := by
  unfold retractMatches at done
  unfold refuses
  split at done
  · rename_i empty
    simp only [Except.ok.injEq, Prod.mk.injEq] at done
    rw [empty]
    exact done.1.symm
  · rename_i nonempty
    obtain ⟨⟨refusal, network⟩, retracted, done⟩ := bind_eq_ok.mp done
    rw [Bool.eq_false_iff.mpr nonempty, retracted]
    cases refusal <;> simp only [Except.ok.injEq, Prod.mk.injEq] at done <;> exact done.1.symm

theorem detach_failed [JoinNetwork N] {d : Detached} (found : s.get? h = some f)
    (done : s.detach h = .ok (d, s')) : d.networkFailed = refuses s.network h f.matched := by
  obtain ⟨f', index, u, found', -, unlinked, -, retracted⟩ := detach_eq_ok done
  obtain rfl := Option.some.inj (found.symm.trans found')
  have failed := retractMatches_failed retracted
  obtain ⟨_, _, _, rfl⟩ := unlink_eq_ok unlinked
  exact failed

/-- Whether asserted values make a test of the template's patterns fail. -/
def testFails (s : Store N) (t : TemplateId) (vs : List Value) : Bool :=
  match s.patterns.tree? t with
  | none => false
  | some tree =>
    ((MatchContext.mk Probe.judge tree vs .assert).run ⟨s.probe, false⟩).1.any (·.isFailed)

variable [JoinNetwork N]

theorem failed_deliverAll (h : Handle) (f : Fact) (ds : List Delivery) (n : N) :
    (deliverAll h f ds n).1.failed = ds.any (·.isFailed) := by
  induction ds generalizing n with
  | nil => rfl
  | cons d ds ih =>
    cases d with
    | matched entry markers => exact ih _
    | failed test => rfl

theorem matchFact_failed {o : MatchOutcome} (found : s.get? h = some f)
    (done : s.matchFact h .assert = .ok (o, s')) :
    o.failed = s.testFails f.templateId f.values := by
  unfold matchFact at done
  unfold testFails
  simp only [found] at done
  cases planted : s.patterns.tree? f.templateId with
  | none =>
    simp only [planted, Except.ok.injEq, Prod.mk.injEq] at done
    rw [← done.1]
  | some tree =>
    simp only [planted, Except.ok.injEq, Prod.mk.injEq] at done
    rw [← done.1]
    exact failed_deliverAll h f _ s.network

omit [JoinNetwork N]

/-! ### What an exchange comes to -/

/-- An asserted fact is gone and answers for no matches; the other asserted facts stay as they are,
apart from links. -/
structure Retires (h : Handle) (s s' : Store N) : Prop where
  unasserted : s'.isAsserted h = false
  matchless : ∀ g, s'.get? h = some g → g.matched = []
  others : ∀ k f, k ≠ h → s.get? k = some f → f.isAsserted = true →
    ∃ g, s'.get? k = some g ∧ g.bare = f.bare
  nextIndex : s'.nextIndex = s.nextIndex

/-- A fact is gone, and none has come. -/
structure Merges (h : Handle) (s s' : Store N) : Prop extends Retires h s s' where
  order : s'.order = s.order.erase h
  templateFacts : ∀ t, s'.templateFacts t = (s.templateFacts t).erase h

/-- A new fact of the same index stands where one is gone, with values of its own. -/
structure Supersedes (h r : Handle) (f : Fact) (vs : List Value) (s s' : Store N) : Prop
    extends Retires h s s' where
  fresh : s.get? r = none
  replacement : ∃ g, s'.get? r = some g ∧ g.isAsserted = true ∧ g.index = f.index ∧
    g.templateId = f.templateId ∧ g.values = vs
  order : s'.order = s.order.replace h r
  templateFacts : ∀ t, s'.templateFacts t = (s.templateFacts t).replace h r

/-- An asserted fact that has these values already. -/
def Rival (s : Store N) (t : TemplateId) (vs : List Value) (e : Handle) : Prop :=
  ∃ g, s.get? e = some g ∧ g.isAsserted = true ∧ g.templateId = t ∧ g.values = vs

/-- Who has values of his own among asserted facts of which nothing is seen is still there. -/
theorem Alike.rival (alike : s.Alike s') {t : TemplateId} {vs : List Value} {e : Handle} :
    s'.Rival t vs e ↔ s.Rival t vs e := by
  constructor
  · rintro ⟨g, stored, asserted, template, values⟩
    obtain ⟨f, before, like⟩ := alike.asserted stored asserted
    exact ⟨f, before, like.isAsserted ▸ asserted, like.templateId.trans template,
      like.values.trans values⟩
  · rintro ⟨f, stored, asserted, template, values⟩
    obtain ⟨g, after, like⟩ := (alike.facts e).attached stored
      (Bool.eq_false_iff.mpr fun u => not_asserted_of_unattached u asserted)
    exact ⟨g, after, like.isAsserted ▸ asserted, like.templateId.symm.trans template,
      like.values.symm.trans values⟩

namespace Retires

/-- What happens to a fact that was not there before concerns nobody. -/
theorem elsewhere (retires : Retires h s s') (found : s.get? h = some f) (fresh : s.get? r = none)
    (same : ∀ k, k ≠ r → (s''.get? k).map Fact.bare = (s'.get? k).map Fact.bare)
    (nextIndex : s''.nextIndex = s'.nextIndex) : Retires h s s'' := by
  have old {k : Handle} {g : Fact} (stored : s.get? k = some g) : k ≠ r := by
    rintro rfl
    rw [fresh] at stored
    cases stored
  refine ⟨?_, fun g stored => ?_, fun k f other stored asserted => ?_,
    nextIndex.trans retires.nextIndex⟩
  · have asserted := congrArg (Option.any (·.isAsserted)) (same h (old found))
    simp only [Option.any_map] at asserted
    exact asserted.trans retires.unasserted
  · have bare := same h (old found)
    rw [stored, Option.map_some, eq_comm, Option.map_eq_some_iff] at bare
    obtain ⟨g', before, bare⟩ := bare
    rw [← Fact.view_eq Fact.matched bare fun _ => rfl]
    exact retires.matchless g' before
  · obtain ⟨g, before, bare⟩ := retires.others k f other stored asserted
    have same := same k (old stored)
    rw [before, Option.map_some, Option.map_eq_some_iff] at same
    obtain ⟨g', after, bare'⟩ := same
    exact ⟨g', after, bare'.trans bare⟩

theorem collects (retires : Retires h s s') (collects : Collects s' s'') : Retires h s s'' := by
  refine ⟨?_, fun g stored => retires.matchless g (collects.old h g stored),
    fun k f other stored asserted => ?_, collects.nextIndex.trans retires.nextIndex⟩
  · have unasserted := retires.unasserted
    rw [Store.isAsserted] at unasserted ⊢
    cases after : s''.get? h with
    | none => rfl
    | some g =>
      rw [collects.old h g after] at unasserted
      exact unasserted
  · obtain ⟨g, after, bare⟩ := retires.others k f other stored asserted
    have asserted' : g.isAsserted = true :=
      (Fact.view_eq Fact.isAsserted bare fun _ => rfl).trans asserted
    exact ⟨g, collects.kept k g after (Fact.isAsserted_iff.mp asserted').2, bare⟩

end Retires

theorem Merges.collects (merges : Merges h s s') (collects : Collects s' s'')
    (consistent : s'.Consistent) : Merges h s s'' :=
  ⟨merges.toRetires.collects collects, (collects.order consistent).trans merges.order,
    fun t => (collects.templateFacts consistent t).trans (merges.templateFacts t)⟩

theorem Supersedes.collects {vs : List Value} (supersedes : Supersedes h r f vs s s')
    (collects : Collects s' s'') (consistent : s'.Consistent) : Supersedes h r f vs s s'' := by
  obtain ⟨g, stored, asserted, rest⟩ := supersedes.replacement
  refine ⟨supersedes.toRetires.collects collects, supersedes.fresh, ⟨g, ?_, asserted, rest⟩,
    (collects.order consistent).trans supersedes.order,
    fun t => (collects.templateFacts consistent t).trans (supersedes.templateFacts t)⟩
  exact collects.kept r g stored (Fact.isAsserted_iff.mp asserted).2

/-! ### The steps of an exchange -/

theorem erase_middle {front back : List Handle} (once : (front ++ h :: back).Nodup) :
    (front ++ h :: back).erase h = front ++ back := by
  have absent := (List.nodup_cons.mp (List.nodup_middle.mp once)).1
  rw [List.erase_append_right _ fun inside => absent (List.mem_append_left _ inside),
    List.erase_cons_head]

theorem replace_middle {front back : List Handle} (once : (front ++ h :: back).Nodup) :
    (front ++ h :: back).replace h r = front ++ r :: back := by
  have absent := (List.nodup_cons.mp (List.nodup_middle.mp once)).1
  rw [List.replace_append_right fun inside => absent (List.mem_append_left _ inside),
    List.replace_cons_self]

variable [JoinNetwork N] [Custodian N] {fields : List Field} {d : Detached}

/-- A fact is detached, and its copy waits unattached. -/
structure Vacates (h r : Handle) (f : Fact) (fields : List Field) (d : Detached) (s s' : Store N) :
    Prop where
  solid : s'.Solid
  retires : Retires h s s'
  fresh : s.get? r = none
  waiting : s'.get? r = some { template := f.template, templateId := f.templateId, fields }
  order : ∃ front back, s.order = front ++ h :: back ∧ s'.order = front ++ back ∧
    d.previous = front.getLast?
  templateFacts : ∃ front back, s.templateFacts f.templateId = front ++ h :: back ∧
    s'.templateFacts f.templateId = front ++ back ∧ d.templatePrevious = front.getLast?
  otherFacts : ∀ t, t ≠ f.templateId → s'.templateFacts t = s.templateFacts t
  rest : s'.patterns = s.patterns ∧ s'.probe = s.probe ∧ s'.listeners = s.listeners ∧
    s'.contentHash = s.contentHash

theorem vacate_total (solid : s.Solid) (found : s.get? h = some f) (asserted : f.isAsserted = true)
    (fits : fields.length = f.fields.length) : ∃ r u d s',
      s.createWith f.templateId f.template fields = .ok (r, u) ∧
      Store.detach { u with guarded := true } h = .ok (d, s') ∧
      d.networkFailed = refuses s.network h f.matched ∧ Vacates h r f fields d s s' := by
  obtain ⟨r, u, created⟩ := createWith_total solid.tallied found fits
  obtain ⟨quiet, fresh, waiting⟩ := createWith_spec solid.sound created
  have made := solid.step (.createWith created)
    (solid.covered.sustain (.createWith solid.sound.tidy created))
  obtain ⟨templates, facts, -, inserted, rfl⟩ := createWith_eq_ok created
  obtain ⟨-, -, names⟩ := Arena.insert_spec solid.sound.tidy inserted
  have kept {k : Handle} {g : Fact} (stored : s.get? k = some g) : facts.get? k = some g := by
    rw [names, if_neg]
    · exact stored
    · rintro rfl
      rw [fresh] at stored
      cases stored
  have guarded := made.step (.guarded _ true) { made.covered with }
  obtain ⟨d, s', detached⟩ := detach_total guarded (kept found) asserted
  obtain ⟨f', found', -, sound, detaches, -⟩ := detach_spec guarded.sound detached
  obtain rfl := Option.some.inj ((kept found).symm.trans found')
  obtain ⟨f', front, back, templateFront, templateBack, found', order, order', previous,
    templateFacts, templateFacts', templatePrevious, otherFacts⟩ :=
    detach_places guarded.sound detached
  obtain rfl := Option.some.inj ((kept found).symm.trans found')
  have listed : Store.order { s with templates, facts, guarded := true } = s.order :=
    quiet.alike.order solid.sound.toConsistent
  have listedByTemplate (t : TemplateId) :
      Store.templateFacts { s with templates, facts, guarded := true } t = s.templateFacts t :=
    quiet.alike.templateFacts solid.sound.toConsistent t
  have failed := detach_failed (s := { s with templates, facts, guarded := true }) (kept found) detached
  refine ⟨r, _, d, s', created, detached, failed, {
    solid := guarded.step (.detach detached) (guarded.covered.detach guarded.sound detached)
    retires := ?_
    fresh
    waiting := detaches.leaves.facts r _ waiting rfl List.not_mem_nil
    order := ⟨front, back, listed.symm.trans order, order', previous⟩
    templateFacts := ⟨templateFront, templateBack,
      (listedByTemplate f.templateId).symm.trans templateFacts, templateFacts', templatePrevious⟩
    otherFacts := fun t other => (otherFacts t other).trans (listedByTemplate t)
    rest := ?_ }⟩
  · obtain ⟨g, stored, bare⟩ := detaches.facts.here
    refine ⟨?_, fun g' same => ?_, fun k x other before _ => ?_, ?_⟩
    · rw [Store.isAsserted, show s'.get? h = some g from stored, Option.any_some,
        Fact.view_eq Fact.isAsserted bare fun _ => rfl]
      simp [Fact.isAsserted, Fact.buried]
    · rw [← Option.some.inj (stored.symm.trans same), Fact.view_eq Fact.matched bare fun _ => rfl]
      rfl
    · exact detaches.facts.elsewhere other (kept before)
    · obtain ⟨_, _, _, _, _, _, _, _, rfl⟩ := detaches.rest
      rfl
  · obtain ⟨_, _, _, _, _, _, _, _, rfl⟩ := detaches.rest
    exact ⟨rfl, rfl, rfl, rfl⟩

omit [JoinNetwork N] [Custodian N] in
/-- A fact is not listed under other templates. -/
theorem Consistent.unlisted_of_ne (consistent : s.Consistent) (found : s.get? h = some f)
    {t : TemplateId} (other : t ≠ f.templateId) : h ∉ s.templateFacts t := by
  intro inside
  obtain ⟨g, stored, -, rfl⟩ := consistent.mem_templateFacts.mp inside
  rw [Option.some.inj (found.symm.trans stored)] at other
  exact other rfl

namespace Vacates

/-- If the content is asserted already, the copy is freed. -/
theorem merges (vacates : Vacates h r f fields d s s') (consistent : s.Consistent)
    (found : s.get? h = some f) : ∃ u, s'.free r = .ok u ∧ u.Solid ∧ u.listeners = s.listeners ∧
      Merges h s u := by
  obtain ⟨u, freed⟩ := free_total vacates.solid.tallied vacates.waiting
    (vacates.solid.covered.claimed vacates.waiting)
  have solid := vacates.solid.step (.free vacates.waiting rfl freed)
    (vacates.solid.covered.sustain (Sustains.free vacates.solid.sound.tidy freed).1)
  obtain ⟨⟨alike, -⟩, -⟩ := free_spec vacates.solid.sound vacates.waiting rfl freed
  obtain ⟨x, facts, atoms, templates, removed, -, -, rfl⟩ := free_eq_ok freed
  obtain ⟨-, -, names⟩ := Arena.remove?_spec vacates.solid.sound.tidy removed
  refine ⟨_, freed, solid, vacates.rest.2.2.1, ?_, ?_, fun t => ?_⟩
  · refine vacates.retires.elsewhere found vacates.fresh (fun k other => ?_) rfl
    exact congrArg (Option.map Fact.bare) ((names k).trans (if_neg other))
  · obtain ⟨front, back, before, after, -⟩ := vacates.order
    rw [alike.order vacates.solid.sound.toConsistent, after, before,
      erase_middle (before ▸ consistent.threaded_order.once)]
  · rw [alike.templateFacts vacates.solid.sound.toConsistent]
    by_cases same : t = f.templateId
    · obtain ⟨front, back, before, after, -⟩ := vacates.templateFacts
      rw [same, after, before,
        erase_middle (before ▸ (consistent.threaded_templateFacts f.templateId).once)]
    · rw [vacates.otherFacts t same, List.erase_of_not_mem (consistent.unlisted_of_ne found same)]

/-- Otherwise the copy takes the place of the fact and is matched. -/
theorem supersedes (vacates : Vacates h r f fields d s s') (consistent : s.Consistent)
    (found : s.get? h = some f) (asserted : f.isAsserted = true) {vs : List Value}
    (values : fields.map (·.value) = vs) : ∃ u o v,
      s'.attach r (some f.index) (s.contentHash f.templateId vs) d.previous d.templatePrevious =
        .ok (f.index, u) ∧
      u.matchFact r .assert = .ok (o, v) ∧ o.failed = s.testFails f.templateId vs ∧
      v.Solid ∧ v.listeners = s.listeners ∧ Supersedes h r f vs s v := by
  subst values
  let copy : Fact := { template := f.template, templateId := f.templateId, fields }
  have waiting : s'.get? r = some copy := vacates.waiting
  obtain ⟨patterns, probe, listeners, contentHash⟩ := vacates.rest
  obtain ⟨front, back, before, after, previous⟩ := vacates.order
  obtain ⟨templateFront, templateBack, before', after', templatePrevious⟩ := vacates.templateFacts
  have sound := vacates.solid.sound
  have positive : ∀ i, some f.index = some i → i ≠ 0 := fun i same =>
    Option.some.inj same ▸ (Fact.isAsserted_iff.mp asserted).1
  have listed : ∀ p, front.getLast? = some p → ∃ g, s'.get? p = some g ∧ g.isAsserted = true :=
    fun p last => sound.mem_order.mp (after ▸ List.mem_append_left _ (List.mem_of_getLast? last))
  have listedInTemplate : ∀ p, templateFront.getLast? = some p →
      ∃ g, s'.get? p = some g ∧ g.isAsserted = true ∧ g.templateId = copy.templateId :=
    fun p last => sound.mem_templateFacts.mp
      (after' ▸ List.mem_append_left _ (List.mem_of_getLast? last))
  obtain ⟨u, attached, -, attaches⟩ :=
    attach_spec sound waiting rfl positive listed listedInTemplate
  have hash : s'.hashOf copy = s.contentHash f.templateId (fields.map (·.value)) := by
    rw [Store.hashOf, contentHash]
    rfl
  have solid := vacates.solid.step (.attach waiting rfl positive listed listedInTemplate attached)
    (vacates.solid.covered.sustain
      (.attach sound waiting rfl positive listed listedInTemplate attached))
  obtain ⟨g, stored, bare⟩ := attaches.facts.here
  obtain ⟨o, v, matched⟩ := matchFact_total (s := u) stored .assert
  obtain ⟨g', stored', -, -, -, -, -, here, others⟩ := matchFact_eq_ok matched
  obtain rfl := Option.some.inj (stored.symm.trans stored')
  have alike := (matchFact_spec matched).alike
  obtain ⟨order, templateFacts, otherFacts⟩ :=
    attach_places sound waiting rfl after after' attached
  obtain ⟨nextIndex, -⟩ := attach_counts waiting rfl attached
  have index : g.index = f.index := (Fact.view_eq Fact.index bare fun _ => rfl).trans rfl
  have template : g.templateId = f.templateId :=
    (Fact.view_eq Fact.templateId bare fun _ => rfl).trans rfl
  have values : g.values = fields.map (·.value) :=
    (Fact.view_eq Fact.values bare fun _ => rfl).trans (Fact.attached_values copy _ _)
  rw [hash, ← previous, ← templatePrevious] at attached
  refine ⟨u, o, v, attached, matched, ?_, solid.step (.matchFact matched)
    (solid.covered.matchFact matched).1, ?_, ?_, vacates.fresh, ?_, ?_, fun t => ?_⟩
  · rw [matchFact_failed stored matched, template, values]
    obtain ⟨_, _, _, _, _, _, rfl⟩ := attaches.rest
    simp only [testFails, patterns, probe]
  · obtain ⟨_, _, _, _, _, rfl⟩ := matchFact_rest matched
    obtain ⟨_, _, _, _, _, _, rfl⟩ := attaches.rest
    exact listeners
  · refine vacates.retires.elsewhere found vacates.fresh (fun k other => ?_)
      (alike.nextIndex.trans nextIndex)
    rw [others k other]
    exact (attaches.facts.bare k).trans (if_neg other)
  · have attached : g.isAsserted = true := (Fact.view_eq Fact.isAsserted bare fun _ => rfl).trans
      (attached_isAsserted rfl (positive f.index rfl) _)
    exact ⟨_, here, attached, index, template, values⟩
  · rw [alike.order solid.sound.toConsistent, order, before,
      replace_middle (before ▸ consistent.threaded_order.once)]
  · rw [alike.templateFacts solid.sound.toConsistent]
    by_cases same : t = f.templateId
    · rw [same, before',
        replace_middle (before' ▸ (consistent.threaded_templateFacts f.templateId).once)]
      exact templateFacts
    · rw [otherFacts t same, vacates.otherFacts t same,
        List.replace_of_not_mem (consistent.unlisted_of_ne found same)]

end Vacates

end Store
end FactBase

import FactBase.Proofs.Store.Defining
import FactBase.Proofs.Store.Installs
import FactBase.Proofs.Store.Linking
import FactBase.Proofs.Store.Quiet

/-!
# Attaching, detaching and collecting

These are the operations that change what is listed, indexed and kept as garbage. Attaching always
succeeds where it is asked for and keeps a fact base sound; detaching and collecting keep it sound
whenever they succeed.
-/

namespace FactBase

/-- A fact with a number and a hash and one more holder; its fields use the table's storage. -/
def Fact.attached (f : Fact) (index : Nat) (hash : UInt64) : Fact :=
  { f with
    index, hash
    busy := f.busy + 1
    fields := f.fields.map fun field => { field with source := .table } }

/-- A fact without matches that one holder has let go of. -/
def Fact.buried (f : Fact) : Fact :=
  { f with matched := [], isGarbage := true, busy := f.busy - 1 }

theorem Fact.attached_values (f : Fact) (index : Nat) (hash : UInt64) :
    (f.attached index hash).values = f.values := Store.values_sourced _ _

namespace Store

variable {N : Type} {s s' : Store N} {h : Handle} {f : Fact}

/-- A fact is attached and the others are left alone, apart from links. -/
structure Attaches (h : Handle) (f : Fact) (index : Nat) (s s' : Store N) : Prop where
  facts : Replaced h (f.attached index (s.hashOf f)) s.facts s'.facts
  leaves : Leaves [h] s s'
  atoms : s'.atoms = f.fields.foldl (fun t field => t.install (f.lender? field) field.value) s.atoms
  rest : ∃ atoms facts global templateLists index nextIndex,
    s' = { s with atoms, facts, global, templateLists, index, nextIndex }

theorem installFields_eq (found : s.get? h = some f) :
    s.installFields h = { s with
      atoms := f.fields.foldl (fun t field => t.install (f.lender? field) field.value) s.atoms
      facts := s.facts.update h fun f =>
        { f with fields := f.fields.map fun field => { field with source := .table } } } := by
  unfold installFields
  rw [found]

/-- What attaching does before the fact is linked. -/
theorem attach_eq (found : s.get? h = some f) (unnumbered : f.index = 0) (reuse : Option Nat)
    (hash : UInt64) (previous templatePrevious : Option Handle) :
    ∃ atoms facts nextIndex, s.attach h reuse hash previous templatePrevious =
        (link { s with atoms, facts, nextIndex, index := s.index.insert hash h } f.templateId h
          previous templatePrevious).map (reuse.getD s.nextIndex, ·) ∧
      (s.facts.Tidy → facts.Tidy) ∧
      nextIndex = (if reuse.isSome then s.nextIndex else s.nextIndex + 1) ∧
      atoms = f.fields.foldl (fun t field => t.install (f.lender? field) field.value) s.atoms ∧
      ∀ k, facts.get? k =
        if k = h then some (f.attached (reuse.getD s.nextIndex) hash) else s.facts.get? k := by
  have stored : s.facts.get? h = some f := found
  let number (f : Fact) : Fact :=
    { f with index := reuse.getD s.nextIndex, hash, busy := f.busy + 1 }
  let source (f : Fact) : Fact :=
    { f with fields := f.fields.map fun field => { field with source := .table } }
  have numbered (index nextIndex : Nat) :
      Store.get? { s with
        nextIndex
        facts := s.facts.update h fun f => { f with index, hash, busy := f.busy + 1 } } h =
        some { f with index, hash, busy := f.busy + 1 } := by
    rw [Store.get?, Arena.get?_update, if_pos rfl, stored, Option.map_some]
  refine ⟨(number f).fields.foldl
      (fun t field => t.install ((number f).lender? field) field.value) s.atoms,
    (s.facts.update h number).update h source,
    if reuse.isSome then s.nextIndex else s.nextIndex + 1, ?_,
    fun tidy => (tidy.update h number).update h source, rfl, rfl, fun k => ?_⟩
  · unfold attach
    cases reuse with
    | none =>
      simp only [found, bind, Except.bind]
      rw [installFields_eq (numbered s.nextIndex (s.nextIndex + 1))]
      rfl
    | some index =>
      simp only [found, unnumbered, true_or, if_true, bind, Except.bind]
      rw [installFields_eq (numbered index s.nextIndex)]
      rfl
  · rw [Arena.get?_update]
    by_cases here : k = h
    · rw [if_pos here, if_pos here, Arena.get?_update, if_pos rfl, stored]
      rfl
    · rw [if_neg here, if_neg here, Arena.get?_update, if_neg here]

/-- Attaching installs the fact's atoms and counts the number it issues, if any. -/
theorem attach_counts (found : s.get? h = some f) (unnumbered : f.index = 0) {reuse : Option Nat}
    {hash : UInt64} {previous templatePrevious : Option Handle} {index : Nat}
    (done : s.attach h reuse hash previous templatePrevious = .ok (index, s')) :
    s'.nextIndex = (if reuse.isSome then s.nextIndex else s.nextIndex + 1) ∧
      ∀ a, s'.atoms.installs a = s.atoms.installs a + (Value.allAtoms f.values).count a := by
  obtain ⟨atoms, facts, nextIndex, shape, -, counted, installed, -⟩ :=
    attach_eq found unnumbered reuse hash previous templatePrevious
  obtain ⟨v, linked, same⟩ := map_eq_ok.mp (shape.symm.trans done)
  obtain ⟨-, rfl⟩ := Prod.mk.inj same
  obtain ⟨_, -, linked⟩ := bind_eq_ok.mp linked
  obtain ⟨_, -, linked⟩ := bind_eq_ok.mp linked
  obtain rfl := Except.ok.inj linked
  refine ⟨counted, fun a => ?_⟩
  change atoms.installs a = _
  rw [installed, AtomTable.installs_fields]
  rfl

theorem attached_isAsserted (unattached : f.isUnattached = true) {index : Nat} (positive : index ≠ 0)
    (hash : UInt64) : (f.attached index hash).isAsserted = true :=
  Fact.isAsserted_iff.mpr ⟨positive, (Fact.isUnattached_iff.mp unattached).2⟩

/-- What is attached is asserted. -/
theorem Attaches.asserted {index : Nat} (attaches : Attaches h f index s s')
    (unattached : f.isUnattached = true) (positive : index ≠ 0) :
    ∃ g, s'.get? h = some g ∧ g.isAsserted = true := by
  refine (attaches.facts.exists_iff (P := (·.isAsserted = true)) h fun _ => .rfl).mpr ?_
  rw [if_pos rfl]
  exact attached_isAsserted unattached positive _

/-- What is indexed once an attached fact is. -/
theorem indexed_attached (sound : s.Sound) (found : s.get? h = some f)
    (unattached : f.isUnattached = true) {g : Fact} (asserted : g.isAsserted = true)
    (same : s.hashOf g = s.hashOf f) {facts : Arena Fact} (replaced : Replaced h g s.facts facts)
    (e : HashEntry) : e ∈ (s.index.insert (s.hashOf f) h).entries ↔
      ∃ f, facts.get? e.fact = some f ∧ f.isAsserted = true ∧ e.hash = s.hashOf f := by
  obtain ⟨-, entries⟩ := HashIndex.insert_spec sound.index (s.hashOf f) h
  rw [entries.mem_iff, List.mem_cons, sound.indexed]
  refine Iff.trans ?_ (replaced.exists_iff e.fact fun _ => .rfl).symm
  obtain ⟨hash, fact⟩ := e
  by_cases here : fact = h
  · subst here
    simp [found, not_asserted_of_unattached unattached, asserted, same]
  · simp [here, Store.get?]

/-- An unattached fact is in no list of asserted facts. -/
theorem unlisted {g : Fact} (found : s.get? h = some g)
    (unattached : g.isUnattached = true) {P : Fact → Prop} (asserted : ∀ f, P f → f.isAsserted = true)
    {hs : List Handle} (mem : ∀ k, k ∈ hs ↔ ∃ f, s.facts.get? k = some f ∧ P f) : h ∉ hs := by
  intro inside
  obtain ⟨g', found', holds⟩ := (mem h).mp inside
  rw [show s.facts.get? h = some g from found] at found'
  exact not_asserted_of_unattached unattached (Option.some.inj found' ▸ asserted g' holds)

/-- Attaching an unattached fact behind asserted ones. -/
theorem attach_spec (sound : s.Sound) (found : s.get? h = some f)
    (unattached : f.isUnattached = true) {reuse : Option Nat} (positive : ∀ i, reuse = some i → i ≠ 0)
    {previous templatePrevious : Option Handle}
    (listed : ∀ p, previous = some p → ∃ g, s.get? p = some g ∧ g.isAsserted = true)
    (listedInTemplate : ∀ p, templatePrevious = some p →
      ∃ g, s.get? p = some g ∧ g.isAsserted = true ∧ g.templateId = f.templateId) :
    ∃ s', s.attach h reuse (s.hashOf f) previous templatePrevious =
        .ok (reuse.getD s.nextIndex, s') ∧
      s'.Sound ∧ Attaches h f (reuse.getD s.nextIndex) s s' := by
  obtain ⟨hs, global, mem⟩ := sound.listed
  obtain ⟨ts, byTemplate, memInTemplate⟩ := sound.listedByTemplate f.templateId
  have nonzero : reuse.getD s.nextIndex ≠ 0 := by
    cases reuse with
    | none => exact Nat.pos_iff_ne_zero.mp sound.numbered
    | some i => exact positive i rfl
  obtain ⟨unnumbered, notGarbage⟩ := Fact.isUnattached_iff.mp unattached
  have asserted := attached_isAsserted unattached nonzero (s.hashOf f)
  have outside (g : Fact) (hg : s.facts.get? h = some g) : ¬ g.isAsserted = true := by
    rw [show s.facts.get? h = some f from found] at hg
    rw [← Option.some.inj hg]
    exact not_asserted_of_unattached unattached
  have free {r : Handle} {g : Fact} (hg : s.get? r = some g) (free : g.isUnattached = true) :
      r ∉ hs ∧ r ∉ ts :=
    ⟨unlisted hg free (fun _ => id) mem, unlisted hg free (fun _ => And.left) memInTemplate⟩
  obtain ⟨new, newInTemplate⟩ := free found unattached
  obtain ⟨atoms, facts, nextIndex, numbered, tidy, counted, installed, names⟩ :=
    attach_eq found unnumbered reuse (s.hashOf f) previous templatePrevious
  have grown : s.nextIndex ≤ nextIndex := by
    rw [counted]
    split
    · exact Nat.le_refl _
    · exact Nat.le_succ _
  have kept (thread : Thread) {k : Handle} (other : k ≠ h) :
      FactList.linksAt facts thread k = FactList.linksAt s.facts thread k := by
    rw [FactList.linksAt, FactList.linksAt, names, if_neg other]
  have apart {xs : List Handle} (new : h ∉ xs) {k : Handle} (hk : k ∈ xs) : k ≠ h :=
    fun here => new (here ▸ hk)
  obtain ⟨l, b, m, front, back, templateFront, templateBack, linked, rfl, rfl, threaded,
    threadedInTemplate, relinked, otherLinks, elsewhere⟩ :=
    link_spec (s := { s with atoms, facts, nextIndex, index := s.index.insert (s.hashOf f) h })
      (t := f.templateId) (h := h)
      (global.congr fun k hk => kept .global (apart new hk))
      (byTemplate.congr fun k hk => kept .inTemplate (apart newInTemplate hk)) new newInTemplate
      (by rw [names, if_pos rfl]; rfl)
      (fun p hp => (mem p).mpr (listed p hp))
      fun p hp => (memInTemplate p).mpr (listedInTemplate p hp)
  have replaced := Replaced.of_relinked relinked names
  have sameHash : s.hashOf (f.attached (reuse.getD s.nextIndex) (s.hashOf f)) = s.hashOf f := by
    rw [Store.hashOf, Fact.attached_values]
    rfl
  obtain ⟨indexSound, entries⟩ := HashIndex.insert_spec sound.index (s.hashOf f) h
  refine ⟨setListOf { s with
      atoms, nextIndex, global := l, facts := b, index := s.index.insert (s.hashOf f) h }
    f.templateId m, by rw [numbered, linked]; rfl, ?_, replaced, ⟨?_, rfl⟩, installed,
    _, _, _, _, _, _, rfl⟩
  · refine {
      listed := .join replaced asserted mem threaded fun _ => .rfl
      listedByTemplate := fun t => ?_
      indexed := indexed_attached sound found unattached asserted sameHash replaced
      indexedOnce := ?_
      index := indexSound
      garbage := fun k => ?_
      garbageOnce := sound.garbageOnce
      tidy := relinked.tidy (tidy sound.tidy)
      hashed := ?_
      numbered := Nat.lt_of_lt_of_le sound.numbered grown
      retracted := ?_ }
    · rw [listOf_setListOf]
      by_cases same : t = f.templateId
      · subst same
        rw [if_pos rfl]
        exact .join replaced ⟨asserted, rfl⟩ memInTemplate threadedInTemplate fun _ => .rfl
      · rw [if_neg same]
        refine (sound.listedByTemplate t).keep replaced (fun g hg holds => outside g hg holds.1)
          (fun holds => same holds.2.symm) (fun k other listed => ?_) fun _ => .rfl
        refine (otherLinks k other fun inside => ?_).trans (kept .inTemplate other)
        obtain ⟨g, hg, _, ht⟩ := listed
        obtain ⟨g', hg', _, ht'⟩ := (memInTemplate k).mp inside
        rw [hg] at hg'
        exact same (ht ▸ Option.some.inj hg' ▸ ht')
    · refine entries.nodup_iff.mpr (List.nodup_cons.mpr ⟨fun listed => ?_, sound.indexedOnce⟩)
      obtain ⟨g, hg, holds, _⟩ := (sound.indexed _).mp listed
      exact outside g hg holds
    · refine (sound.garbage k).trans (Iff.trans ?_ (replaced.exists_iff k fun _ => .rfl).symm)
      by_cases here : k = h
      · subst here
        simp [found, notGarbage, Fact.attached]
      · simp [here, Store.get?]
    · exact replaced.all (Q := fun g => g.isAsserted = true → g.hash = s.hashOf g)
        (fun _ => sameHash.symm) sound.hashed fun _ => .rfl
    · exact replaced.all (Q := fun g => g.isGarbage = true → g.index ≠ 0) (fun _ => nonzero)
        sound.retracted fun _ => .rfl
  · intro r g hg loose other
    have apart : r ≠ h := by simpa using other
    obtain ⟨out, outOfTemplate⟩ := free hg loose
    change b.get? r = some g
    rw [elsewhere r apart out outOfTemplate, names, if_neg apart]
    exact hg

/-! ### Detaching -/

/-- What detaching does once a fact is out of both lists, before its matches are withdrawn. -/
def bury (s : Store N) (h : Handle) : Store N :=
  { s with
    facts := s.facts.update h Fact.buried
    garbage := s.garbage ++ [h]
    counters := { s.counters with retracted := s.counters.retracted + 1 } }

/-- A fact becomes garbage and the others are left alone, apart from links. -/
structure Detaches (h : Handle) (f : Fact) (s s' : Store N) : Prop where
  facts : Replaced h f.buried s.facts s'.facts
  leaves : Leaves [] s s'
  rest : ∃ facts global templateLists index garbage network counters evaluationError,
    s' = { s with
      facts, global, templateLists, index, garbage, network, counters, evaluationError }

variable [JoinNetwork N]

theorem detach_eq_ok {d : Detached} (done : s.detach h = .ok (d, s')) :
    ∃ f index u, s.get? h = some f ∧ s.index.remove f.hash h = (true, index) ∧
      { s with index }.unlink f.templateId h = .ok (d.previous, d.templatePrevious, u) ∧
      f.busy ≠ 0 ∧
      (u.bury h).retractMatches h f.matched (.retractionFailed f.index) =
        .ok (d.networkFailed, d.notices, s') := by
  unfold detach at done
  split at done
  · cases done
  · rename_i f found
    dsimp only at done
    split at done
    · cases done
    · rename_i indexed
      obtain ⟨⟨p, tp, u⟩, unlinked, done⟩ := bind_eq_ok.mp done
      dsimp only at done
      split at done
      · cases done
      · rename_i held
        obtain ⟨⟨failed, notices, v⟩, retracted, done⟩ := bind_eq_ok.mp done
        obtain ⟨rfl, rfl⟩ := Prod.mk.inj (Except.ok.inj done)
        refine ⟨f, _, u, found, ?_, unlinked, held, retracted⟩
        rw [Prod.ext_iff]
        exact ⟨by simpa using indexed, rfl⟩

omit [JoinNetwork N] in
theorem unlink_eq_ok {t : TemplateId} {previous templatePrevious : Option Handle}
    (done : s.unlink t h = .ok (previous, templatePrevious, s')) :
    ∃ global facts templateLists, s' = { s with global, facts, templateLists } := by
  obtain ⟨⟨p, l, a⟩, -, done⟩ := bind_eq_ok.mp done
  dsimp only at done
  split at done
  · cases done
  · obtain ⟨⟨q, m, b⟩, -, done⟩ := bind_eq_ok.mp done
    simp only [Except.ok.injEq, Prod.mk.injEq] at done
    obtain ⟨-, -, rfl⟩ := done
    exact ⟨_, _, _, rfl⟩

/-- Detaching takes an asserted fact, and the facts it returns stay asserted. -/
theorem detach_spec (sound : s.Sound) {d : Detached} (done : s.detach h = .ok (d, s')) :
    ∃ f, s.get? h = some f ∧ f.isAsserted = true ∧ s'.Sound ∧ Detaches h f s s' ∧
      (∀ p, d.previous = some p → ∃ g, s'.get? p = some g ∧ g.isAsserted = true) ∧
      ∀ p, d.templatePrevious = some p →
        ∃ g, s'.get? p = some g ∧ g.isAsserted = true ∧ g.templateId = f.templateId := by
  obtain ⟨f, index, u, found, removed, unlinked, -, retracted⟩ := detach_eq_ok done
  obtain ⟨indexSound, e, rfl, entries⟩ := HashIndex.remove_spec sound.index removed
  have once := entries.nodup_iff.mp sound.indexedOnce
  have asserted : f.isAsserted = true := by
    obtain ⟨g, hg, holds, _⟩ := (sound.indexed e).mp (entries.mem_iff.mpr List.mem_cons_self)
    rw [found] at hg
    exact Option.some.inj hg ▸ holds
  obtain ⟨hs, global, mem⟩ := sound.listed
  obtain ⟨ts, byTemplate, memInTemplate⟩ := sound.listedByTemplate f.templateId
  obtain ⟨l, b, m, front, back, templateFront, templateBack, unlinked', rfl, rfl, threaded,
    threadedInTemplate, relinked, otherLinks, elsewhere⟩ :=
    unlink_spec (s := { s with index }) (h := e.fact) global byTemplate
      ((mem _).mpr ⟨f, found, asserted⟩) ((memInTemplate _).mpr ⟨f, found, asserted, rfl⟩)
  rw [unlinked'] at unlinked
  simp only [Except.ok.injEq, Prod.mk.injEq] at unlinked
  obtain ⟨hp, htp, rfl⟩ := unlinked
  obtain ⟨network, counters, evaluationError, rfl⟩ := retractMatches_eq_ok retracted
  have replaced : Replaced e.fact f.buried s.facts (b.update e.fact Fact.buried) :=
    .of_update relinked found fun _ => rfl
  have links (thread : Thread) (k : Handle) :
      FactList.linksAt (b.update e.fact Fact.buried) thread k = FactList.linksAt b thread k :=
    FactList.linksAt_update b thread e.fact k fun f => by cases thread <;> rfl
  have fails : ¬ f.buried.isAsserted = true := by simp [Fact.isAsserted, Fact.buried]
  have notGarbage := (Fact.isAsserted_iff.mp asserted).2
  have stays {p : Handle} (other : p ≠ e.fact) {P : Fact → Prop}
      (blind : ∀ f, P f.bare ↔ P f) (before : ∃ g, s.facts.get? p = some g ∧ P g) :
      ∃ g, (b.update e.fact Fact.buried).get? p = some g ∧ P g := by
    rw [replaced.exists_iff p blind, if_neg other]
    exact before
  refine ⟨f, found, asserted, ?_, ⟨replaced, ⟨?_, rfl⟩, _, _, _, _, _, _, _, _, rfl⟩, ?_, ?_⟩
  · refine {
      listed := .leave replaced fails mem global.once
        (threaded.congr fun k _ => links .global k) fun _ => .rfl
      listedByTemplate := fun t => ?_
      indexed := fun x => ?_
      indexedOnce := (List.nodup_cons.mp once).2
      index := indexSound
      garbage := fun k => ?_
      garbageOnce := ?_
      tidy := (relinked.tidy sound.tidy).update _ _
      hashed := ?_
      numbered := sound.numbered
      retracted := ?_ }
    · change Lists _ _ (listOf (setListOf _ f.templateId m) t) _
      rw [listOf_setListOf]
      by_cases same : t = f.templateId
      · subst same
        rw [if_pos rfl]
        exact .leave replaced (fun holds => fails holds.1) memInTemplate byTemplate.once
          (threadedInTemplate.congr fun k _ => links .inTemplate k) fun _ => .rfl
      · rw [if_neg same]
        refine (sound.listedByTemplate t).keep replaced ?_ (fun holds => fails holds.1)
          (fun k other listed => (links .inTemplate k).trans (otherLinks k fun inside => ?_))
          fun _ => .rfl
        · intro g hg holds
          rw [show s.facts.get? e.fact = some f from found] at hg
          exact same (Option.some.inj hg ▸ holds.2.symm)
        · obtain ⟨g, hg, _, ht⟩ := listed
          obtain ⟨g', hg', _, ht'⟩ := (memInTemplate k).mp inside
          rw [hg] at hg'
          exact same (ht ▸ Option.some.inj hg' ▸ ht')
    · have before : x ∈ index.entries ↔ x ∈ s.index.entries ∧ x ≠ e := by
        rw [entries.mem_iff, List.mem_cons]
        refine ⟨fun inside => ⟨.inr inside, ?_⟩, fun inside => inside.1.resolve_left inside.2⟩
        rintro rfl
        exact (List.nodup_cons.mp once).1 inside
      refine (before.trans ?_).trans (replaced.exists_iff x.fact fun _ => .rfl).symm
      by_cases here : x.fact = e.fact
      · rw [if_pos here]
        refine ⟨fun both => absurd ?_ both.2, fun holds => absurd holds.1 fails⟩
        have hash {y : HashEntry} (inside : y ∈ s.index.entries) (same : y.fact = e.fact) :
            y.hash = s.hashOf f := by
          obtain ⟨g, hg, _, hash⟩ := (sound.indexed y).mp inside
          rw [same, found] at hg
          exact Option.some.inj hg ▸ hash
        have listed : e ∈ s.index.entries := entries.mem_iff.mpr List.mem_cons_self
        calc x = ⟨x.hash, x.fact⟩ := rfl
          _ = ⟨e.hash, e.fact⟩ := by rw [hash both.1 here, hash listed rfl, here]
          _ = e := rfl
      · rw [if_neg here, sound.indexed]
        exact and_iff_left fun same => here (congrArg HashEntry.fact same)
    · change k ∈ s.garbage ++ [e.fact] ↔ _
      rw [List.mem_append, List.mem_singleton, sound.garbage]
      refine Iff.trans ?_ (replaced.exists_iff k fun _ => .rfl).symm
      by_cases here : k = e.fact
      · simp [here, Fact.buried]
      · simp [here, Store.get?]
    · change (s.garbage ++ [e.fact]).Nodup
      refine List.nodup_append'.mpr ⟨sound.garbageOnce, List.nodup_singleton _, ?_⟩
      rw [List.disjoint_singleton]
      intro inside
      obtain ⟨g, hg, garbage⟩ := (sound.garbage _).mp inside
      rw [found] at hg
      rw [← Option.some.inj hg, notGarbage] at garbage
      cases garbage
    · exact replaced.all (Q := fun g => g.isAsserted = true → g.hash = s.hashOf g)
        (fun holds => absurd holds fails) sound.hashed fun _ => .rfl
    · exact replaced.all (Q := fun g => g.isGarbage = true → g.index ≠ 0)
        (fun _ => (Fact.isAsserted_iff.mp asserted).1) sound.retracted fun _ => .rfl
  · intro r g hg loose _
    have other : r ≠ e.fact := by
      rintro rfl
      rw [found] at hg
      exact not_asserted_of_unattached loose (Option.some.inj hg ▸ asserted)
    change (b.update e.fact Fact.buried).get? r = some g
    rw [Arena.get?_update, if_neg other, elsewhere r (unlisted hg loose (fun _ => id) mem)
      (unlisted hg loose (fun _ => And.left) memInTemplate)]
    exact hg
  · intro p previous
    have inside : p ∈ front := List.mem_of_getLast? (hp.trans previous)
    have other : p ≠ e.fact := by
      rintro rfl
      exact (List.nodup_cons.mp (List.nodup_middle.mp global.once)).1
        (List.mem_append_left back inside)
    exact stays other (fun _ => .rfl) ((mem p).mp (List.mem_append_left _ inside))
  · intro p previous
    have inside : p ∈ templateFront := List.mem_of_getLast? (htp.trans previous)
    have other : p ≠ e.fact := by
      rintro rfl
      exact (List.nodup_cons.mp (List.nodup_middle.mp byTemplate.once)).1
        (List.mem_append_left templateBack inside)
    exact stays other (fun _ => .rfl) ((memInTemplate p).mp (List.mem_append_left _ inside))

/-! ### Collecting -/

omit [JoinNetwork N]

/-- Freeing a retracted fact takes it off the garbage. -/
theorem free_garbage_spec {front back : List Handle}
    (sound : Store.Sound { s with garbage := front ++ h :: back }) (found : s.get? h = some f)
    (garbage : f.isGarbage = true) (done : s.free h = .ok s') :
    Store.Sound { s' with garbage := front ++ back } ∧ Leaves [] s s' ∧
      s'.garbage = s.garbage ∧ s'.global = s.global ∧ s'.guarded = s.guarded := by
  obtain ⟨f', facts, atoms, templates, removed, -, -, rfl⟩ := free_eq_ok done
  obtain ⟨_, tidy, names⟩ := Arena.remove?_spec sound.tidy removed
  have attached : f.isUnattached = false := by simp [Fact.isUnattached, garbage]
  have agree (k : Handle) (g : Fact) (holds : g.isAsserted = true) :
      facts.get? k = some g ↔ s.facts.get? k = some g := by
    rw [names]
    by_cases here : k = h
    · rw [if_pos here, here, show s.facts.get? h = some f from found]
      refine iff_of_false (by simp) fun same => ?_
      rw [← Option.some.inj same, Fact.isAsserted, garbage] at holds
      simp at holds
    · rw [if_neg here]
  have former {k : Handle} {g : Fact} (hg : facts.get? k = some g) : s.facts.get? k = some g := by
    rw [names] at hg
    by_cases here : k = h
    · simp [here] at hg
    · rwa [if_neg here] at hg
  obtain ⟨out, once⟩ := List.nodup_cons.mp (List.nodup_middle.mp sound.garbageOnce)
  refine ⟨{
    listed := sound.listed.of_agree agree
    listedByTemplate := fun t => (sound.listedByTemplate t).of_agree fun k g holds =>
      agree k g holds.1
    indexed := fun e => (sound.indexed e).trans ?_
    indexedOnce := sound.indexedOnce
    index := sound.index
    garbage := fun k => ?_
    garbageOnce := once
    tidy
    hashed := fun k g hg holds => sound.hashed k g (former hg) holds
    numbered := sound.numbered
    retracted := fun k g hg => sound.retracted k g (former hg) }, ⟨?_, rfl⟩, rfl, rfl, rfl⟩
  · refine exists_congr fun g => ?_
    constructor
    · rintro ⟨hg, holds, hash⟩
      exact ⟨(agree _ g holds).mpr hg, holds, hash⟩
    · rintro ⟨hg, holds, hash⟩
      exact ⟨(agree _ g holds).mp hg, holds, hash⟩
  · have before : k ∈ front ++ back ↔ k ≠ h ∧ k ∈ front ++ h :: back := by
      simp only [List.mem_append, List.mem_cons] at out ⊢
      by_cases here : k = h
      · simpa [here] using out
      · simp [here]
    change _ ↔ ∃ g, facts.get? k = some g ∧ _
    rw [before, sound.garbage, names]
    by_cases here : k = h
    · simp [here]
    · simp [here, Store.get?]
  · intro r g hg loose _
    change facts.get? r = some g
    rw [names, if_neg]
    · exact hg
    · rintro rfl
      rw [found] at hg
      rw [← Option.some.inj hg, attached] at loose
      cases loose

/-- Collecting goes through the garbage from the front; what is kept goes to the end. -/
theorem collectFrom_spec {hs : List Handle} {n : Nat}
    (sound : Store.Sound { s with garbage := s.garbage ++ hs })
    (done : collectFrom hs s = .ok (n, s')) :
    s'.Sound ∧ Leaves [] s s' ∧ s'.global = s.global ∧ s'.guarded = s.guarded := by
  induction hs generalizing s n with
  | nil =>
    obtain ⟨-, rfl⟩ := Prod.mk.inj (Except.ok.inj done)
    rw [List.append_nil] at sound
    exact ⟨sound, .refl s, rfl, rfl⟩
  | cons h rest ih =>
    unfold collectFrom at done
    split at done
    · cases done
    · rename_i f found
      have garbage : f.isGarbage = true := by
        obtain ⟨g, hg, garbage⟩ := (sound.garbage h).mp (by simp)
        rw [show s.get? h = some g from hg] at found
        exact Option.some.inj found ▸ garbage
      split at done
      · obtain ⟨u, freed, done⟩ := bind_eq_ok.mp done
        obtain ⟨⟨m, v⟩, others, done⟩ := bind_eq_ok.mp done
        obtain ⟨-, rfl⟩ := Prod.mk.inj (Except.ok.inj done)
        obtain ⟨sound', leaves, same, global, guarded⟩ :=
          free_garbage_spec sound found garbage freed
        rw [← same] at sound'
        obtain ⟨sound'', leaves', global', guarded'⟩ := ih sound' others
        exact ⟨sound'', leaves.trans leaves', global'.trans global, guarded'.trans guarded⟩
      · have kept : Store.Sound { s with garbage := s.garbage ++ [h] ++ rest } := by
          rw [List.append_assoc]
          exact sound
        obtain ⟨sound', leaves', same⟩ :=
          ih (s := { s with garbage := s.garbage ++ [h] }) kept done
        exact ⟨sound', ⟨leaves'.facts, leaves'.contentHash⟩, same⟩

theorem collectGarbage_spec (sound : s.Sound) {n : Nat} (done : s.collectGarbage = .ok (n, s')) :
    s'.Sound ∧ Leaves [] s s' ∧ s'.global = s.global ∧ s'.guarded = s.guarded := by
  unfold collectGarbage at done
  split at done
  · obtain ⟨-, rfl⟩ := Prod.mk.inj (Except.ok.inj done)
    exact ⟨sound, .refl s, rfl, rfl⟩
  · obtain ⟨⟨m, u⟩, collected, done⟩ := bind_eq_ok.mp done
    obtain ⟨-, rfl⟩ := Prod.mk.inj (Except.ok.inj done)
    obtain ⟨sound', leaves, same⟩ := collectFrom_spec (s := { s with garbage := [] }) sound collected
    have swept : Quiet [] u { u with
        atoms := u.atoms.sweep u.holdsAtom
        counters := { u.counters with
          reclaimed := u.counters.reclaimed + m, gcRuns := u.counters.gcRuns + 1 } } := .unchanged
    exact ⟨sound'.quiet swept, ⟨leaves.facts, leaves.contentHash⟩, same⟩

theorem maybeCollect_spec (sound : s.Sound) (done : s.maybeCollect = .ok s') :
    s'.Sound ∧ Leaves [] s s' ∧ s'.guarded = s.guarded := by
  unfold maybeCollect at done
  split at done
  · obtain ⟨⟨n, u⟩, collected, rfl⟩ := map_eq_ok.mp done
    obtain ⟨sound', leaves, -, guarded⟩ := collectGarbage_spec sound collected
    exact ⟨sound', leaves, guarded⟩
  · obtain rfl := Except.ok.inj done
    exact ⟨sound, .refl s, rfl⟩

/-! ### Templates -/

/-- A template that is removed has no facts left, so its list is empty anyway. -/
theorem undefineTemplate_spec (sound : s.Sound) {name : String}
    (done : s.undefineTemplate name = .ok s') : Quiet [] s s' := by
  unfold undefineTemplate at done
  split at done
  · cases done
  · rename_i templates removed
    obtain rfl := Except.ok.inj done
    refine ⟨⟨same_of_facts_eq rfl, id, rfl, fun t => ?_, rfl, rfl, rfl, rfl, rfl⟩,
      leaves_of_facts_eq rfl rfl⟩
    unfold TemplateRegistry.undefine at removed
    split at removed
    · cases removed
    · rename_i e named
      dsimp only at removed
      split at removed
      · cases removed
      · rename_i unused
        have shares : s.templateShares e.id = 0 := by omega
        have gone : (fun p : TemplateId × FactList =>
            !(s.templates.find? name == some p.1)) = fun p => p.1 != e.id := by
          funext p
          simp [TemplateRegistry.find?, named, bne, eq_comm]
        simp only [gone, listOf]
        by_cases same : t = e.id
        · subst same
          have empty : s.listOf e.id = {} := by
            refine (sound.listedByTemplate e.id).eq_empty fun k g found holds => ?_
            have counted := (Nat.add_eq_zero_iff.mp shares).1
            rw [List.countP_eq_zero] at counted
            exact counted g (Arena.mem_values found) (by simpa using holds.2)
          rw [lookup_filter_self]
          exact empty.symm
        · rw [lookup_filter_of_ne _ same]

end Store

end FactBase

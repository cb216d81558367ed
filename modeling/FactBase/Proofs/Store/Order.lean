import FactBase.Proofs.Store.Attach

/-!
# The order of the asserted facts

The lists of a consistent fact base are threaded through its facts in the order in which they are
walked. What is not recorded does not change the order. A fact that is attached comes in where it is
put, and one that is detached goes; all others keep their order.
-/

namespace FactBase.Store

variable {N : Type} {s s' : Store N} {h : Handle} {f : Fact}
  {front back templateFront templateBack : List Handle}

theorem Consistent.threaded_order (consistent : s.Consistent) :
    FactList.Threaded s.facts .global s.global s.order := by
  obtain ⟨hs, threaded, -⟩ := consistent.listed
  rw [order, threaded.onward_eq]
  exact threaded

theorem Consistent.threaded_templateFacts (consistent : s.Consistent) (t : TemplateId) :
    FactList.Threaded s.facts .inTemplate (s.listOf t) (s.templateFacts t) := by
  obtain ⟨hs, threaded, -⟩ := consistent.listedByTemplate t
  rw [templateFacts, threaded.onward_eq]
  exact threaded

/-- A place behind an asserted fact or at the head is one between two parts of the order. -/
theorem Consistent.exists_front (consistent : s.Consistent) {previous : Option Handle}
    (listed : ∀ p, previous = some p → ∃ g, s.get? p = some g ∧ g.isAsserted = true) :
    ∃ front back, s.order = front ++ back ∧ previous = front.getLast? := by
  cases previous with
  | none => exact ⟨[], s.order, rfl, rfl⟩
  | some p =>
    obtain ⟨before, back, split⟩ := List.append_of_mem (consistent.mem_order.mpr (listed p rfl))
    exact ⟨before ++ [p], back, by simp [split], by simp⟩

/-- A template's list ends with the last of its facts. -/
theorem Consistent.listOf_tail (consistent : s.Consistent) (t : TemplateId) :
    (s.listOf t).tail = (s.templateFacts t).getLast? := by
  simpa using (consistent.threaded_templateFacts t).chain.last_eq

/-- A fact is listed under its own template only. -/
theorem Consistent.template_unique (consistent : s.Consistent) {t u : TemplateId}
    (mem : h ∈ s.templateFacts t) (mem' : h ∈ s.templateFacts u) : t = u := by
  obtain ⟨f, found, -, rfl⟩ := consistent.mem_templateFacts.mp mem
  obtain ⟨g, found', -, rfl⟩ := consistent.mem_templateFacts.mp mem'
  rw [Option.some.inj (found.symm.trans found')]

/-- A list stays threaded if its facts are attached and the same is recorded of them. -/
theorem Alike.threaded (alike : s.Alike s') {thread : Thread} {l : FactList} {hs : List Handle}
    (threaded : FactList.Threaded s.facts thread l hs)
    (attached : ∀ h ∈ hs, ∃ f, s.get? h = some f ∧ f.isAsserted = true) :
    FactList.Threaded s'.facts thread l hs := by
  refine threaded.congr fun h inside => ?_
  obtain ⟨f, found, asserted⟩ := attached h inside
  have listed : f.isUnattached = false :=
    Bool.eq_false_iff.mpr fun u => not_asserted_of_unattached u asserted
  obtain ⟨g, found', like⟩ := (alike.facts h).attached found listed
  rw [FactList.linksAt, FactList.linksAt, show s.facts.get? h = some f from found,
    show s'.facts.get? h = some g from found', Option.map_some, Option.map_some, like.links thread]

theorem Alike.order (alike : s.Alike s') (consistent : s.Consistent) : s'.order = s.order := by
  have threaded := alike.threaded consistent.threaded_order fun h => consistent.mem_order.mp
  rw [Store.order, alike.global, threaded.onward_eq]

theorem Alike.templateFacts (alike : s.Alike s') (consistent : s.Consistent) (t : TemplateId) :
    s'.templateFacts t = s.templateFacts t := by
  have threaded := alike.threaded (consistent.threaded_templateFacts t) fun h inside => by
    obtain ⟨f, found, asserted, -⟩ := consistent.mem_templateFacts.mp inside
    exact ⟨f, found, asserted⟩
  rw [Store.templateFacts, alike.lists, threaded.onward_eq]

/-! ### Attaching and detaching -/

/-- What is attached stands where it was put in both lists. -/
theorem attach_places (sound : s.Sound) (found : s.get? h = some f)
    (unattached : f.isUnattached = true) {reuse : Option Nat} {index : Nat}
    (order : s.order = front ++ back)
    (templateFacts : s.templateFacts f.templateId = templateFront ++ templateBack)
    (done : s.attach h reuse (s.hashOf f) front.getLast? templateFront.getLast? =
      .ok (index, s')) :
    s'.order = front ++ h :: back ∧
      s'.templateFacts f.templateId = templateFront ++ h :: templateBack ∧
      ∀ t, t ≠ f.templateId → s'.templateFacts t = s.templateFacts t := by
  obtain ⟨unnumbered, -⟩ := Fact.isUnattached_iff.mp unattached
  have new : h ∉ s.order :=
    (sound.aside found unattached).unlisted
  have newInTemplate (t : TemplateId) : h ∉ s.templateFacts t :=
    (sound.aside found unattached).unlistedByTemplate t
  obtain ⟨atoms, facts, nextIndex, numbered, -, -, -, names⟩ :=
    attach_eq found unnumbered reuse (s.hashOf f) front.getLast? templateFront.getLast?
  have kept (thread : Thread) {k : Handle} (other : k ≠ h) :
      FactList.linksAt facts thread k = FactList.linksAt s.facts thread k := by
    rw [FactList.linksAt, FactList.linksAt, names, if_neg other]
  have apart {xs : List Handle} (new : h ∉ xs) {k : Handle} (hk : k ∈ xs) : k ≠ h :=
    fun here => new (here ▸ hk)
  have global := sound.threaded_order.congr fun k hk => kept .global (apart new hk)
  have byTemplate := (sound.threaded_templateFacts f.templateId).congr fun k hk =>
    kept .inTemplate (apart (newInTemplate _) hk)
  rw [order] at global new
  rw [templateFacts] at byTemplate
  obtain ⟨l, b, m, linked, threaded, threadedInTemplate, -, otherLinks, -⟩ :=
    link_at (s := { s with atoms, facts, nextIndex, index := s.index.insert (s.hashOf f) h })
      global byTemplate new (templateFacts ▸ newInTemplate f.templateId)
      (by rw [names, if_pos rfl]; rfl)
  rw [numbered, linked] at done
  obtain ⟨-, rfl⟩ := Prod.mk.inj (Except.ok.inj done)
  refine ⟨threaded.onward_eq, ?_, fun t other => ?_⟩
  · rw [Store.templateFacts, listOf_setListOf, if_pos rfl]
    exact threadedInTemplate.onward_eq
  · rw [Store.templateFacts, listOf_setListOf, if_neg other]
    refine ((sound.threaded_templateFacts t).congr fun k hk => ?_).onward_eq
    refine (otherLinks k (apart (newInTemplate t) hk) fun inside => ?_).trans
      (kept .inTemplate (apart (newInTemplate t) hk))
    exact other (sound.template_unique hk (templateFacts ▸ inside))

variable [JoinNetwork N]

/-- Taking a fact out leaves the others in their order. -/
theorem detach_places (sound : s.Sound) {d : Detached} (done : s.detach h = .ok (d, s')) :
    ∃ f front back templateFront templateBack, s.get? h = some f ∧
      s.order = front ++ h :: back ∧ s'.order = front ++ back ∧ d.previous = front.getLast? ∧
      s.templateFacts f.templateId = templateFront ++ h :: templateBack ∧
      s'.templateFacts f.templateId = templateFront ++ templateBack ∧
      d.templatePrevious = templateFront.getLast? ∧
      ∀ t, t ≠ f.templateId → s'.templateFacts t = s.templateFacts t := by
  obtain ⟨f, found, asserted, -⟩ := detach_spec sound done
  obtain ⟨f', index, u, found', -, unlinked, -, retracted⟩ := detach_eq_ok done
  obtain rfl := Option.some.inj (found.symm.trans found')
  obtain ⟨l, b, m, front, back, templateFront, templateBack, unlinked', order, templateFacts,
    threaded, threadedInTemplate, -, otherLinks, -⟩ :=
    unlink_spec (s := { s with index }) (h := h) sound.threaded_order
      (sound.threaded_templateFacts f.templateId) (sound.mem_order.mpr ⟨f, found, asserted⟩)
      (sound.mem_templateFacts.mpr ⟨f, found, asserted, rfl⟩)
  rw [unlinked'] at unlinked
  simp only [Except.ok.injEq, Prod.mk.injEq] at unlinked
  obtain ⟨previous, templatePrevious, rfl⟩ := unlinked
  obtain ⟨network, counters, evaluationError, rfl⟩ := retractMatches_eq_ok retracted
  have links (thread : Thread) (k : Handle) :
      FactList.linksAt (b.update h Fact.buried) thread k = FactList.linksAt b thread k :=
    FactList.linksAt_update b thread h k fun f => by cases thread <;> rfl
  refine ⟨f, front, back, templateFront, templateBack, found, order, ?_, previous.symm,
    templateFacts, ?_, templatePrevious.symm, fun t other => ?_⟩
  · exact (threaded.congr fun k _ => links .global k).onward_eq
  · change FactList.onward _ _ (listOf (setListOf _ f.templateId m) f.templateId).head = _
    rw [listOf_setListOf, if_pos rfl]
    exact (threadedInTemplate.congr fun k _ => links .inTemplate k).onward_eq
  · change FactList.onward _ _ (listOf (setListOf _ f.templateId m) t).head = _
    rw [listOf_setListOf, if_neg other]
    refine ((sound.threaded_templateFacts t).congr fun k hk => ?_).onward_eq
    refine (links .inTemplate k).trans (otherLinks k fun inside => ?_)
    exact other (sound.template_unique hk inside)

end FactBase.Store

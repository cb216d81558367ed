import FactBase.Proofs.Store.Stock

/-!
# Busy counts

The busy count of a template is the number of stored facts that were made from it, and a stored
fact has one field per slot.
-/

namespace FactBase

namespace TemplateRegistry

variable {r r' : TemplateRegistry} {id t : TemplateId}

/-- What no count of users changes. -/
structure SameTemplates (r r' : TemplateRegistry) : Prop where
  ids : r'.entries.map (·.id) = r.entries.map (·.id)
  nextId : r'.nextId = r.nextId

theorem sameTemplates_update (r : TemplateRegistry) (id : TemplateId)
    {f : TemplateEntry → TemplateEntry} (same : ∀ e, (f e).id = e.id) :
    SameTemplates r (r.update id f) := by
  refine ⟨?_, rfl⟩
  rw [update, List.map_map]
  refine List.map_congr_left fun e _ => ?_
  by_cases here : e.id = id <;> simp [here, same]

theorem entryOf?_update (r : TemplateRegistry) (id t : TemplateId)
    {f : TemplateEntry → TemplateEntry} (same : ∀ e, (f e).id = e.id) :
    (r.update id f).entryOf? t = if t = id then (r.entryOf? t).map f else r.entryOf? t := by
  refine (find?_map_update r.entries same id t).trans ?_
  simp only [beq_iff_eq, entryOf?]
  split
  · rename_i here
    rw [here]
  · rfl

theorem busyCount_incrementBusy (done : r.incrementBusy id = .ok r') (t : TemplateId) :
    r'.busyCount t = r.busyCount t + if t = id then 1 else 0 := by
  unfold incrementBusy at done
  split at done
  · rename_i known
    obtain rfl := Except.ok.inj done
    rw [busyCount, entryOf?_update]
    swap
    · exact fun _ => rfl
    by_cases here : t = id
    · obtain ⟨e, found⟩ := Option.isSome_iff_exists.mp known
      simp [here, busyCount, found]
    · simp [here, busyCount]
  · cases done

theorem busyCount_decrementBusy (done : r.decrementBusy id = .ok r') (t : TemplateId) :
    r.busyCount t = r'.busyCount t + if t = id then 1 else 0 := by
  unfold decrementBusy at done
  split at done
  · cases done
  · rename_i e found
    split at done
    · cases done
    · obtain rfl := Except.ok.inj done
      rw [busyCount, busyCount, entryOf?_update]
      swap
      · exact fun _ => rfl
      by_cases here : t = id
      · simp only [here, if_true, found, Option.map_some, Option.getD_some]
        omega
      · simp [here]

theorem sameTemplates_incrementBusy (done : r.incrementBusy id = .ok r') : SameTemplates r r' := by
  unfold incrementBusy at done
  split at done
  · obtain rfl := Except.ok.inj done
    exact sameTemplates_update r id fun _ => rfl
  · cases done

theorem sameTemplates_decrementBusy (done : r.decrementBusy id = .ok r') : SameTemplates r r' := by
  unfold decrementBusy at done
  split at done
  · cases done
  · split at done
    · cases done
    · obtain rfl := Except.ok.inj done
      exact sameTemplates_update r id fun _ => rfl

/-- A template that is in use can be counted once more and once less. -/
theorem counted_of_busy (busy : 0 < r.busyCount id) :
    (∃ r', r.incrementBusy id = .ok r') ∧ ∃ r', r.decrementBusy id = .ok r' := by
  unfold incrementBusy decrementBusy
  rw [busyCount] at busy
  cases found : r.entryOf? id with
  | none => simp [found] at busy
  | some e =>
    have positive : e.busy ≠ 0 := by simpa [found, Nat.pos_iff_ne_zero] using busy
    simp [positive]

end TemplateRegistry

namespace Store

open TemplateRegistry

variable {N : Type} {s s' : Store N} {h : Handle} {f : Fact}

/-- The registry counts the stored facts by template, and each has one field per slot. -/
structure Tallied (s : Store N) : Prop where
  busy : ∀ t, s.templates.busyCount t = s.facts.census.countP (·.1 == t)
  once : (s.templates.entries.map (·.id)).Nodup
  issued : ∀ id ∈ s.templates.entries.map (·.id), id.number < s.templates.nextId
  filled : ∀ kind ∈ s.facts.census, kind.2.2 = kind.2.1.arity

theorem Tallied.sameStock (tallied : s.Tallied) (same : SameStock s s') : s'.Tallied := by
  obtain ⟨busy, once, issued, filled⟩ := tallied
  rw [← same.templates] at busy once issued
  rw [← same.census] at filled
  refine ⟨fun t => ?_, once, issued, filled⟩
  rw [busy, same.census]

/-- Counting builders changes no busy count. -/
theorem Tallied.updateBuilders (tallied : s.Tallied) {id : TemplateId}
    {u : TemplateEntry → TemplateEntry} {templates : TemplateRegistry}
    (updated : templates = s.templates.update id u)
    (same : ∀ e, (u e).id = e.id ∧ (u e).busy = e.busy) : Tallied { s with templates } := by
  subst updated
  have kept := sameTemplates_update s.templates id fun e => (same e).1
  refine ⟨fun t => ?_, kept.ids ▸ tallied.once, ?_, tallied.filled⟩
  · refine Eq.trans ?_ (tallied.busy t)
    rw [busyCount, busyCount, entryOf?_update _ _ _ fun e => (same e).1]
    split
    · cases s.templates.entryOf? t <;> simp [same]
    · rfl
  · exact kept.ids ▸ tallied.issued

theorem Tallied.createWith (tallied : s.Tallied) (tidy : s.facts.Tidy) {t : TemplateId}
    {template : Template} {fields : List Field}
    (done : s.createWith t template fields = .ok (h, s')) : s'.Tallied := by
  have fits := createWith_arity done
  obtain ⟨templates, facts, counted, inserted, rfl⟩ := createWith_eq_ok done
  have kept := sameTemplates_incrementBusy counted
  have census : facts.census.Perm ((t, template, fields.length) :: s.facts.census) :=
    (Arena.values_insert tidy inserted).map Fact.kind
  refine ⟨fun u => ?_, kept.ids ▸ tallied.once, ?_, fun kind hk => ?_⟩
  · rw [busyCount_incrementBusy counted, tallied.busy, census.countP_eq, List.countP_cons]
    by_cases here : u = t
    · simp [here]
    · simp [here, Ne.symm here]
  · rw [kept.ids, kept.nextId]
    exact tallied.issued
  · rcases List.mem_cons.mp (census.mem_iff.mp hk) with rfl | old
    · exact fits
    · exact tallied.filled kind old

theorem Tallied.free (tallied : s.Tallied) (done : s.free h = .ok s') : s'.Tallied := by
  obtain ⟨f, facts, atoms, templates, removed, -, counted, rfl⟩ := free_eq_ok done
  have kept := sameTemplates_decrementBusy counted
  have census : s.facts.census.Perm (f.kind :: facts.census) :=
    (Arena.values_remove? removed).map Fact.kind
  refine ⟨fun u => ?_, kept.ids ▸ tallied.once, ?_, fun kind hk => ?_⟩
  · have before := tallied.busy u
    rw [busyCount_decrementBusy counted, census.countP_eq, List.countP_cons] at before
    by_cases here : u = f.templateId
    · simp only [here, Fact.kind, BEq.rfl, if_true] at before ⊢
      omega
    · have other : (f.templateId == u) = false := beq_false_of_ne (Ne.symm here)
      simpa [here, Fact.kind, other] using before
  · rw [kept.ids, kept.nextId]
    exact tallied.issued
  · exact tallied.filled kind (census.mem_iff.mpr (List.mem_cons_of_mem _ hk))

theorem Tallied.collectFrom {hs : List Handle} {n : Nat} (tallied : s.Tallied)
    (done : collectFrom hs s = .ok (n, s')) : s'.Tallied := by
  induction hs generalizing s n with
  | nil =>
    obtain ⟨-, rfl⟩ := Prod.mk.inj (Except.ok.inj done)
    exact tallied
  | cons h rest ih =>
    unfold Store.collectFrom at done
    split at done
    · cases done
    · split at done
      · obtain ⟨u, freed, done⟩ := bind_eq_ok.mp done
        obtain ⟨⟨m, v⟩, others, done⟩ := bind_eq_ok.mp done
        obtain ⟨-, rfl⟩ := Prod.mk.inj (Except.ok.inj done)
        exact ih (tallied.free freed) others
      · have kept : Tallied { s with garbage := s.garbage ++ [h] } :=
          tallied.sameStock ⟨rfl, rfl, rfl⟩
        exact ih kept done

theorem Tallied.collectGarbage {n : Nat} (tallied : s.Tallied)
    (done : s.collectGarbage = .ok (n, s')) : s'.Tallied := by
  unfold Store.collectGarbage at done
  split at done
  · obtain ⟨-, rfl⟩ := Prod.mk.inj (Except.ok.inj done)
    exact tallied
  · obtain ⟨⟨m, u⟩, collected, done⟩ := bind_eq_ok.mp done
    obtain ⟨-, rfl⟩ := Prod.mk.inj (Except.ok.inj done)
    have emptied : Tallied { s with garbage := [] } := tallied.sameStock ⟨rfl, rfl, rfl⟩
    exact (emptied.collectFrom collected).sameStock ⟨rfl, rfl, rfl⟩

theorem Tallied.maybeCollect (tallied : s.Tallied) (done : s.maybeCollect = .ok s') :
    s'.Tallied := by
  unfold Store.maybeCollect at done
  split at done
  · obtain ⟨⟨n, u⟩, collected, rfl⟩ := map_eq_ok.mp done
    exact tallied.collectGarbage collected
  · obtain rfl := Except.ok.inj done
    exact tallied

/-- A template just defined has no users yet. -/
theorem Tallied.define (tallied : s.Tallied) {t : Template} {id : TemplateId}
    {templates : TemplateRegistry} (done : s.templates.define t = .ok (id, templates)) :
    Tallied { s with templates } := by
  obtain ⟨-, -, -, -, rfl⟩ := TemplateRegistry.define_eq_ok done
  refine ⟨fun u => ?_, ?_, fun i hi => ?_, tallied.filled⟩
  · refine Eq.trans ?_ (tallied.busy u)
    simp only [busyCount, entryOf?, List.find?_append]
    cases s.templates.entries.find? (·.id == u) with
    | some e => rfl
    | none =>
      by_cases here : (⟨s.templates.nextId⟩ : TemplateId) = u <;> simp [here]
  · rw [List.map_append]
    refine List.nodup_append'.mpr ⟨tallied.once, List.nodup_singleton _, ?_⟩
    intro i old new
    have before := tallied.issued i old
    rw [List.mem_singleton.mp new] at before
    exact Nat.lt_irrefl _ before
  · rw [List.map_append] at hi
    rcases List.mem_append.mp hi with old | new
    · exact Nat.lt_succ_of_lt (tallied.issued i old)
    · rw [List.mem_singleton.mp new]
      exact Nat.lt_succ_self _

theorem Tallied.impliedTemplate (tallied : s.Tallied) {relation : String} {id : TemplateId}
    {templates : TemplateRegistry}
    (done : s.templates.impliedTemplate relation = .ok (id, templates)) :
    Tallied { s with templates } := by
  obtain ⟨e, -, -, -, rfl⟩ | ⟨-, defined⟩ := TemplateRegistry.impliedTemplate_eq_ok done
  · exact tallied.sameStock ⟨rfl, rfl, rfl⟩
  · exact tallied.define defined

theorem Tallied.undefineTemplate (tallied : s.Tallied) {name : String}
    (done : s.undefineTemplate name = .ok s') : s'.Tallied := by
  unfold Store.undefineTemplate at done
  split at done
  · cases done
  · rename_i templates removed
    obtain rfl := Except.ok.inj done
    unfold TemplateRegistry.undefine at removed
    split at removed
    · cases removed
    · rename_i e named
      dsimp only at removed
      split at removed
      · cases removed
      · rename_i unused
        obtain rfl := Except.ok.inj removed
        have inside := List.mem_of_find?_eq_some named
        have fewer : (s.templates.entries.filter (·.id != e.id)).map (·.id) ⊆
            s.templates.entries.map (·.id) := (List.filter_sublist.map _).subset
        refine ⟨fun u => ?_, tallied.once.sublist (List.filter_sublist.map _),
          fun i hi => tallied.issued i (fewer hi), tallied.filled⟩
        refine Eq.trans ?_ (tallied.busy u)
        simp only [busyCount, entryOf?, List.find?_filter]
        by_cases here : u = e.id
        · subst here
          have found : s.templates.entries.find? (·.id == e.id) = some e :=
            find?_eq_some_of_nodup tallied.once inside rfl
          have gone : (fun x : TemplateEntry =>
              decide ((x.id != e.id) = true ∧ (x.id == e.id) = true)) = fun _ => false := by
            funext x
            by_cases same : x.id = e.id <;> simp [same]
          have idle : e.busy = 0 := by omega
          have none : s.templates.entries.find? (fun _ => false) = Option.none :=
            List.find?_eq_none.mpr fun _ _ => Bool.false_ne_true
          rw [gone, found, none]
          exact idle.symm
        · have same : (fun x : TemplateEntry =>
              decide ((x.id != e.id) = true ∧ (x.id == u) = true)) = (·.id == u) := by
            funext x
            by_cases same : x.id = u <;> simp [same, here]
          rw [same]

/-! ### Steps -/

variable [JoinNetwork N]

/-- Every step keeps the counts right. -/
theorem Step.tallied (step : Step s s') (sound : s.Sound) (tallied : s.Tallied) : s'.Tallied := by
  cases step with
  | createWith done => exact tallied.createWith sound.tidy done
  | createFact done =>
    obtain ⟨-, rfl⟩ | ⟨e, h, created, -⟩ := createFact_eq_ok done
    · exact tallied
    · have drawn := defaultFields_spec e.id e.template.slots.zipIdx s
      exact (tallied.sameStock (stock_defaultFields e.id e.template.slots.zipIdx s)).createWith
        (sound.quiet drawn).tidy created
  | createOrdered done =>
    obtain ⟨e, -, -, rfl⟩ | ⟨id, templates, template, h, implied, created, -⟩ :=
      createOrdered_eq_ok done
    · exact tallied
    · exact (tallied.impliedTemplate implied).createWith sound.tidy created
  | putSlot done => exact tallied.sameStock (stock_putSlot done)
  | putSlotAt done => exact tallied.sameStock (stock_putSlotAt done)
  | discard done =>
    obtain ⟨e, -, rfl⟩ | ⟨f, -, -, freed, -⟩ := discard_eq_ok done
    · exact tallied
    · exact tallied.free freed
  | free _ _ done => exact tallied.free done
  | retain done => exact tallied.sameStock (stock_retain done)
  | release done => exact tallied.sameStock (stock_release done)
  | install done => exact tallied.sameStock (stock_install done)
  | deinstall done => exact tallied.sameStock (stock_deinstall done)
  | attach _ _ _ _ _ done => exact tallied.sameStock (stock_attach done)
  | matchFact done => exact tallied.sameStock (stock_matchFact done)
  | detach done => exact tallied.sameStock (stock_detach done)
  | collectGarbage done => exact tallied.collectGarbage done
  | maybeCollect done => exact tallied.maybeCollect done
  | addPattern done => exact tallied.sameStock (stock_addPattern done)
  | removePattern done => exact tallied.sameStock (stock_removePattern done)
  | replayNewPatterns done => exact tallied.sameStock (stock_replayAll done)
  | defineTemplate done =>
    obtain ⟨templates, defined, rfl⟩ := defineTemplate_eq_ok done
    exact tallied.define defined
  | undefineTemplate done => exact tallied.undefineTemplate done
  | impliedTemplate done => exact tallied.impliedTemplate done
  | defineModule done =>
    unfold TemplateRegistry.defineModule at done
    split at done
    · cases done
    · obtain rfl := Except.ok.inj done
      exact ⟨tallied.busy, tallied.once, tallied.issued, tallied.filled⟩
  | setCurrentModule done =>
    unfold TemplateRegistry.setCurrentModule at done
    split at done
    · obtain rfl := Except.ok.inj done
      exact ⟨tallied.busy, tallied.once, tallied.issued, tallied.filled⟩
    · cases done
  | drawDefault _ t position => exact tallied.sameStock (stock_drawDefault s t position)
  | makeBuilder done =>
    unfold Builder.make at done
    split at done
    · cases done
    · split at done
      · cases done
      · obtain ⟨-, rfl⟩ := Prod.mk.inj (Except.ok.inj done)
        exact tallied.updateBuilders rfl fun _ => ⟨rfl, rfl⟩
  | dropBuilder b => exact tallied.updateBuilders rfl fun _ => ⟨rfl, rfl⟩
  | builderFields b slots => exact tallied.sameStock (stock_builderFields b slots s)
  | renumber | intern | listeners | guarded | counters | lend | settle | probe
  | clearEvaluationError => exact tallied.sameStock ⟨rfl, rfl, rfl⟩
  | allowDuplicates => exact ⟨tallied.busy, tallied.once, tallied.issued, tallied.filled⟩

theorem Reachable.tallied (reachable : s.Reachable) : s.Tallied := by
  induction reachable with
  | fresh config network contentHash =>
    have empty : (Arena.census {} : List (TemplateId × Template × Nat)) = [] := rfl
    exact ⟨fun _ => rfl, List.nodup_nil, by simp [Store.fresh, Store.empty], by
      rw [show (Store.fresh config network contentHash).facts = {} from rfl, empty]
      simp⟩
  | step before step ih => exact step.tallied before.sound ih

omit [JoinNetwork N] in
/-- A stored fact is counted by its template. -/
theorem Tallied.busy_pos (tallied : s.Tallied) (found : s.get? h = some f) :
    0 < s.templates.busyCount f.templateId := by
  rw [tallied.busy, List.countP_pos_iff]
  exact ⟨f.kind, List.mem_map_of_mem (Arena.mem_values found), by simp [Fact.kind]⟩

omit [JoinNetwork N] in
theorem Tallied.length_fields (tallied : s.Tallied) (found : s.get? h = some f) :
    f.fields.length = f.template.arity :=
  tallied.filled f.kind (List.mem_map_of_mem (Arena.mem_values found))

end Store

end FactBase

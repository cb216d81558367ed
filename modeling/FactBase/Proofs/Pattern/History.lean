import FactBase.Proofs.Pattern.Route

/-!
# Pattern trees and what was added to them

A ledger lists the live entries with their patterns. Whatever was added, removed and replayed, the
routes of a tree are the compiled patterns of its ledger, one each, and its nodes are sound and
settled.
-/

namespace FactBase.PatternTree
open PatternNode

/-- The live entries and their patterns, in the order in which they were added. -/
abbrev Ledger := List (EntryId × Pattern)

/-- Whether the facts asserted before an entry were replayed into it. -/
def IsInitialized (t : PatternTree) (id : EntryId) : Prop :=
  (t.entryOf? id).any (·.initialized) = true

/-- The routes of patterns that constrain no slot, and those below the root. -/
def allRoutes (t : PatternTree) : List Route := t.rootEntries.map ([], ·) ++ routesAll t.roots

structure Keeps (t : PatternTree) (ps : Ledger) : Prop where
  sound : SoundAll t.roots
  settled : ∀ n ∈ t.roots, Settled t.IsInitialized n
  /-- Each pattern compiles, and its path is the one route of its entry. -/
  routed : (t.allRoutes.map fun r => (Except.ok r.1, r.2)).Perm
    (ps.map fun x => (compile t.template x.2, x.1))
  listed : t.entries.map (·.id) = ps.map (·.1)
  distinct : (ps.map (·.1)).Nodup

/-- The trees of a template that changes lead to. An entry is added under a new number. -/
inductive Reached (template : Template) (threshold : Nat) : PatternTree → Ledger → Prop
  | empty : Reached template threshold { template, threshold } []
  | add {t t' : PatternTree} {ps : Ledger} {id : EntryId} {label : String} {p : Pattern}
      (before : Reached template threshold t ps) (new : t.entryOf? id = none)
      (added : t.add id label p = .ok t') : Reached template threshold t' (ps ++ [(id, p)])
  | remove {t t' : PatternTree} {ps : Ledger} {id : EntryId}
      (before : Reached template threshold t ps) (removed : t.remove id = .ok t') :
      Reached template threshold t' (ps.filter (·.1 != id))
  | record {t : PatternTree} {ps : Ledger} (before : Reached template threshold t ps)
      (fact : Handle) : Reached template threshold (t.recordReplayed fact) ps
  | mark {t : PatternTree} {ps : Ledger} (before : Reached template threshold t ps) :
      Reached template threshold t.markInitialized ps

theorem add_eq_ok {t t' : PatternTree} {id : EntryId} {label : String} {p : Pattern}
    (h : t.add id label p = .ok t') : ∃ path, compile t.template p = .ok path ∧
      t' = { t with
        roots := insertPath t.threshold id path t.roots
        rootEntries := if path.isEmpty then t.rootEntries ++ [id] else t.rootEntries
        entries := t.entries ++ [{ id, label }] } := by
  unfold add at h
  cases hc : compile t.template p with
  | error e => rw [hc] at h; cases h
  | ok path =>
    rw [hc] at h
    exact ⟨path, rfl, (Except.ok.inj h).symm⟩

theorem remove_eq_ok {t t' : PatternTree} {id : EntryId} (h : t.remove id = .ok t') :
    t' = { t with
      roots := pruneAll id t.roots
      rootEntries := t.rootEntries.filter (· != id)
      entries := t.entries.filter (·.id != id) } := by
  unfold remove at h
  split at h
  · exact (Except.ok.inj h).symm
  · cases h

theorem entryOf?_eq_none_iff {t : PatternTree} {id : EntryId} :
    t.entryOf? id = none ↔ id ∉ t.entries.map (·.id) := by
  simp only [entryOf?, List.find?_eq_none, List.mem_map, beq_iff_eq]
  constructor
  · rintro h ⟨e, he, hid⟩
    exact h e he hid
  · intro h e he hid
    exact h ⟨e, he, hid⟩

theorem entryOf?_filter {t : PatternTree} {id e : EntryId} (other : e ≠ id) :
    (t.entries.filter (·.id != id)).find? (·.id == e) = t.entryOf? e := by
  rw [entryOf?, List.find?_filter]
  congr 1
  funext x
  by_cases hx : x.id = e
  · simp [hx, other]
  · simp [hx]

theorem keeps_empty (template : Template) (threshold : Nat) :
    Keeps { template, threshold } [] where
  sound := ⟨List.nodup_nil, by simp⟩
  settled := by simp
  routed := by simp [allRoutes]
  listed := rfl
  distinct := List.nodup_nil

/-- The path of a new entry is one route more; where the pattern constrains nothing, an empty
one at the root. -/
theorem allRoutes_add {t : PatternTree} (id : EntryId) (label : String) (path : List PathStep)
    (sound : SoundAll t.roots) :
    allRoutes { t with
        roots := insertPath t.threshold id path t.roots
        rootEntries := if path.isEmpty then t.rootEntries ++ [id] else t.rootEntries
        entries := t.entries ++ [{ id, label }] } |>.Perm ((path, id) :: t.allRoutes) := by
  cases path with
  | nil =>
    simp only [allRoutes, insertPath, List.isEmpty_nil, if_true, List.map_append, List.map_cons,
      List.map_nil, List.append_assoc, List.singleton_append]
    exact List.perm_middle
  | cons step rest =>
    simp only [allRoutes, List.isEmpty_cons, Bool.false_eq_true, if_false]
    exact ((routesAll_insertPath (List.cons_ne_nil step rest) sound).append_left _).trans
      List.perm_middle

theorem Keeps.add {t t' : PatternTree} {ps : Ledger} {id : EntryId} {label : String} {p : Pattern}
    (h : t.Keeps ps) (new : t.entryOf? id = none) (added : t.add id label p = .ok t') :
    t'.Keeps (ps ++ [(id, p)]) := by
  obtain ⟨path, compiled, rfl⟩ := add_eq_ok added
  have unlisted := h.listed ▸ entryOf?_eq_none_iff.mp new
  constructor
  · exact soundAll_insertPath t.threshold id path h.sound
  · refine settled_insertPath fun n hn => (h.settled n hn).mono fun r _ hr => ?_
    simp only [IsInitialized, entryOf?, List.find?_append] at hr ⊢
    cases hf : t.entries.find? (·.id == r.2) with
    | none => simp [hf] at hr
    | some e => simpa [hf] using hr
  · refine ((allRoutes_add id label path h.sound).map _).trans ?_
    rw [List.map_append, List.map_cons, List.map_cons, compiled]
    exact (h.routed.cons _).trans (List.perm_append_singleton _ _).symm
  · simp [h.listed]
  · rw [List.map_append]
    exact List.nodup_append'.mpr ⟨h.distinct, List.nodup_singleton _, by simpa using unlisted⟩

theorem Keeps.remove {t t' : PatternTree} {ps : Ledger} {id : EntryId} (h : t.Keeps ps)
    (removed : t.remove id = .ok t') : t'.Keeps (ps.filter (·.1 != id)) := by
  have ht := remove_eq_ok removed
  have routes : allRoutes t' = t.allRoutes.filter (·.2 != id) := by
    rw [ht, allRoutes, allRoutes, routesAll_pruneAll, List.filter_append, List.filter_map]
    rfl
  subst ht
  constructor
  · exact soundAll_pruneAll id h.sound
  · intro n hn
    refine (settled_pruneAll id h.settled n hn).mono fun r hr hi => ?_
    have other : r.2 ≠ id := by
      have hr := mem_routesAll.mpr ⟨n, hn, hr⟩
      rw [routesAll_pruneAll] at hr
      simpa using (List.mem_filter.mp hr).2
    rw [IsInitialized, entryOf?]
    exact (entryOf?_filter other).symm ▸ hi
  · rw [routes]
    have filtered := h.routed.filter (·.2 != id)
    rw [List.filter_map, List.filter_map] at filtered
    exact filtered
  · rw [show (t.entries.filter (·.id != id)).map (·.id) =
      (t.entries.map (·.id)).filter (· != id) by rw [List.filter_map]; rfl, h.listed,
      List.filter_map]
    rfl
  · exact h.distinct.sublist (List.filter_sublist.map _)

theorem Keeps.mark {t : PatternTree} {ps : Ledger} (h : t.Keeps ps) :
    t.markInitialized.Keeps ps := by
  have routes : t.markInitialized.allRoutes = t.allRoutes := by
    rw [markInitialized, allRoutes, allRoutes, routesAll_initializeNodes]
  have live : ∀ r ∈ t.allRoutes, t.markInitialized.IsInitialized r.2 := by
    intro r hr
    have hr := h.routed.mem_iff.mp (List.mem_map.mpr ⟨r, hr, rfl⟩)
    obtain ⟨x, hx, hpair⟩ := List.mem_map.mp hr
    have hid : r.2 ∈ t.entries.map (·.id) := by
      rw [h.listed, ← congrArg Prod.snd hpair]
      exact List.mem_map.mpr ⟨x, hx, rfl⟩
    rw [IsInitialized, Option.any_eq_true_iff_get]
    have found : (t.markInitialized.entryOf? r.2).isSome = true := by
      rw [Option.isSome_iff_ne_none, ne_eq, entryOf?_eq_none_iff]
      simpa [markInitialized, List.map_map, Function.comp_def] using hid
    refine ⟨found, ?_⟩
    have hmem := List.mem_of_find?_eq_some (Option.some_get found).symm
    obtain ⟨e, _, he⟩ := List.mem_map.mp hmem
    rw [← he]
  constructor
  · exact soundAll_initializeNodes h.sound
  · intro n hn
    refine settled_of_all fun r hr => live r ?_
    rw [← routes]
    exact List.mem_append_right _ (mem_routesAll.mpr ⟨n, hn, hr⟩)
  · rw [routes]
    exact h.routed
  · simpa [markInitialized, List.map_map, Function.comp_def] using h.listed
  · exact h.distinct

/-- No entry ends two routes. -/
theorem Keeps.nodup_entries {t : PatternTree} {ps : Ledger} (h : t.Keeps ps) :
    (t.allRoutes.map (·.2)).Nodup := by
  have entries := h.routed.map (·.2)
  rw [List.map_map, List.map_map] at entries
  exact entries.nodup_iff.mpr h.distinct

/-- Whatever changes a tree has seen, it holds exactly the patterns of its ledger. -/
theorem Reached.keeps {template : Template} {threshold : Nat} {t : PatternTree} {ps : Ledger}
    (h : Reached template threshold t ps) : t.Keeps ps := by
  induction h with
  | empty => exact keeps_empty template threshold
  | add _ new added ih => exact ih.add new added
  | remove _ removed ih => exact ih.remove removed
  | record _ fact ih => exact ⟨ih.sound, ih.settled, ih.routed, ih.listed, ih.distinct⟩
  | mark _ ih => exact ih.mark

theorem Reached.template_eq {template : Template} {threshold : Nat} {t : PatternTree}
    {ps : Ledger} (h : Reached template threshold t ps) : t.template = template := by
  induction h with
  | empty => rfl
  | add _ _ added ih =>
    obtain ⟨_, _, rfl⟩ := add_eq_ok added
    exact ih
  | remove _ removed ih =>
    rw [remove_eq_ok removed]
    exact ih
  | record _ _ ih => exact ih
  | mark _ ih => exact ih

end FactBase.PatternTree

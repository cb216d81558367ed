import FactBase.Proofs.Store.Breaking
import FactBase.Proofs.Store.Templates
import FactBase.Proofs.Store.Total

/-!
# What a collection does

A collection frees the garbage that nobody holds and leaves all else where it is, provided that
every atom such facts claim is still installed that often. Otherwise it breaks off over the first
atom that is not. It is set off by the length of the garbage list, and what is left then is pinned.
-/

namespace FactBase.Store

variable {N : Type} {s s' : Store N} {h : Handle} {f : Fact} {hs : List Handle} {n : Nat}

/-- Whether a fact is garbage that nobody holds. -/
def isReclaimable (s : Store N) (h : Handle) : Bool :=
  (s.get? h).any fun f => f.isGarbage && f.busy == 0

/-- The atoms that are given back when the reclaimable ones of some facts go. -/
def duesOf (s : Store N) (hs : List Handle) : List Atom :=
  (hs.filter s.isReclaimable).flatMap fun h => (s.get? h).elim [] Fact.claims

/-- Every atom is installed at least as often as garbage that nobody holds is to give it back. -/
def Solvent (s : Store N) : Prop :=
  ∀ a, (s.duesOf s.garbage).count a ≤ s.atoms.installs a

theorem isReclaimable_of_found (found : s.get? h = some f) :
    s.isReclaimable h = (f.isGarbage && f.busy == 0) := by
  rw [isReclaimable, found, Option.any_some]

theorem isReclaimable_congr (same : s'.get? h = s.get? h) :
    s'.isReclaimable h = s.isReclaimable h := by
  rw [isReclaimable, isReclaimable, same]

theorem duesOf_congr (same : ∀ k ∈ hs, s'.get? k = s.get? k) : s'.duesOf hs = s.duesOf hs := by
  have reclaimable : hs.filter s'.isReclaimable = hs.filter s.isReclaimable :=
    List.filter_congr fun k inside => isReclaimable_congr (same k inside)
  rw [duesOf, duesOf, reclaimable]
  refine List.flatMap_congr fun k inside => ?_
  rw [same k (List.mem_of_mem_filter inside)]

/-- A reclaimable fact gives back what it claims. -/
theorem duesOf_cons_of_reclaimable (found : s.get? h = some f)
    (reclaimable : s.isReclaimable h = true) : s.duesOf (h :: hs) = f.claims ++ s.duesOf hs := by
  rw [duesOf, List.filter_cons_of_pos reclaimable, List.flatMap_cons, found]
  rfl

theorem duesOf_cons_of_held (held : s.isReclaimable h = false) :
    s.duesOf (h :: hs) = s.duesOf hs := by
  rw [duesOf, List.filter_cons_of_neg (Bool.eq_false_iff.mp held)]
  rfl

/-! ### One fact after the other -/

theorem installs_free (tidy : s.facts.Tidy) (found : s.get? h = some f)
    (done : s.free h = .ok s') (a : Atom) :
    s'.atoms.installs a + f.claims.count a = s.atoms.installs a := by
  obtain ⟨f', facts, atoms, templates, removed, given, -, rfl⟩ := free_eq_ok done
  obtain rfl := Option.some.inj (found.symm.trans (Arena.remove?_spec tidy removed).1)
  exact Fact.installs_given given a

/-- Of some facts the reclaimable ones are freed, and the others wait on. -/
structure Reclaims (hs : List Handle) (s : Store N) (n : Nat) (s' : Store N) : Prop where
  count : n = hs.countP s.isReclaimable
  facts : ∀ k, s'.get? k = if k ∈ hs ∧ s.isReclaimable k = true then none else s.get? k
  garbage : s'.garbage = s.garbage ++ hs.filter (!s.isReclaimable ·)
  atoms : ∀ a, s'.atoms.installs a + (s.duesOf hs).count a = s.atoms.installs a
  elsewhere : s' = { s with
    facts := s'.facts, garbage := s'.garbage, atoms := s'.atoms, templates := s'.templates }

namespace Reclaims

theorem nil (s : Store N) : Reclaims [] s 0 s :=
  ⟨rfl, fun k => (if_neg fun inside => by cases inside.1).symm, (List.append_nil _).symm,
    fun _ => rfl, rfl⟩

/-- A reclaimable fact is freed, and the others follow. -/
theorem freed {u : Store N} (tidy : s.facts.Tidy) (found : s.get? h = some f)
    (reclaimable : s.isReclaimable h = true) (absent : h ∉ hs) (done : s.free h = .ok u)
    (rest : Reclaims hs u n s') : Reclaims (h :: hs) s (n + 1) s' := by
  have installs := installs_free tidy found done
  obtain ⟨f', facts, atoms, templates, removed, -, -, rfl⟩ := free_eq_ok done
  obtain ⟨-, -, names⟩ := Arena.remove?_spec tidy removed
  have others (k : Handle) (inside : k ∈ hs) :
      Store.get? { s with facts, atoms, templates } k = s.get? k :=
    (names k).trans (if_neg fun here : k = h => absent (here ▸ inside))
  have same (k : Handle) (inside : k ∈ hs) := isReclaimable_congr (others k inside)
  obtain ⟨count, rest, garbage, left, elsewhere⟩ := rest
  refine ⟨?_, fun k => ?_, ?_, fun a => ?_, ?_⟩
  · rw [count, List.countP_cons_of_pos reclaimable, List.countP_congr fun k inside => by
      rw [same k inside]]
  · rw [rest]
    by_cases inside : k ∈ hs
    · simp only [inside, true_and, List.mem_cons, or_true, same k inside, others k inside]
    · rw [if_neg fun both => inside both.1]
      refine (names k).trans ?_
      by_cases here : k = h
      · rw [if_pos here, if_pos ⟨here ▸ List.mem_cons_self, here ▸ reclaimable⟩]
      · rw [if_neg here, if_neg fun both => (List.mem_cons.mp both.1).elim here inside]
        rfl
  · rw [garbage, List.filter_cons_of_neg (by simp [reclaimable]),
      List.filter_congr fun k inside => by rw [same k inside]]
  · have taken := installs a
    have after := left a
    rw [duesOf_congr others] at after
    rw [duesOf_cons_of_reclaimable found reclaimable, List.count_append]
    omega
  · rw [elsewhere]

/-- A fact that somebody holds is put to the end of the garbage list. -/
theorem held (held : s.isReclaimable h = false)
    (rest : Reclaims hs { s with garbage := s.garbage ++ [h] } n s') :
    Reclaims (h :: hs) s n s' := by
  obtain ⟨count, rest, garbage, installs, elsewhere⟩ := rest
  have apart : ¬ s.isReclaimable h = true := Bool.eq_false_iff.mp held
  refine ⟨?_, fun k => ?_, ?_, fun a => ?_, ?_⟩
  · rw [List.countP_cons_of_neg apart]
    exact count
  · refine (rest k).trans ?_
    by_cases here : k = h
    · subst here
      rw [if_neg fun both => apart both.2, if_neg fun both => apart both.2]
      rfl
    · simp only [List.mem_cons, here, false_or]
      rfl
  · rw [garbage, List.filter_cons_of_pos (by simp [held]), List.append_assoc]
    rfl
  · rw [duesOf_cons_of_held held]
    exact installs a
  · rw [elsewhere]

end Reclaims

theorem reclaims_collectFrom (tidy : s.facts.Tidy) (once : hs.Nodup)
    (garbage : ∀ h ∈ hs, ∃ f, s.get? h = some f ∧ f.isGarbage = true)
    (done : collectFrom hs s = .ok (n, s')) : Reclaims hs s n s' := by
  induction hs generalizing s n with
  | nil =>
    obtain ⟨rfl, rfl⟩ := Prod.mk.inj (Except.ok.inj done)
    exact .nil s
  | cons h rest ih =>
    obtain ⟨f, found, dead⟩ := garbage h List.mem_cons_self
    obtain ⟨absent, once⟩ := List.nodup_cons.mp once
    have reclaimable : s.isReclaimable h = (f.busy == 0) := by
      rw [isReclaimable_of_found found, dead, Bool.true_and]
    unfold collectFrom at done
    simp only [found] at done
    split at done
    · rename_i loose
      obtain ⟨u, freed, done⟩ := bind_eq_ok.mp done
      obtain ⟨⟨m, v⟩, others, done⟩ := bind_eq_ok.mp done
      obtain ⟨rfl, rfl⟩ := Prod.mk.inj (Except.ok.inj done)
      obtain ⟨-, tidy', names⟩ := Collects.free tidy found dead loose freed
      refine .freed tidy found (by rw [reclaimable, loose]; rfl) absent freed
        (ih tidy' once (fun k inside => ?_) others)
      rw [names, if_neg fun here : k = h => absent (here ▸ inside)]
      exact garbage k (List.mem_cons_of_mem h inside)
    · rename_i pinned
      refine .held (by rw [reclaimable]; exact beq_eq_false_iff_ne.mpr pinned)
        (ih tidy once (fun k inside => garbage k (List.mem_cons_of_mem h inside)) done)

/-- Facts can be collected if the atoms they are to give back are installed. -/
theorem collectFrom_of_solvent (tidy : s.facts.Tidy) (tallied : s.Tallied) (once : hs.Nodup)
    (garbage : ∀ h ∈ hs, ∃ f, s.get? h = some f ∧ f.isGarbage = true)
    (solvent : ∀ a, (s.duesOf hs).count a ≤ s.atoms.installs a) :
    ∃ n s', collectFrom hs s = .ok (n, s') := by
  induction hs generalizing s with
  | nil => exact ⟨0, s, rfl⟩
  | cons h rest ih =>
    obtain ⟨f, found, dead⟩ := garbage h List.mem_cons_self
    obtain ⟨absent, once⟩ := List.nodup_cons.mp once
    have reclaimable : s.isReclaimable h = (f.busy == 0) := by
      rw [isReclaimable_of_found found, dead, Bool.true_and]
    unfold collectFrom
    simp only [found]
    split
    · rename_i loose
      have dues : s.duesOf (h :: rest) = f.claims ++ s.duesOf rest :=
        duesOf_cons_of_reclaimable found (by rw [reclaimable, loose]; rfl)
      simp only [dues, List.count_append] at solvent
      obtain ⟨u, freed⟩ := free_total tallied found
        fun a => Nat.le_trans (Nat.le_add_right _ _) (solvent a)
      obtain ⟨-, tidy', names⟩ := Collects.free tidy found dead loose freed
      have others (k : Handle) (inside : k ∈ rest) : u.get? k = s.get? k :=
        (names k).trans (if_neg fun here : k = h => absent (here ▸ inside))
      obtain ⟨n, s', collected⟩ := ih tidy' (tallied.free freed) once
        (fun k inside => by
          rw [others k inside]
          exact garbage k (List.mem_cons_of_mem h inside))
        fun a => by
          have taken := installs_free tidy found freed a
          have enough := solvent a
          rw [duesOf_congr others]
          omega
      refine ⟨n + 1, s', ?_⟩
      simp only [freed, collected, bind, Except.bind]
    · rename_i pinned
      have dues : s.duesOf (h :: rest) = s.duesOf rest :=
        duesOf_cons_of_held (by rw [reclaimable]; exact beq_eq_false_iff_ne.mpr pinned)
      rw [dues] at solvent
      exact ih (s := { s with garbage := s.garbage ++ [h] }) tidy
        (tallied.sameStock ⟨rfl, rfl, rfl⟩) once
        (fun k inside => garbage k (List.mem_cons_of_mem h inside)) solvent

theorem breaksOver_free_atoms (tallied : s.Tallied) (found : s.get? h = some f) :
    BreaksOver (·.ofAtoms = true) (s.free h) := by
  obtain ⟨-, templates, counted⟩ := TemplateRegistry.counted_of_busy (tallied.busy_pos found)
  obtain ⟨facts, removed⟩ : ∃ facts, s.facts.remove? h = some (f, facts) := by
    rw [Arena.remove?, show s.facts.get? h = some f from found]
    exact ⟨_, rfl⟩
  unfold free
  rw [removed]
  dsimp only
  rw [counted]
  split
  · exact breaksOver_ok _
  · refine BreaksOver.bind ?_ fun _ _ => breaksOver_ok _
    exact breaksOver_foldlM (AtomTable.breaksOver_deinstall fun _ => id) _ _

/-- What cannot be collected breaks off over an atom that is not installed. -/
theorem breaksOver_collectFrom_atoms (tidy : s.facts.Tidy) (tallied : s.Tallied) (once : hs.Nodup)
    (garbage : ∀ h ∈ hs, ∃ f, s.get? h = some f ∧ f.isGarbage = true) :
    BreaksOver (·.ofAtoms = true) (collectFrom hs s) := by
  induction hs generalizing s with
  | nil => exact breaksOver_ok _
  | cons h rest ih =>
    obtain ⟨f, found, dead⟩ := garbage h List.mem_cons_self
    obtain ⟨absent, once⟩ := List.nodup_cons.mp once
    unfold collectFrom
    simp only [found]
    split
    · rename_i loose
      refine (breaksOver_free_atoms tallied found).bind fun u freed => ?_
      obtain ⟨-, tidy', names⟩ := Collects.free tidy found dead loose freed
      refine (ih tidy' (tallied.free freed) once fun k inside => ?_).bind fun _ _ => breaksOver_ok _
      rw [names, if_neg fun here : k = h => absent (here ▸ inside)]
      exact garbage k (List.mem_cons_of_mem h inside)
    · exact ih (s := { s with garbage := s.garbage ++ [h] }) tidy
        (tallied.sameStock ⟨rfl, rfl, rfl⟩) once
        fun k inside => garbage k (List.mem_cons_of_mem h inside)

/-! ### Collecting all garbage -/

/-- What a collection does: it frees the garbage that nobody holds, and leaves all other facts and
the order of the garbage list as they are. Apart from facts it takes back atoms and busy counts of
templates, and it counts what it did. -/
structure Collected (s s' : Store N) : Prop where
  facts : ∀ h, s'.get? h = if s.isReclaimable h = true then none else s.get? h
  garbage : s'.garbage = s.garbage.filter (!s.isReclaimable ·)
  order : s'.order = s.order
  templateFacts : ∀ t, s'.templateFacts t = s.templateFacts t
  roster : TemplateRegistry.SameRoster s.templates s'.templates
  elsewhere : s' = { s with
    facts := s'.facts, garbage := s'.garbage, atoms := s'.atoms, templates := s'.templates
    counters := { s.counters with
      reclaimed := s.counters.reclaimed + s.garbage.countP s.isReclaimable
      gcRuns := s.counters.gcRuns + 1 } }

/-- The garbage list holds what is reclaimable. -/
theorem mem_garbage_of_reclaimable (sound : s.Sound) (reclaimable : s.isReclaimable h = true) :
    h ∈ s.garbage := by
  obtain ⟨f, found, loose⟩ := (Option.any_eq_true _ _).mp reclaimable
  exact (sound.garbage h).mpr ⟨f, found, (Bool.and_eq_true_iff.mp loose).1⟩

/-- A collection that comes to an end frees what is reclaimable, and the atoms were there. -/
theorem collected_collectGarbage (sound : s.Sound) (unguarded : s.guarded = false)
    (done : s.collectGarbage = .ok (n, s')) :
    n = s.garbage.countP s.isReclaimable ∧ Collected s s' ∧ s.Solvent := by
  have order := (collects_collectGarbage sound done).order sound.toConsistent
  have templateFacts := (collects_collectGarbage sound done).templateFacts sound.toConsistent
  have roster := sameRoster_collectGarbage done
  unfold collectGarbage at done
  rw [if_neg (Bool.eq_false_iff.mp unguarded)] at done
  obtain ⟨⟨m, u⟩, collected, done⟩ := bind_eq_ok.mp done
  obtain ⟨rfl, rfl⟩ := Prod.mk.inj (Except.ok.inj done)
  obtain ⟨count, facts, garbage, atoms, elsewhere⟩ := reclaims_collectFrom
    (s := { s with garbage := [] }) sound.tidy sound.garbageOnce
    (fun h => (sound.garbage h).mp) collected
  refine ⟨count, ⟨fun k => ?_, garbage, order, templateFacts, roster, ?_⟩, fun a => ?_⟩
  · refine (facts k).trans ?_
    by_cases reclaimable : s.isReclaimable k = true
    · rw [if_pos reclaimable, if_pos ⟨mem_garbage_of_reclaimable sound reclaimable, reclaimable⟩]
    · rw [if_neg reclaimable, if_neg fun both => reclaimable both.2]
      rfl
  · rw [elsewhere, count]
    rfl
  · have left := atoms a
    change u.atoms.installs a + (s.duesOf s.garbage).count a = s.atoms.installs a at left
    omega

/-- A collection comes to an end as long as the atoms are installed that it is to take back. -/
theorem collectGarbage_of_solvent (sound : s.Sound) (tallied : s.Tallied) (solvent : s.Solvent) :
    ∃ n s', s.collectGarbage = .ok (n, s') := by
  unfold collectGarbage
  split
  · exact ⟨0, s, rfl⟩
  · obtain ⟨n, u, collected⟩ := collectFrom_of_solvent (s := { s with garbage := [] }) sound.tidy
      (tallied.sameStock ⟨rfl, rfl, rfl⟩) sound.garbageOnce (fun h => (sound.garbage h).mp) solvent
    rw [collected]
    exact ⟨_, _, rfl⟩

theorem breaksOver_collectGarbage_atoms (sound : s.Sound) (tallied : s.Tallied) :
    BreaksOver (·.ofAtoms = true) s.collectGarbage := by
  unfold collectGarbage
  split
  · exact breaksOver_ok _
  · exact (breaksOver_collectFrom_atoms (s := { s with garbage := [] }) sound.tidy
      (tallied.sameStock ⟨rfl, rfl, rfl⟩) sound.garbageOnce fun h => (sound.garbage h).mp).bind
      fun _ _ => breaksOver_ok _

/-! ### Collecting once enough waits -/

/-- Fewer facts wait than set off a collection, or somebody holds each of them. -/
def Swept (s : Store N) : Prop :=
  0 < s.config.gcThreshold → s.garbage.length < s.config.gcThreshold ∨
    ∀ h ∈ s.garbage, ∃ f, s.get? h = some f ∧ 0 < f.busy

/-- Only what somebody holds is left of garbage that was collected. -/
theorem Collected.held (collected : Collected s s') (sound : s.Sound) :
    ∀ h ∈ s'.garbage, ∃ f, s'.get? h = some f ∧ 0 < f.busy := by
  intro h inside
  rw [collected.garbage] at inside
  obtain ⟨waiting, held⟩ := List.mem_filter.mp inside
  obtain ⟨f, found, dead⟩ := (sound.garbage h).mp waiting
  have apart : s.isReclaimable h = false := (Bool.not_eq_true' _).mp held
  refine ⟨f, ?_, ?_⟩
  · rw [collected.facts, if_neg (Bool.eq_false_iff.mp apart)]
    exact found
  · rw [isReclaimable_of_found found, dead, Bool.true_and] at apart
    exact Nat.pos_iff_ne_zero.mpr (beq_eq_false_iff_ne.mp apart)

/-- Once it is looked whether enough waits while the guard is free, enough does not wait. -/
theorem swept_maybeCollect (sound : s.Sound) (unguarded : s.guarded = false)
    (done : s.maybeCollect = .ok s') : s'.Swept := by
  unfold maybeCollect at done
  split at done
  · obtain ⟨⟨n, u⟩, collected, rfl⟩ := map_eq_ok.mp done
    exact fun _ => .inr ((collected_collectGarbage sound unguarded collected).2.1.held sound)
  · rename_i few
    obtain rfl := Except.ok.inj done
    exact fun positive => .inl (Nat.lt_of_not_le fun many => few ⟨positive, many⟩)

/-- It does not matter to what waits when an unattached fact goes. -/
theorem Swept.free (swept : s.Swept) (sound : s.Sound) (found : s.get? h = some f)
    (unattached : f.isUnattached = true) (done : s.free h = .ok s') : s'.Swept := by
  obtain ⟨f', facts, atoms, templates, removed, -, -, rfl⟩ := free_eq_ok done
  obtain ⟨-, -, names⟩ := Arena.remove?_spec sound.tidy removed
  refine fun positive => (swept positive).imp id fun pinned k inside => ?_
  obtain ⟨g, waiting, held⟩ := pinned k inside
  obtain ⟨g', waiting', dead⟩ := (sound.garbage k).mp inside
  have other : k ≠ h := by
    rintro rfl
    rw [Option.some.inj (waiting'.symm.trans found)] at dead
    exact absurd dead (Bool.eq_false_iff.mp (Fact.isUnattached_iff.mp unattached).2)
  exact ⟨g, (names k).trans ((if_neg other).trans waiting), held⟩

end FactBase.Store

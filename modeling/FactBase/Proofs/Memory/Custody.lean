import FactBase.Proofs.Memory.Records

/-!
# Custody of matches

A join network hands out a name for every match, and the fact base hands the names back when the
matches are withdrawn. A network is a custodian if no name is given twice and whatever was given and
not handed back is taken back without a breach. It may still refuse, as long as it says so.
-/

namespace FactBase

/-- `Answers n h id` says that `n` keeps `id` as a match of `h`; `Valid` is what a network needs to go
on doing so. -/
class Custodian (N : Type) [JoinNetwork N] where
  Valid : N → Prop
  Answers : N → Handle → MatchId → Prop
  push (a : AlphaMatch) {n : N} : Valid n →
    Valid (JoinNetwork.push a n).2 ∧
      Answers (JoinNetwork.push a n).2 a.fact (JoinNetwork.push a n).1 ∧
      (∀ h, ¬ Answers n h (JoinNetwork.push a n).1) ∧
      ∀ h id, Answers n h id → Answers (JoinNetwork.push a n).2 h id
  retract {h : Handle} {ids : List MatchId} {n : N} : Valid n → ids.Nodup →
    (∀ id ∈ ids, Answers n h id) →
    ∃ refusal n', JoinNetwork.retract h ids n = .ok (refusal, n') ∧ Valid n' ∧
      ∀ k id, Answers n k id → ¬ (k = h ∧ id ∈ ids) → Answers n' k id

/-- Whoever only numbers matches answers for every number given. -/
instance : Custodian MatchCounter where
  Valid _ := True
  Answers n _ id := id.number ≤ n.issued
  push _ n _ := ⟨trivial, Nat.le_refl _, fun _ => Nat.not_succ_le_self n.issued,
    fun _ _ => Nat.le_succ_of_le⟩
  retract {_ _ n} _ _ _ := ⟨none, n, rfl, trivial, fun _ _ answers _ => answers⟩

instance : Custodian LockedNetwork where
  Valid _ := True
  Answers n _ id := id.number ≤ n.pushed
  push _ n _ := ⟨trivial, Nat.le_refl _, fun _ => Nat.not_succ_le_self n.pushed,
    fun _ _ => Nat.le_succ_of_le⟩
  retract {h ids n} _ _ _ := by
    by_cases refuses : n.refuses h = true
    · exact ⟨_, _, if_pos refuses, trivial, fun _ _ answers _ => answers⟩
    · exact ⟨_, _, if_neg refuses, trivial, fun _ _ answers _ => answers⟩

namespace AlphaMemory

variable {m m' : AlphaMemory} {h : Handle}

/-- A memory answers for the matches it has records of. -/
def Answers (m : AlphaMemory) (h : Handle) (id : MatchId) : Prop :=
  ∃ r ∈ m.records, r.id = id ∧ r.fact = h

theorem Sound.push (sound : m.Sound) (a : AlphaMatch) : (m.push a).2.Sound := by
  obtain ⟨records, id, issued⟩ := records_push a m
  constructor
  · rw [records, List.map_append]
    refine List.nodup_append'.mpr ⟨sound.once, List.nodup_singleton _, ?_⟩
    intro x old new
    obtain ⟨r, hr, rfl⟩ := List.mem_map.mp old
    have number : r.id = ⟨m.issued + 1⟩ := (List.mem_singleton.mp new).trans id
    have before := sound.issued r hr
    rw [number] at before
    exact Nat.not_succ_le_self _ before
  · intro r hr
    rw [issued]
    rw [records] at hr
    rcases List.mem_append.mp hr with old | new
    · exact Nat.le_succ_of_le (sound.issued r old)
    · exact Nat.le_of_eq (List.mem_singleton.mp new ▸ id ▸ rfl)

/-- Records of a fact can be taken back. -/
theorem Sound.retract_total (sound : m.Sound) {ids : List MatchId} (once : ids.Nodup)
    (answered : ∀ id ∈ ids, m.Answers h id) : ∃ m', m.retract h ids = .ok m' := by
  have each {ids : List MatchId} {m : AlphaMemory} (sound : m.Sound) (once : ids.Nodup)
      (answered : ∀ id ∈ ids, m.Answers h id) :
      ∃ m', ids.foldlM (AlphaMemory.retractOne h) m = .ok m' := by
    induction ids generalizing m with
    | nil => exact ⟨m, rfl⟩
    | cons id rest ih =>
      obtain ⟨r, hr, number, fact⟩ := answered id List.mem_cons_self
      have found : m.records.find? (·.id == id) = some r :=
        find?_eq_some_of_nodup sound.once hr number
      obtain ⟨u, taken⟩ : ∃ u, m.retractOne h id = .ok u := by
        unfold AlphaMemory.retractOne
        rw [found]
        exact ⟨_, if_pos fact⟩
      obtain ⟨sound', records, -⟩ := sound.retractOne taken
      obtain ⟨absent, once⟩ := List.nodup_cons.mp once
      obtain ⟨m', done⟩ := ih sound' once fun other ho => by
        obtain ⟨r', hr', number', fact'⟩ := answered other (List.mem_cons_of_mem id ho)
        have apart : r'.id ≠ id := fun same => absent (same ▸ number' ▸ ho)
        exact ⟨r', records ▸ List.mem_filter.mpr ⟨hr', bne_iff_ne.mpr apart⟩, number', fact'⟩
      refine ⟨m', ?_⟩
      rw [List.foldlM_cons, taken]
      exact done
  have counted : Sound { m with retractions := m.retractions + 1 } := ⟨sound.once, sound.issued⟩
  exact each counted once answered

/-- Taking back matches of a fact leaves all others. -/
theorem Sound.answers_retract (sound : m.Sound) {ids : List MatchId}
    (answered : ∀ id ∈ ids, m.Answers h id) (done : m.retract h ids = .ok m') {k : Handle}
    {id : MatchId} (answers : m.Answers k id) (other : ¬ (k = h ∧ id ∈ ids)) : m'.Answers k id := by
  obtain ⟨-, records, -⟩ := sound.retract done
  obtain ⟨r, hr, number, fact⟩ := answers
  refine ⟨r, records ▸ List.mem_filter.mpr ⟨hr, ?_⟩, number, fact⟩
  rw [Bool.not_eq_true', Bool.eq_false_iff, ne_eq, List.contains_iff_mem]
  intro taken
  obtain ⟨r', hr', number', fact'⟩ := answered r.id taken
  have same := List.inj_on_of_nodup_map sound.once hr' hr number'
  exact other ⟨fact.symm.trans (same ▸ fact'), number ▸ taken⟩

instance : Custodian AlphaMemory where
  Valid := Sound
  Answers := Answers
  push a m sound := by
    obtain ⟨records, id, -⟩ := records_push a m
    refine ⟨sound.push a, ?_, ?_, ?_⟩
    · refine ⟨⟨(m.push a).1, a.fact, a.index, a.entry, a.markers⟩, ?_, rfl, rfl⟩
      exact records ▸ List.mem_append_right _ (List.mem_singleton_self _)
    · rintro h ⟨r, hr, number, -⟩
      have before := sound.issued r hr
      rw [number.trans id] at before
      exact Nat.not_succ_le_self _ before
    · rintro h x ⟨r, hr, rest⟩
      exact ⟨r, records ▸ List.mem_append_left _ hr, rest⟩
  retract {h ids m} sound once answered := by
    obtain ⟨m', done⟩ := sound.retract_total once answered
    refine ⟨none, m', ?_, (sound.retract done).1, fun k id answers other =>
      sound.answers_retract answered done answers other⟩
    exact map_eq_ok.mpr ⟨m', done, rfl⟩

end AlphaMemory

namespace Store

variable {N : Type} [JoinNetwork N] [Custodian N] {n : N}

/-- Matches that a network took: it answers for them, did not before, and still answers for all
others. -/
structure Taken (h : Handle) (ids : List MatchId) (n n' : N) : Prop where
  valid : Custodian.Valid n'
  once : ids.Nodup
  answered : ∀ id ∈ ids, Custodian.Answers n' h id
  new : ∀ id ∈ ids, ∀ k, ¬ Custodian.Answers n k id
  kept : ∀ k id, Custodian.Answers n k id → Custodian.Answers n' k id

theorem taken_deliverAll (valid : Custodian.Valid n) (h : Handle) (f : Fact) (ds : List Delivery) :
    Taken h (deliverAll h f ds n).1.ids n (deliverAll h f ds n).2 := by
  induction ds generalizing n with
  | nil => exact ⟨valid, List.nodup_nil, by simp [deliverAll], by simp [deliverAll], fun _ _ => id⟩
  | cons d ds ih =>
    cases d with
    | failed test => exact { ih valid with }
    | matched entry markers =>
      let a : AlphaMatch := ⟨h, f.index, entry, f.values, markers⟩
      obtain ⟨valid', answers, new, kept⟩ := Custodian.push a valid
      have rest := ih valid'
      have ids : (deliverAll h f (.matched entry markers :: ds) n).1.ids =
          (JoinNetwork.push a n).1 :: (deliverAll h f ds (JoinNetwork.push a n).2).1.ids := rfl
      have network : (deliverAll h f (.matched entry markers :: ds) n).2 =
          (deliverAll h f ds (JoinNetwork.push a n).2).2 := rfl
      rw [ids, network]
      refine ⟨rest.valid, List.nodup_cons.mpr ⟨fun again => ?_, rest.once⟩, fun id hid => ?_,
        fun id hid k answered => ?_, fun k id answered => rest.kept k id (kept k id answered)⟩
      · exact rest.new _ again h answers
      · rcases List.mem_cons.mp hid with rfl | later
        · exact rest.kept h _ answers
        · exact rest.answered id later
      · rcases List.mem_cons.mp hid with rfl | later
        · exact new k answered
        · exact rest.new id later k (kept k id answered)

end Store

end FactBase

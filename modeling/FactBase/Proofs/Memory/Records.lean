import FactBase.AlphaMemory
import FactBase.Proofs.Basic
import FactBase.Proofs.Pattern.Matching

/-!
# What an alpha memory remembers

The records of a memory are the matches pushed and not retracted, each under a number of its own.
-/

namespace FactBase

namespace AlphaMemory

/-- Numbers are given once and in order. -/
structure Sound (m : AlphaMemory) : Prop where
  once : (m.records.map (·.id)).Nodup
  issued : ∀ r ∈ m.records, r.id.number ≤ m.issued

/-- The matches of an entry that a fact takes part in: its index and the markers. -/
def held (m : AlphaMemory) (e : EntryId) (h : Handle) : List (Nat × List Marker) :=
  ((m.matchesOf e).filter (·.fact == h)).map fun r => (r.index, r.markers)

/-- The records of matches that are pushed in a row. -/
def recordsFrom : Nat → List AlphaMatch → List MatchRecord
  | _, [] => []
  | issued, a :: rest =>
    ⟨⟨issued + 1⟩, a.fact, a.index, a.entry, a.markers⟩ :: recordsFrom (issued + 1) rest

variable {m m' : AlphaMemory}

theorem records_ensure (m : AlphaMemory) (e : EntryId) :
    (m.ensure e).records = m.records ∧ (m.ensure e).issued = m.issued := by
  unfold ensure
  split <;> exact ⟨rfl, rfl⟩

theorem records_push (a : AlphaMatch) (m : AlphaMemory) :
    (m.push a).2.records = m.records ++ [⟨(m.push a).1, a.fact, a.index, a.entry, a.markers⟩] ∧
      (m.push a).1 = ⟨m.issued + 1⟩ ∧ (m.push a).2.issued = m.issued + 1 := by
  refine ⟨?_, rfl, ?_⟩
  · change (m.ensure a.entry).records ++ _ = _
    rw [(records_ensure m a.entry).1]
    rfl
  · change (m.ensure a.entry).issued + 1 = _
    rw [(records_ensure m a.entry).2]

theorem lt_of_mem_recordsFrom {issued : Nat} {given : List AlphaMatch} {r : MatchRecord}
    (mem : r ∈ recordsFrom issued given) : issued < r.id.number := by
  induction given generalizing issued with
  | nil => cases mem
  | cons a rest ih =>
    rcases List.mem_cons.mp mem with rfl | later
    · exact Nat.lt_succ_self issued
    · exact Nat.lt_of_succ_lt (ih later)

theorem le_of_mem_recordsFrom {issued : Nat} {given : List AlphaMatch} {r : MatchRecord}
    (mem : r ∈ recordsFrom issued given) : r.id.number ≤ issued + given.length := by
  induction given generalizing issued with
  | nil => cases mem
  | cons a rest ih =>
    rw [List.length_cons]
    rcases List.mem_cons.mp mem with rfl | later
    · exact Nat.add_le_add_left (Nat.le_add_left 1 rest.length) issued
    · have below := ih later
      omega

theorem nodup_recordsFrom (issued : Nat) (given : List AlphaMatch) :
    ((recordsFrom issued given).map (·.id)).Nodup := by
  induction given generalizing issued with
  | nil => exact List.nodup_nil
  | cons a rest ih =>
    rw [recordsFrom, List.map_cons]
    refine List.nodup_cons.mpr ⟨fun again => ?_, ih (issued + 1)⟩
    obtain ⟨r, mem, same⟩ := List.mem_map.mp again
    have later := lt_of_mem_recordsFrom mem
    rw [same] at later
    exact Nat.lt_irrefl _ later

/-! ### Taking back -/

theorem Sound.retractOne (sound : m.Sound) {fact : Handle} {id : MatchId}
    (done : m.retractOne fact id = .ok m') :
    m'.Sound ∧ m'.records = m.records.filter (·.id != id) ∧ m'.issued = m.issued := by
  have records : m'.records = m.records.filter (·.id != id) ∧ m'.issued = m.issued := by
    unfold AlphaMemory.retractOne at done
    split at done
    · cases done
    · split at done
      · obtain rfl := Except.ok.inj done
        exact ⟨eraseP_eq_filter_of_nodup sound.once id, rfl⟩
      · cases done
  refine ⟨⟨?_, fun r hr => ?_⟩, records⟩
  · rw [records.1]
    exact sound.once.sublist (List.filter_sublist.map _)
  · rw [records.1] at hr
    rw [records.2]
    exact sound.issued r (List.mem_filter.mp hr).1

/-- Retracting matches leaves all others. -/
theorem Sound.retract (sound : m.Sound) {fact : Handle} {ids : List MatchId}
    (done : m.retract fact ids = .ok m') :
    m'.Sound ∧ m'.records = m.records.filter (fun r => !ids.contains r.id) ∧
      m'.issued = m.issued := by
  have each {ids : List MatchId} {m m' : AlphaMemory} (sound : m.Sound)
      (done : ids.foldlM (AlphaMemory.retractOne fact) m = .ok m') :
      m'.Sound ∧ m'.records = m.records.filter (fun r => !ids.contains r.id) ∧
        m'.issued = m.issued := by
    induction ids generalizing m with
    | nil =>
      obtain rfl := Except.ok.inj done
      exact ⟨sound, (List.filter_eq_self.mpr fun _ _ => rfl).symm, rfl⟩
    | cons id rest ih =>
      rw [List.foldlM_cons] at done
      obtain ⟨u, first, done⟩ := bind_eq_ok.mp done
      obtain ⟨sound, records, issued⟩ := sound.retractOne first
      obtain ⟨sound, records', issued'⟩ := ih sound done
      refine ⟨sound, ?_, issued'.trans issued⟩
      rw [records', records, List.filter_filter]
      refine List.filter_congr fun r _ => ?_
      rw [List.contains_cons, Bool.not_or, Bool.and_comm]
      rfl
  have counted : Sound { m with retractions := m.retractions + 1 } := ⟨sound.once, sound.issued⟩
  have folded : ids.foldlM (AlphaMemory.retractOne fact)
      { m with retractions := m.retractions + 1 } = .ok m' := done
  have result := each counted folded
  exact result

end AlphaMemory

/-! ### Deliveries -/

namespace Store
open AlphaMemory

variable {m : AlphaMemory} {h : Handle} {f : Fact}

/-- The matches delivered are recorded behind all others. -/
theorem deliverAll_records (h : Handle) (f : Fact) (ds : List Delivery) (m : AlphaMemory) :
    let given := ds.filterMap (handed h f)
    (deliverAll h f ds m).2.records = m.records ++ recordsFrom m.issued given ∧
      (deliverAll h f ds m).1.ids = (recordsFrom m.issued given).map (·.id) ∧
      (deliverAll h f ds m).2.issued = m.issued + given.length := by
  induction ds generalizing m with
  | nil => exact ⟨(List.append_nil _).symm, rfl, rfl⟩
  | cons d ds ih =>
    cases d with
    | failed test => exact ih m
    | matched entry markers =>
      let a : AlphaMatch := ⟨h, f.index, entry, f.values, markers⟩
      obtain ⟨records, id, issued⟩ := records_push a m
      obtain ⟨records', ids, issued'⟩ := ih (m.push a).2
      rw [issued] at records' ids issued'
      refine ⟨?_, ?_, ?_⟩
      · refine records'.trans ?_
        rw [records, id, List.append_assoc]
        rfl
      · exact congrArg₂ List.cons id ids
      · refine issued'.trans ?_
        rw [Nat.add_assoc, Nat.add_comm 1]
        rfl

theorem sound_deliverAll (sound : m.Sound) (ds : List Delivery) :
    (deliverAll h f ds m).2.Sound := by
  obtain ⟨records, -, issued⟩ := deliverAll_records h f ds m
  constructor
  · rw [records, List.map_append]
    refine List.nodup_append'.mpr ⟨sound.once, nodup_recordsFrom _ _, ?_⟩
    intro id old new
    obtain ⟨r, hr, rfl⟩ := List.mem_map.mp old
    obtain ⟨r', hr', same⟩ := List.mem_map.mp new
    have later := lt_of_mem_recordsFrom hr'
    have before := sound.issued r hr
    rw [same] at later
    omega
  · intro r hr
    rw [issued]
    rw [records] at hr
    rcases List.mem_append.mp hr with old | new
    · exact Nat.le_add_right_of_le (sound.issued r old)
    · exact le_of_mem_recordsFrom new

/-- Withdrawing what was just delivered leaves the records of before. -/
theorem filter_deliverAll (sound : m.Sound) (ds : List Delivery) :
    (deliverAll h f ds m).2.records.filter
      (fun r => !(deliverAll h f ds m).1.ids.contains r.id) = m.records := by
  obtain ⟨records, ids, -⟩ := deliverAll_records h f ds m
  rw [records, ids, List.filter_append]
  have old : m.records.filter (fun r => !((recordsFrom m.issued
      (ds.filterMap (handed h f))).map (·.id)).contains r.id) = m.records := by
    refine List.filter_eq_self.mpr fun r hr => ?_
    rw [Bool.not_eq_true', Bool.eq_false_iff, ne_eq, List.contains_iff_mem]
    intro again
    obtain ⟨r', hr', same⟩ := List.mem_map.mp again
    have later := lt_of_mem_recordsFrom hr'
    have before := sound.issued r hr
    rw [same] at later
    omega
  have new : (recordsFrom m.issued (ds.filterMap (handed h f))).filter (fun r =>
      !((recordsFrom m.issued (ds.filterMap (handed h f))).map (·.id)).contains r.id) = [] := by
    refine List.filter_eq_nil_iff.mpr fun r hr => ?_
    rw [Bool.not_eq_true', Bool.not_eq_false, List.contains_iff_mem]
    exact List.mem_map.mpr ⟨r, hr, rfl⟩
  rw [old, new, List.append_nil]

/-- What is recorded of the fact that is delivered. -/
theorem filter_recordsFrom (issued : Nat) (ds : List Delivery) (e : EntryId) :
    (((recordsFrom issued (ds.filterMap (handed h f))).filter (·.entry == e)).filter
        (·.fact == h)).map (fun r => (r.index, r.markers)) =
      (markersOf e ds).map (f.index, ·) := by
  induction ds generalizing issued with
  | nil => rfl
  | cons d ds ih =>
    cases d with
    | failed test => exact ih issued
    | matched entry markers =>
      have given : (Delivery.matched entry markers :: ds).filterMap (handed h f) =
          ⟨h, f.index, entry, f.values, markers⟩ :: ds.filterMap (handed h f) := rfl
      rw [given, recordsFrom]
      by_cases same : entry = e
      · subst same
        simpa [markersOf] using ih (issued + 1)
      · simpa [markersOf, same] using ih (issued + 1)

theorem fact_of_mem_recordsFrom {issued : Nat} {ds : List Delivery} {r : MatchRecord}
    (mem : r ∈ recordsFrom issued (ds.filterMap (handed h f))) : r.fact = h := by
  induction ds generalizing issued with
  | nil => cases mem
  | cons d ds ih =>
    cases d with
    | failed test => exact ih mem
    | matched entry markers =>
      rcases List.mem_cons.mp mem with rfl | later
      · rfl
      · exact ih later

/-- Deliveries add the delivered matches of their fact and nothing else. -/
theorem held_deliverAll (ds : List Delivery) (e : EntryId) (k : Handle) :
    (deliverAll h f ds m).2.held e k =
      m.held e k ++ if k = h then (markersOf e ds).map (f.index, ·) else [] := by
  obtain ⟨records, -, -⟩ := deliverAll_records h f ds m
  rw [held, held, matchesOf, matchesOf, records, List.filter_append, List.filter_append,
    List.map_append]
  congr 1
  split
  · rename_i same
    rw [same]
    exact filter_recordsFrom m.issued ds e
  · rename_i other
    rw [List.map_eq_nil_iff, List.filter_eq_nil_iff]
    intro r hr
    rw [fact_of_mem_recordsFrom (List.mem_filter.mp hr).1]
    simpa using Ne.symm other

end Store

end FactBase

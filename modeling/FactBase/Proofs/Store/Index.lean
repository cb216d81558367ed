import FactBase.HashIndex
import Mathlib.Data.List.Perm.Basic

/-!
# The entries of a hash index

However the table grows and shrinks, an insertion adds one entry and a removal takes one away, and
every entry stands in the chain of its hash.
-/

namespace FactBase.HashIndex

/-- Every entry stands in the bucket of its hash. -/
def Filed (buckets : Array (List HashEntry)) : Prop :=
  ∀ (i : Nat) (chain : List HashEntry), buckets[i]? = some chain →
    ∀ e ∈ chain, bucketOf buckets.size e.hash = i

structure Sound (t : HashIndex) : Prop where
  filed : Filed t.buckets
  room : 0 < t.buckets.size
  floor : 0 < t.floor
  count : t.size = t.entries.length

theorem bucketOf_lt {capacity : Nat} (room : 0 < capacity) (hash : UInt64) :
    bucketOf capacity hash < capacity := Nat.mod_lt _ room

/-- Changing one list of several changes their concatenation as it changes that list. -/
theorem flatten_modify_perm {α : Type} {xs ys : List α} {f : List α → List α}
    {lists : List (List α)} {i : Nat} {chain : List α} (found : lists[i]? = some chain)
    (changed : (f chain ++ xs).Perm (chain ++ ys)) :
    ((lists.modify i f).flatten ++ xs).Perm (lists.flatten ++ ys) := by
  induction lists generalizing i with
  | nil => simp at found
  | cons c cs ih =>
    cases i with
    | zero =>
      obtain rfl : c = chain := by simpa using found
      rw [List.modify_zero_cons, List.flatten_cons, List.flatten_cons]
      have front : (f c ++ cs.flatten ++ xs).Perm (f c ++ xs ++ cs.flatten) := by
        rw [List.append_assoc, List.append_assoc]
        exact List.perm_append_comm.append_left (f c)
      have back : (c ++ ys ++ cs.flatten).Perm (c ++ cs.flatten ++ ys) := by
        rw [List.append_assoc, List.append_assoc]
        exact List.perm_append_comm.append_left c
      exact (front.trans (changed.append_right _)).trans back
    | succ i =>
      rw [List.modify_succ_cons, List.flatten_cons, List.flatten_cons, List.append_assoc,
        List.append_assoc]
      exact (ih (by simpa using found)).append_left c

theorem filed_modify {buckets : Array (List HashEntry)} (filed : Filed buckets) {i : Nat}
    {f : List HashEntry → List HashEntry}
    (kept : ∀ chain, buckets[i]? = some chain →
      ∀ e ∈ f chain, e ∈ chain ∨ bucketOf buckets.size e.hash = i) :
    Filed (buckets.modify i f) := by
  intro j chain found e he
  rw [Array.size_modify]
  rw [Array.getElem?_modify] at found
  by_cases here : i = j
  · subst here
    rw [if_pos rfl] at found
    obtain ⟨old, hold, rfl⟩ := Option.map_eq_some_iff.mp found
    rcases kept old hold e he with inside | new
    · exact filed i old hold e inside
    · exact new
  · rw [if_neg here] at found
    exact filed j chain found e he

theorem filed_replicate (n : Nat) : Filed (Array.replicate n []) := by
  intro i chain found e he
  obtain ⟨_, rfl⟩ : i < n ∧ [] = chain := by simpa [Array.getElem?_replicate] using found
  cases he

/-! ### Placing entries -/

theorem filed_place {buckets : Array (List HashEntry)} (filed : Filed buckets) (e : HashEntry) :
    Filed (place buckets e) := by
  refine filed_modify filed fun chain _ x hx => ?_
  rcases List.mem_append.mp hx with inside | new
  · exact .inl inside
  · rw [List.mem_singleton.mp new]
    exact .inr rfl

theorem place_perm {buckets : Array (List HashEntry)} (room : 0 < buckets.size) (e : HashEntry) :
    (place buckets e).toList.flatten.Perm (e :: buckets.toList.flatten) := by
  obtain ⟨chain, found⟩ : ∃ chain, buckets.toList[bucketOf buckets.size e.hash]? = some chain :=
    ⟨_, List.getElem?_eq_getElem (by simpa using bucketOf_lt room e.hash)⟩
  rw [place, Array.toList_modify]
  have changed : ((chain ++ [e]) ++ []).Perm (chain ++ [e]) := by simp
  have placed := flatten_modify_perm (f := (· ++ [e])) found changed
  rw [List.append_nil] at placed
  exact placed.trans (List.perm_append_singleton e _)

theorem size_place (buckets : Array (List HashEntry)) (e : HashEntry) :
    (place buckets e).size = buckets.size := Array.size_modify

/-- Distributing entries over buckets. -/
theorem foldl_place {es : List HashEntry} {buckets : Array (List HashEntry)}
    (room : 0 < buckets.size) (filed : Filed buckets) :
    Filed (es.foldl place buckets) ∧ (es.foldl place buckets).size = buckets.size ∧
      (es.foldl place buckets).toList.flatten.Perm (es ++ buckets.toList.flatten) := by
  induction es generalizing buckets with
  | nil => exact ⟨filed, rfl, .refl _⟩
  | cons e es ih =>
    have room' : 0 < (place buckets e).size := size_place buckets e ▸ room
    obtain ⟨kept, size, entries⟩ := ih room' (filed_place filed e)
    refine ⟨kept, size.trans (size_place buckets e), entries.trans ?_⟩
    exact ((place_perm room e).append_left es).trans List.perm_middle

theorem flatten_replicate_nil (n : Nat) :
    (Array.replicate n ([] : List HashEntry)).toList.flatten = [] := by
  simp [Array.toList_replicate]

theorem sound_empty (floor : Nat) : (empty floor).Sound where
  filed := filed_replicate _
  room := by
    simp only [empty, Array.size_replicate, oddFloor]
    split <;> omega
  floor := by
    simp only [empty, oddFloor]
    split <;> omega
  count := by simp [empty, entries]

theorem entries_empty (floor : Nat) : (empty floor).entries = [] := by
  simp [empty, entries]

theorem rebuild_spec (t : HashIndex) {capacity : Nat} (room : 0 < capacity) :
    Filed (t.rebuild capacity).buckets ∧ 0 < (t.rebuild capacity).buckets.size ∧
      (t.rebuild capacity).entries.Perm t.entries := by
  have empty : 0 < (Array.replicate capacity ([] : List HashEntry)).size := by simpa using room
  obtain ⟨filed, size, entries⟩ := foldl_place empty (filed_replicate capacity)
  rw [flatten_replicate_nil, List.append_nil] at entries
  exact ⟨filed, size ▸ empty, entries⟩

/-! ### Inserting and removing -/

theorem insert_spec {t : HashIndex} (sound : t.Sound) (hash : UInt64) (fact : Handle) :
    (t.insert hash fact).Sound ∧ (t.insert hash fact).entries.Perm (⟨hash, fact⟩ :: t.entries) := by
  have grown : ∃ u : HashIndex, Filed u.buckets ∧ 0 < u.buckets.size ∧ u.entries.Perm t.entries ∧
      u.size = t.size + 1 ∧ u.floor = t.floor ∧
      t.insert hash fact = { u with buckets := place u.buckets ⟨hash, fact⟩ } := by
    unfold HashIndex.insert
    dsimp only
    split
    · have room : 0 < t.capacity * 2 + 1 := Nat.succ_pos _
      obtain ⟨filed, room, entries⟩ := rebuild_spec { t with size := t.size + 1 } room
      exact ⟨_, filed, room, entries, rfl, rfl, rfl⟩
    · exact ⟨{ t with size := t.size + 1 }, sound.filed, sound.room, .refl _, rfl, rfl, rfl⟩
  obtain ⟨u, filed, room, entries, size, floor, inserted⟩ := grown
  have placed : (t.insert hash fact).entries.Perm (⟨hash, fact⟩ :: t.entries) := by
    rw [inserted]
    exact (place_perm room _).trans (entries.cons _)
  refine ⟨⟨?_, ?_, ?_, ?_⟩, placed⟩
  · rw [inserted]
    exact filed_place filed _
  · rw [inserted, size_place]
    exact room
  · rw [inserted]
    exact floor ▸ sound.floor
  · rw [placed.length_eq, inserted, List.length_cons, ← sound.count]
    exact size

/-- An entry is found under its hash. -/
theorem Sound.mem_chain {t : HashIndex} (sound : t.Sound) {e : HashEntry} {hash : UInt64} :
    e ∈ t.entries → e.hash = hash → e ∈ t.chain hash := by
  rintro he rfl
  obtain ⟨chain, hc, he⟩ := List.mem_flatten.mp he
  obtain ⟨i, found⟩ := List.mem_iff_getElem?.mp hc
  rw [Array.getElem?_toList] at found
  have here := sound.filed i chain found e he
  rw [HashIndex.chain, HashIndex.capacity, here, found]
  exact he

theorem mem_entries_of_mem_chain {t : HashIndex} {e : HashEntry} {hash : UInt64}
    (he : e ∈ t.chain hash) : e ∈ t.entries := by
  unfold HashIndex.chain at he
  cases found : t.buckets[bucketOf t.capacity hash]? with
  | none => simp [found] at he
  | some chain =>
    rw [found] at he
    refine List.mem_flatten.mpr ⟨chain, ?_, he⟩
    exact Array.mem_toList_iff.mpr (Array.mem_of_getElem? found)

/-- A removal that finds the fact takes one entry of it away. -/
theorem remove_spec {t u : HashIndex} (sound : t.Sound) {hash : UInt64} {fact : Handle}
    (removed : t.remove hash fact = (true, u)) :
    u.Sound ∧ ∃ e, e.fact = fact ∧ t.entries.Perm (e :: u.entries) := by
  unfold HashIndex.remove at removed
  split at removed
  case isFalse => cases removed
  case isTrue present =>
    obtain ⟨rfl⟩ := (Prod.mk.inj removed).2
    obtain ⟨x, hx, same⟩ := List.any_eq_true.mp present
    cases found : t.buckets[bucketOf t.capacity hash]? with
    | none => simp [HashIndex.chain, found] at hx
    | some chain =>
      have hx : x ∈ chain := by simpa [HashIndex.chain, found] using hx
      obtain ⟨e, front, back, _, he, split, erased⟩ :=
        List.exists_of_eraseP (p := (·.fact == fact)) hx same
      have changed : (chain.eraseP (·.fact == fact) ++ [e]).Perm (chain ++ []) := by
        rw [erased, List.append_nil, split]
        exact (List.perm_append_singleton e _).trans List.perm_middle.symm
      have listed : t.buckets.toList[bucketOf t.capacity hash]? = some chain := by
        rw [Array.getElem?_toList, found]
      have left := flatten_modify_perm (f := (·.eraseP (·.fact == fact))) listed changed
      rw [List.append_nil, ← Array.toList_modify] at left
      have entries := left.symm.trans (List.perm_append_singleton e _)
      have length := entries.length_eq
      rw [List.length_cons] at length
      have count := sound.count
      unfold HashIndex.entries at count
      by_cases shrink : t.size = 1 ∧ t.capacity ≠ t.floor
      · -- The table was left empty.
        have none : (t.buckets.modify (bucketOf t.capacity hash)
            (·.eraseP (·.fact == fact))).toList.flatten = [] := by
          rw [← List.length_eq_zero_iff]
          omega
        simp only [if_pos shrink]
        refine ⟨⟨filed_replicate _, by simpa using sound.floor, sound.floor, ?_⟩, e,
          beq_iff_eq.mp he, ?_⟩
        · simp [HashIndex.entries, shrink.1]
        · rw [HashIndex.entries, HashIndex.entries, flatten_replicate_nil, ← none]
          exact entries
      · simp only [if_neg shrink]
        refine ⟨⟨filed_modify sound.filed fun chain _ y hy => .inl (List.mem_of_mem_eraseP hy),
          by simpa using sound.room, sound.floor, ?_⟩, e, beq_iff_eq.mp he, entries⟩
        unfold HashIndex.entries
        simp only
        omega

theorem remove_found {t : HashIndex} (sound : t.Sound) {hash : UInt64} {fact : Handle}
    (listed : ⟨hash, fact⟩ ∈ t.entries) : (t.remove hash fact).1 = true := by
  have present : (t.chain hash).any (·.fact == fact) = true :=
    List.any_eq_true.mpr ⟨⟨hash, fact⟩, sound.mem_chain listed rfl, by simp⟩
  simp [HashIndex.remove, present]

end FactBase.HashIndex

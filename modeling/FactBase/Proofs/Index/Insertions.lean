import FactBase.Proofs.Basic
import FactBase.Proofs.Store.Index
import FactBase.Session.Index
import Mathlib.Data.List.TakeDrop

/-!
# A hash index as a list of insertions

From outside, a hash index is a list of what was put into it and not taken out again, the oldest
first, together with the number of its chains. Rebuilding the table may change the order of entries
of different hashes that meet in one chain, but never of those of one hash, and only these are asked
about one after the other.
-/

namespace FactBase

namespace HashIndex

variable {t u : HashIndex} {hash : UInt64} {fact : Handle}

theorem asked_eq (t : HashIndex) (hash : UInt64) (accept : Handle → Bool) :
    t.asked hash accept = upTo accept (t.candidates hash) := by
  unfold asked
  rw [List.span_eq_takeWhile_dropWhile]
  dsimp only
  induction t.candidates hash with
  | nil => rfl
  | cons h hs ih => cases accepted : accept h <;> simp [upTo, accepted, ih]

/-! ### Entries of one hash -/

/-- Where all lists but one have nothing of some kind, that one has all of it. -/
theorem filter_flatten_of_elsewhere {α : Type} {lists : List (List α)} {p : α → Bool} {b : Nat}
    (elsewhere : ∀ i chain, lists[i]? = some chain → i ≠ b → chain.filter p = []) :
    lists.flatten.filter p = ((lists[b]?).getD []).filter p := by
  induction lists generalizing b with
  | nil => rfl
  | cons chain chains ih =>
    rw [List.flatten_cons, List.filter_append]
    cases b with
    | zero =>
      have rest : chains.flatten.filter p = [] := by
        refine List.filter_eq_nil_iff.mpr fun e inside => ?_
        obtain ⟨other, there, here⟩ := List.mem_flatten.mp inside
        obtain ⟨i, found⟩ := List.mem_iff_getElem?.mp there
        exact List.filter_eq_nil_iff.mp (elsewhere (i + 1) other found (Nat.succ_ne_zero i)) e here
      rw [rest, List.append_nil]
      rfl
    | succ b =>
      rw [elsewhere 0 chain rfl (Nat.succ_ne_zero b).symm, List.nil_append, List.getElem?_cons_succ]
      exact ih fun i other found different => elsewhere (i + 1) other found (by omega)

/-- Of a table whose entries are filed, those of one hash are all in one chain. -/
theorem filter_flatten {buckets : Array (List HashEntry)} (filed : Filed buckets)
    (hash : UInt64) : buckets.toList.flatten.filter (·.hash == hash) =
      ((buckets[bucketOf buckets.size hash]?).getD []).filter (·.hash == hash) := by
  rw [← Array.getElem?_toList]
  refine filter_flatten_of_elsewhere fun i chain found other => ?_
  rw [Array.getElem?_toList] at found
  refine List.filter_eq_nil_iff.mpr fun e inside same => other ?_
  rw [← filed i chain found e inside, beq_iff_eq.mp same]

theorem Sound.filter_entries (sound : t.Sound) (hash : UInt64) :
    t.entries.filter (·.hash == hash) = (t.chain hash).filter (·.hash == hash) :=
  filter_flatten sound.filed hash

/-- A new entry comes behind those of its hash, and changes nothing for other hashes. -/
theorem filter_place {buckets : Array (List HashEntry)} (filed : Filed buckets)
    (room : 0 < buckets.size) (e : HashEntry) (hash : UInt64) :
    (place buckets e).toList.flatten.filter (·.hash == hash) =
      (buckets.toList.flatten ++ [e]).filter (·.hash == hash) := by
  have listed : bucketOf buckets.size hash < buckets.size := bucketOf_lt room hash
  rw [List.filter_append, filter_flatten (filed_place filed e), filter_flatten filed, size_place,
    place, Array.getElem?_modify, Array.getElem?_eq_getElem listed]
  by_cases meets : bucketOf buckets.size e.hash = bucketOf buckets.size hash
  · simp [meets]
  · have other : e.hash ≠ hash := fun same => meets (by rw [same])
    simp [meets, other]

theorem filter_foldl_place {es : List HashEntry} {buckets : Array (List HashEntry)}
    (filed : Filed buckets) (room : 0 < buckets.size) (hash : UInt64) :
    (es.foldl place buckets).toList.flatten.filter (·.hash == hash) =
      (buckets.toList.flatten ++ es).filter (·.hash == hash) := by
  induction es generalizing buckets with
  | nil => rw [List.foldl_nil, List.append_nil]
  | cons e es ih =>
    rw [List.foldl_cons, ih (filed_place filed e) (size_place buckets e ▸ room), List.filter_append,
      filter_place filed room, ← List.filter_append, List.append_assoc, List.singleton_append]

/-- Rebuilding keeps the entries of one hash in their order. -/
theorem filter_rebuild (t : HashIndex) {capacity : Nat} (room : 0 < capacity) (hash : UInt64) :
    (t.rebuild capacity).entries.filter (·.hash == hash) =
      t.entries.filter (·.hash == hash) := by
  have empty : 0 < (Array.replicate capacity ([] : List HashEntry)).size := by simpa using room
  have placed := @filter_foldl_place t.entries _ (filed_replicate capacity) empty hash
  rwa [flatten_replicate_nil, List.nil_append] at placed

/-! ### What an index is from outside -/

theorem odd_oddFloor (n : Nat) : oddFloor n % 2 = 1 := by
  unfold oddFloor
  split <;> omega

/-- What is in an index, the oldest first, how many chains it has, and how often it has grown. -/
structure Roll where
  live : List HashEntry := []
  capacity : Nat
  growths : Nat := 0

namespace Roll

def start (floor : Nat) : Roll := { capacity := oddFloor floor }

def has (r : Roll) (fact : Handle) : Bool := r.live.any (·.fact == fact)

/-- The facts put in under a hash, the oldest first. -/
def under (r : Roll) (hash : UInt64) : List Handle :=
  (r.live.filter (·.hash == hash)).map (·.fact)

/-- Whether an insertion makes the count exceed the capacity. -/
def isFull (r : Roll) : Bool := decide (r.capacity < r.live.length + 1)

def insert (r : Roll) (hash : UInt64) (fact : Handle) : Roll where
  live := r.live ++ [⟨hash, fact⟩]
  capacity := if r.isFull then 2 * r.capacity + 1 else r.capacity
  growths := if r.isFull then r.growths + 1 else r.growths

/-- What is left without a fact; an empty index is as large as it was at the start. -/
def remove (r : Roll) (floor : Nat) (fact : Handle) : Roll :=
  let live := r.live.filter (·.fact != fact)
  { r with live, capacity := if live.isEmpty then oddFloor floor else r.capacity }

end Roll

/-- Indices with what they are from outside, as insertions and removals in any order make them. A
fact is put in while it is absent, and taken out under the hash under which it was put in, if it
was. -/
inductive History (floor : Nat) : HashIndex → Roll → Prop
  | empty : History floor (HashIndex.empty floor) (Roll.start floor)
  | insert {t : HashIndex} {r : Roll} {hash : UInt64} {fact : Handle} (before : History floor t r)
      (absent : r.has fact = false) : History floor (t.insert hash fact) (r.insert hash fact)
  | remove {t : HashIndex} {r : Roll} {hash : UInt64} {fact : Handle} (before : History floor t r)
      (own : ∀ e ∈ r.live, e.fact = fact → e.hash = hash) :
      History floor (t.remove hash fact).2 (r.remove floor fact)

/-- An index shows its roll: entries of one hash stand in the order of the roll. -/
structure Shows (floor : Nat) (t : HashIndex) (r : Roll) : Prop where
  sound : t.Sound
  base : t.floor = oddFloor floor
  once : (r.live.map (·.fact)).Nodup
  filtered : ∀ hash, t.entries.filter (·.hash == hash) = r.live.filter (·.hash == hash)
  count : t.size = r.live.length
  capacity : t.capacity = r.capacity
  growths : t.resizes = r.growths
  room : r.live.length ≤ r.capacity
  odd : r.capacity % 2 = 1
  drained : r.live = [] → r.capacity = oddFloor floor

/-! ### Insertions -/

theorem size_rebuild (t : HashIndex) {capacity : Nat} (room : 0 < capacity) :
    (t.rebuild capacity).buckets.size = capacity := by
  have empty : 0 < (Array.replicate capacity ([] : List HashEntry)).size := by simpa using room
  obtain ⟨-, size, -⟩ := @foldl_place t.entries _ empty (filed_replicate capacity)
  rw [Array.size_replicate] at size
  exact size

/-- The table that a new entry is put into: a larger one if all chains are taken. -/
def grown (t : HashIndex) : HashIndex :=
  if t.capacity < t.size + 1 then
    { t with size := t.size + 1 }.rebuild (t.capacity * 2 + 1)
  else { t with size := t.size + 1 }

theorem insert_eq (t : HashIndex) (hash : UInt64) (fact : Handle) :
    t.insert hash fact = { t.grown with buckets := place t.grown.buckets ⟨hash, fact⟩ } := rfl

theorem filed_grown (sound : t.Sound) : Filed t.grown.buckets ∧ 0 < t.grown.buckets.size := by
  unfold grown
  split
  · obtain ⟨filed, room, -⟩ :=
      rebuild_spec { t with size := t.size + 1 } (Nat.succ_pos (t.capacity * 2))
    exact ⟨filed, room⟩
  · exact ⟨sound.filed, sound.room⟩

theorem filter_insert (sound : t.Sound) (e : HashEntry) (hash : UInt64) :
    (t.insert e.hash e.fact).entries.filter (·.hash == hash) =
      (t.entries ++ [e]).filter (·.hash == hash) := by
  obtain ⟨filed, room⟩ := filed_grown sound
  have entries : t.grown.entries.filter (·.hash == hash) = t.entries.filter (·.hash == hash) := by
    unfold grown
    split
    · exact filter_rebuild { t with size := t.size + 1 } (Nat.succ_pos _) hash
    · rfl
  rw [insert_eq, HashIndex.entries, filter_place filed room, List.filter_append,
    List.filter_append, ← entries]
  rfl

/-! ### Removals -/

/-- Where one list alone has members that are to go, they go if it loses them. -/
theorem flatten_modify_of_elsewhere {α : Type} {lists : List (List α)} {p : α → Bool} {b : Nat}
    {f : List α → List α} (here : ∀ chain, lists[b]? = some chain → f chain = chain.filter p)
    (elsewhere : ∀ i chain, lists[i]? = some chain → i ≠ b → ∀ x ∈ chain, p x = true) :
    (lists.modify b f).flatten = lists.flatten.filter p := by
  have modified : lists.modify b f = lists.map (List.filter p) := by
    refine List.ext_getElem? fun i => ?_
    rw [List.getElem?_modify, List.getElem?_map]
    cases found : lists[i]? with
    | none => rfl
    | some chain =>
      by_cases same : b = i
      · subst same
        simp [here chain found]
      · have kept := List.filter_eq_self.mpr (elsewhere i chain found (Ne.symm same))
        simp [same, kept]
  rw [modified, List.filter_flatten]

/-- The chain of a hash loses a fact, and no other chain has it. -/
theorem flatten_eraseP (sound : t.Sound) (once : (t.entries.map (·.fact)).Nodup)
    (present : ⟨hash, fact⟩ ∈ t.entries) :
    (t.buckets.modify (bucketOf t.capacity hash) (·.eraseP (·.fact == fact))).toList.flatten =
      t.entries.filter (·.fact != fact) := by
  have own (e : HashEntry) (inside : e ∈ t.entries) (same : e.fact = fact) : e = ⟨hash, fact⟩ :=
    List.inj_on_of_nodup_map once inside present same
  have listed (i : Nat) (chain : List HashEntry) (found : t.buckets.toList[i]? = some chain)
      (e : HashEntry) (inside : e ∈ chain) : e ∈ t.entries :=
    List.mem_flatten.mpr ⟨chain, List.mem_of_getElem? found, inside⟩
  rw [Array.toList_modify]
  refine flatten_modify_of_elsewhere (fun chain found => ?_) fun i chain found other e inside => ?_
  · refine eraseP_eq_filter_of_nodup ?_ fact
    exact once.sublist ((List.sublist_flatten_of_mem (List.mem_of_getElem? found)).map _)
  · refine bne_iff_ne.mpr fun same => other ?_
    rw [Array.getElem?_toList] at found
    have filed := sound.filed i chain found e inside
    rw [own e (listed i chain (Array.getElem?_toList ▸ found) e inside) same] at filed
    exact filed.symm

/-- Taking out a fact that is there once takes it out and nothing else. -/
theorem remove_present (sound : t.Sound) (once : (t.entries.map (·.fact)).Nodup)
    (present : ⟨hash, fact⟩ ∈ t.entries) :
    ∃ u, t.remove hash fact = (true, u) ∧ u.Sound ∧
      u.entries = t.entries.filter (·.fact != fact) ∧ t.size = u.size + 1 ∧ u.floor = t.floor ∧
      u.resizes = t.resizes ∧ u.capacity = if t.size = 1 then t.floor else t.capacity := by
  have found : (t.remove hash fact).1 = true := remove_found sound present
  have erased := flatten_eraseP sound once present
  obtain ⟨u, removed⟩ : ∃ u, t.remove hash fact = (true, u) := ⟨_, Prod.ext found rfl⟩
  obtain ⟨sound', e, same, entries⟩ := remove_spec sound removed
  have count : t.size = u.size + 1 := by
    rw [sound.count, sound'.count, entries.length_eq, List.length_cons]
  refine ⟨u, removed, sound', ?_⟩
  unfold HashIndex.remove at removed
  split at removed
  case isFalse => cases removed
  obtain ⟨-, rfl⟩ := Prod.mk.inj removed
  by_cases shrink : t.size = 1 ∧ t.capacity ≠ t.floor
  · refine ⟨?_, count, rfl, rfl, ?_⟩
    · have none : (t.entries.filter (·.fact != fact)) = [] := by
        obtain ⟨x, only⟩ := List.length_eq_one_iff.mp (sound.count.symm.trans shrink.1)
        rw [only, List.mem_singleton] at present
        simp [only, ← present]
      rw [none, HashIndex.entries, if_pos shrink, flatten_replicate_nil]
    · rw [if_pos shrink.1, HashIndex.capacity]
      simp [shrink]
  · refine ⟨?_, count, rfl, rfl, ?_⟩
    · rw [← erased, HashIndex.entries, if_neg shrink]
    · rw [HashIndex.capacity]
      simp only [if_neg shrink, Array.size_modify]
      split
      · rename_i one
        exact not_not.mp fun other => shrink ⟨one, other⟩
      · rfl

namespace Shows

variable {floor : Nat} {r : Roll}

theorem empty (floor : Nat) : Shows floor (HashIndex.empty floor) (Roll.start floor) where
  sound := sound_empty floor
  base := rfl
  once := List.nodup_nil
  filtered hash := by
    rw [entries_empty]
    rfl
  count := rfl
  capacity := by simp [HashIndex.empty, HashIndex.capacity, Roll.start]
  growths := rfl
  room := Nat.zero_le _
  odd := odd_oddFloor floor
  drained _ := rfl

theorem insert (shows : Shows floor t r) (absent : r.has fact = false) :
    Shows floor (t.insert hash fact) (r.insert hash fact) := by
  have full : (t.capacity < t.size + 1) = (r.isFull = true) := by
    rw [Roll.isFull, decide_eq_true_eq, shows.capacity, shows.count]
  have room := shows.room
  have odd := shows.odd
  refine ⟨(insert_spec shows.sound hash fact).1, ?_, ?_, fun hash' => ?_, ?_, ?_, ?_, ?_, ?_, ?_⟩
  · rw [insert_eq, grown]
    split <;> exact shows.base
  · rw [Roll.insert, List.map_append, List.nodup_append]
    refine ⟨shows.once, List.nodup_singleton _, fun h inside h' here same => ?_⟩
    obtain ⟨e, listed, rfl⟩ := List.mem_map.mp inside
    rw [Roll.has, List.any_eq_false] at absent
    exact absent e listed (beq_iff_eq.mpr (same.trans (List.mem_singleton.mp here)))
  · rw [filter_insert shows.sound ⟨hash, fact⟩, Roll.insert, List.filter_append,
      List.filter_append, shows.filtered]
  · rw [Roll.insert, List.length_append, ← shows.count, insert_eq, grown]
    split <;> rfl
  · rw [insert_eq, HashIndex.capacity, size_place, Roll.insert, grown, ← shows.capacity]
    simp only [full]
    split
    · rw [size_rebuild _ (Nat.succ_pos _), Nat.mul_comm]
    · rfl
  · rw [insert_eq, Roll.insert, grown, ← shows.growths]
    simp only [full]
    split <;> rfl
  · rw [Roll.insert, List.length_append, List.length_singleton]
    dsimp only
    split
    · omega
    · rename_i few
      rw [Roll.isFull, decide_eq_true_eq] at few
      omega
  · unfold Roll.insert
    dsimp only
    split <;> omega
  · intro none
    simp [Roll.insert] at none

theorem perm (shows : Shows floor t r) : t.entries.Perm r.live := by
  have counted (es : List HashEntry) (e : HashEntry) :
      (es.filter (·.hash == e.hash)).count e = es.count e :=
    List.count_filter (p := fun x : HashEntry => x.hash == e.hash) BEq.rfl
  refine List.perm_iff_count.mpr fun e => ?_
  rw [← counted, shows.filtered, counted]

theorem once_entries (shows : Shows floor t r) : (t.entries.map (·.fact)).Nodup :=
  (shows.perm.map _).nodup_iff.mpr shows.once

/-- A fact that is there is there under the hash under which it is to be taken out. -/
theorem present (shows : Shows floor t r) (own : ∀ e ∈ r.live, e.fact = fact → e.hash = hash)
    (has : r.has fact = true) : ⟨hash, fact⟩ ∈ t.entries := by
  obtain ⟨e, inside, same⟩ := List.any_eq_true.mp has
  have same := beq_iff_eq.mp same
  rw [← own e inside same, ← same]
  exact shows.perm.mem_iff.mpr inside

theorem remove_absent (shows : Shows floor t r) (absent : r.has fact = false) :
    t.remove hash fact = (false, t) := by
  unfold HashIndex.remove
  refine if_neg fun present => ?_
  obtain ⟨e, inside, same⟩ := List.any_eq_true.mp present
  rw [Roll.has, List.any_eq_false] at absent
  exact absent e (shows.perm.mem_iff.mp (mem_entries_of_mem_chain inside)) same

/-- A removal tells whether the fact was there. -/
theorem removed (shows : Shows floor t r) (own : ∀ e ∈ r.live, e.fact = fact → e.hash = hash) :
    (t.remove hash fact).1 = r.has fact := by
  cases has : r.has fact with
  | false => rw [shows.remove_absent has]
  | true => exact remove_found shows.sound (shows.present own has)

/-- A roll without a fact stays as it is when the fact is taken out. -/
theorem roll_remove_absent (shows : Shows floor t r) (absent : r.has fact = false) :
    r.remove floor fact = r := by
  have kept : r.live.filter (·.fact != fact) = r.live := by
    rw [Roll.has, List.any_eq_false] at absent
    exact List.filter_eq_self.mpr fun e inside => by simpa using absent e inside
  have capacity : (if r.live.isEmpty then oddFloor floor else r.capacity) = r.capacity := by
    split
    · rename_i none
      exact (shows.drained (List.isEmpty_iff.mp none)).symm
    · rfl
  unfold Roll.remove
  rw [kept]
  exact congrArg (fun capacity => { r with capacity }) capacity

theorem remove (shows : Shows floor t r) (own : ∀ e ∈ r.live, e.fact = fact → e.hash = hash) :
    Shows floor (t.remove hash fact).2 (r.remove floor fact) := by
  cases has : r.has fact with
  | false =>
    rw [shows.remove_absent has, shows.roll_remove_absent has]
    exact shows
  | true =>
    obtain ⟨u, removed, sound, entries, count, base, growths, capacity⟩ :=
      remove_present shows.sound shows.once_entries (shows.present own has)
    rw [removed]
    have length : u.size = (r.live.filter (·.fact != fact)).length := by
      rw [sound.count, entries, (shows.perm.filter _).length_eq]
    have drained : t.size = 1 ↔ (r.live.filter (·.fact != fact)).isEmpty = true := by
      rw [List.isEmpty_iff, ← List.length_eq_zero_iff, ← length]
      omega
    refine ⟨sound, base.trans shows.base, ?_, fun hash' => ?_, length, ?_, ?_, ?_, ?_, ?_⟩
    · exact shows.once.sublist (List.filter_sublist.map _)
    · rw [entries, Roll.remove, List.filter_comm, shows.filtered, List.filter_comm]
    · rw [capacity, Roll.remove, shows.base, shows.capacity]
      simp only [drained]
    · exact growths.trans shows.growths
    · unfold Roll.remove
      dsimp only
      split
      · rename_i none
        rw [List.isEmpty_iff.mp none]
        exact Nat.zero_le _
      · exact Nat.le_trans (List.length_filter_le _ _) shows.room
    · unfold Roll.remove
      dsimp only
      split
      · exact odd_oddFloor floor
      · exact shows.odd
    · intro none
      unfold Roll.remove at none ⊢
      dsimp only at none ⊢
      rw [if_pos (List.isEmpty_iff.mpr none)]

end Shows

theorem History.shows {floor : Nat} {r : Roll} (history : History floor t r) :
    Shows floor t r := by
  induction history with
  | empty => exact .empty floor
  | insert _ absent ih => exact ih.insert absent
  | remove _ own ih => exact ih.remove own

/-- However an index has come about, a search asks about the facts put in under the hash and not
taken out since, the oldest first, up to the first that is accepted; a removal tells whether the
fact was there; and the number of entries, the capacity and the number of growths are those of the
roll, by which the capacity is odd, never exceeded and back where it was once nothing is left. -/
theorem shows_insertions {floor : Nat} {r : Roll} (history : History floor t r) :
    (∀ hash accept, t.find? hash accept = (r.under hash).find? accept ∧
      t.asked hash accept = upTo accept (r.under hash)) ∧
    (∀ hash fact, (∀ e ∈ r.live, e.fact = fact → e.hash = hash) →
      (t.remove hash fact).1 = r.has fact) ∧
    t.size = r.live.length ∧ t.capacity = r.capacity ∧ t.resizes = r.growths ∧
    t.size ≤ t.capacity ∧ t.capacity % 2 = 1 ∧ (t.size = 0 → t.capacity = oddFloor floor) := by
  have shows := history.shows
  have candidates (hash : UInt64) : t.candidates hash = r.under hash := by
    rw [HashIndex.candidates, ← shows.sound.filter_entries, shows.filtered, Roll.under]
  refine ⟨fun hash accept => ⟨?_, ?_⟩, fun hash fact own => shows.removed own, shows.count,
    shows.capacity, shows.growths, ?_, ?_, fun none => ?_⟩
  · rw [HashIndex.find?, candidates]
  · rw [asked_eq, candidates]
  · rw [shows.count, shows.capacity]
    exact shows.room
  · rw [shows.capacity]
    exact shows.odd
  · rw [shows.count, List.length_eq_zero_iff] at none
    rw [shows.capacity, shows.drained none]

/-- Facts of one hash keep their order over two growths, though a later one of another hash comes to
stand in front of them when they meet in the larger table; then the oldest is taken out. -/
theorem shows_insertions_regrown :
    let t := (((((empty 1).insert 8 ⟨0, 0⟩).insert 8 ⟨1, 0⟩).insert 1 ⟨3, 0⟩).insert 8 ⟨2, 0⟩)
    let u := (t.remove 8 ⟨0, 0⟩).2
    t.chain 8 = [⟨1, ⟨3, 0⟩⟩, ⟨8, ⟨0, 0⟩⟩, ⟨8, ⟨1, 0⟩⟩, ⟨8, ⟨2, 0⟩⟩] ∧
      u.asked 8 (· == ⟨2, 0⟩) = [⟨1, 0⟩, ⟨2, 0⟩] ∧ (u.remove 8 ⟨0, 0⟩).1 = false ∧
      u.size = 3 ∧ u.capacity = 7 ∧ u.resizes = 2 := by
  intro t u
  have history : History 1 u _ :=
    .remove (.insert (.insert (.insert (.insert .empty (by decide)) (by decide)) (by decide))
      (by decide)) (by decide)
  obtain ⟨finds, removes, size, capacity, growths, -⟩ := shows_insertions history
  exact ⟨by decide, (finds 8 _).2.trans (by decide), (removes 8 _ (by decide)).trans (by decide),
    size.trans (by decide), capacity.trans (by decide), growths.trans (by decide)⟩

end HashIndex
end FactBase

import FactBase.Proofs.Store.Arena
import Mathlib.Algebra.Group.Nat.Defs
import Mathlib.Data.List.Induction

/-!
# What handles stand for over a history of calls

Each call on the storage leaves an event behind. The log of the events alone says which handles have
been issued, which have been taken back since and which value a live handle stands for. The storage
agrees with its log as long as no slot has been emptied so often that its count wraps round.
-/

namespace FactBase.Arena

variable {α : Type}

/-- What a client asks of the storage. -/
inductive Call (α : Type)
  | insert (x : α)
  | update (h : Handle) (f : α → α)
  | remove (h : Handle)

/-- How a call was answered: `missed` when the handle named nothing. -/
inductive Event (α : Type)
  | inserted (h : Handle) (x : α)
  | updated (h : Handle) (f : α → α)
  | removed (h : Handle) (x : α)
  | missed (h : Handle)

/-- The handle an event is about. -/
def Event.handle : Event α → Handle
  | .inserted h _ | .updated h _ | .removed h _ | .missed h => h

/-- Carries out a call. -/
def perform (a : Arena α) : Call α → Event α × Arena α
  | .insert x => (.inserted (a.insert x).1 x, (a.insert x).2)
  | .update h f => (if (a.get? h).isSome then .updated h f else .missed h, a.update h f)
  | .remove h =>
    match a.remove? h with
    | some (x, rest) => (.removed h x, rest)
    | none => (.missed h, a)

/-- The storage and the log, its newest event in front, after calls on an empty storage. -/
def play (calls : List (Call α)) : Arena α × List (Event α) :=
  calls.foldl (fun s call => ((s.1.perform call).2, (s.1.perform call).1 :: s.2)) ({}, [])

/-- The handles handed out, one for each insert. -/
def issued : List (Event α) → List Handle
  | [] => []
  | .inserted h _ :: earlier => h :: issued earlier
  | _ :: earlier => issued earlier

/-- The handles whose values were taken out. -/
def returned : List (Event α) → List Handle
  | [] => []
  | .removed h _ :: earlier => h :: returned earlier
  | _ :: earlier => returned earlier

/-- The handles that were issued and not taken back since. -/
def live (log : List (Event α)) : List Handle := (issued log).filter (· ∉ returned log)

/-- How often a slot was emptied. -/
def emptied (log : List (Event α)) (slot : Nat) : Nat := (returned log).countP (·.slot = slot)

/-- The value a handle stands for by the log: the one put in under it, with the changes made to it
since, until it is taken out. -/
def stands : List (Event α) → Handle → Option α
  | [], _ => none
  | .inserted h x :: earlier, k => if k = h then some x else stands earlier k
  | .updated h f :: earlier, k => if k = h then (stands earlier k).map f else stands earlier k
  | .removed h _ :: earlier, k => if k = h then none else stands earlier k
  | .missed _ :: earlier, k => stands earlier k

theorem live_inserted {log : List (Event α)} {h : Handle} (unreturned : h ∉ returned log) (x : α) :
    live (.inserted h x :: log) = h :: live log := by
  have kept : live (.inserted h x :: log) = (h :: issued log).filter (· ∉ returned log) := rfl
  rw [kept, List.filter_cons, if_pos (decide_eq_true unreturned), live]

theorem live_removed {log : List (Event α)} (once : (issued log).Nodup) (h : Handle) (x : α) :
    live (.removed h x :: log) = (live log).erase h := by
  have others : (live log).erase h = (live log).filter (· != h) :=
    List.Nodup.erase_eq_filter (once.filter _) h
  rw [others, live, live, List.filter_filter]
  refine List.filter_congr fun k _ => ?_
  rw [Bool.eq_iff_iff]
  simp [returned]

/-- How often a slot was emptied, as it counts itself. -/
def generation? (a : Arena α) (slot : Nat) : Option UInt32 := a.slots[slot]?.map (·.generation)

theorem generation?_of_get? {a : Arena α} {h : Handle} {x : α} (found : a.get? h = some x) :
    a.generation? h.slot = some h.generation := by
  rw [generation?, get?_eq_some.mp found, Option.map_some]

theorem generation?_set {slots : Array (ArenaSlot α)} {slot : Nat} {s : ArenaSlot α}
    (inside : slot < slots.size) (other : Nat) :
    (slots.setIfInBounds slot s)[other]?.map (·.generation) =
      if other = slot then some s.generation else slots[other]?.map (·.generation) := by
  by_cases same : other = slot
  · rw [if_pos same, same, Array.getElem?_setIfInBounds_self_of_lt inside, Option.map_some]
  · rw [if_neg same, Array.getElem?_setIfInBounds_ne (Ne.symm same)]

theorem generation?_update (a : Arena α) (h : Handle) (f : α → α) (slot : Nat) :
    (a.update h f).generation? slot = a.generation? slot := by
  unfold Arena.update
  split
  · rename_i x found
    have inside := (Array.getElem?_eq_some_iff.mp (get?_eq_some.mp found)).1
    unfold generation?
    rw [generation?_set inside]
    split
    · rename_i same
      rw [same]
      exact (generation?_of_get? found).symm
    · rfl
  · rfl

/-- A value goes into a slot at the count the slot has, or into a new slot at count zero. -/
theorem generation?_insert {a b : Arena α} {x : α} {h : Handle} (tidy : a.Tidy)
    (new : a.insert x = (h, b)) :
    (a.generation? h.slot = some h.generation ∨
      a.generation? h.slot = none ∧ h.generation = 0) ∧
    ∀ slot, b.generation? slot = if slot = h.slot then some h.generation else a.generation? slot := by
  unfold insert at new
  split at new
  · rename_i slot free kept
    obtain ⟨g, empty⟩ := tidy.vacant slot (kept ▸ List.mem_cons_self)
    have inside := (Array.getElem?_eq_some_iff.mp empty).1
    rw [empty] at new
    obtain ⟨rfl, rfl⟩ := Prod.mk.inj new
    constructor
    · left
      rw [generation?, empty]
      rfl
    · intro other
      exact generation?_set inside other
  · obtain ⟨rfl, rfl⟩ := Prod.mk.inj new
    constructor
    · right
      simp [generation?]
    · intro other
      by_cases same : other = a.slots.size
      · simp [generation?, same]
      · simp [generation?, Array.getElem?_push, same]

theorem generation?_remove {a b : Arena α} {x : α} {h : Handle}
    (removed : a.remove? h = some (x, b)) (slot : Nat) :
    b.generation? slot = if slot = h.slot then some (h.generation + 1) else a.generation? slot := by
  unfold remove? at removed
  split at removed
  · rename_i y found
    obtain ⟨rfl, rfl⟩ := Prod.mk.inj (Option.some.inj removed)
    exact generation?_set (Array.getElem?_eq_some_iff.mp (get?_eq_some.mp found)).1 slot
  · cases removed

theorem size_update (a : Arena α) (h : Handle) (f : α → α) : (a.update h f).size = a.size := by
  unfold Arena.update
  split <;> rfl

theorem size_insert (a : Arena α) (x : α) : (a.insert x).2.size = a.size + 1 := by
  unfold insert
  split <;> rfl

theorem size_remove? {a b : Arena α} {x : α} {h : Handle} (removed : a.remove? h = some (x, b)) :
    b.size = a.size - 1 := by
  unfold remove? at removed
  split at removed
  · obtain ⟨-, rfl⟩ := Prod.mk.inj (Option.some.inj removed)
    rfl
  · cases removed

/-- The value taken out is the value named. -/
theorem map_remove? (a : Arena α) (h : Handle) : (a.remove? h).map (·.1) = a.get? h := by
  unfold remove?
  cases a.get? h <;> rfl

/-- A storage agrees with a log. -/
structure Faithful (a : Arena α) (log : List (Event α)) : Prop where
  tidy : a.Tidy
  /-- A slot counts how often it was emptied. -/
  counted : ∀ slot g, a.generation? slot = some g → g.toNat = emptied log slot
  /-- A handle is of an earlier count than its slot has now, or names something. -/
  past : ∀ h ∈ issued log, ∃ g, a.generation? h.slot = some g ∧
    (h.generation.toNat < g.toNat ∨ (a.get? h).isSome)
  once : (issued log).Nodup
  known : ∀ h ∈ returned log, h ∈ issued log
  names : ∀ h, a.get? h = stands log h
  resolves : ∀ h, (a.get? h).isSome ↔ h ∈ issued log ∧ h ∉ returned log
  size : a.size = (live log).length

theorem faithful_empty : Faithful ({} : Arena α) [] where
  tidy := tidy_empty
  counted slot g found := by simp [generation?] at found
  past h inside := by simp [issued] at inside
  once := List.nodup_nil
  known h inside := by simp [returned] at inside
  names h := by simp [get?, stands]
  resolves h := by simp [get?, issued]
  size := rfl

namespace Faithful

variable {a b : Arena α} {log : List (Event α)} {h : Handle} {x : α}

theorem mem_live (faithful : Faithful a log) : h ∈ live log ↔ (a.get? h).isSome := by
  rw [faithful.resolves, live, List.mem_filter, decide_eq_true_eq]

/-- A slot that does not exist was never emptied. -/
theorem emptied_eq_zero (faithful : Faithful a log) {slot : Nat}
    (missing : a.generation? slot = none) : emptied log slot = 0 := by
  rw [emptied, List.countP_eq_zero]
  intro k inside same
  obtain ⟨g, exists', -⟩ := faithful.past k (faithful.known k inside)
  rw [of_decide_eq_true same, missing] at exists'
  cases exists'

/-- No handle is issued twice. -/
theorem unissued (faithful : Faithful a log) (new : a.insert x = (h, b)) : h ∉ issued log := by
  intro inside
  obtain ⟨g, here, earlier | named⟩ := faithful.past h inside
  · rcases (generation?_insert faithful.tidy new).1 with same | ⟨missing, -⟩
    · rw [same, Option.some.injEq] at here
      rw [here] at earlier
      exact Nat.lt_irrefl _ earlier
    · rw [missing] at here
      cases here
  · rw [(insert_spec faithful.tidy new).1] at named
    cases named

theorem insert (faithful : Faithful a log) (new : a.insert x = (h, b)) :
    Faithful b (.inserted h x :: log) := by
  obtain ⟨unnamed, tidy, named⟩ := insert_spec faithful.tidy new
  obtain ⟨slot, generations⟩ := generation?_insert faithful.tidy new
  have unissued := faithful.unissued new
  have unreturned : h ∉ returned log := fun inside => unissued (faithful.known h inside)
  refine ⟨tidy, ?_, ?_, List.nodup_cons.mpr ⟨unissued, faithful.once⟩, ?_, ?_, ?_, ?_⟩
  · intro k g found
    rw [generations] at found
    split at found
    · rename_i same
      obtain rfl := Option.some.inj found
      rw [same]
      rcases slot with counted | ⟨missing, zero⟩
      · exact faithful.counted _ _ counted
      · rw [zero]
        exact (faithful.emptied_eq_zero missing).symm
    · exact faithful.counted k g found
  · intro k inside
    rcases List.mem_cons.mp inside with rfl | inside
    · refine ⟨k.generation, by rw [generations, if_pos rfl], Or.inr ?_⟩
      rw [named, if_pos rfl]
      rfl
    · obtain ⟨g, exists', past⟩ := faithful.past k inside
      have other : k ≠ h := fun same => unissued (same ▸ inside)
      refine ⟨g, ?_, by rwa [named, if_neg other]⟩
      rw [generations]
      split
      · rename_i same
        rw [same] at exists'
        rcases slot with counted | ⟨missing, -⟩
        · rw [← counted, exists']
        · rw [missing] at exists'
          cases exists'
      · exact exists'
  · intro k inside
    exact List.mem_cons_of_mem h (faithful.known k inside)
  · intro k
    rw [named, stands, faithful.names]
  · intro k
    rw [named]
    by_cases same : k = h
    · simp [same, issued, returned, unreturned]
    · simp [same, issued, returned, faithful.resolves]
  · have alive := live_inserted unreturned x
    have size := size_insert a x
    rw [new] at size
    rw [alive, List.length_cons, ← faithful.size, size]

theorem update (faithful : Faithful a log) (f : α → α) :
    Faithful (a.update h f) (.updated h f :: log) := by
  have resolves (k : Handle) : ((a.update h f).get? k).isSome = (a.get? k).isSome := by
    rw [get?_update]
    split
    · rename_i same
      rw [Option.isSome_map, same]
    · rfl
  refine ⟨faithful.tidy.update h f, ?_, ?_, faithful.once, faithful.known, ?_, ?_, ?_⟩
  · intro slot g counted
    rw [generation?_update] at counted
    exact faithful.counted slot g counted
  · intro k inside
    rw [generation?_update, resolves]
    exact faithful.past k inside
  · intro k
    rw [get?_update, stands, ← faithful.names]
    split
    · rename_i same
      rw [same]
    · rfl
  · intro k
    rw [resolves]
    exact faithful.resolves k
  · rw [size_update]
    exact faithful.size

/-- A value is taken out of a slot that has not yet been emptied as often as the slot can count. -/
theorem remove (faithful : Faithful a log) (removed : a.remove? h = some (x, b))
    (bounded : emptied (.removed h x :: log) h.slot < 2 ^ 32) :
    Faithful b (.removed h x :: log) := by
  obtain ⟨found, tidy, named⟩ := remove?_spec faithful.tidy removed
  have generations := generation?_remove removed
  have counted := faithful.counted h.slot h.generation (generation?_of_get? found)
  have again (slot : Nat) : emptied (.removed h x :: log) slot =
      emptied log slot + if slot = h.slot then 1 else 0 := by
    simp [emptied, returned, List.countP_cons, eq_comm]
  have next : (h.generation + 1).toNat = h.generation.toNat + 1 := by
    rw [again, if_pos rfl, ← counted] at bounded
    rw [UInt32.toNat_add]
    exact Nat.mod_eq_of_lt bounded
  have live_h : h ∈ live log := faithful.mem_live.mpr (by rw [found]; rfl)
  obtain ⟨inside, -⟩ := faithful.resolves h |>.mp (by rw [found]; rfl)
  refine ⟨tidy, ?_, ?_, faithful.once, ?_, ?_, ?_, ?_⟩
  · intro slot g here
    rw [generations] at here
    rw [again]
    split at here
    · rename_i same
      obtain rfl := Option.some.inj here
      rw [if_pos same, next, same, counted]
    · rename_i other
      rw [if_neg other]
      exact faithful.counted slot g here
  · intro k issued
    obtain ⟨g, here, past⟩ := faithful.past k issued
    by_cases same : k.slot = h.slot
    · refine ⟨h.generation + 1, by rw [generations, if_pos same], Or.inl ?_⟩
      rw [same, generation?_of_get? found, Option.some.injEq] at here
      rw [next]
      rcases past with earlier | resolved
      · rw [← here] at earlier
        omega
      · obtain ⟨y, hy⟩ := Option.isSome_iff_exists.mp resolved
        rw [eq_of_slot_eq hy found same]
        omega
    · have other : k ≠ h := fun equal => same (congrArg Handle.slot equal)
      exact ⟨g, by rw [generations, if_neg same, here], by rwa [named, if_neg other]⟩
  · intro k back
    rcases List.mem_cons.mp back with rfl | back
    · exact inside
    · exact faithful.known k back
  · intro k
    rw [named, stands, faithful.names]
  · intro k
    rw [named]
    by_cases same : k = h
    · simp [same, returned]
    · simp [same, issued, returned, faithful.resolves]
  · have alive := live_removed faithful.once h x
    rw [alive, List.length_erase_of_mem live_h, ← faithful.size]
    exact size_remove? removed

theorem perform (faithful : Faithful a log) (call : Call α)
    (bounded : ∀ slot, emptied ((a.perform call).1 :: log) slot < 2 ^ 32) :
    Faithful (a.perform call).2 ((a.perform call).1 :: log) := by
  have missed (h : Handle) : Faithful a (.missed h :: log) := ⟨faithful.tidy, faithful.counted,
    faithful.past, faithful.once, faithful.known, faithful.names, faithful.resolves, faithful.size⟩
  cases call with
  | insert x => exact faithful.insert rfl
  | update h f =>
    simp only [Arena.perform]
    cases found : a.get? h with
    | none =>
      rw [update_of_none found]
      exact missed h
    | some x => exact faithful.update f
  | remove h =>
    simp only [Arena.perform] at bounded ⊢
    cases removed : a.remove? h with
    | none => exact missed h
    | some taken =>
      rw [removed] at bounded
      exact faithful.remove removed (bounded h.slot)

end Faithful

/-- What was emptied stays emptied. -/
theorem emptied_le_cons (event : Event α) (log : List (Event α)) (slot : Nat) :
    emptied log slot ≤ emptied (event :: log) slot := by
  cases event with
  | removed h x =>
    unfold emptied
    rw [returned, List.countP_cons]
    exact Nat.le_add_right _ _
  | inserted h x | updated h f | missed h => exact Nat.le_refl _

/-- Every storage agrees with its log. -/
theorem faithful_play (calls : List (Call α))
    (bounded : ∀ slot, emptied (play calls).2 slot < 2 ^ 32) :
    Faithful (play calls).1 (play calls).2 := by
  induction calls using List.reverseRecOn with
  | nil => exact faithful_empty
  | append_singleton calls call ih =>
    have step : play (calls ++ [call]) = (((play calls).1.perform call).2,
        ((play calls).1.perform call).1 :: (play calls).2) := by
      rw [play, List.foldl_append]
      rfl
    rw [step] at bounded ⊢
    have before := ih fun slot => Nat.lt_of_le_of_lt (emptied_le_cons _ _ slot) (bounded slot)
    exact before.perform call bounded

/-- A call changes what the handle it is about names and no other. -/
theorem get?_perform {a : Arena α} (tidy : a.Tidy) (call : Call α) {k : Handle}
    (other : k ≠ (a.perform call).1.handle) : (a.perform call).2.get? k = a.get? k := by
  cases call with
  | insert x =>
    obtain ⟨-, -, named⟩ := insert_spec tidy (x := x) rfl
    exact (named k).trans (if_neg other)
  | update h f =>
    have apart : k ≠ h := by
      simp only [perform] at other
      split at other <;> exact other
    exact (get?_update a h k f).trans (if_neg apart)
  | remove h =>
    simp only [perform] at other ⊢
    cases removed : a.remove? h with
    | none => rfl
    | some taken =>
      rw [removed] at other
      exact ((remove?_spec tidy removed).2.2 k).trans (if_neg other)

/-- However calls follow one another, as long as no slot was emptied 2 ^ 32 times: distinct inserts
issue distinct handles; a handle names something from its insert until it is taken back and only
then, and what it names, and what a removal hands over, is the value put in under it with the
changes made since; the next call changes what no other handle names; and the storage knows how many
handles name something. -/
theorem handles_never_alias (calls : List (Call α))
    (bounded : ∀ slot, emptied (play calls).2 slot < 2 ^ 32) :
    let a := (play calls).1
    let log := (play calls).2
    (issued log).Nodup ∧
    (∀ h, ((a.get? h).isSome ↔ h ∈ issued log ∧ h ∉ returned log) ∧
      a.get? h = stands log h ∧ (a.remove? h).map (·.1) = stands log h) ∧
    (∀ call k, k ≠ (a.perform call).1.handle → (a.perform call).2.get? k = a.get? k) ∧
    a.size = ((issued log).filter fun h => (a.get? h).isSome).length := by
  intro a log
  have faithful : Faithful a log := faithful_play calls bounded
  refine ⟨faithful.once, fun h => ⟨faithful.resolves h, faithful.names h, ?_⟩,
    fun call k other => get?_perform faithful.tidy call other, ?_⟩
  · rw [map_remove?, faithful.names]
  · rw [faithful.size, live]
    refine congrArg List.length (List.filter_congr fun h inside => ?_)
    rw [Bool.eq_iff_iff, decide_eq_true_eq, faithful.resolves]
    exact ⟨fun out => ⟨inside, out⟩, And.right⟩

/-- A slot is used again: its first handle is stale, the second one names the new value. -/
theorem handles_never_alias_reuse :
    let calls : List (Call Nat) := [.insert 7, .insert 8, .remove ⟨0, 0⟩, .insert 9,
      .update ⟨0, 0⟩ (· + 1), .update ⟨0, 1⟩ (· + 1), .remove ⟨0, 0⟩]
    let a := (play calls).1
    let log := (play calls).2
    issued log = [⟨0, 1⟩, ⟨1, 0⟩, ⟨0, 0⟩] ∧ (issued log).Nodup ∧
      a.get? ⟨0, 0⟩ = none ∧ a.get? ⟨0, 1⟩ = some 10 ∧ a.size = 2 := by
  intro calls a log
  have bounded (slot : Nat) : emptied (play calls).2 slot < 2 ^ 32 :=
    Nat.lt_of_le_of_lt List.countP_le_length (by decide)
  obtain ⟨once, names, -, size⟩ := handles_never_alias calls bounded
  refine ⟨by decide, once, ?_, ?_, size.trans (by decide)⟩
  · exact (names ⟨0, 0⟩).2.1.trans (by decide)
  · exact (names ⟨0, 1⟩).2.1.trans (by decide)

end FactBase.Arena

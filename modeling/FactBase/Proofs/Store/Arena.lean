import FactBase.Arena
import FactBase.Proofs.Basic
import Mathlib.Data.List.Nodup
import Mathlib.Data.List.Perm.Subperm

/-!
# What handles name

Inserting, changing and removing a value affect what one handle names and leave every other handle
as it is. This needs that the slots kept for reuse are empty and kept once.
-/

namespace FactBase.Arena

variable {α : Type}

/-- The slots kept for reuse exist, are empty and are kept once. -/
structure Tidy (a : Arena α) : Prop where
  vacant : ∀ slot ∈ a.free, ∃ g, a.slots[slot]? = some ⟨g, none⟩
  once : a.free.Nodup

theorem tidy_empty : Tidy ({} : Arena α) := ⟨by simp, List.nodup_nil⟩

theorem get?_eq_some {a : Arena α} {h : Handle} {x : α} :
    a.get? h = some x ↔ a.slots[h.slot]? = some ⟨h.generation, some x⟩ := by
  unfold get?
  cases found : a.slots[h.slot]? with
  | none => simp
  | some s =>
    obtain ⟨g, occupant⟩ := s
    by_cases same : g = h.generation
    · simp [same]
    · simp [same]

theorem generation_ne {h k : Handle} (slot : h.slot = k.slot) (other : k ≠ h) :
    h.generation ≠ k.generation := by
  intro generation
  obtain ⟨_, _⟩ := h
  obtain ⟨_, _⟩ := k
  simp only at slot generation
  exact other (by rw [slot, generation])

/-- Two handles of one slot that both name something are the same. -/
theorem eq_of_slot_eq {a : Arena α} {h k : Handle} {x y : α} (hx : a.get? h = some x)
    (hy : a.get? k = some y) (same : h.slot = k.slot) : h = k := by
  rw [get?_eq_some] at hx hy
  rw [same, hy] at hx
  obtain ⟨slot, generation⟩ := h
  obtain ⟨_, _⟩ := k
  simp only [Option.some.injEq, ArenaSlot.mk.injEq] at hx
  simp only at same
  rw [same, hx.1]

theorem get?_update (a : Arena α) (h k : Handle) (f : α → α) :
    (a.update h f).get? k = if k = h then (a.get? h).map f else a.get? k := by
  unfold update
  cases found : a.get? h with
  | none =>
    by_cases same : k = h
    · simp [same, found]
    · simp [same]
  | some x =>
    have filled := get?_eq_some.mp found
    have bound := (Array.getElem?_eq_some_iff.mp filled).1
    by_cases same : k = h
    · subst same
      simp [get?, bound]
    · rw [if_neg same]
      by_cases slot : h.slot = k.slot
      · have other := generation_ne slot same
        have before : a.slots[k.slot]? = some ⟨h.generation, some x⟩ := slot ▸ filled
        have after : (a.slots.setIfInBounds h.slot ⟨h.generation, some (f x)⟩)[k.slot]? =
            some ⟨h.generation, some (f x)⟩ := by
          rw [slot] at bound ⊢
          rw [Array.getElem?_setIfInBounds_self_of_lt bound]
        simp [get?, before, after, other]
      · simp [get?, Array.getElem?_setIfInBounds_ne slot]

theorem update_of_some {a : Arena α} {h : Handle} {x : α} (found : a.get? h = some x) (f : α → α) :
    a.update h f = { a with slots := a.slots.setIfInBounds h.slot ⟨h.generation, some (f x)⟩ } := by
  rw [update, found]

theorem update_of_none {a : Arena α} {h : Handle} (missing : a.get? h = none) (f : α → α) :
    a.update h f = a := by
  rw [update, missing]

theorem update_congr {a : Arena α} {h : Handle} {f g : α → α}
    (same : ∀ x, a.get? h = some x → f x = g x) : a.update h f = a.update h g := by
  cases found : a.get? h with
  | none => rw [update_of_none found, update_of_none found]
  | some x => rw [update_of_some found, update_of_some found, same x found]

/-- A change that changes nothing. -/
theorem update_self {a : Arena α} {h : Handle} {f : α → α} (same : ∀ x, a.get? h = some x → f x = x) :
    a.update h f = a := by
  cases found : a.get? h with
  | none => exact update_of_none found f
  | some x =>
    obtain ⟨bound, filled⟩ := Array.getElem?_eq_some_iff.mp (get?_eq_some.mp found)
    have kept : a.slots.setIfInBounds h.slot ⟨h.generation, some x⟩ = a.slots := by
      rw [← filled, Array.setIfInBounds, dif_pos bound, Array.set_getElem_self]
    rw [update_of_some found, same x found, kept]

/-- One change after the other. -/
theorem update_update (a : Arena α) (h : Handle) (f g : α → α) :
    (a.update h f).update h g = a.update h (g ∘ f) := by
  cases found : a.get? h with
  | none => rw [update_of_none found, update_of_none found, update_of_none found]
  | some x =>
    have changed : (a.update h f).get? h = some (f x) := by
      rw [get?_update, if_pos rfl, found]
      rfl
    rw [update_of_some changed, update_of_some found, update_of_some found]
    exact congrArg (fun slots => { a with slots }) (Array.setIfInBounds_setIfInBounds ..)

/-- Two changes that can be swapped where they concern the same value. -/
theorem update_swap (a : Arena α) (h k : Handle) {f g : α → α} (swap : ∀ x, g (f x) = f (g x)) :
    (a.update h f).update k g = (a.update k g).update h f := by
  by_cases same : h = k
  · rw [same, update_update, update_update]
    exact update_congr fun x _ => swap x
  have after (h k : Handle) (other : h ≠ k) (f : α → α) : (a.update h f).get? k = a.get? k := by
    rw [get?_update, if_neg fun same => other same.symm]
  cases here : a.get? h with
  | none => rw [update_of_none here, update_of_none ((after k h (Ne.symm same) g).trans here)]
  | some x =>
    cases there : a.get? k with
    | none => rw [update_of_none there, update_of_none ((after h k same f).trans there)]
    | some y =>
      have slots : h.slot ≠ k.slot := fun slot => same (eq_of_slot_eq here there slot)
      rw [update_of_some ((after h k same f).trans there), update_of_some here,
        update_of_some ((after k h (Ne.symm same) g).trans here), update_of_some there]
      exact congrArg (fun slots => { a with slots }) (Array.setIfInBounds_comm _ _ slots)

/-- Two values are changed alike in either order. -/
theorem update_comm (a : Arena α) (h k : Handle) (f : α → α) :
    (a.update h f).update k f = (a.update k f).update h f := update_swap a h k fun _ => rfl

/-- A change that is taken back leaves nothing behind. -/
theorem update_cancel (a : Arena α) (h : Handle) {f g : α → α}
    (back : ∀ x, a.get? h = some x → g (f x) = x) : (a.update h f).update h g = a :=
  (update_update a h f g).trans (update_self back)

/-- A changed value goes like the value before it was changed. -/
theorem remove?_update (a : Arena α) (h : Handle) (f : α → α) :
    (a.update h f).remove? h = (a.remove? h).map fun x => (f x.1, x.2) := by
  unfold remove?
  cases found : a.get? h with
  | none => rw [update_of_none found, found, Option.map_none]
  | some x =>
    rw [get?_update, if_pos rfl, found, update_of_some found]
    simp

theorem Tidy.update {a : Arena α} (tidy : a.Tidy) (h : Handle) (f : α → α) :
    (a.update h f).Tidy := by
  unfold Arena.update
  cases found : a.get? h with
  | none => exact tidy
  | some x =>
    refine ⟨fun slot hs => ?_, tidy.once⟩
    obtain ⟨g, empty⟩ := tidy.vacant slot hs
    refine ⟨g, ?_⟩
    have apart : h.slot ≠ slot := by
      intro same
      rw [get?_eq_some, same, empty] at found
      simp at found
    rw [Array.getElem?_setIfInBounds_ne apart]
    exact empty

/-- The handle of what is stored next. -/
def nextHandle (a : Arena α) : Handle :=
  match a.free with
  | slot :: _ => ⟨slot, (a.slots[slot]?.map (·.generation)).getD 0⟩
  | [] => ⟨a.slots.size, 0⟩

theorem insert_fst (a : Arena α) (x : α) : (a.insert x).1 = a.nextHandle := by
  unfold insert nextHandle
  cases a.free <;> rfl

theorem Tidy.nextHandle_update {a : Arena α} (tidy : a.Tidy) (h : Handle) (f : α → α) :
    (a.update h f).nextHandle = a.nextHandle := by
  unfold Arena.update
  split
  · rename_i x found
    unfold nextHandle
    dsimp only
    split
    · rename_i slot free kept
      obtain ⟨g, empty⟩ := tidy.vacant slot (kept ▸ List.mem_cons_self)
      have apart : h.slot ≠ slot := by
        intro same
        rw [get?_eq_some, same, empty] at found
        simp at found
      rw [Array.getElem?_setIfInBounds_ne apart]
    · rw [Array.size_setIfInBounds]
  · rfl

/-- The handle of what is stored next names nothing yet. -/
theorem Tidy.get?_nextHandle {a : Arena α} (tidy : a.Tidy) : a.get? a.nextHandle = none := by
  unfold nextHandle
  split
  · rename_i slot free kept
    obtain ⟨g, empty⟩ := tidy.vacant slot (kept ▸ List.mem_cons_self)
    simp [get?, empty]
  · simp [get?]

/-- A new handle named nothing before, and every other handle names what it did. -/
theorem insert_spec {a b : Arena α} {x : α} {h : Handle} (tidy : a.Tidy) (new : a.insert x = (h, b)) :
    a.get? h = none ∧ b.Tidy ∧ ∀ k, b.get? k = if k = h then some x else a.get? k := by
  unfold insert at new
  split at new
  · rename_i slot free kept
    obtain ⟨g, empty⟩ := tidy.vacant slot (kept ▸ List.mem_cons_self)
    have bound := (Array.getElem?_eq_some_iff.mp empty).1
    rw [empty] at new
    obtain ⟨rfl, rfl⟩ := Prod.mk.inj new
    have once := kept ▸ tidy.once
    refine ⟨by simp [get?, empty], ⟨fun other ho => ?_, (List.nodup_cons.mp once).2⟩, fun k => ?_⟩
    · obtain ⟨g', vacant⟩ := tidy.vacant other (kept ▸ List.mem_cons_of_mem slot ho)
      refine ⟨g', ?_⟩
      have apart : slot ≠ other := fun same => (List.nodup_cons.mp once).1 (same ▸ ho)
      rw [Array.getElem?_setIfInBounds_ne apart]
      exact vacant
    · obtain ⟨ks, kg⟩ := k
      by_cases same : slot = ks
      · subst same
        simp [get?, Array.getElem?_setIfInBounds_self_of_lt bound, empty, eq_comm]
      · simp [get?, Array.getElem?_setIfInBounds_ne same, Ne.symm same]
  · rename_i kept
    obtain ⟨rfl, rfl⟩ := Prod.mk.inj new
    refine ⟨by simp [get?], ⟨by simp, List.nodup_nil⟩, fun k => ?_⟩
    obtain ⟨ks, kg⟩ := k
    by_cases same : ks = a.slots.size
    · subst same
      simp [get?, eq_comm]
    · simp [get?, Array.getElem?_push, same]

/-- A removed value is named by nothing any more, and every other handle names what it did. -/
theorem remove?_spec {a b : Arena α} {x : α} {h : Handle} (tidy : a.Tidy)
    (removed : a.remove? h = some (x, b)) :
    a.get? h = some x ∧ b.Tidy ∧ ∀ k, b.get? k = if k = h then none else a.get? k := by
  unfold remove? at removed
  cases found : a.get? h with
  | none => simp [found] at removed
  | some y =>
    rw [found] at removed
    obtain ⟨rfl, rfl⟩ := Prod.mk.inj (Option.some.inj removed)
    have filled := get?_eq_some.mp found
    have bound := (Array.getElem?_eq_some_iff.mp filled).1
    have occupied : h.slot ∉ a.free := by
      intro mem
      obtain ⟨g, empty⟩ := tidy.vacant h.slot mem
      rw [filled] at empty
      simp at empty
    refine ⟨rfl, ⟨fun slot hs => ?_, List.nodup_cons.mpr ⟨occupied, tidy.once⟩⟩, fun k => ?_⟩
    · rcases List.mem_cons.mp hs with rfl | hs
      · exact ⟨_, Array.getElem?_setIfInBounds_self_of_lt bound⟩
      · obtain ⟨g, empty⟩ := tidy.vacant slot hs
        refine ⟨g, ?_⟩
        have apart : h.slot ≠ slot := fun same => occupied (same ▸ hs)
        rw [Array.getElem?_setIfInBounds_ne apart]
        exact empty
    · by_cases slot : h.slot = k.slot
      · have vacated : (a.slots.setIfInBounds h.slot ⟨h.generation + 1, none⟩)[k.slot]? =
            some ⟨h.generation + 1, none⟩ := by
          rw [slot] at bound ⊢
          rw [Array.getElem?_setIfInBounds_self_of_lt bound]
        have before : a.slots[k.slot]? = some ⟨h.generation, some y⟩ := slot ▸ filled
        by_cases same : k = h
        · subst same
          simp [get?, vacated]
        · simp [get?, vacated, before, same, generation_ne slot same]
      · have apart : k ≠ h := fun same => slot (congrArg Handle.slot same.symm)
        simp [get?, Array.getElem?_setIfInBounds_ne slot, apart]

theorem mem_values {a : Arena α} {h : Handle} {x : α} (found : a.get? h = some x) :
    x ∈ a.values := by
  rw [get?_eq_some] at found
  exact List.mem_filterMap.mpr
    ⟨_, Array.mem_toList_iff.mpr (Array.mem_of_getElem? found), rfl⟩

/-- Every stored value has a handle. -/
theorem exists_of_mem_values {a : Arena α} {x : α} (inside : x ∈ a.values) :
    ∃ h, a.get? h = some x := by
  obtain ⟨slot, stored, occupied⟩ := List.mem_filterMap.mp inside
  obtain ⟨i, here⟩ := Array.mem_iff_getElem?.mp (Array.mem_toList_iff.mp stored)
  refine ⟨⟨i, slot.generation⟩, get?_eq_some.mpr ?_⟩
  rw [here, ← occupied]

/-- The stored values before and behind an occupied slot. -/
theorem values_split {a : Arena α} {h : Handle} {x : α} (found : a.get? h = some x) :
    ∃ front back, a.values = front ++ x :: back ∧ ∀ s : ArenaSlot α,
      (a.slots.setIfInBounds h.slot s).toList.filterMap (·.occupant) =
        front ++ s.occupant.toList ++ back := by
  obtain ⟨bound, here⟩ := Array.getElem?_eq_some_iff.mp (get?_eq_some.mp found)
  have inside : h.slot < a.slots.toList.length := by simpa using bound
  refine ⟨(a.slots.toList.take h.slot).filterMap (·.occupant),
    (a.slots.toList.drop (h.slot + 1)).filterMap (·.occupant), ?_, fun s => ?_⟩
  · rw [values]
    conv_lhs => rw [← List.take_append_drop h.slot a.slots.toList,
      List.drop_eq_getElem_cons inside]
    rw [List.filterMap_append, List.filterMap_cons, Array.getElem_toList, here]
  · rw [Array.toList_setIfInBounds, List.set_eq_take_append_cons_drop, if_pos inside,
      List.filterMap_append, List.filterMap_cons]
    cases s.occupant <;> simp

/-- Changing a value leaves what it has in common with the values before. -/
theorem map_values_update {β : Type} (a : Arena α) (h : Handle) (u : α → α) (g : α → β)
    (same : ∀ x, g (u x) = g x) : (a.update h u).values.map g = a.values.map g := by
  unfold update
  split
  · rename_i x found
    obtain ⟨front, back, before, after⟩ := values_split found
    rw [values, after, before]
    simp [same]
  · rfl

theorem values_remove? {a b : Arena α} {h : Handle} {x : α}
    (removed : a.remove? h = some (x, b)) : a.values.Perm (x :: b.values) := by
  unfold remove? at removed
  split at removed
  · rename_i y found
    obtain ⟨rfl, rfl⟩ := Prod.mk.inj (Option.some.inj removed)
    obtain ⟨front, back, before, after⟩ := values_split found
    rw [before, values, after]
    simp
  · cases removed

theorem values_insert {a b : Arena α} {x : α} {h : Handle} (tidy : a.Tidy)
    (new : a.insert x = (h, b)) : b.values.Perm (x :: a.values) := by
  obtain ⟨free, tidy', names⟩ := insert_spec tidy new
  have found : b.get? h = some x := by rw [names, if_pos rfl]
  obtain ⟨front, back, before, after⟩ := values_split found
  unfold insert at new
  split at new
  · rename_i slot rest kept
    obtain ⟨g, empty⟩ := tidy.vacant slot (kept ▸ List.mem_cons_self)
    obtain ⟨rfl, rfl⟩ := Prod.mk.inj new
    have emptied := after ⟨g, none⟩
    obtain ⟨bound, here⟩ := Array.getElem?_eq_some_iff.mp empty
    have restored : (a.slots.setIfInBounds slot ⟨(a.slots[slot]?.map (·.generation)).getD 0,
        some x⟩).setIfInBounds slot ⟨g, none⟩ = a.slots := by
      rw [Array.setIfInBounds_setIfInBounds, ← here, Array.setIfInBounds_def, dif_pos bound,
        Array.set_getElem_self]
    have original : a.values = front ++ back := by
      rw [values, ← restored]
      simpa using emptied
    rw [before, original]
    exact List.perm_middle
  · obtain ⟨rfl, rfl⟩ := Prod.mk.inj new
    have appended : values { slots := a.slots.push ⟨0, some x⟩, free := [], size := a.size + 1 } =
        a.values ++ [x] := by
      simp [values]
    rw [appended]
    exact List.perm_append_singleton x a.values

/-- What the stored values give depends on what handles name alone. -/
theorem flatMap_values_congr {β : Type} {view : α → List β} {a b : Arena α}
    (same : ∀ h, (b.get? h).elim [] view = (a.get? h).elim [] view) :
    b.values.flatMap view = a.values.flatMap view := by
  have slots (a : Arena α) : a.values.flatMap view =
      a.slots.toList.flatMap fun s => s.occupant.elim [] view := by
    rw [values]
    generalize a.slots.toList = ss
    induction ss with
    | nil => rfl
    | cons s ss ih => cases found : s.occupant <;> simp [found, ih]
  have named (a : Arena α) (i : Nat) (g : UInt32) : (a.get? ⟨i, g⟩).elim [] view =
      (a.slots[i]?).elim [] fun s => if s.generation = g then s.occupant.elim [] view else [] := by
    unfold get?
    cases a.slots[i]? with
    | none => rfl
    | some s =>
      dsimp only [Option.elim_some]
      split <;> rfl
  rw [slots, slots]
  refine flatMap_congr_getElem? fun i => ?_
  simp only [Array.getElem?_toList]
  have here (g : UInt32) := same ⟨i, g⟩
  simp only [named] at here
  cases ha : a.slots[i]? with
  | none =>
    cases hb : b.slots[i]? with
    | none => rfl
    | some t => simpa [ha, hb] using here t.generation
  | some s =>
    cases hb : b.slots[i]? with
    | none => simpa [ha, hb] using here s.generation
    | some t =>
      have first := here s.generation
      have second := here t.generation
      simp only [ha, hb, Option.elim_some, if_true] at first second ⊢
      -- A slot that was used again gives nothing, neither before nor after.
      by_cases same : t.generation = s.generation
      · rw [if_pos same] at first
        exact first
      · rw [if_neg same] at first
        rw [if_neg (Ne.symm same)] at second
        rw [← first, second]

/-- There are no more stored values than slots. -/
theorem length_le_slots {a : Arena α} {hs : List Handle} (once : hs.Nodup)
    (stored : ∀ h ∈ hs, (a.get? h).isSome) : hs.length ≤ a.slots.size := by
  have slots : (hs.map (·.slot)).Nodup := by
    refine once.map_on fun h hh k hk same => ?_
    obtain ⟨x, hx⟩ := Option.isSome_iff_exists.mp (stored h hh)
    obtain ⟨y, hy⟩ := Option.isSome_iff_exists.mp (stored k hk)
    exact eq_of_slot_eq hx hy same
  have bounded : hs.map (·.slot) ⊆ List.range a.slots.size := by
    intro slot hs'
    obtain ⟨h, hh, rfl⟩ := List.mem_map.mp hs'
    obtain ⟨x, hx⟩ := Option.isSome_iff_exists.mp (stored h hh)
    exact List.mem_range.mpr (Array.getElem?_eq_some_iff.mp (get?_eq_some.mp hx)).1
  simpa using (slots.subperm bounded).length_le

end FactBase.Arena

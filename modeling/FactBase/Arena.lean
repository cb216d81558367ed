import FactBase.Handle
/-! Storage in slots that are used again. A slot counts how often it was emptied, and a handle
remembers the count it was issued at, so a handle of an earlier occupant names nothing. The count
wraps round after 2 ^ 32 occupants of one slot. -/
namespace FactBase

structure ArenaSlot (α : Type) where
  generation : UInt32
  occupant : Option α
deriving Inhabited

structure Arena (α : Type) where
  slots : Array (ArenaSlot α) := #[]
  /-- Empty slots, the one emptied last in front. -/
  free : List Nat := []
  /-- How many slots are occupied. -/
  size : Nat := 0
deriving Inhabited

namespace Arena
variable {α : Type}

/-- Puts a value into the slot emptied last, or into a new one if none is empty. -/
def insert (a : Arena α) (x : α) : Handle × Arena α :=
  match a.free with
  | slot :: free =>
    let generation := (a.slots[slot]?.map (·.generation)).getD 0
    (⟨slot, generation⟩,
      { slots := a.slots.setIfInBounds slot ⟨generation, some x⟩, free, size := a.size + 1 })
  | [] =>
    (⟨a.slots.size, 0⟩, { slots := a.slots.push ⟨0, some x⟩, free := [], size := a.size + 1 })

/-- What a handle names. -/
def get? (a : Arena α) (h : Handle) : Option α :=
  match a.slots[h.slot]? with
  | some s => if s.generation = h.generation then s.occupant else none
  | none => none

/-- Changes what a handle names; a handle that names nothing changes nothing. -/
def update (a : Arena α) (h : Handle) (f : α → α) : Arena α :=
  match a.get? h with
  | some x => { a with slots := a.slots.setIfInBounds h.slot ⟨h.generation, some (f x)⟩ }
  | none => a

/-- Empties the slot of a handle. -/
def remove? (a : Arena α) (h : Handle) : Option (α × Arena α) :=
  match a.get? h with
  | some x => some (x,
      { slots := a.slots.setIfInBounds h.slot ⟨h.generation + 1, none⟩
        free := h.slot :: a.free
        size := a.size - 1 })
  | none => none

/-- Every stored value with its handle, by slot. -/
def toList (a : Arena α) : List (Handle × α) :=
  a.slots.toList.zipIdx.filterMap fun (s, slot) => s.occupant.map (⟨slot, s.generation⟩, ·)

/-- The stored values, by slot. -/
def values (a : Arena α) : List α := a.slots.toList.filterMap (·.occupant)

end Arena
end FactBase

import FactBase.Proofs.Process.Consistency
import FactBase.Proofs.Store.Numbering

/-!
# Numbers as clients see them

Clients and listeners only ever see facts that are numbered as they should be, and from one look to
the next numbers come and go as moves give and take them. Only a request to clear makes numbering
start again.
-/

namespace FactBase

open Store Process

variable {N σ α : Type}

variable [JoinNetwork N]

namespace Store

variable {s s' : Store N}

/-- Moves in a row give and take numbers in a row. -/
theorem Path.numbers (path : Path s s') (reached : s.Reached) :
    s'.Reached ∧ Relation.ReflTransGen Numbers s s' := by
  induction path with
  | refl => exact ⟨reached, .refl⟩
  | tail _ move ih =>
    obtain ⟨reached, numbers⟩ := ih
    exact ⟨reached.move move, numbers.tail (move.numbers reached.sound reached.numbered.below)⟩

omit [JoinNetwork N] in
/-- Chores leave the numbering alone. -/
theorem Chore.nextIndex (chore : Chore s s') (sound : s.Sound) : s'.nextIndex = s.nextIndex := by
  rcases chore.recorded sound with alike | ⟨guarded, rfl⟩ | collects
  · exact alike.nextIndex
  · rfl
  · exact collects.nextIndex

end Store

variable {n : Nat}

end FactBase

import Mathlib.Data.List.Chain
import Mathlib.Logic.Relation
import FactBase.Proofs.Process.Client
import FactBase.Proofs.Store.Move

/-!
# Trails

Whatever clients look at, they see one fact base after the other, and moves lead from each to the
next and from the last one to the fact base as it is. A trail says so.
-/

namespace FactBase

open Store

variable {N σ : Type}

theorem mem_looks {w : World N (Memo σ) (Store N)} {s : Store N} :
    s ∈ w.looks ↔ Entry.remark s ∈ w.journal := by
  rw [World.looks, List.mem_filterMap, ← Array.mem_toList_iff]
  constructor
  · rintro ⟨entry, inside, seen⟩
    cases entry with
    | notice n => cases seen
    | remark r =>
      obtain rfl := Option.some.inj seen
      exact inside
  · exact fun inside => ⟨_, inside, rfl⟩

variable {w w' : World N (Memo σ) (Store N)} {s : Store N}

theorem looks_push_notice (w : World N (Memo σ) (Store N)) (n : Notice) :
    World.looks { w with journal := w.journal.push (.notice n) } = w.looks := by
  simp [World.looks]

theorem looks_append_notices (w : World N (Memo σ) (Store N)) (ns : List Notice) :
    World.looks { w with journal := w.journal ++ (ns.map Entry.notice).toArray } = w.looks := by
  simp only [World.looks, Array.toList_append, List.filterMap_append]
  refine List.append_right_eq_self.mpr (List.filterMap_eq_nil_iff.mpr fun e inside => ?_)
  obtain ⟨n, -, rfl⟩ := List.mem_map.mp inside
  rfl

theorem looks_push_remark (w : World N (Memo σ) (Store N)) (s : Store N) :
    World.looks { w with journal := w.journal.push (.remark s) } = w.looks ++ [s] := by
  simp [World.looks]

variable [JoinNetwork N]

/-- Moves in a row. -/
abbrev Store.Path : Store N → Store N → Prop := Relation.ReflTransGen Move

theorem Store.Reached.path {s s' : Store N} (reached : s.Reached) (path : Path s s') : s'.Reached := by
  induction path with
  | refl => exact reached
  | tail _ move ih => exact ih.move move

/-- Moves lead from each look to the next and on to where the fact base is now. -/
def World.Trail (w : World N (Memo σ) (Store N)) : Prop := (w.looks ++ [w.store]).IsChain Path

/-- Nobody looks while the fact base moves on. -/
theorem World.Trail.go (trail : w.Trail) (looks : w'.looks = w.looks) (path : Path w.store w'.store) :
    w'.Trail := by
  unfold World.Trail at trail ⊢
  rw [List.isChain_append] at trail ⊢
  obtain ⟨before, -, last⟩ := trail
  rw [looks]
  refine ⟨before, List.isChain_singleton _, fun s final t here => ?_⟩
  obtain rfl : w'.store = t := by simpa using here
  exact (last s final w.store rfl).trans path

theorem World.Trail.move (trail : w.Trail) (move : Move w.store s) :
    World.Trail { w with store := s } :=
  trail.go rfl (.single move)

theorem World.Trail.look (trail : w.Trail) :
    World.Trail { w with journal := w.journal.push (.remark w.store) } := by
  unfold World.Trail at trail ⊢
  rw [looks_push_remark]
  refine List.isChain_append.mpr ⟨trail, List.isChain_singleton _, fun s final t here => ?_⟩
  obtain rfl : w.store = s := by simpa using final
  obtain rfl : w.store = t := by simpa using here
  exact .refl

/-- Moves lead from each look to all later ones. -/
theorem World.Trail.pairwise (trail : w.Trail) : (w.looks ++ [w.store]).Pairwise Path :=
  List.isChain_iff_pairwise.mp trail

end FactBase

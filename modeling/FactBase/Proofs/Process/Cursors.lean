import FactBase.Proofs.Process.Consistency
import FactBase.Proofs.Store.Cursors

/-!
# Walks that clients take

A client may walk through the facts of any fact base that it looks at, and declare modules as it
likes before it does. The walks meet exactly the asserted facts that they are to meet, and end.
-/

namespace FactBase

open Store Process

variable {N σ α : Type} [JoinNetwork N]

/-- The fact base with other modules declared and another one current. -/
def Store.within (s : Store N) (modules : List (String × List String)) (currentModule : String) :
    Store N :=
  { s with templates := { s.templates with modules, currentModule } }

/-- What walks depend on is found in every fact base that is reached, whatever its modules are. -/
theorem Store.Reached.walked_within {s : Store N} (reached : s.Reached)
    (modules : List (String × List String)) (currentModule : String) :
    (s.within modules currentModule).Walked := by
  have declared : Quiet [] s (s.within modules currentModule) := .unchanged
  obtain ⟨busy, once, issued, filled⟩ := reached.reachable.tallied
  have consistent := (reached.sound.quiet declared).toConsistent
  exact consistent.walked (reached.loose.of_facts_eq rfl) ⟨busy, once, issued, filled⟩

/-- Whatever clients have done and whatever modules are declared, the walks by cursor go through the
asserted facts, those of a template, and those in scope, in their order and once each, and end. -/
theorem cursors_walk_asserted {p : Process N (Memo σ) (Store N) α} (client : Client p)
    (config : Config) (network : N) (contentHash : TemplateId → List Value → UInt64) (notes : σ)
    {s : Store N}
    (seen : s ∈ (p.aftermath (outset (Store.fresh config network contentHash) notes)).looks)
    (modules : List (String × List String)) (currentModule : String) :
    (s.within modules currentModule).Walked := by
  obtain ⟨reached, -⟩ := (client.clientOf.script.seen_trivial config network contentHash notes).looks
    s (mem_looks.mp seen)
  exact reached.walked_within modules currentModule

/-- A lamp in a module that nobody imports stands between two others. A walk through the facts in
scope passes over it, and over the others once the module is current. -/
theorem cursors_walk_asserted_lamp :
    let quiet : Hooks MatchCounter (Memo Unit) (Store MatchCounter) := fun _ _ => pure ()
    let lamps : Process MatchCounter (Memo Unit) (Store MatchCounter) Unit := do
      let _ ← ask quiet (.defineModule "CELLAR" [])
      let _ ← ask quiet (.defineTemplate { name := "dim", module := "CELLAR" })
      let _ ← ask quiet (.assertOrdered "lamp" [.integer 1])
      let _ ← ask quiet (.createFact "dim")
      let _ ← ask quiet (.assertAt ⟨1, 0⟩ .tail)
      let _ ← ask quiet (.assertOrdered "lamp" [.integer 2])
      let _ ← look
    ∃ s ∈ (lamps.aftermath (outset (Store.fresh {} {} fun _ _ => 0) ())).looks,
      s.order = [⟨0, 0⟩, ⟨1, 0⟩, ⟨2, 0⟩] ∧ s.Walked ∧
      Visits s.nextInScope? none [⟨0, 0⟩, ⟨2, 0⟩] ∧ s.Seeks (some ⟨0, 0⟩) (some ⟨2, 0⟩) ∧
      Visits (s.within s.templates.modules "CELLAR").nextInScope? none [⟨1, 0⟩] := by
  intro quiet lamps
  have rests (id : ListenerId) (e : Event) : Client (quiet id e) := .pure ()
  have client : Client lamps :=
    .bind (.ask rests _) fun _ => .bind (.ask rests _) fun _ => .bind (.ask rests _) fun _ =>
      .bind (.ask rests _) fun _ => .bind (.ask rests _) fun _ => .bind (.ask rests _) fun _ =>
        .bind .look fun _ => .pure ()
  have listed : ((lamps.aftermath (outset (Store.fresh {} {} fun _ _ => 0) ())).looks[0]?).map
      (fun s => (s.order, s.order.filter s.isInScope, s.nextInScope? (some ⟨0, 0⟩),
        s.order.filter (s.within s.templates.modules "CELLAR").isInScope)) =
      some ([⟨0, 0⟩, ⟨1, 0⟩, ⟨2, 0⟩], [⟨0, 0⟩, ⟨2, 0⟩], some ⟨2, 0⟩, [⟨1, 0⟩]) := by decide +kernel
  obtain ⟨s, found, lists⟩ := Option.map_eq_some_iff.mp listed
  obtain ⟨order, visible, behind, beneath⟩ :
      s.order = _ ∧ s.order.filter s.isInScope = _ ∧ s.nextInScope? (some ⟨0, 0⟩) = _ ∧
        s.order.filter (s.within s.templates.modules "CELLAR").isInScope = _ := by
    simpa only [Prod.mk.injEq] using lists
  have seen := List.mem_of_getElem? found
  have walked : s.Walked :=
    cursors_walk_asserted client {} {} (fun _ _ => 0) () seen s.templates.modules
      s.templates.currentModule
  have elsewhere :=
    cursors_walk_asserted client {} {} (fun _ _ => 0) () seen s.templates.modules "CELLAR"
  exact ⟨s, seen, order, walked, visible ▸ walked.inScope, (walked.seeks _ _).mpr behind.symm,
    beneath ▸ elsewhere.inScope⟩

end FactBase

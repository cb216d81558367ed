import FactBase.Proofs.Process.Requests

/-!
# Consistency as clients see it

Whatever clients do, every fact base that one of them looks at is consistent, in the middle of an
operation as well as between operations: steps lead to it from a fresh one.
-/

namespace FactBase

open Store Process

variable {N σ α : Type} [JoinNetwork N]

/-- Nothing has been seen at the outset. -/
theorem stepwise_outset {R : Condition N σ} (upheld : Upheld R) {s : Store N} (reached : s.Reached)
    {memo : Memo σ} (begins : R none memo.notes s) : Stepwise R none { store := s, host := memo } := by
  refine ⟨upheld, reached, begins, fun s inside => ?_, ?_, fun b inside => ?_, R.passes begins,
    reached⟩
  · simp at inside
  · exact List.isChain_singleton _
  · simp at inside

section Script

variable {ok : (α : Type) → Request α → Prop} {P : Store N → Prop}
  {p : Process N (Memo σ) (Store N) α}

/-- What scripts see of a fact base that was fresh when they set out, and where it breaks off. -/
theorem Script.seen (script : Script ok p) (upheld : Upheld (Always σ P))
    (keeps : ∀ {α : Type} (r : Request α) (start : Store N), ok α r →
      r.UpheldFrom start (Always σ P))
    (config : Config) (network : N) (contentHash : TemplateId → List Value → UInt64) (notes : σ)
    (begins : P (Store.fresh config network contentHash)) :
    Seen (Always σ P) (p.aftermath (outset (Store.fresh config network contentHash) notes)) :=
  ensures_aftermath (ensures_mono (script.runs keeps
    (stepwise_outset upheld (.fresh config network contentHash) begins))
    fun _ _ ⟨stepwise, _⟩ => stepwise.seen)

/-- Of what is seen of a fact base that was fresh when its client set out, all comes about by steps,
and what the client's requests uphold holds of it. -/
theorem Script.of_mem_looks (script : Script ok p) (upheld : Upheld (Always σ P))
    (keeps : ∀ {α : Type} (r : Request α) (start : Store N), ok α r →
      r.UpheldFrom start (Always σ P))
    (config : Config) (network : N) (contentHash : TemplateId → List Value → UInt64) (notes : σ)
    (begins : P (Store.fresh config network contentHash)) {s : Store N}
    (seen : s ∈ (p.aftermath (outset (Store.fresh config network contentHash) notes)).looks) :
    s.Reachable ∧ P s := by
  obtain ⟨reached, _, holds⟩ := (script.seen upheld keeps config network contentHash notes
    begins).looks s (mem_looks.mp seen)
  exact ⟨reached.reachable, holds⟩

/-- Every script goes from one look to the next by moves. -/
theorem Script.seen_trivial (script : Script ok p) (config : Config) (network : N)
    (contentHash : TemplateId → List Value → UInt64) (notes : σ) :
    Seen (Always σ fun _ => True)
      (p.aftermath (outset (Store.fresh config network contentHash) notes)) := by
  have kept {s s' : Store N} (_ : True) (_ : Step s s') : True := trivial
  exact script.seen (upheld_of_kept kept) (fun r start _ => r.upheldFrom_of_kept kept start) config
    network contentHash notes trivial

end Script

/-- All that is seen of a fact base that was fresh when its client set out comes about by steps. -/
theorem Client.reachable_of_mem_looks {p : Process N (Memo σ) (Store N) α} (client : Client p)
    (config : Config) (network : N) (contentHash : TemplateId → List Value → UInt64) (notes : σ)
    {s : Store N}
    (seen : s ∈ (p.aftermath (outset (Store.fresh config network contentHash) notes)).looks) :
    s.Reachable :=
  ((client.clientOf.script.seen_trivial config network contentHash notes).looks s
    (mem_looks.mp seen)).1.reachable

/-- However clients and listeners go about it, every fact base that one of them gets to see is
consistent, and facts that were never asserted stand aside in it. -/
theorem seen_consistent {p : Process N (Memo σ) (Store N) α} (client : Client p)
    (config : Config) (network : N) (contentHash : TemplateId → List Value → UInt64) (notes : σ)
    {s : Store N}
    (seen : s ∈ (p.aftermath (outset (Store.fresh config network contentHash) notes)).looks) :
    s.Consistent ∧ ∀ h f, s.get? h = some f → f.index = 0 → s.Aside h := by
  have sound := (client.reachable_of_mem_looks config network contentHash notes seen).sound
  exact ⟨sound.toConsistent, fun h f found unnumbered =>
    sound.aside found (unattached_of_unnumbered sound found unnumbered)⟩

/-- A listener looks around while a fact is retracted, which then is garbage. -/
theorem seen_consistent_while_retracting :
    let watch : Process MatchCounter (Memo Unit) (Store MatchCounter) Unit := do
      let _ ← look
    let hooks : Hooks MatchCounter (Memo Unit) (Store MatchCounter) := fun _ _ => watch
    let lamp : Process MatchCounter (Memo Unit) (Store MatchCounter) Unit := do
      let _ ← ask hooks (.addListener "watch" 0)
      let _ ← ask hooks (.assertOrdered "lamp" [.nil])
      let _ ← ask hooks (.retractAll 1)
    ∃ s ∈ (lamp.aftermath (outset (Store.fresh {} {} fun _ _ => 0) ())).looks,
      s.garbage.length = 1 ∧ s.Consistent := by
  intro watch hooks lamp
  have watches (id : ListenerId) (e : Event) : Client (hooks id e) := .bind .look fun _ => .pure ()
  have client : Client lamp :=
    .bind (.ask watches _) fun _ => .bind (.ask watches _) fun _ =>
      .bind (.ask watches _) fun _ => .pure ()
  have retracted : ((lamp.aftermath (outset (Store.fresh {} {} fun _ _ => 0) ())).looks[3]?).map
      (·.garbage.length) = some 1 := by decide +kernel
  obtain ⟨s, found, one⟩ := Option.map_eq_some_iff.mp retracted
  have seen := List.mem_of_getElem? found
  exact ⟨s, seen, one, (seen_consistent client {} {} (fun _ _ => 0) () seen).1⟩

end FactBase

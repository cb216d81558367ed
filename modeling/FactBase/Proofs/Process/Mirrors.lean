import FactBase.Proofs.Memory.Mirrors
import FactBase.Proofs.Process.Consistency
import FactBase.Proofs.Process.Recorders

/-!
# Memories that clients can rely on

The memory mirrors the facts after everything that clients do, also if their listeners change
patterns, as long as none of them replays facts while one is pending.
-/

namespace FactBase

open Store Process PatternTree

variable {α : Type} {probe : Probe}

/-- Whatever recorders do, the memory mirrors the entries that they recorded. -/
theorem Recorder.mirrors {kind : Hooks AlphaMemory (Memo Ledger) (Store AlphaMemory) → Prop}
    {p : Recording α} (recorder : Recorder kind p) (quiet : probe.Quiet) (config : Config)
    (contentHash : TemplateId → List Value → UInt64)
    (patient : ∀ hooks, kind hooks → Patient config.incrementalReset hooks) {a : α}
    {w : World AlphaMemory (Memo Ledger) (Store AlphaMemory)}
    (ran : p (outset (freshWith probe config contentHash) []) = .ok a w) :
    w.store.Mirrors probe w.host.notes := by
  have reached : (freshWith probe config contentHash).Reached :=
    .move (.fresh config {} contentHash) (.probe _ probe)
  have begun : Stepwise (Followed probe config.incrementalReset) none
      (outset (freshWith probe config contentHash) []) :=
    stepwise_outset upheld_followed reached (follows_freshWith quiet config contentHash)
  have runs := runs_recorder recorder patient begun
  unfold Runs Ensures at runs
  rw [ran] at runs
  have follows : w.store.Follows probe config.incrementalReset none w.host.notes := runs.1.holds
  exact follows.mirrors

/-- Without listeners, alpha memories are correct views of the facts after every row of operations,
whatever the configuration. -/
theorem memory_mirrors_facts (quiet : probe.Quiet) (config : Config)
    (contentHash : TemplateId → List Value → UInt64) {p : Recording α}
    (recorder : Recorder Unheard p) {a : α}
    {w : World AlphaMemory (Memo Ledger) (Store AlphaMemory)}
    (ran : p (outset (freshWith probe config contentHash) []) = .ok a w) :
    w.store.Mirrors probe w.host.notes :=
  recorder.mirrors quiet config contentHash
    (by rintro _ rfl; exact fun _ _ => .pure ()) ran

/-- A pattern of one lamp with two fields, each of which it may begin with. -/
theorem memory_mirrors_facts_lamp :
    let halves : Pattern := ⟨⟨0⟩, [⟨0, [.multi .any, .multi .any]⟩]⟩
    let lamps : Recording Unit := do
      let _ ← enter idle (.assertOrdered "lamp" [.nil])
      let _ ← enter idle (.addPattern halves "halves")
      let _ ← enter idle (.assertOrdered "lamp" [.nil, .nil])
      let _ ← enter idle (.retract ⟨0, 0⟩)
    ∃ w, lamps (outset (freshWith {} {} fun _ _ => 0) []) = .ok () w ∧
      (w.store.network.held ⟨0⟩ ⟨1, 0⟩).length = 3 ∧ w.store.Mirrors {} w.host.notes := by
  intro halves lamps
  have unheard : Unheard idle := rfl
  have recorder : Recorder Unheard lamps :=
    .bind (.enter unheard _ trivial) fun _ => .bind (.enter unheard _ trivial) fun _ =>
      .bind (.enter unheard _ trivial) fun _ => .bind (.enter unheard _ trivial) fun _ => .pure ()
  have held : (lamps.outcome (outset (freshWith {} {} fun _ _ => 0) [])).any
      (fun x => (x.2.store.network.held ⟨0⟩ ⟨1, 0⟩).length == 3) = true := by decide +kernel
  obtain ⟨⟨_, w⟩, ended, three⟩ := (Option.any_eq_true _ _).mp held
  have ran := outcome_eq_some.mp ended
  exact ⟨w, ran, beq_iff_eq.mp three,
    memory_mirrors_facts quiet_default {} (fun _ _ => 0) recorder ran⟩

/-- Listeners may add and remove patterns and replay facts. As long as they do not replay while a
fact is pending, no match is missed and none recorded twice. -/
theorem memory_mirrors_facts_patiently (quiet : probe.Quiet) (config : Config)
    (contentHash : TemplateId → List Value → UInt64) {p : Recording α}
    (recorder : Recorder (Patient config.incrementalReset) p) {a : α}
    {w : World AlphaMemory (Memo Ledger) (Store AlphaMemory)}
    (ran : p (outset (freshWith probe config contentHash) []) = .ok a w) :
    w.store.Mirrors probe w.host.notes :=
  recorder.mirrors quiet config contentHash (fun _ => id) ran

/-- A listener adds a pattern for lamps after the first one was asserted. -/
theorem memory_mirrors_facts_patiently_lamp :
    let any : Pattern := ⟨⟨0⟩, [⟨0, [.multi .any]⟩]⟩
    let hooks : Hooks AlphaMemory (Memo Ledger) (Store AlphaMemory) := fun _ e =>
      match e with
      | .afterAssert _ => do let _ ← enter idle (.addPattern any "any")
      | _ => pure ()
    let lamp : Recording Unit := do
      let _ ← enter hooks (.addListener "eager" 0)
      let _ ← enter hooks (.assertOrdered "lamp" [.nil])
    ∃ w, lamp (outset (freshWith {} {} fun _ _ => 0) []) = .ok () w ∧
      (w.store.network.held ⟨0⟩ ⟨0, 0⟩).length = 1 ∧ w.store.Mirrors {} w.host.notes := by
  intro any hooks lamp
  have patient : Patient true hooks := by
    intro id e
    cases e with
    | afterAssert h => exact .bind (.enter _ trivial (by simp)) fun _ => .pure ()
    | _ => exact .pure ()
  have recorder : Recorder (Patient true) lamp :=
    .bind (.enter patient _ trivial) fun _ => .bind (.enter patient _ trivial) fun _ => .pure ()
  have held : (lamp.outcome (outset (freshWith {} {} fun _ _ => 0) [])).any
      (fun x => (x.2.store.network.held ⟨0⟩ ⟨0, 0⟩).length == 1) = true := by decide +kernel
  obtain ⟨⟨_, w⟩, ended, one⟩ := (Option.any_eq_true _ _).mp held
  have ran := outcome_eq_some.mp ended
  exact ⟨w, ran, beq_iff_eq.mp one,
    memory_mirrors_facts_patiently quiet_default {} (fun _ _ => 0) recorder ran⟩

/-- A pattern that is added while a fact is pending gets its matches on the fact twice: the replay
finds the fact asserted already, and then the fact is matched. -/
theorem not_nodup_held_while_pending :
    ¬ ∀ (p : Recording Unit) (w : World AlphaMemory (Memo Ledger) (Store AlphaMemory)),
      Recorder Meddling p → p (outset (freshWith {} {} fun _ _ => 0) []) = .ok () w →
      ∀ x ∈ w.host.notes, ∀ h, (w.store.network.held x.1 h).Nodup := by
  intro once
  let any : Pattern := ⟨⟨0⟩, [⟨0, [.multi .any]⟩]⟩
  let hooks : Hooks AlphaMemory (Memo Ledger) (Store AlphaMemory) := fun _ e =>
    match e with
    | .beforeAssert _ => do let _ ← enter idle (.addPattern any "any")
    | _ => pure ()
  let lamp : Recording Unit := do
    let _ ← enter hooks (.addListener "eager" 0)
    let _ ← enter hooks (.assertOrdered "lamp" [.nil])
  have meddling : Meddling hooks := by
    intro id e
    cases e with
    | beforeAssert h => exact .bind (.enter _ trivial trivial) fun _ => .pure ()
    | _ => exact .pure ()
  have recorder : Recorder Meddling lamp :=
    .bind (.enter meddling _ trivial) fun _ => .bind (.enter meddling _ trivial) fun _ => .pure ()
  have twice : (lamp.outcome (outset (freshWith {} {} fun _ _ => 0) [])).any (fun x =>
      x.2.host.notes.any fun y =>
        x.2.store.network.held y.1 ⟨0, 0⟩ == [(1, [⟨0, 0, 0, 1⟩]), (1, [⟨0, 0, 0, 1⟩])]) = true := by
    decide +kernel
  obtain ⟨⟨_, w⟩, ended, listed⟩ := (Option.any_eq_true _ _).mp twice
  obtain ⟨y, hy, held⟩ := List.any_eq_true.mp listed
  have nodup := once lamp w recorder (outcome_eq_some.mp ended) y hy ⟨0, 0⟩
  rw [beq_iff_eq.mp held] at nodup
  simp at nodup

end FactBase

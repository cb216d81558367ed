import FactBase.Proofs.Pattern.Halting
import FactBase.Proofs.Process.Holdings
import FactBase.Proofs.Store.Interrupted

/-!
# What is left of a halted match run

A halt may be raised at any moment while a fact is matched, by a test or from outside. The network
was then given the first of the matches that it is given without the halt. In a replay these are
taken back, whoever began it.
-/

namespace FactBase

open Store Process

variable {N : Type} [JoinNetwork N]

/-- The replays that clients begin: one of a template to which they add a pattern, and those of the
templates that wait for one, in turn. -/
inductive Store.Replays (s : Store N) : Store N → TemplateId → Prop
  | added {p : Pattern} {label : String} {template : Template} {id : EntryId}
      {patterns : PatternNetwork} (known : s.templates.get? p.template = some template)
      (done : s.patterns.add template p label = .ok (id, patterns)) :
      s.Replays { s with patterns } p.template
  | waiting {u : Store N} {t : TemplateId} {front back : List TemplateId} {n : Nat}
      {notices : List Notice} (waits : s.patterns.needingReplay = front ++ t :: back)
      (before : replayAll front s = .ok (n, notices, u)) : s.Replays u t

theorem Store.Replays.custody {start : N} {b : Books} {s u : Store N} {t : TemplateId}
    (replays : s.Replays u t) (custody : s.InCustody start b) (new : NeverReuses start)
    (sound : s.Sound) : (∃ b', u.InCustody start b') ∧ u.Sound := by
  cases replays with
  | added =>
    have grown (patterns : PatternNetwork) : Quiet [] s { s with patterns } := .unchanged
    exact ⟨⟨b, { custody with }⟩, sound.quiet (grown _)⟩
  | waiting _ before =>
    exact ⟨custody.replayAll new sound before, sound.quiet (replayAll_spec sound before)⟩

/-- With tests that depend on the view alone, a match run that is halted at some moment has given
the network the first of the matches that it gives without the halt, under the same names, and all
of them unless its outcome says that it was halted. With a network that gives no name twice, a
replay that is not completed was halted at a fact, and one that is halted at a fact leaves it with
the matches it had before the replay reached it. -/
theorem halting_delivers_beginning {ok : (α : Type) → Request α → Prop} :
    (∀ {N : Type} [JoinNetwork N] {s : Store N} {h : Handle} {f : Fact},
      s.probe.predicates.Pure → s.get? h = some f → ∀ mode : MatchMode,
      ∃ o u whole v, s.matchFact h mode = .ok (o, u) ∧
        s.unhalted.matchFact h mode = .ok (whole, v) ∧ whole.halted = false ∧
        pushes o.notices <+: pushes whole.notices ∧ o.ids <+: whole.ids ∧
        (o.halted = false → pushes o.notices = pushes whole.notices ∧ o.ids = whole.ids)) ∧
    ∀ {N σ α : Type} [JoinNetwork N] {network : N}, NeverReuses network →
      ∀ {p : Process N (Memo σ) (Store N) α}, Script ok p →
      ∀ (config : Config) (contentHash : TemplateId → List Value → UInt64) (notes : σ),
      ∀ s ∈ (p.aftermath (outset (Store.fresh config network contentHash) notes)).looks,
      ∀ u t, s.Replays u t → ∀ o s', u.replay t = .ok (o, s') →
        (o.complete = false → ∃ h v, u.HaltsAt t h v) ∧
        ∀ h v, u.HaltsAt t h v → o.complete = false ∧ s'.matchedOf h = v.matchedOf h ∧
          v.matchedOf h = u.matchedOf h := by
  refine ⟨fun pure found mode => matchFact_cut pure found mode, ?_⟩
  intro N σ α _ network new p script config contentHash notes s seen u t replays o s' done
  obtain ⟨reached, b, custody⟩ := script.of_mem_looks upheld_custody
    (fun r origin _ => upheldFrom_custody new r origin) config network contentHash notes
    ⟨{}, .fresh config network contentHash⟩ seen
  obtain ⟨⟨b', custody'⟩, sound⟩ := replays.custody custody new reached.sound
  exact custody'.replay_halted new sound done

/-- Of a fact with two matches the first is found when a halt is raised. A replay takes it back,
though the network refuses to give it up. -/
theorem halting_delivers_beginning_lamp :
    let halves : Pattern := ⟨⟨0⟩, [⟨0, [.multi .any, .multi .any]⟩]⟩
    let quiet : Hooks LockedNetwork (Memo Unit) (Store LockedNetwork) := fun _ _ => pure ()
    let lamp : Process LockedNetwork (Memo Unit) (Store LockedNetwork) Unit := do
      let _ ← ask quiet (.assertOrdered "lamp" [.nil])
      let _ ← ask quiet (.addPattern halves "halves")
      let _ ← ask quiet (.setProbe fun p =>
        { p with interrupts := [false, false, false, false, false, true] })
      let _ ← look
    ∃ s ∈ (lamp.aftermath (outset (Store.fresh { incrementalReset := false } ⟨false, 0, 0⟩ fun _ _ => 0)
        ())).looks,
      (∃ o u whole v, s.matchFact ⟨0, 0⟩ .replay = .ok (o, u) ∧
        s.unhalted.matchFact ⟨0, 0⟩ .replay = .ok (whole, v) ∧ o.ids = [⟨1⟩] ∧
        whole.ids = [⟨1⟩, ⟨2⟩] ∧ pushes o.notices <+: pushes whole.notices) ∧
      ∃ o s' h v, s.replay ⟨0⟩ = .ok (o, s') ∧ o.complete = false ∧ s.HaltsAt ⟨0⟩ h v ∧
        s'.network.refused = 1 ∧ s'.matchedOf h = v.matchedOf h := by
  intro halves quiet lamp
  have rests (id : ListenerId) (e : Event) : Client (quiet id e) := .pure ()
  have client : Client lamp :=
    .bind (.ask rests _) fun _ => .bind (.ask rests _) fun _ => .bind (.ask rests _) fun _ =>
      .bind .look fun _ => .pure ()
  let seen : Option (Store LockedNetwork) := (lamp.aftermath (outset
    (Store.fresh { incrementalReset := false } ⟨false, 0, 0⟩ fun _ _ => 0) ())).looks[0]?
  have stored : seen.map (fun s => ((s.get? ⟨0, 0⟩).isSome, s.probe.predicates.rules.size,
      s.patterns.needingReplay)) = some (true, 0, [⟨0⟩]) := by decide +kernel
  have matched : seen.map (fun s => ((s.matchFact ⟨0, 0⟩ .replay).toOption.map (·.1.ids),
      (s.unhalted.matchFact ⟨0, 0⟩ .replay).toOption.map (·.1.ids))) =
      some (some [⟨1⟩], some [⟨1⟩, ⟨2⟩]) := by decide +kernel
  have replayed : seen.map (fun s => (s.replay ⟨0⟩).toOption.map
      fun x => (x.1.complete, x.2.network.refused)) = some (some (false, 1)) := by decide +kernel
  obtain ⟨s, found, facts⟩ := Option.map_eq_some_iff.mp stored
  rw [found] at matched replayed
  simp only [Prod.mk.injEq, Option.map_some, Option.some.injEq] at facts matched replayed
  obtain ⟨there, norules, waits⟩ := facts
  obtain ⟨f, there⟩ := Option.isSome_iff_exists.mp there
  have pure : s.probe.predicates.Pure := by
    intro i rule known
    have few := (Array.getElem?_eq_some_iff.mp known).1
    omega
  have inside := List.mem_of_getElem? found
  refine ⟨s, inside, ?_, ?_⟩
  · obtain ⟨o, u, whole, v, done, done', -, begun, -⟩ :=
      (@halting_delivers_beginning fun _ _ => True).1 pure there .replay
    rw [done, done'] at matched
    exact ⟨o, u, whole, v, done, done', Option.some.inj matched.1, Option.some.inj matched.2, begun⟩
  · obtain ⟨⟨o, s'⟩, done, outcome⟩ := Option.map_eq_some_iff.mp replayed
    obtain ⟨incomplete, refused⟩ := Prod.mk.inj outcome
    have done : s.replay ⟨0⟩ = .ok (o, s') := toOption_eq_some.mp done
    have waits : s.patterns.needingReplay = [] ++ ⟨0⟩ :: [] := waits
    obtain ⟨halted, restored⟩ := halting_delivers_beginning.2 (neverReuses_lockedNetwork ⟨false, 0, 0⟩)
      client.clientOf.script { incrementalReset := false } (fun _ _ => 0) () s inside s ⟨0⟩
      (.waiting waits rfl) o s' done
    obtain ⟨h, v, halts⟩ := halted incomplete
    exact ⟨o, s', h, v, done, incomplete, halts, refused, (restored h v halts).2.1⟩

end FactBase

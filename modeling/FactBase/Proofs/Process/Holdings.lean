import FactBase.Proofs.Process.Consistency
import FactBase.Proofs.Store.Rightful
import FactBase.Stats

/-!
# Custody of matches as clients see it

Whenever clients or listeners look, the join network's books and the facts agree: what was given and
not handed back is held by asserted facts, each name by the fact that it was given for. An alpha
memory is never handed back anything that it has no record of.
-/

namespace FactBase

open Store Process

variable {N σ α : Type}

section Upheld

variable [JoinNetwork N] {start : N}

theorem robust_custody :
    Robust (Always σ fun s : Store N => ∃ b, s.InCustody start b) where
  chore := fun ⟨b, custody⟩ reached chore =>
    ⟨b, custody.aloof reached.sound (chore.step.sound reached.sound) (chore.aloof reached.sound)
      chore.sameCounts⟩
  detach := fun ⟨_, custody⟩ reached done => custody.detach reached.sound done
  attach := fun ⟨b, custody⟩ reached found unattached _ _ step attaches _ =>
    ⟨b, custody.attach reached.sound (step.sound reached.sound) found unattached attaches⟩
  matchFact := fun ⟨_, custody⟩ reached asserted done =>
    ⟨_, (custody.matchFact reached.sound asserted done).1⟩
  release := fun ⟨b, custody⟩ reached done => by
    refine ⟨b, custody.aloof reached.sound (reached.move (.release done)).sound
      (aloof_release done) ?_⟩
    obtain ⟨-, -, rfl⟩ | ⟨f, -, -, -, rfl⟩ := release_eq_ok done <;> exact ⟨rfl, rfl⟩
  deinstall := fun ⟨b, custody⟩ reached done => by
    refine ⟨b, custody.aloof reached.sound (reached.move (.deinstall done)).sound
      (aloof_deinstall done) ?_⟩
    obtain ⟨-, -, rfl⟩ | ⟨f, atoms, -, -, -, -, rfl⟩ := deinstall_eq_ok done <;> exact ⟨rfl, rfl⟩

theorem upheld_custody : Upheld (Always σ fun s : Store N => ∃ b, s.InCustody start b) :=
  robust_custody.upheld

/-- Every request leaves matches in custody. -/
theorem upheldFrom_custody (new : NeverReuses start) (r : Request α) (origin : Store N) :
    r.UpheldFrom origin (Always σ fun s : Store N => ∃ b, s.InCustody start b) := by
  refine robust_custody.upheldFrom r origin fun governs _ => ?_
  cases r with
  | clear =>
    exact fun _ s ⟨b, custody⟩ reached empty collected =>
      ⟨b, custody.aloof reached.sound (reached.move (.renumber empty collected)).sound
        (.of_facts_eq rfl rfl rfl rfl rfl) ⟨rfl, rfl⟩⟩
  | addPattern =>
    exact fun _ _ _ _ _ ⟨_, custody⟩ reached done => custody.addPattern new reached.sound done
  | replayNewPatterns =>
    exact fun _ _ _ _ _ ⟨_, custody⟩ reached done => custody.replayAll new reached.sound done
  | removePattern id =>
    intro _ s s' ⟨b, custody⟩ _ done
    unfold Store.removePattern at done
    split at done
    · cases done
    · obtain rfl := Except.ok.inj done
      exact ⟨b, { custody with }⟩
  | setAllowDuplicates => exact fun _ _ ⟨b, custody⟩ _ => ⟨b, { custody with }⟩
  | setProbe => exact fun _ _ ⟨b, custody⟩ _ => ⟨b, { custody with }⟩
  | _ => exact governs.elim

end Upheld

/-! ### Books of a run -/

/-- The books of a fact base's network agree with its facts and its counts. -/
structure Store.Accounted (s : Store (Booked N)) : Prop where
  /-- No name is handed back twice, be it in one call or in two. -/
  returnedOnce : (s.network.books.calls.flatMap Prod.snd).Nodup
  /-- What is handed back for a fact was given for that fact. -/
  owned : ∀ call ∈ s.network.books.calls, ∀ id ∈ call.2, (id, call.1) ∈ s.network.books.given
  /-- The matches of the asserted facts are disjoint. -/
  apart : (s.held.map Prod.fst).Nodup
  /-- They are what was given and not handed back. -/
  given : s.network.books.given.Perm (s.network.books.handedBack ++ s.held)
  /-- Garbage and unattached facts hold none. -/
  bare : s.Bare
  counted : s.stats.counters.alphaMatches = s.stats.counters.matchRetractions + s.held.length

theorem Store.InCustody.accounted [JoinNetwork N] {start : N} {b : Books} {s : Store (Booked N)}
    (custody : s.InCustody ⟨start, {}⟩ b) (new : NeverReuses start) : s.Accounted := by
  obtain rfl := custody.deals.booked.2
  have once := ((custody.given.map Prod.fst).nodup_iff).mp (custody.deals.once new.booked)
  rw [List.map_append] at once
  have names : s.network.books.handedBack.map Prod.fst =
      s.network.books.calls.flatMap Prod.snd := by
    rw [Books.handedBack, List.map_flatMap]
    refine List.flatMap_congr fun call _ => ?_
    rw [List.map_map, show Prod.fst ∘ (fun id => (id, call.1)) = id from rfl, List.map_id]
  refine ⟨names ▸ (List.nodup_append'.mp once).1, fun call inside id taken => ?_,
    custody.held_nodup new.booked, custody.given, custody.bare, ?_⟩
  · refine custody.given.mem_iff.mpr (List.mem_append_left _ ?_)
    exact List.mem_flatMap.mpr ⟨call, inside, List.mem_map.mpr ⟨id, taken, rfl⟩⟩
  · change s.counters.alphaMatches = s.counters.matchRetractions + _
    rw [custody.found, custody.withdrawn, custody.given.length_eq, List.length_append]

/-- Whenever clients or listeners look at a fact base whose network gives no name twice, its matches
are accounted for, whether or not the network refuses to give them up. An alpha memory never
breaks off over what it is handed back. -/
theorem matches_accounted {ok : (α : Type) → Request α → Prop} :
    (∀ {N σ α : Type} [JoinNetwork N] {network : N},
      NeverReuses network → ∀ {p : Process (Booked N) (Memo σ) (Store (Booked N)) α},
      Script ok p → ∀ (config : Config) (contentHash : TemplateId → List Value → UInt64)
      (notes : σ), ∀ s ∈ (p.aftermath (outset (Store.fresh config ⟨network, {}⟩ contentHash)
        notes)).looks, s.Accounted) ∧
    ∀ {σ α : Type} {p : Process AlphaMemory (Memo σ) (Store AlphaMemory) α}, Script ok p →
      ∀ (config : Config) (contentHash : TemplateId → List Value → UInt64) (notes : σ) (b : Breach),
      Entry.notice (.broken b) ∈
        (p.aftermath (outset (Store.fresh config {} contentHash) notes)).journal →
      b.ofMatches = false := by
  refine ⟨fun {N σ α _ network} new {p} script config contentHash notes s seen => ?_,
    fun {σ α p} script config contentHash notes b broken => ?_⟩
  · obtain ⟨-, b, custody⟩ := script.of_mem_looks upheld_custody
      (fun r origin _ => upheldFrom_custody new.booked r origin) config ⟨network, {}⟩ contentHash
      notes ⟨{}, .fresh config _ contentHash⟩ seen
    exact custody.accounted new
  · have new : NeverReuses ({} : AlphaMemory) := AlphaMemory.neverReuses _
    obtain ⟨-, -, breaks⟩ := script.seen upheld_custody
      (fun r origin _ => upheldFrom_custody new r origin) config {} contentHash notes
      ⟨{}, .fresh config _ contentHash⟩
    obtain ⟨s, reached, ⟨_, _, custody⟩, fails⟩ := breaks b broken
    exact custody.rightful_fails reached.sound fails

/-- A replay is halted behind its first match, which the network refuses to give up. The replay that
makes up for it finds two matches, and these are held. -/
theorem matches_accounted_lamp :
    let halves : Pattern := ⟨⟨0⟩, [⟨0, [.multi .any, .multi .any]⟩]⟩
    let quiet : Hooks (Booked LockedNetwork) (Memo Unit) (Store (Booked LockedNetwork)) :=
      fun _ _ => pure ()
    let lamp : Process (Booked LockedNetwork) (Memo Unit) (Store (Booked LockedNetwork)) Unit := do
      let _ ← ask quiet (.assertOrdered "lamp" [.nil])
      let _ ← ask quiet (.setProbe fun p =>
        { p with interrupts := [false, false, false, false, false, true] })
      let _ ← ask quiet (.addPattern halves "halves")
      let _ ← ask quiet (.setProbe fun p => { p with halted := false })
      let _ ← ask quiet .replayNewPatterns
      let _ ← look
    ∃ s ∈ (lamp.aftermath (outset (Store.fresh {} ⟨⟨false, 0, 0⟩, {}⟩ fun _ _ => 0) ())).looks,
      s.network.books.calls = [(⟨0, 0⟩, [⟨1⟩])] ∧ s.network.network.refused = 1 ∧
        s.held = [(⟨2⟩, ⟨0, 0⟩), (⟨3⟩, ⟨0, 0⟩)] ∧ s.Accounted := by
  intro halves quiet lamp
  have rests (id : ListenerId) (e : Event) : Client (quiet id e) := .pure ()
  have client : Client lamp :=
    .bind (.ask rests _) fun _ => .bind (.ask rests _) fun _ => .bind (.ask rests _) fun _ =>
      .bind (.ask rests _) fun _ => .bind (.ask rests _) fun _ => .bind .look fun _ => .pure ()
  have looked : ((lamp.aftermath (outset
      (Store.fresh {} ⟨⟨false, 0, 0⟩, {}⟩ fun _ _ => 0) ())).looks[0]?).map (fun s =>
        (s.network.books.calls, s.network.network.refused, s.held)) =
      some ([(⟨0, 0⟩, [⟨1⟩])], 1, [(⟨2⟩, ⟨0, 0⟩), (⟨3⟩, ⟨0, 0⟩)]) := by decide +kernel
  obtain ⟨s, found, books⟩ := Option.map_eq_some_iff.mp looked
  simp only [Prod.mk.injEq] at books
  obtain ⟨calls, refused, held⟩ := books
  have seen := List.mem_of_getElem? found
  have accounted := matches_accounted.1 (neverReuses_lockedNetwork ⟨false, 0, 0⟩)
    client.clientOf.script {} (fun _ _ => 0) () s seen
  exact ⟨s, seen, calls, refused, held, accounted⟩

end FactBase

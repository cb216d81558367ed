import FactBase.Proofs.Process.Loans

/-!
# Collections in the course of operations

An operation by which facts come or go looks at last whether enough garbage waits, and it does so
while the guard is free, whatever its listeners did. A collection can always give back what it has
to, provided that clients only deinstall what they installed.
-/

namespace FactBase

open Store Process

variable {N σ τ α : Type}

/-! ### Facts that come and go -/

/-- Whether a request attached, detached or replaced a fact, by its answer and by the fact base of
which it was asked. -/
def Request.turnsOver (s : Store N) : {α : Type} → Request α → α → Bool
  | _, .assertAt h _, a => !s.isAsserted h && attached .assert a
  | _, .assertOrdered _ _, a => attached id a
  | _, .retract h, a => s.isAsserted h && detached a
  | _, .modify h _, a => replaced h a
  | _, .duplicate _ _, a => attached .modify a
  | _, .commitBuilder _, a => attached .builder a.1
  | _, .commitModifier m, a => replaced m.fact a
  | _, _, _ => false

section Ask

variable [JoinNetwork N] {R : Condition N σ} {w : World N (Memo σ) (Store N)}
  {hooks : Hooks N (Memo σ) (Store N)}

theorem ensures_perform_swept (courteous : Courteous R hooks) (stepwise : Stepwise R none w)
    (current : Current w) (r : Request α) (upheld : r.UpheldAt w.store w.host.notes R) :
    Ensures (r.perform hooks) w (fun a w' => r.turnsOver w.store a = true → w'.store.Swept)
      fun _ => True := by
  have tidied {es : List Handle} {turned : α → Prop} {p : Process N (Memo σ) (Store N) α}
      (runs : Runs R none p w es fun a => Tidied (turned a) w)
      (turns : ∀ a, r.turnsOver w.store a = true → turned a) :
      Ensures p w (fun a w' => r.turnsOver w.store a = true → w'.store.Swept) fun _ => True :=
    ensures_weaken
      (ensures_mono runs fun a _ ⟨_, _, tidied⟩ turned => tidied.swept (turns a turned))
      fun _ _ => trivial
  have idle (still : ∀ a, r.turnsOver w.store a = false) :
      Ensures (r.perform hooks) w (fun a w' => r.turnsOver w.store a = true → w'.store.Swept)
        fun _ => True :=
    ensures_mono (ensures_trivial _ w) fun a _ _ turned => by
      rw [still a] at turned
      cases turned
  cases r with
  | assertAt h position =>
    obtain ⟨assertive, rejected⟩ := upheld.kept
    refine tidied (runs_assertAt courteous assertive stepwise id position ?_) fun a turned => ?_
    · exact fun _ _ rejects found unattached done =>
        rejected rejects found unattached done stepwise.holds stepwise.reached
    · obtain ⟨aside, turned⟩ := Bool.and_eq_true_iff.mp turned
      exact ⟨(Bool.not_eq_true' _).mp aside, turned⟩
  | assertOrdered relation values =>
    exact tidied (runs_assertOrdered courteous upheld.kept stepwise
      fun _ _ done => upheld.makes (.ordered rfl done)) fun _ => id
  | retract h =>
    exact tidied (runs_retract courteous stepwise h) fun _ => Bool.and_eq_true_iff.mp
  | modify h changes =>
    exact tidied (runs_modifyFact courteous upheld.kept (fun _ => not_asserted_of_missing) rfl
      stepwise current fun _ _ _ _ _ _ patched facts next done =>
        upheld.makes (.copied rfl patched facts next done)) fun _ => id
  | duplicate h changes =>
    exact tidied (runs_duplicateFact courteous upheld.kept stepwise
      fun _ _ _ _ _ _ patched facts next done =>
        upheld.makes (.copied rfl patched facts next done)) fun _ => id
  | commitBuilder b =>
    exact tidied (runs_commitBuilder courteous upheld.kept stepwise
      fun current _ _ _ _ drawn done => upheld.makes (.built current drawn done)) fun _ => id
  | commitModifier m =>
    obtain ⟨assertive, yields⟩ := upheld.kept
    exact tidied (runs_commitModifier courteous assertive stepwise current m
      (fun _ _ _ _ _ _ patched facts next done =>
        upheld.makes (.copied rfl patched facts next done)) fun _ _ done => yields done) fun _ => id
  | _ => exact idle fun _ => rfl

/-- When a request comes back by which a fact came or went, no garbage waits that is due. -/
theorem ensures_ask_swept (courteous : Courteous R hooks) (stepwise : Stepwise R none w)
    (r : Request α) (upheld : r.UpheldAt w.store w.host.notes R) :
    Ensures (ask hooks r) w
      (fun answer w' => answer.any (r.turnsOver w.store) = true → w'.store.Swept)
      fun _ => True := by
  refine ensures_ask (fun turned => by cases turned) fun _ => ?_
  have forgotten : Stepwise R none w.forgotten := stepwise.same rfl rfl rfl
  exact ensures_perform_swept courteous forgotten (current_forgotten w) r upheld

end Ask

/-! ### Watchers -/

/-- A process of a client that takes down fact bases. -/
abbrev Watching (N τ : Type) := Keeping N (List (Store N)) τ

/-- Makes a request, and takes down the fact base in which it comes back if a fact came or went. -/
def watch [JoinNetwork N] (hooks : Hooks N (Memo (Book (List (Store N)) τ)) (Store N))
    (r : Request α) : Watching N τ (Option α) := do
  let s ← getStore
  let answer ← ask hooks r
  if answer.any (r.turnsOver s) then
    let s ← getStore
    let book ← consult
    note { book with ledger := s :: book.ledger }
  return answer

/-- Clients that take down every fact base in which a request comes back by which a fact came or
went. They may run queries, and so may their listeners, who do the same. -/
inductive Watcher [JoinNetwork N] : {α : Type} → Watching N τ α → Prop
  | pure {α : Type} (a : α) : Watcher (pure a)
  | bind {α β : Type} {p : Watching N τ α} {k : α → Watching N τ β} (first : Watcher p)
      (rest : ∀ a, Watcher (k a)) : Watcher (p >>= k)
  | look : Watcher look
  | consult : Watcher consult
  | jot (own : τ) : Watcher (jot own)
  | giveUp {α : Type} : Watcher (throw .nesting : Watching N τ α)
  | watch {α : Type} {hooks : Hooks N (Memo (Book (List (Store N)) τ)) (Store N)}
      (listeners : ∀ id e, Watcher (hooks id e)) (r : Request α) : Watcher (watch hooks r)
  | query {α : Type} {test : Query.Test N (Memo (Book (List (Store N)) τ)) (Store N)}
      {act : Query.Act N (Memo (Book (List (Store N)) τ)) (Store N)} (tests : ∀ x, Watcher (test x))
      (acts : ∀ x, Watcher (act x)) (restrictions : List Restriction) (mode : Query.Mode α) :
      Watcher (mode.run test act restrictions)

section Watcher

variable [JoinNetwork N]

/-- No fact base that is taken down has garbage waiting that is due. -/
abbrev Watched (N τ : Type) [JoinNetwork N] : Condition N (Book (List (Store N)) τ) where
  holds _ book _ := ∀ s ∈ book.ledger, s.Swept
  past book _ := ∀ s ∈ book.ledger, s.Swept
  passes := id
  excuses _ := True

/-- What is taken down does not change with the fact base. -/
theorem robust_watched : Robust (Watched N τ) where
  chore holds _ _ := holds
  detach holds _ _ := holds
  attach holds _ _ _ _ _ _ _ _ := holds
  matchFact holds _ _ _ := holds
  release holds _ _ := holds
  deinstall holds _ _ := holds

theorem upheldFrom_watched (r : Request α) (start : Store N) :
    r.UpheldFrom start (Watched N τ) := by
  refine robust_watched.upheldFrom r start fun governs _ => ?_
  cases r with
  | clear => exact fun _ _ holds _ _ _ => holds
  | addPattern => exact fun _ _ _ _ _ holds _ _ => holds
  | removePattern => exact fun _ _ _ holds _ _ => holds
  | replayNewPatterns => exact fun _ _ _ _ _ holds _ _ => holds
  | setAllowDuplicates | setProbe => exact fun _ _ holds _ => holds
  | _ => exact governs.elim

/-- A process that takes down no fact base in which garbage waits that is due. -/
abbrev Watches (p : Watching N τ α) : Prop :=
  ∀ w, Stepwise (Watched N τ) none w → Runs (Watched N τ) none p w [] fun _ => SameGuard w

theorem script_watch {hooks : Hooks N (Memo (Book (List (Store N)) τ)) (Store N)}
    (listeners : ∀ id e, Script (fun _ _ => True) (hooks id e)) (r : Request α) :
    Script (fun _ _ => True) (watch hooks r) := by
  refine .bind .read fun s => .bind (.ask listeners r trivial) fun answer => ?_
  dsimp only
  split
  · exact .bind .read fun s => .bind .consult fun book => .bind (.note _) fun _ => .pure _
  · exact .pure _

/-- Watchers do what scripts do. -/
theorem Watcher.script {p : Watching N τ α} (watcher : Watcher p) : Script (fun _ _ => True) p := by
  induction watcher with
  | pure a => exact .pure a
  | bind _ _ first rest => exact .bind first rest
  | look => exact .look
  | consult => exact .consult
  | jot own => exact script_jot own
  | giveUp => exact .giveUp
  | watch _ r heard => exact script_watch heard r
  | query _ _ restrictions mode tests acts =>
    exact Query.script_run ⟨trivial, fun _ => trivial, fun _ => trivial⟩ tests acts restrictions
      mode

/-- A request is watched as long as listeners watch. -/
theorem watches_watch {hooks : Hooks N (Memo (Book (List (Store N)) τ)) (Store N)}
    (courteous : Courteous (Watched N τ) hooks) (r : Request α) : Watches (watch hooks r) := by
  intro w stepwise
  have upheld := upheldFrom_watched r w.store w.host.notes
  unfold watch
  refine runs_getStore (ensures_bind (ensures_mono (ensures_and
    (runs_ask courteous stepwise r upheld) (ensures_ask_swept courteous stepwise r upheld)) ?_))
  rintro answer w' ⟨⟨stepwise', spares, same⟩, swept⟩
  dsimp only
  split
  · rename_i turned
    have noted : ∀ s ∈ w'.store :: w'.host.notes.ledger, s.Swept :=
      List.forall_mem_cons.mpr ⟨swept turned, stepwise'.holds⟩
    exact ensures_bind (ensures_getStore (ensures_bind (ensures_consult (ensures_bind (ensures_note
      (ensures_pure ⟨stepwise'.noted rfl rfl noted, ⟨spares.facts, spares.contentHash⟩, same⟩))))))
  · exact ensures_pure ⟨stepwise', spares, same⟩

theorem acting_watches : Query.Acting fun _ (p : Watching N τ _) => Watches p where
  pure _ _ stepwise := runs_pure stepwise rfl
  bind first rest w stepwise := (first w stepwise).followed fun a => rest a
  read w stepwise := ⟨stepwise, .refl w, rfl⟩
  poll _ stepwise := runs_pollHalt stepwise fun _ _ holds _ => holds
  pin h _ stepwise := runs_pin (fun _ => trivial) stepwise h fun _ _ holds _ => holds
  unpin h _ stepwise := runs_unpin (fun _ => trivial) stepwise h fun _ _ _ holds _ => holds

/-- Whatever a watcher does, it never takes down a fact base in which garbage waits that is due. -/
theorem Watcher.watches {p : Watching N τ α} (watcher : Watcher p) : Watches p := by
  induction watcher with
  | pure a => exact fun _ stepwise => runs_pure stepwise rfl
  | bind _ _ first rest =>
    exact fun w stepwise => (first w stepwise).followed fun a => rest a
  | look => exact fun _ stepwise => runs_look stepwise
  | consult => exact fun w stepwise => ⟨stepwise, .refl w, rfl⟩
  | jot own =>
    exact fun w stepwise => ensures_bind (ensures_consult (ensures_note
      ⟨stepwise.noted rfl rfl stepwise.holds, .unchanged rfl rfl, rfl⟩))
  | giveUp => exact fun _ stepwise => runs_throw stepwise _
  | watch listeners r ih =>
    refine watches_watch ⟨ih, fun id h w stepwise _ => ?_,
      fun id e _ _ => (listeners id e).script.rests⟩ r
    refine ensures_mono
      (ih id _ w ⟨stepwise.upheld, stepwise.reached, stepwise.holds, stepwise.seen⟩) ?_
    rintro _ _ ⟨⟨upheld, reached, holds, seen⟩, spares, -⟩
    exact ⟨⟨upheld, reached, holds, seen⟩, spares, trivial⟩
  | query _ _ restrictions mode tests acts =>
    exact acting_watches.run tests acts restrictions mode

end Watcher

/-! ### Depositors -/

/-- Whether a request deinstalls no fact but one that is on loan. -/
def Request.returnsLoans (s : Store N) (loans : List Loan) : Request α → Bool
  | .deinstall h => (s.get? h).all fun f => loans.contains ⟨h, f.values⟩
  | _ => true

/-- A ledger of the atoms that are on loan, for clients that may install any fact. -/
def depositRules (N : Type) : Rules N (List Loan) :=
  { loanRules N with allows := fun loans s r => r.returnsLoans s loans }

variable [JoinNetwork N]

theorem depositRules_upholds :
    (depositRules N).Upholds τ fun (_ : Unit) loans => Store.Balanced loans :=
  lending_upholds fun _ _ _ => id

/-- Where installations balance, a collection can give back what it has to. -/
theorem Store.Balanced.solvent {s : Store N} {loans : List Loan} (balanced : s.Balanced loans)
    (reached : s.Reached) : s.Solvent := by
  have sound := reached.sound
  have emptied : Balanced loans { s with garbage := [] } := balanced.step (.of_eq rfl rfl)
  have tallied : Tallied { s with garbage := [] } :=
    reached.reachable.tallied.sameStock ⟨rfl, rfl, rfl⟩
  have ofAtoms := breaksOver_collectFrom_atoms (s := { s with garbage := [] }) sound.tidy tallied
    sound.garbageOnce fun h => (sound.garbage h).mp
  have others := breaksOver_collectFrom isPlain_ofAtoms
    (fun balanced found numbered => Balanced.breaksOver_deinstall balanced found numbered)
    (fun balanced freed => Balanced.step balanced (.free freed))
    (fun _ balanced => Balanced.step balanced (.of_eq rfl rfl)) emptied s.garbage
  cases collected : collectFrom s.garbage { s with garbage := [] } with
  | error b =>
    have atomic : b.ofAtoms = true := ofAtoms b collected
    have other : b.ofAtoms = false := others b collected
    rw [other] at atomic
    cases atomic
  | ok result =>
    obtain ⟨n, u⟩ := result
    have reclaims := reclaims_collectFrom (s := { s with garbage := [] }) sound.tidy
      sound.garbageOnce (fun h => (sound.garbage h).mp) collected
    intro a
    have left : u.atoms.installs a + (s.duesOf s.garbage).count a = s.atoms.installs a :=
      reclaims.atoms a
    omega

/-! ### Collecting garbage -/

/-- While the guard is free, a collection frees exactly the garbage that nobody holds and returns
how many facts that are. Everything else stays as it is, provided that the atoms it is to give back
are still installed; otherwise it breaks off over one of them. That does not happen as long as
nothing is deinstalled that is not on loan. While the guard is held, a collection does nothing.
Whatever clients, their listeners and their queries do, whenever a fact was attached, detached or
replaced, then once the operation comes back fewer facts wait than set off a collection or all are
pinned. -/
theorem collects_exactly :
    (∀ s : Store N, s.Reached → s.guarded = false →
      s.garbage.Nodup ∧ (∀ h, h ∈ s.garbage ↔ (s.get? h).any (·.isGarbage) = true) ∧
      (s.Solvent → ∃ s', s.collectGarbage = .ok (s.garbage.countP s.isReclaimable, s') ∧
        Collected s s') ∧
      (¬ s.Solvent → ∃ text, s.collectGarbage = .error (.atomNeverInstalled text))) ∧
    (∀ s : Store N, s.guarded = true → s.collectGarbage = .ok (0, s)) ∧
    (∀ p : Keeping N (List Loan) τ α, Keeper (depositRules N) p →
      ∀ config network contentHash own,
      let w := p.aftermath (outset (Store.fresh config network contentHash) ⟨[], own⟩)
      (∀ s ∈ w.looks ++ [w.store], s.Solvent) ∧
        ((∀ h ids (n : N), BreaksOver (·.ofMatches = true) (JoinNetwork.retract h ids n)) →
          ∀ text, Entry.notice (.broken (.atomNeverInstalled text)) ∉ w.journal)) ∧
    ∀ p : Watching N τ α, Watcher p → ∀ config network contentHash own,
      let w := p.aftermath (outset (Store.fresh config network contentHash) ⟨[], own⟩)
      ∀ s ∈ w.host.notes.ledger, s.Swept := by
  refine ⟨fun s reached unguarded => ?_, fun s held => if_pos held, ?_, ?_⟩
  · have sound := reached.sound
    have tallied := reached.reachable.tallied
    refine ⟨sound.garbageOnce, fun h => ?_, fun solvent => ?_, fun insolvent => ?_⟩
    · rw [sound.garbage, Option.any_eq_true]
    · obtain ⟨n, s', done⟩ := collectGarbage_of_solvent sound tallied solvent
      obtain ⟨rfl, collected, -⟩ := collected_collectGarbage sound unguarded done
      exact ⟨s', done, collected⟩
    · cases done : s.collectGarbage with
      | ok result =>
        exact absurd (collected_collectGarbage sound unguarded done).2.2 insolvent
      | error b =>
        have atomic := breaksOver_collectGarbage_atoms sound tallied b done
        cases b with
        | atomNeverInstalled text => exact ⟨text, rfl⟩
        | _ => cases atomic
  · intro p keeper config network contentHash own w
    have seen : Seen (OnLedger (fun (_ : Unit) loans => Store.Balanced loans) ()) w :=
      keeper.seen depositRules_upholds () upheld_balanced config network contentHash ⟨[], own⟩
        (Store.Balanced.fresh config network contentHash)
    refine ⟨fun s inside => ?_, fun matchesOnly => not_broken_of_seen seen network matchesOnly⟩
    rcases List.mem_append.mp inside with looked | last
    · obtain ⟨reached, _, _, balanced⟩ := seen.looks s (mem_looks.mp looked)
      exact balanced.solvent reached
    · obtain rfl := List.mem_singleton.mp last
      obtain ⟨_, balanced⟩ := seen.holds
      exact balanced.solvent seen.reached
  · intro p watcher config network contentHash own w
    have seen : Seen (Watched N τ) w :=
      ensures_aftermath (ensures_mono (watcher.watches _
        (stepwise_outset robust_watched.upheld (.fresh config network contentHash)
          (fun s inside => by cases inside))) fun _ _ ⟨stepwise, _⟩ => stepwise.seen)
    exact seen.holds

/-- Of two lamps that are retracted, one stays installed and waits, and the other is collected. This
is also so when the second retraction sets off the collection. -/
theorem collects_exactly_lamps :
    let rules := depositRules MatchCounter
    let hooks : Hooks MatchCounter (Memo (Book (List Loan) Unit)) (Store MatchCounter) :=
      fun _ _ => pure ()
    let lamps : Keeping MatchCounter (List Loan) Unit Unit := do
      let _ ← keep rules hooks (.assertOrdered "lamp" [.symbol "on"])
      let _ ← keep rules hooks (.assertOrdered "lamp" [.symbol "off"])
      let _ ← keep rules hooks (.install ⟨0, 0⟩)
      let _ ← keep rules hooks (.retract ⟨0, 0⟩)
      let _ ← keep rules hooks (.retract ⟨1, 0⟩)
    let s := (lamps.aftermath (outset (Store.fresh { gcThreshold := 0 } {} fun _ _ => 0)
      ⟨[], ()⟩)).store
    let watcher : Hooks MatchCounter (Memo (Book (List (Store MatchCounter)) Unit))
      (Store MatchCounter) := fun _ _ => pure ()
    let watched : Watching MatchCounter Unit Unit := do
      let _ ← watch watcher (.assertOrdered "lamp" [.symbol "on"])
      let _ ← watch watcher (.assertOrdered "lamp" [.symbol "off"])
      let _ ← watch watcher (.retain ⟨0, 0⟩)
      let _ ← watch watcher (.retract ⟨0, 0⟩)
      let _ ← watch watcher (.retract ⟨1, 0⟩)
    let w := watched.aftermath (outset (Store.fresh { gcThreshold := 2 } {} fun _ _ => 0)
      ⟨[], ()⟩)
    s.garbage = [⟨0, 0⟩, ⟨1, 0⟩] ∧ s.Solvent ∧
      (∃ s', s.collectGarbage = .ok (1, s') ∧ Collected s s') ∧
      Store.collectGarbage { s with guarded := true } = .ok (0, { s with guarded := true }) ∧
      (∀ s ∈ w.host.notes.ledger, s.Swept) ∧
      w.host.notes.ledger.map (·.garbage.length) = [1, 1, 0, 0] := by
  intro rules hooks lamps s watcher watched
  have idle (id : ListenerId) (e : Event) : Keeper rules (hooks id e) := .pure ()
  have keeper : Keeper rules lamps :=
    .bind (.keep idle _) fun _ => .bind (.keep idle _) fun _ => .bind (.keep idle _) fun _ =>
      .bind (.keep idle _) fun _ => .bind (.keep idle _) fun _ => .pure ()
  have idles (id : ListenerId) (e : Event) : Watcher (watcher id e) := .pure ()
  have watches : Watcher watched :=
    .bind (.watch idles _) fun _ => .bind (.watch idles _) fun _ => .bind (.watch idles _) fun _ =>
      .bind (.watch idles _) fun _ => .bind (.watch idles _) fun _ => .pure ()
  have reached : s.Reached :=
    (keeper.script.seen_trivial { gcThreshold := 0 } {} (fun _ _ => 0) ⟨[], ()⟩).reached
  obtain ⟨free, held, deposits, swept⟩ :=
    collects_exactly (N := MatchCounter) (τ := Unit) (α := Unit)
  have solvent : s.Solvent := by
    have seen := (deposits lamps keeper { gcThreshold := 0 } {} (fun _ _ => 0) ()).1
    exact seen _ (List.mem_append_right _ List.mem_cons_self)
  have state : (s.guarded, s.garbage, s.garbage.countP s.isReclaimable) =
      (false, [⟨0, 0⟩, ⟨1, 0⟩], 1) := by decide +kernel
  obtain ⟨unguarded, waiting, one⟩ := (Prod.mk.inj state).imp id Prod.mk.inj
  have collects := (free s reached unguarded).2.2.1 solvent
  rw [one] at collects
  exact ⟨waiting, solvent, collects, held _ rfl,
    swept watched watches { gcThreshold := 2 } {} (fun _ _ => 0) (), by decide +kernel⟩

/-- A pin is given back by deinstalling what nobody installed but the fact base. The lamp is garbage
that nobody holds then, and its atom is not installed any more. -/
theorem not_collects_exactly :
    ¬ ∀ s : Store MatchCounter, s.Reached → s.guarded = false →
      ∃ s', s.collectGarbage = .ok (s.garbage.countP s.isReclaimable, s') := by
  intro collects
  let hooks : Hooks MatchCounter (Memo Unit) (Store MatchCounter) := fun _ _ => pure ()
  let lamp : Process MatchCounter (Memo Unit) (Store MatchCounter) Unit := do
    let _ ← ask hooks (.assertOrdered "lamp" [.symbol "red"])
    let _ ← ask hooks (.retain ⟨0, 0⟩)
    let _ ← ask hooks (.deinstall ⟨0, 0⟩)
    let _ ← ask hooks (.retract ⟨0, 0⟩)
  have idle (id : ListenerId) (e : Event) : Script (fun _ _ => True) (hooks id e) := .pure ()
  have script : Script (fun _ _ => True) lamp :=
    .bind (.ask idle _ trivial) fun _ => .bind (.ask idle _ trivial) fun _ =>
      .bind (.ask idle _ trivial) fun _ => .bind (.ask idle _ trivial) fun _ => .pure ()
  let s := (lamp.aftermath (outset (Store.fresh {} {} fun _ _ => 0) ())).store
  have reached : s.Reached := (script.seen_trivial {} {} (fun _ _ => 0) ()).reached
  have state : (s.guarded, s.collectGarbage.isOk) = (false, false) := by decide +kernel
  obtain ⟨unguarded, failed⟩ := Prod.mk.inj state
  obtain ⟨s', done⟩ := collects s reached unguarded
  rw [done] at failed
  cases failed

end FactBase

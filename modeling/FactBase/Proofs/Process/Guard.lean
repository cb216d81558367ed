import FactBase.Proofs.Process.Script
import FactBase.Proofs.Store.Step

/-!
# While the guard is held

While the guard is held and some fact is asserted, nothing that a client does changes what is
listed, indexed or kept as garbage: asserting, retracting and modifying are refused before any
listener is called, and nothing is collected.
-/

namespace FactBase

open Store Process

variable {N ρ ν α β : Type}

/-- The guard is held over a sound fact base that is not empty. -/
structure Guarded (s : Store N) : Prop where
  sound : s.Sound
  guarded : s.guarded = true
  occupied : s.global.head ≠ none

/-- Of the remarks made meanwhile a condition holds. -/
def Adds (K : ν → Prop) (w w' : World N ρ ν) : Prop :=
  ∀ r, Entry.remark r ∈ w'.journal → Entry.remark r ∈ w.journal ∨ K r

/-- The guard is still held, and lists, index and garbage list have seen nothing. -/
structure Still (K : ν → Prop) (w w' : World N ρ ν) : Prop where
  alike : w.store.Alike w'.store
  guarded : w'.store.guarded = true
  adds : Adds K w w'

variable {w w' w'' : World N ρ ν} {K : ν → Prop}

theorem Adds.of_journal (same : w'.journal = w.journal) : Adds K w w' := by
  intro r inside
  rw [same] at inside
  exact .inl inside

theorem Adds.trans (first : Adds K w w') (second : Adds K w' w'') : Adds K w w'' := fun r inside =>
  (second r inside).elim (first r) .inr

/-- Notices are no remarks. -/
theorem Adds.notices (ns : List Notice) :
    Adds K w { w with journal := w.journal ++ (ns.map Entry.notice).toArray } := by
  intro r inside
  rcases Array.mem_append.mp inside with before | added
  · exact .inl before
  · simp at added

theorem Adds.notice (n : Notice) : Adds K w { w with journal := w.journal.push (.notice n) } := by
  intro r inside
  rcases Array.mem_push.mp inside with before | same
  · exact .inl before
  · cases same

theorem Adds.remark {r : ν} (holds : K r) :
    Adds K w { w with journal := w.journal.push (.remark r) } := by
  intro r' inside
  rcases Array.mem_push.mp inside with before | same
  · exact .inl before
  · cases same
    exact .inr holds

theorem Still.of_alike (guarded : Guarded w.store) {s : Store N} (alike : w.store.Alike s) :
    Still K w { w with store := s } :=
  ⟨alike, alike.guarded.trans guarded.guarded, .of_journal rfl⟩

theorem Still.of_host (guarded : Guarded w.store) (host : ρ) : Still K w { w with host } :=
  ⟨.refl _, guarded.guarded, .of_journal rfl⟩

theorem Still.refl (guarded : Guarded w.store) : Still K w w := .of_alike guarded (.refl _)

theorem Still.trans (first : Still K w w') (second : Still K w' w'') : Still K w w'' :=
  ⟨first.alike.trans second.alike, second.guarded, first.adds.trans second.adds⟩

theorem Guarded.still (guarded : Guarded w.store) (still : Still K w w') : Guarded w'.store :=
  ⟨guarded.sound.alike still.alike, still.guarded, still.alike.global ▸ guarded.occupied⟩

/-- A process that changes nothing while the guard is held; `K` holds of the remarks it makes and `Q`
of its result. -/
def Rests (K : ν → Prop) (p : Process N ρ ν α) (w : World N ρ ν) (Q : α → Prop) : Prop :=
  Ensures p w (fun a w' => Still K w w' ∧ Q a) (Adds K w)

variable {Q : α → Prop}

theorem Rests.bind {p : Process N ρ ν α} {k : α → Process N ρ ν β} {R : β → Prop}
    (guarded : Guarded w.store) (first : Rests K p w Q)
    (rest : ∀ a w', Guarded w'.store → Still K w w' → Q a → Rests K (k a) w' R) :
    Rests K (p >>= k) w R := by
  refine ensures_bind (ensures_mono first fun a w' ⟨still, holds⟩ => ?_)
  refine ensures_weaken (ensures_mono (rest a w' (guarded.still still) still holds) ?_)
    fun _ => still.adds.trans
  exact fun _ _ ⟨still', holds'⟩ => ⟨still.trans still', holds'⟩

theorem rests_pure (guarded : Guarded w.store) {a : α} (holds : Q a) : Rests K (pure a) w Q :=
  ensures_pure ⟨.refl guarded, holds⟩

theorem rests_getStore {k : Store N → Process N ρ ν α} (rest : Rests K (k w.store) w Q) :
    Rests K (getStore >>= k) w Q :=
  ensures_bind (ensures_getStore rest)

theorem rests_throw (f : Fault) : Rests K (throw f) w Q :=
  ensures_throw (E := Adds K w) (.of_journal rfl)

theorem rests_breach (b : Breach) : Rests K (breach b : Process N ρ ν α) w Q :=
  ensures_bind (ensures_record (ensures_throw (E := Adds K w) (.notice _)))

theorem rests_step (guarded : Guarded w.store) {f : Store N → Except Breach (α × Store N)}
    (quiet : ∀ a s, f w.store = .ok (a, s) → w.store.Alike s ∧ Q a) : Rests K (step f) w Q := by
  refine ensures_step (fun a s done => ?_) fun _ _ => .notice _
  obtain ⟨alike, holds⟩ := quiet a s done
  exact ⟨.of_alike guarded alike, holds⟩

theorem rests_change (guarded : Guarded w.store) {f : Store N → Except Breach (Store N)}
    (quiet : ∀ s, f w.store = .ok s → w.store.Alike s) :
    Rests K (change f) w fun _ => True :=
  ensures_change (fun s done => ⟨.of_alike guarded (quiet s done), trivial⟩) fun _ _ => .notice _

theorem rests_attempt {ε : Type} (guarded : Guarded w.store)
    {f : Store N → Except ε (α × Store N)}
    (quiet : ∀ a s, f w.store = .ok (a, s) → w.store.Alike s) :
    Rests K (attempt f) w fun _ => True :=
  ensures_attempt (fun a s done => ⟨.of_alike guarded (quiet a s done), trivial⟩)
    fun _ _ => ⟨.refl guarded, trivial⟩

theorem rests_attemptChange {ε : Type} (guarded : Guarded w.store)
    {f : Store N → Except ε (Store N)} (quiet : ∀ s, f w.store = .ok s → w.store.Alike s) :
    Rests K (attemptChange f) w fun _ => True :=
  ensures_attemptChange (fun s done => ⟨.of_alike guarded (quiet s done), trivial⟩)
    fun _ _ => ⟨.refl guarded, trivial⟩

theorem rests_update (guarded : Guarded w.store) {f : Store N → Store N}
    (quiet : Quiet [] w.store (f w.store)) : Rests K (updateStore f) w fun _ => True :=
  ensures_updateStore ⟨.of_alike guarded quiet.alike, trivial⟩

theorem rests_notifyAll (guarded : Guarded w.store) (ns : List Notice) :
    Rests K (notifyAll ns) w fun _ => True :=
  ensures_notifyAll ⟨⟨.refl _, guarded.guarded, .notices ns⟩, trivial⟩

theorem rests_refuse (guarded : Guarded w.store) (operation : GuardedOperation) :
    Rests K (refuse operation) w fun _ => True := by
  have counted : Rests K (updateStore fun s : Store N =>
      { s with counters := { s.counters with guardRejections := s.counters.guardRejections + 1 } })
      w fun _ => True := rests_update guarded .unchanged
  refine counted.bind guarded fun _ w' guarded _ _ => ?_
  exact ensures_record ⟨⟨.refl _, guarded.guarded, .notice _⟩, trivial⟩

/-! ### Refused operations -/

variable [JoinNetwork N] {hooks : Hooks N ρ ν}

theorem rests_assertAt (guarded : Guarded w.store) (h : Handle) (position : Position) :
    Rests K (assertAt hooks h position) w fun _ => True := by
  unfold assertAt
  refine rests_getStore ?_
  split
  · exact rests_pure guarded trivial
  · split
    · exact rests_pure guarded trivial
    · split
      · exact rests_pure guarded trivial
      · rw [if_pos guarded.guarded]
        exact (rests_refuse guarded .assert).bind guarded fun _ _ guarded _ _ =>
          rests_pure guarded trivial

theorem rests_assertOrdered (guarded : Guarded w.store) (relation : String)
    (values : List Value) : Rests K (assertOrdered hooks relation values) w fun _ => True := by
  unfold assertOrdered
  have created : Rests K (step (·.createOrdered relation values)) w fun _ => True :=
    rests_step guarded fun r s done =>
      ⟨(createOrdered_spec guarded.sound done).1.alike, trivial⟩
  refine created.bind guarded fun r w' guarded _ _ => ?_
  cases r with
  | error e => exact rests_pure guarded trivial
  | ok h =>
    refine (rests_assertAt guarded h .tail).bind guarded fun a w'' guarded _ _ => ?_
    cases a with
    | ok a => exact rests_pure guarded trivial
    | error e =>
      refine rests_getStore ?_
      split
      · rename_i unnumbered
        obtain ⟨f, found, zero⟩ := (Option.any_eq_true _ _).mp unnumbered
        have unattached := unattached_of_unnumbered guarded.sound found (by simpa using zero)
        have freed : Rests K (change (·.free h)) w'' fun _ => True :=
          rests_change guarded fun s done =>
            (free_spec guarded.sound found unattached done).1.alike
        exact freed.bind guarded fun _ _ guarded _ _ => rests_pure guarded trivial
      · exact rests_pure guarded trivial

/-- An asserted fact cannot be retracted. -/
theorem rests_retract (guarded : Guarded w.store) (h : Handle) :
    Rests K (retract hooks h) w fun r => w.store.isAsserted h = true → ∃ e, r = .error e := by
  unfold retract
  refine rests_getStore ?_
  split
  · exact rests_pure guarded fun _ => ⟨_, rfl⟩
  · rename_i f found
    split
    · rename_i garbage
      refine rests_pure guarded fun asserted => ?_
      simp [isAsserted, found, Fact.isAsserted, garbage] at asserted
    · split
      · exact rests_pure guarded fun _ => ⟨_, rfl⟩
      · rw [if_pos guarded.guarded]
        exact (rests_refuse guarded .retract).bind guarded fun _ _ guarded _ _ =>
          rests_pure guarded fun _ => ⟨_, rfl⟩

theorem rests_retractAll (guarded : Guarded w.store) (rounds : Nat) :
    Rests K (retractAll hooks rounds) w fun r => ∃ e, r = .error e := by
  cases rounds with
  | zero => exact rests_throw .nesting
  | succ rounds =>
    unfold retractAll
    refine rests_getStore ?_
    split
    · rename_i empty
      exact absurd empty guarded.occupied
    · rename_i h first
      have asserted : w.store.isAsserted h = true := by
        obtain ⟨f, found, holds⟩ := guarded.sound.listed.head first
        exact isAsserted_iff_exists.mpr ⟨f, found, holds⟩
      refine (rests_retract guarded h).bind guarded fun r _ guarded _ refused => ?_
      obtain ⟨e, rfl⟩ := refused asserted
      exact rests_pure guarded ⟨e, rfl⟩

theorem rests_clear (guarded : Guarded w.store) (rounds : Nat) :
    Rests K (clear hooks rounds) w fun _ => True := by
  unfold clear
  refine (rests_retractAll guarded rounds).bind guarded fun r _ guarded _ refused => ?_
  obtain ⟨e, rfl⟩ := refused
  exact rests_pure guarded trivial

theorem rests_modifyFact (guarded : Guarded w.store) (h : Handle) (changes : List (Nat × Value)) :
    Rests K (modifyFact hooks h changes) w fun _ => True := by
  unfold modifyFact
  refine rests_getStore ?_
  split
  · exact rests_pure guarded trivial
  · split
    · exact rests_pure guarded trivial
    · rw [if_pos guarded.guarded]
      exact (rests_refuse guarded .modify).bind guarded fun _ _ guarded _ _ =>
        rests_pure guarded trivial

theorem rests_duplicateFact (guarded : Guarded w.store) (h : Handle)
    (changes : List (Nat × Value)) : Rests K (duplicateFact hooks h changes) w fun _ => True := by
  unfold duplicateFact
  refine rests_getStore ?_
  split
  · exact rests_pure guarded trivial
  · rw [if_pos guarded.guarded]
    exact (rests_refuse guarded .duplicate).bind guarded fun _ _ guarded _ _ =>
      rests_pure guarded trivial

omit [JoinNetwork N] in
theorem rests_collectGarbage (guarded : Guarded w.store) :
    Rests K (Process.collectGarbage : Process N ρ ν Nat) w fun _ => True :=
  rests_step guarded fun n s done => by
    rw [Store.collectGarbage, if_pos guarded.guarded] at done
    obtain ⟨-, rfl⟩ := Prod.mk.inj (Except.ok.inj done)
    exact ⟨.refl _, trivial⟩

/-! ### Builders and modifiers -/

theorem rests_commitBuilder (guarded : Guarded w.store) (b : Builder) :
    Rests K (b.commit hooks) w fun _ => True := by
  unfold Builder.commit
  refine rests_getStore ?_
  rw [if_pos guarded.guarded]
  exact rests_pure guarded trivial

omit [JoinNetwork N] in
theorem makeModifier_spec {s s' : Store N} {h : Handle} {m : Modifier}
    (done : Modifier.make h s = .ok (m, s')) : Quiet [h] s s' ∧ s.retain h = .ok s' ∧
      ∃ f, s.get? h = some f ∧ f.isAsserted = true := by
  obtain ⟨f, found, done⟩ := bind_eq_ok.mp done
  split at done
  · cases done
  · split at done
    · cases done
    · rename_i u retained
      obtain ⟨-, rfl⟩ := Prod.mk.inj (Except.ok.inj done)
      exact ⟨retain_spec retained, retained, f, asserted_eq_ok found⟩

omit [JoinNetwork N] in
theorem rests_unpinModifier (guarded : Guarded w.store) (m : Modifier) :
    Rests K (m.unpin : Process N ρ ν _) w fun _ => True := by
  unfold Modifier.unpin
  have released : Rests K (step (·.release m.fact)) w fun _ => True :=
    rests_step guarded fun r s done => ⟨(release_spec done).alike, trivial⟩
  refine released.bind guarded fun r _ guarded _ _ => ?_
  split <;> exact rests_pure guarded trivial

theorem rests_commitModifier (guarded : Guarded w.store) (m : Modifier) :
    Rests K (m.commit hooks) w fun _ => True := by
  unfold Modifier.commit
  refine (rests_unpinModifier guarded m).bind guarded fun r _ guarded _ _ => ?_
  cases r with
  | error e => exact rests_pure guarded trivial
  | ok u =>
    dsimp only
    split
    · exact rests_pure guarded trivial
    · exact rests_modifyFact guarded m.fact m.changes

/-! ### Patterns -/

theorem addPattern_eq_ok {s s' : Store N} {p : Pattern} {label : String}
    {r : Except PatternError EntryId × List Notice}
    (done : (s.addPattern p label).map (fun (r, notices, s) => ((r, notices), s)) = .ok (r, s')) :
    s.addPattern p label = .ok (r.1, r.2, s') := by
  obtain ⟨⟨r', notices, u⟩, added, same⟩ := map_eq_ok.mp done
  cases same
  exact added

theorem replayNewPatterns_eq_ok {s s' : Store N} {r : Nat × List Notice}
    (done : s.replayNewPatterns.map (fun (n, notices, s) => ((n, notices), s)) = .ok (r, s')) :
    s.replayNewPatterns = .ok (r.1, r.2, s') := by
  obtain ⟨⟨n, notices, u⟩, replayed, same⟩ := map_eq_ok.mp done
  cases same
  exact replayed

theorem rests_addPattern (guarded : Guarded w.store) (p : Pattern) (label : String) :
    Rests K (Process.addPattern p label : Process N ρ ν _) w fun _ => True := by
  unfold Process.addPattern
  refine Rests.bind (Q := fun _ => True) guarded ?_ fun r _ guarded _ _ => ?_
  · exact rests_step guarded fun r s done =>
      ⟨(addPattern_spec guarded.sound (addPattern_eq_ok done)).alike, trivial⟩
  · exact (rests_notifyAll guarded r.2).bind guarded fun _ _ guarded _ _ =>
      rests_pure guarded trivial

theorem rests_replayNewPatterns (guarded : Guarded w.store) :
    Rests K (Process.replayNewPatterns : Process N ρ ν _) w fun _ => True := by
  unfold Process.replayNewPatterns
  refine Rests.bind (Q := fun _ => True) guarded ?_ fun r _ guarded _ _ => ?_
  · exact rests_step guarded fun r s done =>
      ⟨(replayNewPatterns_spec guarded.sound (replayNewPatterns_eq_ok done)).alike, trivial⟩
  · exact (rests_notifyAll guarded r.2).bind guarded fun _ _ guarded _ _ =>
      rests_pure guarded trivial

/-! ### Requests -/

omit [JoinNetwork N] in
/-- A part of a fact base outside facts, lists, index and garbage list is changed, if it is. -/
theorem quiet_of_map {ε γ : Type} {x : Except ε γ} {s s' : Store N} {f : γ → α × Store N} {a : α}
    (done : x.map f = .ok (a, s')) (quiet : ∀ c, Quiet [] s (f c).2) : Quiet [] s s' := by
  obtain ⟨c, -, same⟩ := map_eq_ok.mp done
  have kept := quiet c
  rw [same] at kept
  exact kept

omit [JoinNetwork N] in
theorem quiet_of_map' {ε γ : Type} {x : Except ε γ} {s s' : Store N} {f : γ → Store N}
    (done : x.map f = .ok s') (quiet : ∀ c, Quiet [] s (f c)) : Quiet [] s s' := by
  obtain ⟨c, -, rfl⟩ := map_eq_ok.mp done
  exact quiet c

theorem rests_perform (guarded : Guarded w.store) (r : Request α) :
    Rests K (r.perform hooks) w fun _ => True := by
  cases r with
  | createFact template =>
    exact rests_step guarded fun _ _ done =>
      ⟨(createFact_spec guarded.sound done).1.alike, trivial⟩
  | createOrdered relation values =>
    exact rests_step guarded fun _ _ done =>
      ⟨(createOrdered_spec guarded.sound done).1.alike, trivial⟩
  | putSlot h slot v =>
    exact rests_attemptChange guarded fun _ done => (putSlot_spec done).alike
  | putSlotAt h position v =>
    exact rests_attemptChange guarded fun _ done => (putSlotAt_spec done).alike
  | discard h =>
    exact rests_step guarded fun _ _ done => ⟨(discard_spec guarded.sound done).alike, trivial⟩
  | assertAt h position => exact rests_assertAt guarded h position
  | assertOrdered relation values => exact rests_assertOrdered guarded relation values
  | retract h => exact ensures_mono (rests_retract guarded h) fun _ _ rests => ⟨rests.1, trivial⟩
  | retractAll rounds =>
    exact ensures_mono (rests_retractAll guarded rounds) fun _ _ rests => ⟨rests.1, trivial⟩
  | clear rounds => exact rests_clear guarded rounds
  | modify h changes => exact rests_modifyFact guarded h changes
  | duplicate h changes => exact rests_duplicateFact guarded h changes
  | collectGarbage => exact rests_collectGarbage guarded
  | retain h => exact rests_attemptChange guarded fun _ done => (retain_spec done).alike
  | release h => exact rests_step guarded fun _ _ done => ⟨(release_spec done).alike, trivial⟩
  | install h => exact rests_attemptChange guarded fun _ done => (install_spec done).alike
  | deinstall h => exact rests_step guarded fun _ _ done => ⟨(deinstall_spec done).alike, trivial⟩
  | makeBuilder template =>
    exact rests_attempt guarded fun _ _ done => (makeBuilder_spec done).alike
  | commitBuilder b => exact rests_commitBuilder guarded b
  | makeModifier h => exact rests_attempt guarded fun _ _ done => (makeModifier_spec done).1.alike
  | commitModifier m => exact rests_commitModifier guarded m
  | abortModifier m => exact rests_unpinModifier guarded m
  | addPattern p label => exact rests_addPattern guarded p label
  | removePattern id =>
    exact rests_attemptChange guarded fun _ done => (removePattern_spec done).alike
  | replayNewPatterns => exact rests_replayNewPatterns guarded
  | defineTemplate t =>
    exact rests_attempt guarded fun _ _ done => (defineTemplate_spec done).alike
  | undefineTemplate name =>
    exact rests_attemptChange guarded fun _ done =>
      (undefineTemplate_spec guarded.sound done).alike
  | impliedTemplate | addListener =>
    exact rests_attempt guarded fun _ _ done => (quiet_of_map done fun _ => .unchanged).alike
  | defineModule | setCurrentModule =>
    exact rests_attemptChange guarded fun _ done =>
      (quiet_of_map' done fun _ => .unchanged).alike
  | drawDefault t position =>
    refine rests_step guarded fun _ _ done => ⟨?_, trivial⟩
    have drawn := drawDefault_spec w.store t position
    rw [Except.ok.inj done] at drawn
    exact drawn.alike
  | removeListener name =>
    refine rests_step guarded fun _ _ done => ⟨?_, trivial⟩
    obtain ⟨-, rfl⟩ := Prod.mk.inj (Except.ok.inj done)
    exact (Quiet.unchanged (s := w.store)).alike
  | dropBuilder | intern | setAllowDuplicates | setProbe | clearEvaluationError =>
    unfold Request.perform
    refine rests_update guarded ?_
    exact .unchanged

/-! ### Scripts -/

section Script

variable {σ : Type} {w : World N (Memo σ) (Store N)} {K : Store N → Prop}

omit [JoinNetwork N] in
/-- Whoever looks sees what is there. -/
theorem rests_look (guarded : Guarded w.store) (holds : K w.store) :
    Rests K look w fun _ => True :=
  rests_getStore (ensures_bind (ensures_record
    (ensures_pure ⟨⟨.refl _, guarded.guarded, .remark holds⟩, trivial⟩)))

omit [JoinNetwork N] in
theorem rests_pollHalt (guarded : Guarded w.store) : Rests K pollHalt w fun _ => True := by
  refine rests_getStore ((rests_update guarded ?_).bind guarded fun _ _ guarded _ _ =>
    rests_pure guarded trivial)
  exact .unchanged

theorem rests_ask {hooks : Hooks N (Memo σ) (Store N)} (guarded : Guarded w.store) (r : Request α) :
    Rests K (ask hooks r) w fun _ => True := by
  unfold FactBase.ask
  have forgets : Rests K forget w fun _ => True := ⟨.of_host guarded _, trivial⟩
  refine forgets.bind guarded fun _ w' guarded _ _ => ?_
  refine ensures_bind (show Ensures get w' _ _ from ?_)
  change Rests K (if r.facts.all (mayUse w') then _ else _) w' _
  split
  · refine (rests_perform guarded r).bind guarded fun a w'' guarded _ _ => ?_
    have remembers : Rests K (remember (r.made a)) w'' fun _ => True :=
      ⟨.of_host guarded _, trivial⟩
    exact remembers.bind guarded fun _ _ guarded _ _ => rests_pure guarded trivial
  · exact rests_pure guarded trivial

omit [JoinNetwork N] in
theorem rests_pin (guarded : Guarded w.store) (h : Handle) :
    Rests K (Query.pin h) w fun _ => True := by
  have pinned : Rests K (attemptChange (·.retain h)) w fun _ => True :=
    rests_attemptChange guarded fun _ done => (retain_spec done).alike
  refine pinned.bind guarded fun r _ guarded _ _ => ?_
  cases r with
  | error e => exact rests_breach _
  | ok u => exact rests_pure guarded trivial

omit [JoinNetwork N] in
theorem rests_unpin (guarded : Guarded w.store) (h : Handle) :
    Rests K (Query.unpin h) w fun _ => True := by
  have released : Rests K (step (·.release h)) w fun _ => True :=
    rests_step guarded fun _ _ done => ⟨(release_spec done).alike, trivial⟩
  refine released.bind guarded fun r _ guarded _ _ => ?_
  cases r with
  | error e => exact rests_breach _
  | ok u => exact rests_pure guarded trivial

/-- While the guard is held, a script changes nothing that is listed, indexed or garbage, and sees
nothing of it change. -/
theorem Script.rests {ok : (α : Type) → Request α → Prop} {p : Process N (Memo σ) (Store N) α}
    (script : Script ok p) (guarded : Guarded w.store) (kept : ∀ s, w.store.Alike s → K s) :
    Rests K p w fun _ => True := by
  induction script generalizing w with
  | pure a => exact rests_pure guarded trivial
  | bind _ _ first rest =>
    refine (first guarded kept).bind guarded fun a _ guarded still _ => rest a guarded ?_
    exact fun s alike => kept s (still.alike.trans alike)
  | look => exact rests_look guarded (kept _ (.refl _))
  | read => exact ⟨.refl guarded, trivial⟩
  | poll => exact rests_pollHalt guarded
  | consult => exact ⟨.refl guarded, trivial⟩
  | note notes => exact ⟨.of_host guarded _, trivial⟩
  | giveUp => exact rests_throw .nesting
  | ask _ r => exact rests_ask guarded r
  | pin h => exact rests_pin guarded h
  | unpin h => exact rests_unpin guarded h

end Script

end FactBase

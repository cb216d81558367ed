import FactBase.Proofs.Process.Guard
import FactBase.Proofs.Process.Trail
import FactBase.Proofs.Process.Upheld
import FactBase.Proofs.Store.Notices

/-!
# Going on by steps

A process goes on by steps if it leads from one fact base to the next by moves only, up to a fault
if there is one. Along the way it upholds a condition, and it may spare the unattached facts that no
client made: nobody but the operation that made them has access to them.
-/

namespace FactBase

open Store Process

variable {N σ α β : Type}

/-- A fact but for its pins. -/
def Fact.unpinned (f : Fact) : Fact := { f with busy := 0 }

/-- What a view that is blind to pins shows of facts that are the same but for their pins. -/
theorem Fact.view_unpinned {α : Type} {f g : Fact} (view : Fact → α) (same : g.unpinned = f.unpinned)
    (blind : ∀ f, view f.unpinned = view f) : view g = view f := by
  rw [← blind g, same, blind]

/-- Unattached facts that no client made stay as they are, apart from some. They may be pinned. -/
structure Spares (except : List Handle) (w w' : World N (Memo σ) (Store N)) : Prop where
  facts : ∀ r f, w.store.get? r = some f → f.isUnattached = true → r ∉ w.host.made → r ∉ except →
    (∃ g, w'.store.get? r = some g ∧ g.unpinned = f.unpinned) ∧ r ∉ w'.host.made
  contentHash : w'.store.contentHash = w.store.contentHash

theorem Spares.unchanged {w w' : World N (Memo σ) (Store N)} (store : w'.store = w.store)
    (made : w'.host.made = w.host.made) : Spares [] w w' := by
  refine ⟨fun r f found _ strange _ => ?_, congrArg Store.contentHash store⟩
  rw [store, made]
  exact ⟨⟨f, found, rfl⟩, strange⟩

theorem Spares.refl (w : World N (Memo σ) (Store N)) : Spares [] w w := .unchanged rfl rfl

theorem Spares.trans {es fs : List Handle} {w w' w'' : World N (Memo σ) (Store N)}
    (first : Spares es w w') (second : Spares fs w' w'') : Spares (es ++ fs) w w'' := by
  refine ⟨fun r f found unattached strange outside => ?_,
    second.contentHash.trans first.contentHash⟩
  rw [List.mem_append, not_or] at outside
  obtain ⟨⟨g, found', same⟩, strange'⟩ := first.facts r f found unattached strange outside.1
  obtain ⟨⟨k, found'', same'⟩, strange''⟩ := second.facts r g found'
    (Fact.view_unpinned Fact.isUnattached same (fun _ => rfl) ▸ unattached) strange' outside.2
  exact ⟨⟨k, found'', same'.trans same⟩, strange''⟩

theorem Spares.mono {es fs : List Handle} {w w' : World N (Memo σ) (Store N)}
    (spares : Spares es w w') (more : es ⊆ fs) : Spares fs w w' :=
  ⟨fun r f found unattached strange outside =>
    spares.facts r f found unattached strange fun inside => outside (more inside),
    spares.contentHash⟩

theorem Spares.of_leaves {es : List Handle} {w : World N (Memo σ) (Store N)} {s : Store N}
    (leaves : Leaves es w.store s) : Spares es w { w with store := s } :=
  ⟨fun r f found unattached strange outside =>
    ⟨⟨f, leaves.facts r f found unattached outside, rfl⟩, strange⟩, leaves.contentHash⟩

variable [JoinNetwork N] {R : Condition N σ} {pending pending' : Option Handle}

/-- Only fact bases that moves lead to were seen, one after the other, and of them holds what is to
hold of the past. It also holds of those in which a step broke off, and it holds now. -/
structure Seen (R : Condition N σ) (w : World N (Memo σ) (Store N)) : Prop where
  looks : ∀ s, Entry.remark s ∈ w.journal → s.Reached ∧ ∃ notes, R.past notes s
  trail : w.Trail
  broken : ∀ b, Entry.notice (.broken b) ∈ w.journal →
    ∃ s : Store N, s.Reached ∧ (∃ notes, R.past notes s) ∧ Fails R.excuses s b
  holds : R.past w.host.notes w.store
  reached : w.store.Reached

/-- Moves led here and uphold a condition. -/
structure Stepwise (R : Condition N σ) (pending : Option Handle)
    (w : World N (Memo σ) (Store N)) : Prop where
  upheld : Upheld R
  reached : w.store.Reached
  holds : R pending w.host.notes w.store
  seen : Seen R w

theorem Stepwise.reachable {w : World N (Memo σ) (Store N)}
    (stepwise : Stepwise R pending w) : w.store.Reachable := stepwise.reached.reachable

/-- A process goes on by steps, upholds a condition and spares unattached facts apart from some; `Q`
holds of its result. -/
def Runs (R : Condition N σ) (pending : Option Handle) (p : Process N (Memo σ) (Store N) α)
    (w : World N (Memo σ) (Store N)) (except : List Handle)
    (Q : α → World N (Memo σ) (Store N) → Prop) : Prop :=
  Ensures p w (fun a w' => Stepwise R pending w' ∧ Spares except w w' ∧ Q a w') (Seen R)

variable {w : World N (Memo σ) (Store N)} {es fs : List Handle}
  {Q : α → World N (Memo σ) (Store N) → Prop}

theorem Runs.mono {p : Process N (Memo σ) (Store N) α}
    {Q' : α → World N (Memo σ) (Store N) → Prop} (runs : Runs R pending p w es Q)
    (implies : ∀ a w', Q a w' → Q' a w') (more : es ⊆ fs) : Runs R pending p w fs Q' :=
  ensures_mono runs fun a w' ⟨stepwise, spares, holds⟩ =>
    ⟨stepwise, spares.mono more, implies a w' holds⟩

theorem Runs.bindExcept {p : Process N (Memo σ) (Store N) α}
    {k : α → Process N (Memo σ) (Store N) β} {Q' : β → World N (Memo σ) (Store N) → Prop}
    (first : Runs R pending p w es Q)
    (rest : ∀ a w', Stepwise R pending w' → Spares es w w' → Q a w' →
      Runs R pending' (k a) w' es Q') :
    Runs R pending' (p >>= k) w es Q' :=
  ensures_bind (ensures_mono first fun a w' ⟨stepwise, spares, holds⟩ =>
    ensures_mono (rest a w' stepwise spares holds) fun _ _ ⟨stepwise', spares', holds'⟩ =>
      ⟨stepwise', (spares.trans spares').mono (List.append_subset.mpr
        ⟨List.Subset.refl es, List.Subset.refl es⟩), holds'⟩)

theorem Runs.bind {p : Process N (Memo σ) (Store N) α} {k : α → Process N (Memo σ) (Store N) β}
    {Q' : β → World N (Memo σ) (Store N) → Prop} (first : Runs R pending p w [] Q)
    (rest : ∀ a w', Stepwise R pending w' → Spares [] w w' → Q a w' →
      Runs R pending' (k a) w' es Q') :
    Runs R pending' (p >>= k) w es Q' :=
  ensures_bind (ensures_mono first fun a w' ⟨stepwise, spares, holds⟩ =>
    ensures_mono (rest a w' stepwise spares holds) fun _ _ ⟨stepwise', spares', holds'⟩ =>
      ⟨stepwise', spares.trans spares', holds'⟩)

/-- What goes on with facts that were not there before spares all that were. -/
theorem Runs.bindFresh {p : Process N (Memo σ) (Store N) α}
    {k : α → Process N (Memo σ) (Store N) β} {Q' : β → World N (Memo σ) (Store N) → Prop}
    (first : Runs R pending p w [] Q)
    (rest : ∀ a w', Stepwise R pending w' → Spares [] w w' → Q a w' →
      ∃ hs, (∀ h ∈ hs, w.store.get? h = none) ∧ Runs R pending' (k a) w' hs Q') :
    Runs R pending' (p >>= k) w [] Q' := by
  refine ensures_bind (ensures_mono first fun a w' ⟨stepwise, spares, holds⟩ => ?_)
  obtain ⟨hs, fresh, runs⟩ := rest a w' stepwise spares holds
  refine ensures_mono runs fun b w'' ⟨stepwise', spares', holds'⟩ => ⟨stepwise', ?_, holds'⟩
  refine ⟨fun r f found unattached strange _ => ?_, (spares.trans spares').contentHash⟩
  refine (spares.trans spares').facts r f found unattached strange fun inside => ?_
  rw [fresh r inside] at found
  cases found

theorem runs_pure (stepwise : Stepwise R pending w) {a : α} (holds : Q a w) :
    Runs R pending (pure a) w es Q :=
  ensures_pure ⟨stepwise, (Spares.refl w).mono (List.nil_subset es), holds⟩

theorem runs_getStore {k : Store N → Process N (Memo σ) (Store N) α}
    (rest : Runs R pending (k w.store) w es Q) : Runs R pending (getStore >>= k) w es Q :=
  ensures_bind (ensures_getStore rest)

theorem runs_throw (stepwise : Stepwise R pending w) (f : Fault) :
    Runs R pending' (throw f) w es Q :=
  ensures_throw (E := Seen R) stepwise.seen

/-! ### Single steps -/

theorem Seen.append (seen : Seen R w) {ns : List Notice} (unbroken : Unbroken ns) :
    Seen R { w with journal := w.journal ++ (ns.map Entry.notice).toArray } := by
  refine ⟨fun s inside => ?_, seen.trail.go (looks_append_notices w ns) .refl, fun b inside => ?_,
    seen.holds, seen.reached⟩
  · rcases Array.mem_append.mp inside with before | added
    · exact seen.looks s before
    · simp at added
  · rcases Array.mem_append.mp inside with before | added
    · exact seen.broken b before
    · simp only [List.mem_toArray, List.mem_map, Entry.notice.injEq, exists_eq_right] at added
      exact absurd added (unbroken b)

theorem Seen.push (seen : Seen R w) {n : Notice} (other : ∀ b, n ≠ .broken b) :
    Seen R { w with journal := w.journal.push (.notice n) } := by
  have appended := seen.append (.cons other unbroken_nil)
  rwa [List.map_singleton, ← Array.push_eq_append] at appended

/-- A step breaks off where the condition holds. -/
theorem Stepwise.fail (stepwise : Stepwise R pending w) {b : Breach} (fails : Fails R.excuses w.store b) :
    Seen R { w with journal := w.journal.push (.notice (.broken b)) } := by
  obtain ⟨upheld, reached, holds, seen⟩ := stepwise
  refine ⟨fun s inside => ?_, seen.trail.go (looks_push_notice w _) .refl, fun b' inside => ?_,
    seen.holds, reached⟩
  · rcases Array.mem_push.mp inside with before | same
    · exact seen.looks s before
    · cases same
  · rcases Array.mem_push.mp inside with before | same
    · exact seen.broken b' before
    · cases same
      exact ⟨w.store, reached, ⟨_, R.passes holds⟩, fails⟩

/-- Nobody looks while the fact base moves on, whatever a client remembers or notes. -/
theorem Seen.go (seen : Seen R w) {w' : World N (Memo σ) (Store N)} (journal : w'.journal = w.journal)
    (path : Path w.store w'.store) (holds : R.past w'.host.notes w'.store) :
    Seen R w' := by
  refine ⟨journal ▸ seen.looks, seen.trail.go ?_ path, journal ▸ seen.broken, holds,
    seen.reached.path path⟩
  rw [World.looks, World.looks, journal]

/-- Someone takes a look. -/
theorem Stepwise.look (stepwise : Stepwise R pending w) :
    Stepwise R pending { w with journal := w.journal.push (.remark w.store) } := by
  obtain ⟨upheld, reached, holds, seen⟩ := stepwise
  refine ⟨upheld, reached, holds, fun s inside => ?_, seen.trail.look, fun b inside => ?_,
    seen.holds, reached⟩
  · rcases Array.mem_push.mp inside with before | same
    · exact seen.looks s before
    · cases same
      exact ⟨reached, _, R.passes holds⟩
  · rcases Array.mem_push.mp inside with before | same
    · exact seen.broken b before
    · cases same

/-- A move after which the condition holds still. -/
theorem Stepwise.move (stepwise : Stepwise R pending w) {s : Store N} (move : Move w.store s)
    (holds : R pending' w.host.notes s) : Stepwise R pending' { w with store := s } :=
  ⟨stepwise.upheld, stepwise.reached.move move, holds, stepwise.seen.go rfl (.single move) (R.passes holds)⟩

theorem Stepwise.errand (stepwise : Stepwise R pending w) {s : Store N} (errand : Errand w.store s) :
    Stepwise R pending { w with store := s } :=
  stepwise.move (.chore errand.chore)
    (stepwise.upheld.errand stepwise.holds stepwise.reached errand)

/-- What a client remembers is no concern of the fact base. -/
theorem Stepwise.same (stepwise : Stepwise R pending w) {w' : World N (Memo σ) (Store N)}
    (store : w'.store = w.store) (journal : w'.journal = w.journal)
    (notes : w'.host.notes = w.host.notes) : Stepwise R pending w' := by
  have holds : R pending w'.host.notes w'.store := by
    rw [notes, store]
    exact stepwise.holds
  refine ⟨stepwise.upheld, store ▸ stepwise.reached, holds, stepwise.seen.go journal ?_ (R.passes holds)⟩
  rw [store]

theorem runs_step (stepwise : Stepwise R pending w) {f : Store N → Except Breach (α × Store N)}
    (moves : ∀ a s, f w.store = .ok (a, s) →
      Stepwise R pending' { w with store := s } ∧ Leaves es w.store s ∧
        Q a { w with store := s })
    (fails : ∀ b, f w.store = .error b → Fails R.excuses w.store b) :
    Runs R pending' (Process.step f) w es Q := by
  refine ensures_step (fun a s done => ?_) fun b failed => stepwise.fail (fails b failed)
  obtain ⟨stepwise, leaves, holds⟩ := moves a s done
  exact ⟨stepwise, .of_leaves leaves, holds⟩

theorem runs_change (stepwise : Stepwise R pending w) {f : Store N → Except Breach (Store N)}
    {Q : Unit → World N (Memo σ) (Store N) → Prop}
    (moves : ∀ s, f w.store = .ok s →
      Stepwise R pending' { w with store := s } ∧ Leaves es w.store s ∧
        Q () { w with store := s })
    (fails : ∀ b, f w.store = .error b → Fails R.excuses w.store b) :
    Runs R pending' (change f) w es Q := by
  refine ensures_change (fun s done => ?_) fun b failed => stepwise.fail (fails b failed)
  obtain ⟨stepwise, leaves, holds⟩ := moves s done
  exact ⟨stepwise, .of_leaves leaves, holds⟩

theorem runs_update {f : Store N → Store N} {Q : Unit → World N (Memo σ) (Store N) → Prop}
    (stepwise : Stepwise R pending { w with store := f w.store })
    (leaves : Leaves es w.store (f w.store)) (holds : Q () { w with store := f w.store }) :
    Runs R pending (updateStore f) w es Q :=
  ensures_updateStore ⟨stepwise, .of_leaves leaves, holds⟩

theorem runs_attempt {ε : Type} (stepwise : Stepwise R pending w)
    {f : Store N → Except ε (α × Store N)} {Q : Except ε α → World N (Memo σ) (Store N) → Prop}
    (moves : ∀ a s, f w.store = .ok (a, s) →
      Stepwise R pending { w with store := s } ∧ Leaves es w.store s ∧
        Q (.ok a) { w with store := s })
    (declined : ∀ e, Q (.error e) w) : Runs R pending (attempt f) w es Q := by
  refine ensures_attempt (fun a s done => ?_) fun e _ => ?_
  · obtain ⟨stepwise, leaves, holds⟩ := moves a s done
    exact ⟨stepwise, .of_leaves leaves, holds⟩
  · exact ⟨stepwise, (Spares.refl w).mono (List.nil_subset es), declined e⟩

theorem runs_attemptChange {ε : Type} (stepwise : Stepwise R pending w)
    {f : Store N → Except ε (Store N)} {Q : Except ε Unit → World N (Memo σ) (Store N) → Prop}
    (moves : ∀ s, f w.store = .ok s →
      Stepwise R pending { w with store := s } ∧ Leaves es w.store s ∧
        Q (.ok ()) { w with store := s })
    (declined : ∀ e, Q (.error e) w) : Runs R pending (attemptChange f) w es Q := by
  refine ensures_attemptChange (fun s done => ?_) fun e _ => ?_
  · obtain ⟨stepwise, leaves, holds⟩ := moves s done
    exact ⟨stepwise, .of_leaves leaves, holds⟩
  · exact ⟨stepwise, (Spares.refl w).mono (List.nil_subset es), declined e⟩

theorem runs_notify (stepwise : Stepwise R pending w) {n : Notice} (other : ∀ b, n ≠ .broken b) :
    Runs R pending (notify n) w [] fun _ w' => w'.store = w.store :=
  ensures_record ⟨⟨stepwise.upheld, stepwise.reached, stepwise.holds, stepwise.seen.push other⟩,
    .unchanged rfl rfl, rfl⟩

theorem runs_notifyAll (stepwise : Stepwise R pending w) {ns : List Notice}
    (unbroken : Unbroken ns) :
    Runs R pending (notifyAll ns) w [] fun _ w' => w'.store = w.store ∧ w'.looks = w.looks :=
  ensures_notifyAll ⟨⟨stepwise.upheld, stepwise.reached, stepwise.holds,
    stepwise.seen.append unbroken⟩, .unchanged rfl rfl, rfl, looks_append_notices w ns⟩

/-! ### The guard -/

/-- The guard is at the value it had. -/
abbrev SameGuard (w w' : World N (Memo σ) (Store N)) : Prop :=
  w'.store.guarded = w.store.guarded

theorem Runs.followed {p : Process N (Memo σ) (Store N) α} {k : α → Process N (Memo σ) (Store N) β}
    (first : Runs R pending p w [] fun _ => SameGuard w)
    (rest : ∀ a w', Stepwise R pending w' → Runs R pending (k a) w' [] fun _ => SameGuard w') :
    Runs R pending (p >>= k) w [] fun _ => SameGuard w :=
  first.bind fun a w' stepwise _ before =>
    (rest a w' stepwise).mono (fun _ _ after => after.trans before) (List.Subset.refl _)

theorem runs_setGuarded (stepwise : Stepwise R pending w) (guarded : Bool) :
    Runs R pending (setGuarded guarded) w [] fun _ w' =>
      w' = { w with store := { w.store with guarded } } :=
  runs_update (stepwise.errand (.guarded _ _)) (leaves_of_facts_eq rfl rfl) rfl

theorem runs_refuse (stepwise : Stepwise R pending w) (operation : GuardedOperation) :
    Runs R pending (refuse operation) w [] fun _ => SameGuard w := by
  have counted : Runs R pending (updateStore fun s : Store N =>
      { s with counters := { s.counters with guardRejections := s.counters.guardRejections + 1 } })
      w [] fun _ => SameGuard w :=
    runs_update (stepwise.errand (.countRefusal w.store))
      (leaves_of_facts_eq rfl rfl) rfl
  exact counted.bind fun _ _ stepwise _ same =>
    (runs_notify stepwise (by simp)).mono
      (fun _ _ store => (congrArg Store.guarded store).trans same) (List.Subset.refl _)

/-! ### Listeners -/

/-- Listeners that go on by steps, uphold a condition, spare the facts that no client made, leave
the guard as they find it, and change nothing that matters while it is held. -/
structure Courteous (R : Condition N σ) (hooks : Hooks N (Memo σ) (Store N)) : Prop where
  runs : ∀ id e w, Stepwise R none w → Runs R none (hooks id e) w [] fun _ => SameGuard w
  /-- The listeners told that a fact is to be asserted find it pending. -/
  waits : ∀ id h w, Stepwise R (some h) w → Guarded w.store →
    Runs R (some h) (hooks id (.beforeAssert h)) w [] fun _ _ => True
  rests : ∀ id e (w : World N (Memo σ) (Store N)) {K : Store N → Prop}, Guarded w.store →
    (∀ s, w.store.Alike s → K s) → Rests K (hooks id e) w fun _ => True

variable {hooks : Hooks N (Memo σ) (Store N)} {K : Store N → Prop}

theorem runs_setRunning (stepwise : Stepwise R pending w) (running : List ListenerId) :
    Runs R pending (setRunning running) w [] fun _ => SameGuard w :=
  runs_update (stepwise.errand (.listeners _ _))
    (leaves_of_facts_eq rfl rfl) rfl

theorem runs_callAll (courteous : Courteous R hooks) (e : Event) (rs : List Registration)
    (stepwise : Stepwise R none w) : Runs R none (callAll hooks e rs) w [] fun _ => SameGuard w := by
  induction rs generalizing w with
  | nil => exact runs_pure stepwise rfl
  | cons r rest ih =>
    unfold callAll
    refine runs_getStore ?_
    dsimp only
    split
    · exact ih stepwise
    · refine (runs_setRunning stepwise _).bind fun _ _ stepwise _ called => ?_
      refine (courteous.runs r.id e _ stepwise).bind fun _ _ stepwise _ heard => ?_
      refine (runs_setRunning stepwise _).bind fun _ _ stepwise _ returned => ?_
      refine (ih stepwise).mono (fun _ _ others => ?_) (List.Subset.refl _)
      exact ((others.trans returned).trans heard).trans called

theorem runs_signal (courteous : Courteous R hooks) (e : Event) (stepwise : Stepwise R none w) :
    Runs R none (signal hooks e) w [] fun _ => SameGuard w :=
  runs_getStore (runs_callAll courteous e _ stepwise)

omit [JoinNetwork N] in
theorem rests_setRunning (guarded : Guarded w.store) (running : List ListenerId) :
    Rests K (setRunning running) w fun _ => True :=
  rests_update guarded .unchanged

theorem rests_callAll (courteous : Courteous R hooks) (e : Event) (rs : List Registration)
    (guarded : Guarded w.store) (kept : ∀ s, w.store.Alike s → K s) :
    Rests K (callAll hooks e rs) w fun _ => True := by
  induction rs generalizing w with
  | nil => exact rests_pure guarded trivial
  | cons r rest ih =>
    unfold callAll
    refine rests_getStore ?_
    dsimp only
    split
    · exact ih guarded kept
    · refine (rests_setRunning guarded _).bind guarded fun _ _ guarded still _ => ?_
      replace kept s alike := kept s (still.alike.trans alike)
      refine (courteous.rests r.id e _ guarded kept).bind guarded fun _ _ guarded still _ => ?_
      replace kept s alike := kept s (still.alike.trans alike)
      refine (rests_setRunning guarded _).bind guarded fun _ _ guarded still _ => ih guarded ?_
      exact fun s alike => kept s (still.alike.trans alike)

theorem rests_signal (courteous : Courteous R hooks) (e : Event) (guarded : Guarded w.store)
    (kept : ∀ s, w.store.Alike s → K s) : Rests K (signal hooks e) w fun _ => True :=
  rests_getStore (rests_callAll courteous e _ guarded kept)

/-- While the guard is held, an event leaves everything that matters as it is. -/
theorem runs_signal_guarded (courteous : Courteous R hooks) (e : Event)
    (stepwise : Stepwise R none w) (guarded : Guarded w.store) :
    Runs R none (signal hooks e) w [] fun _ w' => Still (fun _ => True) w w' :=
  ensures_mono (ensures_and (runs_signal courteous e stepwise)
    (rests_signal courteous e guarded fun _ _ => trivial))
    fun _ _ ⟨⟨stepwise, spares, _⟩, still, _⟩ => ⟨stepwise, spares, still⟩

/-- A pending fact is announced under the guard. -/
theorem waits_callAll (courteous : Courteous R hooks) (h : Handle) (rs : List Registration)
    (stepwise : Stepwise R (some h) w) (guarded : Guarded w.store) :
    Runs R (some h) (callAll hooks (.beforeAssert h) rs) w [] fun _ _ => True := by
  induction rs generalizing w with
  | nil => exact runs_pure stepwise trivial
  | cons r rest ih =>
    have both {α : Type} {p : Process N (Memo σ) (Store N) α} {w : World N (Memo σ) (Store N)}
        {Q : α → World N (Memo σ) (Store N) → Prop} (guarded : Guarded w.store)
        (runs : Runs R (some h) p w [] Q) (rests : Rests (fun _ => True) p w fun _ => True) :
        Runs R (some h) p w [] fun _ w' => Guarded w'.store :=
      ensures_mono (ensures_and runs rests) fun _ _ ⟨⟨stepwise, spares, _⟩, still, _⟩ =>
        ⟨stepwise, spares, guarded.still still⟩
    unfold callAll
    refine runs_getStore ?_
    dsimp only
    split
    · exact ih stepwise guarded
    · refine (both guarded (runs_setRunning stepwise _) (rests_setRunning guarded _)).bind
        fun _ _ stepwise _ guarded => ?_
      refine (both guarded (courteous.waits r.id h _ stepwise guarded)
        (courteous.rests r.id _ _ guarded fun _ _ => trivial)).bind fun _ _ stepwise _ guarded => ?_
      exact (both guarded (runs_setRunning stepwise _) (rests_setRunning guarded _)).bind
        fun _ _ stepwise _ guarded => ih stepwise guarded

theorem waits_signal (courteous : Courteous R hooks) (h : Handle)
    (stepwise : Stepwise R (some h) w) (guarded : Guarded w.store) :
    Runs R (some h) (signal hooks (.beforeAssert h)) w [] fun _ w' =>
      Still (fun _ => True) w w' :=
  ensures_mono (ensures_and (runs_getStore (waits_callAll courteous h _ stepwise guarded))
    (rests_signal courteous (.beforeAssert h) guarded fun _ _ => trivial))
    fun _ _ ⟨⟨stepwise, spares, _⟩, still, _⟩ => ⟨stepwise, spares, still⟩

end FactBase

import FactBase.Proofs.Process.Consistency

/-!
# Clients that keep a ledger

A keeper takes down in a ledger what a fact base has lent it. The rules of the ledger say which
requests it may make, depending on what the ledger says by then, and what becomes of the ledger. The
listeners that its requests call keep the same ledger. The ledger is only there to be reasoned
about; whatever else a keeper wants to remember goes into notes of its own.
-/

namespace FactBase

open Store Process

variable {N L τ σ ι α β : Type}

/-- How a ledger is kept, according to what it says and to the fact base of which something is
asked. -/
structure Rules (N L : Type) where
  allows : {α : Type} → L → Store N → Request α → Bool
  /-- The ledger while a request is dealt with. -/
  before : {α : Type} → L → Store N → Request α → L
  /-- The ledger once a request is answered. The fact base is that of which it was asked. -/
  after : {α : Type} → L → Store N → Request α → α → L

/-- What a keeper notes. -/
structure Book (L τ : Type) where
  ledger : L
  own : τ

/-- A process of a client that keeps a ledger. -/
abbrev Keeping (N L τ : Type) := Process N (Memo (Book L τ)) (Store N)

/-- Changes the notes of one's own. -/
def jot (own : τ) : Keeping N L τ Unit := do note { ← consult with own }

/-- Makes a request if the rules allow it, and keeps the ledger. The ledger stays as it is over a
request that the client may not make. -/
def keep [JoinNetwork N] (rules : Rules N L) (hooks : Hooks N (Memo (Book L τ)) (Store N))
    (r : Request α) : Keeping N L τ (Option α) := do
  let s ← getStore
  let book ← consult
  if rules.allows book.ledger s r then
    note { book with ledger := rules.before book.ledger s r }
    match ← ask hooks r with
    | none =>
      note book
      return none
    | some a =>
      let book ← consult
      note { book with ledger := rules.after book.ledger s r a }
      return some a
  else return none

/-- Clients that keep a ledger by some rules, as do their listeners. -/
inductive Keeper [JoinNetwork N] (rules : Rules N L) : {α : Type} → Keeping N L τ α → Prop
  | pure {α : Type} (a : α) : Keeper rules (pure a)
  | bind {α β : Type} {p : Keeping N L τ α} {k : α → Keeping N L τ β} (first : Keeper rules p)
      (rest : ∀ a, Keeper rules (k a)) : Keeper rules (p >>= k)
  | look : Keeper rules look
  | consult : Keeper rules consult
  | jot (own : τ) : Keeper rules (jot own)
  | giveUp {α : Type} : Keeper rules (throw .nesting : Keeping N L τ α)
  | keep {α : Type} {hooks : Hooks N (Memo (Book L τ)) (Store N)}
      (listeners : ∀ id e, Keeper rules (hooks id e)) (r : Request α) :
      Keeper rules (keep rules hooks r)

/-- Clients that keep a ledger by some rules and may run queries, as may their listeners. -/
inductive Inquirer [JoinNetwork N] (rules : Rules N L) : {α : Type} → Keeping N L τ α → Prop
  | pure {α : Type} (a : α) : Inquirer rules (pure a)
  | bind {α β : Type} {p : Keeping N L τ α} {k : α → Keeping N L τ β} (first : Inquirer rules p)
      (rest : ∀ a, Inquirer rules (k a)) : Inquirer rules (p >>= k)
  | look : Inquirer rules look
  | consult : Inquirer rules consult
  | jot (own : τ) : Inquirer rules (jot own)
  | giveUp {α : Type} : Inquirer rules (throw .nesting : Keeping N L τ α)
  | keep {α : Type} {hooks : Hooks N (Memo (Book L τ)) (Store N)}
      (listeners : ∀ id e, Inquirer rules (hooks id e)) (r : Request α) :
      Inquirer rules (keep rules hooks r)
  | query {α : Type} {test : Query.Test N (Memo (Book L τ)) (Store N)}
      {act : Query.Act N (Memo (Book L τ)) (Store N)} (tests : ∀ x, Inquirer rules (test x))
      (acts : ∀ x, Inquirer rules (act x)) (restrictions : List Restriction)
      (mode : Query.Mode α) : Inquirer rules (mode.run test act restrictions)

/-- A condition on what a ledger says of a fact base. Which condition that is may depend on the
operations under way; it does not matter once they are past. What is wrong with installations is
excused where the condition says nothing of atoms. -/
abbrev OnLedger [JoinNetwork N] (C : ι → L → Store N → Prop) (i : ι) : Condition N (Book L τ) where
  holds _ book s := C i book.ledger s
  past book s := ∃ i, C i book.ledger s
  passes holds := ⟨_, holds⟩
  excuses b := (∃ text, b = .atomNeverInstalled text) ∧
    ∀ ⦃i ledger s atoms⦄, C i ledger s → C i ledger { s with atoms }

namespace World

/-- The world with another ledger. -/
def setLedger (ledger : L) (w : World N (Memo (Book L τ)) (Store N)) :
    World N (Memo (Book L τ)) (Store N) :=
  { w with host := { w.host with notes := { w.host.notes with ledger } } }

end World

variable [JoinNetwork N]

theorem script_jot {ok : (α : Type) → Request α → Prop} (own : τ) :
    Script ok (jot own : Keeping N L τ Unit) := .bind .consult fun _ => .note _

theorem script_keep {rules : Rules N L} {hooks : Hooks N (Memo (Book L τ)) (Store N)}
    (listeners : ∀ id e, Script (fun _ _ => True) (hooks id e)) (r : Request α) :
    Script (fun _ _ => True) (keep rules hooks r) := by
  refine .bind .read fun s => .bind .consult fun book => ?_
  split
  · refine .bind (.note _) fun _ => .bind (.ask listeners r trivial) fun answer => ?_
    cases answer with
    | none => exact .bind (.note _) fun _ => .pure _
    | some a => exact .bind .consult fun book => .bind (.note _) fun _ => .pure _
  · exact .pure _

/-- Keepers do what clients do. -/
theorem Keeper.script {rules : Rules N L} {p : Keeping N L τ α} (keeper : Keeper rules p) :
    Script (fun _ _ => True) p := by
  induction keeper with
  | pure a => exact .pure a
  | bind _ _ first rest => exact .bind first rest
  | look => exact .look
  | consult => exact .consult
  | jot own => exact script_jot own
  | giveUp => exact .giveUp
  | keep _ r listeners => exact script_keep listeners r

/-! ### Stricter conditions -/

/-- A stricter condition that says the same of what is past. -/
structure Tightens (R R' : Condition N σ) : Prop where
  upheld : Upheld R'
  loosens : ∀ {pending notes s}, R' pending notes s → R pending notes s
  past : R'.past = R.past
  excuses : R'.excuses = R.excuses

variable {R R' : Condition N σ}

theorem Tightens.refl (upheld : Upheld R) : Tightens R R :=
  ⟨upheld, id, rfl, rfl⟩

namespace Seen

variable {w : World N (Memo σ) (Store N)}

theorem transfer (seen : Seen R w) (past : R'.past = R.past) (excuses : R'.excuses = R.excuses)
    (holds : R'.past w.host.notes w.store) : Seen R' w := by
  refine ⟨past ▸ seen.looks, seen.trail, fun b inside => ?_, holds, seen.reached⟩
  obtain ⟨s, reached, before, fails⟩ := seen.broken b inside
  exact ⟨s, reached, past ▸ before, excuses ▸ fails⟩

theorem loosen (seen : Seen R' w) (tight : Tightens R R') : Seen R w :=
  seen.transfer tight.past.symm tight.excuses.symm (tight.past ▸ seen.holds)

end Seen

/-- A client changes its notes. -/
theorem Stepwise.noted {w : World N (Memo σ) (Store N)} {pending : Option Handle}
    (stepwise : Stepwise R pending w) {w' : World N (Memo σ) (Store N)}
    (store : w'.store = w.store) (journal : w'.journal = w.journal)
    (holds : R pending w'.host.notes w.store) : Stepwise R pending w' := by
  rw [← store] at holds
  refine ⟨stepwise.upheld, store ▸ stepwise.reached, holds, stepwise.seen.go journal ?_ (R.passes holds)⟩
  rw [store]

theorem Stepwise.tighten {w : World N (Memo σ) (Store N)} {pending : Option Handle}
    (stepwise : Stepwise R pending w) (tight : Tightens R R')
    (holds : R' pending w.host.notes w.store) : Stepwise R' pending w :=
  ⟨tight.upheld, stepwise.reached, holds,
    stepwise.seen.transfer tight.past tight.excuses (R'.passes holds)⟩

theorem Stepwise.loosen {w : World N (Memo σ) (Store N)} {pending : Option Handle}
    (stepwise : Stepwise R' pending w) (tight : Tightens R R') (upheld : Upheld R) :
    Stepwise R pending w :=
  ⟨upheld, stepwise.reached, tight.loosens stepwise.holds, stepwise.seen.loosen tight⟩

/-- What is past does not depend on the operations under way. -/
theorem Seen.switch {C : ι → L → Store N → Prop} {i j : ι} {w : World N (Memo (Book L τ)) (Store N)}
    (seen : Seen (OnLedger C i) w) : Seen (OnLedger C j) w :=
  seen.transfer rfl rfl seen.holds

/-- While the fact base moves on, operations begin or end and the ledger is brought up to date. -/
theorem Stepwise.switch {C : ι → L → Store N → Prop} {i j : ι}
    {w w' : World N (Memo (Book L τ)) (Store N)} (stepwise : Stepwise (OnLedger C i) none w)
    (upheld : Upheld (OnLedger (τ := τ) C j)) (journal : w'.journal = w.journal)
    (path : Path w.store w'.store) (holds : C j w'.host.notes.ledger w'.store) :
    Stepwise (OnLedger C j) none w' :=
  ⟨upheld, stepwise.reached.path path, holds, (stepwise.seen.go journal path ⟨j, holds⟩).switch⟩

/-! ### Keeping a ledger -/

section Ask

variable {w : World N (Memo σ) (Store N)} {E : World N (Memo σ) (Store N) → Prop}

/-- The world in which a client remembers only facts that are there. -/
def World.forgotten (w : World N (Memo σ) (Store N)) : World N (Memo σ) (Store N) :=
  { w with host := { w.host with made := w.host.made.filter fun h => (w.store.get? h).isSome } }

omit [JoinNetwork N] in
theorem current_forgotten (w : World N (Memo σ) (Store N)) : Current w.forgotten :=
  fun _ inside => (List.mem_filter.mp inside).2

omit [JoinNetwork N] in
theorem spares_forgotten (w : World N (Memo σ) (Store N)) : Spares [] w w.forgotten :=
  ⟨fun _ f found _ strange _ =>
    ⟨⟨f, found, rfl⟩, fun inside => strange (List.mem_of_mem_filter inside)⟩, rfl⟩

/-- A request is refused as long as the client may not use its facts, or it is performed. -/
theorem ensures_ask {hooks : Hooks N (Memo σ) (Store N)} {r : Request α}
    {Q : Option α → World N (Memo σ) (Store N) → Prop} (refused : Q none w.forgotten)
    (performed : r.facts.all (mayUse w.forgotten) = true →
      Ensures (r.perform hooks) w.forgotten (fun a w' => Q (some a)
        { w' with host := { w'.host with made := (r.made a).toList ++ w'.host.made } }) E) :
    Ensures (ask hooks r) w Q E := by
  unfold FactBase.ask
  refine ensures_bind (show Ensures forget w _ _ from ?_)
  refine ensures_bind (show Ensures get w.forgotten _ _ from ?_)
  change Ensures (if r.facts.all (mayUse w.forgotten) = true then _ else _) _ _ _
  split
  · rename_i allowed
    exact ensures_bind (performed allowed)
  · exact ensures_pure refused

end Ask

section Keep

variable {rules : Rules N L} {hooks : Hooks N (Memo (Book L τ)) (Store N)}
  {w w₁ : World N (Memo (Book L τ)) (Store N)} {R R' : Condition N (Book L τ)} {r : Request α}

omit [JoinNetwork N] in
theorem ensures_consult {Q : Book L τ → World N (Memo (Book L τ)) (Store N) → Prop}
    {E : World N (Memo (Book L τ)) (Store N) → Prop} (holds : Q w.host.notes w) :
    Ensures consult w Q E := holds

omit [JoinNetwork N] in
theorem ensures_note {book : Book L τ} {Q : Unit → World N (Memo (Book L τ)) (Store N) → Prop}
    {E : World N (Memo (Book L τ)) (Store N) → Prop}
    (holds : Q () { w with host := { w.host with notes := book } }) :
    Ensures (note book) w Q E := holds

/-- The world in which a request that the rules allow is dealt with. -/
structure Opens (rules : Rules N L) (r : Request α) (w w₁ : World N (Memo (Book L τ)) (Store N)) :
    Prop where
  allowed : rules.allows w.host.notes.ledger w.store r = true
  store : w₁.store = w.store
  journal : w₁.journal = w.journal
  notes : w₁.host.notes =
    { w.host.notes with ledger := rules.before w.host.notes.ledger w.store r }
  current : Current w₁

/-- A request is dealt with under the condition that the ledger satisfies by then. -/
theorem Opens.begun {C : ι → L → Store N → Prop} {i : ι} (opened : Opens rules r w w₁)
    (stepwise : Stepwise (OnLedger C i) none w)
    (holds : C i (rules.before w.host.notes.ledger w.store r) w.store) :
    Stepwise (OnLedger C i) none w₁ := by
  refine stepwise.noted opened.store opened.journal ?_
  rw [opened.notes]
  exact holds

/-- What is wanted of a request of a keeper once it is answered. -/
structure Closes (R : Condition N (Book L τ)) (rules : Rules N L) (r : Request α)
    (w₁ : World N (Memo (Book L τ)) (Store N)) (a : α) (w₂ : World N (Memo (Book L τ)) (Store N)) :
    Prop where
  stepwise : Stepwise R none (w₂.setLedger (rules.after w₂.host.notes.ledger w₁.store r a))
  spares : Spares r.facts w₁ w₂
  fresh : ∀ h, r.made a = some h → w₁.store.get? h = none
  guard : SameGuard w₁ w₂

/-- A keeper goes on by steps if its requests do, together with what becomes of its ledger. -/
theorem runs_keep (stepwise : Stepwise R none w)
    (performs : ∀ w₁, Opens rules r w w₁ →
      Ensures (r.perform hooks) w₁ (Closes R rules r w₁) (Seen R)) :
    Runs R none (keep rules hooks r) w [] fun _ => SameGuard w := by
  unfold keep
  refine runs_getStore (ensures_bind (ensures_consult ?_))
  split
  · rename_i allowed
    refine ensures_bind (ensures_note (ensures_bind (ensures_ask ?_ fun mayUse => ?_)))
    · refine ensures_bind (ensures_note (ensures_pure ⟨stepwise.same rfl rfl rfl, ?_, rfl⟩))
      exact ⟨(spares_forgotten w).facts, rfl⟩
    · refine ensures_mono (performs _ ⟨allowed, rfl, rfl, rfl, current_forgotten _⟩) ?_
      intro a w₂ ⟨stepwise', spares, fresh, guard⟩
      refine ensures_bind (ensures_consult (ensures_bind (ensures_note (ensures_pure ?_))))
      have kept := (spares.of_mayUse mayUse).remember fresh
      have spared : Spares [] w w.forgotten := spares_forgotten w
      exact ⟨stepwise'.same rfl rfl rfl, spared.trans ⟨kept.facts, kept.contentHash⟩, guard⟩
  · exact runs_pure stepwise rfl

/-- A request is dealt with under a stricter condition, which takes it into account. -/
theorem runs_keep_upheld (tight : Tightens R R') (courteous : Courteous R' hooks)
    (stepwise : Stepwise R none w)
    (opens : ∀ w₁, Opens rules r w w₁ →
      R' none w₁.host.notes w₁.store ∧ r.UpheldAt w₁.store w₁.host.notes R')
    (closes : ∀ {a book s}, R' none book s →
      R none { book with ledger := rules.after book.ledger w.store r a } s) :
    Runs R none (keep rules hooks r) w [] fun _ => SameGuard w := by
  refine runs_keep stepwise fun w₁ opened => ?_
  obtain ⟨holds, upheld⟩ := opens w₁ opened
  have begun : Stepwise R none w₁ :=
    stepwise.noted opened.store opened.journal (opened.store ▸ tight.loosens holds)
  refine ensures_weaken (ensures_mono (runs_perform courteous (begun.tighten tight holds)
    opened.current r upheld) ?_) fun _ seen => seen.loosen tight
  rintro a w₂ ⟨stepwise', spares, fresh, guard⟩
  have closed := closes (a := a) stepwise'.holds
  rw [← opened.store] at closed
  exact ⟨(stepwise'.loosen tight stepwise.upheld).noted rfl rfl closed, spares, fresh, guard⟩

/-- A request that leads to another fact base is dealt with if that agrees with what becomes of the
ledger. -/
theorem Opens.closes (opened : Opens rules r w w₁) (stepwise : Stepwise R none w) {s : Store N}
    {a : α} (path : Path w₁.store s) (leaves : Leaves r.facts w₁.store s) (made : r.made a = none)
    (guard : s.guarded = w₁.store.guarded)
    (holds : R none { w₁.host.notes with
      ledger := rules.after w₁.host.notes.ledger w₁.store r a } s) :
    Closes R rules r w₁ a { w₁ with store := s } := by
  rw [opened.store] at path
  refine ⟨⟨stepwise.upheld, stepwise.reached.path path, holds,
    stepwise.seen.go opened.journal path (R.passes holds)⟩, .of_leaves leaves, fun h same => ?_, guard⟩
  cases made.symm.trans same

/-- A request that changes nothing is dealt with. -/
theorem Opens.stays (opened : Opens rules r w w₁) (stepwise : Stepwise R none w) {a : α}
    (made : r.made a = none) (holds : R none { w₁.host.notes with
      ledger := rules.after w₁.host.notes.ledger w₁.store r a } w₁.store) :
    Closes R rules r w₁ a w₁ :=
  opened.closes stepwise .refl ((Leaves.refl _).mono (List.nil_subset _)) made rfl holds

/-- Listeners that keep a ledger. -/
theorem courteous_of_runs {C : ι → L → Store N → Prop} {i : ι}
    {ok : (α : Type) → Request α → Prop} (scripts : ∀ id e, Script ok (hooks id e))
    (runs : ∀ id e (w : World N (Memo (Book L τ)) (Store N)), Stepwise (OnLedger C i) none w →
      Runs (OnLedger C i) none (hooks id e) w [] fun _ => SameGuard w) :
    Courteous (OnLedger C i) hooks := by
  refine ⟨runs, fun id h w stepwise _ => ?_, fun id e _ _ => (scripts id e).rests⟩
  refine ensures_mono (runs id _ w
    ⟨stepwise.upheld, stepwise.reached, stepwise.holds, stepwise.seen⟩) ?_
  rintro _ _ ⟨⟨upheld, reached, holds, seen⟩, spares, -⟩
  exact ⟨⟨upheld, reached, holds, seen⟩, spares, trivial⟩

/-- Requests that the rules allow uphold what a ledger says. Which condition that is may depend on the
operations under way. -/
def Rules.Upholds (rules : Rules N L) (τ : Type) (C : ι → L → Store N → Prop) : Prop :=
  ∀ ⦃β : Type⦄ (i : ι) (hooks : Hooks N (Memo (Book L τ)) (Store N)) (r : Request β)
    (w : World N (Memo (Book L τ)) (Store N)), (∀ j, Courteous (OnLedger C j) hooks) →
    Stepwise (OnLedger C i) none w →
    Runs (OnLedger C i) none (keep rules hooks r) w [] fun _ => SameGuard w

theorem Keeper.runs {C : ι → L → Store N → Prop} {p : Keeping N L τ α} (keeper : Keeper rules p)
    (upholds : rules.Upholds τ C)
    (i : ι) (stepwise : Stepwise (OnLedger C i) none w) :
    Runs (OnLedger C i) none p w [] fun _ => SameGuard w := by
  induction keeper generalizing w i with
  | pure a => exact runs_pure stepwise rfl
  | bind _ _ first rest =>
    exact (first i stepwise).followed fun a _ stepwise => rest a i stepwise
  | look => exact runs_look stepwise
  | consult => exact ⟨stepwise, .refl w, rfl⟩
  | jot own =>
    exact ensures_bind (ensures_consult (ensures_note
      ⟨stepwise.noted rfl rfl stepwise.holds, .unchanged rfl rfl, rfl⟩))
  | giveUp => exact runs_throw stepwise _
  | keep listeners r ih =>
    exact upholds i _ r w (fun j => courteous_of_runs (fun id e => (listeners id e).script)
      fun id e w stepwise => ih id e j stepwise) stepwise

/-- What a keeper finds of a fact base that was fresh when it set out, wherever it breaks off. -/
theorem Keeper.seen {C : ι → L → Store N → Prop} {p : Keeping N L τ α} (keeper : Keeper rules p)
    (upholds : rules.Upholds τ C)
    (i : ι) (upheld : Upheld (OnLedger (τ := τ) C i)) (config : Config) (network : N)
    (contentHash : TemplateId → List Value → UInt64) (book : Book L τ)
    (begins : C i book.ledger (Store.fresh config network contentHash)) :
    Seen (OnLedger C i) (p.aftermath (outset (Store.fresh config network contentHash) book)) :=
  ensures_aftermath (ensures_mono (keeper.runs upholds i
    (stepwise_outset upheld (.fresh config network contentHash) begins))
    fun _ _ ⟨stepwise, _⟩ => stepwise.seen)

end Keep

end FactBase

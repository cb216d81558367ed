import FactBase.Proofs.Process.Attending
import FactBase.Proofs.Query.Enumeration
import FactBase.Proofs.Store.Rightful

/-!
# What actions find

A binding is handed to a test or to an action only while all of its facts are asserted. The facts of
a binding that is acted on stay where they are until the action is done, whatever the action or a
listener does to them, and no pin that a query has taken is left behind. Clients may run queries
within queries, and retract, change or collect what is bound further out.
-/

namespace FactBase

open Store Process Query

namespace Query

variable {N ρ ν α β : Type} {w : World N ρ ν} {s : Store N} {h k : Handle} {x : Binding}

/-! ### Bindings that are live -/

/-- Deals with a binding only if all of its facts are asserted by then. -/
def onLive (refuse p : Binding → Process N ρ ν α) (x : Binding) : Process N ρ ν α := do
  if allAsserted (← getStore) x then p x else refuse x

theorem onLive_of_asserted (refuse p : Binding → Process N ρ ν α)
    (asserted : allAsserted w.store x = true) : onLive refuse p x w = p x w := by
  unfold onLive
  rw [getStore_bind, if_pos asserted]

theorem bind_congr_at {p q : Process N ρ ν α} {k k' : α → Process N ρ ν β} (first : p w = q w)
    (rest : ∀ a w', k a w' = k' a w') : (p >>= k) w = (q >>= k') w := by
  change EStateM.bind p k w = EStateM.bind q k' w
  unfold EStateM.bind
  rw [first]
  cases q w with
  | ok a w' => exact rest a w'
  | error e w' => rfl

theorem isAsserted_raise : (raise s h).isAsserted k = s.isAsserted k := by
  unfold Store.isAsserted raise
  rw [get?_update_facts k rfl]
  split
  · rename_i here
    subst here
    change ((s.facts.get? k).map _).any _ = (s.facts.get? k).any _
    cases s.facts.get? k <;> rfl
  · rfl

theorem isAsserted_pinned : (pinned s x).isAsserted k = s.isAsserted k := by
  induction x generalizing s with
  | nil => rfl
  | cons p x ih => exact ih.trans isAsserted_raise

section Live

variable {bound : Binding} {test : Test N ρ ν} {act : Act N ρ ν}

/-- Only what is asserted is tried, and only below what is asserted still. -/
theorem tryFacts_live {d d' : Handle → β → Process N ρ ν (Except QueryError (β × Flow))}
    (same : ∀ h b w, allAsserted w.store bound = true → w.store.isAsserted h = true →
      d h b w = d' h b w) (hs : List Handle) (b : β) (w : World N ρ ν) :
    tryFacts bound d hs b w = tryFacts bound d' hs b w := by
  induction hs generalizing b w with
  | nil => rfl
  | cons h rest ih =>
    unfold tryFacts
    refine bind_congr_at rfl fun halted w => ?_
    split
    · rfl
    · rw [getStore_bind, getStore_bind]
      cases outer : allAsserted w.store bound with
      | false => rfl
      | true =>
        cases asserted : w.store.isAsserted h with
        | false => exact ih b w
        | true =>
          refine bind_congr_at (same h b w outer asserted) fun r w => ?_
          split
          · exact ih _ w
          · rfl

theorem tryTemplates_live {d d' : Handle → β → Process N ρ ν (Except QueryError (β × Flow))}
    (same : ∀ h b w, allAsserted w.store bound = true → w.store.isAsserted h = true →
      d h b w = d' h b w) (ts : List TemplateId) (b : β) (w : World N ρ ν) :
    tryTemplates bound d ts b w = tryTemplates bound d' ts b w := by
  induction ts generalizing b w with
  | nil => rfl
  | cons t rest ih =>
    unfold tryTemplates
    refine bind_congr_at rfl fun s w => bind_congr_at (tryFacts_live same _ b w) fun r w => ?_
    split
    · exact ih _ w
    · rfl
    · rfl

theorem descend_onLive (refuse : Test N ρ ν) (visit : Visit N ρ ν β) (levels : List Level) (b : β)
    (asserted : allAsserted w.store bound = true) :
    descend (onLive refuse test) visit levels bound b w = descend test visit levels bound b w := by
  induction levels generalizing bound b w with
  | nil =>
    unfold descend
    exact bind_congr_at (onLive_of_asserted refuse test asserted) fun _ _ => rfl
  | cons level deeper ih =>
    unfold descend
    refine tryTemplates_live (fun h b w outer asserted => ih b ?_) level.2 b w
    rw [allAsserted, List.all_append, Bool.and_eq_true]
    exact ⟨outer, by rw [List.all_cons, List.all_nil, asserted, Bool.true_and]⟩

theorem search_onLive (refuse : Test N ρ ν) (visit : Visit N ρ ν β)
    (restrictions : List Restriction) (start : β) :
    search (onLive refuse test) visit restrictions start = search test visit restrictions start := by
  funext w
  unfold search
  refine bind_congr_at rfl fun s w => ?_
  cases compile s.templates restrictions with
  | error e => rfl
  | ok levels => exact bind_congr_at (descend_onLive refuse visit levels start rfl) fun _ _ => rfl

/-- The facts of a binding are asserted when its action sets out, as they were before they were
pinned. -/
theorem runAction_onLive (refuse : Act N ρ ν) (x : Binding) :
    runAction (onLive refuse act) x = runAction act x := by
  funext w
  unfold runAction
  rw [getStore_bind, getStore_bind]
  cases asserted : allAsserted w.store x with
  | false => rfl
  | true =>
    have stored := stored_of_allAsserted asserted
    rw [Bool.not_true, if_neg Bool.false_ne_true, if_neg Bool.false_ne_true,
      bind_of_ok (pinAll_eq stored), bind_of_ok (pinAll_eq stored)]
    refine bind_congr_at (onLive_of_asserted refuse act ?_) fun _ _ => rfl
    unfold allAsserted
    simp only [isAsserted_pinned]
    exact asserted

theorem runDelayed_onLive (refuse : Act N ρ ν) (xs : List Binding) :
    runDelayed (onLive refuse act) xs = runDelayed act xs := by
  induction xs with
  | nil => rfl
  | cons x rest ih =>
    unfold runDelayed
    rw [runAction_onLive, ih]

/-- In every mode, whatever a test or an action would do about a binding that is not live makes no
difference. -/
theorem Mode.run_onLive (refuseTest : Test N ρ ν) (refuseAct : Act N ρ ν)
    (restrictions : List Restriction) (mode : Mode α) :
    mode.run (onLive refuseTest test) (onLive refuseAct act) restrictions =
      mode.run test act restrictions := by
  cases mode with
  | findFirst | findAll => exact search_onLive refuseTest _ restrictions _
  | any =>
    exact congrArg (fun p => p >>= _)
      (search_onLive refuseTest (fun x _ => return .ok (some x, .stop)) restrictions none)
  | doForFirst =>
    change Query.doForFirst _ _ restrictions = _
    unfold Query.doForFirst
    simp only [runAction_onLive]
    exact search_onLive refuseTest _ restrictions false
  | doForAll =>
    change Query.doForAll _ _ restrictions = _
    unfold Query.doForAll
    simp only [runAction_onLive]
    exact search_onLive refuseTest _ restrictions 0
  | delayedDoForAll =>
    have found : Query.findAll (onLive refuseTest test) restrictions = Query.findAll test restrictions :=
      search_onLive refuseTest _ restrictions []
    change Query.delayedDoForAll _ _ restrictions = _
    unfold Query.delayedDoForAll
    rw [found]
    simp only [runDelayed_onLive]
    rfl

end Live

end Query

variable {N τ α β : Type}

/-! ### Pins on behalf of an action -/

def PinTally.lend (l : PinTally) (hs : List Handle) : PinTally := { l with lent := hs ++ l.lent }

def PinTally.reclaim (l : PinTally) (count : Nat) : PinTally := { l with lent := l.lent.drop count }

def Underway.lend (u : Underway) (hs : List Handle) : Underway := { u with lent := hs ++ u.lent }

def Query.handles (x : Binding) : List Handle := x.map (·.2)

namespace Store.Attended

variable {s s' : Store N} {l : PinTally} {u : Underway} {h : Handle} {f : Fact}

/-- A query has pinned a fact once more, which is asserted. -/
theorem lendOne (attended : s.Attended u l) (found : s.get? h = some f)
    (asserted : f.isAsserted = true) : (raise s h).Attended (u.lend [h]) (l.lend [h]) := by
  have pins := attended.pins h
  rw [found] at pins
  have attached : f.isUnattached = false :=
    Bool.eq_false_iff.mpr fun unattached => not_asserted_of_unattached unattached asserted
  have lent := attended.setBusy found (l.lend [h]) (f.busy + 1) ?_ (fun k other => ?_)
    (fun _ unattached => (by cases attached.symm.trans unattached)) (fun _ => attached)
    (fun _ _ => id) (fun k other inside => List.mem_of_ne_of_mem other inside) rfl
  · rw [raise_eq_setBusy found, Underway.lend, ← attended.lent]
    exact lent
  · have more : (l.lend [h]).count h = l.count h + 1 := by
      unfold PinTally.count PinTally.lend
      rw [List.singleton_append, List.count_cons_self, Nat.add_assoc]
    rw [more]
    exact Fact.HasPins.succ pins
  · unfold PinTally.count PinTally.lend
    rw [List.singleton_append, List.count_cons_of_ne (Ne.symm other)]

/-- A query has pinned the facts of a binding, be they as many or one. -/
theorem lend {x : Binding} (attended : s.Attended u l) (asserted : allAsserted s x = true) :
    (pinned s x).Attended (u.lend (handles x)) (l.lend (handles x)) := by
  induction x with
  | nil => exact attended
  | cons p x ih =>
    rw [allAsserted, List.all_cons, Bool.and_eq_true] at asserted
    obtain ⟨first, rest⟩ := asserted
    rw [← isAsserted_pinned (x := x)] at first
    obtain ⟨f, found, live⟩ := isAsserted_iff_exists.mp first
    have pins : pinned s (p :: x) = raise (pinned s x) p.2 := pinned_raise
    rw [pins]
    exact (ih rest).lendOne found live

/-- A query gives back a pin. -/
theorem reclaimOne {rest : List Handle} (attended : s.Attended u l) (lent : l.lent = h :: rest) :
    ∃ s', s.release h = .ok (.ok (), s') ∧
      s'.Attended { u with lent := rest } { l with lent := rest } := by
  have inside : h ∈ l.lent := lent ▸ List.mem_cons_self
  obtain ⟨f, found, pins⟩ := attended.stored (count_of_lent inside)
  have fewer (k : Handle) : l.count k =
      PinTally.count { l with lent := rest } k + if h = k then 1 else 0 := by
    unfold PinTally.count
    rw [lent, List.count_cons]
    simp only [beq_iff_eq]
    omega
  rw [fewer, if_pos rfl] at pins
  obtain ⟨held, less⟩ := pins.pred
  refine ⟨s.setBusy h (f.busy - 1), by rw [Store.release, found]; exact if_neg held, ?_⟩
  refine attended.setBusy found { l with lent := rest } (f.busy - 1) less (fun k other => ?_)
    (fun taken => attended.grounded h taken f found)
    (fun _ => attended.attached h inside f found) (fun _ _ => id)
    (fun k _ kept => lent ▸ List.mem_cons_of_mem _ kept) rfl
  rw [fewer, if_neg (Ne.symm other), Nat.add_zero]

end Store.Attended

/-- An action while which the facts of its binding are tallied as pinned by the query. -/
def attended (act : Act N (Memo (Book PinTally τ)) (Store N)) :
    Act N (Memo (Book PinTally τ)) (Store N) := fun x => do
  let book ← consult
  note { book with ledger := book.ledger.lend (handles x) }
  let result ← act x
  let book ← consult
  note { book with ledger := book.ledger.reclaim x.length }
  return result

/-- Clients that keep a tally of their pins and run queries, like their listeners. The tests and the
actions of a query are such clients themselves. -/
inductive Inquiry [JoinNetwork N] : {α : Type} → Keeping N PinTally τ α → Prop
  | pure {α : Type} (a : α) : Inquiry (pure a)
  | bind {α β : Type} {p : Keeping N PinTally τ α} {k : α → Keeping N PinTally τ β}
      (first : Inquiry p) (rest : ∀ a, Inquiry (k a)) : Inquiry (p >>= k)
  | look : Inquiry look
  | consult : Inquiry consult
  | jot (own : τ) : Inquiry (jot own)
  | giveUp {α : Type} : Inquiry (throw .nesting : Keeping N PinTally τ α)
  | keep {α : Type} {hooks : Hooks N (Memo (Book PinTally τ)) (Store N)}
      (listeners : ∀ id e, Inquiry (hooks id e)) (r : Request α) :
      Inquiry (keep (tallyRules N) hooks r)
  | query {α : Type} {test : Test N (Memo (Book PinTally τ)) (Store N)}
      {act : Act N (Memo (Book PinTally τ)) (Store N)} (tests : ∀ x, Inquiry (test x))
      (acts : ∀ x, Inquiry (act x)) (restrictions : List Restriction) (mode : Mode α) :
      Inquiry (mode.run test (attended act) restrictions)

variable [JoinNetwork N]

theorem script_attended {ok : (α : Type) → Request α → Prop}
    {act : Act N (Memo (Book PinTally τ)) (Store N)} {x : Binding} (acts : Script ok (act x)) :
    Script ok (attended act x) :=
  .bind .consult fun _ => .bind (.note _) fun _ => .bind acts fun _ => .bind .consult fun _ =>
    .bind (.note _) fun _ => .pure _

/-- They do what clients do. -/
theorem Inquiry.script {p : Keeping N PinTally τ α} (inquiry : Inquiry p) :
    Script (fun _ _ => True) p := by
  induction inquiry with
  | pure a => exact .pure a
  | bind _ _ first rest => exact .bind first rest
  | look => exact .look
  | consult => exact .consult
  | jot own => exact script_jot own
  | giveUp => exact .giveUp
  | keep _ r listeners => exact script_keep listeners r
  | query _ _ restrictions mode tests acts =>
    exact script_run ⟨trivial, fun _ => trivial, fun _ => trivial⟩ tests
      (fun x => script_attended (acts x)) restrictions mode

/-! ### Runs -/

section Runs

variable {u : Underway} {l : PinTally} {w : World N (Memo (Book PinTally τ)) (Store N)} {x : Binding}
  {Q : Unit → World N (Memo (Book PinTally τ)) (Store N) → Prop}
  {E : World N (Memo (Book PinTally τ)) (Store N) → Prop}

/-- The fact base after pins were taken or given back. -/
structure Pinning (w : World N (Memo (Book PinTally τ)) (Store N)) (s : Store N) : Prop where
  path : Path w.store s
  spares : Spares [] w { w with store := s }
  guard : s.guarded = w.store.guarded

theorem Pinning.refl (w : World N (Memo (Book PinTally τ)) (Store N)) : Pinning w w.store :=
  ⟨.refl, .refl w, rfl⟩

theorem Pinning.setBusy {s : Store N} (pinning : Pinning w s) {h : Handle} {busy : Nat}
    (move : Move s (s.setBusy h busy)) : Pinning w (s.setBusy h busy) := by
  have spared : Spares [] { w with store := s } { w with store := s.setBusy h busy } :=
    .setBusy { w with store := s } h busy
  exact ⟨pinning.path.tail move, pinning.spares.trans spared, pinning.guard⟩

theorem pinning_pinned (stored : ∀ p ∈ x, (w.store.get? p.2).isSome = true) :
    Pinning w (pinned w.store x) := by
  induction x with
  | nil => exact .refl w
  | cons p x ih =>
    have before := ih fun q inside => stored q (List.mem_cons_of_mem _ inside)
    have there : ((pinned w.store x).get? p.2).isSome = true :=
      isSome_pinned.trans (stored p List.mem_cons_self)
    obtain ⟨f, found⟩ := Option.isSome_iff_exists.mp there
    have pins : pinned w.store (p :: x) = raise (pinned w.store x) p.2 := pinned_raise
    have move : Move (pinned w.store x) (raise (pinned w.store x) p.2) :=
      .chore (.retain (retain_eq_raise there))
    rw [pins]
    rw [raise_eq_setBusy found] at move ⊢
    exact before.setBusy move

theorem Pinning.release {s s' : Store N} (pinning : Pinning w s) {h : Handle}
    {r : Except StoreError Unit} (done : s.release h = .ok (r, s')) : Pinning w s' := by
  have move := Move.release done
  obtain ⟨-, -, rfl⟩ | ⟨f, -, -, -, rfl⟩ := release_eq_ok done
  · exact pinning
  · exact pinning.setBusy move

/-- What a query has pinned is there to be given back. -/
theorem ensures_unpinAll {s : Store N} {rest : List Handle} (pinning : Pinning w s)
    (attended : s.Attended u l) (lent : l.lent = handles x ++ rest)
    (holds : ∀ s, Pinning w s → s.Attended { u with lent := rest } { l with lent := rest } →
      Q () { w with store := s }) :
    Ensures (unpinAll x) { w with store := s } Q E := by
  induction x generalizing s u l with
  | nil =>
    obtain rfl : l.lent = rest := lent
    have same : { u with lent := l.lent } = u := by rw [attended.lent]
    refine ensures_pure (holds s pinning ?_)
    rw [same]
    exact attended
  | cons p x ih =>
    obtain ⟨s', done, given⟩ := attended.reclaimOne lent
    unfold unpinAll
    exact ensures_bind (ensures_step_of_ok done (ih (pinning.release done) given rfl holds))

/-- What a client with a tally of its pins does whatever is under way. -/
def Attends (p : Keeping N PinTally τ α) : Prop :=
  ∀ (u : Underway) (w : World N (Memo (Book PinTally τ)) (Store N)),
    Stepwise (OnLedger Attended u) none w →
    Runs (OnLedger Attended u) none p w [] fun _ => SameGuard w

theorem searching_attends :
    Searching fun _ (p : Process N (Memo (Book PinTally τ)) (Store N) _) => Attends p where
  pure _ _ _ stepwise := runs_pure stepwise rfl
  bind first rest u w stepwise :=
    (first u w stepwise).followed fun a w' stepwise => rest a u w' stepwise
  read _ w stepwise := ⟨stepwise, .refl w, rfl⟩
  poll _ _ stepwise :=
    runs_pollHalt stepwise fun _ _ attended _ => attended.keeps (.of_facts_eq rfl)

/-- While an action runs, the pins of its query are under way. -/
theorem attends_runAction {act : Act N (Memo (Book PinTally τ)) (Store N)} (acts : Attends (act x)) :
    Attends (runAction (attended act) x) := by
  intro u w stepwise
  unfold runAction
  refine runs_getStore ?_
  cases asserted : allAsserted w.store x with
  | false => exact runs_pure stepwise rfl
  | true =>
    have stored := stored_of_allAsserted asserted
    have pinning := pinning_pinned stored
    rw [Bool.not_true, if_neg Bool.false_ne_true]
    refine ensures_bind (ensures_of_ok (pinAll_eq stored) ?_)
    refine ensures_bind (ensures_bind (ensures_consult (ensures_bind (ensures_note ?_))))
    have holds : w.store.Attended u w.host.notes.ledger := stepwise.holds
    let w₁ := World.setLedger (w.host.notes.ledger.lend (handles x))
      { w with store := pinned w.store x }
    refine ensures_bind (ensures_weaken (ensures_mono (acts (u.lend (handles x)) w₁
      (stepwise.switch (upheld_attended _) rfl pinning.path (holds.lend asserted))) ?_)
      fun _ seen => seen.switch)
    rintro result w₂ ⟨stepwise₂, spares₂, guard₂⟩
    refine ensures_bind (ensures_consult (ensures_bind (ensures_note (ensures_pure ?_))))
    have holds₂ : w₂.store.Attended (u.lend (handles x)) w₂.host.notes.ledger := stepwise₂.holds
    have reclaimed : w₂.host.notes.ledger.reclaim x.length =
        { w₂.host.notes.ledger with lent := u.lent } := by
      unfold PinTally.reclaim
      rw [holds₂.lent]
      exact congrArg (fun lent => { w₂.host.notes.ledger with lent })
        (List.drop_left' (List.length_map _))
    let w₃ := w₂.setLedger (w₂.host.notes.ledger.reclaim x.length)
    refine ensures_bind (ensures_unpinAll (Pinning.refl w₃) holds₂ holds₂.lent
      fun s after given => ?_)
    have ended : Stepwise (OnLedger Attended u) none { w₃ with store := s } :=
      stepwise₂.switch (upheld_attended u) rfl after.path (by rw [← reclaimed] at given; exact given)
    have spares₁ : Spares [] w w₁ := ⟨pinning.spares.facts, pinning.spares.contentHash⟩
    have spares₃ : Spares [] w₁ w₃ := ⟨spares₂.facts, spares₂.contentHash⟩
    have guard := (after.guard.trans guard₂).trans pinning.guard
    split <;> exact ensures_pure ⟨ended, (spares₁.trans spares₃).trans after.spares, guard⟩

theorem Inquiry.attends {p : Keeping N PinTally τ α} (inquiry : Inquiry p) : Attends p := by
  induction inquiry with
  | pure a => exact fun _ _ stepwise => runs_pure stepwise rfl
  | bind _ _ first rest =>
    exact fun u w stepwise => (first u w stepwise).followed fun a w' stepwise => rest a u w' stepwise
  | look => exact fun _ _ stepwise => runs_look stepwise
  | consult => exact fun _ w stepwise => ⟨stepwise, .refl w, rfl⟩
  | jot own =>
    exact fun _ w stepwise => ensures_bind (ensures_consult (ensures_note
      ⟨stepwise.noted rfl rfl stepwise.holds, .unchanged rfl rfl, rfl⟩))
  | giveUp => exact fun _ _ stepwise => runs_throw stepwise _
  | keep listeners r heard =>
    exact fun u w stepwise => tallyRules_upholds u _ r w (fun _ => courteous_of_runs
      (fun id e => (listeners id e).script) fun id e w stepwise => heard id e _ w stepwise) stepwise
  | query _ _ restrictions mode tests acts =>
    exact searching_attends.run tests (fun x => attends_runAction (acts x)) restrictions mode

end Runs

/-! ### Breaking off -/

theorem isPlain_ofQueries (b : Breach) (plain : b.isPlain = true) : b.ofQueries = false := by
  rw [Breach.isPlain, Bool.and_eq_true] at plain
  exact (Bool.not_eq_true' _).mp plain.2

/-- Nothing but a query breaks off over what a query has pinned. -/
theorem Store.ofQueries_of_fails {s : Store N} {excuses : Breach → Prop}
    (network : ∀ h ids (n : N), BreaksOver (·.ofMatches = true) (JoinNetwork.retract h ids n))
    (strict : ∀ b, excuses b → b.ofQueries = false) {b : Breach} (fails : Fails excuses s b) :
    b.ofQueries = false := by
  have taken (h : Handle) (ids : List MatchId) (n : N) :
      BreaksOver (·.ofQueries = false) (JoinNetwork.retract h ids n) := by
    intro b failed
    have ofMatches := network h ids n b failed
    cases b with
    | vanishedWhilePinning | freedWhilePinned => cases ofMatches
    | _ => rfl
  have gives (s : Store N) (f : Fact) :
      BreaksOver (·.ofQueries = false) (f.values.foldlM AtomTable.deinstall s.atoms) := by
    refine breaksOver_foldlM (AtomTable.breaksOver_deinstall fun b atomic => ?_) _ _
    cases b with
    | vanishedWhilePinning | freedWhilePinned => cases atomic
    | _ => rfl
  have plain := isPlain_ofQueries
  cases fails with
  | createWith failed => exact breaksOver_createWith plain s _ _ _ b failed
  | createFact failed => exact breaksOver_createFact plain s _ b failed
  | createOrdered failed => exact breaksOver_createOrdered plain s _ _ b failed
  | discard failed => exact breaksOver_discard plain (fun f _ _ => gives s f) b failed
  | free _ _ failed => exact breaksOver_free plain (fun f _ _ => gives s f) b failed
  | release failed => exact breaksOver_release plain s _ b failed
  | deinstall _ failed => exact breaksOver_deinstall plain (fun f _ => gives s f) b failed
  | collectGarbage failed =>
    exact breaksOver_collectGarbage plain (P := fun _ => True) (fun _ _ _ => gives _ _)
      (fun _ _ => trivial) (fun _ _ => trivial) trivial b failed
  | maybeCollect failed =>
    exact breaksOver_maybeCollect plain (P := fun _ => True) (fun _ _ _ => gives _ _)
      (fun _ _ => trivial) (fun _ _ => trivial) trivial b failed
  | detach failed => exact breaksOver_detach plain taken b failed
  | matchFact _ failed => exact breaksOver_matchFact plain s _ _ b failed
  | addPattern failed => exact breaksOver_addPattern plain taken _ _ b failed
  | replayNewPatterns failed => exact breaksOver_replayAll plain taken _ b failed
  | pin excused | unpin excused => exact strict _ excused

/-! ### Actions -/

/-- What is pinned is there, and besides being asserted a fact is held by its pins only. -/
structure Store.CountsPins (l : PinTally) (s : Store N) : Prop where
  stored : ∀ h ∈ l.own ++ l.lent, (s.get? h).isSome = true
  busy : ∀ h f, s.get? h = some f →
    f.busy = (if f.isAsserted then 1 else 0) + (l.own.count h + l.lent.count h)

omit [JoinNetwork N] in
theorem Store.Attended.countsPins {s : Store N} {l : PinTally} {u : Underway}
    (attended : s.Attended u l) : s.CountsPins l := by
  refine ⟨fun h inside => Option.isSome_iff_exists.mpr ?_, fun h f found => ?_⟩
  · have pinned : l.count h ≠ 0 := by
      rcases List.mem_append.mp inside with own | lent
      · exact count_of_own own
      · exact count_of_lent lent
    exact (attended.stored pinned).imp fun f found => found.1
  · have pins := attended.pins h
    rw [found] at pins
    exact pins

/-- In every mode of a query, tests and actions are handed bindings whose facts are all asserted.
Whatever clients and their listeners ask of a fact base, within queries or outside, and wherever they
break off, be it in the middle of an action: the facts that queries have pinned by then are there,
and so often are they pinned, also if several variables are bound to one fact. A query that returns
leaves none of its own pins behind. If the join network breaks off over matches only, then nothing
ever breaks off because a fact is gone that a query is to pin or has pinned. -/
theorem actions_attended {p : Keeping N PinTally τ α} {q : Keeping N PinTally τ β}
    (before : Inquiry p) (inquiry : Inquiry q) (config : Config) (network : N)
    (contentHash : TemplateId → List Value → UInt64) (own : τ) :
    (∀ {ρ ν γ : Type} (mode : Mode γ) (test refuseTest : Test N ρ ν) (act refuseAct : Act N ρ ν)
      (restrictions : List Restriction),
      mode.run (onLive refuseTest test) (onLive refuseAct act) restrictions =
        mode.run test act restrictions) ∧
    let w := p.aftermath (outset (Store.fresh config network contentHash) ⟨{}, own⟩)
    w.store.CountsPins w.host.notes.ledger ∧
      (∀ b w', q w = .ok b w' → w'.host.notes.ledger.lent = w.host.notes.ledger.lent ∧
        w'.store.CountsPins w'.host.notes.ledger) ∧
      ((∀ h ids (n : N), BreaksOver (·.ofMatches = true) (JoinNetwork.retract h ids n)) →
        ∀ b, Entry.notice (.broken b) ∈ w.journal → b.ofQueries = false) := by
  refine ⟨fun mode test refuseTest act refuseAct restrictions =>
    mode.run_onLive refuseTest refuseAct restrictions, ?_⟩
  intro w
  have seen : Seen (OnLedger Attended {}) w :=
    ensures_aftermath (ensures_mono (before.attends {} _ (stepwise_outset (upheld_attended {})
      (.fresh config network contentHash) (Attended.fresh config network contentHash)))
      fun _ _ ⟨stepwise, _⟩ => stepwise.seen)
  obtain ⟨u, attended⟩ := seen.holds
  refine ⟨attended.countsPins, fun b w' done => ?_, fun matchesOnly b inside => ?_⟩
  · have runs := inquiry.attends u w ⟨upheld_attended u, seen.reached, attended, seen.switch⟩
    unfold Runs Ensures at runs
    rw [done] at runs
    have attended' : w'.store.Attended u w'.host.notes.ledger := runs.1.holds
    exact ⟨attended'.lent.trans attended.lent.symm, attended'.countsPins⟩
  · obtain ⟨s, -, -, fails⟩ := seen.broken b inside
    refine Store.ofQueries_of_fails matchesOnly (fun b excused => ?_) fails
    obtain ⟨⟨text, rfl⟩, -⟩ := excused
    rfl

/-- An action gives up after it has retracted the lamp that both of its variables are bound to and
has garbage collected. Meanwhile the lamp stays, and it does so while another query looks for lamps. -/
theorem actions_attended_lamp :
    let rules := tallyRules AlphaMemory
    let hooks : Hooks AlphaMemory (Memo (Book PinTally Unit)) (Store AlphaMemory) :=
      fun _ _ => pure ()
    let test : Test AlphaMemory (Memo (Book PinTally Unit)) (Store AlphaMemory) :=
      fun _ => return .ok true
    let act : Act AlphaMemory (Memo (Book PinTally Unit)) (Store AlphaMemory) := fun _ => do
      let _ ← keep rules hooks (.retract ⟨0, 0⟩)
      let _ ← keep rules hooks .collectGarbage
      throw .nesting
    let lamps : List Restriction := [⟨"x", ["lamp"]⟩, ⟨"y", ["lamp"]⟩]
    let p : Keeping AlphaMemory PinTally Unit Unit := do
      let _ ← keep rules hooks (.assertOrdered "lamp" [.symbol "on"])
      let _ ← keep rules hooks (.retain ⟨0, 0⟩)
      let _ ← Mode.doForAll.run test (attended act) lamps
    let q : Keeping AlphaMemory PinTally Unit (Except QueryError Bool) :=
      Mode.any.run test (attended act) lamps
    let w := p.aftermath (outset (Store.fresh {} {} fun _ _ => 0) ⟨{}, ()⟩)
    w.store.CountsPins w.host.notes.ledger ∧
      (∀ b w', q w = .ok b w' → w'.host.notes.ledger.lent = w.host.notes.ledger.lent) ∧
      (∀ b, Entry.notice (.broken b) ∈ w.journal → b.ofQueries = false) ∧
      (w.host.notes.ledger.own, w.host.notes.ledger.lent, w.store.facts.values.map fun f =>
        (f.isGarbage, f.busy)) = ([⟨0, 0⟩], [⟨0, 0⟩, ⟨0, 0⟩], [(true, 3)]) ∧
      (match q w with
      | .ok r w' => (r.toOption, w'.store.facts.size)
      | .error _ _ => (none, 0)) = (some false, 1) := by
  intro rules hooks test act lamps p q
  have idle (id : ListenerId) (e : Event) : Inquiry (hooks id e) := .pure ()
  have tests (x : Binding) : Inquiry (test x) := .pure _
  have acts (x : Binding) : Inquiry (act x) :=
    .bind (.keep idle _) fun _ => .bind (.keep idle _) fun _ => .giveUp
  have before : Inquiry p := .bind (.keep idle _) fun _ => .bind (.keep idle _) fun _ =>
    .bind (.query tests acts lamps _) fun _ => .pure ()
  have inquiry : Inquiry q := .query tests acts lamps _
  obtain ⟨-, counts, returns, sound⟩ := actions_attended before inquiry {} {} (fun _ _ => 0) ()
  refine ⟨counts, fun b w' done => (returns b w' done).1, sound AlphaMemory.breaksOver_retract,
    by decide +kernel, by decide +kernel⟩

end FactBase

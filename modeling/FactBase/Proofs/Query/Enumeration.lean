import FactBase.Proofs.Query.Sweep

/-!
# What queries come to

A test or an action that is settled by the binding and the fact base deals with each binding on its
own. The modes of a query differ in what ends the search and in what they gather.
-/

namespace FactBase.Query

open Store Process

variable {N ρ ν α β : Type} {w : World N ρ ν} {s : Store N}

/-! ### Pins of one action -/

/-- A fact base with one more pin on a fact. -/
def raise (s : Store N) (h : Handle) : Store N :=
  { s with facts := s.facts.update h fun f => { f with busy := f.busy + 1 } }

/-- A fact base with a pin on each fact of a binding. -/
def pinned (s : Store N) (x : Binding) : Store N := x.foldl (fun s p => raise s p.2) s

section Pins

variable {h k : Handle} {x : Binding}

theorem isSome_raise : ((raise s h).get? k).isSome = (s.get? k).isSome := by
  rw [raise, get?_update_facts k rfl]
  split
  · rename_i here
    rw [here, Option.isSome_map]
    rfl
  · rfl

theorem isSome_pinned : ((pinned s x).get? k).isSome = (s.get? k).isSome := by
  induction x generalizing s with
  | nil => rfl
  | cons p x ih => exact ih.trans isSome_raise

theorem pinned_raise : pinned (raise s h) x = raise (pinned s x) h := by
  induction x generalizing s with
  | nil => rfl
  | cons p x ih =>
    have swap : raise (raise s h) p.2 = raise (raise s p.2) h :=
      congrArg (fun facts => { s with facts }) (Arena.update_comm s.facts h p.2 _)
    rw [pinned, List.foldl_cons, swap]
    exact ih

theorem raise_eq_setBusy {f : Fact} (found : s.get? h = some f) :
    raise s h = s.setBusy h (f.busy + 1) := by
  unfold setBusy raise
  rw [Arena.update_of_some found, Arena.update_of_some found]

theorem retain_eq_raise (stored : (s.get? h).isSome = true) : s.retain h = .ok (raise s h) := by
  obtain ⟨f, found⟩ := Option.isSome_iff_exists.mp stored
  rw [retain, found, raise_eq_setBusy found]

theorem release_raise (stored : (s.get? h).isSome = true) :
    (raise s h).release h = .ok (.ok (), s) := by
  obtain ⟨f, found⟩ := Option.isSome_iff_exists.mp stored
  have raised : (raise s h).get? h = some { f with busy := f.busy + 1 } := by
    rw [raise, get?_update_facts h rfl, if_pos rfl]
    exact congrArg (Option.map _) found
  have lowered : (raise s h).setBusy h (f.busy + 1 - 1) = s := by
    refine congrArg (fun facts => { s with facts }) (Arena.update_cancel s.facts h fun g same => ?_)
    obtain rfl := Option.some.inj (same.symm.trans found)
    rfl
  rw [release, raised]
  exact congrArg (fun s => Except.ok (Except.ok (), s)) lowered

theorem pinAll_eq (stored : ∀ p ∈ x, (w.store.get? p.2).isSome = true) :
    pinAll x w = .ok () { w with store := pinned w.store x } := by
  induction x generalizing w with
  | nil => rfl
  | cons p x ih =>
    have retained := retain_eq_raise (stored p List.mem_cons_self)
    rw [pinAll, bind_of_ok (attemptChange_of_ok retained)]
    exact ih fun q inside => isSome_raise.trans (stored q (List.mem_cons_of_mem _ inside))

theorem unpinAll_eq (stored : ∀ p ∈ x, (s.get? p.2).isSome = true) :
    unpinAll x { w with store := pinned s x } = .ok () { w with store := s } := by
  induction x with
  | nil => rfl
  | cons p x ih =>
    have pins : pinned s (p :: x) = raise (pinned s x) p.2 := pinned_raise
    have released := release_raise ((isSome_pinned (x := x)).trans (stored p List.mem_cons_self))
    rw [unpinAll, pins, step_bind_of_ok released]
    exact ih fun q inside => stored q (List.mem_cons_of_mem _ inside)

end Pins

/-! ### Bindings dealt with on their own -/

/-- What is done to a binding is settled by the binding and the fact base, which it leaves as it is.
What it does to its host and to the journal is open. -/
structure Neutral (p : Binding → Process N ρ ν (Except EvalError α))
    (verdict : Store N → Binding → Except EvalError α)
    (effect : Binding → World N ρ ν → World N ρ ν) : Prop where
  runs : ∀ x w, p x w = .ok (verdict w.store x) (effect x w)
  store : ∀ x w, (effect x w).store = w.store

/-- How a search goes on from a binding, `flow` being what follows one that is taken. -/
def settled (take : Binding → β → β) (flow : Flow) (x : Binding) (b : β) :
    Except EvalError Bool → Except QueryError (β × Flow)
  | .error e => .error (.evaluation e)
  | .ok false => .ok (b, .onward)
  | .ok true => .ok (take x b, flow)

/-- A search that deals with each binding on its own. -/
structure Deals (s : Store N) (test : Test N ρ ν) (visit : Visit N ρ ν β)
    (deal : Binding → Except EvalError Bool) (take : Binding → β → β) (flow : Flow)
    (effect : Binding → World N ρ ν → World N ρ ν) : Prop where
  runs : ∀ x b w, allAsserted s x = true → w.store = s →
    descend test visit [] x b w = .ok (settled take flow x b (deal x)) (effect x w)
  store : ∀ x w, w.store = s → (effect x w).store = s
  stays : flow ≠ .leave

namespace Deals

variable {test : Test N ρ ν} {visit : Visit N ρ ν β} {deal : Binding → Except EvalError Bool}
  {take : Binding → β → β} {flow : Flow} {effect : Binding → World N ρ ν → World N ρ ν}
  {restrictions : List Restriction}

theorem settles (deals : Deals s test visit deal take flow effect) (x : Binding) (b : β)
    (w : World N ρ ν) (asserted : allAsserted s x = true) (same : w.store = s) :
    Ensures (descend test visit [] x b) w (Stays s) fun _ => True := by
  refine ensures_of_ok (deals.runs x b w asserted same) ⟨deals.store x w same, fun b' left => ?_⟩
  unfold settled at left
  split at left
  · cases left
  · cases left
  · exact deals.stays (congrArg Prod.snd (Except.ok.inj left))

theorem sweep_cons (deals : Deals s test visit deal take flow effect) {x : Binding}
    (asserted : allAsserted s x = true) (rest : List Binding) (b : β) (same : w.store = s) :
    sweep test visit (x :: rest) b w = (match settled take flow x b (deal x) with
      | .ok (b, .onward) => sweep test visit rest b (effect x w)
      | result => .ok result (effect x w)) := by
  rw [sweep, bind_of_ok (deals.runs x b w asserted same)]
  generalize settled take flow x b (deal x) = r
  cases r with
  | error e => rfl
  | ok next =>
    obtain ⟨b', flow⟩ := next
    cases flow <;> rfl

/-- A search that is ended by what it takes finds the first binding to be taken. -/
theorem sweep_first (deals : Deals s test visit deal take .stop effect) {xs : List Binding}
    (asserted : ∀ x ∈ xs, allAsserted s x = true) (b : β) (same : w.store = s) :
    ∃ r, sweep test visit xs b w = .ok r
        ((upTo (fun x => (deal x).toOption != some false) xs).foldl (fun w x => effect x w) w) ∧
      r.map (·.1) =
        ((xs.findM? deal).map fun found => found.elim b fun x => take x b).mapError .evaluation := by
  induction xs generalizing w with
  | nil => exact ⟨_, rfl, rfl⟩
  | cons x rest ih =>
    have cons := deals.sweep_cons (asserted x List.mem_cons_self) rest b same
    rw [List.findM?, upTo]
    cases dealt : deal x with
    | error e =>
      rw [dealt] at cons
      exact ⟨_, cons, rfl⟩
    | ok taken =>
      rw [dealt] at cons
      cases taken with
      | true => exact ⟨_, cons, rfl⟩
      | false =>
        obtain ⟨r, ran, result⟩ := ih (fun y inside => asserted y (List.mem_cons_of_mem _ inside))
          (deals.store x w same)
        exact ⟨r, cons.trans ran, result⟩

/-- A search that goes on whatever it takes finds all bindings to be taken, in order. -/
theorem sweep_all (deals : Deals s test visit deal take .onward effect) {xs : List Binding}
    (asserted : ∀ x ∈ xs, allAsserted s x = true) (b : β) (same : w.store = s) :
    ∃ r, sweep test visit xs b w = .ok r
        ((upTo (fun x => !(deal x).isOk) xs).foldl (fun w x => effect x w) w) ∧
      r.map (·.1) = ((xs.filterM deal).map fun found =>
        found.foldl (fun b x => take x b) b).mapError .evaluation := by
  induction xs generalizing w b with
  | nil => exact ⟨_, rfl, rfl⟩
  | cons x rest ih =>
    have cons := deals.sweep_cons (asserted x List.mem_cons_self) rest b same
    rw [filterM_cons, upTo]
    cases dealt : deal x with
    | error e =>
      rw [dealt] at cons
      exact ⟨_, cons, rfl⟩
    | ok taken =>
      rw [dealt] at cons
      have further (b : β) := ih (fun y inside => asserted y (List.mem_cons_of_mem _ inside)) b
          (deals.store x w same)
      cases taken with
      | true =>
        obtain ⟨r, ran, result⟩ := further (take x b)
        refine ⟨r, cons.trans ran, result.trans ?_⟩
        cases rest.filterM deal <;> rfl
      | false =>
        obtain ⟨r, ran, result⟩ := further b
        refine ⟨r, cons.trans ran, result.trans ?_⟩
        cases rest.filterM deal <;> rfl

theorem search_first (deals : Deals w.store test visit deal take .stop effect)
    (unhalted : Unhalted w.store) (wellFormed : WellFormed w.store.templates restrictions) (b : β) :
    let xs := bindings w.store restrictions
    search test visit restrictions b w =
      .ok (((xs.findM? deal).map fun found => found.elim b fun x => take x b).mapError .evaluation)
        ((upTo (fun x => (deal x).toOption != some false) xs).foldl (fun w x => effect x w) w) := by
  intro xs
  have asserted : ∀ x ∈ xs, allAsserted w.store x = true := fun _ => allAsserted_of_mem_bindings
  obtain ⟨r, ran, result⟩ := deals.sweep_first asserted b rfl
  rw [search_eq_sweep unhalted wellFormed deals.settles, bind_of_ok ran, ← result]
  rfl

theorem search_all (deals : Deals w.store test visit deal take .onward effect)
    (unhalted : Unhalted w.store) (wellFormed : WellFormed w.store.templates restrictions) (b : β) :
    let xs := bindings w.store restrictions
    search test visit restrictions b w =
      .ok (((xs.filterM deal).map fun found => found.foldl (fun b x => take x b) b).mapError .evaluation)
        ((upTo (fun x => !(deal x).isOk) xs).foldl (fun w x => effect x w) w) := by
  intro xs
  have asserted : ∀ x ∈ xs, allAsserted w.store x = true := fun _ => allAsserted_of_mem_bindings
  obtain ⟨r, ran, result⟩ := deals.sweep_all asserted b rfl
  rw [search_eq_sweep unhalted wellFormed deals.settles, bind_of_ok ran, ← result]
  rfl

end Deals

/-! ### Tests and actions -/

section Modes

variable {test : Test N ρ ν} {judge : Store N → Binding → Except EvalError Bool}
  {noted : Binding → World N ρ ν → World N ρ ν} {act : Act N ρ ν}
  {outcome : Store N → Binding → Except EvalError Unit}
  {marked : Binding → World N ρ ν → World N ρ ν} {restrictions : List Restriction}

/-- A call that a query makes. -/
inductive Call where
  | test (x : Binding)
  | act (x : Binding)
deriving DecidableEq, Repr

/-- The world after a call. An action is called with the facts of its binding pinned. -/
def Call.effect (noted marked : Binding → World N ρ ν → World N ρ ν) (w : World N ρ ν) :
    Call → World N ρ ν
  | .test x => noted x w
  | .act x => { marked x { w with store := pinned w.store x } with store := w.store }

/-- The world after calls in order. -/
def after (noted marked : Binding → World N ρ ν → World N ρ ν) (w : World N ρ ν)
    (calls : List Call) : World N ρ ν := calls.foldl (Call.effect noted marked) w

/-- The calls for a binding: the test, and the action if the test holds. -/
def callsFor (judge : Binding → Except EvalError Bool) (x : Binding) : List Call :=
  .test x :: if (judge x).toOption = some true then [.act x] else []

/-- Acting on a binding if the test holds: whether it did. -/
def deal (judge : Store N → Binding → Except EvalError Bool)
    (outcome : Store N → Binding → Except EvalError Unit) (s : Store N) (x : Binding) :
    Except EvalError Bool := do
  let wanted ← judge s x
  if wanted then outcome (pinned s x) x
  return wanted

theorem stored_of_allAsserted {x : Binding} (asserted : allAsserted s x = true) :
    ∀ p ∈ x, (s.get? p.2).isSome = true := by
  intro p inside
  obtain ⟨f, found, -⟩ := (Option.any_eq_true _ _).mp (List.all_eq_true.mp asserted p inside)
  exact Option.isSome_iff_exists.mpr ⟨f, found⟩

theorem runAction_eq (noted : Binding → World N ρ ν → World N ρ ν)
    (neutral : Neutral act outcome marked) {x : Binding}
    (asserted : allAsserted w.store x = true) :
    runAction act x w =
      .ok (((outcome (pinned w.store x) x).map fun _ => true).mapError .evaluation)
        (Call.effect noted marked w (.act x)) := by
  have stored := stored_of_allAsserted asserted
  let w₁ : World N ρ ν := marked x { w with store := pinned w.store x }
  have acted : w₁ = { w₁ with store := pinned w.store x } := by
    have kept := neutral.store x { w with store := pinned w.store x }
    exact congrArg (fun s => { w₁ with store := s }) kept
  have unpinned : unpinAll x w₁ = .ok () { w₁ with store := w.store } := by
    rw [acted]
    exact unpinAll_eq stored
  unfold runAction
  rw [getStore_bind, asserted, Bool.not_true, if_neg Bool.false_ne_true,
    bind_of_ok (pinAll_eq stored), bind_of_ok (neutral.runs _ _), bind_of_ok unpinned]
  cases outcome (pinned w.store x) x <;> rfl

theorem deals_findFirst (neutral : Neutral test judge noted) :
    Deals s test (fun x _ => return .ok (some x, .stop)) (judge s) (fun x _ => some x) .stop
      noted where
  runs x b w _ same := by
    subst same
    rw [descend, bind_of_ok (neutral.runs x w)]
    cases judge w.store x with
    | error e => rfl
    | ok wanted => cases wanted <;> rfl
  store x w same := (neutral.store x w).trans same
  stays := by simp

theorem deals_findAll (neutral : Neutral test judge noted) :
    Deals s test (fun x found => return .ok (found ++ [x], .onward)) (judge s)
      (fun x found => found ++ [x]) .onward noted where
  runs x b w _ same := by
    subst same
    rw [descend, bind_of_ok (neutral.runs x w)]
    cases judge w.store x with
    | error e => rfl
    | ok wanted => cases wanted <;> rfl
  store x w same := (neutral.store x w).trans same
  stays := by simp

/-- A search that acts on what it finds deals with each binding on its own. -/
theorem deals_acting {visit : Visit N ρ ν β} {take : Binding → β → β} {flow : Flow}
    (tests : Neutral test judge noted) (acts : Neutral act outcome marked) (stays : flow ≠ .leave)
    (fails : ∀ x b w e w', runAction act x w = .ok (.error e) w' → visit x b w = .ok (.error e) w')
    (takes : ∀ x b w w', runAction act x w = .ok (.ok true) w' →
      visit x b w = .ok (.ok (take x b, flow)) w') :
    Deals s test visit (deal judge outcome s) take flow
      fun x w => after noted marked w (callsFor (judge s) x) where
  runs x b w asserted same := by
    subst same
    rw [descend, bind_of_ok (tests.runs x w), deal, callsFor]
    cases judge w.store x with
    | error e => rfl
    | ok wanted =>
      cases wanted with
      | false => rfl
      | true =>
        have store := tests.store x w
        rw [← store] at asserted
        have ran := runAction_eq noted acts asserted
        rw [store] at ran
        dsimp only
        change visit x b (noted x w) = .ok (settled take flow x b
          (outcome (pinned w.store x) x >>= fun _ => pure true)) (Call.effect noted marked (noted x w) (.act x))
        cases done : outcome (pinned w.store x) x with
        | error e =>
          rw [done] at ran
          exact fails _ _ _ _ _ ran
        | ok u =>
          rw [done] at ran
          exact takes _ _ _ _ ran
  store x w same := by
    have tested := (tests.store x w).trans same
    unfold after callsFor
    split <;> exact tested
  stays := stays

theorem after_append (xs ys : List Call) :
    after noted marked w (xs ++ ys) = after noted marked (after noted marked w xs) ys :=
  List.foldl_append

theorem store_after (tests : Neutral test judge noted) (w : World N ρ ν) (calls : List Call) :
    (after noted marked w calls).store = w.store := by
  induction calls generalizing w with
  | nil => rfl
  | cons call calls ih =>
    refine (ih _).trans ?_
    cases call with
    | test x => exact tests.store x w
    | act x => rfl

/-- Actions on bindings found before. -/
theorem runDelayed_eq (noted : Binding → World N ρ ν → World N ρ ν)
    (acts : Neutral act outcome marked) (unhalted : Unhalted w.store) {xs : List Binding}
    (asserted : ∀ x ∈ xs, allAsserted w.store x = true) :
    runDelayed act xs w =
      .ok (((xs.forM fun x => outcome (pinned w.store x) x).map fun _ => xs.length).mapError
          .evaluation)
        (after noted marked w
          ((upTo (fun x => !(outcome (pinned w.store x) x).isOk) xs).map .act)) := by
  induction xs generalizing w with
  | nil => rfl
  | cons x rest ih =>
    have further := ih (w := Call.effect noted marked w (.act x)) unhalted
      fun y inside => asserted y (List.mem_cons_of_mem _ inside)
    have store : (Call.effect noted marked w (.act x)).store = w.store := rfl
    have ran := runAction_eq noted acts (asserted x List.mem_cons_self)
    rw [store] at further
    rw [runDelayed, bind_of_ok (pollHalt_eq unhalted), if_neg Bool.false_ne_true, bind_of_ok ran,
      List.forM, upTo]
    cases done : outcome (pinned w.store x) x with
    | error e => rfl
    | ok u =>
      change (runDelayed act rest >>= _) _ = _
      rw [bind_of_ok further]
      cases rest.forM fun x => outcome (pinned w.store x) x <;> rfl

end Modes

/-! ### Modes -/

theorem mem_of_mem_filterM {p : Binding → Except EvalError Bool} {xs found : List Binding}
    (done : xs.filterM p = .ok found) {x : Binding} (inside : x ∈ found) : x ∈ xs := by
  induction xs generalizing found with
  | nil =>
    cases done
    exact inside
  | cons y rest ih =>
    rw [filterM_cons] at done
    obtain ⟨wanted, -, done⟩ := bind_eq_ok.mp done
    obtain ⟨more, later, done⟩ := bind_eq_ok.mp done
    cases done
    rcases List.mem_append.mp inside with here | there
    · cases wanted with
      | true => exact List.mem_singleton.mp here ▸ List.mem_cons_self
      | false => cases here
    · exact List.mem_cons_of_mem _ (ih later there)

theorem foldl_snoc (xs ys : List Binding) : ys.foldl (fun found x => found ++ [x]) xs = xs ++ ys := by
  induction ys generalizing xs with
  | nil => exact (List.append_nil xs).symm
  | cons y ys ih => rw [List.foldl_cons, ih, List.append_assoc, List.singleton_append]

theorem foldl_count (xs : List Binding) (n : Nat) : xs.foldl (fun n _ => n + 1) n = n + xs.length := by
  induction xs generalizing n with
  | nil => rfl
  | cons x xs ih => rw [List.foldl_cons, ih, List.length_cons, Nat.add_assoc, Nat.add_comm 1]

section Modes

variable {test : Test N ρ ν} {judge : Store N → Binding → Except EvalError Bool}
  {noted : Binding → World N ρ ν → World N ρ ν} {act : Act N ρ ν}
  {outcome : Store N → Binding → Except EvalError Unit}
  {marked : Binding → World N ρ ν → World N ρ ν} {restrictions : List Restriction}
  (unhalted : Unhalted w.store) (wellFormed : WellFormed w.store.templates restrictions)
  (tests : Neutral test judge noted)
include unhalted wellFormed tests

theorem findAll_eq (marked : Binding → World N ρ ν → World N ρ ν) :
    findAll test restrictions w =
      .ok (((bindings w.store restrictions).filterM (judge w.store)).mapError .evaluation)
        (after noted marked w
          ((upTo (fun x => !(judge w.store x).isOk) (bindings w.store restrictions)).map .test)) := by
  refine ((deals_findAll tests).search_all unhalted wellFormed []).trans ?_
  rw [after, List.foldl_map]
  congr 2
  simp only [foldl_snoc, List.nil_append]
  cases (bindings w.store restrictions).filterM (judge w.store) <;> rfl

theorem findFirst_eq (marked : Binding → World N ρ ν → World N ρ ν) :
    findFirst test restrictions w =
      .ok (((bindings w.store restrictions).findM? (judge w.store)).mapError .evaluation)
        (after noted marked w ((upTo (fun x => (judge w.store x).toOption != some false)
          (bindings w.store restrictions)).map .test)) := by
  refine ((deals_findFirst tests).search_first unhalted wellFormed none).trans ?_
  rw [after, List.foldl_map]
  congr 2
  cases (bindings w.store restrictions).findM? (judge w.store) with
  | error e => rfl
  | ok found => cases found <;> rfl

theorem any_eq (marked : Binding → World N ρ ν → World N ρ ν) :
    any test restrictions w =
      .ok (((bindings w.store restrictions).anyM (judge w.store)).mapError .evaluation)
        (after noted marked w ((upTo (fun x => (judge w.store x).toOption != some false)
          (bindings w.store restrictions)).map .test)) := by
  unfold any
  rw [bind_of_ok (findFirst_eq unhalted wellFormed tests marked), ← isSome_findM?]
  cases (bindings w.store restrictions).findM? (judge w.store) <;> rfl

variable (acts : Neutral act outcome marked)
include acts

theorem doForFirst_eq : doForFirst test act restrictions w =
    .ok (((bindings w.store restrictions).anyM (deal judge outcome w.store)).mapError .evaluation)
      (after noted marked w ((upTo (fun x => (deal judge outcome w.store x).toOption != some false)
        (bindings w.store restrictions)).flatMap (callsFor (judge w.store)))) := by
  unfold doForFirst
  refine (Deals.search_first (?_ : Deals w.store test _ (deal judge outcome w.store)
    (fun _ _ => true) .stop fun x w' => after noted marked w' (callsFor (judge w.store) x))
    unhalted wellFormed false).trans ?_
  · exact deals_acting tests acts (by simp) (fun _ _ _ _ _ ran => bind_of_ok ran _)
      fun _ _ _ _ ran => bind_of_ok ran _
  rw [after, List.foldl_flatMap, ← isSome_findM?]
  congr 2
  cases (bindings w.store restrictions).findM? (deal judge outcome w.store) with
  | error e => rfl
  | ok found => cases found <;> rfl

theorem doForAll_eq : doForAll test act restrictions w =
    .ok ((((bindings w.store restrictions).filterM (deal judge outcome w.store)).map
        List.length).mapError .evaluation)
      (after noted marked w ((upTo (fun x => !(deal judge outcome w.store x).isOk)
        (bindings w.store restrictions)).flatMap (callsFor (judge w.store)))) := by
  unfold doForAll
  refine (Deals.search_all (?_ : Deals w.store test _ (deal judge outcome w.store)
    (fun _ n => n + 1) .onward fun x w' => after noted marked w' (callsFor (judge w.store) x))
    unhalted wellFormed 0).trans ?_
  · exact deals_acting tests acts (by simp) (fun _ _ _ _ _ ran => bind_of_ok ran _)
      fun _ _ _ _ ran => bind_of_ok ran _
  rw [after, List.foldl_flatMap]
  congr 2
  simp only [foldl_count, Nat.zero_add]

theorem delayedDoForAll_eq : delayedDoForAll test act restrictions w =
    .ok ((do
        let found ← (bindings w.store restrictions).filterM (judge w.store)
        found.forM fun x => outcome (pinned w.store x) x
        return found.length).mapError .evaluation)
      (after noted marked w
        ((upTo (fun x => !(judge w.store x).isOk) (bindings w.store restrictions)).map .test ++
          (upTo (fun x => !(outcome (pinned w.store x) x).isOk)
            (((bindings w.store restrictions).filterM (judge w.store)).toOption.getD [])).map
              .act)) := by
  unfold delayedDoForAll
  rw [bind_of_ok (findAll_eq unhalted wellFormed tests marked)]
  generalize tested : upTo (fun x => !(judge w.store x).isOk) (bindings w.store restrictions) = front
  have store : (after noted marked w (front.map .test)).store = w.store :=
    store_after tests w (front.map .test)
  cases done : (bindings w.store restrictions).filterM (judge w.store) with
  | error e =>
    simp only [Except.toOption, Option.getD_none, upTo, List.map_nil, List.append_nil]
    rfl
  | ok found =>
    have asserted : ∀ x ∈ found, allAsserted w.store x = true := fun x inside =>
      allAsserted_of_mem_bindings (mem_of_mem_filterM done inside)
    rw [← store] at unhalted asserted
    have acted := runDelayed_eq noted acts unhalted asserted
    rw [store] at acted
    simp only [Except.toOption, Option.getD_some]
    refine acted.trans ?_
    rw [after_append]
    congr 2

end Modes

end FactBase.Query

import FactBase.Query
import FactBase.Proofs.Process.Consistency

/-!
# What a running query gets to see

Facts that are asserted while a query runs should stay out of its bindings. They do where nothing is
asserted before the last list of facts is taken: if actions come last or end the search, or if there
is one list only. Otherwise they may turn up, for each level takes its lists when the search comes
to it.
-/

namespace FactBase.Query

open Store Process

variable {N ρ ν α β : Type} {w : World N ρ ν} {s s' : Store N}

/-! ### Doing the same -/

/-- Two processes do the same from here on, and `Q` holds of the result if there is one. -/
def Agree (p p' : Process N ρ ν α) (w : World N ρ ν) (Q : α → World N ρ ν → Prop) : Prop :=
  p w = p' w ∧ Ensures p w Q fun _ => True

section Agree

variable {p p' : Process N ρ ν α} {Q R : α → World N ρ ν → Prop}

theorem agree_self (ensures : Ensures p w Q fun _ => True) : Agree p p w Q := ⟨rfl, ensures⟩

theorem agree_pure {a : α} (holds : Q a w) : Agree (pure a) (pure a) w Q :=
  agree_self (ensures_pure holds)

theorem agree_bind {k k' : α → Process N ρ ν β} {R : β → World N ρ ν → Prop}
    (first : Agree p p' w fun a w' => Agree (k a) (k' a) w' R) :
    Agree (p >>= k) (p' >>= k') w R := by
  obtain ⟨same, ensures⟩ := first
  refine ⟨?_, ensures_bind (ensures_mono ensures fun _ _ => And.right)⟩
  change EStateM.bind p k w = EStateM.bind p' k' w
  unfold EStateM.bind
  rw [← same]
  unfold Ensures at ensures
  cases ran : p w with
  | ok a w' =>
    rw [ran] at ensures
    exact ensures.1
  | error e w' => rfl

/-- A process may be taken for another that does the same here. -/
theorem agree_left {p₁ : Process N ρ ν α} (same : p w = p₁ w) (agree : Agree p₁ p' w Q) :
    Agree p p' w Q := by
  refine ⟨same.trans agree.1, ?_⟩
  unfold Ensures
  rw [same]
  exact agree.2

theorem agree_getStore {k k' : Store N → Process N ρ ν α}
    (rest : Agree (k w.store) (k' w.store) w Q) : Agree (getStore >>= k) (getStore >>= k') w Q :=
  agree_bind ⟨rfl, rest⟩

end Agree

/-! ### Looking only -/

/-- Nothing has changed except that a halt may have been requested. -/
def Undisturbed (s s' : Store N) : Prop := s' = { s with probe := s'.probe }

theorem Undisturbed.refl (s : Store N) : Undisturbed s s := rfl

theorem Undisturbed.trans {s'' : Store N} (first : Undisturbed s s') (second : Undisturbed s' s'') :
    Undisturbed s s'' := by
  unfold Undisturbed at *
  rw [second, first]

theorem Undisturbed.isAsserted (undisturbed : Undisturbed s s') (h : Handle) :
    s'.isAsserted h = s.isAsserted h := by
  rw [undisturbed]
  rfl

theorem Undisturbed.allAsserted (undisturbed : Undisturbed s s') (b : Binding) :
    allAsserted s' b = allAsserted s b := by
  rw [undisturbed]
  rfl

theorem agree_pollHalt {k k' : Bool → Process N ρ ν α} {Q : α → World N ρ ν → Prop}
    (rest : ∀ halted w', Undisturbed w.store w'.store → Agree (k halted) (k' halted) w' Q) :
    Agree (pollHalt >>= k) (pollHalt >>= k') w Q :=
  agree_bind ⟨rfl, rest _ { w with store := { w.store with probe := w.store.probe.poll.2 } } rfl⟩

/-- A test that changes nothing, though it may request a halt. -/
def ReadOnly (test : Test N ρ ν) : Prop :=
  ∀ b w, Ensures (test b) w (fun _ w' => Undisturbed w.store w'.store) fun _ => True

/-- Deals with bindings of facts that are asserted in a fact base, and ends the process at others. -/
def confine (s : Store N) (p : Binding → Process N ρ ν α) : Binding → Process N ρ ν α :=
  fun b => if allAsserted s b then p b else throw .nesting

theorem confine_eq {p : Binding → Process N ρ ν α} {b : Binding} (asserted : allAsserted s b = true) :
    confine s p b = p b := if_pos asserted

/-! ### Searching -/

/-- What is gathered satisfies `I`, and unless the search ends nothing has changed. -/
def Keeps (s : Store N) (I : β → Prop) (r : Except QueryError (β × Flow)) (w : World N ρ ν) : Prop :=
  ∀ b flow, r = .ok (b, flow) → I b ∧ (flow ≠ .stop → Undisturbed s w.store)

section Search

variable {I : β → Prop} {bound : Binding} {test : Test N ρ ν} {visit visit' : Visit N ρ ν β}
  {d d' : Handle → β → Process N ρ ν (Except QueryError (β × Flow))}

theorem keeps_ok {b : β} {flow : Flow} (gathered : I b) (undisturbed : Undisturbed s w.store) :
    Keeps s I (.ok (b, flow)) w := by
  intro b' flow' same
  cases same
  exact ⟨gathered, fun _ => undisturbed⟩

theorem keeps_error (e : QueryError) : Keeps s I (.error e) w := by
  intro b flow same
  cases same

/-- Only facts that are still asserted are tried, and nothing has changed by then. -/
theorem agree_tryFacts (bound : Binding)
    (deeper : ∀ h b w, s.isAsserted h = true → Undisturbed s w.store → I b →
      Agree (d h b) (d' h b) w (Keeps s I))
    (hs : List Handle) {b : β} (undisturbed : Undisturbed s w.store) (gathered : I b) :
    Agree (tryFacts bound d hs b) (tryFacts bound d' hs b) w (Keeps s I) := by
  induction hs generalizing w b with
  | nil => exact agree_pure (keeps_ok gathered undisturbed)
  | cons h rest ih =>
    unfold tryFacts
    refine agree_pollHalt fun halted w' polled => ?_
    have undisturbed := undisturbed.trans polled
    cases halted with
    | true => exact agree_pure (keeps_ok gathered undisturbed)
    | false =>
      refine agree_getStore ?_
      split
      · exact agree_pure (keeps_ok gathered undisturbed)
      · split
        · exact ih undisturbed gathered
        · rename_i asserted
          rw [undisturbed.isAsserted, Bool.not_eq_true, Bool.not_eq_false'] at asserted
          obtain ⟨same, ensures⟩ := deeper h b w' asserted undisturbed gathered
          refine agree_bind ⟨same, ensures_mono ensures fun r w'' keeps => ?_⟩
          split
          · obtain ⟨gathered', undisturbed'⟩ := keeps _ .onward rfl
            exact ih (undisturbed' (by simp)) gathered'
          · exact agree_pure keeps

theorem agree_tryTemplates
    (deeper : ∀ h b w, s.isAsserted h = true → Undisturbed s w.store → I b →
      Agree (d h b) (d' h b) w (Keeps s I))
    (ts : List TemplateId) {b : β} (undisturbed : Undisturbed s w.store) (gathered : I b) :
    Agree (tryTemplates bound d ts b) (tryTemplates bound d' ts b) w (Keeps s I) := by
  induction ts generalizing w b with
  | nil => exact agree_pure (keeps_ok gathered undisturbed)
  | cons t rest ih =>
    unfold tryTemplates
    refine agree_getStore ?_
    obtain ⟨same, ensures⟩ :=
      agree_tryFacts bound deeper (w.store.templateFacts t) undisturbed gathered
    refine agree_bind ⟨same, ensures_mono ensures fun r w' keeps => ?_⟩
    split
    · obtain ⟨gathered', undisturbed'⟩ := keeps _ .onward rfl
      exact ih (undisturbed' (by simp)) gathered'
    · obtain ⟨gathered', undisturbed'⟩ := keeps _ .leave rfl
      exact agree_pure (keeps_ok gathered' (undisturbed' (by simp)))
    · exact agree_pure keeps

/-- Where visits change nothing unless they end the search, tests and visits only get bindings of
facts that were asserted at the start. -/
theorem agree_descend (readOnly : ReadOnly test)
    (visits : ∀ bound b w, allAsserted s bound = true → Undisturbed s w.store → I b →
      Agree (visit bound b) (visit' bound b) w (Keeps s I))
    (levels : List Level) (bound : Binding) {b : β} (asserted : allAsserted s bound = true)
    (undisturbed : Undisturbed s w.store) (gathered : I b) :
    Agree (descend test visit levels bound b) (descend (confine s test) visit' levels bound b) w
      (Keeps s I) := by
  induction levels generalizing bound w b with
  | nil =>
    unfold descend
    refine agree_bind ⟨by rw [confine_eq asserted], ensures_mono (readOnly bound w)
      fun r w' kept => ?_⟩
    have undisturbed' := undisturbed.trans kept
    cases r with
    | error e => exact agree_pure (keeps_error _)
    | ok wanted =>
      cases wanted with
      | false => exact agree_pure (keeps_ok gathered undisturbed')
      | true => exact visits bound b w' asserted undisturbed' gathered
  | cons level deeper ih =>
    obtain ⟨x, templates⟩ := level
    unfold descend
    refine agree_tryTemplates (fun h b w holds undisturbed gathered => ?_) templates undisturbed
      gathered
    refine ih _ ?_ undisturbed gathered
    rw [allAsserted, List.all_append, ← allAsserted, asserted]
    simpa using holds

theorem agree_search (readOnly : ReadOnly test)
    (visits : ∀ bound b w', allAsserted w.store bound = true → Undisturbed w.store w'.store → I b →
      Agree (visit bound b) (visit' bound b) w' (Keeps w.store I))
    (restrictions : List Restriction) {start : β} (gathered : I start) :
    Agree (search test visit restrictions start)
      (search (confine w.store test) visit' restrictions start) w
      fun r _ => ∀ b, r = .ok b → I b := by
  unfold search
  refine agree_getStore ?_
  split
  · exact agree_pure (by simp)
  · rename_i levels _
    obtain ⟨same, ensures⟩ := agree_descend readOnly visits levels [] rfl
      (.refl w.store) gathered
    refine agree_bind ⟨same, ensures_mono ensures fun r w' keeps => ?_⟩
    split
    · exact agree_pure (by simp)
    · rename_i b flow
      refine agree_pure fun b' same => ?_
      cases same
      exact (keeps b flow rfl).1

end Search

/-! ### Acting -/

section Act

variable {act : Act N ρ ν} {binding : Binding}

theorem runAction_confine (asserted : allAsserted s binding = true) :
    runAction (confine s act) binding = runAction act binding := by
  rw [runAction, runAction, confine_eq asserted]

/-- An action that did not run has changed nothing. -/
theorem runAction_skips (act : Act N ρ ν) (binding : Binding) (w : World N ρ ν) :
    Ensures (runAction act binding) w (fun r w' => r = .ok false → w' = w) fun _ => True := by
  unfold runAction
  refine ensures_bind (ensures_getStore ?_)
  split
  · exact ensures_pure fun _ => rfl
  · refine ensures_after fun _ _ => ensures_after fun result _ => ensures_after fun _ _ => ?_
    cases result <;> exact ensures_pure (by simp)

theorem runDelayed_confine (act : Act N ρ ν) {bindings : List Binding}
    (asserted : ∀ b ∈ bindings, allAsserted s b = true) :
    runDelayed (confine s act) bindings = runDelayed act bindings := by
  induction bindings with
  | nil => rfl
  | cons b rest ih =>
    rw [runDelayed, runDelayed, runAction_confine (asserted b List.mem_cons_self),
      ih fun b inside => asserted b (List.mem_cons_of_mem _ inside)]

end Act

/-! ### Modes -/

section Modes

variable {test : Test N ρ ν} (readOnly : ReadOnly test) (restrictions : List Restriction)
include readOnly

theorem findFirst_confine : findFirst test restrictions w =
    findFirst (confine w.store test) restrictions w := by
  refine (agree_search (I := fun _ => True) readOnly (fun bound b w' _ _ _ => ?_) restrictions
    trivial).1
  refine agree_pure fun b flow same => ?_
  cases same
  exact ⟨trivial, by simp⟩

/-- All bindings found are of facts that were asserted at the start. -/
theorem agree_findAll : Agree (findAll test restrictions)
    (findAll (confine w.store test) restrictions) w
    fun r _ => ∀ found, r = .ok found → ∀ b ∈ found, allAsserted w.store b = true := by
  refine agree_search (I := fun found => ∀ b ∈ found, allAsserted w.store b = true) readOnly
    (fun bound found w' asserted undisturbed gathered => ?_) restrictions (by simp)
  refine agree_pure (keeps_ok (fun b inside => ?_) undisturbed)
  rcases List.mem_append.mp inside with before | new
  · exact gathered b before
  · exact List.mem_singleton.mp new ▸ asserted

theorem any_confine : any test restrictions w = any (confine w.store test) restrictions w := by
  refine (agree_bind (R := fun _ _ => True) ⟨findFirst_confine readOnly restrictions, ?_⟩).1
  exact ensures_mono (ensures_trivial _ w) fun _ _ _ => agree_pure trivial

theorem doForFirst_confine (act : Act N ρ ν) : doForFirst test act restrictions w =
    doForFirst (confine w.store test) (confine w.store act) restrictions w := by
  refine (agree_search (I := fun _ => True) readOnly (fun bound b w' asserted undisturbed _ => ?_)
    restrictions trivial).1
  have skips := runAction_skips act bound w'
  refine agree_bind ⟨by rw [runAction_confine asserted], ensures_mono skips fun r w'' skipped => ?_⟩
  cases r with
  | error e => exact agree_pure (keeps_error e)
  | ok ran =>
    cases ran with
    | true =>
      refine agree_pure fun b flow same => ?_
      cases same
      exact ⟨trivial, by simp⟩
    | false =>
      rw [skipped rfl]
      exact agree_pure (keeps_ok trivial undisturbed)

theorem delayedDoForAll_confine (act : Act N ρ ν) : delayedDoForAll test act restrictions w =
    delayedDoForAll (confine w.store test) (confine w.store act) restrictions w := by
  obtain ⟨same, ensures⟩ := agree_findAll (w := w) readOnly restrictions
  refine (agree_bind (R := fun _ _ => True) ⟨same, ensures_mono ensures fun r w' found => ?_⟩).1
  cases r with
  | error e => exact agree_pure trivial
  | ok bindings =>
    exact ⟨congrFun (runDelayed_confine act (found bindings rfl)).symm w', ensures_trivial _ w'⟩

end Modes

/-- Of one list of facts, taken at the start, no other facts are tried. -/
theorem tryFacts_congr {bound : Binding}
    {d d' : Handle → β → Process N ρ ν (Except QueryError (β × Flow))} {hs : List Handle}
    (same : ∀ h ∈ hs, d h = d' h) : tryFacts bound d hs = tryFacts bound d' hs := by
  induction hs with
  | nil => rfl
  | cons h rest ih =>
    funext b
    rw [tryFacts, tryFacts, ih fun h inside => same h (List.mem_cons_of_mem _ inside),
      same h List.mem_cons_self]

/-- Tests and visits of the facts of one template only get facts that were asserted at the start,
whatever they do. -/
theorem search_confine (consistent : w.store.Consistent) (test : Test N ρ ν)
    {visit visit' : Visit N ρ ν β}
    (visits : ∀ b, allAsserted w.store b = true → visit b = visit' b) (x template : String)
    (start : β) : search test visit [⟨x, [template]⟩] start w =
      search (confine w.store test) visit' [⟨x, [template]⟩] start w := by
  unfold search
  refine (agree_getStore (Q := fun _ _ => True) ?_).1
  cases found : w.store.templates.find? template with
  | none =>
    simp only [compile, compileLevels, findTemplates, found]
    exact agree_pure trivial
  | some t =>
    simp only [compile, compileLevels, findTemplates, found]
    have tried : tryFacts [] (fun h => descend test visit [] ([] ++ [(x, h)]))
          (w.store.templateFacts t) =
        tryFacts [] (fun h => descend (confine w.store test) visit' [] ([] ++ [(x, h)]))
          (w.store.templateFacts t) := by
      refine tryFacts_congr fun h inside => ?_
      obtain ⟨f, stored, asserted, -⟩ := consistent.mem_templateFacts.mp inside
      have good : allAsserted w.store [(x, h)] = true := by
        simp [allAsserted, Store.isAsserted, stored, asserted]
      funext b
      rw [List.nil_append, descend, descend, confine_eq good, visits _ good]
    refine agree_bind ⟨?_, ensures_mono (ensures_trivial _ w) fun r w' _ =>
      agree_self (ensures_trivial _ w')⟩
    refine (agree_getStore (Q := fun _ _ => True) ?_).1
    exact agree_bind ⟨congrFun (congrFun tried start) w, ensures_mono (ensures_trivial _ w)
      fun r w' _ => ⟨rfl, ensures_trivial _ w'⟩⟩

theorem doForAll_confine (consistent : w.store.Consistent) (test : Test N ρ ν) (act : Act N ρ ν)
    (x template : String) : doForAll test act [⟨x, [template]⟩] w =
      doForAll (confine w.store test) (confine w.store act) [⟨x, [template]⟩] w :=
  search_confine consistent test (fun b good => by rw [runAction_confine good]) x template 0

/-- Queries whose actions come last or end the search go on as if tests and actions accepted no
facts but those asserted at the start, and so do queries over the facts of one template with actions
in between. -/
theorem isolated (consistent : w.store.Consistent) {test : Test N ρ ν} (readOnly : ReadOnly test)
    (act : Act N ρ ν) (restrictions : List Restriction) :
    any test restrictions w = any (confine w.store test) restrictions w ∧
      findFirst test restrictions w = findFirst (confine w.store test) restrictions w ∧
      findAll test restrictions w = findAll (confine w.store test) restrictions w ∧
      doForFirst test act restrictions w =
        doForFirst (confine w.store test) (confine w.store act) restrictions w ∧
      delayedDoForAll test act restrictions w =
        delayedDoForAll (confine w.store test) (confine w.store act) restrictions w ∧
      ∀ x template, restrictions = [⟨x, [template]⟩] → doForAll test act restrictions w =
        doForAll (confine w.store test) (confine w.store act) restrictions w := by
  refine ⟨any_confine readOnly restrictions, findFirst_confine readOnly restrictions,
    (agree_findAll readOnly restrictions).1, doForFirst_confine readOnly restrictions act,
    delayedDoForAll_confine readOnly restrictions act, ?_⟩
  rintro x template rfl
  exact doForAll_confine consistent test act x template

/-- Lamps are added while two lamps are visited, and are not visited themselves. -/
theorem isolated_lamps :
    let quiet : Hooks MatchCounter (Memo Unit) (Store MatchCounter) := fun _ _ => pure ()
    let lamps : Process MatchCounter (Memo Unit) (Store MatchCounter) Unit := do
      let _ ← ask quiet (.assertOrdered "lamp" [.integer 1])
      let _ ← ask quiet (.assertOrdered "lamp" [.integer 2])
      let _ ← look
    let addLamp : Act MatchCounter (Memo Unit) (Store MatchCounter) := fun _ => do
      let _ ← assertOrdered quiet "lamp" [.integer 3]
      return .ok ()
    ∃ s ∈ (lamps.aftermath (outset (Store.fresh {} {} fun _ _ => 0) ())).looks,
      ∃ w', doForAll (confine s fun _ => return .ok true) (confine s addLamp)
        [⟨"x", ["lamp"]⟩] { store := s, host := { notes := () } } = .ok (.ok 2) w' := by
  intro quiet lamps addLamp
  have rests (id : ListenerId) (e : Event) : Client (quiet id e) := .pure ()
  have client : Client lamps :=
    .bind (.ask rests _) fun _ => .bind (.ask rests _) fun _ => .bind .look fun _ => .pure ()
  let test : Test MatchCounter (Memo Unit) (Store MatchCounter) := fun _ => return .ok true
  have looked : ((lamps.aftermath (outset (Store.fresh {} {} fun _ _ => 0) ())).looks[0]?).any
      (fun s => ((doForAll test addLamp [⟨"x", ["lamp"]⟩]).outcome
        { store := s, host := { notes := () } }).any fun x => x.1.toOption == some 2) = true := by
    decide +kernel
  obtain ⟨s, found, ran⟩ := (Option.any_eq_true _ _).mp looked
  obtain ⟨⟨r, w'⟩, ran, two⟩ := (Option.any_eq_true _ _).mp ran
  have seen := List.mem_of_getElem? found
  have consistent := (seen_consistent client {} {} (fun _ _ => 0) () seen).1
  have readOnly : ReadOnly test := fun _ _ => rfl
  have same := (isolated (w := { store := s, host := { notes := () } }) consistent readOnly addLamp
    [⟨"x", ["lamp"]⟩]).2.2.2.2.2 "x" "lamp" rfl
  refine ⟨s, seen, ?_⟩
  rw [← same]
  exact ⟨w', toOption_eq_some.mp (beq_iff_eq.mp two) ▸ outcome_eq_some.mp ran⟩

/-- With two variables an action's new facts do turn up: the facts of the second variable are listed
anew for each fact of the first. -/
theorem not_doForAll_isolated :
    ¬ ∀ (w : World MatchCounter (Memo Unit) (Store MatchCounter))
        (test : Test MatchCounter (Memo Unit) (Store MatchCounter))
        (act : Act MatchCounter (Memo Unit) (Store MatchCounter)) (restrictions : List Restriction),
      w.store.Reachable → ReadOnly test → doForAll test act restrictions w =
        doForAll (confine w.store test) (confine w.store act) restrictions w := by
  intro isolated
  let quiet : Hooks MatchCounter (Memo Unit) (Store MatchCounter) := fun _ _ => pure ()
  let lamps : Process MatchCounter (Memo Unit) (Store MatchCounter) Unit := do
    let _ ← ask quiet (.assertOrdered "lamp" [.integer 1])
    let _ ← ask quiet (.assertOrdered "lamp" [.integer 2])
    let _ ← ask quiet (.assertOrdered "bulb" [.integer 1])
    let _ ← look
  let spare : Act MatchCounter (Memo Unit) (Store MatchCounter) := fun _ => do
    let _ ← assertOrdered quiet "bulb" [.integer 2]
    return .ok ()
  let test : Test MatchCounter (Memo Unit) (Store MatchCounter) := fun _ => return .ok true
  let restrictions : List Restriction := [⟨"x", ["lamp"]⟩, ⟨"y", ["bulb"]⟩]
  let visits (s : Store MatchCounter) (test : Test MatchCounter (Memo Unit) (Store MatchCounter))
      (act : Act MatchCounter (Memo Unit) (Store MatchCounter)) : Option Nat :=
    ((doForAll test act restrictions).outcome { store := s, host := { notes := () } }).bind
      fun x => x.1.toOption
  have rests (id : ListenerId) (e : Event) : Client (quiet id e) := .pure ()
  have client : Client lamps :=
    .bind (.ask rests _) fun _ => .bind (.ask rests _) fun _ => .bind (.ask rests _) fun _ =>
      .bind .look fun _ => .pure ()
  have looked : ((lamps.aftermath (outset (Store.fresh {} {} fun _ _ => 0) ())).looks[0]?).map
      (fun s => (visits s test spare, visits s (confine s test) (confine s spare))) =
      some (some 3, none) := by decide +kernel
  obtain ⟨s, found, counts⟩ := Option.map_eq_some_iff.mp looked
  have same := isolated { store := s, host := { notes := () } } test spare restrictions
    (client.reachable_of_mem_looks {} {} (fun _ _ => 0) () (List.mem_of_getElem? found)) fun _ _ => rfl
  obtain ⟨free, confined⟩ := Prod.mk.inj counts
  have agree : visits s test spare = visits s (confine s test) (confine s spare) := by
    simp only [visits, outcome, same]
  rw [free, confined] at agree
  cases agree

end FactBase.Query

import FactBase.Proofs.Process.Consistency
import FactBase.Proofs.Process.Lenience

/-!
# Runs alongside each other

Two runs make the same requests, and nobody listens. The predicates are the same but for one thing:
where one fails in the first run, it does not hold in the second. Whatever is requested, the fact
bases stay the same but for the record of failures, and so do the answers, except that the first run
may report that the rule network failed for a fact where the second hands that fact out.
-/

namespace FactBase

open Store Process

variable {N α : Type}

/-- Nobody listens. -/
def Process.idle : Hooks N (Memo Unit) (Store N) := fun _ _ => pure ()

namespace Request

/-- The answers to a request in both runs. -/
def Pardons : {α : Type} → Request α → α → α → Prop
  | _, .assertAt _ _, a, a' => FactBase.Pardons .ruleNetwork .new a a'
  | _, .assertOrdered _ _, a, a' =>
    FactBase.Pardons (fun h i => .assert (.ruleNetwork h i)) .new a a'
  | _, .modify _ _, a, a' => FactBase.Pardons .ruleNetwork id a a'
  | _, .duplicate _ _, a, a' => FactBase.Pardons .ruleNetwork .new a a'
  | _, .commitBuilder _, a, a' => FactBase.Pardons .ruleNetwork .new a.1 a'.1 ∧ a'.2 = a.2
  | _, .commitModifier _, a, a' => FactBase.Pardons .ruleNetwork id a a'
  | _, _, a, a' => a' = a

def isSetProbe : Request α → Bool
  | .setProbe _ => true
  | _ => false

/-- The second run makes the same request, but takes the failures of the predicates that the first
one puts to use for answers. -/
inductive Likens : {α : Type} → Request α → Request α → Prop
  | same {α : Type} (r : Request α) (other : r.isSetProbe = false) : Likens r r
  | setProbe (change change' : Probe → Probe)
      (lenient : ∀ p, change' p.lenient = (change p).lenient) :
      Likens (.setProbe change) (.setProbe change')

/-- Puts a predicate to use. -/
def addRule (label : String) (rule : Rule) : Request Unit :=
  .setProbe fun p => { p with predicates := (p.predicates.add label rule).2 }

theorem likens_addRule (label : String) (rule : Rule) :
    (addRule label rule).Likens (addRule label rule.lenient) := by
  refine .setProbe _ _ fun p => ?_
  simp only [Probe.lenient, PredicateTable.lenient, PredicateTable.add, Array.map_push]

/-- The fact base that a request leaves behind if nobody listens, also when a fault ends it. -/
def leaves [JoinNetwork N] (r : Request α) (s : Store N) : Store N :=
  ((r.perform idle).aftermath (outset s ())).store

end Request

/-- The fact bases of two runs that make the same requests one after the other. -/
inductive Store.Alongside [JoinNetwork N] : Store N → Store N → Prop
  | fresh (config : Config) (network : N) (contentHash : TemplateId → List Value → UInt64) :
      Alongside (fresh config network contentHash) (fresh config network contentHash)
  | request {s s' : Store N} (before : Alongside s s') {α : Type} {r r' : Request α}
      (likens : r.Likens r') : Alongside (r.leaves s) (r'.leaves s')

/-! ### Requests -/

section Unheard

variable {ρ ν : Type} [JoinNetwork N] {w w' : World N ρ ν} {hooks : Hooks N ρ ν}

theorem abreast_perform (unheard : ∀ id e, hooks id e = pure ()) (sound : w.store.Sound)
    (lenient : w.Lenient w') {r r' : Request α} (likens : r.Likens r') :
    Abreast (r.perform hooks) (r'.perform hooks) w w' fun a _ a' => r.Pardons a a' := by
  have update {f : Store N → Store N} (untested : ∀ s t, f (s.under t) = (f s).under t) :
      Abreast (updateStore f) (updateStore f) w w' fun a _ a' => a' = a :=
    (abreast_update untested lenient).mono fun _ _ _ _ => rfl
  have step {β : Type} {f : Store N → Except Breach (β × Store N)} (untested : Untested f) :
      Abreast (step f) (step f) w w' fun a _ a' => a' = a :=
    (abreast_step lenient (untested.abreast lenient.store)).mono fun _ _ _ => Eq.symm
  cases likens with
  | setProbe change change' same =>
    obtain ⟨failed, errors, store⟩ := lenient.store
    have changed : Store.Lenient { w.store with probe := change w.store.probe }
        { w'.store with probe := change' w'.store.probe } := by
      refine ⟨failed, errors, ?_⟩
      rw [store]
      exact congrArg (fun probe => w.store.under ⟨probe, failed, errors⟩) (same w.store.probe)
    exact And.intro rfl (lenient.setStore changed)
  | same r other =>
    cases r with
    | setProbe change => cases other
    | createFact template => exact step (untested_createFact template)
    | createOrdered relation values => exact step (untested_createOrdered relation values)
    | putSlot h slot v => exact abreast_attemptChange (untested_putSlot h slot v) lenient
    | putSlotAt h position v => exact abreast_attemptChange (untested_putSlotAt h position v) lenient
    | discard h => exact step (untested_discard h)
    | assertAt h position => exact abreast_assertAt unheard lenient h position
    | assertOrdered relation values =>
      exact abreast_assertOrdered unheard sound lenient relation values
    | retract h => exact abreast_retract unheard lenient h
    | retractAll rounds => exact abreast_retractAll unheard lenient rounds
    | clear rounds => exact abreast_clear unheard lenient rounds
    | modify h changes => exact abreast_modifyFact unheard lenient h changes
    | duplicate h changes => exact abreast_duplicateFact unheard lenient h changes
    | collectGarbage => exact step untested_collectGarbage
    | retain h => exact abreast_attemptChange (untested_retain h) lenient
    | release h => exact step (untested_release h)
    | install h => exact abreast_attemptChange (untested_install h) lenient
    | deinstall h => exact step (untested_deinstall h)
    | makeBuilder template => exact abreast_attempt (Builder.untested_make template) lenient
    | commitBuilder b => exact abreast_commitBuilder unheard lenient b
    | dropBuilder b => exact update fun _ _ => rfl
    | makeModifier h => exact abreast_attempt (Modifier.untested_make h) lenient
    | commitModifier m => exact abreast_commitModifier unheard lenient m
    | abortModifier m => exact abreast_unpin lenient m
    | addPattern p label => exact abreast_added lenient p label
    | removePattern id => exact abreast_attemptChange (untested_removePattern id) lenient
    | replayNewPatterns => exact abreast_replayed lenient
    | defineTemplate t => exact abreast_attempt (untested_defineTemplate t) lenient
    | undefineTemplate name => exact abreast_attemptChange (untested_undefineTemplate name) lenient
    | impliedTemplate relation =>
      refine abreast_attempt (fun s t => ?_) lenient
      change Except.map _ (s.templates.impliedTemplate relation) = passing t (Except.map _ _)
      cases s.templates.impliedTemplate relation <;> rfl
    | defineModule name imports =>
      refine abreast_attemptChange (fun s t => ?_) lenient
      change Except.map _ (s.templates.defineModule name imports) = (Except.map _ _).map _
      cases s.templates.defineModule name imports <;> rfl
    | setCurrentModule name =>
      refine abreast_attemptChange (fun s t => ?_) lenient
      change Except.map _ (s.templates.setCurrentModule name) = (Except.map _ _).map _
      cases s.templates.setCurrentModule name <;> rfl
    | drawDefault t position =>
      refine step fun s u => ?_
      rw [under_drawDefault]
      rfl
    | intern a =>
      exact update (f := fun s => { s with atoms := s.atoms.intern a }) fun _ _ => rfl
    | addListener name priority =>
      refine abreast_attempt (fun s t => ?_) lenient
      change Except.map _ (s.listeners.add name priority) = passing t (Except.map _ _)
      cases s.listeners.add name priority <;> rfl
    | removeListener name => exact step fun _ _ => rfl
    | setAllowDuplicates allowed =>
      exact update (f := fun s => { s with config := { s.config with allowDuplicates := allowed } })
        fun _ _ => rfl
    | clearEvaluationError =>
      obtain ⟨failed, errors, store⟩ := lenient.store
      have cleared : Store.Lenient { w.store with evaluationError := false }
          { w'.store with evaluationError := false } := by
        refine ⟨false, errors, ?_⟩
        rw [store]
        rfl
      exact And.intro rfl (lenient.setStore cleared)

end Unheard

/-! ### Runs -/

variable [JoinNetwork N]

theorem Request.reached_leaves {s : Store N} (reached : s.Reached) (r : Request α) :
    (r.leaves s).Reached := by
  have kept {s s' : Store N} (_ : True) (_ : Step s s') : True := trivial
  have silent : ∀ id e, Script (fun _ _ => True) (idle (N := N) id e) := fun _ _ => .pure ()
  have stepwise : Stepwise (Always Unit fun _ => True) none (outset s ()) :=
    stepwise_outset (upheld_of_kept kept) reached trivial
  have current : Current (outset s ()) := fun _ inside => by cases inside
  have runs := runs_perform (courteous_of_scripts silent) stepwise current r
    (r.upheldFrom_of_kept kept s ())
  have ensures : Ensures (r.perform idle) (outset s ()) (fun _ w => w.store.Reached)
      fun w => w.store.Reached :=
    ensures_weaken (ensures_mono runs fun _ _ run => run.1.reached) fun _ seen => seen.reached
  exact ensures_aftermath ensures

namespace Store.Alongside

variable {s s' : Store N} {r r' : Request α}

theorem abreast (sound : s.Sound) (lenient : s.Lenient s') (likens : r.Likens r') :
    Process.Abreast (r.perform idle) (r'.perform idle) (outset s ()) (outset s' ())
      fun a _ a' => r.Pardons a a' := by
  have beside : World.Lenient (outset s ()) (outset s' ()) := ⟨lenient, rfl, List.filter_nil.symm⟩
  exact abreast_perform (fun _ _ => rfl) sound beside likens

theorem reached (alongside : s.Alongside s') : s.Reached := by
  induction alongside with
  | fresh config network contentHash => exact .fresh config network contentHash
  | request before likens ih => exact Request.reached_leaves ih _

theorem lenient (alongside : s.Alongside s') : s.Lenient s' := by
  induction alongside with
  | fresh config network contentHash =>
    have same : Probe.lenient {} = {} := by
      simp only [Probe.lenient, PredicateTable.lenient, Array.map_empty]
    refine ⟨false, 0, ?_⟩
    change _ = (Store.fresh config network contentHash).under ⟨Probe.lenient {}, false, 0⟩
    rw [same]
    rfl
  | request before likens ih => exact (abreast before.reached.sound ih likens).aftermath.store

end Store.Alongside

/-- A predicate that fails cuts off no more than one that does not hold. After each request two runs
have the same fact base but for the record of failures, and where their answers differ, the first is
that the rule network failed for a fact and the second hands out this fact. -/
theorem failures_cut_off_branches {s s' : Store N} (alongside : s.Alongside s') {r r' : Request α}
    (likens : r.Likens r') : s.Lenient s' ∧
      Process.Abreast (r.perform idle) (r'.perform idle) (outset s ()) (outset s' ())
        fun a _ a' => r.Pardons a a' :=
  ⟨alongside.lenient, Store.Alongside.abreast alongside.reached.sound alongside.lenient likens⟩

/-- Whether a reading is positive fails to be decided. Another pattern matches it all the same, and
only the first run reports a failure. -/
theorem failures_cut_off_branches_reading :
    let submit : Request (Except AssertError Asserted) := .assertAt ⟨0, 0⟩ .tail
    ∃ s s' : Store AlphaMemory, s.Alongside s' ∧ (submit.leaves s).Lenient (submit.leaves s') ∧
      ((submit.perform idle).outcome (outset s ())).map (·.1) =
        some (.error (.ruleNetwork ⟨0, 0⟩ 1)) ∧
      ((submit.perform idle).outcome (outset s' ())).map (·.1) = some (.ok (.new ⟨0, 0⟩)) ∧
      (submit.leaves s).network.records.map (·.fact) = [⟨0, 0⟩] := by
  intro submit
  have alongside := (((((Store.Alongside.fresh {} ({} : AlphaMemory) fun _ _ => 0).request
    (Request.likens_addRule "positive" (RuleSpec.fails "value is not a number").judge)).request
    (.same (.impliedTemplate "reading") rfl)).request
    (.same (.addPattern ⟨⟨0⟩, [⟨0, [.multi (.expression ⟨0, "positive"⟩)]⟩]⟩ "positive")
      rfl)).request
    (.same (.addPattern ⟨⟨0⟩, [⟨0, [.multi .any]⟩]⟩ "any") rfl)).request
    (.same (.createOrdered "reading" [.nil]) rfl)
  have both := failures_cut_off_branches alongside (.same submit rfl)
  exact ⟨_, _, alongside, both.2.aftermath.store, by decide +kernel, by decide +kernel,
    by decide +kernel⟩

end FactBase

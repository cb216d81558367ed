import FactBase.Builder
import FactBase.Modifier
import FactBase.Proofs.Process.Ensures

/-!
# Clients

A client of a fact base looks at it, keeps notes and makes requests, and so do the listeners that
its requests call. It may do so in any order and depending on everything it has seen, with one
restriction: it has no access to a fact that is not attached unless it made the fact itself and was
handed the fact's handle. Every look is taken down in the journal.
-/

namespace FactBase

/-- What a fact base offers. The type is that of the answer. -/
inductive Request : Type → Type
  | createFact (template : String) : Request (Except StoreError Handle)
  | createOrdered (relation : String) (values : List Value) : Request (Except StoreError Handle)
  | putSlot (fact : Handle) (slot : String) (v : Value) : Request (Except StoreError Unit)
  | putSlotAt (fact : Handle) (position : Nat) (v : Value) : Request (Except StoreError Unit)
  | discard (fact : Handle) : Request (Except StoreError Unit)
  | assertAt (fact : Handle) (position : Position) : Request (Except AssertError Asserted)
  | assertOrdered (relation : String) (values : List Value) : Request (Except Failure Asserted)
  | retract (fact : Handle) : Request (Except RetractError Unit)
  | retractAll (rounds : Nat) : Request (Except RetractError Nat)
  | clear (rounds : Nat) : Request (Except RetractError Nat)
  | modify (fact : Handle) (changes : List (Nat × Value)) : Request (Except ModifyError Handle)
  | duplicate (fact : Handle) (changes : List (Nat × Value)) : Request (Except ModifyError Asserted)
  | collectGarbage : Request Nat
  | retain (fact : Handle) : Request (Except StoreError Unit)
  | release (fact : Handle) : Request (Except StoreError Unit)
  | install (fact : Handle) : Request (Except StoreError Unit)
  | deinstall (fact : Handle) : Request (Except StoreError Unit)
  | makeBuilder (template : String) : Request (Except BuilderError Builder)
  | commitBuilder (builder : Builder) : Request (Except BuilderError Asserted × Builder)
  | dropBuilder (builder : Builder) : Request Unit
  | makeModifier (fact : Handle) : Request (Except ModifyError Modifier)
  | commitModifier (modifier : Modifier) : Request (Except ModifyError Handle)
  | abortModifier (modifier : Modifier) : Request (Except ModifyError Unit)
  | addPattern (p : Pattern) (label : String) : Request (Except PatternError EntryId)
  | removePattern (entry : EntryId) : Request (Except PatternError Unit)
  | replayNewPatterns : Request Nat
  | defineTemplate (t : Template) : Request (Except TemplateError TemplateId)
  | undefineTemplate (name : String) : Request (Except TemplateError Unit)
  | impliedTemplate (relation : String) : Request (Except TemplateError TemplateId)
  | defineModule (name : String) (imports : List String) : Request (Except TemplateError Unit)
  | setCurrentModule (name : String) : Request (Except TemplateError Unit)
  | drawDefault (t : TemplateId) (position : Nat) : Request (Option Value)
  | intern (a : Atom) : Request Unit
  | addListener (name : String) (priority : Int) : Request (Except StoreError ListenerId)
  | removeListener (name : String) : Request Bool
  | setAllowDuplicates (allowed : Bool) : Request Unit
  /-- Puts predicates to use, or raises and withdraws the halt request. -/
  | setProbe (change : Probe → Probe) : Request Unit
  | clearEvaluationError : Request Unit

namespace Request

variable {N ρ ν α : Type}

/-- The facts that a request asks something of. -/
def facts : Request α → List Handle
  | .putSlot h _ _ | .putSlotAt h _ _ | .discard h | .assertAt h _ | .retract h | .modify h _
  | .duplicate h _ | .retain h | .release h | .install h | .deinstall h | .makeModifier h => [h]
  | .commitModifier m | .abortModifier m => [m.fact]
  | _ => []

/-- The unattached fact that an answer hands out. -/
def made : Request α → α → Option Handle
  | .createFact _, r => r.toOption
  | .createOrdered _ _, r => r.toOption
  | _, _ => none

def perform [JoinNetwork N] (hooks : Hooks N ρ ν) : Request α → Process N ρ ν α
  | .createFact template => Process.step (·.createFact template)
  | .createOrdered relation values => Process.step (·.createOrdered relation values)
  | .putSlot h slot v => Process.attemptChange (·.putSlot h slot v)
  | .putSlotAt h position v => Process.attemptChange (·.putSlotAt h position v)
  | .discard h => Process.step (·.discard h)
  | .assertAt h position => Process.assertAt hooks h position
  | .assertOrdered relation values => Process.assertOrdered hooks relation values
  | .retract h => Process.retract hooks h
  | .retractAll rounds => Process.retractAll hooks rounds
  | .clear rounds => Process.clear hooks rounds
  | .modify h changes => Process.modifyFact hooks h changes
  | .duplicate h changes => Process.duplicateFact hooks h changes
  | .collectGarbage => Process.collectGarbage
  | .retain h => Process.attemptChange (·.retain h)
  | .release h => Process.step (·.release h)
  | .install h => Process.attemptChange (·.install h)
  | .deinstall h => Process.step (·.deinstall h)
  | .makeBuilder template => Process.attempt (Builder.make template)
  | .commitBuilder b => b.commit hooks
  | .dropBuilder b => Process.updateStore b.drop
  | .makeModifier h => Process.attempt (Modifier.make h)
  | .commitModifier m => m.commit hooks
  | .abortModifier m => m.abort
  | .addPattern p label => Process.addPattern p label
  | .removePattern id => Process.attemptChange (·.removePattern id)
  | .replayNewPatterns => Process.replayNewPatterns
  | .defineTemplate t => Process.attempt (·.defineTemplate t)
  | .undefineTemplate name => Process.attemptChange (·.undefineTemplate name)
  | .impliedTemplate relation => Process.attempt fun s =>
      (s.templates.impliedTemplate relation).map fun (id, templates) => (id, { s with templates })
  | .defineModule name imports => Process.attemptChange fun s =>
      (s.templates.defineModule name imports).map fun templates => { s with templates }
  | .setCurrentModule name => Process.attemptChange fun s =>
      (s.templates.setCurrentModule name).map fun templates => { s with templates }
  | .drawDefault t position => Process.step fun s => .ok (s.drawDefault t position)
  | .intern a => Process.updateStore fun s => { s with atoms := s.atoms.intern a }
  | .addListener name priority => Process.attempt fun s =>
      (s.listeners.add name priority).map fun (id, listeners) => (id, { s with listeners })
  | .removeListener name => Process.step fun s =>
      .ok ((s.listeners.remove name).1, { s with listeners := (s.listeners.remove name).2 })
  | .setAllowDuplicates allowDuplicates =>
    Process.updateStore fun s => { s with config := { s.config with allowDuplicates } }
  | .setProbe change => Process.updateStore fun s => { s with probe := change s.probe }
  | .clearEvaluationError => Process.updateStore fun s => { s with evaluationError := false }

end Request

/-- What a client keeps: the facts it made, as far as it remembers, and its own notes. -/
structure Memo (σ : Type) where
  made : List Handle := []
  notes : σ

/-- The world that a process leaves behind, also when a fault ends it. -/
def Process.aftermath {N ρ ν α : Type} (p : Process N ρ ν α) (w : World N ρ ν) : World N ρ ν :=
  match p w with
  | .ok _ w' | .error _ w' => w'

/-- What holds however a process ends holds in its aftermath. -/
theorem Process.ensures_aftermath {N ρ ν α : Type} {p : Process N ρ ν α} {w : World N ρ ν}
    {E : World N ρ ν → Prop} (ensures : Ensures p w (fun _ => E) E) : E (p.aftermath w) := by
  unfold Ensures at ensures
  unfold aftermath
  cases ran : p w with
  | ok a w' =>
    rw [ran] at ensures
    exact ensures
  | error e w' =>
    rw [ran] at ensures
    exact ensures

/-- The result and the world of a process that comes to an end. -/
def Process.outcome {N ρ ν α : Type} (p : Process N ρ ν α) (w : World N ρ ν) :
    Option (α × World N ρ ν) :=
  match p w with
  | .ok a w' => some (a, w')
  | .error _ _ => none

theorem Process.outcome_eq_some {N ρ ν α : Type} {p : Process N ρ ν α} {w w' : World N ρ ν} {a : α} :
    p.outcome w = some (a, w') ↔ p w = .ok a w' := by
  unfold outcome
  split <;> rename_i same <;> simp [same]

section Client

variable {N σ α : Type}

/-- A client's beginning: it has made no facts and has not looked at anything. -/
def outset (s : Store N) (notes : σ) : World N (Memo σ) (Store N) :=
  { store := s, host := { notes } }

/-- What clients and listeners have seen of the fact base. -/
def World.looks (w : World N (Memo σ) (Store N)) : List (Store N) :=
  w.journal.toList.filterMap fun
    | .remark s => some s
    | .notice _ => none

/-- Takes a look at the fact base. -/
def look : Process N (Memo σ) (Store N) (Store N) := do
  let s ← Process.getStore
  Process.record (.remark s)
  return s

def consult : Process N (Memo σ) (Store N) σ := do return (← get).host.notes

def note (notes : σ) : Process N (Memo σ) (Store N) Unit :=
  modify fun w => { w with host := { w.host with notes } }

/-- Forgets the facts that are not there any more; their handles may come to name others. -/
def forget : Process N (Memo σ) (Store N) Unit :=
  modify fun w =>
    { w with host := { w.host with made := w.host.made.filter fun h => (w.store.get? h).isSome } }

def remember (h : Option Handle) : Process N (Memo σ) (Store N) Unit :=
  modify fun w => { w with host := { w.host with made := h.toList ++ w.host.made } }

/-- Whether a client may ask something of a fact: all attached facts are open to everyone. -/
def mayUse (w : World N (Memo σ) (Store N)) (h : Handle) : Bool :=
  w.host.made.contains h || !(w.store.get? h).any (·.isUnattached)

/-- Makes a request, provided that the client may use its facts. -/
def ask [JoinNetwork N] (hooks : Hooks N (Memo σ) (Store N)) (r : Request α) :
    Process N (Memo σ) (Store N) (Option α) := do
  forget
  let w ← get
  if r.facts.all (mayUse w) then
    let a ← r.perform hooks
    remember (r.made a)
    return some a
  else return none

inductive Client [JoinNetwork N] : {α : Type} → Process N (Memo σ) (Store N) α → Prop
  | pure {α : Type} (a : α) : Client (pure a)
  | bind {α β : Type} {p : Process N (Memo σ) (Store N) α}
      {k : α → Process N (Memo σ) (Store N) β} (first : Client p) (rest : ∀ a, Client (k a)) :
      Client (p >>= k)
  | look : Client look
  | consult : Client consult
  | note (notes : σ) : Client (note notes)
  /-- Gives up because listeners are nested too deeply. -/
  | giveUp {α : Type} : Client (throw .nesting : Process N (Memo σ) (Store N) α)
  | ask {α : Type} {hooks : Hooks N (Memo σ) (Store N)} (listeners : ∀ id e, Client (hooks id e))
      (r : Request α) : Client (ask hooks r)

/-- Clients that only make certain requests, like their listeners. -/
inductive ClientOf [JoinNetwork N] (ok : (α : Type) → Request α → Prop) :
    {α : Type} → Process N (Memo σ) (Store N) α → Prop
  | pure {α : Type} (a : α) : ClientOf ok (pure a)
  | bind {α β : Type} {p : Process N (Memo σ) (Store N) α}
      {k : α → Process N (Memo σ) (Store N) β} (first : ClientOf ok p)
      (rest : ∀ a, ClientOf ok (k a)) : ClientOf ok (p >>= k)
  | look : ClientOf ok look
  | consult : ClientOf ok consult
  | note (notes : σ) : ClientOf ok (note notes)
  | giveUp {α : Type} : ClientOf ok (throw .nesting : Process N (Memo σ) (Store N) α)
  | ask {α : Type} {hooks : Hooks N (Memo σ) (Store N)}
      (listeners : ∀ id e, ClientOf ok (hooks id e)) (r : Request α) (allowed : ok α r) :
      ClientOf ok (ask hooks r)

theorem ClientOf.client [JoinNetwork N] {ok : (α : Type) → Request α → Prop}
    {p : Process N (Memo σ) (Store N) α} (client : ClientOf ok p) : Client p := by
  induction client with
  | pure a => exact .pure a
  | bind _ _ first rest => exact .bind first rest
  | look => exact .look
  | consult => exact .consult
  | note notes => exact .note notes
  | giveUp => exact .giveUp
  | ask _ r _ listeners => exact .ask listeners r

theorem Client.clientOf [JoinNetwork N] {p : Process N (Memo σ) (Store N) α}
    (client : Client p) : ClientOf (fun _ _ => True) p := by
  induction client with
  | pure a => exact .pure a
  | bind _ _ first rest => exact .bind first rest
  | look => exact .look
  | consult => exact .consult
  | note notes => exact .note notes
  | giveUp => exact .giveUp
  | ask _ r listeners => exact .ask listeners r trivial

end Client

end FactBase

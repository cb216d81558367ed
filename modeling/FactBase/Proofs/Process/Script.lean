import FactBase.Proofs.Process.Client
import FactBase.Query

/-!
# Scripts

Clients and their listeners may also run queries, with tests and actions that are scripts of the same
kind. A query reads the fact base without leaving a trace in the journal, and it pins the facts it
acts on and gives back their pins, one after the other, whatever its action has done meanwhile.
-/

namespace FactBase

open Process

/-! ### Pins of queries -/

namespace Query

variable {N ρ ν : Type}

/-- Pins a fact on behalf of a query, which ends for good if the fact is not there. -/
def pin (h : Handle) : Process N ρ ν Unit := do
  match ← Process.attemptChange (·.retain h) with
  | .error _ => Process.breach (.vanishedWhilePinning h)
  | .ok () => return ()

/-- Gives back the pin of a query, which ends for good if the fact is not there. -/
def unpin (h : Handle) : Process N ρ ν Unit := do
  match ← Process.step (·.release h) with
  | .error _ => Process.breach (.freedWhilePinned h)
  | .ok () => return ()

theorem pinAll_cons (x : String × Handle) (binding : Binding) :
    (pinAll (x :: binding) : Process N ρ ν Unit) = pin x.2 >>= fun _ => pinAll binding := by
  rw [pinAll, pin, bind_assoc]
  congr 1
  funext r
  cases r <;> rfl

theorem unpinAll_cons (x : String × Handle) (binding : Binding) :
    (unpinAll (x :: binding) : Process N ρ ν Unit) = unpin x.2 >>= fun _ => unpinAll binding := by
  rw [unpinAll, unpin, bind_assoc]
  congr 1
  funext r
  cases r <;> rfl

end Query

/-! ### Scripts -/

variable {N σ α β : Type} [JoinNetwork N]

/-- Requests that include what queries do. -/
structure Querying (ok : (α : Type) → Request α → Prop) : Prop where
  polls : ok _ (.setProbe fun p => p.poll.2)
  retains : ∀ h, ok _ (.retain h)
  releases : ∀ h, ok _ (.release h)

/-- Clients that only make certain requests and may run queries, like their listeners. -/
inductive Script (ok : (α : Type) → Request α → Prop) :
    {α : Type} → Process N (Memo σ) (Store N) α → Prop
  | pure {α : Type} (a : α) : Script ok (pure a)
  | bind {α β : Type} {p : Process N (Memo σ) (Store N) α}
      {k : α → Process N (Memo σ) (Store N) β} (first : Script ok p)
      (rest : ∀ a, Script ok (k a)) : Script ok (p >>= k)
  | look : Script ok look
  /-- A query reads the fact base. -/
  | read : Script ok getStore
  /-- A query looks whether to halt. -/
  | poll (querying : Querying ok) : Script ok pollHalt
  | consult : Script ok consult
  | note (notes : σ) : Script ok (note notes)
  | giveUp {α : Type} : Script ok (throw .nesting : Process N (Memo σ) (Store N) α)
  | ask {α : Type} {hooks : Hooks N (Memo σ) (Store N)} (listeners : ∀ id e, Script ok (hooks id e))
      (r : Request α) (allowed : ok α r) : Script ok (ask hooks r)
  | pin (h : Handle) (querying : Querying ok) : Script ok (Query.pin h)
  | unpin (h : Handle) (querying : Querying ok) : Script ok (Query.unpin h)

variable {ok : (α : Type) → Request α → Prop}

theorem ClientOf.script {p : Process N (Memo σ) (Store N) α} (client : ClientOf ok p) :
    Script ok p := by
  induction client with
  | pure a => exact .pure a
  | bind _ _ first rest => exact .bind first rest
  | look => exact .look
  | consult => exact .consult
  | note notes => exact .note notes
  | giveUp => exact .giveUp
  | ask _ r allowed listeners => exact .ask listeners r allowed

/-! ### Queries -/

namespace Query

/-- The modes of a query, by what they answer. -/
inductive Mode : Type → Type where
  | findFirst : Mode (Option Binding)
  | any : Mode Bool
  | findAll : Mode (List Binding)
  | doForFirst : Mode Bool
  | doForAll : Mode Nat
  | delayedDoForAll : Mode Nat

section Search

variable {N ρ ν α β : Type} {test : Test N ρ ν} {act : Act N ρ ν}

/-- Runs a query in one of its modes. Modes that only find bindings have no use for the action. -/
def Mode.run (test : Test N ρ ν) (act : Act N ρ ν) (restrictions : List Restriction) :
    Mode α → Process N ρ ν (Except QueryError α)
  | .findFirst => Query.findFirst test restrictions
  | .any => Query.any test restrictions
  | .findAll => Query.findAll test restrictions
  | .doForFirst => Query.doForFirst test act restrictions
  | .doForAll => Query.doForAll test act restrictions
  | .delayedDoForAll => Query.delayedDoForAll test act restrictions

/-- A kind of processes that includes what searches are made of. -/
structure Searching (K : (α : Type) → Process N ρ ν α → Prop) : Prop where
  pure : ∀ {α : Type} (a : α), K α (pure a)
  bind : ∀ {α β : Type} {p : Process N ρ ν α} {k : α → Process N ρ ν β}, K α p →
    (∀ a, K β (k a)) → K β (p >>= k)
  read : K _ getStore
  poll : K _ pollHalt

namespace Searching

variable {K : (α : Type) → Process N ρ ν α → Prop} (searching : Searching K)
include searching

/-- A search is of the same kind as its test and its visits. -/
theorem tryFacts (bound : Binding) {d : Handle → β → Process N ρ ν (Except QueryError (β × Flow))}
    (deeper : ∀ h b, K _ (d h b)) (hs : List Handle) (b : β) :
    K _ (Query.tryFacts bound d hs b) := by
  induction hs generalizing b with
  | nil => exact searching.pure _
  | cons h rest ih =>
    unfold Query.tryFacts
    refine searching.bind searching.poll fun halted => ?_
    split
    · exact searching.pure _
    · refine searching.bind searching.read fun s => ?_
      split
      · exact searching.pure _
      · split
        · exact ih b
        · refine searching.bind (deeper h b) fun r => ?_
          split
          · exact ih _
          · exact searching.pure _

theorem tryTemplates (bound : Binding)
    {d : Handle → β → Process N ρ ν (Except QueryError (β × Flow))}
    (deeper : ∀ h b, K _ (d h b)) (ts : List TemplateId) (b : β) :
    K _ (Query.tryTemplates bound d ts b) := by
  induction ts generalizing b with
  | nil => exact searching.pure _
  | cons t rest ih =>
    unfold Query.tryTemplates
    refine searching.bind searching.read fun s =>
      searching.bind (searching.tryFacts bound deeper _ b) fun r => ?_
    split
    · exact ih _
    · exact searching.pure _
    · exact searching.pure _

variable (tests : ∀ b, K _ (test b))
include tests

theorem descend {visit : Visit N ρ ν β} (visits : ∀ bound b, K _ (visit bound b))
    (levels : List Level) (bound : Binding) (b : β) :
    K _ (Query.descend test visit levels bound b) := by
  induction levels generalizing bound b with
  | nil =>
    unfold Query.descend
    refine searching.bind (tests bound) fun r => ?_
    split
    · exact searching.pure _
    · exact searching.pure _
    · exact visits bound b
  | cons level deeper ih =>
    exact searching.tryTemplates bound (fun h b => ih _ b) level.2 b

theorem search {visit : Visit N ρ ν β} (visits : ∀ bound b, K _ (visit bound b))
    (restrictions : List Restriction) (start : β) : K _ (Query.search test visit restrictions start) := by
  unfold Query.search
  refine searching.bind searching.read fun s => ?_
  split
  · exact searching.pure _
  · refine searching.bind (searching.descend tests visits _ [] start) fun r => ?_
    split <;> exact searching.pure _

theorem findFirst (restrictions : List Restriction) : K _ (Query.findFirst test restrictions) :=
  searching.search tests (fun _ _ => searching.pure _) restrictions none

theorem findAll (restrictions : List Restriction) : K _ (Query.findAll test restrictions) :=
  searching.search tests (fun _ _ => searching.pure _) restrictions []

omit tests in
theorem runDelayed (acts : ∀ b, K _ (runAction act b)) (bindings : List Binding) :
    K _ (Query.runDelayed act bindings) := by
  induction bindings with
  | nil => exact searching.pure _
  | cons binding rest ih =>
    unfold Query.runDelayed
    refine searching.bind searching.poll fun halted => ?_
    split
    · exact searching.pure _
    · refine searching.bind (acts binding) fun r => ?_
      split
      · exact searching.pure _
      · exact searching.bind ih fun _ => searching.pure _

/-- In every mode a query is of the same kind as its test and the running of its actions. -/
theorem run (acts : ∀ b, K _ (runAction act b)) (restrictions : List Restriction) (mode : Mode α) :
    K _ (mode.run test act restrictions) := by
  cases mode with
  | findFirst => exact searching.findFirst tests restrictions
  | any => exact searching.bind (searching.findFirst tests restrictions) fun _ => searching.pure _
  | findAll => exact searching.findAll tests restrictions
  | doForFirst | doForAll =>
    refine searching.search tests (fun binding _ => ?_) restrictions _
    refine searching.bind (acts binding) fun r => ?_
    split <;> exact searching.pure _
  | delayedDoForAll =>
    refine searching.bind (searching.findAll tests restrictions) fun r => ?_
    split
    · exact searching.pure _
    · exact searching.runDelayed acts _

end Searching

/-- A kind of processes that includes what queries are made of. -/
structure Acting (K : (α : Type) → Process N ρ ν α → Prop) : Prop extends Searching K where
  pin : ∀ h, K _ (Query.pin h)
  unpin : ∀ h, K _ (Query.unpin h)

namespace Acting

variable {K : (α : Type) → Process N ρ ν α → Prop} (acting : Acting K)
include acting

theorem pinAll (binding : Binding) : K _ (Query.pinAll binding) := by
  induction binding with
  | nil => exact acting.pure ()
  | cons x binding ih =>
    rw [pinAll_cons]
    exact acting.bind (acting.pin x.2) fun _ => ih

theorem unpinAll (binding : Binding) : K _ (Query.unpinAll binding) := by
  induction binding with
  | nil => exact acting.pure ()
  | cons x binding ih =>
    rw [unpinAll_cons]
    exact acting.bind (acting.unpin x.2) fun _ => ih

theorem runAction {binding : Binding} (acts : K _ (act binding)) :
    K _ (Query.runAction act binding) := by
  unfold Query.runAction
  refine acting.bind acting.read fun s => ?_
  split
  · exact acting.pure _
  · refine acting.bind (acting.pinAll binding) fun _ => acting.bind acts fun result => ?_
    refine acting.bind (acting.unpinAll binding) fun _ => ?_
    split <;> exact acting.pure _

/-- In every mode a query is of the same kind as its test and its actions. -/
theorem run (tests : ∀ b, K _ (test b)) (acts : ∀ b, K _ (act b))
    (restrictions : List Restriction) (mode : Mode α) : K _ (mode.run test act restrictions) :=
  acting.toSearching.run tests (fun b => acting.runAction (acts b)) restrictions mode

end Acting

end Search

section Script

variable {test : Test N (Memo σ) (Store N)} {act : Act N (Memo σ) (Store N)}
  (querying : Querying ok)
include querying

theorem acting_script : Acting fun _ (p : Process N (Memo σ) (Store N) _) => Script ok p where
  pure := .pure
  bind := .bind
  read := .read
  poll := .poll querying
  pin h := .pin h querying
  unpin h := .unpin h querying

/-- A query is a script if its test and its actions are. -/
theorem script_run (tests : ∀ b, Script ok (test b)) (acts : ∀ b, Script ok (act b))
    (restrictions : List Restriction) (mode : Mode α) :
    Script ok (mode.run test act restrictions) :=
  (acting_script querying).run tests acts restrictions mode

end Script

end Query

end FactBase

import FactBase.Proofs.Process.Client
import FactBase.Proofs.Store.Covered
import FactBase.Proofs.Store.Duplicate
import FactBase.Proofs.Store.Errand

/-!
# What operations uphold

Operations uphold a condition if each of their steps does. Errands need no further care. A fact that
is attached is pending until it is matched, and a condition may make an exception of it meanwhile;
what happens then is in the hands of listeners. Conditions may depend on what a client has noted.
Which facts and templates are made depends on the request.
-/

namespace FactBase

open Store

/-- A condition on a fact base: which fact is pending, what a client has noted, and the fact base. It
may say less of what is past or was broken off. -/
structure Condition (N σ : Type) [JoinNetwork N] where
  holds : Option Handle → σ → Store N → Prop
  past : σ → Store N → Prop
  passes : ∀ {pending notes s}, holds pending notes s → past notes s
  /-- What clients may make operations break off over that the condition does not rule out. -/
  excuses : Breach → Prop

variable {N σ α : Type} [JoinNetwork N]

instance : CoeFun (Condition N σ) fun _ => Option Handle → σ → Store N → Prop := ⟨Condition.holds⟩

/-- What holds of a fact base whichever fact is pending and whatever is noted. -/
abbrev Always (σ : Type) (P : Store N → Prop) : Condition N σ where
  holds _ _ := P
  past _ := P
  passes := id
  excuses _ := True

/-- A condition that only allows fact bases which reject duplicates. -/
def Strict (R : Condition N σ) : Prop :=
  ∀ notes s, R none notes s → s.config.allowDuplicates = false

/-- A condition that is kept by detaching and by errands. Whether it is kept when something is made
and by chores that are done on request only is left open. -/
structure Upheld (R : Condition N σ) : Prop where
  errand : ∀ {pending notes s s'}, R pending notes s → s.Reached → Errand s s' → R pending notes s'
  detach : ∀ {notes s s' h d}, R none notes s → s.Reached → s.detach h = .ok (d, s') →
    R none notes s'

/-- A condition that is kept when facts are asserted that were not asserted at the start. -/
structure Assertive (start : Store N) (R : Condition N σ) : Prop where
  attach : ∀ {notes s s' h f index}, R none notes s → s.Reached → s.get? h = some f →
    f.isUnattached = true → index ≠ 0 → start.isAsserted h = false →
    (Strict R → s.Unrivalled f) → Step s s' → Attaches h f index s s' → Sustains s s' →
    s.nextIndex ≤ s'.nextIndex → R (some h) notes s'
  matchFact : ∀ {notes s s' h o}, R (some h) notes s → s.Reached → s.isAsserted h = true →
    s.matchFact h .assert = .ok (o, s') → R none notes s'
  /-- A fact that was made for the occasion may be given up. -/
  free : ∀ {notes s s' h f}, R none notes s → s.Reached → s.get? h = some f →
    f.isUnattached = true → h = start.facts.nextHandle → s.free h = .ok s' → R none notes s'

/-- Whether an assert finds the content of a fact asserted already, and frees the fact. -/
def Store.rejects (s : Store N) (h : Handle) (position : Position) : Bool :=
  (s.get? h).any fun f => f.isUnattached && !s.guarded &&
    (Process.predecessor s position).toOption.isSome && (s.duplicateOf? h f (s.hashOf f)).isSome

/-- A condition that a step does not break. -/
abbrev Survives (R : Condition N σ) (notes : σ) (s s' : Store N) : Prop :=
  R none notes s → s.Reached → R none notes s'

namespace Request

/-- The ordered fact that a request makes. -/
def ordered? : Request α → Option (String × List Value)
  | .createOrdered relation values | .assertOrdered relation values => some (relation, values)
  | _ => none

/-- The fact of which a request makes a copy, and the changes in it. -/
def copied? : Request α → Option (Handle × List (Nat × Value))
  | .modify h changes | .duplicate h changes => some (h, changes)
  | .commitModifier m => some (m.fact, m.changes)
  | _ => none

/-- How a request makes something of a fact base, which may have been prepared for it by then. -/
inductive Makes (start : Store N) : {α : Type} → Request α → Store N → Store N → Prop
  | created {name : String} {r : Except StoreError Handle} {s : Store N}
      (done : start.createFact name = .ok (r, s)) : Makes start (.createFact name) start s
  | ordered {α : Type} {request : Request α} {relation : String} {values : List Value}
      {r : Except StoreError Handle} {s : Store N}
      (wanted : request.ordered? = some (relation, values))
      (done : start.createOrdered relation values = .ok (r, s)) : Makes start request start s
  | copied {α : Type} {request : Request α} {h k : Handle} {changes : List (Nat × Value)}
      {f : Fact} {fields : List Field} {u s s' : Store N}
      (wanted : request.copied? = some (h, changes))
      (patched : u.patched h changes = .ok (f, fields)) (facts : s.facts = u.facts)
      (next : s.facts.nextHandle = start.facts.nextHandle)
      (done : s.createWith f.templateId f.template fields = .ok (k, s')) : Makes start request s s'
  | built {b : Builder} {k : Handle} {fields : List Field} {s s' : Store N}
      (current : b.isCurrent start = true)
      (drawn : b.fields (b.template.slots.zip b.staged).zipIdx start = (.ok fields, s))
      (done : s.createWith b.templateId b.template fields = .ok (k, s')) :
      Makes start (.commitBuilder b) s s'
  | defined {t : Template} {id : TemplateId} {s : Store N}
      (done : start.defineTemplate t = .ok (id, s)) : Makes start (.defineTemplate t) start s
  | implied {relation : String} {id : TemplateId} {templates : TemplateRegistry}
      (done : start.templates.impliedTemplate relation = .ok (id, templates)) :
      Makes start (.impliedTemplate relation) start { start with templates }

omit [JoinNetwork N] in
theorem Makes.making {start s s' : Store N} {r : Request α} (makes : r.Makes start s s') :
    Making s s' := by
  cases makes with
  | created done => exact .createFact done
  | ordered _ done => exact .createOrdered done
  | copied _ _ _ _ done => exact .createWith done
  | built _ _ done => exact .createWith done
  | defined done => exact .defineTemplate done
  | implied done => exact .impliedTemplate done

/-- What a condition takes from what a request does besides making something. -/
def KeptAt (start : Store N) (notes : σ) (R : Condition N σ) : Request α → Prop
  | .putSlot h slot v => ∀ ⦃s⦄, start.putSlot h slot v = .ok s → Survives R notes start s
  | .putSlotAt h position v =>
    ∀ ⦃s⦄, start.putSlotAt h position v = .ok s → Survives R notes start s
  | .discard h => ∀ ⦃r s⦄, start.discard h = .ok (r, s) → Survives R notes start s
  | .assertAt h position => Assertive start R ∧
    ∀ ⦃f s⦄, start.rejects h position = true → start.get? h = some f → f.isUnattached = true →
      start.free h = .ok s → Survives R notes start s
  | .assertOrdered _ _ | .modify _ _ | .duplicate _ _ | .commitBuilder _ => Assertive start R
  | .commitModifier m => Assertive start R ∧
    ∀ ⦃r s⦄, start.release m.fact = .ok (r, s) → Survives R notes start s
  | .clear _ => ∀ ⦃notes s⦄, R none notes s → s.Reached → s.global.head = none → s.garbage = [] →
      R none notes { s with nextIndex := 1 }
  | .retain h | .makeModifier h => ∀ ⦃s⦄, start.retain h = .ok s → Survives R notes start s
  | .release h => ∀ ⦃r s⦄, start.release h = .ok (r, s) → Survives R notes start s
  | .abortModifier m => ∀ ⦃r s⦄, start.release m.fact = .ok (r, s) → Survives R notes start s
  | .install h => ∀ ⦃s⦄, start.install h = .ok s → Survives R notes start s
  | .deinstall h => (∀ ⦃r s⦄, start.deinstall h = .ok (r, s) → Survives R notes start s) ∧
    ∀ text, R.excuses (.atomNeverInstalled text)
  | .makeBuilder name => ∀ ⦃b s⦄, Builder.make name start = .ok (b, s) → Survives R notes start s
  | .dropBuilder b => Survives R notes start (b.drop start)
  | .addPattern p label => ∀ ⦃notes s s' r notices⦄, R none notes s → s.Reached →
      s.addPattern p label = .ok (r, notices, s') → R none notes s'
  | .removePattern id => ∀ ⦃notes s s'⦄, R none notes s → s.Reached →
      s.removePattern id = .ok s' → R none notes s'
  | .replayNewPatterns => ∀ ⦃notes s s' n notices⦄, R none notes s → s.Reached →
      s.replayNewPatterns = .ok (n, notices, s') → R none notes s'
  | .setAllowDuplicates allowDuplicates => ∀ ⦃notes s⦄, R none notes s → s.Reached →
      R none notes { s with config := { s.config with allowDuplicates } }
  | .setProbe change => ∀ ⦃notes s⦄, R none notes s → s.Reached →
      R none notes { s with probe := change s.probe }
  | _ => True

/-- What a condition takes from a request made of a fact base. -/
structure UpheldAt (start : Store N) (notes : σ) (R : Condition N σ) (r : Request α) : Prop where
  kept : r.KeptAt start notes R
  makes : ∀ ⦃s s'⦄, r.Makes start s s' → Survives R notes s s'

/-- What a condition takes from a request whatever a client has noted. -/
def UpheldFrom (start : Store N) (R : Condition N σ) (r : Request α) : Prop :=
  ∀ notes, r.UpheldAt start notes R

/-- Requests that start the numbering again, act on patterns or change what a fact base goes by. -/
def Governs : Request α → Prop
  | .clear _ | .addPattern _ _ | .removePattern _ | .replayNewPatterns | .setAllowDuplicates _
  | .setProbe _ => True
  | _ => False

end Request

/-! ### Robust conditions -/

/-- A condition that is kept whatever is done to facts. -/
structure Robust (R : Condition N σ) : Prop where
  chore : ∀ {pending notes s s'}, R pending notes s → s.Reached → Chore s s' → R pending notes s'
  detach : ∀ {notes s s' h d}, R none notes s → s.Reached → s.detach h = .ok (d, s') →
    R none notes s'
  attach : ∀ {notes s s' h f index}, R none notes s → s.Reached → s.get? h = some f →
    f.isUnattached = true → index ≠ 0 → (Strict R → s.Unrivalled f) → Step s s' →
    Attaches h f index s s' → s.nextIndex ≤ s'.nextIndex → R (some h) notes s'
  matchFact : ∀ {notes s s' h o}, R (some h) notes s → s.Reached → s.isAsserted h = true →
    s.matchFact h .assert = .ok (o, s') → R none notes s'
  release : ∀ {notes s s' h r}, R none notes s → s.Reached → s.release h = .ok (r, s') →
    R none notes s'
  deinstall : ∀ {notes s s' h r}, R none notes s → s.Reached → s.deinstall h = .ok (r, s') →
    R none notes s'
  excuses : ∀ b, R.excuses b := by exact fun _ => trivial

namespace Robust

variable {R : Condition N σ} (robust : Robust R)
include robust

theorem upheld : Upheld R :=
  ⟨fun holds reached errand => robust.chore holds reached errand.chore, robust.detach⟩

theorem assertive (start : Store N) : Assertive start R :=
  ⟨fun holds reached found unattached numbered _ unrivalled step attaches _ grown =>
      robust.attach holds reached found unattached numbered unrivalled step attaches grown,
    robust.matchFact, fun holds reached found unattached _ done =>
      robust.chore holds reached (.free found unattached done)⟩

/-- Requests that only concern facts uphold what is robust. -/
theorem upheldFrom (r : Request α) (start : Store N)
    (governs : r.Governs → ∀ notes, r.KeptAt start notes R) : r.UpheldFrom start R := by
  refine fun notes => ⟨?_, fun _ _ made holds reached => robust.chore holds reached made.making.chore⟩
  cases r with
  | assertOrdered | modify | duplicate | commitBuilder => exact robust.assertive start
  | assertAt =>
    exact ⟨robust.assertive start, fun _ _ _ found unattached done holds reached =>
      robust.chore holds reached (.free found unattached done)⟩
  | putSlot => exact fun _ done holds reached => robust.chore holds reached (.putSlot done)
  | putSlotAt => exact fun _ done holds reached => robust.chore holds reached (.putSlotAt done)
  | discard => exact fun _ _ done holds reached => robust.chore holds reached (.discard done)
  | commitModifier =>
    exact ⟨robust.assertive start, fun _ _ done holds reached => robust.release holds reached done⟩
  | retain | makeModifier => exact fun _ done holds reached => robust.chore holds reached (.retain done)
  | release | abortModifier =>
    exact fun _ _ done holds reached => robust.release holds reached done
  | install => exact fun _ done holds reached => robust.chore holds reached (.install done)
  | deinstall =>
    exact ⟨fun _ _ done holds reached => robust.deinstall holds reached done,
      fun text => robust.excuses (.atomNeverInstalled text)⟩
  | makeBuilder => exact fun _ _ done holds reached => robust.chore holds reached (.makeBuilder done)
  | dropBuilder b => exact fun holds reached => robust.chore holds reached (.dropBuilder b start)
  | clear | addPattern | removePattern | replayNewPatterns | setAllowDuplicates | setProbe =>
    exact governs trivial notes
  | _ => exact trivial

end Robust

/-! ### What every step keeps -/

section Kept

variable {P : Store N → Prop} (kept : ∀ {s s' : Store N}, P s → Step s s' → P s')
include kept

theorem robust_of_kept : Robust (Always σ P) where
  chore holds _ chore := kept holds chore.step
  detach holds _ done := kept holds (.detach done)
  attach holds _ _ _ _ _ step _ _ := kept holds step
  matchFact holds _ _ done := kept holds (.matchFact done)
  release holds _ done := kept holds (.release done)
  deinstall holds _ done := kept holds (.deinstall done)

theorem upheld_of_kept : Upheld (Always σ P) := (robust_of_kept kept).upheld

/-- Every request upholds what every step keeps. -/
theorem Request.upheldFrom_of_kept (r : Request α) (start : Store N) :
    r.UpheldFrom start (Always σ P) := by
  refine (robust_of_kept kept).upheldFrom r start fun governs _ => ?_
  cases r with
  | clear => exact fun _ _ holds _ empty collected => kept holds (.renumber empty collected)
  | addPattern => exact fun _ _ _ _ _ holds _ done => kept holds (.addPattern done)
  | removePattern => exact fun _ _ _ holds _ done => kept holds (.removePattern done)
  | replayNewPatterns => exact fun _ _ _ _ _ holds _ done => kept holds (.replayNewPatterns done)
  | setAllowDuplicates allowed => exact fun _ s holds _ => kept holds (.allowDuplicates s allowed)
  | setProbe change => exact fun _ s holds _ => kept holds (.probe s (change s.probe))
  | _ => exact governs.elim

end Kept

end FactBase

import FactBase.Proofs.Store.Move

/-!
# What operations break off over

An operation that breaks off says over what. Breaches that concern atoms come from taking back
atoms, those that concern matches from the join network, and those that concern pins of queries from
queries; an operation that does none of it breaks off over none of them.
-/

namespace FactBase

/-- The breaches that an alpha memory notices. -/
def Breach.ofMatches : Breach → Bool
  | .matchUnknown _ _ | .matchForeign _ _ => true
  | _ => false

/-- The breaches that an atom table notices. -/
def Breach.ofAtoms : Breach → Bool
  | .atomNeverInstalled _ => true
  | _ => false

/-- The breaches that a query notices. -/
def Breach.ofQueries : Breach → Bool
  | .vanishedWhilePinning _ | .freedWhilePinned _ => true
  | _ => false

/-- The breaches that concern neither atoms nor matches nor queries. -/
def Breach.isPlain (b : Breach) : Bool := !b.ofMatches && !b.ofAtoms && !b.ofQueries

/-- If it breaks off, then over a breach of some kind. -/
def BreaksOver {α : Type} (K : Breach → Prop) (x : Except Breach α) : Prop :=
  ∀ b, x = .error b → K b

section BreaksOver

variable {α β : Type} {K : Breach → Prop}

theorem breaksOver_ok (a : α) : BreaksOver K (.ok a) := by
  intro b failed
  cases failed

theorem breaksOver_error {b : Breach} (holds : K b) : BreaksOver K (.error b : Except Breach α) := by
  intro b' failed
  rwa [← Except.error.inj failed]

theorem BreaksOver.bind {x : Except Breach α} {k : α → Except Breach β} (first : BreaksOver K x)
    (rest : ∀ a, x = .ok a → BreaksOver K (k a)) : BreaksOver K (x >>= k) := by
  cases x with
  | error b => exact breaksOver_error (first b rfl)
  | ok a => exact rest a rfl

theorem BreaksOver.map {x : Except Breach α} (breaks : BreaksOver K x) (f : α → β) :
    BreaksOver K (x.map f) := fun b failed => breaks b (map_eq_error.mp failed)

theorem breaksOver_foldlM {f : β → α → Except Breach β} (each : ∀ b a, BreaksOver K (f b a))
    (as : List α) (b : β) : BreaksOver K (as.foldlM f b) := by
  induction as generalizing b with
  | nil => exact breaksOver_ok b
  | cons a as ih =>
    rw [List.foldlM_cons]
    exact (each b a).bind fun b' _ => ih b'

end BreaksOver

variable {K : Breach → Prop}

theorem AtomTable.breaksOver_deinstall (atomic : ∀ b : Breach, b.ofAtoms = true → K b) (t : AtomTable)
    (v : Value) : BreaksOver K (t.deinstall v) := by
  refine breaksOver_foldlM (fun t a => ?_) _ t
  unfold deinstallAtom
  split
  · exact breaksOver_ok _
  · exact breaksOver_error (atomic _ rfl)

section Plain

variable (plain : ∀ b : Breach, b.isPlain = true → K b)
include plain

/-! ### Counts and lists -/

theorem TemplateRegistry.breaksOver_incrementBusy (r : TemplateRegistry) (id : TemplateId) :
    BreaksOver K (r.incrementBusy id) := by
  unfold incrementBusy
  split
  · exact breaksOver_ok _
  · exact breaksOver_error (plain _ rfl)

theorem TemplateRegistry.breaksOver_decrementBusy (r : TemplateRegistry) (id : TemplateId) :
    BreaksOver K (r.decrementBusy id) := by
  unfold decrementBusy
  split
  · exact breaksOver_error (plain _ rfl)
  · split
    · exact breaksOver_error (plain _ rfl)
    · exact breaksOver_ok _

namespace FactList

variable (l : FactList) (facts : Arena Fact) (thread : Thread)

theorem breaksOver_linksOf (h : Handle) : BreaksOver K (linksOf facts thread h) := by
  unfold linksOf
  split
  · exact breaksOver_ok _
  · exact breaksOver_error (plain _ rfl)

theorem breaksOver_relink (h : Handle) (change : Links → Links) :
    BreaksOver K (relink facts thread h change) :=
  (breaksOver_linksOf plain facts thread h).bind fun _ _ => breaksOver_ok _

theorem breaksOver_setNext (previous next : Option Handle) :
    BreaksOver K (l.setNext facts thread previous next) := by
  unfold setNext
  split
  · exact (breaksOver_relink plain facts thread _ _).map _
  · exact breaksOver_ok _

theorem breaksOver_setPrevious (previous next : Option Handle) :
    BreaksOver K (l.setPrevious facts thread previous next) := by
  unfold setPrevious
  split
  · exact (breaksOver_relink plain facts thread _ _).map _
  · exact breaksOver_ok _

theorem breaksOver_unlink (h : Handle) : BreaksOver K (l.unlink facts thread h) := by
  unfold unlink
  refine (breaksOver_linksOf plain facts thread h).bind fun _ _ => ?_
  refine (breaksOver_relink plain facts thread h _).bind fun _ _ => ?_
  refine (breaksOver_setNext plain l _ thread _ _).bind fun _ _ => ?_
  refine (breaksOver_setPrevious plain _ _ thread _ _).bind fun _ _ => ?_
  dsimp only
  split
  · exact breaksOver_error (plain _ rfl)
  · exact breaksOver_ok _

end FactList

namespace Store

variable {N : Type} (s : Store N) (h : Handle)

theorem breaksOver_unlink (t : TemplateId) : BreaksOver K (s.unlink t h) := by
  unfold unlink
  refine (FactList.breaksOver_unlink plain _ _ _ h).bind fun _ _ => ?_
  dsimp only
  split
  · exact breaksOver_error (plain _ rfl)
  · exact (FactList.breaksOver_unlink plain _ _ _ h).bind fun _ _ => breaksOver_ok _

/-! ### Facts that are not asserted -/

theorem breaksOver_createWith (t : TemplateId) (template : Template) (fields : List Field) :
    BreaksOver K (s.createWith t template fields) := by
  unfold createWith
  split
  · exact breaksOver_error (plain _ rfl)
  · exact (TemplateRegistry.breaksOver_incrementBusy plain _ t).bind fun _ _ => breaksOver_ok _

theorem breaksOver_createFact (name : String) : BreaksOver K (s.createFact name) := by
  unfold createFact
  split
  · exact breaksOver_ok _
  · exact (breaksOver_createWith plain _ _ _ _).bind fun _ _ => breaksOver_ok _

theorem breaksOver_createOrdered (relation : String) (values : List Value) :
    BreaksOver K (s.createOrdered relation values) := by
  unfold createOrdered
  split
  · exact breaksOver_ok _
  · dsimp only
    split
    · exact breaksOver_error (plain _ rfl)
    · exact (breaksOver_createWith plain _ _ _ _).bind fun _ _ => breaksOver_ok _

theorem breaksOver_release : BreaksOver K (s.release h) := by
  unfold release
  split
  · exact breaksOver_ok _
  · split
    · exact breaksOver_error (plain _ rfl)
    · exact breaksOver_ok _

theorem breaksOver_matchFact [JoinNetwork N] (mode : MatchMode) :
    BreaksOver K (s.matchFact h mode) := by
  unfold matchFact
  split
  · exact breaksOver_error (plain _ rfl)
  · split <;> exact breaksOver_ok _

/-! ### Taking back atoms -/

variable {s h}

/-- A fact goes that can give back what it claims. -/
theorem breaksOver_free (gives : ∀ f, s.get? h = some f → f.index ≠ 0 →
      BreaksOver K (f.values.foldlM AtomTable.deinstall s.atoms)) : BreaksOver K (s.free h) := by
  unfold free Arena.remove?
  cases found : s.facts.get? h with
  | none => exact breaksOver_error (plain _ rfl)
  | some f =>
    have counted (facts : Arena Fact) (atoms : AtomTable) : BreaksOver K (do
        let templates ← s.templates.decrementBusy f.templateId
        Except.ok { s with facts, atoms, templates }) :=
      (TemplateRegistry.breaksOver_decrementBusy plain _ _).bind fun _ _ => breaksOver_ok _
    dsimp only
    split
    · exact counted _ s.atoms
    · rename_i numbered
      exact (gives f found numbered).bind fun atoms _ => counted _ atoms

theorem breaksOver_discard (gives : ∀ f, s.get? h = some f → f.index ≠ 0 →
      BreaksOver K (f.values.foldlM AtomTable.deinstall s.atoms)) : BreaksOver K (s.discard h) := by
  unfold discard
  split
  · exact breaksOver_ok _
  · exact (breaksOver_free plain gives).bind fun _ _ => breaksOver_ok _

theorem breaksOver_deinstall (gives : ∀ f, s.get? h = some f →
      BreaksOver K (f.values.foldlM AtomTable.deinstall s.atoms)) : BreaksOver K (s.deinstall h) := by
  unfold deinstall
  split
  · exact breaksOver_ok _
  · rename_i f found
    split
    · exact breaksOver_error (plain _ rfl)
    · exact (gives f found).bind fun _ _ => breaksOver_ok _

section Collect

/-! Whatever makes sure that one fact can give back what it claims has to outlast the others that
go. -/

variable {P : Store N → Prop} (gives : ∀ {s h f}, P s → s.get? h = some f → f.index ≠ 0 →
    BreaksOver K (f.values.foldlM AtomTable.deinstall s.atoms))
  (freed : ∀ {s s' h}, P s → s.free h = .ok s' → P s')
  (listed : ∀ {s} garbage, P s → P { s with garbage })
include gives freed listed

theorem breaksOver_collectFrom (holds : P s) (hs : List Handle) :
    BreaksOver K (collectFrom hs s) := by
  induction hs generalizing s with
  | nil => exact breaksOver_ok _
  | cons h rest ih =>
    unfold collectFrom
    split
    · exact breaksOver_error (plain _ rfl)
    · split
      · refine (breaksOver_free plain fun f => gives holds).bind fun u done => ?_
        exact (ih (freed holds done)).bind fun _ _ => breaksOver_ok _
      · exact ih (listed _ holds)

theorem breaksOver_collectGarbage (holds : P s) : BreaksOver K s.collectGarbage := by
  unfold collectGarbage
  split
  · exact breaksOver_ok _
  · exact (breaksOver_collectFrom plain gives freed listed (listed [] holds) _).bind
      fun _ _ => breaksOver_ok _

theorem breaksOver_maybeCollect (holds : P s) : BreaksOver K s.maybeCollect := by
  unfold maybeCollect
  split
  · exact (breaksOver_collectGarbage plain gives freed listed holds).map _
  · exact breaksOver_ok _

end Collect

/-! ### Taking back matches -/

section Matches

variable [JoinNetwork N]
  (taken : ∀ h ids (network : N), BreaksOver K (JoinNetwork.retract h ids network))
include taken

omit plain in
theorem breaksOver_retractMatches (ids : List MatchId) (report : EvalError → Notice) :
    BreaksOver K (s.retractMatches h ids report) := by
  unfold retractMatches
  split
  · exact breaksOver_ok _
  · refine (taken h ids s.network).bind fun _ _ => ?_
    dsimp only
    split <;> exact breaksOver_ok _

theorem breaksOver_detach : BreaksOver K (s.detach h) := by
  unfold detach
  split
  · exact breaksOver_error (plain _ rfl)
  · rename_i f _
    dsimp only
    split
    · exact breaksOver_error (plain _ rfl)
    · refine (breaksOver_unlink plain _ h f.templateId).bind fun _ _ => ?_
      split
      · exact breaksOver_error (plain _ rfl)
      · exact (breaksOver_retractMatches taken _ _).bind fun _ _ => breaksOver_ok _

theorem breaksOver_replayFacts (t : TemplateId) (hs : List Handle) :
    BreaksOver K (replayFacts t hs s) := by
  induction hs generalizing s with
  | nil => exact breaksOver_ok _
  | cons h rest ih =>
    unfold replayFacts
    split
    · exact ih
    · refine (breaksOver_matchFact plain s h .replay).bind fun _ _ => ?_
      dsimp only
      split
      · refine BreaksOver.bind ?_ fun _ _ => breaksOver_ok _
        exact (breaksOver_retractMatches taken _ _).bind fun _ _ => breaksOver_ok _
      · exact ih.bind fun _ _ => breaksOver_ok _

theorem breaksOver_replay (t : TemplateId) : BreaksOver K (s.replay t) :=
  (breaksOver_replayFacts plain taken t _).bind fun _ _ => breaksOver_ok _

theorem breaksOver_addPattern (p : Pattern) (label : String) :
    BreaksOver K (s.addPattern p label) := by
  unfold addPattern
  split
  · exact breaksOver_ok _
  · split
    · exact breaksOver_ok _
    · dsimp only
      split
      · exact (breaksOver_replay plain taken p.template).bind fun _ _ => breaksOver_ok _
      · exact breaksOver_ok _

theorem breaksOver_replayAll (ts : List TemplateId) : BreaksOver K (replayAll ts s) := by
  induction ts generalizing s with
  | nil => exact breaksOver_ok _
  | cons t rest ih =>
    exact (breaksOver_replay plain taken t).bind fun _ _ => ih.bind fun _ _ => breaksOver_ok _

end Matches

end Store

end Plain

end FactBase

import FactBase.Proofs.Store.Quiet
import FactBase.Builder
import FactBase.Modifier

/-!
# Steps that test nothing

Most steps neither put facts to tests nor look at the record of tests that failed. They do the same
of a fact base with other tests and another record, and leave both as they are.
-/

namespace FactBase

/-- How tests are decided, and what is on record of their failures. -/
structure Testing where
  probe : Probe
  failed : Bool
  errors : Nat

namespace Store

variable {N ε α β : Type} {t : Testing}

def testing (s : Store N) : Testing := ⟨s.probe, s.evaluationError, s.counters.evaluationErrors⟩

/-- The fact base with other tests and another record of failures. -/
def under (s : Store N) (t : Testing) : Store N :=
  { s with
    probe := t.probe
    evaluationError := t.failed
    counters := { s.counters with evaluationErrors := t.errors } }

/-- What a step comes to with other tests and another record. -/
def passing (t : Testing) (x : Except ε (α × Store N)) : Except ε (α × Store N) :=
  x.map fun y => (y.1, y.2.under t)

/-- Takes two results of a step together. -/
def paired (x : Except ε (α × β × Store N)) : Except ε ((α × β) × Store N) :=
  x.map fun y => ((y.1, y.2.1), y.2.2)

/-- A step that neither tests anything nor looks at the record of failures. -/
def Untested (f : Store N → Except ε (α × Store N)) : Prop :=
  ∀ s t, f (s.under t) = passing t (f s)

/-- The same of a step without a result. -/
def UntestedChange (f : Store N → Except ε (Store N)) : Prop :=
  ∀ s t, f (s.under t) = (f s).map (·.under t)

theorem UntestedChange.untested {f : Store N → Except ε (Store N)} (untested : UntestedChange f) :
    Untested fun s => (f s).map ((), ·) := by
  intro s t
  dsimp only
  rw [untested]
  cases f s <;> rfl

theorem passing_bind {x x' : Except ε (α × Store N)}
    {k k' : α × Store N → Except ε (β × Store N)} (first : x' = passing t x)
    (rest : ∀ a s, k' (a, s.under t) = passing t (k (a, s))) :
    (x' >>= k') = passing t (x >>= k) := by
  rw [first]
  cases x with
  | error e => rfl
  | ok y => exact rest y.1 y.2

theorem map_bind {x x' : Except ε (Store N)} {k k' : Store N → Except ε (β × Store N)}
    (first : x' = x.map (·.under t)) (rest : ∀ s, k' (s.under t) = passing t (k s)) :
    (x' >>= k') = passing t (x >>= k) := by
  rw [first]
  cases x with
  | error e => rfl
  | ok s => exact rest s

/-! ### Making facts -/

theorem untested_createWith (i : TemplateId) (template : Template) (fields : List Field) :
    Untested (N := N) (·.createWith i template fields) := by
  intro s t
  dsimp only [createWith, under]
  split
  · rfl
  · cases s.templates.incrementBusy i <;> rfl

theorem under_drawDefault (s : Store N) (t : Testing) (i : TemplateId) (position : Nat) :
    (s.under t).drawDefault i position =
      ((s.drawDefault i position).1, (s.drawDefault i position).2.under t) := by
  unfold drawDefault
  rw [show (s.under t).templates = s.templates from rfl, show (s.under t).draws = s.draws from rfl]
  split
  · rfl
  · dsimp only
    split <;> rfl

theorem under_defaultField (s : Store N) (t : Testing) (i : TemplateId) (slot : Slot)
    (position : Nat) : (s.under t).defaultField i slot position =
      ((s.defaultField i slot position).1, (s.defaultField i slot position).2.under t) := by
  unfold defaultField
  rw [under_drawDefault]

theorem under_defaultFields (s : Store N) (t : Testing) (i : TemplateId)
    (slots : List (Slot × Nat)) : (s.under t).defaultFields i slots =
      ((s.defaultFields i slots).1, (s.defaultFields i slots).2.under t) := by
  induction slots generalizing s with
  | nil => rfl
  | cons x rest ih =>
    simp only [defaultFields, under_defaultField, ih]

theorem untested_createFact (name : String) : Untested (N := N) (·.createFact name) := by
  intro s t
  dsimp only [createFact]
  rw [show (s.under t).templates = s.templates from rfl]
  split
  · rfl
  · rw [under_defaultFields]
    exact passing_bind (untested_createWith _ _ _ _ t) fun _ _ => rfl

theorem untested_createOrdered (relation : String) (values : List Value) :
    Untested (N := N) (·.createOrdered relation values) := by
  intro s t
  dsimp only [createOrdered]
  rw [show (s.under t).templates = s.templates from rfl]
  split
  · rfl
  · rename_i templates _
    split
    · rfl
    · exact passing_bind (untested_createWith _ _ _ { s with templates } t) fun _ _ => rfl

/-! ### Filling slots -/

theorem untested_putSlotAt (h : Handle) (position : Nat) (v : Value) :
    UntestedChange (N := N) (·.putSlotAt h position v) := by
  intro s t
  dsimp only [putSlotAt]
  rw [show (s.under t).unattached h = s.unattached h from rfl]
  cases s.unattached h with
  | error e => rfl
  | ok f =>
    dsimp only [bind, Except.bind]
    split
    · rfl
    · split <;> rfl

theorem untested_putSlot (h : Handle) (slot : String) (v : Value) :
    UntestedChange (N := N) (·.putSlot h slot v) := by
  intro s t
  dsimp only [putSlot]
  rw [show (s.under t).unattached h = s.unattached h from rfl]
  cases s.unattached h with
  | error e => rfl
  | ok f =>
    dsimp only [bind, Except.bind]
    split
    · rfl
    · exact untested_putSlotAt h _ v s t

/-! ### Freeing facts -/

theorem untested_free (h : Handle) : UntestedChange (N := N) (·.free h) := by
  intro s t
  dsimp only [free, under]
  split
  · rfl
  · rename_i f facts _
    split
    · cases s.templates.decrementBusy f.templateId <;> rfl
    · cases f.values.foldlM AtomTable.deinstall s.atoms with
      | error e => rfl
      | ok atoms => cases s.templates.decrementBusy f.templateId <;> rfl

theorem untested_discard (h : Handle) : Untested (N := N) (·.discard h) := by
  intro s t
  dsimp only [discard]
  rw [show (s.under t).unattached h = s.unattached h from rfl]
  split
  · rfl
  · exact map_bind (untested_free h s t) fun _ => rfl

theorem untested_collectFrom (hs : List Handle) : Untested (N := N) (collectFrom hs) := by
  induction hs with
  | nil => exact fun _ _ => rfl
  | cons h rest ih =>
    intro s t
    unfold collectFrom
    rw [show (s.under t).get? h = s.get? h from rfl]
    split
    · rfl
    · split
      · exact map_bind (untested_free h s t) fun s => passing_bind (ih s t) fun _ _ => rfl
      · exact ih { s with garbage := s.garbage ++ [h] } t

theorem untested_collectGarbage : Untested (N := N) (·.collectGarbage) := by
  intro s t
  dsimp only [collectGarbage]
  rw [show (s.under t).guarded = s.guarded from rfl]
  split
  · rfl
  · exact passing_bind (untested_collectFrom s.garbage { s with garbage := [] } t) fun _ _ => rfl

theorem untested_maybeCollect : UntestedChange (N := N) (·.maybeCollect) := by
  intro s t
  dsimp only [maybeCollect]
  rw [show (s.under t).config = s.config from rfl, show (s.under t).garbage = s.garbage from rfl]
  split
  · have same : (s.under t).collectGarbage = passing t s.collectGarbage :=
      untested_collectGarbage s t
    rw [same]
    cases s.collectGarbage <;> rfl
  · rfl

/-! ### Pins -/

theorem untested_retain (h : Handle) : UntestedChange (N := N) (·.retain h) := by
  intro s t
  dsimp only [retain]
  rw [show (s.under t).get? h = s.get? h from rfl]
  split <;> rfl

theorem untested_release (h : Handle) : Untested (N := N) (·.release h) := by
  intro s t
  dsimp only [release]
  rw [show (s.under t).get? h = s.get? h from rfl]
  split
  · rfl
  · split <;> rfl

theorem under_installFields (s : Store N) (t : Testing) (h : Handle) :
    (s.under t).installFields h = (s.installFields h).under t := by
  unfold installFields
  rw [show (s.under t).get? h = s.get? h from rfl]
  split <;> rfl

theorem untested_install (h : Handle) : UntestedChange (N := N) (·.install h) := by
  intro s t
  dsimp only [install]
  have same : (s.under t).retain h = (s.retain h).map (·.under t) := untested_retain h s t
  rw [same]
  cases s.retain h with
  | error e => rfl
  | ok u => exact congrArg Except.ok (under_installFields u t h)

theorem untested_deinstall (h : Handle) : Untested (N := N) (·.deinstall h) := by
  intro s t
  dsimp only [deinstall]
  rw [show (s.under t).get? h = s.get? h from rfl, show (s.under t).atoms = s.atoms from rfl]
  split
  · rfl
  · rename_i f _
    split
    · rfl
    · cases f.values.foldlM AtomTable.deinstall s.atoms <;> rfl

/-! ### Attaching and detaching -/

theorem untested_link (i : TemplateId) (h : Handle) (previous templatePrevious : Option Handle) :
    UntestedChange (N := N) (·.link i h previous templatePrevious) := by
  intro s t
  dsimp only [link]
  rw [show (s.under t).global = s.global from rfl, show (s.under t).facts = s.facts from rfl,
    show (s.under t).listOf i = s.listOf i from rfl]
  cases s.global.linkAfter s.facts .global previous h with
  | error e => rfl
  | ok linked =>
    obtain ⟨global, facts⟩ := linked
    dsimp only [bind, Except.bind]
    cases (s.listOf i).linkAfter facts .inTemplate templatePrevious h <;> rfl

/-- What follows once a fact is numbered. -/
theorem untested_linkIndexed (i : TemplateId) (h : Handle) (hash : UInt64)
    (previous templatePrevious : Option Handle) (index : Nat) : Untested fun s : Store N =>
      ({ s with index := s.index.insert hash h }).link i h previous templatePrevious >>=
        fun s => .ok (index, s) :=
  fun s t => map_bind
    (untested_link i h previous templatePrevious { s with index := s.index.insert hash h } t)
    fun _ => rfl

theorem untested_attach (h : Handle) (reuse : Option Nat) (hash : UInt64)
    (previous templatePrevious : Option Handle) :
    Untested (N := N) (·.attach h reuse hash previous templatePrevious) := by
  intro s t
  dsimp only [attach]
  rw [show (s.under t).get? h = s.get? h from rfl]
  split
  · rfl
  · rename_i f _
    have numbered (index nextIndex : Nat) := untested_linkIndexed f.templateId h hash previous
      templatePrevious index (installFields { s with
        nextIndex
        facts := s.facts.update h fun f => { f with index, hash, busy := f.busy + 1 } } h) t
    cases reuse with
    | none =>
      have same := numbered s.nextIndex (s.nextIndex + 1)
      rw [← under_installFields] at same
      exact same
    | some index =>
      dsimp only
      split
      · have same := numbered index s.nextIndex
        rw [← under_installFields] at same
        exact same
      · rfl

theorem untested_unlink (i : TemplateId) (h : Handle) :
    Untested fun s : Store N => paired (s.unlink i h) := by
  intro s t
  dsimp only [unlink]
  rw [show (s.under t).global = s.global from rfl, show (s.under t).facts = s.facts from rfl,
    show (s.under t).templateLists = s.templateLists from rfl]
  cases s.global.unlink s.facts .global h with
  | error e => rfl
  | ok unlinked =>
    obtain ⟨previous, global, facts⟩ := unlinked
    dsimp only [bind, Except.bind]
    split
    · rfl
    · rename_i l _
      cases l.unlink facts .inTemplate h <;> rfl

theorem untested_removePattern (id : EntryId) : UntestedChange (N := N) (·.removePattern id) := by
  intro s t
  dsimp only [removePattern]
  rw [show (s.under t).patterns = s.patterns from rfl]
  split <;> rfl

/-! ### Templates -/

theorem untested_defineTemplate (template : Template) :
    Untested (N := N) (·.defineTemplate template) := by
  intro s t
  dsimp only [defineTemplate]
  rw [show (s.under t).templates = s.templates from rfl]
  split <;> rfl

theorem untested_undefineTemplate (name : String) :
    UntestedChange (N := N) (·.undefineTemplate name) := by
  intro s t
  dsimp only [undefineTemplate]
  rw [show (s.under t).templates = s.templates from rfl,
    show (s.under t).templateShares = s.templateShares from rfl]
  split <;> rfl

end Store

/-! ### Builders and modifiers -/

open Store

theorem Builder.untested_make (name : String) : Untested (N := N) (Builder.make name) := by
  intro s t
  unfold make
  rw [show (s.under t).templates = s.templates from rfl]
  split
  · rfl
  · split <;> rfl

theorem Builder.under_fields (b : Builder) (s : Store N) (t : Testing)
    (slots : List ((Slot × Option Value) × Nat)) : b.fields slots (s.under t) =
      ((b.fields slots s).1, (b.fields slots s).2.under t) := by
  induction slots generalizing s with
  | nil => rfl
  | cons x rest ih =>
    obtain ⟨⟨slot, _ | v⟩, position⟩ := x
    · unfold fields
      rw [under_defaultField]
      obtain ⟨field, u⟩ := s.defaultField b.templateId slot position
      cases field with
      | none => rfl
      | some field =>
        dsimp only
        rw [ih]
    · unfold fields
      rw [ih]

theorem Modifier.untested_make (h : Handle) : Untested (N := N) (Modifier.make h) := by
  intro s t
  unfold make
  rw [show (s.under t).asserted h = s.asserted h from rfl]
  cases s.asserted h with
  | error e => rfl
  | ok f =>
    have same : (s.under t).retain h = (s.retain h).map (·.under t) := untested_retain h s t
    dsimp only [bind, Except.bind]
    rw [same]
    split
    · rfl
    · cases s.retain h <;> rfl

end FactBase

import FactBase.Proofs.Store.Schematic

/-!
# Filling facts

Where no default has a producer, it makes no difference to a fact whether it is made of defaults and
then written to, slot by slot, or the values are collected by a builder first and the fact is made of
what is set and of defaults for the rest.
-/

namespace FactBase

/-- To store a changed value is to store the value and to change it. -/
theorem Arena.insert_update {α : Type} {a b : Arena α} {x : α} {h : Handle} (tidy : a.Tidy)
    (new : a.insert x = (h, b)) (f : α → α) : a.insert (f x) = (h, b.update h f) := by
  obtain ⟨-, -, names⟩ := insert_spec tidy new
  have found : b.get? h = some x := by rw [names, if_pos rfl]
  rw [update_of_some found]
  unfold insert at new ⊢
  split at new
  · obtain ⟨rfl, rfl⟩ := Prod.mk.inj new
    simp
  · obtain ⟨rfl, rfl⟩ := Prod.mk.inj new
    have pushed : (a.slots.push ⟨0, some x⟩).setIfInBounds a.slots.size ⟨0, some (f x)⟩ =
        a.slots.push ⟨0, some (f x)⟩ := by grind
    simp [pushed]

namespace Slot

/-- The field of a slot that nobody has set, where no producer is asked for it. -/
def settled (slot : Slot) : Field :=
  ((slot.defaultValue? 0).map fun v =>
    (⟨v, if slot.lendsDefault then .default else .own⟩ : Field)).getD ⟨slot.blank, .own⟩

end Slot

namespace Store

variable {N : Type} {s s' : Store N} {h : Handle} {id : TemplateId} {t : Template} {slot : Slot}
  {position : Nat}

/-- Without a producer, a default costs nothing and is always the same. -/
theorem defaultField_settled (known : s.templates.get? id = some t)
    (found : t.slot? position = some slot) (static : slot.hasProducer = false) :
    s.defaultField id slot position = ((slot.defaultValue? 0).map fun v =>
      ⟨v, if slot.lendsDefault then .default else .own⟩, s) := by
  have drawn : s.drawDefault id position = (slot.defaultValue? 0, s) := by
    unfold drawDefault
    rw [known, Option.bind_some, found]
    dsimp only
    rw [static, Slot.defaultValue?_of_hasProducer static _ 0]
    rfl
  rw [defaultField_eq, drawn]

theorem defaultFields_settled (known : s.templates.get? id = some t) {slots : List (Slot × Nat)}
    (own : ∀ x ∈ slots, t.slot? x.2 = some x.1) (static : ∀ x ∈ slots, x.1.hasProducer = false) :
    s.defaultFields id slots = (slots.map (·.1.settled), s) := by
  induction slots with
  | nil => rfl
  | cons x rest ih =>
    obtain ⟨found, own⟩ := List.forall_mem_cons.mp own
    obtain ⟨first, static⟩ := List.forall_mem_cons.mp static
    unfold defaultFields
    rw [defaultField_settled known found first]
    dsimp only
    rw [ih own static]
    rfl

/-- Without producers, a fact of defaults leaves no trace in what defaults are made from. -/
theorem defaultFields_static (known : s.templates.get? id = some t)
    (static : ∀ slot ∈ t.slots, slot.hasProducer = false) :
    s.defaultFields id t.slots.zipIdx = (t.slots.map Slot.settled, s) := by
  have own (x : Slot × Nat) (inside : x ∈ t.slots.zipIdx) : t.slot? x.2 = some x.1 :=
    List.mem_zipIdx_iff_getElem?.mp inside
  rw [defaultFields_settled known own fun x inside =>
    static x.1 (List.fst_mem_of_mem_zipIdx inside)]
  have plain : t.slots.zipIdx.map (Slot.settled ∘ Prod.fst) = t.slots.map Slot.settled := by
    rw [← List.map_map, List.zipIdx_map_fst]
  exact congrArg (·, s) plain

/-! ### Making a fact and writing to it -/

/-- Gives a fact other fields. -/
def refield (s : Store N) (h : Handle) (fields : List Field) : Store N :=
  { s with facts := s.facts.update h fun f => { f with fields } }

/-- A fact of other fields is the fact given other fields. -/
theorem createWith_refield (tidy : s.facts.Tidy) {fields fields' : List Field}
    (done : s.createWith id t fields = .ok (h, s')) (fits : fields'.length = fields.length) :
    s.createWith id t fields' = .ok (h, s'.refield h fields') := by
  have arity := createWith_arity done
  obtain ⟨templates, facts, counted, inserted, rfl⟩ := createWith_eq_ok done
  have changed := Arena.insert_update tidy inserted fun f => { f with fields := fields' }
  unfold createWith
  rw [fits, if_neg (not_not.mpr arity), counted]
  dsimp only [bind, Except.bind]
  rw [changed]
  rfl

/-- A fact of changed fields is that of the fields with one of them written. -/
theorem createWith_set (tidy : s.facts.Tidy) {fields : List Field}
    (done : s.createWith id t fields = .ok (h, s')) (position : Nat) (field : Field) :
    s.createWith id t (fields.set position field) = .ok (h, s'.setField h position field) := by
  rw [createWith_refield tidy done List.length_set]
  obtain ⟨templates, facts, -, inserted, rfl⟩ := createWith_eq_ok done
  obtain ⟨-, -, names⟩ := Arena.insert_spec tidy inserted
  have same : facts.update h (fun f => { f with fields := fields.set position field }) =
      facts.update h fun f => { f with fields := f.fields.set position field } := by
    refine Arena.update_congr fun f found => ?_
    rw [names, if_pos rfl] at found
    obtain rfl := Option.some.inj found
    rfl
  dsimp only [refield, setField]
  rw [same]

theorem putSlot_created (tidy : s.facts.Tidy) {fields : List Field}
    (done : s.createWith id t fields = .ok (h, s')) {name : String} {v : Value}
    (named : t.slotPosition? name = some position) (found : t.slot? position = some slot)
    (passes : slot.check v = .ok ()) : s'.putSlot h name v = .ok (s'.setField h position ⟨v, .own⟩) := by
  obtain ⟨templates, facts, -, inserted, rfl⟩ := createWith_eq_ok done
  obtain ⟨-, -, names⟩ := Arena.insert_spec tidy inserted
  have stored : Store.unattached { s with templates, facts } h =
      .ok { template := t, templateId := id, fields } := by
    unfold unattached
    rw [show Store.get? { s with templates, facts } h = _ from (names h).trans (if_pos rfl)]
    rfl
  unfold putSlot putSlotAt
  rw [stored]
  dsimp only [bind, Except.bind]
  rw [named]
  dsimp only
  rw [found]
  dsimp only
  rw [passes]

/-- Writes slots one after the other. -/
def putSlots (s : Store N) (h : Handle) (writes : List (String × Value)) :
    Except StoreError (Store N) :=
  writes.foldlM (fun s x => s.putSlot h x.1 x.2) s

end Store

/-! ### Builders -/

namespace Builder

variable {N : Type} {s s' : Store N} {b b' : Builder} {h : Handle}

/-- Sets slots one after the other. -/
def putSlots (b : Builder) (writes : List (String × Value)) : Except BuilderError Builder :=
  writes.foldlM (fun b x => b.putSlot x.1 x.2) b

/-- The slots that have to be set before a fact can be made. -/
def missing (b : Builder) : List Slot :=
  ((b.template.slots.zip b.staged).filter fun x => x.2.isNone && x.1.isRequired).map (·.1)

/-- Whether no slot has a default that is produced anew each time. -/
def isStatic (b : Builder) : Bool := b.template.slots.all fun slot => !slot.hasProducer

/-- The fields as they are set, with defaults for the rest. -/
def filled (b : Builder) : List Field :=
  (b.template.slots.zip b.staged).map fun x => x.2.elim x.1.settled (Field.mk · .own)

theorem Drafts.length_staged (drafts : b.Drafts s) :
    b.staged.length = b.template.slots.length := by
  induction drafts with
  | made done =>
    obtain ⟨e, -, rfl, -⟩ := Store.makeBuilder_eq_ok done
    exact List.length_map _
  | set _ done ih =>
    obtain ⟨position, slot, -, -, -, rfl⟩ := putSlot_eq_ok done
    exact (List.length_set).trans ih
  | reset _ ih => exact (List.length_map _).trans ih

theorem filled_reset (whole : b.staged.length = b.template.slots.length) :
    b.reset.filled = b.template.slots.map Slot.settled := by
  rw [filled, reset]
  refine List.ext_getElem? fun position => ?_
  grind

/-- What is set takes the place of what was there before. -/
theorem filled_set (b : Builder) (position : Nat) (v : Value) :
    ({ b with staged := b.staged.set position (some v) } : Builder).filled =
      b.filled.set position ⟨v, .own⟩ := by
  rw [filled, filled]
  refine List.ext_getElem? fun position => ?_
  grind

/-- A fact of what is set so far, with defaults for the rest, takes what is set next. -/
theorem putSlots_created (tidy : s.facts.Tidy) {writes : List (String × Value)}
    (staged : b.putSlots writes = .ok b')
    (made : s.createWith b.templateId b.template b.filled = .ok (h, s')) :
    ∃ u, s'.putSlots h writes = .ok u ∧
      s.createWith b.templateId b.template b'.filled = .ok (h, u) := by
  induction writes generalizing b s' with
  | nil =>
    obtain rfl := Except.ok.inj staged
    exact ⟨s', rfl, made⟩
  | cons write rest ih =>
    obtain ⟨next, set, staged⟩ := bind_eq_ok.mp staged
    obtain ⟨position, slot, named, found, passes, rfl⟩ := putSlot_eq_ok set
    have written := Store.createWith_set tidy made position ⟨write.2, .own⟩
    rw [← filled_set] at written
    obtain ⟨u, others, made'⟩ := ih staged written
    refine ⟨u, ?_, made'⟩
    exact bind_eq_ok.mpr ⟨_, Store.putSlot_created tidy made named found passes, others⟩

/-! ### What a commit makes of a builder -/

/-- What is neither set nor produced is filled by a default that is always the same. -/
theorem fields_settled (known : s.templates.get? b.templateId = some b.template)
    {slots : List ((Slot × Option Value) × Nat)}
    (own : ∀ x ∈ slots, b.template.slot? x.2 = some x.1.1)
    (static : ∀ x ∈ slots, x.1.1.hasProducer = false)
    (set : ∀ x ∈ slots, (x.1.2.isNone && x.1.1.isRequired) = false) :
    b.fields slots s =
      (.ok (slots.map fun x => x.1.2.elim x.1.1.settled (Field.mk · .own)), s) := by
  induction slots with
  | nil => rfl
  | cons x rest ih =>
    obtain ⟨found, others⟩ := List.forall_mem_cons.mp own
    obtain ⟨unproduced, static⟩ := List.forall_mem_cons.mp static
    obtain ⟨given, set⟩ := List.forall_mem_cons.mp set
    specialize ih others static set
    obtain ⟨⟨slot, staged⟩, position⟩ := x
    unfold fields
    cases staged with
    | some v =>
      dsimp only
      rw [ih]
      rfl
    | none =>
      obtain ⟨v, default⟩ : ∃ v, slot.defaultValue? 0 = some v := by
        rw [Option.isNone_none, Bool.true_and, Slot.isRequired, Option.isNone_eq_false_iff] at given
        exact Option.isSome_iff_exists.mp given
      dsimp only
      rw [Store.defaultField_settled known found unproduced, default, Option.map_some]
      dsimp only
      rw [ih, List.map_cons, Option.elim_none, Slot.settled, default]
      rfl

/-- Without producers, a builder leaves no trace until it is complete. -/
theorem fields_static (known : s.templates.get? b.templateId = some b.template)
    {slots : List ((Slot × Option Value) × Nat)}
    (own : ∀ x ∈ slots, b.template.slot? x.2 = some x.1.1)
    (static : ∀ x ∈ slots, x.1.1.hasProducer = false) : (b.fields slots s).2 = s := by
  induction slots with
  | nil => rfl
  | cons x rest ih =>
    obtain ⟨found, others⟩ := List.forall_mem_cons.mp own
    obtain ⟨unproduced, static⟩ := List.forall_mem_cons.mp static
    specialize ih others static
    obtain ⟨⟨slot, staged⟩, position⟩ := x
    unfold fields
    cases staged with
    | some v => exact ih
    | none =>
      dsimp only
      rw [Store.defaultField_settled known found unproduced]
      cases slot.defaultValue? 0 with
      | none => rfl
      | some v => exact ih

/-- The first slot that has to be set and is not is what a builder complains of. -/
theorem fields_missing (known : s.templates.get? b.templateId = some b.template)
    {slots : List ((Slot × Option Value) × Nat)}
    (own : ∀ x ∈ slots, b.template.slot? x.2 = some x.1.1) {x : (Slot × Option Value) × Nat}
    (missing : slots.find? (fun x => x.1.2.isNone && x.1.1.isRequired) = some x) :
    (b.fields slots s).1 = .error (.slotRequired b.template.name x.1.1.name) := by
  induction slots generalizing s with
  | nil => cases missing
  | cons y rest ih =>
    obtain ⟨found, others⟩ := List.forall_mem_cons.mp own
    obtain ⟨⟨slot, staged⟩, position⟩ := y
    unfold fields
    cases staged with
    | some v =>
      rw [List.find?_cons_of_neg (by simp)] at missing
      dsimp only
      rw [ih known others missing]
      rfl
    | none =>
      obtain ⟨drawn, value⟩ := Store.drawDefault_fst known position
      obtain ⟨draws, asked⟩ := Store.drawDefault_eq s b.templateId position
      rw [found, Option.bind_some] at value
      dsimp only
      rw [Store.defaultField_eq, value, asked]
      cases default : slot.defaultValue? drawn with
      | none =>
        have required := Slot.defaultValue?_eq_none.mp default
        rw [List.find?_cons_of_pos (by simpa using required)] at missing
        obtain rfl := Option.some.inj missing
        rfl
      | some v =>
        have optional : slot.isRequired = false := by
          rw [← Bool.not_eq_true, ← @Slot.defaultValue?_eq_none slot drawn, default]
          exact Option.some_ne_none v
        rw [List.find?_cons_of_neg (by simp [optional])] at missing
        rw [Option.map_some]
        dsimp only
        rw [ih (s := { s with draws }) known others missing]
        rfl

/-- Each slot is asked for the default in its own place. -/
theorem own_slot (b : Builder) : ∀ x ∈ (b.template.slots.zip b.staged).zipIdx,
    b.template.slot? x.2 = some x.1.1 := fun _ inside =>
  (List.getElem?_zip_eq_some.mp (List.mem_zipIdx_iff_getElem?.mp inside)).1

theorem hasProducer_of_isStatic (static : b.isStatic = true) :
    ∀ x ∈ (b.template.slots.zip b.staged).zipIdx, x.1.1.hasProducer = false := fun x inside => by
  have listed := List.mem_of_getElem? (own_slot b x inside)
  simpa using List.all_eq_true.mp static x.1.1 listed

theorem fields_complete (known : s.templates.get? b.templateId = some b.template)
    (static : b.isStatic = true) (complete : b.missing = []) :
    b.fields (b.template.slots.zip b.staged).zipIdx s = (.ok b.filled, s) := by
  have set := List.filter_eq_nil_iff.mp (List.map_eq_nil_iff.mp complete)
  rw [fields_settled known (own_slot b) (hasProducer_of_isStatic static) fun x inside =>
    Bool.eq_false_iff.mpr (set x.1 (List.fst_mem_of_mem_zipIdx inside))]
  let field (x : Slot × Option Value) : Field := x.2.elim x.1.settled (Field.mk · .own)
  have plain : (b.template.slots.zip b.staged).zipIdx.map (field ∘ Prod.fst) = b.filled := by
    rw [← List.map_map, List.zipIdx_map_fst]
    rfl
  exact congrArg (fun fields => (Except.ok fields, s)) plain

theorem fields_incomplete (known : s.templates.get? b.templateId = some b.template) {slot : Slot}
    (missing : b.missing.head? = some slot) : ∃ draws,
      b.fields (b.template.slots.zip b.staged).zipIdx s =
        (.error (.slotRequired b.template.name slot.name), { s with draws }) ∧
      (b.isStatic = true → draws = s.draws) := by
  rw [Builder.missing, List.head?_map, List.head?_filter,
    ← List.zipIdx_map_fst 0 (b.template.slots.zip b.staged), List.find?_map, Option.map_map,
    Option.map_eq_some_iff] at missing
  obtain ⟨x, first, rfl⟩ := missing
  obtain ⟨draws, rest⟩ := Store.builderFields_eq b (b.template.slots.zip b.staged).zipIdx s
  refine ⟨draws, Prod.ext (fields_missing known (own_slot b) first) rest, fun static => ?_⟩
  rw [fields_static known (own_slot b) (hasProducer_of_isStatic static)] at rest
  exact congrArg Store.draws rest.symm

end Builder

end FactBase

import FactBase.Proofs.Store.Contents
import FactBase.Proofs.Store.Exchange
import FactBase.Proofs.Store.Templates

/-!
# Facts that go by their templates

Whoever makes a fact or writes one of its slots has each value checked by the slot it is for, except
that a slot without a default is left blank when a fact is made of defaults, and when such a fact is
copied. So as long as no default fails the check of its own slot, a fact holds in each slot a value
that the slot takes, or the slot waits to be set.
-/

namespace FactBase

/-! ### Slots -/

/-- What decides which values a slot takes and what it holds while it is blank. -/
structure SlotTraits where
  isMulti : Bool
  constraints : Constraints
  isRequired : Bool
deriving DecidableEq

namespace Slot

variable {slot slot' : Slot} {v : Value}

/-- Whether the slot has no default. -/
def isRequired (slot : Slot) : Bool := (slot.defaultValue? 0).isNone

def traits (slot : Slot) : SlotTraits := ⟨slot.isMulti, slot.constraints, slot.isRequired⟩

/-- Whenever the slot yields a default, it is a value that the slot takes. -/
def Yields (slot : Slot) : Prop :=
  ∀ draws v, slot.defaultValue? draws = some v → slot.check v = .ok ()

theorem defaultValue?_eq_none {draws : Nat} :
    slot.defaultValue? draws = none ↔ slot.isRequired = true := by
  rw [isRequired, Option.isNone_iff_eq_none]
  unfold defaultValue?
  cases slot.default with
  | derived => cases slot.isMulti <;> simp
  | _ => simp

/-- The name of a slot only matters for what is said of a value that the slot does not take. -/
theorem checkField_ok_rename {c : Constraints} {name : String} (name' : String)
    (passes : c.checkField name v = .ok ()) : c.checkField name' v = .ok () := by
  unfold Constraints.checkField at passes ⊢
  split at passes
  · cases passes
  · rename_i typed
    rw [if_neg typed]
    split at passes
    · cases passes
    · rename_i allowed
      rw [if_neg allowed]
      split at passes
      · rfl
      · split at passes
        · cases passes
        · rename_i ranged
          exact if_neg ranged

theorem checkFields_ok_rename {c : Constraints} {name : String} (name' : String) {vs : List Value}
    (passes : c.checkFields name vs = .ok ()) : c.checkFields name' vs = .ok () := by
  induction vs with
  | nil => rfl
  | cons v rest ih =>
    unfold Constraints.checkFields at passes ⊢
    split at passes
    · cases passes
    · rename_i first
      rw [checkField_ok_rename name' first]
      exact ih passes

/-- Slots of the same traits take the same values. -/
theorem check_of_traits (same : slot'.traits = slot.traits) (passes : slot.check v = .ok ()) :
    slot'.check v = .ok () := by
  obtain ⟨multi, constraints, -⟩ := SlotTraits.mk.inj same
  unfold check at passes ⊢
  rw [multi, constraints]
  split at passes
  · cases passes
  · exact checkField_ok_rename slot'.name passes
  · split at passes
    · cases passes
    · rename_i fitting
      rw [if_neg fitting]
      exact checkFields_ok_rename slot'.name passes
  · cases passes

theorem blank_of_traits (same : slot'.traits = slot.traits) : slot'.blank = slot.blank := by
  rw [blank, blank, (SlotTraits.mk.inj same).1]

/-- A multifield slot takes multifields only, and no other slot takes one. -/
theorem members?_of_check (passes : slot.check v = .ok ()) : v.members?.isSome = slot.isMulti := by
  unfold check at passes
  cases multi : slot.isMulti <;> rw [multi] at passes <;> cases v <;> first | rfl | cases passes

theorem members?_blank (slot : Slot) : slot.blank.members?.isSome = slot.isMulti := by
  unfold blank
  cases slot.isMulti <;> rfl

end Slot

/-! ### Templates -/

namespace Template

variable {t t' : Template} {values : List Value} {unset unset' : Nat → Prop} {position : Nat}

def traits (t : Template) : List SlotTraits := t.slots.map Slot.traits

/-- Every default is a value that its slot takes. -/
def Yields (t : Template) : Prop := ∀ slot ∈ t.slots, slot.Yields

/-- The slots that have no default. -/
def required (t : Template) : List Nat :=
  (List.range t.arity).filter fun position => (t.slot? position).any (·.isRequired)

/-- Whether the first slot of a template of ordered facts takes whatever members there are. -/
def isProper (t : Template) : Bool := !t.isImplied || t.traits.head? == some ⟨true, {}, false⟩

/-- Each slot holds a value that it takes, or is blank for want of a default and not set yet. -/
def Holds (t : Template) (values : List Value) (unset : Nat → Prop) : Prop :=
  ∀ position slot v, t.slot? position = some slot → values[position]? = some v →
    slot.check v = .ok () ∨ slot.isRequired = true ∧ v = slot.blank ∧ unset position

theorem mem_required : position ∈ t.required ↔
    ∃ slot, t.slot? position = some slot ∧ slot.isRequired = true := by
  rw [required, List.mem_filter, List.mem_range, Option.any_eq_true, and_iff_right_iff_imp]
  rintro ⟨slot, found, -⟩
  exact (List.getElem?_eq_some_iff.mp found).1

theorem arity_of_traits (same : t'.traits = t.traits) : t'.arity = t.arity := by
  simpa [traits, arity] using congrArg List.length same

theorem slot?_of_traits {slot : Slot} (same : t'.traits = t.traits)
    (found : t.slot? position = some slot) :
    ∃ slot', t'.slot? position = some slot' ∧ slot'.traits = slot.traits := by
  have stands : t.traits[position]? = some slot.traits := by
    rw [traits, List.getElem?_map, show t.slots[position]? = some slot from found, Option.map_some]
  rw [← same, traits, List.getElem?_map, Option.map_eq_some_iff] at stands
  exact stands

namespace Holds

theorem of_traits (holds : t.Holds values unset) (same : t'.traits = t.traits) :
    t'.Holds values unset := by
  intro position slot' v found stands
  obtain ⟨slot, found, alike⟩ := slot?_of_traits same.symm found
  rcases holds position slot v found stands with passes | ⟨required, blank, waits⟩
  · exact .inl (Slot.check_of_traits alike.symm passes)
  · refine .inr ⟨?_, blank.trans (Slot.blank_of_traits alike), waits⟩
    exact (SlotTraits.mk.inj alike).2.2.symm.trans required

theorem mono (holds : t.Holds values unset) (more : ∀ position, unset position → unset' position) :
    t.Holds values unset' := fun position slot v found stands =>
  (holds position slot v found stands).imp_right fun ⟨required, blank, waits⟩ =>
    ⟨required, blank, more position waits⟩

/-- Slots that are written hold what they take. -/
theorem overwrite (holds : t.Holds values unset) {changes : List (Nat × Value)}
    (accepted : t.Accepts changes) : t.Holds (FactBase.overwrite changes values) fun position =>
      unset position ∧ position ∉ changes.map (·.1) := by
  intro position slot v found stands
  rw [FactBase.overwrite, List.getElem?_mapIdx, Option.map_eq_some_iff] at stands
  obtain ⟨w, stands, rfl⟩ := stands
  cases written : changes.reverse.lookup position with
  | some v =>
    obtain ⟨front, back, split, -⟩ := List.lookup_eq_some_iff.mp written
    have inside : (position, v) ∈ changes := by
      rw [← List.mem_reverse, split]
      exact List.mem_append_right _ List.mem_cons_self
    obtain ⟨slot', found', passes⟩ := accepted (position, v) inside
    obtain rfl := Option.some.inj (found.symm.trans found')
    exact .inl passes
  | none =>
    refine (holds position slot w found stands).imp_right ?_
    rintro ⟨required, blank, waits⟩
    refine ⟨required, blank, waits, fun inside => ?_⟩
    obtain ⟨c, listed, rfl⟩ := List.mem_map.mp inside
    exact bne_iff_ne.mp (List.lookup_eq_none_iff.mp written c (List.mem_reverse.mpr listed)) rfl

theorem set (holds : t.Holds values unset) {slot : Slot} {v : Value}
    (found : t.slot? position = some slot) (passes : slot.check v = .ok ()) :
    t.Holds (values.set position v) fun other => unset other ∧ other ≠ position := by
  have accepted : t.Accepts [(position, v)] :=
    List.forall_mem_singleton.mpr ⟨slot, found, passes⟩
  have written := holds.overwrite accepted
  rw [overwrite_cons, overwrite_nil] at written
  exact written.mono fun other ⟨waits, outside⟩ =>
    ⟨waits, fun here => outside (List.mem_singleton.mpr here)⟩

theorem admits (holds : t.Holds values unset) (length : values.length = t.arity) :
    t.Admits values := by
  intro position slot found
  have bound : position < values.length := length ▸ (List.getElem?_eq_some_iff.mp found).1
  refine ⟨values[position], List.getElem?_eq_getElem bound, ?_⟩
  rcases holds position slot _ found (List.getElem?_eq_getElem bound) with passes | ⟨-, blank, -⟩
  · exact Slot.members?_of_check passes
  · rw [blank, Slot.members?_blank]

end Holds

end Template

/-! ### Fields -/

namespace Store

variable {N : Type} {s s' : Store N} {h : Handle} {f : Fact} {id : TemplateId} {t : Template}

theorem defaultField_eq (s : Store N) (id : TemplateId) (slot : Slot) (position : Nat) :
    s.defaultField id slot position = ((s.drawDefault id position).1.map fun v =>
      ⟨v, if slot.lendsDefault then .default else .own⟩, (s.drawDefault id position).2) := rfl

theorem drawDefault_fst (known : s.templates.get? id = some t) (position : Nat) :
    ∃ drawn, (s.drawDefault id position).1 = (t.slot? position).bind (·.defaultValue? drawn) := by
  unfold drawDefault
  rw [known, Option.bind_some]
  cases t.slot? position with
  | none => exact ⟨0, rfl⟩
  | some slot => exact ⟨_, rfl⟩

/-- Each field is filled by default, or is blank if there is none. -/
theorem defaultFields_get? (known : s.templates.get? id = some t) {slots : List (Slot × Nat)}
    (own : ∀ x ∈ slots, t.slot? x.2 = some x.1) {i : Nat} {field : Field}
    (stands : (s.defaultFields id slots).1[i]? = some field) :
    ∃ x drawn, slots[i]? = some x ∧ field.value = (x.1.defaultValue? drawn).getD x.1.blank := by
  induction slots generalizing s i with
  | nil => cases stands
  | cons first rest ih =>
    obtain ⟨found, own⟩ := List.forall_mem_cons.mp own
    cases i with
    | zero =>
      obtain ⟨drawn, value⟩ := drawDefault_fst known first.2
      refine ⟨first, drawn, rfl, ?_⟩
      rw [found, Option.bind_some] at value
      obtain rfl := Option.some.inj stands
      rw [← value]
      change (((s.drawDefault id first.2).1.map (Field.mk · _)).getD _).value = _
      cases (s.drawDefault id first.2).1 <;> rfl
    | succ i =>
      obtain ⟨draws, asked⟩ := drawDefault_eq s id first.2
      refine ih (s := (s.drawDefault id first.2).2) ?_ own stands
      rw [asked]
      exact known

/-- What is made of defaults only waits for what has none. -/
theorem holds_defaultFields (known : s.templates.get? id = some t) (yields : t.Yields) :
    t.Holds ((s.defaultFields id t.slots.zipIdx).1.map (·.value)) (· ∈ t.required) := by
  intro position slot v found stands
  rw [List.getElem?_map, Option.map_eq_some_iff] at stands
  obtain ⟨field, stands, rfl⟩ := stands
  obtain ⟨x, drawn, listed, value⟩ :=
    defaultFields_get? known (fun _ => List.mem_zipIdx_iff_getElem?.mp) stands
  rw [List.getElem?_zipIdx, show t.slots[position]? = some slot from found, Option.map_some] at listed
  obtain rfl := Option.some.inj listed
  dsimp only at value
  cases default : slot.defaultValue? drawn with
  | some v =>
    rw [default, Option.getD_some] at value
    exact .inl (value ▸ yields slot (List.mem_of_getElem? found) drawn v default)
  | none =>
    rw [default, Option.getD_none] at value
    have required := Slot.defaultValue?_eq_none.mp default
    exact .inr ⟨required, value, Template.mem_required.mpr ⟨slot, found, required⟩⟩

/-- Changes are only applied if the slots take them. -/
theorem patch_eq_ok {depth : Nat} {changes : List (Nat × Value)} {fields fields' : List Field}
    (done : patch t depth changes fields = .ok fields') :
    t.Accepts changes ∧ fields'.map (·.value) = overwrite changes (fields.map (·.value)) := by
  have accepted : t.Accepts changes := by
    induction changes generalizing fields with
    | nil => exact fun _ inside => absurd inside List.not_mem_nil
    | cons c rest ih =>
      unfold patch at done
      split at done
      · cases done
      · rename_i slot found
        split at done
        · cases done
        · rename_i passes
          exact List.forall_mem_cons.mpr ⟨⟨slot, found, passes⟩, ih done⟩
  obtain ⟨fields'', done', values⟩ := @patch_total t depth changes fields accepted
  obtain rfl := Except.ok.inj (done.symm.trans done')
  exact ⟨accepted, values⟩

/-- Each field of a fact that a builder makes is set or filled by default. -/
theorem builderFields_get? {b : Builder} (known : s.templates.get? b.templateId = some t)
    {slots : List ((Slot × Option Value) × Nat)} {fields : List Field}
    (done : b.fields slots s = (.ok fields, s')) {i : Nat} {field : Field}
    (stands : fields[i]? = some field) :
    ∃ x, slots[i]? = some x ∧ (x.1.2 = some field.value ∨
      ∃ drawn, (t.slot? x.2).bind (·.defaultValue? drawn) = some field.value) := by
  induction slots generalizing s fields i with
  | nil =>
    obtain ⟨made, -⟩ := Prod.mk.inj done
    obtain rfl := Except.ok.inj made
    cases stands
  | cons first rest ih =>
    obtain ⟨⟨slot, staged⟩, position⟩ := first
    cases staged with
    | some v =>
      unfold Builder.fields at done
      obtain ⟨made, rfl⟩ := Prod.mk.inj done
      obtain ⟨others, filled, rfl⟩ := map_eq_ok.mp made
      cases i with
      | zero =>
        obtain rfl := Option.some.inj stands
        exact ⟨_, rfl, .inl rfl⟩
      | succ i => exact ih known (Prod.ext filled rfl) stands
    | none =>
      unfold Builder.fields at done
      split at done
      · cases (Prod.mk.inj done).1
      · rename_i first u drawn
        obtain ⟨made, rfl⟩ := Prod.mk.inj done
        obtain ⟨others, filled, rfl⟩ := map_eq_ok.mp made
        rw [defaultField_eq] at drawn
        obtain ⟨value, rfl⟩ := Prod.mk.inj drawn
        cases i with
        | zero =>
          obtain rfl := Option.some.inj stands
          obtain ⟨v, asked, rfl⟩ := Option.map_eq_some_iff.mp value
          obtain ⟨drawn, default⟩ := drawDefault_fst known position
          exact ⟨_, rfl, .inr ⟨drawn, default.symm.trans asked⟩⟩
        | succ i =>
          obtain ⟨draws, asked⟩ := drawDefault_eq s b.templateId position
          refine ih ?_ (Prod.ext filled rfl) stands
          rw [asked]
          exact known

end Store

/-! ### Builders -/

namespace Builder

variable {N : Type} {s s' : Store N} {b : Builder} {t : Template}

/-- Whether the slots take the values that are set. -/
def isFit (b : Builder) : Bool :=
  (b.template.slots.zip b.staged).all fun x => x.2.all fun v => (x.1.check v).isOk

/-- Whether the values that are set, and the slots they are set for, suit the template of the facts
that a builder would make. -/
def suits (b : Builder) (s : Store N) : Bool :=
  !b.isCurrent s || (s.templates.get? b.templateId).any (·.traits == b.template.traits) && b.isFit

/-- Builders that were made for a fact base, whatever has been set and reset since. -/
inductive Drafts (s : Store N) : Builder → Prop
  | made {name : String} {b : Builder} {s' : Store N} (done : make name s = .ok (b, s')) : Drafts s b
  | set {b b' : Builder} {slot : String} {v : Value} (drafts : Drafts s b)
      (done : b.putSlot slot v = .ok b') : Drafts s b'
  | reset {b : Builder} (drafts : Drafts s b) : Drafts s b.reset

theorem putSlot_eq_ok {b' : Builder} {name : String} {v : Value}
    (done : b.putSlot name v = .ok b') : ∃ position slot,
      b.template.slotPosition? name = some position ∧ b.template.slot? position = some slot ∧
      slot.check v = .ok () ∧ b' = { b with staged := b.staged.set position (some v) } := by
  unfold putSlot at done
  split at done
  · cases done
  · rename_i position named
    split at done
    · cases done
    · rename_i slot found
      split at done
      · cases done
      · rename_i passes
        exact ⟨position, slot, named, found, passes, (Except.ok.inj done).symm⟩

theorem isFit_iff : b.isFit = true ↔ ∀ position slot v, b.template.slot? position = some slot →
    b.staged[position]? = some (some v) → slot.check v = .ok () := by
  rw [isFit, List.all_eq_true]
  constructor
  · intro fit position slot v found staged
    have paired : (b.template.slots.zip b.staged)[position]? = some (slot, some v) :=
      List.getElem?_zip_eq_some.mpr ⟨found, staged⟩
    exact isOk_iff.mp (fit _ (List.mem_of_getElem? paired))
  · rintro fit ⟨slot, staged⟩ inside
    obtain ⟨position, paired⟩ := List.getElem?_of_mem inside
    obtain ⟨found, stands⟩ := List.getElem?_zip_eq_some.mp paired
    rw [Option.all_eq_true]
    rintro v rfl
    exact isOk_iff.mpr (fit position slot v found stands)

/-- A builder has all slots set that it makes no use of a default for. -/
theorem holds_fields (known : s.templates.get? b.templateId = some t) (yields : t.Yields)
    (same : t.traits = b.template.traits) (fit : b.isFit = true) {fields : List Field}
    (done : b.fields (b.template.slots.zip b.staged).zipIdx s = (.ok fields, s')) :
    t.Holds (fields.map (·.value)) fun _ => False := by
  intro position slot v found stands
  rw [List.getElem?_map, Option.map_eq_some_iff] at stands
  obtain ⟨field, stands, rfl⟩ := stands
  obtain ⟨x, listed, made⟩ := Store.builderFields_get? known done stands
  rw [List.getElem?_zipIdx, Option.map_eq_some_iff] at listed
  obtain ⟨y, paired, rfl⟩ := listed
  obtain ⟨own, staged⟩ := List.getElem?_zip_eq_some.mp paired
  rcases made with set | ⟨drawn, default⟩
  · obtain ⟨slot', found', alike⟩ := Template.slot?_of_traits same own
    obtain rfl := Option.some.inj (found.symm.trans found')
    exact .inl (Slot.check_of_traits alike (isFit_iff.mp fit position y.1 _ own (set ▸ staged)))
  · rw [Nat.zero_add, found, Option.bind_some] at default
    exact .inl (yields slot (List.mem_of_getElem? found) drawn _ default)

theorem Drafts.isFit (drafts : b.Drafts s) : b.isFit = true := by
  rw [isFit_iff]
  induction drafts with
  | made done =>
    obtain ⟨e, -, rfl, -⟩ := Store.makeBuilder_eq_ok done
    intro position slot v _ staged
    rw [List.getElem?_map, Option.map_eq_some_iff] at staged
    obtain ⟨_, -, set⟩ := staged
    cases set
  | @set b b' name v _ done ih =>
    obtain ⟨place, definition, -, found, passes, rfl⟩ := putSlot_eq_ok done
    intro position slot w own staged
    rw [List.getElem?_set'] at staged
    split at staged
    · rename_i here
      subst here
      obtain rfl := Option.some.inj (found.symm.trans own)
      cases before : b.staged[place]? <;> rw [before] at staged <;> cases staged
      exact passes
    · exact ih position slot w own staged
  | @reset b _ ih =>
    intro position slot v _ staged
    rw [Builder.reset, List.getElem?_map, Option.map_eq_some_iff] at staged
    obtain ⟨_, -, set⟩ := staged
    cases set

theorem Drafts.known (drafts : b.Drafts s) :
    (b.templateId, b.template) ∈ s.templates.catalogue := by
  induction drafts with
  | made done =>
    obtain ⟨e, named, rfl, -⟩ := Store.makeBuilder_eq_ok done
    exact List.mem_map_of_mem (List.mem_of_find?_eq_some named)
  | set _ done ih =>
    obtain ⟨_, _, -, -, -, rfl⟩ := putSlot_eq_ok done
    exact ih
  | reset _ ih => exact ih

end Builder

end FactBase

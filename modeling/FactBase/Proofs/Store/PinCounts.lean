import FactBase.Proofs.Store.Errand
import FactBase.Proofs.Store.Tending

/-!
# Counts of pins

The pins of a fact are what its busy count comes to besides the fact's being asserted. Apart from taking
pins and giving them back, and from freeing a fact that is not attached, whatever a fact base does
leaves the pins on every handle as many as they were.
-/

namespace FactBase

/-- A fact has so many pins besides being asserted. -/
def Fact.HasPins (f : Fact) (n : Nat) : Prop := f.busy = (if f.isAsserted then 1 else 0) + n

theorem Fact.hasPins_of_not_asserted {f : Fact} {n : Nat} (free : ¬ f.isAsserted = true) :
    f.HasPins n ↔ f.busy = n := by
  rw [HasPins, if_neg free, Nat.zero_add]

theorem Fact.hasPins_of_asserted {f : Fact} {n : Nat} (asserted : f.isAsserted = true) :
    f.HasPins n ↔ f.busy = n + 1 := by
  rw [HasPins, if_pos asserted, Nat.add_comm]

theorem Fact.HasPins.succ {f : Fact} {n : Nat} (counted : f.HasPins n) :
    Fact.HasPins { f with busy := f.busy + 1 } (n + 1) :=
  congrArg (· + 1) counted

theorem Fact.HasPins.pred {f : Fact} {n : Nat} (counted : f.HasPins (n + 1)) :
    f.busy ≠ 0 ∧ Fact.HasPins { f with busy := f.busy - 1 } n := by
  have counted : f.busy = (if f.isAsserted then 1 else 0) + (n + 1) := counted
  refine ⟨by omega, ?_⟩
  change f.busy - 1 = (if f.isAsserted then 1 else 0) + n
  omega

/-- What a handle names has so many pins. What is not there has none. -/
def PinsOf (o : Option Fact) (n : Nat) : Prop := o.elim (n = 0) (·.HasPins n)

/-- What a handle named goes on with the pins it had, and is not open if it was attached. -/
structure GoesOn (o o' : Option Fact) : Prop where
  pins : ∀ n, PinsOf o n → PinsOf o' n
  attached : ∀ f g, o = some f → o' = some g → f.isUnattached = false → g.isUnattached = false

namespace GoesOn

variable {o o' : Option Fact} {f g : Fact}

theorem refl (o : Option Fact) : GoesOn o o := by
  refine ⟨fun _ => id, fun f g before after attached => ?_⟩
  obtain rfl := Option.some.inj (before.symm.trans after)
  exact attached

/-- A fact goes on that keeps its busy count, its number and its state. -/
theorem of_same (busy : g.busy = f.busy) (index : g.index = f.index)
    (isGarbage : g.isGarbage = f.isGarbage) : GoesOn (some f) (some g) := by
  have asserted : g.isAsserted = f.isAsserted := by
    rw [Fact.isAsserted, Fact.isAsserted, index, isGarbage]
  have unattached : g.isUnattached = f.isUnattached := by
    rw [Fact.isUnattached, Fact.isUnattached, index, isGarbage]
  refine ⟨fun n counted => ?_, fun x y before after attached => ?_⟩
  · change g.busy = (if g.isAsserted then 1 else 0) + n
    rw [busy, asserted]
    exact counted
  · obtain rfl := Option.some.inj before
    obtain rfl := Option.some.inj after
    exact unattached.trans attached

/-- A new fact is pinned by nobody. -/
theorem of_none (busy : g.busy = 0) (free : ¬ g.isAsserted = true) : GoesOn none (some g) := by
  refine ⟨fun n counted => ?_, fun _ _ before => nomatch before⟩
  exact (Fact.hasPins_of_not_asserted free).mpr (busy.trans (Eq.symm counted))

/-- Only what nobody pins goes. -/
theorem to_none (busy : f.busy = 0) : GoesOn (some f) none := by
  refine ⟨fun n counted => ?_, fun _ _ _ after => nomatch after⟩
  have counted : f.busy = (if f.isAsserted then 1 else 0) + n := counted
  rw [busy] at counted
  exact Nat.eq_zero_of_add_eq_zero_left counted.symm

/-- Facts go on that are the same in a view by which the counts can be told. -/
theorem of_map {α : Type} {view : Fact → α} (same : o'.map view = o.map view)
    (alike : ∀ f g, view g = view f → GoesOn (some f) (some g)) : GoesOn o o' := by
  cases o with
  | none =>
    rw [Option.map_none, Option.map_eq_none_iff] at same
    exact same ▸ .refl none
  | some f =>
    rw [Option.map_some, Option.map_eq_some_iff] at same
    obtain ⟨g, rfl, same⟩ := same
    exact alike f g same

theorem of_bare (same : o'.map Fact.bare = o.map Fact.bare) : GoesOn o o' :=
  of_map same fun _ _ same => .of_same (Fact.view_eq Fact.busy same fun _ => rfl)
    (Fact.view_eq Fact.index same fun _ => rfl)
    (Fact.view_eq Fact.isGarbage same fun _ => rfl)

theorem of_unmatched (same : o'.map Fact.unmatched = o.map Fact.unmatched) : GoesOn o o' :=
  of_map same fun _ _ same => .of_same (Fact.view_unmatched Fact.busy same fun _ => rfl)
    (Fact.view_unmatched Fact.index same fun _ => rfl)
    (Fact.view_unmatched Fact.isGarbage same fun _ => rfl)

end GoesOn

namespace Store

variable {N : Type} {s s' : Store N} {h k : Handle} {f : Fact} {n : Nat}

/-- A step that leaves pins alone. -/
def KeepsPins (s s' : Store N) : Prop := ∀ h, GoesOn (s.get? h) (s'.get? h)

namespace KeepsPins

theorem of_facts_eq (facts : s'.facts = s.facts) : KeepsPins s s' := by
  intro h
  rw [Store.get?, Store.get?, facts]
  exact .refl _

theorem of_update {u : Fact → Fact} (facts : s'.facts = s.facts.update h u)
    (busy : ∀ f, (u f).busy = f.busy)
    (index : ∀ f, (u f).index = f.index)
    (isGarbage : ∀ f, (u f).isGarbage = f.isGarbage) : KeepsPins s s' := by
  intro k
  rw [get?_update_facts k facts]
  split
  · rename_i here
    subst here
    change GoesOn (s.facts.get? k) _
    cases s.facts.get? k with
    | none => exact .refl none
    | some f => exact .of_same (busy f) (index f) (isGarbage f)
  · exact .refl _

theorem collects (collects : Collects s s') : KeepsPins s s' := by
  intro h
  cases found : s.get? h with
  | none =>
    cases found' : s'.get? h with
    | none => exact .refl none
    | some g => cases found.symm.trans (collects.old h g found')
  | some f =>
    cases found' : s'.get? h with
    | none =>
      refine .to_none (Nat.eq_zero_of_not_pos fun held => ?_)
      cases found'.symm.trans (collects.held h f found held)
    | some g =>
      obtain rfl := Option.some.inj (found.symm.trans (collects.old h g found'))
      exact .refl _

theorem rematched (rematched : Rematched s s') : KeepsPins s s' :=
  fun h => .of_unmatched (rematched.facts h)

theorem createWith (sound : s.Sound) {t : TemplateId} {template : Template} {fields : List Field}
    (done : s.createWith t template fields = .ok (h, s')) : KeepsPins s s' := by
  obtain ⟨templates, facts, -, inserted, rfl⟩ := createWith_eq_ok done
  obtain ⟨fresh, -, names⟩ := Arena.insert_spec sound.tidy inserted
  intro k
  change GoesOn (s.facts.get? k) (facts.get? k)
  rw [names]
  split
  · rename_i here
    rw [here, fresh]
    exact .of_none rfl Bool.false_ne_true
  · exact .refl _

theorem setField (position : Nat) (field : Field) : KeepsPins s (s.setField h position field) :=
  .of_update rfl (fun _ => rfl) (fun _ => rfl) fun _ => rfl

theorem putSlotAt {position : Nat} {v : Value} (done : s.putSlotAt h position v = .ok s') :
    KeepsPins s s' := by
  obtain ⟨f, -, done⟩ := bind_eq_ok.mp done
  split at done
  · cases done
  · split at done
    · cases done
    · obtain rfl := Except.ok.inj done
      exact .setField position ⟨v, .own⟩

theorem putSlot {slot : String} {v : Value} (done : s.putSlot h slot v = .ok s') :
    KeepsPins s s' := by
  obtain ⟨f, -, done⟩ := bind_eq_ok.mp done
  split at done
  · cases done
  · exact .putSlotAt done

theorem makeBuilder {name : String} {b : Builder} (done : Builder.make name s = .ok (b, s')) :
    KeepsPins s s' := by
  unfold Builder.make at done
  split at done
  · cases done
  · split at done
    · cases done
    · obtain ⟨-, rfl⟩ := Prod.mk.inj (Except.ok.inj done)
      exact .of_facts_eq rfl

/-- Where a fact becomes another one, its pins go on if it does. -/
theorem replaced {g : Fact} (found : s.get? h = some f) (replaced : Replaced h g s.facts s'.facts)
    (goesOn : GoesOn (some f) (some g)) : KeepsPins s s' := by
  intro k
  by_cases here : k = h
  · subst here
    obtain ⟨x, found', bare⟩ := replaced.here
    rw [found, show s'.get? k = some x from found']
    have last : GoesOn (some g) (some x) := .of_bare (congrArg some bare)
    refine ⟨fun n counted => last.pins n (goesOn.pins n counted), fun f' x' same same' attached => ?_⟩
    exact last.attached g x' rfl same' (goesOn.attached f' g same rfl attached)
  · refine .of_bare ((replaced.bare k).trans ?_)
    rw [if_neg here]
    rfl

/-- An asserted fact has one holder more. -/
theorem attaches {index : Nat} (attaches : Attaches h f index s s') (found : s.get? h = some f)
    (unattached : f.isUnattached = true) (numbered : index ≠ 0) : KeepsPins s s' := by
  refine .replaced found attaches.facts ⟨fun n counted => ?_, fun x _ same _ attached => ?_⟩
  · have asserted := attached_isAsserted unattached numbered (s.hashOf f)
    have counted := (Fact.hasPins_of_not_asserted (not_asserted_of_unattached unattached)).mp counted
    exact (Fact.hasPins_of_asserted asserted).mpr (congrArg (· + 1) counted)
  · obtain rfl := Option.some.inj same
    cases unattached.symm.trans attached

/-- A fact that is retracted has one holder less. -/
theorem detaches (detaches : Detaches h f s s') (found : s.get? h = some f)
    (asserted : f.isAsserted = true) : KeepsPins s s' := by
  have dead : ¬ f.buried.isAsserted = true := by simp [Fact.isAsserted, Fact.buried]
  refine .replaced found detaches.facts ⟨fun n counted => ?_, fun _ y _ same _ => ?_⟩
  · have counted := (Fact.hasPins_of_asserted asserted).mp counted
    exact (Fact.hasPins_of_not_asserted dead).mpr (congrArg (· - 1) counted)
  · obtain rfl := Option.some.inj same
    simp [Fact.isUnattached, Fact.buried]

end KeepsPins

theorem Making.keepsPins (making : Making s s') (sound : s.Sound) : KeepsPins s s' := by
  obtain ⟨draws, templates, rfl | ⟨t, template, fields, h, created⟩⟩ := making.stores
  · exact .of_facts_eq rfl
  · exact .createWith (s := { s with draws, templates }) (sound.quiet .unchanged) created

theorem Errand.keepsPins (errand : Errand s s') (sound : s.Sound) : KeepsPins s s' :=
  (errand.collects_or_facts_eq sound).elim .collects fun facts => .of_facts_eq facts

end Store

end FactBase

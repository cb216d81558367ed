import FactBase.Proofs.Store.Covered
import Mathlib.Data.List.Flatten

/-!
# Pins

Whoever pins a fact counts on finding it until the pin is given back, and whoever installs its atoms
as well counts on their being there. What is pinned goes on being the same fact: an attached fact
keeps its number and its content, and one that is not attached may be filled and attached yet, but
its slots are not to be written to once its atoms are installed.
-/

namespace FactBase

namespace Fact

variable {f g k : Fact}

/-- The pins of a fact beyond the one of being asserted. -/
def spare (f : Fact) : Nat := f.busy - if f.isAsserted then 1 else 0

/-- What may become of a fact that stays: once attached, it keeps its number and its values. -/
structure Lasts (f g : Fact) : Prop where
  templateId : g.templateId = f.templateId
  attached : f.isUnattached = false →
    g.isUnattached = false ∧ g.index = f.index ∧ g.values = f.values

theorem Lasts.refl (f : Fact) : f.Lasts f := ⟨rfl, fun attached => ⟨attached, rfl, rfl⟩⟩

theorem Lasts.trans (first : f.Lasts g) (second : g.Lasts k) : f.Lasts k := by
  refine ⟨second.templateId.trans first.templateId, fun attached => ?_⟩
  obtain ⟨attached', index, values⟩ := first.attached attached
  obtain ⟨attached'', index', values'⟩ := second.attached attached'
  exact ⟨attached'', index'.trans index, values'.trans values⟩

/-- A fact that stays with the values it has and with no fewer pins. -/
structure Stands (f g : Fact) : Prop where
  lasts : f.Lasts g
  values : g.values = f.values
  spare : f.spare ≤ g.spare
  template : g.template = f.template

theorem Stands.refl (f : Fact) : f.Stands f := ⟨.refl f, rfl, Nat.le_refl _, rfl⟩

theorem Stands.trans (first : f.Stands g) (second : g.Stands k) : f.Stands k :=
  ⟨first.lasts.trans second.lasts, second.values.trans first.values,
    Nat.le_trans first.spare second.spare, second.template.trans first.template⟩

/-- A fact changes in other things than its number, its content and its pins. -/
theorem Stands.of_same (templateId : g.templateId = f.templateId)
    (index : g.index = f.index) (isGarbage : g.isGarbage = f.isGarbage)
    (busy : f.busy ≤ g.busy) (values : g.values = f.values)
    (template : g.template = f.template) : f.Stands g := by
  refine ⟨⟨templateId, fun attached => ⟨?_, index, values⟩⟩, values, ?_, template⟩
  · rw [isUnattached, index, isGarbage]
    exact attached
  · rw [Fact.spare, Fact.spare, isAsserted, isAsserted, index, isGarbage]
    exact Nat.sub_le_sub_right busy _

theorem Stands.of_bare (stands : f.Stands g) (same : k.bare = g.bare) : f.Stands k := by
  refine ⟨⟨?_, fun attached => ?_⟩, ?_, ?_,
    (view_eq Fact.template same fun _ => rfl).trans stands.template⟩
  · rw [view_eq Fact.templateId same fun _ => rfl]
    exact stands.lasts.templateId
  · rw [view_eq Fact.isUnattached same fun _ => rfl, view_eq Fact.index same fun _ => rfl,
      view_eq Fact.values same fun _ => rfl]
    exact stands.lasts.attached attached
  · rw [view_eq Fact.values same fun _ => rfl]
    exact stands.values
  · rw [view_eq Fact.spare same fun _ => rfl]
    exact stands.spare

/-- An asserted fact has one pin less to spare than it has. -/
theorem spare_of_asserted (asserted : f.isAsserted = true) : f.spare = f.busy - 1 := by
  rw [spare, if_pos asserted]

theorem spare_of_not_asserted (free : ¬ f.isAsserted = true) : f.spare = f.busy := by
  rw [spare, if_neg free, Nat.sub_zero]

theorem stands_attached (unattached : f.isUnattached = true) (index : Nat) (hash : UInt64) :
    f.Stands (f.attached index hash) := by
  refine ⟨⟨rfl, fun attached => ?_⟩, f.attached_values index hash, ?_, rfl⟩
  · rw [unattached] at attached
    cases attached
  · rw [spare_of_not_asserted (Store.not_asserted_of_unattached unattached), spare]
    change f.busy ≤ f.busy + 1 - _
    split <;> omega

theorem stands_buried (asserted : f.isAsserted = true) : f.Stands f.buried := by
  have dead : ¬ f.buried.isAsserted = true := by simp [isAsserted, buried]
  refine ⟨⟨rfl, fun _ => ⟨?_, rfl, rfl⟩⟩, rfl, ?_, rfl⟩
  · simp [isUnattached, buried]
  · rw [spare_of_asserted asserted, spare_of_not_asserted dead]
    exact Nat.le_refl _

end Fact

/-- A pin that was taken on a fact. -/
structure Pin where
  fact : Handle
  /-- The fact when it was pinned. -/
  seen : Fact
  /-- Whether its atoms were installed as well. -/
  installed : Bool

namespace Pin

/-- The installations that a pin is to give back. -/
def lent (pin : Pin) : List Atom := if pin.installed then Value.allAtoms pin.seen.values else []

/-- A fact that is still the one pinned. -/
structure Holds (pin : Pin) (g : Fact) : Prop where
  lasts : pin.seen.Lasts g
  values : pin.installed = true → g.values = pin.seen.values

theorem Holds.stands {pin : Pin} {f g : Fact} (holds : pin.Holds f) (stands : f.Stands g) :
    pin.Holds g :=
  ⟨holds.lasts.trans stands.lasts, fun installed => stands.values.trans (holds.values installed)⟩

end Pin

/-- How many of some pins are on a fact. -/
def pinsOn (pins : List Pin) (h : Handle) : Nat := pins.countP (·.fact == h)

theorem pinsOn_cons (pin : Pin) (pins : List Pin) (h : Handle) :
    pinsOn (pin :: pins) h = pinsOn pins h + if pin.fact = h then 1 else 0 := by
  rw [pinsOn, List.countP_cons]
  simp [pinsOn]

theorem pinsOn_pos {pins : List Pin} {h : Handle} :
    0 < pinsOn pins h ↔ ∃ pin ∈ pins, pin.fact = h := by
  simp [pinsOn, List.countP_pos_iff]

namespace Store

variable {N : Type} {s s' s'' : Store N} {h : Handle} {f g : Fact} {pin : Pin} {pins pins' : List Pin}

/-- Everything that is pinned is there, as often as it is pinned besides being asserted, and the
atoms that were installed with it are there besides those that facts claim. -/
structure Honours (pins : List Pin) (s : Store N) : Prop where
  held : ∀ pin ∈ pins, ∃ g, s.get? pin.fact = some g ∧ pin.Holds g
  counted : ∀ h g, s.get? h = some g → pinsOn pins h ≤ g.spare
  asserted : ∀ h g, s.get? h = some g → g.isAsserted = true → 0 < g.busy
  atoms : ∀ a, s.facts.claims.count a + (pins.flatMap Pin.lent).count a ≤ s.atoms.installs a

/-- A step after which asserted facts are pinned no less than before, and by which claims grow no
faster than installations. -/
structure Steady (s s' : Store N) : Prop where
  asserted : ∀ h g, s'.get? h = some g → g.isAsserted = true →
    0 < g.busy ∨ ∃ f, s.get? h = some f ∧ f.isAsserted = true ∧ f.busy ≤ g.busy
  atoms : ∀ a, s.atoms.installs a + s'.facts.claims.count a ≤
    s'.atoms.installs a + s.facts.claims.count a

theorem Sustains.steady (sustains : Sustains s s') : Steady s s' :=
  ⟨fun h g found => (sustains.facts h g found).pinned, sustains.atoms⟩

/-- A step that minds pins: whatever is pinned stands. -/
structure Minds (s s' : Store N) : Prop extends Steady s s' where
  facts : ∀ h f, s.get? h = some f → 0 < f.spare → ∃ g, s'.get? h = some g ∧ f.Stands g

theorem Minds.trans (first : Minds s s') (second : Minds s' s'') : Minds s s'' := by
  refine ⟨⟨fun h k found asserted => ?_, fun a => ?_⟩, fun h f found spare => ?_⟩
  · rcases second.asserted h k found asserted with pinned | ⟨g, before, asserted', less⟩
    · exact .inl pinned
    · rcases first.asserted h g before asserted' with pinned | ⟨f, before', asserted'', less'⟩
      · exact .inl (Nat.lt_of_lt_of_le pinned less)
      · exact .inr ⟨f, before', asserted'', Nat.le_trans less' less⟩
  · have before := first.atoms a
    have after := second.atoms a
    omega
  · obtain ⟨g, found', stands⟩ := first.facts h f found spare
    obtain ⟨k, found'', stands'⟩ :=
      second.facts h g found' (Nat.lt_of_lt_of_le spare stands.spare)
    exact ⟨k, found'', stands.trans stands'⟩

namespace Honours

theorem fresh (config : Config) (network : N) (contentHash : TemplateId → List Value → UInt64) :
    (Store.fresh config network contentHash).Honours [] := by
  have none := get?_fresh config (N := N)
  exact ⟨fun pin inside => by simp at inside, fun h g found => by simp [none] at found,
    fun h g found => by simp [none] at found, fun a => Nat.zero_le _⟩

/-- The order of pins does not matter. -/
theorem perm (honours : s.Honours pins) (same : pins.Perm pins') : s.Honours pins' where
  held pin inside := honours.held pin (same.mem_iff.mpr inside)
  counted h g found := by
    rw [pinsOn, ← same.countP_eq]
    exact honours.counted h g found
  asserted := honours.asserted
  atoms a := by
    rw [← (same.flatMap_right Pin.lent).count_eq]
    exact honours.atoms a

/-- What matters to all matters to some. -/
theorem sublist (honours : s.Honours pins) (fewer : pins'.Sublist pins) : s.Honours pins' where
  held pin inside := honours.held pin (fewer.subset inside)
  counted h g found := Nat.le_trans fewer.countP_le (honours.counted h g found)
  asserted := honours.asserted
  atoms a := Nat.le_trans
    (Nat.add_le_add_left ((fewer.flatMap Pin.lent).count_le a) _) (honours.atoms a)

theorem steady (honours : s.Honours pins) (steady : Steady s s')
    (held : ∀ pin ∈ pins, ∃ g, s'.get? pin.fact = some g ∧ pin.Holds g)
    (counted : ∀ h g, s'.get? h = some g → pinsOn pins h ≤ g.spare) : s'.Honours pins := by
  refine ⟨held, counted, fun h g found asserted => ?_, fun a => ?_⟩
  · rcases steady.asserted h g found asserted with pinned | ⟨f, before, asserted', less⟩
    · exact pinned
    · exact Nat.lt_of_lt_of_le (honours.asserted h f before asserted') less
  · have before := honours.atoms a
    have step := steady.atoms a
    omega

/-- What is pinned has pins to spare, so a step that minds pins leaves it. -/
theorem minds (honours : s.Honours pins) (minds : Minds s s') : s'.Honours pins := by
  have stands (pin : Pin) (inside : pin ∈ pins) :
      ∃ f g, s.get? pin.fact = some f ∧ pin.Holds f ∧ s'.get? pin.fact = some g ∧ f.Stands g := by
    obtain ⟨f, found, holds⟩ := honours.held pin inside
    have pinned : 0 < pinsOn pins pin.fact := pinsOn_pos.mpr ⟨pin, inside, rfl⟩
    obtain ⟨g, found', stands⟩ :=
      minds.facts pin.fact f found (Nat.lt_of_lt_of_le pinned (honours.counted _ f found))
    exact ⟨f, g, found, holds, found', stands⟩
  refine honours.steady minds.toSteady (fun pin inside => ?_) fun h g found => ?_
  · obtain ⟨f, g, -, holds, found, stands⟩ := stands pin inside
    exact ⟨g, found, holds.stands stands⟩
  · rcases Nat.eq_zero_or_pos (pinsOn pins h) with none | some
    · rw [none]
      exact Nat.zero_le _
    · obtain ⟨pin, inside, rfl⟩ := pinsOn_pos.mp some
      obtain ⟨f, g', before, -, found', stands⟩ := stands pin inside
      obtain rfl := Option.some.inj (found.symm.trans found')
      exact Nat.le_trans (honours.counted _ f before) stands.spare

/-- Pins are taken on one fact, or given back. -/
theorem setBusy (honours : s.Honours pins) (found : s.get? h = some f) {busy : Nat}
    (held : ∀ pin ∈ pins', ∃ g, s.get? pin.fact = some g ∧ pin.Holds g)
    (here : pinsOn pins' h ≤ { f with busy }.spare)
    (elsewhere : ∀ k, k ≠ h → pinsOn pins' k ≤ pinsOn pins k)
    (pinned : f.isAsserted = true → 0 < busy)
    (lent : ∀ a, (pins'.flatMap Pin.lent).count a ≤ (pins.flatMap Pin.lent).count a) :
    (s.setBusy h busy).Honours pins' := by
  have names (k : Handle) (g : Fact) (same : (s.setBusy h busy).get? k = some g) :
      k = h ∧ g = { f with busy } ∨ k ≠ h ∧ s.get? k = some g := by
    rw [get?_update_facts k rfl] at same
    split at same
    · rename_i at_h
      rw [show s.facts.get? h = some f from found] at same
      exact .inl ⟨at_h, (Option.some.inj same).symm⟩
    · rename_i other
      exact .inr ⟨other, same⟩
  refine ⟨fun pin inside => ?_, fun k g same => ?_, fun k g same asserted => ?_, fun a => ?_⟩
  · obtain ⟨g, stored, holds⟩ := held pin inside
    rw [get?_update_facts _ rfl]
    split
    · rename_i at_h
      rw [show s.facts.get? h = s.get? pin.fact by rw [at_h]; rfl, stored]
      exact ⟨{ g with busy }, rfl, ⟨holds.lasts.templateId, holds.lasts.attached⟩, holds.values⟩
    · exact ⟨g, stored, holds⟩
  · rcases names k g same with ⟨rfl, rfl⟩ | ⟨other, before⟩
    · exact here
    · exact Nat.le_trans (elsewhere k other) (honours.counted k g before)
  · rcases names k g same with ⟨-, rfl⟩ | ⟨-, before⟩
    · exact pinned asserted
    · exact honours.asserted k g before asserted
  · have claims : (s.setBusy h busy).facts.claims.count a = s.facts.claims.count a :=
      Arena.claims_update found rfl a
    rw [claims]
    exact Nat.le_trans (Nat.add_le_add_left (lent a) _) (honours.atoms a)

/-! ### Taking pins -/

/-- A fact that is retained is pinned once more. -/
theorem retain (honours : s.Honours pins) (found : s.get? h = some f)
    (done : s.retain h = .ok s') : s'.Honours (⟨h, f, false⟩ :: pins) := by
  obtain ⟨f', found', rfl⟩ := retain_eq_ok done
  obtain rfl := Option.some.inj (found.symm.trans found')
  refine honours.setBusy found (fun pin inside => ?_) ?_ (fun k other => ?_)
    (fun _ => Nat.succ_pos _) fun a => ?_
  · rcases List.mem_cons.mp inside with rfl | before
    · exact ⟨f, found, .refl f, fun _ => rfl⟩
    · exact honours.held pin before
  · rw [pinsOn_cons, if_pos rfl]
    have counted := honours.counted h f found
    by_cases asserted : f.isAsserted = true
    · have pinned := honours.asserted h f found asserted
      rw [Fact.spare_of_asserted asserted] at counted
      rw [Fact.spare_of_asserted (f := { f with busy := f.busy + 1 }) asserted]
      dsimp only
      omega
    · rw [Fact.spare_of_not_asserted asserted] at counted
      rw [Fact.spare_of_not_asserted (f := { f with busy := f.busy + 1 }) asserted]
      exact Nat.succ_le_succ counted
  · rw [pinsOn_cons, if_neg (Ne.symm other)]
    exact Nat.le_refl _
  · exact Nat.le_refl _

end Honours

theorem minds_installFields (found : s.get? h = some f) : Minds s (s.installFields h) := by
  refine ⟨(Sustains.installFields s h).steady, fun k g same _ => ?_⟩
  rw [installFields_eq found, get?_update_facts k rfl]
  split
  · rename_i here
    rw [show s.facts.get? h = s.get? k by rw [here]; rfl, same]
    exact ⟨_, rfl, .of_same rfl rfl rfl (Nat.le_refl _) (values_sourced g .table) rfl⟩
  · exact ⟨g, same, .refl g⟩

namespace Honours

/-- A fact that is installed is pinned once more, and its atoms are lent once more. -/
theorem install (honours : s.Honours pins) (found : s.get? h = some f)
    (done : s.install h = .ok s') : s'.Honours (⟨h, f, true⟩ :: pins) := by
  obtain ⟨u, retained, done⟩ := bind_eq_ok.mp done
  obtain rfl := Except.ok.inj done
  have pinned := honours.retain found retained
  obtain ⟨f', found', rfl⟩ := retain_eq_ok retained
  obtain rfl := Option.some.inj (found.symm.trans found')
  have stored : (s.setBusy h (f.busy + 1)).get? h = some { f with busy := f.busy + 1 } := by
    rw [get?_update_facts h rfl, if_pos rfl, show s.facts.get? h = some f from found]
    rfl
  have installed := pinned.minds (minds_installFields stored)
  rw [installFields_eq stored] at installed ⊢
  refine ⟨fun pin inside => ?_, installed.counted, installed.asserted, fun a => ?_⟩
  · rcases List.mem_cons.mp inside with rfl | before
    · obtain ⟨g, same, holds⟩ := installed.held _ List.mem_cons_self
      refine ⟨g, same, holds.lasts, fun _ => ?_⟩
      rw [get?_update_facts h rfl, if_pos rfl,
        show (s.setBusy h (f.busy + 1)).facts.get? h = _ from stored] at same
      rw [← Option.some.inj same]
      exact values_sourced { f with busy := f.busy + 1 } .table
    · exact installed.held pin (List.mem_cons_of_mem _ before)
  · have before := pinned.atoms a
    have claims := Arena.claims_update (u := fun f : Fact =>
      { f with fields := f.fields.map fun field => { field with source := .table } }) stored
      (by unfold Fact.claims; rw [values_sourced]) a
    rw [List.flatMap_cons, List.count_append] at before ⊢
    dsimp only at before ⊢
    rw [claims, AtomTable.installs_fields]
    have none : (Pin.lent ⟨h, f, false⟩) = [] := rfl
    have all : (Pin.lent ⟨h, f, true⟩) = Value.allAtoms f.values := rfl
    rw [none, List.count_nil] at before
    rw [all]
    change _ ≤ s.atoms.installs a + (Value.allAtoms f.values).count a
    have atoms : (s.setBusy h (f.busy + 1)).atoms.installs a = s.atoms.installs a := rfl
    omega

/-! ### Giving pins back -/

/-- What is left once a pin is given back. -/
theorem unpin (honours : s.Honours (pin :: pins)) (found : s.get? pin.fact = some f) :
    f.busy ≠ 0 ∧ (s.setBusy pin.fact (f.busy - 1)).Honours pins := by
  have counted := honours.counted pin.fact f found
  rw [pinsOn_cons, if_pos rfl] at counted
  have less : f.spare ≤ f.busy := Nat.sub_le _ _
  refine ⟨by omega, honours.setBusy found
    (fun other inside => honours.held other (List.mem_cons_of_mem _ inside)) ?_ (fun k other => ?_)
    (fun asserted => ?_) fun a => ?_⟩
  · by_cases asserted : f.isAsserted = true
    · rw [Fact.spare_of_asserted asserted] at counted
      rw [Fact.spare_of_asserted (f := { f with busy := f.busy - 1 }) asserted]
      dsimp only
      omega
    · rw [Fact.spare_of_not_asserted asserted] at counted
      rw [Fact.spare_of_not_asserted (f := { f with busy := f.busy - 1 }) asserted]
      dsimp only
      omega
  · rw [pinsOn_cons]
    exact Nat.le_add_right _ _
  · rw [Fact.spare_of_asserted asserted] at counted
    omega
  · rw [List.flatMap_cons, List.count_append]
    exact Nat.le_add_left _ _

/-- A pin can be released. -/
theorem release (honours : s.Honours (pin :: pins)) :
    ∃ s', s.release pin.fact = .ok (.ok (), s') ∧ s'.Honours pins := by
  obtain ⟨f, found, -⟩ := honours.held pin List.mem_cons_self
  obtain ⟨busy, rest⟩ := honours.unpin found
  refine ⟨_, ?_, rest⟩
  unfold Store.release
  rw [found]
  dsimp only
  rw [if_neg busy]

/-- A pin that came with an installation can be given back together with it. -/
theorem deinstall (honours : s.Honours (pin :: pins)) (installed : pin.installed = true) :
    ∃ s', s.deinstall pin.fact = .ok (.ok (), s') ∧ s'.Honours pins := by
  obtain ⟨f, found, holds⟩ := honours.held pin List.mem_cons_self
  obtain ⟨busy, rest⟩ := honours.unpin found
  have lent : pin.lent = Value.allAtoms f.values := by
    rw [holds.values installed]
    exact if_pos installed
  have enough (a : Atom) : s.facts.claims.count a + ((Value.allAtoms f.values).count a +
      (pins.flatMap Pin.lent).count a) ≤ s.atoms.installs a := by
    have atoms := honours.atoms a
    rwa [List.flatMap_cons, List.count_append, lent] at atoms
  have covered (a : Atom) : (Value.allAtoms f.values).count a ≤ s.atoms.installs a := by
    have := enough a
    omega
  obtain ⟨atoms, given⟩ := AtomTable.deinstallAtoms_total covered
  refine ⟨{ s.setBusy pin.fact (f.busy - 1) with atoms }, ?_, ?_⟩
  · unfold Store.deinstall
    rw [found]
    dsimp only
    rw [if_neg busy, AtomTable.foldlM_deinstall, given]
    rfl
  · refine { rest with atoms := fun a => ?_ }
    have taken := AtomTable.installs_deinstallAtoms given a
    have claims : (s.setBusy pin.fact (f.busy - 1)).facts.claims.count a =
      s.facts.claims.count a := Arena.claims_update found rfl a
    have before := enough a
    dsimp only
    omega

/-! ### Facts that are not attached -/

/-- Whatever happens to a fact that is not pinned. -/
theorem elsewhere (honours : s.Honours pins) (sustains : Sustains s s') (free : pinsOn pins h = 0)
    (same : ∀ k, k ≠ h → s'.get? k = s.get? k) : s'.Honours pins := by
  refine honours.steady sustains.steady (fun pin inside => ?_) fun k g found => ?_
  · rw [same]
    · exact honours.held pin inside
    · exact fun here => Nat.ne_of_gt (pinsOn_pos.mpr ⟨pin, inside, here⟩) free
  · by_cases here : k = h
    · rw [here, free]
      exact Nat.zero_le _
    · exact honours.counted k g ((same k here).symm.trans found)

theorem free (honours : s.Honours pins) (tidy : s.facts.Tidy) (unpinned : pinsOn pins h = 0)
    (done : s.free h = .ok s') : s'.Honours pins := by
  refine honours.elsewhere (Sustains.free tidy done).1 unpinned fun k other => ?_
  obtain ⟨f, facts, atoms, templates, removed, -, -, rfl⟩ := free_eq_ok done
  obtain ⟨-, -, names⟩ := Arena.remove?_spec tidy removed
  exact (names k).trans (if_neg other)

theorem discard (honours : s.Honours pins) (tidy : s.facts.Tidy)
    (unpinned : ∀ f, s.get? h = some f → f.isUnattached = true → pinsOn pins h = 0)
    {r : Except StoreError Unit} (done : s.discard h = .ok (r, s')) : s'.Honours pins := by
  obtain ⟨e, -, rfl⟩ | ⟨f, found, unattached, freed, -⟩ := discard_eq_ok done
  · exact honours
  · exact honours.free tidy (unpinned f found unattached) freed

/-- A slot is written of a fact whose atoms are not installed. -/
theorem setField (honours : s.Honours pins) (found : s.get? h = some f)
    (unattached : f.isUnattached = true)
    (unlent : ∀ pin ∈ pins, pin.fact = h → pin.installed = false) (position : Nat) (field : Field) :
    (s.setField h position field).Honours pins := by
  have names (k : Handle) : (s.setField h position field).get? k =
      if k = h then some { f with fields := f.fields.set position field } else s.get? k := by
    rw [get?_update_facts k rfl, show s.facts.get? h = some f from found]
    rfl
  refine honours.steady (Sustains.setField found unattached position field).steady
    (fun pin inside => ?_) fun k g same => ?_
  · obtain ⟨g, stored, holds⟩ := honours.held pin inside
    rw [names]
    split
    · rename_i here
      obtain rfl := Option.some.inj (found.symm.trans (here ▸ stored))
      refine ⟨_, rfl, ⟨holds.lasts.templateId, fun attached => ?_⟩, fun installed => ?_⟩
      · rw [(holds.lasts.attached attached).1] at unattached
        cases unattached
      · rw [unlent pin inside here] at installed
        cases installed
    · exact ⟨g, stored, holds⟩
  · rw [names] at same
    split at same
    · rename_i here
      rw [← Option.some.inj same, here]
      exact honours.counted h f found
    · exact honours.counted k g same

theorem putSlotAt (honours : s.Honours pins)
    (unlent : ∀ pin ∈ pins, pin.fact = h → pin.installed = false) {position : Nat} {v : Value}
    (done : s.putSlotAt h position v = .ok s') : s'.Honours pins := by
  obtain ⟨f, found, done⟩ := bind_eq_ok.mp done
  obtain ⟨stored, unattached⟩ := unattached_eq_ok found
  split at done
  · cases done
  · split at done
    · cases done
    · obtain rfl := Except.ok.inj done
      exact honours.setField stored unattached unlent position ⟨v, .own⟩

theorem putSlot (honours : s.Honours pins)
    (unlent : ∀ pin ∈ pins, pin.fact = h → pin.installed = false) {slot : String} {v : Value}
    (done : s.putSlot h slot v = .ok s') : s'.Honours pins := by
  obtain ⟨f, found, done⟩ := bind_eq_ok.mp done
  split at done
  · cases done
  · exact honours.putSlotAt unlent done

end Honours

end Store

end FactBase

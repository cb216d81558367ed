import FactBase.Modifier
import FactBase.Proofs.Store.Exchange
import FactBase.Proofs.Store.Balance

/-!
# Staging changes

A modifier pins its fact and collects changes while anything else happens to the fact base. However
that goes, the fact stays what it was when the modifier was made, be it retracted or superseded
meanwhile, and what is collected comes to what was written, one after the other, but for values that
the slots have anyway.
-/

namespace FactBase

/-! ### What is written last -/

/-- What is written last to a place. -/
def written (writes : List (Nat × Value)) (i : Nat) : Option Value := writes.reverse.lookup i

theorem written_concat (writes : List (Nat × Value)) (position : Nat) (v : Value) (i : Nat) :
    written (writes ++ [(position, v)]) i = if i = position then some v else written writes i := by
  rw [written, List.reverse_concat, List.lookup_cons]
  by_cases here : i = position
  · rw [if_pos here, here, beq_self_eq_true]
  · rw [if_neg here, beq_false_of_ne here]
    rfl

theorem written_cons (writes : List (Nat × Value)) (position : Nat) (v : Value) (i : Nat) :
    written ((position, v) :: writes) i =
      (written writes i).or (if i = position then some v else none) := by
  rw [written, List.reverse_cons, List.lookup_append, List.lookup_cons, List.lookup_nil]
  by_cases here : i = position
  · rw [if_pos here, here, beq_self_eq_true]
    rfl
  · rw [if_neg here, beq_false_of_ne here]
    rfl

/-- Of the writes to a place none is left, and those to others are. -/
theorem written_elsewhere (writes : List (Nat × Value)) (position i : Nat) :
    written (writes.filter (·.1 != position)) i =
      if i = position then none else written writes i := by
  induction writes with
  | nil => simp [written]
  | cons write rest ih =>
    obtain ⟨p, v⟩ := write
    by_cases away : p = position
    · subst away
      rw [List.filter_cons_of_neg (by simp), ih, written_cons]
      by_cases here : i = p
      · rw [if_pos here, if_pos here]
      · rw [if_neg here, if_neg here, if_neg here, Option.or_none]
    · rw [List.filter_cons_of_pos (by simpa using away), written_cons, written_cons, ih]
      by_cases here : i = position
      · rw [if_pos here, if_pos here, if_neg fun there => away (there.symm.trans here)]
        rfl
      · rw [if_neg here, if_neg here]

/-- The changes that writes come to where values are in place: what is written last to a place, unless
it is there already. -/
def Nets (values : List Value) (writes changes : List (Nat × Value)) : Prop :=
  ∀ i, written changes i = if written writes i = values[i]? then none else written writes i

variable {values : List Value} {writes changes : List (Nat × Value)}

theorem nets_nil (values : List Value) : Nets values [] [] := fun _ => (ite_self none).symm

/-- A write to a place takes the place of what was to be changed there. -/
theorem Nets.write (nets : Nets values writes changes) (position : Nat) (v : Value) :
    Nets values (writes ++ [(position, v)])
      (if values[position]? = some v then changes.filter (·.1 != position)
        else changes.filter (·.1 != position) ++ [(position, v)]) := by
  intro i
  rw [written_concat]
  by_cases here : i = position
  · subst here
    rw [if_pos rfl]
    by_cases same : values[i]? = some v
    · rw [if_pos same, if_pos same.symm, written_elsewhere, if_pos rfl]
    · rw [if_neg same, if_neg (Ne.symm same), written_concat, if_pos rfl]
  · rw [if_neg here, ← nets i]
    split
    · rw [written_elsewhere, if_neg here]
    · rw [written_concat, if_neg here, written_elsewhere, if_neg here]

/-- Written over the values, changes come to the same as the writes. -/
theorem Nets.overwrite (nets : Nets values writes changes) :
    overwrite changes values = overwrite writes values := by
  refine List.ext_getElem? fun i => ?_
  rw [FactBase.overwrite, FactBase.overwrite, List.getElem?_mapIdx, List.getElem?_mapIdx]
  cases there : values[i]? with
  | none => rfl
  | some x =>
    change some ((written changes i).getD x) = some ((written writes i).getD x)
    rw [nets i, there]
    split
    · rename_i same
      rw [same]
      rfl
    · rfl

namespace Store

variable {N : Type} {s s' : Store N} {h : Handle} {f g : Fact}

/-- The fields of a changed copy: what is written last to a slot, or else what was there. -/
theorem patch_fields {template : Template} {depth : Nat} {fields fields' : List Field}
    (done : patch template depth changes fields = .ok fields') :
    fields' = fields.mapIdx fun i x => (written changes i).elim x (⟨·, .changes depth⟩) := by
  induction changes generalizing fields with
  | nil =>
    obtain rfl := Except.ok.inj done
    exact (List.mapIdx_eq_iff.mpr fun i => Option.map_id'.symm).symm
  | cons change rest ih =>
    obtain ⟨position, v⟩ := change
    unfold patch at done
    split at done
    · cases done
    · split at done
      · cases done
      · rw [ih done]
        refine List.ext_getElem? fun i => ?_
        rw [List.getElem?_mapIdx, List.getElem?_mapIdx, List.getElem?_set', written_cons]
        by_cases here : position = i
        · subst here
          rw [if_pos rfl, if_pos rfl]
          cases fields[position]? <;> cases written rest position <;> rfl
        · rw [if_neg here, if_neg (Ne.symm here), Option.or_none]

/-! ### A fact that is pinned -/

/-- A pin on a fact is given back. -/
inductive GivesBack (h : Handle) (s s' : Store N) : Prop
  | release {r : Except StoreError Unit} (done : s.release h = .ok (r, s'))
  | deinstall {r : Except StoreError Unit} (done : s.deinstall h = .ok (r, s'))

theorem spare_setBusy (f : Fact) (busy : Nat) :
    Fact.spare { f with busy } = busy - if f.isAsserted then 1 else 0 := rfl

theorem get?_setBusy_self (found : s.get? h = some f) (busy : Nat) :
    (s.setBusy h busy).get? h = some { f with busy } :=
  (get?_setBusy found busy h).trans (if_pos rfl)

/-- Where the pins of another fact are changed, a fact is what it was. -/
theorem get?_setBusy_of_ne {k : Handle} (other : k ≠ h) (busy : Nat) :
    (s.setBusy h busy).get? k = s.get? k := by
  rw [get?_update_facts k rfl, if_neg other]
  rfl

/-- Giving back a pin takes one pin and nothing else from a stored fact. -/
theorem GivesBack.pinned (gives : GivesBack h s s') (found : s.get? h = some f) :
    f.busy ≠ 0 ∧ s'.get? h = some { f with busy := f.busy - 1 } := by
  cases gives with
  | release done =>
    obtain ⟨missing, -⟩ | ⟨f', found', busy, -, rfl⟩ := release_eq_ok done
    · cases missing.symm.trans found
    · obtain rfl := Option.some.inj (found.symm.trans found')
      exact ⟨busy, get?_setBusy_self found _⟩
  | deinstall done =>
    obtain ⟨missing, -⟩ | ⟨f', atoms, found', busy, -, -, rfl⟩ := deinstall_eq_ok done
    · cases missing.symm.trans found
    · obtain rfl := Option.some.inj (found.symm.trans found')
      exact ⟨busy, get?_setBusy_self found _⟩

theorem GivesBack.move [JoinNetwork N] (gives : GivesBack h s s') : Move s s' := by
  cases gives with
  | release done => exact .release done
  | deinstall done => exact .deinstall done

/-- Pins that others give back on other facts do not matter. -/
theorem GivesBack.elsewhere {k : Handle} (gives : GivesBack k s s') (other : h ≠ k) :
    s'.get? h = s.get? h := by
  cases gives with
  | release done =>
    obtain ⟨-, -, rfl⟩ | ⟨f, -, -, -, rfl⟩ := release_eq_ok done
    · rfl
    · exact get?_setBusy_of_ne other _
  | deinstall done =>
    obtain ⟨-, -, rfl⟩ | ⟨f, atoms, -, -, -, -, rfl⟩ := deinstall_eq_ok done
    · rfl
    · exact get?_setBusy_of_ne (s := s) other _

/-- An attached fact stands every move as long as it is pinned, unless a pin on it is given back. -/
theorem Move.stands [JoinNetwork N] (move : Move s s') (sound : s.Sound)
    (found : s.get? h = some f) (attached : f.isUnattached = false) (spare : 0 < f.spare)
    (keeps : ¬ GivesBack h s s') : ∃ g, s'.get? h = some g ∧ f.Stands g := by
  have given {k : Handle} (gives : GivesBack k s s') : ∃ g, s'.get? h = some g ∧ f.Stands g := by
    refine ⟨f, (gives.elsewhere ?_).trans found, .refl f⟩
    rintro rfl
    exact keeps gives
  cases move with
  | chore chore => exact chore.stands sound found attached spare
  | release done => exact given (.release done)
  | deinstall done => exact given (.deinstall done)
  | asserts here unattached listed done =>
    obtain ⟨u, attached, -, attaches⟩ := attach_spec sound here unattached
      (show ∀ i, none = some i → i ≠ 0 by simp) listed
      fun p tail => (sound.listedByTemplate _).tail tail
    obtain ⟨-, rfl⟩ := Prod.mk.inj (Except.ok.inj (attached.symm.trans done))
    exact stands_replaced here attaches.facts (Fact.stands_attached unattached _ _) found
  | supersedes here waiting unattached template detached done =>
    obtain ⟨asserted, -, detaches, waits, -, attaches⟩ :=
      supersedes_spec sound here waiting unattached template detached done
    obtain ⟨x, found', stands⟩ :=
      stands_replaced here detaches.facts (Fact.stands_buried asserted) found
    obtain ⟨y, found'', stands'⟩ :=
      stands_replaced waits attaches.facts (Fact.stands_attached unattached _ _) found'
    exact ⟨y, found'', stands.trans stands'⟩
  | detach done =>
    obtain ⟨x, here, asserted, -, detaches, -⟩ := detach_spec sound done
    exact stands_replaced here detaches.facts (Fact.stands_buried asserted) found
  | matchFact _ done => exact (rematched_matchFact done).minds.facts h f found spare
  | addPattern done =>
    have rematched := replayable_rematched.addPattern (fun _ _ _ _ _ => .of_facts_eq rfl rfl) done
    exact rematched.minds.facts h f found spare
  | removePattern done => exact (Rematched.removePattern done).minds.facts h f found spare
  | replayNewPatterns done =>
    exact (replayable_rematched.replayAll done).minds.facts h f found spare
  | renumber | probe | allowDuplicates => exact ⟨f, found, .refl f⟩

end Store

/-! ### Staging -/

/-- Writes to slots, by position. -/
def Template.placed (t : Template) (writes : List (String × Value)) : List (Nat × Value) :=
  writes.filterMap fun x => (t.slotPosition? x.1).map (·, x.2)

namespace Modifier

open Store

variable {N : Type} [JoinNetwork N] {s₀ s s' : Store N} {h : Handle} {f : Fact} {m m' : Modifier}
  {writes : List (String × Value)} {others : Nat}

/-- A modifier was made for a fact, slots were written, and other things happened to the fact base
meanwhile, in any order. Others may pin the fact as well, and they give back no pin of it that they
do not have. -/
inductive Staging (s₀ : Store N) (h : Handle) (f : Fact) :
    Modifier → List (String × Value) → Nat → Store N → Prop
  | made {m : Modifier} {s : Store N} {others : Nat} (done : make h s₀ = .ok (m, s))
      (found : s₀.get? h = some f) (held : others < f.busy) : Staging s₀ h f m [] others s
  | put {m m' : Modifier} {s : Store N} {others : Nat} {writes : List (String × Value)}
      {slot : String} {v : Value} (before : Staging s₀ h f m writes others s)
      (done : m.putSlot s slot v = .ok m') : Staging s₀ h f m' (writes ++ [(slot, v)]) others s
  | took {m : Modifier} {s s' : Store N} {others : Nat} {writes : List (String × Value)}
      (before : Staging s₀ h f m writes others s)
      (done : s.retain h = .ok s' ∨ s.install h = .ok s') : Staging s₀ h f m writes (others + 1) s'
  | gaveBack {m : Modifier} {s s' : Store N} {others : Nat} {writes : List (String × Value)}
      (before : Staging s₀ h f m writes (others + 1) s) (gives : GivesBack h s s') :
      Staging s₀ h f m writes others s'
  | moved {m : Modifier} {s s' : Store N} {others : Nat} {writes : List (String × Value)}
      (before : Staging s₀ h f m writes others s) (move : Move s s') (keeps : ¬ GivesBack h s s') :
      Staging s₀ h f m writes others s'

/-- What has become of a fact, a modifier of it and the fact base. -/
structure Tracks (h : Handle) (f : Fact) (m : Modifier) (writes : List (String × Value))
    (others : Nat) (s : Store N) : Prop where
  reached : s.Reached
  fact : m.fact = h
  asserted : f.isAsserted = true
  held : ∃ g, s.get? h = some g ∧ f.Lasts g ∧ g.template = f.template ∧ others < g.spare
  accepted : f.template.Accepts (f.template.placed writes)
  drawn : m.changes ⊆ f.template.placed writes
  nets : Nets f.values (f.template.placed writes) m.changes

omit [JoinNetwork N] in
theorem make_eq_ok (done : make h s = .ok (m, s')) : ∃ f, s.get? h = some f ∧
    f.isAsserted = true ∧ m = { fact := h } ∧ s.retain h = .ok s' := by
  obtain ⟨f, found, done⟩ := bind_eq_ok.mp done
  split at done
  · cases done
  · split at done
    · cases done
    · rename_i u retained
      obtain ⟨rfl, rfl⟩ := Prod.mk.inj (Except.ok.inj done)
      obtain ⟨stored, asserted⟩ := asserted_eq_ok found
      exact ⟨f, stored, asserted, rfl, retained⟩

omit [JoinNetwork N] in
theorem putSlot_eq_ok {slot : String} {v : Value} (done : m.putSlot s slot v = .ok m') :
    ∃ f position known, s.get? m.fact = some f ∧
      f.template.slotPosition? slot = some position ∧
      f.template.slot? position = some known ∧ known.check v = .ok () ∧
      m' = { m with
        changes := if f.values[position]? = some v then m.changes.filter (·.1 != position)
          else m.changes.filter (·.1 != position) ++ [(position, v)] } := by
  unfold putSlot at done
  split at done
  · cases done
  · rename_i f found
    split at done
    · cases done
    · rename_i position named
      split at done
      · cases done
      · rename_i slot there
        split at done
        · cases done
        · rename_i passes
          exact ⟨f, position, slot, found, named, there, passes, (Except.ok.inj done).symm⟩

namespace Tracks

theorem made (reached : s.Reached) (done : make h s = .ok (m, s')) (found : s.get? h = some f)
    (held : others < f.busy) : Tracks h f m [] others s' := by
  obtain ⟨f', found', asserted, rfl, retained⟩ := make_eq_ok done
  obtain rfl := Option.some.inj (found.symm.trans found')
  obtain ⟨f', found', rfl⟩ := retain_eq_ok retained
  obtain rfl := Option.some.inj (found.symm.trans found')
  refine ⟨reached.move (.chore (.retain retained)), rfl, asserted, ?_, ?_, List.Subset.refl _,
    nets_nil _⟩
  · refine ⟨_, get?_setBusy_self found _, ⟨rfl, fun attached => ⟨attached, rfl, rfl⟩⟩, rfl, ?_⟩
    rwa [spare_setBusy, if_pos asserted]
  · exact fun c inside => nomatch inside

theorem attached (tracks : Tracks h f m writes others s) : f.isUnattached = false :=
  Bool.eq_false_iff.mpr fun free => not_asserted_of_unattached free tracks.asserted

/-- Whatever happens to the fact, its content stays, and the pins are enough. -/
theorem lasts (tracks : Tracks h f m writes others s) {others' : Nat} (reached : s'.Reached)
    (held : ∀ g, s.get? h = some g → g.isUnattached = false → others < g.spare →
      ∃ g', s'.get? h = some g' ∧ g.Lasts g' ∧ g'.template = g.template ∧ others' < g'.spare) :
    Tracks h f m writes others' s' := by
  obtain ⟨g, found, lasts, template, spare⟩ := tracks.held
  obtain ⟨g', found', lasts', template', spare'⟩ :=
    held g found (lasts.attached tracks.attached).1 spare
  exact { tracks with
    reached
    held := ⟨g', found', lasts.trans lasts', template'.trans template, spare'⟩ }

theorem stands (tracks : Tracks h f m writes others s) (reached : s'.Reached)
    (held : ∀ g, s.get? h = some g → g.isUnattached = false → 0 < g.spare →
      ∃ g', s'.get? h = some g' ∧ g.Stands g') : Tracks h f m writes others s' := by
  refine tracks.lasts reached fun g found attached spare => ?_
  obtain ⟨g', found', stands⟩ := held g found attached (Nat.zero_lt_of_lt spare)
  exact ⟨g', found', stands.lasts, stands.template, Nat.lt_of_lt_of_le spare stands.spare⟩

/-- The pins on the fact are changed. -/
theorem setBusy (tracks : Tracks h f m writes others s) {others' : Nat} (reached : s'.Reached)
    (held : ∀ g, s.get? h = some g → ∃ busy, s'.get? h = some { g with busy } ∧
      (others < g.spare → others' < Fact.spare { g with busy })) :
    Tracks h f m writes others' s' := by
  refine tracks.lasts reached fun g found _ spare => ?_
  obtain ⟨busy, found', enough⟩ := held g found
  exact ⟨_, found', ⟨rfl, fun attached => ⟨attached, rfl, rfl⟩⟩, rfl, enough spare⟩

theorem retain (tracks : Tracks h f m writes others s) (done : s.retain h = .ok s') :
    Tracks h f m writes (others + 1) s' := by
  refine tracks.setBusy (tracks.reached.move (.chore (.retain done))) fun g found => ?_
  obtain ⟨g', found', rfl⟩ := retain_eq_ok done
  obtain rfl := Option.some.inj (found.symm.trans found')
  refine ⟨_, get?_setBusy_self found _, ?_⟩
  rw [Fact.spare, spare_setBusy]
  omega

theorem install (tracks : Tracks h f m writes others s) (done : s.install h = .ok s') :
    Tracks h f m writes (others + 1) s' := by
  obtain ⟨u, retained, installed⟩ := bind_eq_ok.mp done
  obtain rfl := Except.ok.inj installed
  have pinned := tracks.retain retained
  exact pinned.stands (tracks.reached.move (.chore (.install done))) fun g found _ spare =>
    (minds_installFields found).facts h g found spare

theorem gaveBack (tracks : Tracks h f m writes (others + 1) s) (gives : GivesBack h s s') :
    Tracks h f m writes others s' := by
  refine tracks.setBusy (tracks.reached.move gives.move) fun g found =>
    ⟨_, (gives.pinned found).2, ?_⟩
  rw [Fact.spare, spare_setBusy]
  omega

theorem moved (tracks : Tracks h f m writes others s) (move : Move s s')
    (keeps : ¬ GivesBack h s s') : Tracks h f m writes others s' :=
  tracks.stands (tracks.reached.move move) fun _ found attached spare =>
    move.stands tracks.reached.sound found attached spare keeps

theorem put (tracks : Tracks h f m writes others s) {slot : String} {v : Value}
    (done : m.putSlot s slot v = .ok m') : Tracks h f m' (writes ++ [(slot, v)]) others s := by
  obtain ⟨x, position, known, found, named, there, passes, rfl⟩ := putSlot_eq_ok done
  obtain ⟨g, found', lasts, template, spare⟩ := tracks.held
  rw [tracks.fact] at found
  obtain rfl := Option.some.inj (found.symm.trans found')
  have values : x.values = f.values := (lasts.attached tracks.attached).2.2
  rw [template] at named there
  have last : f.template.placed (writes ++ [(slot, v)]) =
      f.template.placed writes ++ [(position, v)] := by
    rw [Template.placed, List.filterMap_append, List.filterMap_cons, named]
    rfl
  have fewer : m.changes.filter (·.1 != position) ⊆ f.template.placed writes :=
    List.Subset.trans (List.filter_subset_self _) tracks.drawn
  refine { tracks with accepted := ?_, drawn := ?_, nets := ?_ }
  · rw [last]
    intro c inside
    rcases List.mem_append.mp inside with before | new
    · exact tracks.accepted c before
    · obtain rfl := List.mem_singleton.mp new
      exact ⟨known, there, passes⟩
  · rw [last]
    split
    · exact List.subset_append_of_subset_left _ fewer
    · exact List.append_subset.mpr ⟨List.subset_append_of_subset_left _ fewer,
        List.subset_append_right _ _⟩
  · rw [last, values]
    exact tracks.nets.write position v

end Tracks

/-- However changes are staged, the fact is kept track of. -/
theorem Staging.tracks (staging : Staging s₀ h f m writes others s) (reached : s₀.Reached) :
    Tracks h f m writes others s := by
  induction staging with
  | made done found held => exact .made reached done found held
  | put _ done ih => exact ih.put done
  | took _ done ih => exact done.elim ih.retain ih.install
  | gaveBack _ gives ih => exact ih.gaveBack gives
  | moved _ move keeps ih => exact ih.moved move keeps

end Modifier

end FactBase

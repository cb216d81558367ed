import FactBase.Proofs.Process.Twins
import FactBase.Proofs.Store.Staging

/-!
# Modifiers and the direct way

A commit of a modifier comes to the same as giving back its pin and applying all that was staged, in
order: writes that change nothing, or that are undone later, make no difference. Where the fact was
retracted meanwhile, both are turned away, unless nothing is left to change; then the commit does not
look at the fact any more.
-/

namespace FactBase

open Store Process

variable {N ρ ν : Type}

/-- A value that is in place and written once more has its text in the table. -/
theorem Nets.twins {f : Fact} {writes changes : List (Nat × Value)} {t : AtomTable} {depth : Nat}
    {fields fields' : List Field} (nets : Nets f.values writes changes)
    (housed : ∀ field ∈ f.fields, field.Housed t)
    (done : patch f.template depth changes f.fields = .ok fields)
    (done' : patch f.template depth writes f.fields = .ok fields') :
    Field.Twins t fields fields' := by
  rw [patch_fields done, patch_fields done', Field.Twins, List.forall₂_iff_get]
  refine ⟨by rw [List.length_mapIdx, List.length_mapIdx], fun i here _ => ?_⟩
  rw [List.length_mapIdx] at here
  have there : f.values[i]? = some f.fields[i].value := by
    rw [Fact.values, List.getElem?_map, List.getElem?_eq_getElem here]
    rfl
  rw [List.get_eq_getElem, List.get_eq_getElem, List.getElem_mapIdx, List.getElem_mapIdx, nets i,
    there]
  by_cases same : written writes i = some f.fields[i].value
  · rw [if_pos same, same]
    exact ⟨rfl, .inr (housed _ (List.getElem_mem here)).known⟩
  · rw [if_neg same]
    exact ⟨rfl, .inl rfl⟩

namespace Store

theorem patch_of_patched {s : Store N} {h : Handle} {f : Fact} {changes : List (Nat × Value)}
    {fields : List Field} (found : s.get? h = some f) (done : s.patched h changes = .ok (f, fields)) :
    patch f.template s.openChanges changes f.fields = .ok fields := by
  obtain ⟨g, asserted, done⟩ := bind_eq_ok.mp done
  obtain rfl := Option.some.inj ((asserted_eq_ok asserted).1.symm.trans found)
  obtain ⟨fields', written, done⟩ := bind_eq_ok.mp done
  obtain ⟨-, rfl⟩ := Prod.mk.inj (Except.ok.inj done)
  exact written

end Store

namespace Process

variable {hooks : Hooks N ρ ν} {k h : Handle} {f : Fact} {w : World N ρ ν}
  {writes changes : List (Nat × Value)}

theorem endsAlike_lending {α : Type} {p p' : Process N ρ ν α}
    (within : EndsAlike k Eq
      (p { w with store := { w.store with openChanges := w.store.openChanges + 1 } })
      (p' { w with store := { w.store with openChanges := w.store.openChanges + 1 } })) :
    EndsAlike k Eq (lending p w) (lending p' w) := by
  unfold lending
  rw [getStore_bind, getStore_bind, updateStore_bind, updateStore_bind]
  refine EndsAlike.bind within fun a v v' same => ?_
  rw [same]
  exact .refl k _

variable [JoinNetwork N]

/-- Changes that the writes come to have the same effect as the writes. -/
theorem endsAlike_modifyFact (heedless : ∀ id e, Overlooks (hooks id e))
    (reached : w.store.Reached) (found : w.store.get? h = some f) (asserted : f.isAsserted = true)
    (accepted : f.template.Accepts writes) (drawn : changes ⊆ writes)
    (nets : Nets f.values writes changes) :
    ∃ k, EndsAlike k Eq (modifyFact hooks h changes w) (modifyFact hooks h writes w) := by
  obtain ⟨fields, patched, values⟩ :=
    patched_total found asserted fun c inside => accepted c (drawn inside)
  obtain ⟨fields', patched', values'⟩ := patched_total found asserted accepted
  have attached : f.isUnattached = false :=
    Bool.eq_false_iff.mpr fun free => not_asserted_of_unattached free asserted
  have alike : Field.Twins w.store.atoms fields fields' :=
    nets.twins (reached.housed h f found attached) (patch_of_patched found patched)
      (patch_of_patched found patched')
  have fits : fields.length = f.fields.length := by
    rw [patch_fields (patch_of_patched found patched), List.length_mapIdx]
  unfold modifyFact
  rw [getStore_bind, getStore_bind, patched, patched']
  dsimp only
  rw [values, values', nets.overwrite]
  by_cases unchanged : overwrite writes f.values = f.values
  · rw [if_pos unchanged, if_pos unchanged]
    exact ⟨h, .refl h _⟩
  · rw [if_neg unchanged, if_neg unchanged]
    by_cases guarded : w.store.guarded = true
    · rw [if_pos guarded, if_pos guarded]
      exact ⟨h, .refl h _⟩
    · obtain ⟨k, ends⟩ := endsAlike_replaceFact (w := { w with store := { w.store with
        openChanges := w.store.openChanges + 1 } }) heedless
        (reached.move (.chore (.lend w.store))) found fits alike
      rw [if_neg guarded, if_neg guarded]
      exact ⟨k, endsAlike_lending ends⟩

/-- Without changes nothing happens to an asserted fact. -/
theorem modifyFact_nil (hooks : Hooks N ρ ν) (found : w.store.get? h = some f)
    (asserted : f.isAsserted = true) : modifyFact hooks h [] w = .ok (.ok h) w := by
  obtain ⟨fields, patched, values⟩ := patched_total found asserted fun c inside =>
    absurd inside List.not_mem_nil
  unfold modifyFact
  rw [getStore_bind, patched]
  dsimp only
  rw [values, overwrite_nil, if_pos rfl]
  rfl

/-- A retracted fact is not modified, whatever is asked for. -/
theorem modifyFact_retracted (hooks : Hooks N ρ ν) (found : w.store.get? h = some f)
    (garbage : f.isGarbage = true) (changes : List (Nat × Value)) :
    modifyFact hooks h changes w = .ok (.error (.factRetracted h)) w := by
  have refused : w.store.patched h changes = .error (.factRetracted h) := by
    unfold patched Store.asserted
    rw [found]
    dsimp only
    rw [if_pos garbage]
    rfl
  unfold modifyFact
  rw [getStore_bind, refused]
  rfl

end Process

namespace Modifier

/-- Two runs end with the same result and the same world, or by the same fault in worlds that differ
at most in where a fact that is not attached has its texts. -/
def EndsAlike {α : Type} (r r' : EStateM.Result Fault (World N ρ ν) α) : Prop :=
  ∃ k, Process.EndsAlike k Eq r r'

/-- What becomes of a modifier of a fact through which slots were written; `s` is the fact base once
the modifier's pin is given back. -/
structure Settles [JoinNetwork N] (hooks : Hooks N ρ ν) (m : Modifier) (h : Handle) (f : Fact)
    (writes : List (String × Value)) (w : World N ρ ν) (s : Store N) : Prop where
  /-- The fact is still there, as it was. -/
  held : ∃ g, w.store.get? h = some g ∧ g.values = f.values ∧ g.template = f.template
  released : w.store.release h = .ok (.ok (), s)
  aborts : m.abort w = .ok (.ok ()) { w with store := s }
  /-- As long as the fact is asserted or there is something to change. -/
  commits : m.hasChanges = true ∨ s.isAsserted h = true →
    EndsAlike (m.commit hooks w)
      (modifyFact hooks h (f.template.placed writes) { w with store := s })
  retracted : m.hasChanges = true → s.isAsserted h = false →
    m.commit hooks w = .ok (.error (.factRetracted h)) { w with store := s }

variable {w : World N ρ ν} {m : Modifier} {h : Handle} {f : Fact}
  {writes : List (String × Value)} {others : Nat} {s : Store N}

theorem unpin_of_released (released : w.store.release m.fact = .ok (.ok (), s)) :
    m.unpin w = .ok (.ok ()) { w with store := s } := by
  unfold unpin
  rw [step_bind_of_ok released]
  rfl

variable [JoinNetwork N]

/-- Once the pin is given back, what is staged is applied, unless there is nothing to change. -/
theorem commit_of_released (hooks : Hooks N ρ ν) (released : w.store.release m.fact = .ok (.ok (), s)) :
    m.commit hooks w = if m.hasChanges then modifyFact hooks m.fact m.changes { w with store := s }
      else .ok (.ok m.fact) { w with store := s } := by
  unfold commit
  rw [bind_of_ok (unpin_of_released released), hasChanges]
  dsimp only
  cases m.changes.isEmpty <;> rfl

/-- What a modifier stages is settled. -/
theorem Tracks.settles {hooks : Hooks N ρ ν} (heedless : ∀ id e, Overlooks (hooks id e))
    (tracks : Tracks h f m writes others w.store) : ∃ s, m.Settles hooks h f writes w s := by
  obtain ⟨g, found, lasts, template, spare⟩ := tracks.held
  obtain rfl := tracks.fact
  obtain ⟨attached, index, values⟩ := lasts.attached tracks.attached
  have pinned : g.busy ≠ 0 := by
    rw [Fact.spare] at spare
    omega
  have released : w.store.release m.fact = .ok (.ok (), w.store.setBusy m.fact (g.busy - 1)) := by
    unfold Store.release
    rw [found]
    dsimp only
    rw [if_neg pinned]
  have stored := get?_setBusy_self found (g.busy - 1)
  have reached : (w.store.setBusy m.fact (g.busy - 1)).Reached :=
    tracks.reached.move (.release released)
  have committed := commit_of_released hooks released
  generalize w.store.setBusy m.fact (g.busy - 1) = s at released stored reached committed
  have still : s.isAsserted m.fact = !g.isGarbage := by
    rw [Store.isAsserted, stored, Option.any_some, Fact.isAsserted]
    dsimp only
    rw [index, bne_iff_ne.mpr (Fact.isAsserted_iff.mp tracks.asserted).1, Bool.true_and]
  have refused (garbage : g.isGarbage = true) (changes : List (Nat × Value)) :
      modifyFact hooks m.fact changes { w with store := s } =
        .ok (.error (.factRetracted m.fact)) { w with store := s } :=
    modifyFact_retracted (f := { g with busy := g.busy - 1 }) (w := { w with store := s }) hooks
      stored garbage changes
  refine ⟨s, ⟨g, found, values, template⟩, released, unpin_of_released released,
    fun either => ?_, fun changed gone => ?_⟩
  · cases garbage : g.isGarbage with
    | true =>
      have changed : m.hasChanges = true := either.resolve_right (by rw [still, garbage]; decide)
      rw [committed, if_pos changed, refused garbage, refused garbage]
      exact ⟨m.fact, .refl _ _⟩
    | false =>
      have asserted : Fact.isAsserted { g with busy := g.busy - 1 } = true := by
        have there := still
        rw [garbage, Store.isAsserted, stored] at there
        exact there
      have nets : Nets (Fact.values { g with busy := g.busy - 1 })
          (f.template.placed writes) m.changes := (congrArg (Nets · _ _) values).mpr tracks.nets
      have direct := endsAlike_modifyFact (f := { g with busy := g.busy - 1 })
        (w := { w with store := s }) heedless reached stored asserted
        ((congrArg (Template.Accepts · _) template).mpr tracks.accepted) tracks.drawn nets
      rw [committed]
      split
      · exact direct
      · rename_i unchanged
        have none : m.changes = [] := by simpa [hasChanges] using unchanged
        have same := modifyFact_nil (f := { g with busy := g.busy - 1 })
          (w := { w with store := s }) hooks stored asserted
        rw [none, same] at direct
        exact direct
  · rw [still, Bool.not_eq_false'] at gone
    rw [committed, if_pos changed, refused gone]

end Modifier

/-- Whatever happened to a fact base since a modifier was made, and whatever was staged: a commit does
what is done on the direct way, and an abort gives back the pin. -/
theorem modifier_is_direct [JoinNetwork N] {hooks : Hooks N ρ ν}
    (heedless : ∀ id e, Overlooks (hooks id e)) {s₀ : Store N} {w : World N ρ ν} {h : Handle}
    {f : Fact} {m : Modifier} {writes : List (String × Value)} {others : Nat}
    (reached : s₀.Reached) (staging : Modifier.Staging s₀ h f m writes others w.store) :
    ∃ s, m.Settles hooks h f writes w s :=
  (staging.tracks reached).settles heedless

/-- A lamp is asserted and pinned by a modifier. The room is written as it is and the watts anew; then
the lamp is retracted. -/
theorem exists_staging : ∃ (s₀ s s' : Store MatchCounter) (f : Fact) (m m₁ m₂ : Modifier),
    s₀.Reached ∧ Modifier.Staging s₀ ⟨0, 0⟩ f m [] 0 s ∧ m.putSlot s "room" .nil = .ok m₁ ∧
      m₁.putSlot s "watts" (.integer 60) = .ok m₂ ∧ m₁.hasChanges = false ∧ m₂.hasChanges = true ∧
      Move s s' ∧ ¬ GivesBack ⟨0, 0⟩ s s' ∧ s'.isAsserted ⟨0, 0⟩ = false := by
  let begun : Store MatchCounter := .fresh { hashFloor := 1 } {} fun _ _ => 0
  let lamp : Template := { name := "lamp", slots := [{ name := "room" }, { name := "watts" }] }
  let held (m₂ : Modifier) (s : Store MatchCounter) : Bool :=
    m₂.hasChanges && s.isAsserted ⟨0, 0⟩ && (s.detach ⟨0, 0⟩).toOption.any fun x =>
      !x.2.isAsserted ⟨0, 0⟩
  have shown : (begun.defineTemplate lamp).toOption.any (fun x =>
      (x.2.createFact "lamp").toOption.any fun y => (y.2.get? ⟨0, 0⟩).any fun e => e.isUnattached &&
        (y.2.attach ⟨0, 0⟩ none (y.2.hashOf e) none (y.2.listOf e.templateId).tail).toOption.any fun z =>
          (z.2.get? ⟨0, 0⟩).any fun f => decide (0 < f.busy) &&
            (Modifier.make ⟨0, 0⟩ z.2).toOption.any fun a =>
              (a.1.putSlot a.2 "room" .nil).toOption.any fun m₁ => !m₁.hasChanges &&
                (m₁.putSlot a.2 "watts" (.integer 60)).toOption.any (held · a.2)) = true := by
    decide +kernel
  simp only [Option.any_eq_true, Bool.and_eq_true, Bool.not_eq_true', decide_eq_true_eq, held,
    toOption_eq_some] at shown
  obtain ⟨⟨id, s₁⟩, defined, ⟨r, s₂⟩, created, e, waiting, unattached, ⟨index, s₃⟩, attached, f, found,
    pinned, ⟨m, s⟩, made, m₁, first, unchanged, m₂, second, ⟨changed, asserted⟩, ⟨d, s'⟩, detached,
    gone⟩ := shown
  have reached : s₃.Reached :=
    .move (.move (.move (.fresh { hashFloor := 1 } {} fun _ _ => 0) (.chore (.defineTemplate defined)))
      (.chore (.createFact created))) (.asserts waiting unattached (by simp) attached)
  refine ⟨s₃, s, s', f, m, m₁, m₂, reached, .made made found pinned, first, second, unchanged, changed,
    .detach detached, fun gives => ?_, gone⟩
  -- A fact that only loses a pin stays asserted.
  obtain ⟨g, stored, holds⟩ := isAsserted_iff_exists.mp asserted
  have kept := (gives.pinned stored).2
  rw [Store.isAsserted, kept] at gone
  exact Bool.false_ne_true (gone.symm.trans holds)

/-- A listener tries to retract the lamp and to collect garbage, and takes down the lamp's values. -/
theorem modifier_is_direct_lamp :
    let watch : Hooks MatchCounter Unit (Option (List Value)) := fun _ _ => do
      let _ ← retract (fun _ _ => pure ()) ⟨0, 0⟩
      let _ ← collectGarbage
      let s ← getStore
      record (.remark ((s.get? ⟨0, 0⟩).map (·.values)))
    ∃ (s₀ : Store MatchCounter) (w : World MatchCounter Unit (Option (List Value))) (f : Fact)
      (m : Modifier) (s : Store MatchCounter), s₀.Reached ∧
      Modifier.Staging s₀ ⟨0, 0⟩ f m [("room", .nil), ("watts", .integer 60)] 0 w.store ∧
      m.Settles watch ⟨0, 0⟩ f [("room", .nil), ("watts", .integer 60)] w s ∧
      m.commit watch w = .ok (.error (.factRetracted ⟨0, 0⟩)) { w with store := s } := by
  intro watch
  have heedless (id : ListenerId) (e : Event) : Overlooks (watch id e) :=
    (overlooks_retract _ _).bind fun _ => overlooks_collectGarbage.bind fun _ =>
      overlooks_look (fun k s s' twins => by
        rw [twins.view _ Fact.values fun _ _ same => same]) fun s => overlooks_record _
  obtain ⟨s₀, s, s', f, m, m₁, m₂, reached, begun, first, second, -, changed, move, keeps, gone⟩ :=
    exists_staging
  let w : World MatchCounter Unit (Option (List Value)) := { store := s', host := () }
  have staging : Modifier.Staging s₀ ⟨0, 0⟩ f m₂ [("room", .nil), ("watts", .integer 60)] 0 w.store :=
    .moved (.put (.put begun first) second) move keeps
  obtain ⟨u, settles⟩ := modifier_is_direct heedless reached staging
  refine ⟨s₀, w, f, m₂, u, reached, staging, settles, settles.retracted changed ?_⟩
  exact ((release_spec settles.released).alike.isAsserted ⟨0, 0⟩).trans gone

/-- If nothing is left to change, a commit does not notice that the fact was retracted. -/
theorem not_commit_retracted : ¬ ∀ (s₀ : Store MatchCounter) (w : World MatchCounter Unit Unit)
    (h : Handle) (f : Fact) (m : Modifier) (writes : List (String × Value)) (others : Nat),
    s₀.Reached → Modifier.Staging s₀ h f m writes others w.store → w.store.isAsserted h = false →
      ∃ w', m.commit (fun _ _ => pure ()) w = .ok (.error (.factRetracted h)) w' := by
  intro always
  obtain ⟨s₀, s, s', f, m, m₁, m₂, reached, begun, first, -, unchanged, -, move, keeps, gone⟩ :=
    exists_staging
  have staging : Modifier.Staging s₀ ⟨0, 0⟩ f m₁ [("room", .nil)] 0 s' :=
    .moved (.put begun first) move keeps
  let w : World MatchCounter Unit Unit := { store := s', host := () }
  have tracks : Modifier.Tracks ⟨0, 0⟩ f m₁ [("room", .nil)] 0 w.store := staging.tracks reached
  obtain ⟨u, settles⟩ := tracks.settles fun _ _ => overlooks_pure ()
  obtain ⟨w', refused⟩ := always s₀ w ⟨0, 0⟩ f m₁ _ 0 reached staging gone
  have released := settles.released
  rw [← tracks.fact] at released
  rw [Modifier.commit_of_released _ released, unchanged, if_neg Bool.false_ne_true] at refused
  cases refused

end FactBase

import FactBase.Proofs.Process.Ensures
import FactBase.Proofs.Store.Twins

/-!
# Runs in twin worlds

Listeners that do not look where a fact that is not attached has its texts do the same in twin worlds.
Then so does whatever replaces a fact by a changed copy: once the copy is attached, or freed in favour
of a fact of the same content, the two worlds are one. What would tell twins apart, such as a sweep of
the atom table, is not done while the guard is held.
-/

namespace FactBase

open Store

variable {N ρ ν α β : Type}

/-- Worlds that are the same but for where one unattached fact has its texts. -/
def World.Twins (k : Handle) (w w' : World N ρ ν) : Prop :=
  ∃ s, Store.Twins k w.store s ∧ w' = { w with store := s }

variable {k : Handle} {w w' : World N ρ ν}

theorem World.Twins.refl (k : Handle) (w : World N ρ ν) : w.Twins k w := ⟨w.store, .same, rfl⟩

namespace Process

/-- Two runs end alike: with the same result, in worlds related by `R`, or by the same fault, in
twin worlds. -/
inductive EndsAlike (k : Handle) (R : World N ρ ν → World N ρ ν → Prop) :
    EStateM.Result Fault (World N ρ ν) α → EStateM.Result Fault (World N ρ ν) α → Prop
  | ok {a : α} {w w' : World N ρ ν} (related : R w w') : EndsAlike k R (.ok a w) (.ok a w')
  | error {f : Fault} {w w' : World N ρ ν} (twins : w.Twins k w') :
      EndsAlike k R (.error f w) (.error f w')

/-- What does the same in twin worlds. -/
def Overlooks (p : Process N ρ ν α) : Prop :=
  ∀ ⦃k : Handle⦄ ⦃w w' : World N ρ ν⦄, w.Twins k w' → EndsAlike k (World.Twins k) (p w) (p w')

variable {p p' : Process N ρ ν α} {R Q : World N ρ ν → World N ρ ν → Prop}

theorem EndsAlike.refl (k : Handle) (r : EStateM.Result Fault (World N ρ ν) α) :
    EndsAlike k Eq r r := by
  cases r with
  | ok a w => exact .ok rfl
  | error f w => exact .error (.refl k w)

theorem EndsAlike.bind {q q' : α → Process N ρ ν β} (first : EndsAlike k R (p w) (p' w'))
    (rest : ∀ a v v', R v v' → EndsAlike k Q (q a v) (q' a v')) :
    EndsAlike k Q ((p >>= q) w) ((p' >>= q') w') := by
  generalize ran : p w = r, ran' : p' w' = r' at first
  cases first with
  | ok related =>
    rw [bind_of_ok ran, bind_of_ok ran']
    exact rest _ _ _ related
  | error twins =>
    rw [bind_of_error ran, bind_of_error ran']
    exact .error twins

/-! ### What overlooks the difference -/

theorem overlooks_pure (a : α) : Overlooks (pure a : Process N ρ ν α) := fun _ _ _ twins => .ok twins

theorem Overlooks.bind {q : α → Process N ρ ν β} (first : Overlooks p)
    (rest : ∀ a, Overlooks (q a)) : Overlooks (p >>= q) :=
  fun _ _ _ twins => (first twins).bind fun a _ _ twins => rest a twins

/-- Whoever looks at what twins have in common goes on in the same way. -/
theorem overlooks_look {q : Store N → Process N ρ ν α}
    (blind : ∀ ⦃k : Handle⦄ ⦃s s' : Store N⦄, s.Twins k s' → q s' = q s)
    (rest : ∀ s, Overlooks (q s)) : Overlooks (getStore >>= q) := by
  rintro k w w' ⟨s, twins, rfl⟩
  change EndsAlike k _ (q w.store w) (q s _)
  rw [blind twins]
  exact rest _ ⟨s, twins, rfl⟩

theorem overlooks_update {φ : Store N → Store N} (facts : ∀ s, (φ s).facts = s.facts)
    (atoms : ∀ s, (φ s).atoms = s.atoms) (guarded : ∀ s, (φ s).guarded = s.guarded)
    (apart : ∀ s k fields, φ (refield s k fields) = (φ s).refield k fields) :
    Overlooks (updateStore φ : Process N ρ ν Unit) := by
  rintro k w w' ⟨s, twins, rfl⟩
  exact .ok ⟨_, twins.keep (facts _) (atoms _) (guarded _) (apart _ _), rfl⟩

theorem overlooks_record (e : Entry ν) : Overlooks (record e : Process N ρ ν Unit) := by
  rintro k w w' ⟨s, twins, rfl⟩
  exact .ok ⟨s, twins, rfl⟩

theorem overlooks_notifyAll (ns : List Notice) : Overlooks (notifyAll ns : Process N ρ ν Unit) := by
  rintro k w w' ⟨s, twins, rfl⟩
  exact .ok ⟨s, twins, rfl⟩

/-- What matters is what is done while the guard is held. -/
theorem Overlooks.of_guarded (overlooks : Overlooks p')
    (same : ∀ w, w.store.guarded = true → p w = p' w) : Overlooks p := by
  rintro k w w' ⟨s, twins, rfl⟩
  cases twins with
  | same =>
    cases p w with
    | ok a v => exact .ok (.refl k v)
    | error f v => exact .error (.refl k v)
  | refield guarded found unattached alike =>
    have both := overlooks ⟨_, .refield guarded found unattached alike, rfl⟩
    rw [← same w guarded] at both
    exact (same { w with store := w.store.refield k _ } guarded) ▸ both

/-- Nothing is collected. -/
theorem overlooks_collectGarbage : Overlooks (collectGarbage : Process N ρ ν Nat) :=
  (overlooks_pure 0).of_guarded fun w guarded =>
    step_of_ok (s := w.store) (by unfold Store.collectGarbage; rw [if_pos guarded])

theorem overlooks_refuse (operation : GuardedOperation) :
    Overlooks (refuse operation : Process N ρ ν Unit) :=
  Overlooks.bind (overlooks_update (fun _ => rfl) (fun _ => rfl) (fun _ => rfl) fun _ _ _ => rfl)
    fun _ => overlooks_record _

/-- Nothing is retracted. -/
theorem overlooks_retract [JoinNetwork N] (hooks : Hooks N ρ ν) (h : Handle) :
    Overlooks (retract hooks h) := by
  let refusal : Option (Bool × Nat) → Process N ρ ν (Except RetractError Unit)
    | none => return .error (.unknownFact h)
    | some (true, _) => return .ok ()
    | some (false, 0) => return .error (.notAsserted h)
    | some (false, _ + 1) => do
      refuse .retract
      return .error .couldNotRetract
  let seen (s : Store N) : Option (Bool × Nat) := (s.get? h).map fun f => (f.isGarbage, f.index)
  have looks : Overlooks (getStore >>= fun s => refusal (seen s)) := by
    refine overlooks_look (fun k s s' twins => congrArg refusal
      (twins.view h _ fun _ _ _ => rfl)) fun s => ?_
    match seen s with
    | none | some (true, _) | some (false, 0) => exact overlooks_pure _
    | some (false, _ + 1) => exact (overlooks_refuse _).bind fun _ => overlooks_pure _
  refine looks.of_guarded fun w guarded => ?_
  unfold retract
  rw [getStore_bind, getStore_bind]
  dsimp only [seen]
  cases w.store.get? h with
  | none => rfl
  | some f =>
    rw [Option.map_some]
    dsimp only
    cases f.isGarbage with
    | true => rfl
    | false =>
      cases f.index with
      | zero => rfl
      | succ =>
        rw [guarded]
        rfl

/-- A step that goes the same way from twins. -/
theorem endsAlike_step {f : Store N → Except Breach (α × Store N)} {s : Store N}
    (twins : w.store.Twins k s) (steps : StepsAlike k (f w.store) (f s)) :
    EndsAlike k (World.Twins k) (step f w) (step f { w with store := s }) := by
  have shape (w : World N ρ ν) : step f w =
      (orBreach (f w.store) >>= fun x => setStore x.2 >>= fun _ => pure x.1) w := rfl
  rw [shape, shape]
  dsimp only
  generalize f w.store = x, f s = x' at steps
  cases steps with
  | ok twins' => exact .ok ⟨_, twins', rfl⟩
  | error b => exact .error ⟨s, twins, rfl⟩

/-! ### Events -/

section

variable {hooks : Hooks N ρ ν} (heedless : ∀ id e, Overlooks (hooks id e))
include heedless

theorem overlooks_callAll (e : Event) (rs : List Registration) : Overlooks (callAll hooks e rs) := by
  induction rs with
  | nil => exact overlooks_pure ()
  | cons r rest ih =>
    have running (running : List ListenerId) :
        Overlooks (setRunning running : Process N ρ ν Unit) :=
      overlooks_update (fun _ => rfl) (fun _ => rfl) (fun _ => rfl) fun _ _ _ => rfl
    refine overlooks_look (fun k s s' twins => by cases twins <;> rfl) fun s => ?_
    dsimp only
    split
    · exact ih
    · exact (running _).bind fun _ => (heedless _ _).bind fun _ => (running _).bind fun _ => ih

theorem overlooks_signal (e : Event) : Overlooks (signal hooks e) :=
  overlooks_look (fun k s s' twins => by cases twins <;> rfl) fun s =>
    overlooks_callAll heedless e s.listeners.entries

end

/-! ### Replacing a fact -/

/-- Twins that come to be one by a step go on as one. -/
theorem endsAlike_of_step {f : Store N → Except Breach (α × Store N)}
    (same : ∀ s s', Store.Twins k s s' → f s' = f s) (twins : w.Twins k w')
    (q : α → Process N ρ ν β) :
    EndsAlike k Eq ((step f >>= q) w) ((step f >>= q) w') := by
  obtain ⟨s, twins, rfl⟩ := twins
  cases done : f w.store with
  | ok x =>
    obtain ⟨a, u⟩ := x
    rw [step_bind_of_ok done, step_bind_of_ok ((same _ _ twins).trans done)]
    exact .refl k _
  | error b =>
    rw [step_bind_of_error done, step_bind_of_error ((same _ _ twins).trans done)]
    exact .error ⟨s, twins, rfl⟩

theorem endsAlike_rejectDuplicate (twins : w.Twins k w') :
    EndsAlike k Eq (rejectDuplicate k w) (rejectDuplicate k w') := by
  unfold rejectDuplicate
  rw [change_eq_step]
  exact endsAlike_of_step (fun s s' twins => by rw [twins.free]) twins _

variable [JoinNetwork N] {hooks : Hooks N ρ ν}

/-- Another fact is detached. -/
theorem endsAlike_detach {h : Handle} (twins : w.Twins k w') (other : k ≠ h) :
    EndsAlike k (World.Twins k) (detach h w) (detach h w') := by
  obtain ⟨s, twins, rfl⟩ := twins
  refine (endsAlike_step twins (twins.detach other)).bind fun d v v' twins => ?_
  exact (overlooks_notifyAll d.notices twins).bind fun _ _ _ twins => .ok twins

/-- Once a copy is made, it does not matter where it has its texts. -/
theorem endsAlike_replaceFact (heedless : ∀ id e, Overlooks (hooks id e)) {h : Handle} {f : Fact}
    {fields fields' : List Field} (reached : w.store.Reached) (found : w.store.get? h = some f)
    (fits : fields.length = f.fields.length)
    (alike : Field.Twins w.store.atoms fields fields') :
    ∃ k, EndsAlike k Eq (replaceFact hooks h f fields w) (replaceFact hooks h f fields' w) := by
  obtain ⟨k, u, made⟩ := createWith_total reached.reachable.tallied found fits
  have made' := createWith_refield reached.sound.tidy made alike.length
  have twins := createWith_twins reached.sound.tidy alike made
  have other : k ≠ h := by
    rintro rfl
    obtain ⟨-, fresh, -⟩ := createWith_spec reached.sound made
    cases found.symm.trans fresh
  refine ⟨k, ?_⟩
  have hashed : (u.refield k fields').hashOf { f with fields := fields' } =
      u.hashOf { f with fields } := congrArg (u.contentHash f.templateId) alike.values
  have looked (hash : UInt64) :
      (u.refield k fields').duplicateOf? k { f with fields := fields' } hash =
        u.duplicateOf? k { f with fields } hash :=
    duplicateOf?_refield u k { f with fields } hash alike.values
  unfold replaceFact setGuarded
  rw [step_bind_of_ok made, step_bind_of_ok made', getStore_bind, getStore_bind]
  dsimp only
  rw [hashed, looked, updateStore_bind, updateStore_bind]
  generalize u.hashOf { f with fields } = hash
  generalize u.duplicateOf? k { f with fields } hash = duplicate
  have twins : World.Twins k { w with store := { u with guarded := true } }
      { w with store := { u.refield k fields' with guarded := true } } := ⟨_, twins, rfl⟩
  refine (overlooks_signal heedless _ twins).bind fun _ v v' twins => ?_
  refine (endsAlike_detach twins other).bind fun d v v' twins => ?_
  cases duplicate with
  | some existing =>
    exact (endsAlike_rejectDuplicate twins).bind fun _ v v' same => same ▸ .refl k _
  | none => exact endsAlike_of_step (fun s s' twins => twins.attach _ _ _ _) twins _

end Process

end FactBase

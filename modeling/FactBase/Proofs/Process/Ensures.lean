import FactBase.Process

/-!
# What processes make sure of

A process comes to an end or is ended by a fault. `Ensures p w Q E` says that `p`, started in the
world `w`, ends with a result and a world of which `Q` holds, or by a fault in a world of which `E`
holds. There is one rule for each way processes are put together.
-/

namespace FactBase.Process

variable {N ρ ν α β : Type} {w : World N ρ ν} {E : World N ρ ν → Prop}

def Ensures (p : Process N ρ ν α) (w : World N ρ ν) (Q : α → World N ρ ν → Prop)
    (E : World N ρ ν → Prop) : Prop :=
  match p w with
  | .ok a w' => Q a w'
  | .error _ w' => E w'

theorem ensures_mono {p : Process N ρ ν α} {Q R : α → World N ρ ν → Prop}
    (ensures : Ensures p w Q E) (implies : ∀ a w', Q a w' → R a w') : Ensures p w R E := by
  unfold Ensures at ensures ⊢
  cases ran : p w with
  | ok a w' =>
    rw [ran] at ensures
    exact implies a w' ensures
  | error e w' =>
    rw [ran] at ensures
    exact ensures

theorem ensures_weaken {p : Process N ρ ν α} {Q : α → World N ρ ν → Prop} {F : World N ρ ν → Prop}
    (ensures : Ensures p w Q E) (implies : ∀ w', E w' → F w') : Ensures p w Q F := by
  unfold Ensures at ensures ⊢
  cases ran : p w with
  | ok a w' =>
    rw [ran] at ensures
    exact ensures
  | error e w' =>
    rw [ran] at ensures
    exact implies w' ensures

theorem ensures_and {p : Process N ρ ν α} {Q R : α → World N ρ ν → Prop}
    {F : World N ρ ν → Prop} (first : Ensures p w Q E) (second : Ensures p w R F) :
    Ensures p w (fun a w' => Q a w' ∧ R a w') E := by
  unfold Ensures at first second ⊢
  cases ran : p w with
  | ok a w' =>
    rw [ran] at first second
    exact ⟨first, second⟩
  | error e w' =>
    rw [ran] at first
    exact first

/-- What cannot be ended by a fault comes to an end. -/
theorem ensures_exists {p : Process N ρ ν α} {Q : α → World N ρ ν → Prop}
    (ensures : Ensures p w Q fun _ => False) : ∃ a w', p w = .ok a w' ∧ Q a w' := by
  unfold Ensures at ensures
  cases ran : p w with
  | ok a w' =>
    rw [ran] at ensures
    exact ⟨a, w', rfl, ensures⟩
  | error e w' =>
    rw [ran] at ensures
    exact ensures.elim

theorem ensures_of_ok {p : Process N ρ ν α} {a : α} {w' : World N ρ ν}
    {Q : α → World N ρ ν → Prop} (ran : p w = .ok a w') (holds : Q a w') : Ensures p w Q E := by
  unfold Ensures
  rw [ran]
  exact holds

theorem ensures_pure {a : α} {Q : α → World N ρ ν → Prop} (holds : Q a w) :
    Ensures (pure a) w Q E := holds

theorem ensures_bind {p : Process N ρ ν α} {k : α → Process N ρ ν β} {Q : β → World N ρ ν → Prop}
    (first : Ensures p w (fun a w' => Ensures (k a) w' Q E) E) : Ensures (p >>= k) w Q E := by
  unfold Ensures at first ⊢
  change match EStateM.bind p k w with | .ok a w' => Q a w' | .error _ w' => E w'
  unfold EStateM.bind
  cases ran : p w with
  | ok a w' =>
    rw [ran] at first
    exact first
  | error e w' =>
    rw [ran] at first
    exact first

theorem ensures_trivial (p : Process N ρ ν α) (w : World N ρ ν) :
    Ensures p w (fun _ _ => True) fun _ => True := by
  unfold Ensures
  split <;> trivial

/-- What holds whatever comes first. -/
theorem ensures_after {p : Process N ρ ν α} {k : α → Process N ρ ν β} {Q : β → World N ρ ν → Prop}
    (rest : ∀ a w', Ensures (k a) w' Q fun _ => True) : Ensures (p >>= k) w Q fun _ => True :=
  ensures_bind (ensures_mono (ensures_trivial p w) fun a w' _ => rest a w')

theorem ensures_throw {f : Fault} {Q : α → World N ρ ν → Prop} (holds : E w) :
    Ensures (throw f) w Q E := holds

theorem ensures_getStore {Q : Store N → World N ρ ν → Prop} (holds : Q w.store w) :
    Ensures getStore w Q E := holds

theorem ensures_setStore {s : Store N} {Q : Unit → World N ρ ν → Prop}
    (holds : Q () { w with store := s }) : Ensures (setStore s) w Q E := holds

theorem ensures_updateStore {f : Store N → Store N} {Q : Unit → World N ρ ν → Prop}
    (holds : Q () { w with store := f w.store }) : Ensures (updateStore f) w Q E := holds

theorem ensures_record {e : Entry ν} {Q : Unit → World N ρ ν → Prop}
    (holds : Q () { w with journal := w.journal.push e }) : Ensures (record e) w Q E := holds

theorem ensures_notifyAll {ns : List Notice} {Q : Unit → World N ρ ν → Prop}
    (holds : Q () { w with journal := w.journal ++ (ns.map Entry.notice).toArray }) :
    Ensures (notifyAll ns) w Q E := holds

/-- A breach ends the process once it is reported. -/
theorem ensures_orBreach {x : Except Breach α} {Q : α → World N ρ ν → Prop}
    (done : ∀ a, x = .ok a → Q a w)
    (broken : ∀ b, x = .error b → E { w with journal := w.journal.push (.notice (.broken b)) }) :
    Ensures (orBreach x) w Q E := by
  cases x with
  | ok a => exact done a rfl
  | error b => exact broken b rfl

theorem ensures_step {f : Store N → Except Breach (α × Store N)} {Q : α → World N ρ ν → Prop}
    (done : ∀ a s, f w.store = .ok (a, s) → Q a { w with store := s })
    (broken : ∀ b, f w.store = .error b →
      E { w with journal := w.journal.push (.notice (.broken b)) }) :
    Ensures (step f) w Q E := by
  refine ensures_bind (ensures_getStore (ensures_bind (ensures_orBreach ?_ broken)))
  rintro ⟨a, s⟩ same
  exact ensures_bind (ensures_setStore (ensures_pure (done a s same)))

theorem ensures_change {f : Store N → Except Breach (Store N)} {Q : Unit → World N ρ ν → Prop}
    (done : ∀ s, f w.store = .ok s → Q () { w with store := s })
    (broken : ∀ b, f w.store = .error b →
      E { w with journal := w.journal.push (.notice (.broken b)) }) :
    Ensures (change f) w Q E := by
  refine ensures_bind (ensures_getStore (ensures_bind (ensures_orBreach ?_ broken)))
  exact fun s same => ensures_setStore (done s same)

/-- A step that is known to succeed. -/
theorem ensures_step_of_ok {f : Store N → Except Breach (α × Store N)} {a : α} {s : Store N}
    {Q : α → World N ρ ν → Prop} (done : f w.store = .ok (a, s)) (holds : Q a { w with store := s }) :
    Ensures (step f) w Q E := by
  refine ensures_bind (ensures_getStore ?_)
  rw [done]
  exact holds

theorem ensures_change_of_ok {f : Store N → Except Breach (Store N)} {s : Store N}
    {Q : Unit → World N ρ ν → Prop} (done : f w.store = .ok s) (holds : Q () { w with store := s }) :
    Ensures (change f) w Q E := by
  refine ensures_bind (ensures_getStore ?_)
  rw [done]
  exact holds

theorem ensures_attempt {ε : Type} {f : Store N → Except ε (α × Store N)}
    {Q : Except ε α → World N ρ ν → Prop}
    (done : ∀ a s, f w.store = .ok (a, s) → Q (.ok a) { w with store := s })
    (declined : ∀ e, f w.store = .error e → Q (.error e) w) : Ensures (attempt f) w Q E := by
  refine ensures_bind (ensures_getStore ?_)
  cases same : f w.store with
  | error e => exact ensures_pure (declined e same)
  | ok result =>
    obtain ⟨a, s⟩ := result
    exact ensures_bind (ensures_setStore (ensures_pure (done a s same)))

theorem ensures_attemptChange {ε : Type} {f : Store N → Except ε (Store N)}
    {Q : Except ε Unit → World N ρ ν → Prop}
    (done : ∀ s, f w.store = .ok s → Q (.ok ()) { w with store := s })
    (declined : ∀ e, f w.store = .error e → Q (.error e) w) :
    Ensures (attemptChange f) w Q E := by
  refine ensures_attempt (fun a s same => ?_) fun e same => ?_
  · cases changed : f w.store with
    | error e => simp [changed, Except.map] at same
    | ok u =>
      obtain rfl : u = s := by simpa [changed, Except.map] using same
      exact done u changed
  · cases changed : f w.store with
    | error e' =>
      obtain rfl : e' = e := by simpa [changed, Except.map] using same
      exact declined e' changed
    | ok u => simp [changed, Except.map] at same

/-- Where nobody listens, an event passes unnoticed. -/
theorem ensures_signal_of_unheard {hooks : Hooks N ρ ν} {e : Event}
    {Q : Unit → World N ρ ν → Prop} (unheard : w.store.listeners.entries = []) (holds : Q () w) :
    Ensures (signal hooks e) w Q E := by
  refine ensures_bind (ensures_getStore ?_)
  rw [unheard]
  exact ensures_pure holds

/-! ### Running on -/

theorem getStore_bind (k : Store N → Process N ρ ν α) : (getStore >>= k) w = k w.store w := rfl

theorem updateStore_bind (f : Store N → Store N) (k : Unit → Process N ρ ν α) :
    (updateStore f >>= k) w = k () { w with store := f w.store } := rfl

/-- What follows a process that comes to an end goes on from there. -/
theorem bind_of_ok {p : Process N ρ ν α} {a : α} {w' : World N ρ ν} (ran : p w = .ok a w')
    (k : α → Process N ρ ν β) : (p >>= k) w = k a w' := by
  change EStateM.bind p k w = _
  rw [EStateM.bind, ran]

/-- Nothing follows a process that a fault ends. -/
theorem bind_of_error {p : Process N ρ ν α} {f : Fault} {w' : World N ρ ν} (ran : p w = .error f w')
    (k : α → Process N ρ ν β) : (p >>= k) w = .error f w' := by
  change EStateM.bind p k w = _
  rw [EStateM.bind, ran]

theorem step_of_ok {f : Store N → Except Breach (α × Store N)} {a : α} {s : Store N}
    (done : f w.store = .ok (a, s)) : step f w = .ok a { w with store := s } := by
  change (getStore >>= _) w = _
  rw [getStore_bind, done]
  rfl

/-- What follows a step that succeeds goes on from where it leads. -/
theorem step_bind_of_ok {f : Store N → Except Breach (α × Store N)} {a : α} {s : Store N}
    (done : f w.store = .ok (a, s)) (k : α → Process N ρ ν β) :
    (step f >>= k) w = k a { w with store := s } := bind_of_ok (step_of_ok done) k

/-- Nothing follows a step that breaks off. -/
theorem step_bind_of_error {f : Store N → Except Breach (α × Store N)} {b : Breach}
    (failed : f w.store = .error b) (k : α → Process N ρ ν β) :
    (step f >>= k) w = (breach b : Process N ρ ν β) w := by
  have stepped : step f w = (breach b : Process N ρ ν α) w := by
    change (getStore >>= _) w = _
    rw [getStore_bind, failed]
    rfl
  change EStateM.bind (step f) k w = _
  rw [EStateM.bind, stepped]
  rfl

/-- A step without a result is one whose result says nothing. -/
theorem change_eq_step (f : Store N → Except Breach (Store N)) :
    (change f : Process N ρ ν Unit) = step fun s => (f s).map ((), ·) := by
  funext w
  change (orBreach (f w.store) >>= setStore) w =
    (orBreach ((f w.store).map ((), ·)) >>= fun x => setStore x.2 >>= fun _ => pure x.1) w
  cases f w.store <;> rfl

theorem attemptChange_of_ok {ε : Type} {f : Store N → Except ε (Store N)} {s : Store N}
    (done : f w.store = .ok s) : attemptChange f w = .ok (.ok ()) { w with store := s } := by
  change (getStore >>= _) w = _
  rw [getStore_bind]
  dsimp only
  rw [done]
  rfl

end FactBase.Process

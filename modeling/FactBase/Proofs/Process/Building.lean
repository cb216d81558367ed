import FactBase.Proofs.Process.Declined
import FactBase.Proofs.Process.Ensures
import FactBase.Proofs.Process.Schemas
import FactBase.Proofs.Store.Filling
import FactBase.Proofs.Store.Realm

/-!
# Builders and the direct way

A commit of a builder comes to the same as making a fact of defaults, writing the slots that were set
one by one and asserting it, provided that no default has a producer. A builder that is turned away
before that leaves the fact base alone, and keeps what is set unless its template is gone.
-/

namespace FactBase

open Store Process TemplateRegistry

variable {N ρ ν : Type}

namespace Process

/-- Writes slots of an unattached fact until one is refused. -/
def putSlots (h : Handle) : List (String × Value) → Process N ρ ν (Except StoreError Unit)
  | [] => return .ok ()
  | (slot, v) :: rest => do
    match ← attemptChange (·.putSlot h slot v) with
    | .error e => return .error e
    | .ok () => putSlots h rest

/-- Makes a fact of defaults, writes some of its slots and asserts it. -/
def assertFilled [JoinNetwork N] (hooks : Hooks N ρ ν) (name : String)
    (writes : List (String × Value)) : Process N ρ ν (Except Failure Asserted) := do
  match ← step (·.createFact name) with
  | .error e => return .error (.store e)
  | .ok h =>
    match ← putSlots h writes with
    | .error e => return .error (.store e)
    | .ok () =>
      match ← assertFact hooks h with
      | .error e => return .error (.assert e)
      | .ok a => return .ok a

theorem putSlots_of_ok {h : Handle} {writes : List (String × Value)} {w : World N ρ ν} {s : Store N}
    (done : w.store.putSlots h writes = .ok s) :
    putSlots h writes w = .ok (.ok ()) { w with store := s } := by
  induction writes generalizing w with
  | nil =>
    obtain rfl := Except.ok.inj done
    rfl
  | cons write rest ih =>
    obtain ⟨u, first, done⟩ := bind_eq_ok.mp done
    unfold putSlots
    rw [bind_of_ok (attemptChange_of_ok first)]
    exact ih (w := { w with store := u }) done

end Process

namespace Builder

variable {s s₀ : Store N} {b b' b₀ : Builder} {writes : List (String × Value)} {w : World N ρ ν}

/-- A commit and the direct way end alike: with the same fact, with the rule network's complaint about
the same fact, or by the same fault. What is set is forgotten. -/
inductive EndsAlike (b : Builder) :
    EStateM.Result Fault (World N ρ ν) (Except BuilderError Asserted × Builder) →
    EStateM.Result Fault (World N ρ ν) (Except Failure Asserted) → Prop
  | asserted (a : Asserted) (w : World N ρ ν) : EndsAlike b (.ok (.ok a, b.reset) w) (.ok (.ok a) w)
  | failed (h : Handle) (i : Nat) (w : World N ρ ν) :
      EndsAlike b (.ok (.error (.ruleNetwork h i), b.reset) w)
        (.ok (.error (.assert (.ruleNetwork h i))) w)
  | ended (f : Fault) (w : World N ρ ν) : EndsAlike b (.error f w) (.error f w)

/-- What becomes of a builder in which slots were set, one after the other, when it is committed. -/
structure Commits [JoinNetwork N] (hooks : Hooks N ρ ν) (b : Builder) (writes : List (String × Value))
    (w : World N ρ ν) : Prop where
  refused : w.store.guarded = true → b.commit hooks w = .ok (.error .couldNotAssert, b) w
  /-- The template is removed, or another one has taken its name. -/
  gone : w.store.guarded = false → w.store.templates.find? b.template.name ≠ some b.templateId →
    b.commit hooks w = .ok (.error (.unknownTemplate b.template.name), b.reset) w
  /-- Only producers notice what is given up for want of a slot. -/
  incomplete : w.store.guarded = false →
    w.store.templates.find? b.template.name = some b.templateId →
    ∀ slot, b.missing.head? = some slot → ∃ draws, (b.isStatic = true → draws = w.store.draws) ∧
      b.commit hooks w = .ok (.error (.slotRequired b.template.name slot.name), b)
        { w with store := { w.store with draws } }
  complete : w.store.guarded = false →
    w.store.templates.find? b.template.name = some b.templateId →
    b.missing = [] → b.isStatic = true →
      b.EndsAlike (b.commit hooks w) (assertFilled hooks b.template.name writes w)
  emptied : ∀ slot, b.reset.isSet slot = false

theorem isSet_reset (b : Builder) (slot : String) : b.reset.isSet slot = false := by
  rw [isSet, reset, Option.any_eq_false]
  intro position _
  rw [List.getElem?_map]
  cases b.staged[position]? <;> rfl

theorem putSlots_eq_ok (done : b.putSlots writes = .ok b') : ∃ staged, b' = { b with staged } := by
  induction writes generalizing b with
  | nil =>
    obtain rfl := Except.ok.inj done
    exact ⟨_, rfl⟩
  | cons write rest ih =>
    obtain ⟨next, set, done⟩ := bind_eq_ok.mp done
    obtain ⟨position, slot, -, -, -, rfl⟩ := putSlot_eq_ok set
    obtain ⟨staged, rfl⟩ := ih done
    exact ⟨staged, rfl⟩

theorem Drafts.putSlots (drafts : b.Drafts s) (done : b.putSlots writes = .ok b') :
    b'.Drafts s := by
  induction writes generalizing b with
  | nil =>
    obtain rfl := Except.ok.inj done
    exact drafts
  | cons write rest ih =>
    obtain ⟨next, set, done⟩ := bind_eq_ok.mp done
    exact ih (drafts.set set) done

theorem Drafts.realm (drafts : b.Drafts s) : b.realm = s.realm := by
  induction drafts with
  | made done =>
    obtain ⟨e, -, rfl, -⟩ := makeBuilder_eq_ok done
    rfl
  | set _ done ih =>
    obtain ⟨_, _, -, -, -, rfl⟩ := putSlot_eq_ok done
    exact ih
  | reset _ ih => exact ih

variable [JoinNetwork N]

/-- A builder is current as long as its template goes by its name. -/
theorem Drafts.isCurrent_iff (reached : s₀.Reached) (path : Path s₀ s) (drafts : b.Drafts s₀) :
    b.isCurrent s = true ↔ s.templates.find? b.template.name = some b.templateId := by
  have later := reached.path path
  have home : b.realm = s.templates.realm :=
    (drafts.realm.trans reached.realm).trans later.realm.symm
  rw [isCurrent, home, beq_self_eq_true, Bool.true_and, Option.isSome_iff_exists]
  constructor
  · rintro ⟨t, known⟩
    obtain rfl := template_of_drafts reached path drafts known
    obtain ⟨e, defined, number, template⟩ := mem_catalogue.mp (mem_catalogue_of_get? known)
    dsimp only at number template
    rw [find?, ← template, later.furnished.byName? defined, Option.map_some, number]
  · intro named
    obtain ⟨e, named, number⟩ := Option.map_eq_some_iff.mp named
    have listed : (e.id, e.template) ∈ s.templates.catalogue :=
      List.mem_map_of_mem (List.mem_of_find?_eq_some named)
    exact ⟨e.template, number ▸ get?_of_mem_catalogue later.reachable.tallied.once listed⟩

/-- What is asserted is the same fact on both ways. -/
theorem endsAlike_assertFact (b : Builder) (hooks : Hooks N ρ ν) {h : Handle} {f : Fact}
    (found : w.store.get? h = some f) (unattached : f.isUnattached = true)
    (free : w.store.guarded = false) :
    b.EndsAlike ((assertFact hooks h >>= fun
        | .ok a => pure (.ok a, b.reset)
        | .error e => pure (.error (.ofAssertError e), b.reset)) w)
      ((assertFact hooks h >>= fun
        | .error e => pure (.error (.assert e))
        | .ok a => pure (.ok a)) w) := by
  have answers := ensures_assertMade hooks found unattached free
  unfold Ensures at answers
  cases ran : assertFact hooks h w with
  | error fault w' =>
    rw [bind_of_error ran, bind_of_error ran]
    exact .ended fault w'
  | ok r w' =>
    rw [ran] at answers
    rw [bind_of_ok ran, bind_of_ok ran]
    cases r with
    | ok a => exact .asserted a w'
    | error e =>
      obtain ⟨k, i, rfl⟩ := answers e rfl
      exact .failed k i w'

/-- The fact that is made of what is set is the one that is made of defaults and written to. -/
theorem endsAlike_commit (hooks : Hooks N ρ ν) (reached : w.store.Reached)
    (free : w.store.guarded = false) (current : b.isCurrent w.store = true)
    (known : w.store.templates.get? b.templateId = some b.template)
    (named : w.store.templates.find? b.template.name = some b.templateId)
    (whole : b₀.staged.length = b₀.template.slots.length)
    (staged : b₀.reset.putSlots writes = .ok b) (static : b.isStatic = true)
    (complete : b.missing = []) :
    b.EndsAlike (b.commit hooks w) (assertFilled hooks b.template.name writes w) := by
  have sound := reached.sound
  obtain ⟨_, same⟩ := putSlots_eq_ok staged
  have unset : b.template.slots.map Slot.settled = b₀.reset.filled := by
    rw [filled_reset whole, same]
    rfl
  have defaults : w.store.defaultFields b.templateId b.template.slots.zipIdx =
      (b₀.reset.filled, w.store) := by
    refine unset ▸ defaultFields_static known fun slot listed => ?_
    simpa using List.all_eq_true.mp static slot listed
  obtain ⟨h, u, made⟩ : ∃ h u, w.store.createWith b.templateId b.template b₀.reset.filled =
      .ok (h, u) := by
    obtain ⟨e, entry, -⟩ := Option.map_eq_some_iff.mp known
    have counted : w.store.templates.incrementBusy b.templateId = .ok _ := if_pos (entry ▸ rfl)
    refine createWith_of_counted counted ?_
    rw [← unset, List.length_map, Template.arity]
  have created : w.store.createFact b.template.name = .ok (.ok h, u) := by
    obtain ⟨e, entry, number⟩ := Option.map_eq_some_iff.mp named
    have listed : (e.id, e.template) ∈ w.store.templates.catalogue :=
      List.mem_map_of_mem (List.mem_of_find?_eq_some entry)
    have template := get?_of_mem_catalogue reached.reachable.tallied.once listed
    dsimp only at template
    rw [number, known] at template
    unfold createFact
    rw [entry]
    dsimp only
    rw [number, ← Option.some.inj template, defaults]
    dsimp only
    rw [made]
    rfl
  obtain ⟨v, written, filled⟩ : ∃ v, u.putSlots h writes = .ok v ∧
      w.store.createWith b.templateId b.template b.filled = .ok (h, v) := by
    subst same
    exact @putSlots_created N w.store u b₀.reset _ h sound.tidy writes staged made
  have direct : assertFilled hooks b.template.name writes w = (assertFact hooks h >>= fun
      | .error e => pure (.error (.assert e))
      | .ok a => pure (.ok a)) { w with store := v } := by
    unfold assertFilled
    rw [step_bind_of_ok created]
    dsimp only
    rw [bind_of_ok (putSlots_of_ok (w := { w with store := u }) written)]
  have committed : b.commit hooks w = (assertFact hooks h >>= fun
      | .ok a => pure (.ok a, b.reset)
      | .error e => pure (.error (.ofAssertError e), b.reset)) { w with store := v } := by
    unfold commit
    rw [getStore_bind, free, current, fields_complete known static complete]
    exact step_bind_of_ok filled _
  obtain ⟨quiet, -, found⟩ := createWith_spec sound filled
  rw [committed, direct]
  exact endsAlike_assertFact b hooks found rfl (quiet.alike.guarded.trans free)

end Builder

/-- Whatever has become of a fact base since a builder was made for it: once slots are set, a commit is
turned away in good order or does what is done on the direct way. -/
theorem commit_is_direct [JoinNetwork N] (hooks : Hooks N ρ ν) {s₀ : Store N} {w : World N ρ ν}
    {b₀ b : Builder} {writes : List (String × Value)} (reached : s₀.Reached)
    (path : Path s₀ w.store) (drafts : b₀.Drafts s₀) (staged : b₀.reset.putSlots writes = .ok b) :
    b.Commits hooks writes w := by
  have drafted : b.Drafts s₀ := drafts.reset.putSlots staged
  have current := drafted.isCurrent_iff reached path
  have known (here : b.isCurrent w.store = true) :
      w.store.templates.get? b.templateId = some b.template := by
    obtain ⟨t, known⟩ := Option.isSome_iff_exists.mp (Bool.and_eq_true_iff.mp here).2
    rw [known, template_of_drafts reached path drafted known]
  refine ⟨fun guarded => ?_, fun free gone => ?_, fun free named slot missing => ?_,
    fun free named complete static => ?_, b.isSet_reset⟩
  · unfold Builder.commit
    rw [getStore_bind, guarded]
    rfl
  · unfold Builder.commit
    rw [getStore_bind, free, Bool.eq_false_iff.mpr (mt current.mp gone)]
    rfl
  · have here := current.mpr named
    obtain ⟨draws, collected, unasked⟩ := Builder.fields_incomplete (known here) missing
    refine ⟨draws, unasked, ?_⟩
    unfold Builder.commit
    rw [getStore_bind, free, here, collected]
    rfl
  · have here := current.mpr named
    exact Builder.endsAlike_commit hooks (reached.path path) free here (known here) named
      drafts.length_staged staged static complete

/-- The room of a lamp is set twice before it is asserted. -/
theorem commit_is_direct_lamp :
    let quiet : Hooks MatchCounter Unit Unit := fun _ _ => pure ()
    let begun : Store MatchCounter := .fresh { hashFloor := 1 } {} fun _ _ => 0
    let lamp : Template := { name := "lamp", slots := [{ name := "room", default := .required },
      { name := "watts", constraints := { types := some [.integer] } }] }
    let s := (begun.defineTemplate lamp).toOption.elim begun (·.2)
    let made := (Builder.make "lamp" s).toOption.getD (default, s)
    let writes := [("room", Value.integer 3), ("room", .integer 4)]
    let b := (made.1.reset.putSlots writes).toOption.getD made.1
    let w : World MatchCounter Unit Unit := { store := made.2, host := () }
    let w' := (b.commit quiet).aftermath w
    b.Commits quiet writes w ∧ made.1.reset.missing.map (·.name) = ["room"] ∧
      b.missing.isEmpty = true ∧ b.isStatic = true ∧
      (w'.store.get? ⟨0, 0⟩).map (·.values) = some [.integer 4, .integer 0] := by
  intro quiet begun lamp s made writes b w w'
  have defined : begun.defineTemplate lamp = .ok (⟨0⟩, s) := rfl
  have built : Builder.make "lamp" s = .ok made := rfl
  have staged : made.1.reset.putSlots writes = .ok b := rfl
  have reached : s.Reached :=
    .move (.fresh { hashFloor := 1 } {} fun _ _ => 0) (.chore (.defineTemplate defined))
  have path : Path s w.store := .single (.chore (.makeBuilder built))
  exact ⟨commit_is_direct quiet reached path (.made built) staged, by decide +kernel,
    by decide +kernel, by decide +kernel, by decide +kernel⟩

end FactBase

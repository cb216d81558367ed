import FactBase.Proofs.Process.Keepers
import FactBase.Proofs.Store.Tending

/-!
# Pins that clients take

A client keeps a ledger of the facts it has pinned: it gives back no pin but one it has taken, and
as long as it has pinned a fact that is not attached it neither discards the fact nor submits it as
a duplicate, and writes none of its slots once the fact's atoms are installed. Whatever it does
otherwise, what is pinned is there, and every pin can be given back.
-/

namespace FactBase

open Store Process

variable {N τ α : Type}

/-- Whether a pin is on a fact, with its atoms installed or without. -/
def Pin.isOn (h : Handle) (installed : Bool) (pin : Pin) : Bool :=
  pin.fact == h && pin.installed == installed

/-- What is pinned, and the handles under which operations under way may store facts of their own. -/
structure PinLedger where
  pins : List Pin := []
  flying : List Handle := []

namespace PinLedger

def isPinned (l : PinLedger) (h : Handle) : Bool := l.pins.any (·.fact == h)

def holds (l : PinLedger) (h : Handle) (installed : Bool) : Bool := l.pins.any (·.isOn h installed)

def enter (l : PinLedger) (pin : Pin) : PinLedger := { l with pins := pin :: l.pins }

def strike (l : PinLedger) (h : Handle) (installed : Bool) : PinLedger :=
  { l with pins := l.pins.eraseP (·.isOn h installed) }

def launch (l : PinLedger) (h : Handle) : PinLedger := { l with flying := h :: l.flying }

def land (l : PinLedger) (h : Handle) : PinLedger := { l with flying := l.flying.erase h }

end PinLedger

/-- Whether a handle names a fact that is not attached. -/
def Store.isOpen (s : Store N) (h : Handle) : Bool := (s.get? h).any (·.isUnattached)

namespace Request

/-- Requests that assert a fact, be it one of their own making. -/
def asserts : Request α → Bool
  | .assertAt _ _ | .assertOrdered _ _ | .modify _ _ | .duplicate _ _ | .commitBuilder _
  | .commitModifier _ => true
  | _ => false

/-- The pin that a request gives back. -/
def returned : Request α → Option (Handle × Bool)
  | .release h => some (h, false)
  | .deinstall h => some (h, true)
  | .commitModifier m | .abortModifier m => some (m.fact, false)
  | _ => none

/-- The pin that comes with an answer. -/
def taken : {α : Type} → Request α → α → Option (Handle × Bool)
  | _, .retain h, .ok () => some (h, false)
  | _, .install h, .ok () => some (h, true)
  | _, .makeModifier h, .ok _ => some (h, false)
  | _, _, _ => none

/-- Whether a request gives back no pin but one that was taken. -/
def returnsPins (s : Store N) (l : PinLedger) (r : Request α) : Bool :=
  r.returned.all fun x => (s.get? x.1).isNone || l.holds x.1 x.2

/-- Whether a request leaves alone what is pinned and not attached. -/
def sparesPins (s : Store N) (l : PinLedger) : Request α → Bool
  | .discard h => !(s.isOpen h && l.isPinned h)
  | .assertAt h position => !(s.rejects h position && l.isPinned h)
  | .putSlot h _ _ | .putSlotAt h _ _ => !(s.isOpen h && l.holds h true)
  | .retain h | .install h => !(s.isOpen h && l.flying.contains h)
  | _ => true

/-- Requests that take pins or give them back together with an installation. -/
def MovesPins : Request α → Prop
  | .retain _ | .install _ | .makeModifier _ | .deinstall _ => True
  | _ => False

/-- The handle under which a request may store a fact of its own. -/
def flight (s : Store N) (r : Request α) : List Handle :=
  if r.asserts then [s.facts.nextHandle] else []

theorem taken_eq_none {r : Request α} (other : ¬ r.MovesPins) (a : α) : r.taken a = none := by
  cases r with
  | retain | install | makeModifier | deinstall => exact absurd trivial other
  | _ => rfl

end Request

/-- A ledger of pins. What is given back is struck off beforehand, what is taken is entered once it
is. -/
def pinRules (N : Type) : Rules N PinLedger where
  allows l s r := r.returnsPins s l && r.sparesPins s l
  before l s r :=
    let l := r.returned.elim l fun x => l.strike x.1 x.2
    if r.asserts then l.launch s.facts.nextHandle else l
  after l s r a :=
    let l := (r.taken a).elim l fun x => (s.get? x.1).elim l fun f => l.enter ⟨x.1, f, x.2⟩
    if r.asserts then l.land s.facts.nextHandle else l

namespace Store

variable {s s' : Store N} {l : PinLedger} {F : List Handle} {h k : Handle} {f : Fact}

theorem isOpen_eq_true : s.isOpen h = true ↔ ∃ f, s.get? h = some f ∧ f.isUnattached = true :=
  Option.any_eq_true _ _

/-- A pin may be taken on a fact unless an operation under way has made it and not attached it. -/
theorem grounds {flying : List Handle} (spares : (!(s.isOpen h && flying.contains h)) = true)
    (found : s.get? h = some f) (unattached : f.isUnattached = true) : h ∉ flying := by
  rw [isOpen_eq_true.mpr ⟨f, found, unattached⟩, Bool.true_and, Bool.not_eq_true'] at spares
  exact fun inside => Bool.eq_false_iff.mp spares (List.contains_iff_mem.mpr inside)

/-- The pins of a ledger are honoured, and none was taken on a fact that an operation under way has
made and not attached. -/
structure Pinned (F : List Handle) (l : PinLedger) (s : Store N) : Prop where
  honours : s.Honours l.pins
  grounded : ∀ pin ∈ l.pins, pin.seen.isUnattached = true → pin.fact ∉ l.flying
  flying : ∀ h, F.count h ≤ l.flying.count h

namespace Pinned

theorem minds (pinned : s.Pinned F l) (minds : Minds s s') : s'.Pinned F l :=
  { pinned with honours := pinned.honours.minds minds }

theorem honouring (pinned : s.Pinned F l) (honours : s'.Honours l.pins) : s'.Pinned F l :=
  { pinned with honours }

theorem strike (pinned : s.Pinned F l) (h : Handle) (installed : Bool) :
    s.Pinned F (l.strike h installed) where
  honours := pinned.honours.sublist List.eraseP_sublist
  grounded pin inside := pinned.grounded pin (List.mem_of_mem_eraseP inside)
  flying := pinned.flying

/-- A handle that names nothing yet is pinned by nobody. -/
theorem launch (pinned : s.Pinned F l) (missing : s.get? k = none) :
    s.Pinned (k :: F) (l.launch k) where
  honours := pinned.honours
  grounded pin inside unattached flying := by
    rcases List.mem_cons.mp flying with rfl | before
    · obtain ⟨g, found, -⟩ := pinned.honours.held pin inside
      cases found.symm.trans missing
    · exact pinned.grounded pin inside unattached before
  flying h := by
    rw [PinLedger.launch, List.count_cons, List.count_cons]
    exact Nat.add_le_add_right (pinned.flying h) _

theorem land (pinned : s.Pinned (k :: F) l) : s.Pinned F (l.land k) where
  honours := pinned.honours
  grounded pin inside unattached flying :=
    pinned.grounded pin inside unattached (List.mem_of_mem_erase flying)
  flying h := by
    have before := pinned.flying h
    rw [List.count_cons] at before
    rw [PinLedger.land, List.count_erase]
    omega

theorem loosen (pinned : s.Pinned (k :: F) l) : s.Pinned F l :=
  { pinned with flying := fun h => Nat.le_trans List.count_le_count_cons (pinned.flying h) }

/-- An operation under way may give up a fact of its own making. -/
theorem unpinned (pinned : s.Pinned (k :: F) l) (found : s.get? k = some f)
    (unattached : f.isUnattached = true) : pinsOn l.pins k = 0 := by
  refine Nat.eq_zero_of_not_pos fun some => ?_
  obtain ⟨pin, inside, rfl⟩ := pinsOn_pos.mp some
  have inFlight : pin.fact ∈ l.flying := by
    have before := pinned.flying pin.fact
    rw [List.count_cons_self] at before
    exact List.count_pos_iff.mp (Nat.lt_of_lt_of_le (Nat.succ_pos _) before)
  cases seen : pin.seen.isUnattached with
  | true => exact pinned.grounded pin inside seen inFlight
  | false =>
    obtain ⟨g, found', holds⟩ := pinned.honours.held pin inside
    obtain rfl := Option.some.inj (found.symm.trans found')
    cases unattached.symm.trans (holds.lasts.attached seen).1

/-- A pin is taken on a fact that is attached or was not made by an operation under way. -/
theorem enter (pinned : s.Pinned F l) {pin : Pin} (honours : s'.Honours (pin :: l.pins))
    (grounded : pin.seen.isUnattached = true → pin.fact ∉ l.flying) : s'.Pinned F (l.enter pin) where
  honours := honours
  grounded other inside := by
    rcases List.mem_cons.mp inside with rfl | before
    · exact grounded
    · exact pinned.grounded other before
  flying := pinned.flying

/-- Of a pin that was taken, all others are left. -/
theorem struck (pinned : s.Pinned F l) {installed : Bool} (holds : l.holds h installed = true) :
    ∃ pin, pin.fact = h ∧ pin.installed = installed ∧
      s.Honours (pin :: (l.strike h installed).pins) := by
  obtain ⟨x, inside, isOn⟩ := List.any_eq_true.mp holds
  obtain ⟨pin, front, back, -, isOn, split, rest⟩ :=
    List.exists_of_eraseP (p := (·.isOn h installed)) inside isOn
  obtain ⟨same, same'⟩ := Bool.and_eq_true_iff.mp isOn
  refine ⟨pin, beq_iff_eq.mp same, beq_iff_eq.mp same', pinned.honours.perm ?_⟩
  rw [PinLedger.strike, rest, split]
  exact List.perm_middle

/-- Nobody has pinned a fact that is to go. -/
theorem pinsOn_eq_zero (free : l.isPinned h = false) : pinsOn l.pins h = 0 := by
  refine Nat.eq_zero_of_not_pos fun some => ?_
  obtain ⟨pin, inside, here⟩ := pinsOn_pos.mp some
  rw [PinLedger.isPinned, List.any_eq_false] at free
  exact free pin inside (beq_iff_eq.mpr here)

/-- A ledger by which pins are honoured is kept when a request is made. -/
theorem before (pinned : s.Pinned F l) (sound : s.Sound) (r : Request α) :
    s.Pinned (r.flight s ++ F) ((pinRules N).before l s r) := by
  have struck : s.Pinned F (r.returned.elim l fun x => l.strike x.1 x.2) := by
    cases r.returned with
    | none => exact pinned
    | some x => exact pinned.strike x.1 x.2
  unfold Request.flight pinRules
  dsimp only
  split
  · exact struck.launch (sound.tidy.get?_nextHandle)
  · exact struck

/-- Once a request is answered that takes no pin, no fact of its own is under way. -/
theorem after {r : Request α} {a : α} {start : Store N}
    (pinned : s.Pinned (r.flight start ++ F) l) (taken : r.taken a = none) :
    s.Pinned F ((pinRules N).after l start r a) := by
  unfold Request.flight at pinned
  unfold pinRules
  dsimp only
  rw [taken, Option.elim_none]
  split at pinned
  · rename_i asserts
    rw [if_pos asserts]
    exact pinned.land
  · rename_i other
    rw [if_neg other]
    exact pinned

/-- A pin is given back that was taken. -/
theorem release {l' : PinLedger} {F' : List Handle} (pinned : s.Pinned F l)
    (begun : s.Pinned F' l') (pins : l'.pins = (l.strike h false).pins)
    (returns : ((s.get? h).isNone || l.holds h false) = true) {r : Except StoreError Unit}
    (done : s.release h = .ok (r, s')) : s'.Pinned F' l' := by
  refine begun.honouring ?_
  rcases Bool.or_eq_true_iff.mp returns with missing | holds
  · obtain ⟨-, -, rfl⟩ | ⟨f, found, -⟩ := release_eq_ok done
    · exact begun.honours
    · rw [found] at missing
      cases missing
  · obtain ⟨pin, rfl, -, honours⟩ := pinned.struck holds
    obtain ⟨u, done', rest⟩ := honours.release
    obtain ⟨-, rfl⟩ := Prod.mk.inj (Except.ok.inj (done.symm.trans done'))
    exact pins ▸ rest

/-- A pin that came with an installation can be given back if it was taken. -/
theorem deinstall (pinned : s.Pinned F l)
    (returns : ((s.get? h).isNone || l.holds h true) = true) :
    ∃ r s', s.deinstall h = .ok (r, s') ∧ s'.Pinned F (l.strike h true) := by
  rcases Bool.or_eq_true_iff.mp returns with missing | holds
  · unfold Store.deinstall
    rw [Option.isNone_iff_eq_none.mp missing]
    exact ⟨_, _, rfl, pinned.strike h true⟩
  · obtain ⟨pin, rfl, installed, honours⟩ := pinned.struck holds
    obtain ⟨u, done, rest⟩ := honours.deinstall installed
    exact ⟨_, u, done, (pinned.strike pin.fact true).honouring rest⟩

/-- The atoms of a fact are not installed whose slots may be written. -/
theorem unlent (spares : (!(s.isOpen h && l.holds h true)) = true)
    (found : s.get? h = some f) (unattached : f.isUnattached = true) :
    ∀ pin ∈ l.pins, pin.fact = h → pin.installed = false := by
  intro pin inside here
  rw [isOpen_eq_true.mpr ⟨f, found, unattached⟩, Bool.true_and, Bool.not_eq_true',
    PinLedger.holds, List.any_eq_false] at spares
  refine Bool.eq_false_iff.mpr fun installed => spares pin inside ?_
  rw [Pin.isOn, here, installed]
  exact Bool.and_eq_true_iff.mpr ⟨BEq.rfl, rfl⟩

end Pinned

/-! ### Conditions on a ledger -/

variable [JoinNetwork N]

theorem upheld_pinned (F : List Handle) : Upheld (OnLedger (N := N) (τ := τ) Pinned F) where
  errand pinned reached errand :=
    pinned.minds (errand.chore.minds reached.sound (errand.leaves reached.sound))
  detach pinned reached done := by
    obtain ⟨f, found, asserted, -, detaches, -⟩ := detach_spec reached.sound done
    exact pinned.minds (detaches.minds found asserted)

theorem assertive_pinned (start : Store N) (F : List Handle) :
    Assertive start (OnLedger (τ := τ) Pinned (start.facts.nextHandle :: F)) where
  attach pinned _ found unattached _ _ _ _ attaches sustains _ :=
    pinned.minds (attaches.minds found unattached sustains)
  matchFact pinned _ _ done := pinned.minds (rematched_matchFact done).minds
  free pinned reached found unattached here done := by
    subst here
    exact pinned.honouring
      (pinned.honours.free reached.sound.tidy (pinned.unpinned found unattached) done)

/-- While an operation makes a fact, nobody pins it before it is attached. -/
theorem tightens_pinned (k : Handle) (F : List Handle) :
    Tightens (OnLedger (N := N) (τ := τ) Pinned F) (OnLedger Pinned (k :: F)) where
  upheld := upheld_pinned _
  loosens pinned := pinned.loosen
  past := rfl
  excuses := rfl

/-! ### Requests -/

theorem tightens_flight (start : Store N) (r : Request α) (F : List Handle) :
    Tightens (OnLedger (N := N) (τ := τ) Pinned F) (OnLedger Pinned (r.flight start ++ F)) := by
  unfold Request.flight
  split
  · exact tightens_pinned start.facts.nextHandle F
  · exact .refl (upheld_pinned F)

/-- Requests that neither take a pin nor deinstall a fact uphold a ledger of pins. -/
theorem upheldAt_pinned {r : Request α} (other : ¬ r.MovesPins) (pinned : s.Pinned F l)
    (reached : s.Reached) (allowed : (pinRules N).allows l s r = true) (own : τ) :
    r.UpheldAt s ⟨(pinRules N).before l s r, own⟩ (OnLedger Pinned (r.flight s ++ F)) := by
  obtain ⟨returns, spares⟩ := Bool.and_eq_true_iff.mp allowed
  refine ⟨?_, fun _ _ made begun reached => begun.minds
    (made.making.chore.minds reached.sound (made.making.leaves reached.sound))⟩
  cases r with
  | retain | install | makeModifier | deinstall => exact absurd trivial other
  | putSlot h slot v =>
    intro u done begun _
    obtain ⟨f, found, -⟩ := bind_eq_ok.mp done
    obtain ⟨found, unattached⟩ := unattached_eq_ok found
    exact begun.honouring (begun.honours.putSlot (Pinned.unlent spares found unattached) done)
  | putSlotAt h position v =>
    intro u done begun _
    obtain ⟨f, found, -⟩ := bind_eq_ok.mp done
    obtain ⟨found, unattached⟩ := unattached_eq_ok found
    exact begun.honouring (begun.honours.putSlotAt (Pinned.unlent spares found unattached) done)
  | discard h =>
    intro _ u done begun _
    refine begun.honouring (begun.honours.discard reached.sound.tidy (fun f found free => ?_) done)
    refine Pinned.pinsOn_eq_zero (Bool.eq_false_iff.mpr fun pinned => ?_)
    change l.isPinned h = true at pinned
    rw [Request.sparesPins, isOpen_eq_true.mpr ⟨f, found, free⟩, pinned] at spares
    cases spares
  | assertAt h position =>
    refine ⟨assertive_pinned s F, fun f u rejected found unattached done begun _ => ?_⟩
    refine begun.honouring (begun.honours.free reached.sound.tidy ?_ done)
    refine Pinned.pinsOn_eq_zero (Bool.eq_false_iff.mpr fun pinned => ?_)
    change l.isPinned h = true at pinned
    rw [Request.sparesPins, rejected, pinned] at spares
    cases spares
  | assertOrdered | modify | duplicate | commitBuilder => exact assertive_pinned s F
  | commitModifier m =>
    exact ⟨assertive_pinned s F, fun _ u done begun _ => pinned.release begun rfl returns done⟩
  | release | abortModifier => exact fun _ u done begun _ => pinned.release begun rfl returns done
  | makeBuilder =>
    intro _ u done begun _
    exact begun.minds ((Chore.makeBuilder done).minds reached.sound (makeBuilder_spec done).leaves)
  | dropBuilder b =>
    intro begun _
    exact begun.minds ((Chore.dropBuilder b s).minds reached.sound (leaves_of_facts_eq rfl rfl))
  | addPattern =>
    intro _ _ _ _ _ begun _ done
    refine begun.minds (replayable_rematched.addPattern (fun _ _ _ _ _ => ?_) done).minds
    exact .of_facts_eq rfl rfl
  | removePattern =>
    intro _ _ _ begun _ done
    exact begun.minds (Rematched.removePattern done).minds
  | replayNewPatterns =>
    exact fun _ _ _ _ _ begun _ done => begun.minds (replayable_rematched.replayAll done).minds
  | clear => exact fun _ _ begun _ _ _ => begun.minds (Rematched.minds (.of_facts_eq rfl rfl))
  | setAllowDuplicates | setProbe =>
    exact fun _ _ begun _ => begun.minds (Rematched.minds (.of_facts_eq rfl rfl))
  | _ => exact trivial


end Store

/-- Requests that neither take a pin nor deinstall a fact are dealt with while a fact of their own
is under way. -/
theorem runs_keep_pinned [JoinNetwork N] {r : Request α} (other : ¬ r.MovesPins) {F : List Handle}
    {hooks : Hooks N (Memo (Book PinLedger τ)) (Store N)}
    {w : World N (Memo (Book PinLedger τ)) (Store N)}
    (courteous : ∀ F, Courteous (OnLedger Pinned F) hooks)
    (stepwise : Stepwise (OnLedger Pinned F) none w) :
    Runs (OnLedger Pinned F) none (keep (pinRules N) hooks r) w [] fun _ => SameGuard w := by
  refine runs_keep_upheld (tightens_flight w.store r F)
    (courteous (r.flight w.store ++ F)) stepwise (fun w₁ opened => ?_) fun holds => ?_
  · rw [opened.notes, opened.store]
    exact ⟨Pinned.before stepwise.holds stepwise.reached.sound r,
      upheldAt_pinned other stepwise.holds stepwise.reached opened.allowed w.host.notes.own⟩
  · exact Pinned.after holds (Request.taken_eq_none other _)

/-- Whatever is asked of a fact base, pins are honoured. -/
theorem pinRules_upholds [JoinNetwork N] :
    (pinRules N).Upholds τ fun (F : List Handle) l => Pinned F l := by
  intro β F hooks r w courteous stepwise
  have pinned : w.store.Pinned F w.host.notes.ledger := stepwise.holds
  cases r with
  | retain h =>
    refine runs_keep stepwise fun w₁ opened => ?_
    have begun := opened.begun stepwise pinned
    refine ensures_attemptChange (fun s done => ?_) fun e _ => opened.stays stepwise rfl begun.holds
    have spec := retain_spec done
    obtain ⟨f, found, -⟩ := retain_eq_ok done
    refine opened.closes stepwise (.single (.chore (.retain done))) spec.leaves rfl spec.alike.guarded ?_
    change s.Pinned F ((w₁.store.get? h).elim _ _)
    rw [found, opened.notes]
    refine pinned.enter ((opened.store ▸ pinned.honours).retain found done) ?_
    exact grounds opened.allowed (opened.store ▸ found)
  | install h =>
    refine runs_keep stepwise fun w₁ opened => ?_
    have begun := opened.begun stepwise pinned
    refine ensures_attemptChange (fun s done => ?_) fun e _ => opened.stays stepwise rfl begun.holds
    have spec := install_spec done
    obtain ⟨u, retained, -⟩ := bind_eq_ok.mp done
    obtain ⟨f, found, -⟩ := retain_eq_ok retained
    refine opened.closes stepwise (.single (.chore (.install done))) spec.leaves rfl spec.alike.guarded ?_
    change s.Pinned F ((w₁.store.get? h).elim _ _)
    rw [found, opened.notes]
    refine pinned.enter ((opened.store ▸ pinned.honours).install found done) ?_
    exact grounds opened.allowed (opened.store ▸ found)
  | makeModifier h =>
    refine runs_keep stepwise fun w₁ opened => ?_
    have begun := opened.begun stepwise pinned
    refine ensures_attempt (fun m s done => ?_) fun e _ => opened.stays stepwise rfl begun.holds
    obtain ⟨spec, retained, f, found, asserted⟩ := makeModifier_spec done
    refine opened.closes stepwise (.single (.chore (.retain retained))) spec.leaves rfl spec.alike.guarded ?_
    change s.Pinned F ((w₁.store.get? h).elim _ _)
    rw [found, opened.notes]
    refine pinned.enter ((opened.store ▸ pinned.honours).retain found retained) ?_
    exact fun unattached => absurd asserted (not_asserted_of_unattached unattached)
  | deinstall h =>
    refine runs_keep stepwise fun w₁ opened => ?_
    obtain ⟨returns, -⟩ := Bool.and_eq_true_iff.mp opened.allowed
    obtain ⟨r, s, done, rest⟩ := pinned.deinstall returns
    rw [← opened.store] at done
    refine ensures_step_of_ok done ?_
    have spec := deinstall_spec done
    refine opened.closes stepwise (.single (.deinstall done)) spec.leaves rfl spec.alike.guarded ?_
    rw [opened.notes]
    exact rest
  | _ => exact runs_keep_pinned id courteous stepwise

/-! ### Pins hold -/

/-- What a fact base makes sure of as long as a pin is not given back. -/
structure Store.Keeps (pin : Pin) (s : Store N) : Prop where
  found : ∃ g, s.get? pin.fact = some g ∧ pin.Holds g
  released : pin.installed = false → ∃ s', s.release pin.fact = .ok (.ok (), s')
  deinstalled : pin.installed = true → ∃ s', s.deinstall pin.fact = .ok (.ok (), s')

theorem Store.Honours.keeps {s : Store N} {pins : List Pin} {pin : Pin} (honours : s.Honours pins)
    (inside : pin ∈ pins) : s.Keeps pin := by
  obtain ⟨front, back, rfl⟩ := List.append_of_mem inside
  have first : s.Honours (pin :: (front ++ back)) := honours.perm List.perm_middle
  refine ⟨honours.held pin inside, fun _ => ?_, fun installed => ?_⟩
  · obtain ⟨s', done, -⟩ := first.release
    exact ⟨s', done⟩
  · obtain ⟨s', done, -⟩ := first.deinstall installed
    exact ⟨s', done⟩

/-- Whatever a client and its listeners ask of a fact base, and wherever they break off, every pin
that is not given back holds and can be given back, whether the fact was attached when it was pinned
or not. -/
theorem pins_hold [JoinNetwork N] {p : Keeping N PinLedger τ α} (keeper : Keeper (pinRules N) p)
    (config : Config) (network : N) (contentHash : TemplateId → List Value → UInt64) (own : τ) :
    let w := p.aftermath (outset (Store.fresh config network contentHash) ⟨{}, own⟩)
    ∀ pin ∈ w.host.notes.ledger.pins, w.store.Keeps pin := by
  intro w pin inside
  have begins : Pinned [] {} (Store.fresh config network contentHash) :=
    ⟨.fresh config network contentHash, fun _ inside => (by cases inside), fun _ => Nat.le_refl _⟩
  have seen : Seen (OnLedger Pinned []) w :=
    keeper.seen pinRules_upholds [] (upheld_pinned []) config network contentHash ⟨{}, own⟩ begins
  obtain ⟨_, pinned⟩ := seen.holds
  exact pinned.honours.keeps inside

/-- A lamp that is pinned before it is asserted outlives being retracted and collected. -/
theorem pins_hold_lamp :
    let rules := pinRules MatchCounter
    let hooks : Hooks MatchCounter (Memo (Book PinLedger Unit)) (Store MatchCounter) :=
      fun _ _ => pure ()
    let lamp : Keeping MatchCounter PinLedger Unit Unit := do
      let _ ← keep rules hooks (.createOrdered "lamp" [.symbol "on"])
      let _ ← keep rules hooks (.install ⟨0, 0⟩)
      let _ ← keep rules hooks (.assertAt ⟨0, 0⟩ .tail)
      let _ ← keep rules hooks (.retain ⟨0, 0⟩)
      let _ ← keep rules hooks (.retract ⟨0, 0⟩)
      let _ ← keep rules hooks .collectGarbage
    let w := lamp.aftermath (outset (Store.fresh {} {} fun _ _ => 0) ⟨{}, ()⟩)
    (∀ pin ∈ w.host.notes.ledger.pins, w.store.Keeps pin) ∧
      w.host.notes.ledger.pins.map (fun pin => (pin.fact, pin.seen.index, pin.installed)) =
        [(⟨0, 0⟩, 1, false), (⟨0, 0⟩, 0, true)] := by
  intro rules hooks lamp
  have idle (id : ListenerId) (e : Event) : Keeper rules (hooks id e) := .pure ()
  have keeper : Keeper rules lamp :=
    .bind (.keep idle _) fun _ => .bind (.keep idle _) fun _ => .bind (.keep idle _) fun _ =>
      .bind (.keep idle _) fun _ => .bind (.keep idle _) fun _ => .bind (.keep idle _) fun _ => .pure ()
  have held := pins_hold keeper {} {} (fun _ _ => 0) ()
  exact ⟨held, by decide +kernel⟩

/-- A pinned fact that is not attached is freed once it turns out to be a duplicate. -/
theorem not_pins_hold_unspared :
    let rules : Rules MatchCounter PinLedger :=
      { pinRules MatchCounter with allows := fun l s r => r.returnsPins s l }
    ¬ ∀ p : Keeping MatchCounter PinLedger Unit Unit, Keeper rules p →
      let w := p.aftermath (outset (Store.fresh {} {} fun _ _ => 0) ⟨{}, ()⟩)
      ∀ pin ∈ w.host.notes.ledger.pins, w.store.Keeps pin := by
  intro rules hold
  let hooks : Hooks MatchCounter (Memo (Book PinLedger Unit)) (Store MatchCounter) :=
    fun _ _ => pure ()
  let lamps : Keeping MatchCounter PinLedger Unit Unit := do
    let _ ← keep rules hooks (.assertOrdered "lamp" [.symbol "on"])
    let _ ← keep rules hooks (.createOrdered "lamp" [.symbol "on"])
    let _ ← keep rules hooks (.retain ⟨1, 0⟩)
    let _ ← keep rules hooks (.assertAt ⟨1, 0⟩ .tail)
  have idle (id : ListenerId) (e : Event) : Keeper rules (hooks id e) := .pure ()
  have keeper : Keeper rules lamps :=
    .bind (.keep idle _) fun _ => .bind (.keep idle _) fun _ => .bind (.keep idle _) fun _ =>
      .bind (.keep idle _) fun _ => .pure ()
  have lapse {s : Store MatchCounter} {pins : List Pin} (held : ∀ pin ∈ pins, s.Keeps pin)
      (lost : (pins.any fun pin => (s.get? pin.fact).isNone) = true) : False := by
    obtain ⟨pin, inside, missing⟩ := List.any_eq_true.mp lost
    obtain ⟨g, found, -⟩ := (held pin inside).found
    rw [found] at missing
    cases missing
  exact lapse (hold lamps keeper) (by decide +kernel)

end FactBase

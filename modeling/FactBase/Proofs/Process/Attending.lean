import FactBase.Proofs.Process.Pins
import FactBase.Proofs.Store.PinCounts

/-!
# Pins of clients and of queries

A client keeps a tally of the pins it has taken, and gives back no more than these. What a query has
pinned on behalf of an action is tallied beside them for as long as the action is under way. Whatever
the client does, every fact is pinned exactly as often as the two tallies say: a fact that the client
gives up although it has pinned it is struck off, and what an operation under way has made and not
attached is not pinned by anyone.
-/

namespace FactBase

open Store Process

variable {N τ α : Type}

/-- Pins by the facts that they are on. -/
structure PinTally where
  /-- What the client has pinned and not given back. -/
  own : List Handle := []
  /-- What queries have pinned whose actions are under way. -/
  lent : List Handle := []
  /-- The handles under which operations under way may store facts of their own. -/
  flying : List Handle := []

namespace PinTally

def count (l : PinTally) (h : Handle) : Nat := l.own.count h + l.lent.count h

def take (l : PinTally) (h : Handle) : PinTally := { l with own := h :: l.own }

def giveBack (l : PinTally) (h : Handle) : PinTally := { l with own := l.own.erase h }

/-- Strikes off a fact that is gone. -/
def forget (l : PinTally) (h : Handle) : PinTally := { l with own := l.own.filter (· != h) }

def launch (l : PinTally) (h : Handle) : PinTally := { l with flying := h :: l.flying }

def land (l : PinTally) (h : Handle) : PinTally := { l with flying := l.flying.erase h }

end PinTally

namespace Request

/-- The fact that a request gave up, be it pinned or not. -/
def givenUp (s : Store N) : {α : Type} → Request α → α → Option Handle
  | _, .discard h, .ok () => some h
  | _, .assertAt h position, _ => if s.rejects h position then some h else none
  | _, _, _ => none

/-- Whether a request gives back no pin but one that the client has taken. -/
def isBalanced (s : Store N) (l : PinTally) (r : Request α) : Bool :=
  r.returned.all fun x => (s.get? x.1).isNone || l.own.contains x.1

/-- Whether a request leaves alone what an operation under way has made and not attached. -/
def leavesFlying (s : Store N) (l : PinTally) : Request α → Bool
  | .retain h | .install h => !(s.isOpen h && l.flying.contains h)
  | _ => true

/-- Requests that take pins or give them back, or that give up a fact that may be pinned. -/
def MovesTally (s : Store N) : Request α → Prop
  | .retain _ | .release _ | .install _ | .deinstall _ | .makeModifier _ | .commitModifier _
  | .abortModifier _ | .discard _ => True
  | .assertAt h position => s.rejects h position = true
  | _ => False

end Request

/-- A tally of pins. A modifier gives back its pin before it asserts anything. -/
def tallyRules (N : Type) : Rules N PinTally where
  allows l s r := r.isBalanced s l && r.leavesFlying s l
  before l s r :=
    if r.asserts then (r.returned.elim l fun x => l.giveBack x.1).launch s.facts.nextHandle else l
  after l s r a :=
    let l := (r.taken a).elim l fun x => l.take x.1
    let l := (r.givenUp s a).elim l l.forget
    if r.asserts then l.land s.facts.nextHandle else r.returned.elim l fun x => l.giveBack x.1

/-- What is under way: facts that operations may have made and not attached, and pins of queries. -/
structure Underway where
  flying : List Handle := []
  lent : List Handle := []

namespace Store

variable {s s' : Store N} {l : PinTally} {u : Underway} {h k : Handle} {f : Fact}

/-- Every handle is pinned as often as is tallied, queries have pinned attached facts only, and
nobody has pinned a fact that an operation under way has made and not attached. -/
structure Attended (u : Underway) (l : PinTally) (s : Store N) : Prop where
  pins : ∀ h, PinsOf (s.get? h) (l.count h)
  attached : ∀ h ∈ l.lent, ∀ f, s.get? h = some f → f.isUnattached = false
  grounded : ∀ h ∈ l.own, ∀ f, s.get? h = some f → f.isUnattached = true → h ∉ l.flying
  lent : l.lent = u.lent
  flying : ∀ h, u.flying.count h ≤ l.flying.count h

namespace Attended

theorem fresh (config : Config) (network : N) (contentHash : TemplateId → List Value → UInt64) :
    (Store.fresh config network contentHash).Attended {} {} := by
  have none := get?_fresh config (N := N)
  refine ⟨fun h => ?_, fun _ inside => (by cases inside), fun _ inside => (by cases inside), rfl,
    fun _ => Nat.le_refl _⟩
  rw [none]
  rfl

/-- What is pinned is there. -/
theorem stored (attended : s.Attended u l) (pinned : l.count h ≠ 0) :
    ∃ f, s.get? h = some f ∧ f.HasPins (l.count h) := by
  have pins := attended.pins h
  cases found : s.get? h with
  | none =>
    rw [found] at pins
    exact absurd pins pinned
  | some f =>
    rw [found] at pins
    exact ⟨f, rfl, pins⟩

theorem count_of_own (inside : h ∈ l.own) : l.count h ≠ 0 := by
  have := List.count_pos_iff.mpr inside
  unfold PinTally.count
  omega

theorem count_of_lent (inside : h ∈ l.lent) : l.count h ≠ 0 := by
  have := List.count_pos_iff.mpr inside
  unfold PinTally.count
  omega

theorem keeps (attended : s.Attended u l) (keeps : KeepsPins s s') : s'.Attended u l := by
  refine ⟨fun h => (keeps h).pins _ (attended.pins h), fun h inside g after => ?_,
    fun h inside g after free => ?_, attended.lent, attended.flying⟩
  · obtain ⟨f, before, -⟩ := attended.stored (count_of_lent inside)
    exact (keeps h).attached f g before after (attended.attached h inside f before)
  · obtain ⟨f, before, -⟩ := attended.stored (count_of_own inside)
    cases attached : f.isUnattached with
    | true => exact attended.grounded h inside f before attached
    | false => cases free.symm.trans ((keeps h).attached f g before after attached)

/-- A handle that names nothing yet is pinned by nobody. -/
theorem launch (attended : s.Attended u l) (missing : s.get? k = none) :
    s.Attended { u with flying := k :: u.flying } (l.launch k) where
  pins := attended.pins
  attached := attended.attached
  grounded h inside f found free flying := by
    rcases List.mem_cons.mp flying with rfl | before
    · cases found.symm.trans missing
    · exact attended.grounded h inside f found free before
  lent := attended.lent
  flying h := by
    rw [PinTally.launch, List.count_cons, List.count_cons]
    exact Nat.add_le_add_right (attended.flying h) _

theorem land (attended : s.Attended { u with flying := k :: u.flying } l) :
    s.Attended u (l.land k) where
  pins := attended.pins
  attached := attended.attached
  grounded h inside f found free flying :=
    attended.grounded h inside f found free (List.mem_of_mem_erase flying)
  lent := attended.lent
  flying h := by
    have before := attended.flying h
    rw [List.count_cons] at before
    rw [PinTally.land, List.count_erase]
    omega

theorem loosen (attended : s.Attended { u with flying := k :: u.flying } l) : s.Attended u l :=
  { attended with flying := fun h => Nat.le_trans List.count_le_count_cons (attended.flying h) }

/-! ### Pins of the client -/

/-- Nothing but the pins on one fact is other than before. -/
theorem setBusy (attended : s.Attended u l) (found : s.get? h = some f) (l' : PinTally) (busy : Nat)
    (here : Fact.HasPins { f with busy } (l'.count h))
    (elsewhere : ∀ k, k ≠ h → l'.count k = l.count k)
    (grounded : h ∈ l'.own → f.isUnattached = true → h ∉ l'.flying)
    (attached : h ∈ l'.lent → f.isUnattached = false)
    (own : ∀ k, k ≠ h → k ∈ l'.own → k ∈ l.own) (lent : ∀ k, k ≠ h → k ∈ l'.lent → k ∈ l.lent)
    (flying : l'.flying = l.flying) :
    (s.setBusy h busy).Attended { u with lent := l'.lent } l' := by
  refine ⟨fun k => ?_, fun k inside g same => ?_, fun k inside g same free => ?_, rfl, ?_⟩
  · rw [get?_setBusy found]
    split
    · rename_i same
      subst same
      exact here
    · rename_i other
      rw [elsewhere k other]
      exact attended.pins k
  · rw [get?_setBusy found] at same
    split at same
    · rename_i here
      subst here
      obtain rfl := Option.some.inj same
      exact attached inside
    · rename_i other
      exact attended.attached k (lent k other inside) g same
  · rw [get?_setBusy found] at same
    split at same
    · rename_i here
      subst here
      obtain rfl := Option.some.inj same
      exact grounded inside free
    · rename_i other
      rw [flying]
      exact attended.grounded k (own k other inside) g same free
  · rw [flying]
    exact attended.flying

theorem count_take (l : PinTally) (h k : Handle) :
    (l.take h).count k = l.count k + if h = k then 1 else 0 := by
  unfold PinTally.count PinTally.take
  rw [List.count_cons]
  simp only [beq_iff_eq]
  omega

theorem count_giveBack (inside : h ∈ l.own) (k : Handle) :
    l.count k = (l.giveBack h).count k + if h = k then 1 else 0 := by
  have kept := List.count_pos_iff.mpr inside
  unfold PinTally.count PinTally.giveBack
  dsimp only
  by_cases here : h = k
  · subst here
    rw [List.count_erase_self, if_pos rfl]
    omega
  · rw [List.count_erase_of_ne (Ne.symm here), if_neg here]
    omega

/-- A fact is retained that is attached or was not made by an operation under way. -/
theorem take (attended : s.Attended u l) (found : s.get? h = some f)
    (grounded : f.isUnattached = true → h ∉ l.flying) :
    (s.setBusy h (f.busy + 1)).Attended u (l.take h) := by
  have pins := attended.pins h
  rw [found] at pins
  have taken := attended.setBusy found (l.take h) (f.busy + 1) ?_ (fun k other => ?_)
    (fun _ => grounded) (fun inside => attended.attached h inside f found)
    (fun k other inside => List.mem_of_ne_of_mem other inside) (fun _ _ => id) rfl
  · rwa [show (l.take h).lent = u.lent from attended.lent] at taken
  · rw [count_take, if_pos rfl]
    exact Fact.HasPins.succ pins
  · rw [count_take, if_neg (Ne.symm other), Nat.add_zero]

/-- A pin that was taken can be given back. -/
theorem giveBack (attended : s.Attended u l) (inside : h ∈ l.own) :
    ∃ f, s.get? h = some f ∧ f.busy ≠ 0 ∧
      (s.setBusy h (f.busy - 1)).Attended u (l.giveBack h) := by
  obtain ⟨f, found, pins⟩ := attended.stored (count_of_own inside)
  rw [count_giveBack inside, if_pos rfl] at pins
  obtain ⟨held, less⟩ := pins.pred
  refine ⟨f, found, held, ?_⟩
  have given := attended.setBusy found (l.giveBack h) (f.busy - 1) less
    (fun k other => ?_) (fun kept => attended.grounded h (List.mem_of_mem_erase kept) f found)
    (fun kept => attended.attached h kept f found) (fun k _ kept => List.mem_of_mem_erase kept)
    (fun _ _ => id) rfl
  · rwa [show (l.giveBack h).lent = u.lent from attended.lent] at given
  · rw [count_giveBack inside, if_neg (Ne.symm other), Nat.add_zero]

/-- A fact that is not attached is freed and struck off. -/
theorem free (attended : s.Attended u l) (tidy : s.facts.Tidy) (found : s.get? h = some f)
    (unattached : f.isUnattached = true) (done : s.free h = .ok s') :
    s'.Attended u (l.forget h) := by
  obtain ⟨f', facts, atoms, templates, removed, -, -, rfl⟩ := free_eq_ok done
  obtain ⟨-, -, names⟩ := Arena.remove?_spec tidy removed
  have gone (k : Handle) : Store.get? { s with facts, atoms, templates } k =
      if k = h then none else s.get? k := names k
  have unlent : h ∉ l.lent := fun inside => by
    cases unattached.symm.trans (attended.attached h inside f found)
  have fewer (k : Handle) (inside : k ∈ (l.forget h).own) : k ∈ l.own := List.mem_of_mem_filter inside
  refine ⟨fun k => ?_, fun k inside g same => ?_, fun k inside g same => ?_, attended.lent,
    attended.flying⟩
  · rw [gone]
    unfold PinTally.count PinTally.forget
    dsimp only
    split
    · rename_i here
      subst here
      change _ = 0
      rw [List.count_eq_zero_of_not_mem unlent, List.count_eq_zero_of_not_mem fun inside => ?_]
      exact absurd rfl (bne_iff_ne.mp (List.mem_filter.mp inside).2)
    · rename_i other
      have kept : (l.own.filter (· != h)).count k = l.own.count k :=
        List.count_filter (p := (· != h)) (bne_iff_ne.mpr other)
      rw [kept]
      exact attended.pins k
  · rw [gone] at same
    split at same
    · cases same
    · exact attended.attached k inside g same
  · rw [gone] at same
    split at same
    · cases same
    · exact attended.grounded k (fewer k inside) g same

/-- Nobody has pinned what an operation under way has made. -/
theorem forget_eq (attended : s.Attended { u with flying := k :: u.flying } l)
    (found : s.get? k = some f) (unattached : f.isUnattached = true) : l.forget k = l := by
  have flying : k ∈ l.flying := by
    have before := attended.flying k
    rw [List.count_cons_self] at before
    exact List.count_pos_iff.mp (Nat.lt_of_lt_of_le (Nat.succ_pos _) before)
  have kept : l.own.filter (· != k) = l.own := by
    refine List.filter_eq_self.mpr fun h inside => bne_iff_ne.mpr ?_
    rintro rfl
    exact attended.grounded h inside f found unattached flying
  rw [PinTally.forget, kept]

/-- Nobody has pinned what is not there. -/
theorem giveBack_of_none (attended : s.Attended u l) (missing : s.get? h = none) :
    l.giveBack h = l := by
  have absent : h ∉ l.own := fun inside => by
    obtain ⟨f, found, -⟩ := attended.stored (count_of_own inside)
    cases missing.symm.trans found
  rw [PinTally.giveBack, List.erase_of_not_mem absent]

/-- A balanced client can give back its pins. -/
theorem release (attended : s.Attended u l)
    (balanced : ((s.get? h).isNone || l.own.contains h) = true) :
    ∃ r s', s.release h = .ok (r, s') ∧ s'.Attended u (l.giveBack h) := by
  rcases Bool.or_eq_true_iff.mp balanced with missing | taken
  · have missing := Option.isNone_iff_eq_none.mp missing
    rw [attended.giveBack_of_none missing, Store.release, missing]
    exact ⟨_, _, rfl, attended⟩
  · obtain ⟨f, found, held, given⟩ := attended.giveBack (List.contains_iff_mem.mp taken)
    rw [Store.release, found]
    dsimp only
    rw [if_neg held]
    exact ⟨_, _, rfl, given⟩

/-- What is deinstalled gives back a pin, whatever becomes of the atoms. -/
theorem deinstall (attended : s.Attended u l)
    (balanced : ((s.get? h).isNone || l.own.contains h) = true) {r : Except StoreError Unit}
    (done : s.deinstall h = .ok (r, s')) : s'.Attended u (l.giveBack h) := by
  obtain ⟨missing, -, rfl⟩ | ⟨f, atoms, found, -, -, -, rfl⟩ := deinstall_eq_ok done
  · rwa [attended.giveBack_of_none missing]
  · have taken : l.own.contains h = true := by
      rw [found] at balanced
      exact balanced
    obtain ⟨f', found', -, given⟩ := attended.giveBack (List.contains_iff_mem.mp taken)
    obtain rfl := Option.some.inj (found.symm.trans found')
    exact given.keeps (.of_facts_eq rfl)

/-- A fact is pinned and its atoms are installed. -/
theorem install (attended : s.Attended u l) (found : s.get? h = some f)
    (grounded : f.isUnattached = true → h ∉ l.flying) (done : s.install h = .ok s') :
    s'.Attended u (l.take h) := by
  obtain ⟨v, retained, done⟩ := bind_eq_ok.mp done
  obtain rfl := Except.ok.inj done
  obtain ⟨f', found', rfl⟩ := retain_eq_ok retained
  obtain rfl := Option.some.inj (found.symm.trans found')
  have stored := get?_setBusy found (f.busy + 1) h
  rw [if_pos rfl] at stored
  rw [installFields_eq stored]
  exact (attended.take found grounded).keeps
    (.of_update rfl (fun _ => rfl) (fun _ => rfl) fun _ => rfl)

/-- A tally is kept when a request is made that gives back no pin. -/
theorem before {r : Request α} (attended : s.Attended u l) (sound : s.Sound)
    (returned : r.returned = none) :
    s.Attended { u with flying := r.flight s ++ u.flying } ((tallyRules N).before l s r) := by
  unfold Request.flight tallyRules
  dsimp only
  rw [returned, Option.elim_none]
  split
  · exact attended.launch sound.tidy.get?_nextHandle
  · exact attended

/-- Once a request is answered that moves no pin, no fact of its own is under way. -/
theorem after {r : Request α} {a : α} {start : Store N}
    (attended : s.Attended { u with flying := r.flight start ++ u.flying } l)
    (returned : r.returned = none) (taken : r.taken a = none) (givenUp : r.givenUp start a = none) :
    s.Attended u ((tallyRules N).after l start r a) := by
  unfold Request.flight at attended
  unfold tallyRules
  dsimp only
  rw [taken, givenUp, returned, Option.elim_none, Option.elim_none, Option.elim_none]
  split at attended
  · rename_i asserts
    rw [if_pos asserts]
    exact attended.land
  · rename_i other
    rw [if_neg other]
    exact attended

end Attended

/-! ### Conditions on a tally -/

variable [JoinNetwork N]

theorem upheld_attended (u : Underway) : Upheld (OnLedger (N := N) (τ := τ) Attended u) where
  errand attended reached errand := attended.keeps (errand.keepsPins reached.sound)
  detach attended reached done := by
    obtain ⟨f, found, asserted, -, detaches, -⟩ := detach_spec reached.sound done
    exact attended.keeps (.detaches detaches found asserted)

theorem assertive_attended (start : Store N) (u : Underway) :
    Assertive start
      (OnLedger (τ := τ) Attended { u with flying := start.facts.nextHandle :: u.flying }) where
  attach attended _ found unattached numbered _ _ _ attaches _ _ :=
    attended.keeps (.attaches attaches found unattached numbered)
  matchFact attended _ _ done := attended.keeps (.rematched (rematched_matchFact done))
  free attended reached found unattached here done := by
    subst here
    have freed := attended.free reached.sound.tidy found unattached done
    rwa [attended.forget_eq found unattached] at freed

/-- While an operation makes a fact, nobody pins it before it is attached. -/
theorem tightens_attended (start : Store N) (r : Request α) (u : Underway) :
    Tightens (OnLedger (N := N) (τ := τ) Attended u)
      (OnLedger Attended { u with flying := r.flight start ++ u.flying }) where
  upheld := upheld_attended _
  loosens attended := by
    unfold Request.flight at attended
    split at attended
    · exact attended.loosen
    · exact attended
  past := rfl
  excuses := rfl

/-! ### Requests -/

/-- Requests that move no pin uphold a tally. -/
theorem upheldAt_attended {r : Request α} {start : Store N} (other : ¬ r.MovesTally start)
    (u : Underway) (book : Book PinTally τ) :
    r.UpheldAt start book
      (OnLedger Attended { u with flying := r.flight start ++ u.flying }) := by
  refine ⟨?_, fun _ _ made attended reached =>
    attended.keeps (made.making.keepsPins reached.sound)⟩
  cases r with
  | retain | release | install | deinstall | makeModifier | commitModifier | abortModifier
  | discard => exact absurd trivial other
  | putSlot => exact fun _ done attended _ => attended.keeps (.putSlot done)
  | putSlotAt => exact fun _ done attended _ => attended.keeps (.putSlotAt done)
  | assertAt =>
    exact ⟨assertive_attended start u, fun _ _ rejects _ _ _ _ _ => absurd rejects other⟩
  | assertOrdered | modify | duplicate | commitBuilder => exact assertive_attended start u
  | makeBuilder => exact fun _ _ done attended _ => attended.keeps (.makeBuilder done)
  | dropBuilder => exact fun attended _ => attended.keeps (.of_facts_eq rfl)
  | addPattern =>
    intro _ _ _ _ _ attended _ done
    refine attended.keeps (.rematched (replayable_rematched.addPattern (fun _ _ _ _ _ => ?_) done))
    exact .of_facts_eq rfl rfl
  | removePattern =>
    exact fun _ _ _ attended _ done => attended.keeps (.rematched (.removePattern done))
  | replayNewPatterns =>
    exact fun _ _ _ _ _ attended _ done =>
      attended.keeps (.rematched (replayable_rematched.replayAll done))
  | clear => exact fun _ _ attended _ _ _ => attended.keeps (.of_facts_eq rfl)
  | setAllowDuplicates | setProbe => exact fun _ _ attended _ => attended.keeps (.of_facts_eq rfl)
  | _ => exact trivial

end Store

namespace Request

variable {s : Store N} {r : Request α}

theorem returned_of_not_moves (other : ¬ r.MovesTally s) : r.returned = none := by
  cases r with
  | release | deinstall | commitModifier | abortModifier => exact absurd trivial other
  | _ => rfl

theorem taken_of_not_moves (other : ¬ r.MovesTally s) (a : α) : r.taken a = none := by
  cases r with
  | retain | install | makeModifier => exact absurd trivial other
  | _ => rfl

theorem givenUp_of_not_moves (other : ¬ r.MovesTally s) (a : α) : r.givenUp s a = none := by
  cases r with
  | discard => exact absurd trivial other
  | assertAt => exact if_neg other
  | _ => rfl

end Request

/-! ### Dealing with requests -/

section Keep

variable [JoinNetwork N] {u : Underway} {hooks : Hooks N (Memo (Book PinTally τ)) (Store N)}
  {w : World N (Memo (Book PinTally τ)) (Store N)}

/-- Requests that move no pin are dealt with while a fact of their own is under way. -/
theorem runs_keep_attended {r : Request α} (other : ¬ r.MovesTally w.store)
    (courteous : ∀ u, Courteous (OnLedger Attended u) hooks)
    (stepwise : Stepwise (OnLedger Attended u) none w) :
    Runs (OnLedger Attended u) none (keep (tallyRules N) hooks r) w [] fun _ => SameGuard w := by
  have returned := Request.returned_of_not_moves other
  refine runs_keep_upheld (tightens_attended w.store r u) (courteous _) stepwise
    (fun w₁ opened => ?_) fun holds => ?_
  · rw [opened.notes, opened.store]
    exact ⟨Attended.before stepwise.holds stepwise.reached.sound returned,
      upheldAt_attended other u _⟩
  · exact Attended.after holds returned (Request.taken_of_not_moves other _)
      (Request.givenUp_of_not_moves other _)

omit [JoinNetwork N] in
/-- A modifier gives back its pin, and nothing else happens. -/
theorem ensures_unpin {l : PinTally} {m : Modifier} (attended : w.store.Attended u l)
    (balanced : ((w.store.get? m.fact).isNone || l.own.contains m.fact) = true)
    {Q : Except ModifyError Unit → World N (Memo (Book PinTally τ)) (Store N) → Prop}
    {E : World N (Memo (Book PinTally τ)) (Store N) → Prop}
    (holds : ∀ a r s, w.store.release m.fact = .ok (r, s) → s.Attended u (l.giveBack m.fact) →
      Q a { w with store := s }) : Ensures m.unpin w Q E := by
  obtain ⟨r, s, done, given⟩ := attended.release balanced
  refine ensures_bind (ensures_step_of_ok done ?_)
  split <;> exact ensures_pure (holds _ _ s done given)

/-- A fact whose content is asserted already is freed without anyone hearing of it. -/
theorem ensures_assertAt_of_rejects {h : Handle} {position : Position}
    (rejects : w.store.rejects h position = true)
    {Q : Except AssertError Asserted → World N (Memo (Book PinTally τ)) (Store N) → Prop}
    {E : World N (Memo (Book PinTally τ)) (Store N) → Prop}
    (freed : ∀ a f s, w.store.get? h = some f → f.isUnattached = true → w.store.free h = .ok s →
      Q a { w with store := { s with counters :=
        { s.counters with duplicatesRejected := s.counters.duplicatesRejected + 1 } } })
    (broken : ∀ f b, w.store.get? h = some f → f.isUnattached = true → w.store.free h = .error b →
      E { w with journal := w.journal.push (.notice (.broken b)) }) :
    Ensures (assertAt hooks h position) w Q E := by
  obtain ⟨f, found, rejects⟩ := (Option.any_eq_true _ _).mp rejects
  rw [Bool.and_eq_true, Bool.and_eq_true, Bool.and_eq_true, Bool.not_eq_true'] at rejects
  obtain ⟨⟨⟨unattached, unguarded⟩, placed⟩, duplicate⟩ := rejects
  obtain ⟨unnumbered, notGarbage⟩ := Fact.isUnattached_iff.mp unattached
  obtain ⟨previous, placed⟩ := Option.isSome_iff_exists.mp placed
  obtain ⟨existing, duplicate⟩ := Option.isSome_iff_exists.mp duplicate
  unfold assertAt
  refine ensures_bind (ensures_getStore ?_)
  rw [found]
  dsimp only
  rw [if_neg (Bool.eq_false_iff.mp notGarbage), if_neg (not_not.mpr unnumbered),
    if_neg (Bool.eq_false_iff.mp unguarded), toOption_eq_some.mp placed]
  dsimp only
  rw [duplicate]
  refine ensures_bind (ensures_bind (ensures_change (fun s done => ?_) fun b failed => ?_))
  · exact ensures_updateStore (ensures_pure (freed _ f s found unattached done))
  · exact broken f b found unattached failed

/-- A fact is struck off that turns out to be a duplicate. -/
theorem runs_keep_rejected {h : Handle} {position : Position}
    (rejects : w.store.rejects h position = true)
    (stepwise : Stepwise (OnLedger Attended u) none w) :
    Runs (OnLedger Attended u) none (keep (tallyRules N) hooks (.assertAt h position)) w []
      fun _ => SameGuard w := by
  have attended : w.store.Attended u w.host.notes.ledger := stepwise.holds
  have launched := attended.launch stepwise.reached.sound.tidy.get?_nextHandle
  refine runs_keep stepwise fun w₁ opened => ?_
  have begun := opened.begun stepwise launched.loosen
  rw [← opened.store] at rejects
  refine ensures_assertAt_of_rejects rejects (fun a f s found unattached freed => ?_)
    fun f b found unattached failed => begun.fail (.free found unattached failed)
  have quiet := (free_spec begun.reached.sound found unattached freed).1
  refine opened.closes stepwise (.tail (.single (.chore (.free found unattached freed)))
    (.chore (.countDuplicate s))) ⟨quiet.leaves.facts, quiet.leaves.contentHash⟩ rfl
    quiet.alike.guarded ?_
  have givenUp : (Request.assertAt h position).givenUp w₁.store a = some h := if_pos rejects
  change Attended u (PinTally.land (Option.elim _ _ _) w₁.store.facts.nextHandle) _
  rw [givenUp, opened.notes]
  rw [opened.store] at found freed ⊢
  refine ((launched.free stepwise.reached.sound.tidy found unattached freed).keeps ?_).land
  exact .of_facts_eq rfl

/-- A modifier asserts a fact of its own once its pin is given back. -/
theorem runs_keep_commitModifier (m : Modifier)
    (courteous : ∀ u, Courteous (OnLedger Attended u) hooks)
    (stepwise : Stepwise (OnLedger Attended u) none w) :
    Runs (OnLedger Attended u) none (keep (tallyRules N) hooks (.commitModifier m)) w []
      fun _ => SameGuard w := by
  have attended : w.store.Attended u w.host.notes.ledger := stepwise.holds
  let u' : Underway := { u with flying := w.store.facts.nextHandle :: u.flying }
  refine runs_keep stepwise fun w₁ opened => ?_
  obtain ⟨balanced, -⟩ := Bool.and_eq_true_iff.mp opened.allowed
  rw [← opened.store] at attended balanced
  have closes {a w₂} (stepwise' : Stepwise (OnLedger Attended u') none w₂)
      (spares : Spares [m.fact] w₁ w₂) (guard : SameGuard w₁ w₂) :
      Closes (OnLedger Attended u) (tallyRules N) (.commitModifier m) w₁ a w₂ := by
    refine ⟨stepwise'.switch stepwise.upheld rfl .refl ?_, spares, fun _ made => (by cases made),
      guard⟩
    have landed := Attended.land stepwise'.holds
    rw [← opened.store] at landed
    exact landed
  refine ensures_bind (ensures_unpin attended balanced fun a _ s done given => ?_)
  have quiet := release_spec done
  have kept := isSome_release done
  have missing (k : Handle) (gone : s.get? k = none) : w₁.store.get? k = none := by
    rw [← Option.isNone_iff_eq_none, ← Option.not_isSome, ← kept, gone]
    rfl
  have next := nextHandle_release (opened.store ▸ stepwise.reached.sound.tidy) done
  have begun : Stepwise (OnLedger Attended u') none { w₁ with store := s } := by
    refine stepwise.switch (upheld_attended u') opened.journal ?_ ?_
    · rw [← opened.store]
      exact .single (.release done)
    · have none_there : s.get? w.store.facts.nextHandle = none := by
        rw [← opened.store, ← next]
        exact (stepwise.reached.move (.release (opened.store ▸ done))).sound.tidy.get?_nextHandle
      rw [opened.notes]
      exact given.launch none_there
  have spared : Spares [m.fact] w₁ { w₁ with store := s } := .of_leaves quiet.leaves
  cases a with
  | error e => exact ensures_pure (closes begun spared quiet.alike.guarded)
  | ok _ =>
    dsimp only
    split
    · exact ensures_pure (closes begun spared quiet.alike.guarded)
    · have current : Current { w₁ with store := s } := fun k inside =>
        (kept k).trans (opened.current k inside)
      refine ensures_weaken (ensures_mono (runs_modifyFact (courteous u')
        (assertive_attended w.store u) (fun k gone => ?_) (next.trans (by rw [opened.store]))
        begun current fun _ _ _ _ _ _ _ _ _ done attended reached => ?_) ?_) fun _ seen => seen.switch
      · exact not_asserted_of_missing (opened.store ▸ missing k gone)
      · exact attended.keeps (.createWith reached.sound done)
      · rintro a w₂ ⟨stepwise', spares, guard⟩
        exact closes stepwise' (spared.trans spares) (guard.guard.trans quiet.alike.guarded)

/-- Whatever is asked of a fact base, a tally says how often everything is pinned. -/
theorem tallyRules_upholds :
    (tallyRules N).Upholds τ fun (u : Underway) l => Attended u l := by
  intro β u hooks r w courteous stepwise
  have attended : w.store.Attended u w.host.notes.ledger := stepwise.holds
  cases r with
  | retain h =>
    refine runs_keep stepwise fun w₁ opened => ?_
    have begun := opened.begun stepwise attended
    refine ensures_attemptChange (fun s done => ?_) fun e _ => opened.stays stepwise rfl begun.holds
    have spec := retain_spec done
    refine opened.closes stepwise (.single (.chore (.retain done))) spec.leaves rfl
      spec.alike.guarded ?_
    obtain ⟨f, found, rfl⟩ := retain_eq_ok done
    rw [opened.notes]
    rw [opened.store] at found ⊢
    exact attended.take found (grounds opened.allowed found)
  | install h =>
    refine runs_keep stepwise fun w₁ opened => ?_
    have begun := opened.begun stepwise attended
    refine ensures_attemptChange (fun s done => ?_) fun e _ => opened.stays stepwise rfl begun.holds
    have spec := install_spec done
    refine opened.closes stepwise (.single (.chore (.install done))) spec.leaves rfl
      spec.alike.guarded ?_
    obtain ⟨v, retained, -⟩ := bind_eq_ok.mp done
    obtain ⟨f, found, -⟩ := retain_eq_ok retained
    rw [opened.notes]
    rw [opened.store] at found done
    exact attended.install found (grounds opened.allowed found) done
  | makeModifier h =>
    refine runs_keep stepwise fun w₁ opened => ?_
    have begun := opened.begun stepwise attended
    refine ensures_attempt (fun m s done => ?_) fun e _ => opened.stays stepwise rfl begun.holds
    obtain ⟨spec, retained, f, found, asserted⟩ := makeModifier_spec done
    refine opened.closes stepwise (.single (.chore (.retain retained))) spec.leaves rfl
      spec.alike.guarded ?_
    obtain ⟨f', found', rfl⟩ := retain_eq_ok retained
    obtain rfl := Option.some.inj (found.symm.trans found')
    rw [opened.notes]
    rw [opened.store] at found ⊢
    exact attended.take found fun unattached =>
      absurd asserted (not_asserted_of_unattached unattached)
  | release h =>
    refine runs_keep stepwise fun w₁ opened => ?_
    obtain ⟨balanced, -⟩ := Bool.and_eq_true_iff.mp opened.allowed
    obtain ⟨r, s, done, given⟩ := attended.release balanced
    rw [← opened.store] at done
    refine ensures_step_of_ok done ?_
    have spec := release_spec done
    refine opened.closes stepwise (.single (.release done)) spec.leaves rfl spec.alike.guarded ?_
    rw [opened.notes]
    exact given
  | deinstall h =>
    refine runs_keep stepwise fun w₁ opened => ?_
    obtain ⟨balanced, -⟩ := Bool.and_eq_true_iff.mp opened.allowed
    have begun := opened.begun stepwise attended
    refine ensures_step (fun r s done => ?_) fun b failed => begun.fail (.deinstall ?_ failed)
    · have spec := deinstall_spec done
      refine opened.closes stepwise (.single (.deinstall done)) spec.leaves rfl
        spec.alike.guarded ?_
      rw [opened.notes]
      rw [opened.store] at done
      exact attended.deinstall balanced done
    · exact fun text same =>
        ⟨⟨text, same⟩, fun _ _ _ _ attended => attended.keeps (.of_facts_eq rfl)⟩
  | abortModifier m =>
    refine runs_keep stepwise fun w₁ opened => ?_
    obtain ⟨balanced, -⟩ := Bool.and_eq_true_iff.mp opened.allowed
    rw [← opened.store] at attended balanced
    refine ensures_unpin attended balanced fun a r s done given => ?_
    have spec := release_spec done
    refine opened.closes stepwise (.single (.release done)) spec.leaves rfl spec.alike.guarded ?_
    rw [opened.notes]
    exact given
  | discard h =>
    refine runs_keep stepwise fun w₁ opened => ?_
    have begun := opened.begun stepwise attended
    refine ensures_step (fun r s done => ?_) fun b failed => begun.fail (.discard failed)
    have spec := discard_spec begun.reached.sound done
    refine opened.closes stepwise (.single (.chore (.discard done))) spec.leaves rfl
      spec.alike.guarded ?_
    obtain ⟨e, rfl, rfl⟩ | ⟨f, found, unattached, freed, rfl⟩ := discard_eq_ok done
    · exact begun.holds
    · exact Attended.free begun.holds begun.reached.sound.tidy found unattached freed
  | assertAt h position =>
    by_cases rejects : w.store.rejects h position = true
    · exact runs_keep_rejected rejects stepwise
    · exact runs_keep_attended rejects courteous stepwise
  | commitModifier m => exact runs_keep_commitModifier m courteous stepwise
  | _ => exact runs_keep_attended id courteous stepwise

end Keep

end FactBase

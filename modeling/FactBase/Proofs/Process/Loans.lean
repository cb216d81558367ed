import FactBase.Proofs.Process.Keepers
import FactBase.Proofs.Store.Balance
import FactBase.Proofs.Store.Rightful

/-!
# Loans of atoms

A client keeps a ledger of the atoms it has installed: it installs the atoms of attached facts only,
and it deinstalls those of a fact only if it installed them before. Whatever it does otherwise,
every atom is installed as often as attached facts claim it and as it is on loan. A loan is known by
its fact and the fact's values, which stay what they are as long as an attached fact is stored.
-/

namespace FactBase

open Store Process

variable {N τ α : Type}

/-- The symbol or string that an atom stands for. -/
def Atom.value (a : Atom) : Value :=
  match a.kind with
  | .symbol => .symbol a.text
  | .string => .string a.text

theorem AtomTable.installCount_value (t : AtomTable) (a : Atom) :
    t.installCount a.value = t.installs a := by
  obtain ⟨kind, text⟩ := a
  cases kind <;> rfl

/-- An installation that somebody asked for: the fact, and its values at the time. -/
structure Loan where
  fact : Handle
  values : List Value
deriving DecidableEq

def Loan.atoms (loan : Loan) : List Atom := Value.allAtoms loan.values

theorem isPlain_ofAtoms (b : Breach) (plain : b.isPlain = true) : b.ofAtoms = false := by
  rw [Breach.isPlain, Bool.and_eq_true, Bool.and_eq_true] at plain
  exact (Bool.not_eq_true' _).mp plain.1.2

namespace Request

/-- Whether a request installs no fact but an attached one, and deinstalls none but one that is on
loan. -/
def keepsLoans (s : Store N) (loans : List Loan) : Request α → Bool
  | .install h => (s.get? h).all (!·.isUnattached)
  | .deinstall h => (s.get? h).all fun f => loans.contains ⟨h, f.values⟩
  | _ => true

/-- The loans once a request is answered. -/
def loans (s : Store N) (loans : List Loan) : {α : Type} → Request α → α → List Loan
  | _, .install h, .ok () => (s.get? h).elim loans fun f => ⟨h, f.values⟩ :: loans
  | _, .deinstall h, .ok () => (s.get? h).elim loans fun f => loans.erase ⟨h, f.values⟩
  | _, _, _ => loans

/-- Requests that lend atoms or take them back. -/
def MovesLoans : Request α → Prop
  | .install _ | .deinstall _ => True
  | _ => False

end Request

/-- A ledger of the atoms that are on loan. -/
def loanRules (N : Type) : Rules N (List Loan) where
  allows loans s r := r.keepsLoans s loans
  before loans _ _ := loans
  after loans s r a := r.loans s loans a

namespace Store

variable {s s' : Store N} {loans : List Loan} {h : Handle} {f : Fact}

/-- Every atom is installed as often as facts claim it and as it is on loan. -/
structure Balanced (loans : List Loan) (s : Store N) : Prop where
  once : s.atoms.Once
  counted : ∀ a, s.atoms.installs a =
    s.facts.claims.count a + (loans.flatMap Loan.atoms).count a

namespace Balanced

theorem fresh (config : Config) (network : N) (contentHash : TemplateId → List Value → UInt64) :
    (Store.fresh config network contentHash).Balanced [] :=
  ⟨List.nodup_nil, fun _ => rfl⟩

theorem step (balanced : s.Balanced loans) (balances : Balances s s') : s'.Balanced loans := by
  refine ⟨balances.once balanced.once, fun a => ?_⟩
  have before := balanced.counted a
  have moved := balances.atoms balanced.once a
  omega

/-- A fact that is installed is on loan. -/
theorem install (balanced : s.Balanced loans) (found : s.get? h = some f)
    (done : s.install h = .ok s') : s'.Balanced (⟨h, f.values⟩ :: loans) := by
  obtain ⟨u, retained, done⟩ := bind_eq_ok.mp done
  obtain rfl := Except.ok.inj done
  obtain ⟨once, counted⟩ := balanced.step (.retain retained)
  obtain ⟨f', found', rfl⟩ := retain_eq_ok retained
  obtain rfl := Option.some.inj (found.symm.trans found')
  have stored : (s.setBusy h (f.busy + 1)).get? h = some { f with busy := f.busy + 1 } := by
    rw [get?_update_facts h rfl, if_pos rfl, show s.facts.get? h = some f from found]
    rfl
  rw [installFields_eq stored]
  refine ⟨once.fields _ _, fun a => ?_⟩
  have claims := Arena.claims_update (u := fun f : Fact =>
    { f with fields := f.fields.map fun field => { field with source := .table } }) stored
    (by unfold Fact.claims; rw [values_sourced]) a
  have before := counted a
  dsimp only
  rw [claims, AtomTable.installs_fields, List.flatMap_cons, List.count_append]
  change _ + (Loan.atoms ⟨h, f.values⟩).count a = _
  omega

/-- What a fact claims or has on loan can be taken back. -/
theorem gives (balanced : s.Balanced loans) {vs : List Value} (enough : ∀ a,
    (Value.allAtoms vs).count a ≤ s.facts.claims.count a + (loans.flatMap Loan.atoms).count a) :
    ∃ t, vs.foldlM AtomTable.deinstall s.atoms = .ok t := by
  rw [AtomTable.foldlM_deinstall]
  exact AtomTable.deinstallAtoms_total fun a => balanced.counted a ▸ enough a

theorem gives_claimed (balanced : s.Balanced loans) (found : s.get? h = some f)
    (numbered : f.index ≠ 0) : ∃ t, f.values.foldlM AtomTable.deinstall s.atoms = .ok t := by
  refine balanced.gives fun a => Nat.le_add_right_of_le ?_
  have claims : f.claims = Value.allAtoms f.values := if_neg numbered
  rw [← claims]
  exact Arena.count_claims_le found a

theorem breaksOver_deinstall (balanced : s.Balanced loans) (found : s.get? h = some f)
    (numbered : f.index ≠ 0) {K : Breach → Prop} :
    BreaksOver K (f.values.foldlM AtomTable.deinstall s.atoms) := by
  obtain ⟨t, given⟩ := balanced.gives_claimed found numbered
  rw [given]
  exact breaksOver_ok t

theorem gives_lent (balanced : s.Balanced loans) (lent : ⟨h, f.values⟩ ∈ loans) :
    ∃ t, f.values.foldlM AtomTable.deinstall s.atoms = .ok t := by
  refine balanced.gives fun a => Nat.le_add_left_of_le ?_
  rw [((List.perm_cons_erase lent).flatMap_right Loan.atoms).count_eq, List.flatMap_cons,
    List.count_append]
  exact Nat.le_add_right _ _

/-- A fact that is on loan can be deinstalled as long as it is pinned, and is not on loan then. -/
theorem deinstall (balanced : s.Balanced loans) (found : s.get? h = some f)
    (lent : ⟨h, f.values⟩ ∈ loans) {r : Except StoreError Unit}
    (done : s.deinstall h = .ok (r, s')) : s'.Balanced (loans.erase ⟨h, f.values⟩) := by
  obtain ⟨missing, -⟩ | ⟨f', atoms, found', -, given, -, rfl⟩ := deinstall_eq_ok done
  · cases found.symm.trans missing
  · obtain rfl := Option.some.inj (found.symm.trans found')
    rw [AtomTable.foldlM_deinstall] at given
    refine ⟨balanced.once.deinstallAtoms given, fun a => ?_⟩
    have taken := AtomTable.installs_deinstallAtoms given a
    have before := balanced.counted a
    rw [((List.perm_cons_erase lent).flatMap_right Loan.atoms).count_eq, List.flatMap_cons,
      List.count_append] at before
    have claims : (s.setBusy h (f.busy - 1)).facts.claims.count a = s.facts.claims.count a :=
      Arena.claims_update found rfl a
    have lentAtoms : Loan.atoms ⟨h, f.values⟩ = Value.allAtoms f.values := rfl
    rw [lentAtoms] at before
    dsimp only
    omega

end Balanced

/-! ### Requests -/

variable [JoinNetwork N]

theorem upheld_balanced : Upheld (OnLedger (N := N) (τ := τ) (fun (_ : Unit) loans => Balanced loans) ()) where
  errand balanced _ errand := balanced.step errand.balances
  detach balanced reached done := by
    obtain ⟨f, found, -, -, detaches, -⟩ := detach_spec reached.sound done
    exact balanced.step (.detaches detaches found)

theorem assertive_balanced (start : Store N) :
    Assertive start (OnLedger (τ := τ) (fun (_ : Unit) loans => Balanced loans) ()) where
  attach balanced _ found unattached numbered _ _ _ attaches _ _ :=
    balanced.step (.attaches attaches found unattached numbered)
  matchFact balanced _ _ done := balanced.step (.rematched (rematched_matchFact done))
  free balanced _ _ _ _ done := balanced.step (.free done)

/-- Only requests to install and to deinstall change what is on loan. -/
theorem upheldAt_balanced {r : Request α} (other : ¬ r.MovesLoans) (start : Store N)
    (book : Book (List Loan) τ) : r.UpheldAt start book (OnLedger (fun (_ : Unit) loans => Balanced loans) ()) := by
  refine ⟨?_, fun _ _ made balanced reached => balanced.step (made.making.balances reached.sound)⟩
  cases r with
  | install | deinstall => exact absurd trivial other
  | putSlot => exact fun _ done balanced _ => balanced.step (.putSlot done)
  | putSlotAt => exact fun _ done balanced _ => balanced.step (.putSlotAt done)
  | discard => exact fun _ _ done balanced _ => balanced.step (.discard done)
  | assertAt =>
    exact ⟨assertive_balanced start, fun _ _ _ _ _ done balanced _ => balanced.step (.free done)⟩
  | assertOrdered | modify | duplicate | commitBuilder => exact assertive_balanced start
  | commitModifier =>
    exact ⟨assertive_balanced start, fun _ _ done balanced _ => balanced.step (.release done)⟩
  | retain | makeModifier => exact fun _ done balanced _ => balanced.step (.retain done)
  | release | abortModifier => exact fun _ _ done balanced _ => balanced.step (.release done)
  | makeBuilder =>
    intro _ _ done balanced _
    exact balanced.step (.makeBuilder done)
  | addPattern =>
    intro _ _ _ _ _ balanced _ done
    refine balanced.step (.rematched (replayable_rematched.addPattern (fun _ _ _ _ _ => ?_) done))
    exact .of_facts_eq rfl rfl
  | removePattern =>
    intro _ _ _ balanced _ done
    exact balanced.step (.rematched (.removePattern done))
  | replayNewPatterns =>
    exact fun _ _ _ _ _ balanced _ done =>
      balanced.step (.rematched (replayable_rematched.replayAll done))
  | dropBuilder => exact fun balanced _ => balanced.step (.of_eq rfl rfl)
  | clear => exact fun _ _ balanced _ _ _ => balanced.step (.of_eq rfl rfl)
  | setAllowDuplicates | setProbe => exact fun _ _ balanced _ => balanced.step (.of_eq rfl rfl)
  | _ => exact trivial

end Store

/-- Whatever is asked of a fact base, installations balance with claims and loans, as long as nothing
is deinstalled that is not on loan. -/
theorem lending_upholds [JoinNetwork N]
    {allows : {α : Type} → List Loan → Store N → Request α → Bool}
    (returns : ∀ loans s h, allows loans s (.deinstall h) = true →
      (s.get? h).all (fun f => loans.contains ⟨h, f.values⟩) = true) :
    Rules.Upholds { loanRules N with allows := allows } τ fun (_ : Unit) loans => Balanced loans := by
  intro β _ hooks r w courteous stepwise
  have begun {w₁} (opened : Opens { loanRules N with allows := allows } r w w₁) :=
    opened.begun stepwise stepwise.holds
  cases r with
  | install h =>
    refine runs_keep stepwise fun w₁ opened => ?_
    refine ensures_attemptChange (fun s done => ?_) fun e _ => ?_
    · have spec := install_spec done
      refine opened.closes stepwise (.single (.chore (.install done))) spec.leaves rfl
        spec.alike.guarded ?_
      obtain ⟨u, retained, -⟩ := bind_eq_ok.mp done
      obtain ⟨f, found, -⟩ := retain_eq_ok retained
      change Balanced ((w₁.store.get? h).elim _ _) s
      rw [found]
      exact (begun opened).holds.install found done
    · exact opened.stays stepwise rfl (begun opened).holds
  | deinstall h =>
    refine runs_keep stepwise fun w₁ opened => ?_
    have lent (f : Fact) (found : w₁.store.get? h = some f) :
        ⟨h, f.values⟩ ∈ w₁.host.notes.ledger := by
      have allowed := returns _ _ _ opened.allowed
      rw [← opened.store, found] at allowed
      rw [opened.notes]
      exact List.contains_iff_mem.mp allowed
    refine ensures_step (fun r s done => ?_) fun b failed => (begun opened).fail ?_
    · have spec := deinstall_spec done
      refine opened.closes stepwise (.single (.deinstall done)) spec.leaves rfl
        spec.alike.guarded ?_
      obtain ⟨-, rfl, rfl⟩ | ⟨f, atoms, found, -, -, rfl, -⟩ := deinstall_eq_ok done
      · exact (begun opened).holds
      · change Balanced ((w₁.store.get? h).elim _ _) s
        rw [found]
        exact (begun opened).holds.deinstall found (lent f found) done
    · refine .deinstall (fun text same => ?_) failed
      have other := breaksOver_deinstall isPlain_ofAtoms (fun f found => ?_) b failed
      · rw [same] at other
        cases other
      · obtain ⟨t, given⟩ := (begun opened).holds.gives_lent (lent f found)
        rw [given]
        exact breaksOver_ok t
  | _ =>
    refine runs_keep_upheld (.refl upheld_balanced) (courteous ()) stepwise (fun w₁ opened => ?_) ?_
    · exact ⟨(begun opened).holds, upheldAt_balanced id w₁.store w₁.host.notes⟩
    · intro a book s balanced
      exact balanced

theorem loanRules_upholds [JoinNetwork N] :
    (loanRules N).Upholds τ fun (_ : Unit) loans => Balanced loans :=
  lending_upholds fun _ _ _ => id

/-! ### Breaking off -/

namespace Store

variable [JoinNetwork N] {s : Store N} {loans : List Loan}

theorem ofAtoms_eq_false {b : Breach} (other : ∀ text, b ≠ .atomNeverInstalled text) :
    b.ofAtoms = false := by
  cases b with
  | atomNeverInstalled text => exact absurd rfl (other text)
  | _ => rfl

/-- Where installations balance, nothing breaks off over an atom that was never installed. -/
theorem Balanced.ofAtoms_of_fails (balanced : s.Balanced loans)
    (network : ∀ h ids (n : N), BreaksOver (·.ofMatches = true) (JoinNetwork.retract h ids n))
    {excuses : Breach → Prop} (strict : ∀ b, ¬ excuses b) {b : Breach} (fails : Fails excuses s b) : b.ofAtoms = false := by
  have taken (h : Handle) (ids : List MatchId) (n : N) :
      BreaksOver (·.ofAtoms = false) (JoinNetwork.retract h ids n) := by
    intro b failed
    have ofMatches := network h ids n b failed
    cases b with
    | atomNeverInstalled => cases ofMatches
    | _ => rfl
  have gives {s : Store N} {h : Handle} {f : Fact} (balanced : s.Balanced loans)
      (found : s.get? h = some f) (numbered : f.index ≠ 0) :
      BreaksOver (·.ofAtoms = false) (f.values.foldlM AtomTable.deinstall s.atoms) :=
    balanced.breaksOver_deinstall found numbered
  have freed {s s' : Store N} {h : Handle} (balanced : s.Balanced loans)
      (done : s.free h = .ok s') : s'.Balanced loans := balanced.step (.free done)
  have listed {s : Store N} (garbage : List Handle) (balanced : s.Balanced loans) :
      Balanced loans { s with garbage } := balanced.step (.of_eq rfl rfl)
  cases fails with
  | createWith failed => exact breaksOver_createWith isPlain_ofAtoms s _ _ _ b failed
  | createFact failed => exact breaksOver_createFact isPlain_ofAtoms s _ b failed
  | createOrdered failed => exact breaksOver_createOrdered isPlain_ofAtoms s _ _ b failed
  | discard failed => exact breaksOver_discard isPlain_ofAtoms (fun _ => gives balanced) b failed
  | free _ _ failed => exact breaksOver_free isPlain_ofAtoms (fun _ => gives balanced) b failed
  | release failed => exact breaksOver_release isPlain_ofAtoms s _ b failed
  | deinstall excused _ => exact ofAtoms_eq_false fun text same => strict b (excused text same)
  | collectGarbage failed =>
    exact breaksOver_collectGarbage isPlain_ofAtoms gives freed listed balanced b failed
  | maybeCollect failed =>
    exact breaksOver_maybeCollect isPlain_ofAtoms gives freed listed balanced b failed
  | detach failed => exact breaksOver_detach isPlain_ofAtoms taken b failed
  | matchFact _ failed => exact breaksOver_matchFact isPlain_ofAtoms s _ _ b failed
  | addPattern failed => exact breaksOver_addPattern isPlain_ofAtoms taken _ _ b failed
  | replayNewPatterns failed => exact breaksOver_replayAll isPlain_ofAtoms taken _ b failed
  | pin excused | unpin excused => exact absurd excused (strict _)

/-- Where installations are to balance, atoms matter. -/
theorem not_excused_balanced (network : N) (b : Breach) :
    ¬ (OnLedger (N := N) (τ := τ) (fun (_ : Unit) loans => Balanced loans) ()).excuses b := by
  rintro ⟨-, heedless⟩
  let atoms : AtomTable := AtomTable.install {} none (.symbol "on")
  have balanced : Balanced [] { fresh {} network fun _ _ => 0 with atoms } :=
    @heedless () _ _ atoms (Balanced.fresh {} network fun _ _ => 0)
  have counted : atoms.installs ⟨.symbol, "on"⟩ = 0 := balanced.counted ⟨.symbol, "on"⟩
  exact absurd counted (by decide)

theorem not_broken_of_seen {w : World N (Memo (Book (List Loan) τ)) (Store N)}
    (seen : Seen (OnLedger (fun (_ : Unit) loans => Balanced loans) ()) w) (network : N)
    (matchesOnly : ∀ h ids (n : N), BreaksOver (·.ofMatches = true) (JoinNetwork.retract h ids n))
    (text : String) : Entry.notice (.broken (.atomNeverInstalled text)) ∉ w.journal := by
  intro inside
  obtain ⟨s, -, ⟨_, notes, balanced⟩, fails⟩ := seen.broken _ inside
  have other := Balanced.ofAtoms_of_fails balanced matchesOnly (not_excused_balanced network) fails
  cases other

end Store

/-! ### Atoms and loans -/

namespace Store

variable {s : Store N} {loans : List Loan}

/-- What a fact base that keeps count of its atoms makes sure of while some loans are out. -/
structure Accounts (loans : List Loan) (s : Store N) : Prop where
  counted : ∀ a : Atom, s.atoms.installCount a.value =
    s.facts.claims.count a + (loans.flatMap Loan.atoms).count a
  /-- No sweep changes a count or drops an atom of a fact that is asserted or retracted. -/
  swept : ∀ inUse (a : Atom), (s.atoms.sweep inUse).installCount a.value =
    s.atoms.installCount a.value
  kept : ∀ h f, s.get? h = some f → f.isUnattached = false → ∀ a ∈ Value.allAtoms f.values,
    ∀ inUse, ∃ e ∈ (s.atoms.sweep inUse).entries, e.atom = a
  /-- What is lent can be taken back. -/
  returned : ∀ h f, s.get? h = some f → ⟨h, f.values⟩ ∈ loans → f.busy ≠ 0 →
    ∃ s', s.deinstall h = .ok (.ok (), s')
  none : (∀ h f, s.get? h = some f → f.isUnattached = true) → loans = [] →
    ∀ a : Atom, s.atoms.installCount a.value = 0

theorem Balanced.accounts (balanced : s.Balanced loans) (sound : s.Sound) : s.Accounts loans := by
  refine ⟨fun a => ?_, fun inUse a => ?_, fun h f found attached a inside inUse => ?_,
    fun h f found lent pinned => ?_, fun unattached paid a => ?_⟩
  · rw [AtomTable.installCount_value, balanced.counted]
  · rw [AtomTable.installCount_value, AtomTable.installCount_value,
      balanced.once.installs_sweep]
  · have numbered : f.index ≠ 0 := fun unnumbered => by
      rw [unattached_of_unnumbered sound found unnumbered] at attached
      cases attached
    have claimed : a ∈ s.facts.claims :=
      List.mem_flatMap.mpr ⟨f, Arena.mem_values found, by rwa [Fact.claims, if_neg numbered]⟩
    refine AtomTable.mem_sweep ?_ inUse
    rw [balanced.counted]
    exact Nat.add_pos_left (List.count_pos_iff.mpr claimed) _
  · obtain ⟨t, given⟩ := balanced.gives_lent lent
    unfold Store.deinstall
    rw [found]
    dsimp only
    rw [if_neg pinned, given]
    exact ⟨_, rfl⟩
  · rw [AtomTable.installCount_value, balanced.counted, paid, List.flatMap_nil, List.count_nil,
      Nat.add_zero, List.count_eq_zero]
    intro claimed
    obtain ⟨f, inside, claims⟩ := List.mem_flatMap.mp claimed
    obtain ⟨h, found⟩ := Arena.exists_of_mem_values inside
    rw [Fact.claims_of_unattached (unattached h f found)] at claims
    cases claims

end Store

/-- Whatever a client and its listeners ask of a fact base, and wherever they break off, every atom is
installed as often as facts claim it and as it is on loan. If the join network breaks off over matches
only, then nothing ever breaks off over an atom that was never installed. -/
theorem atoms_accounted [JoinNetwork N] {p : Keeping N (List Loan) τ α}
    (keeper : Keeper (loanRules N) p) (config : Config) (network : N)
    (contentHash : TemplateId → List Value → UInt64) (own : τ) :
    let w := p.aftermath (outset (Store.fresh config network contentHash) ⟨[], own⟩)
    w.store.Accounts w.host.notes.ledger ∧
      ((∀ h ids (n : N), BreaksOver (·.ofMatches = true) (JoinNetwork.retract h ids n)) →
        ∀ text, Entry.notice (.broken (.atomNeverInstalled text)) ∉ w.journal) := by
  intro w
  have seen : Seen (OnLedger (fun (_ : Unit) loans => Balanced loans) ()) w :=
    keeper.seen loanRules_upholds () upheld_balanced config network contentHash ⟨[], own⟩
      (Balanced.fresh config network contentHash)
  refine ⟨?_, fun matchesOnly text inside => ?_⟩
  · obtain ⟨_, balanced⟩ := seen.holds
    exact Balanced.accounts balanced seen.reached.sound
  · exact not_broken_of_seen seen network matchesOnly text inside

/-- A retracted fact that is installed keeps its atoms until it is deinstalled, and is collected
then. -/
theorem atoms_accounted_lamp :
    let rules := loanRules AlphaMemory
    let hooks : Hooks AlphaMemory (Memo (Book (List Loan) Unit)) (Store AlphaMemory) :=
      fun _ _ => pure ()
    let lamp : Keeping AlphaMemory (List Loan) Unit Unit := do
      let _ ← keep rules hooks (.assertOrdered "lamp" [.symbol "on", .string "on"])
      let _ ← keep rules hooks (.install ⟨0, 0⟩)
      let _ ← keep rules hooks (.retract ⟨0, 0⟩)
      let _ ← keep rules hooks .collectGarbage
      let _ ← look
      let _ ← keep rules hooks (.deinstall ⟨0, 0⟩)
      let _ ← keep rules hooks (.deinstall ⟨0, 0⟩)
      let _ ← keep rules hooks .collectGarbage
    let w := lamp.aftermath (outset (Store.fresh {} {} fun _ _ => 0) ⟨[], ()⟩)
    w.store.Accounts w.host.notes.ledger ∧
      (∀ text, Entry.notice (.broken (.atomNeverInstalled text)) ∉ w.journal) ∧
      (w.looks ++ [w.store]).map (fun s => (s.factCount, s.facts.size, s.atoms.size,
        s.atoms.installCount (.symbol "on"))) = [(0, 1, 2, 2), (0, 0, 0, 0)] := by
  intro rules hooks lamp
  have idle (id : ListenerId) (e : Event) : Keeper rules (hooks id e) := .pure ()
  have keeper : Keeper rules lamp :=
    .bind (.keep idle _) fun _ => .bind (.keep idle _) fun _ => .bind (.keep idle _) fun _ =>
      .bind (.keep idle _) fun _ => .bind .look fun _ => .bind (.keep idle _) fun _ =>
        .bind (.keep idle _) fun _ => .bind (.keep idle _) fun _ => .pure ()
  have accounted := atoms_accounted keeper {} {} (fun _ _ => 0) ()
  exact ⟨accounted.1, accounted.2 AlphaMemory.breaksOver_retract, by decide +kernel⟩

end FactBase

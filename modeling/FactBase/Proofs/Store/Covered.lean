import FactBase.Proofs.Memory.Custody
import FactBase.Proofs.Memory.Walks
import FactBase.Proofs.Store.Step

/-!
# What a fact base counts on

A fact base pins a fact while it is asserted, installs the atoms of every fact it ever asserted, and
remembers by what names the join network took the fact's matches. When the fact goes it counts on
finding all of this again. A caller who gives back a pin or an installation that was not his own to
give spoils it; nothing else does.
-/

namespace FactBase

/-- A fact that, while it is asserted, is no less pinned than what its handle named before, and that
answers for no other matches. -/
structure Backed (before : Option Fact) (g : Fact) : Prop where
  pinned : g.isAsserted = true →
    0 < g.busy ∨ ∃ f, before = some f ∧ f.isAsserted = true ∧ f.busy ≤ g.busy
  matched : g.matched = [] ∨ ∃ f, before = some f ∧ g.matched.Sublist f.matched

namespace Backed

variable {a b : Option Fact} {f g : Fact}

/-- Neither pins nor matches change. -/
theorem of_same (asserted : g.isAsserted = true → f.isAsserted = true) (busy : f.busy ≤ g.busy)
    (matched : g.matched = f.matched) : Backed (some f) g :=
  ⟨fun holds => .inr ⟨f, rfl, asserted holds, busy⟩, .inr ⟨f, rfl, matched ▸ .refl _⟩⟩

theorem refl (f : Fact) : Backed (some f) f := of_same id (Nat.le_refl _) rfl

theorem trans (first : ∀ f, b = some f → Backed a f) (second : Backed b g) : Backed a g := by
  constructor
  · intro asserted
    rcases second.pinned asserted with pinned | ⟨f, found, asserted', less⟩
    · exact .inl pinned
    · rcases (first f found).pinned asserted' with pinned | ⟨e, before, asserted'', less'⟩
      · exact .inl (Nat.lt_of_lt_of_le pinned less)
      · exact .inr ⟨e, before, asserted'', Nat.le_trans less' less⟩
  · rcases second.matched with none | ⟨f, found, sub⟩
    · exact .inl none
    · rcases (first f found).matched with none | ⟨e, before, sub'⟩
      · rw [none, List.sublist_nil] at sub
        exact .inl sub
      · exact .inr ⟨e, before, sub.trans sub'⟩

theorem of_bare (same : g.bare = f.bare) (backed : Backed a f) : Backed a g := by
  have asserted : g.isAsserted = f.isAsserted := Fact.view_eq Fact.isAsserted same fun _ => rfl
  have busy : g.busy = f.busy := Fact.view_eq Fact.busy same fun _ => rfl
  have matched : g.matched = f.matched := Fact.view_eq Fact.matched same fun _ => rfl
  exact ⟨by rw [asserted, busy]; exact backed.pinned, by rw [matched]; exact backed.matched⟩

end Backed

theorem Replaced.backed {a b : Arena Fact} {h : Handle} {g : Fact} (replaced : Replaced h g a b)
    (backed : Backed (a.get? h) g) (k : Handle) (x : Fact) (found : b.get? k = some x) :
    Backed (a.get? k) x := by
  have bare := replaced.bare k
  rw [found, Option.map_some] at bare
  by_cases here : k = h
  · rw [if_pos here, Option.some.injEq] at bare
    exact here ▸ backed.of_bare bare
  · rw [if_neg here, eq_comm, Option.map_eq_some_iff] at bare
    obtain ⟨f, before, same⟩ := bare
    rw [before]
    exact (Backed.refl f).of_bare same.symm

theorem Fact.count_claims_attached (f : Fact) (index : Nat) (hash : UInt64) (a : Atom) :
    (f.attached index hash).claims.count a ≤ (Value.allAtoms f.values).count a := by
  unfold Fact.claims
  split
  · exact Nat.zero_le _
  · rewrite [Fact.attached_values]
    exact Nat.le_refl _

namespace Store

variable {N : Type} {s s' s'' : Store N} {h : Handle} {f : Fact}

/-- A step that takes nothing the fact base counts on. Atoms are weighed against claims: what is no
longer installed is no longer claimed. -/
structure Sustains (s s' : Store N) : Prop where
  facts : ∀ h g, s'.get? h = some g → Backed (s.get? h) g
  atoms : ∀ a, s.atoms.installs a + s'.facts.claims.count a ≤
    s'.atoms.installs a + s.facts.claims.count a
  network : s'.network = s.network

namespace Sustains

theorem trans (first : Sustains s s') (second : Sustains s' s'') : Sustains s s'' := by
  refine ⟨fun h g found => .trans (first.facts h) (second.facts h g found), fun a => ?_,
    second.network.trans first.network⟩
  have before := first.atoms a
  have after := second.atoms a
  omega

/-- Facts stay as they are, and no installation is taken back. -/
theorem of_facts_eq (facts : s'.facts = s.facts) (network : s'.network = s.network)
    (atoms : ∀ a, s.atoms.installs a ≤ s'.atoms.installs a) : Sustains s s' := by
  refine ⟨fun h g found => ?_, fun a => ?_, network⟩
  · rw [Store.get?, facts] at found
    rw [Store.get?, found]
    exact .refl g
  · rw [facts]
    exact Nat.add_le_add_right (atoms a) _

theorem refl (s : Store N) : Sustains s s := of_facts_eq rfl rfl fun _ => Nat.le_refl _

/-- One fact changes, and claims the same as before. -/
theorem of_update {u : Fact → Fact} (facts : s'.facts = s.facts.update h u)
    (backed : ∀ f, s.get? h = some f → Backed (some f) (u f) ∧ (u f).claims = f.claims)
    (network : s'.network = s.network) (atoms : ∀ a, s.atoms.installs a ≤ s'.atoms.installs a) :
    Sustains s s' := by
  cases found : s.get? h with
  | none =>
    refine of_facts_eq (facts.trans ?_) network atoms
    rw [Arena.update, show s.facts.get? h = none from found]
  | some f =>
    obtain ⟨backed, claims⟩ := backed f found
    refine ⟨fun k g same => ?_, fun a => ?_, network⟩
    · rw [Store.get?, facts, Arena.get?_update] at same
      by_cases here : k = h
      · rw [if_pos here, show s.facts.get? h = some f from found] at same
        rw [here, found, ← Option.some.inj same]
        exact backed
      · rw [if_neg here] at same
        rw [Store.get?, same]
        exact .refl g
    · rw [facts, Arena.claims_update found claims]
      exact Nat.add_le_add_right (atoms a) _

/-! ### Facts that are not asserted -/

theorem createWith (tidy : s.facts.Tidy) {t : TemplateId} {template : Template}
    {fields : List Field} (done : s.createWith t template fields = .ok (h, s')) :
    Sustains s s' := by
  obtain ⟨templates, facts, -, inserted, rfl⟩ := createWith_eq_ok done
  obtain ⟨-, -, names⟩ := Arena.insert_spec tidy inserted
  refine ⟨fun k g found => ?_, fun a => ?_, rfl⟩
  · rw [Store.get?, names] at found
    by_cases here : k = h
    · rw [if_pos here] at found
      rw [← Option.some.inj found]
      exact ⟨fun asserted => absurd asserted Bool.false_ne_true, .inl rfl⟩
    · rw [if_neg here] at found
      rw [Store.get?, found]
      exact .refl g
  · have counted := Arena.count_claims_insert tidy inserted a
    have none : Fact.claims { template, templateId := t, fields } = [] := rfl
    rw [none, List.count_nil] at counted
    simp only [counted]
    exact Nat.le_refl _

theorem setField (found : s.get? h = some f) (unattached : f.isUnattached = true) (position : Nat)
    (field : Field) : Sustains s (s.setField h position field) := by
  refine of_update rfl (fun g same => ?_) rfl fun _ => Nat.le_refl _
  obtain rfl := Option.some.inj (found.symm.trans same)
  refine ⟨.of_same id (Nat.le_refl _) rfl, ?_⟩
  rw [Fact.claims_of_unattached unattached]
  exact Fact.claims_of_unattached unattached

theorem putSlotAt {position : Nat} {v : Value} (done : s.putSlotAt h position v = .ok s') :
    Sustains s s' := by
  obtain ⟨f, found, done⟩ := bind_eq_ok.mp done
  obtain ⟨stored, unattached⟩ := unattached_eq_ok found
  split at done
  · cases done
  · split at done
    · cases done
    · obtain rfl := Except.ok.inj done
      exact setField stored unattached position ⟨v, .own⟩

theorem putSlot {slot : String} {v : Value} (done : s.putSlot h slot v = .ok s') :
    Sustains s s' := by
  obtain ⟨f, found, done⟩ := bind_eq_ok.mp done
  split at done
  · cases done
  · exact putSlotAt done

/-- Whoever is freed claims nothing any more. -/
theorem free (tidy : s.facts.Tidy) (done : s.free h = .ok s') :
    Sustains s s' ∧ s'.facts.Tidy := by
  obtain ⟨f, facts, atoms, templates, removed, given, -, rfl⟩ := free_eq_ok done
  obtain ⟨-, tidy', names⟩ := Arena.remove?_spec tidy removed
  refine ⟨⟨fun k g found => ?_, fun a => ?_, rfl⟩, tidy'⟩
  · rw [Store.get?, names] at found
    split at found
    · cases found
    · rw [Store.get?, found]
      exact .refl g
  · have claims := Arena.count_claims_remove? removed a
    have installs := Fact.installs_given given a
    dsimp only
    omega

theorem discard (tidy : s.facts.Tidy) {r : Except StoreError Unit}
    (done : s.discard h = .ok (r, s')) : Sustains s s' := by
  obtain ⟨e, -, rfl⟩ | ⟨f, -, -, freed, -⟩ := discard_eq_ok done
  · exact .refl _
  · exact (free tidy freed).1

/-! ### Pins -/

theorem setBusy {busy : Nat}
    (enough : ∀ f, s.get? h = some f → f.isAsserted = true → 0 < busy) :
    Sustains s (s.setBusy h busy) :=
  of_update rfl (fun f found => ⟨⟨fun asserted => .inl (enough f found asserted),
    .inr ⟨f, rfl, .refl _⟩⟩, rfl⟩) rfl fun _ => Nat.le_refl _

theorem installFields (s : Store N) (h : Handle) : Sustains s (s.installFields h) := by
  cases found : s.get? h with
  | none =>
    rw [Store.installFields, found]
    exact .refl s
  | some f =>
    rw [installFields_eq found]
    refine of_update rfl (fun g _ => ⟨.of_same id (Nat.le_refl _) rfl, ?_⟩) rfl fun a => ?_
    · unfold Fact.claims
      rw [values_sourced g .table]
    · dsimp only
      rw [AtomTable.installs_fields]
      exact Nat.le_add_right _ _

theorem retain (done : s.retain h = .ok s') : Sustains s s' := by
  obtain ⟨f, -, rfl⟩ := retain_eq_ok done
  exact setBusy fun _ _ _ => Nat.succ_pos _

theorem install (done : s.install h = .ok s') : Sustains s s' := by
  obtain ⟨u, retained, done⟩ := bind_eq_ok.mp done
  obtain rfl := Except.ok.inj done
  exact (retain retained).trans (installFields u h)

/-- A pin beyond the one of being asserted can be taken back. -/
theorem release (spare : ∀ f, s.get? h = some f → f.isAsserted = true → 1 < f.busy)
    {r : Except StoreError Unit} (done : s.release h = .ok (r, s')) : Sustains s s' := by
  obtain ⟨-, -, rfl⟩ | ⟨f, found, -, -, rfl⟩ := release_eq_ok done
  · exact .refl _
  · refine setBusy fun g same asserted => ?_
    obtain rfl := Option.some.inj (found.symm.trans same)
    exact Nat.sub_pos_of_lt (spare f found asserted)

/-! ### Attaching and collecting -/

theorem attach (sound : s.Sound) (found : s.get? h = some f) (unattached : f.isUnattached = true)
    {reuse : Option Nat} (positive : ∀ i, reuse = some i → i ≠ 0)
    {previous templatePrevious : Option Handle}
    (listed : ∀ p, previous = some p → ∃ g, s.get? p = some g ∧ g.isAsserted = true)
    (listedInTemplate : ∀ p, templatePrevious = some p →
      ∃ g, s.get? p = some g ∧ g.isAsserted = true ∧ g.templateId = f.templateId)
    {index : Nat}
    (done : s.attach h reuse (s.hashOf f) previous templatePrevious = .ok (index, s')) :
    Sustains s s' := by
  obtain ⟨u, attached, -, attaches⟩ :=
    attach_spec sound found unattached positive listed listedInTemplate
  obtain ⟨-, rfl⟩ := Prod.mk.inj (Except.ok.inj (done.symm.trans attached))
  have network : s'.network = s.network := by
    obtain ⟨_, _, _, _, _, _, rfl⟩ := attaches.rest
    rfl
  refine ⟨attaches.facts.backed ?_, fun a => ?_, network⟩
  · rw [show s.facts.get? h = some f from found]
    exact ⟨fun _ => .inl (Nat.succ_pos _), .inr ⟨f, rfl, .refl _⟩⟩
  · have installs := (attach_counts found (Fact.isUnattached_iff.mp unattached).1 done).2 a
    have claims := attaches.facts.count_claims found a
    have claimed := f.count_claims_attached (reuse.getD s.nextIndex) (s.hashOf f) a
    omega

theorem collectFrom {hs : List Handle} {n : Nat} (tidy : s.facts.Tidy)
    (done : collectFrom hs s = .ok (n, s')) : Sustains s s' := by
  induction hs generalizing s n with
  | nil =>
    obtain ⟨-, rfl⟩ := Prod.mk.inj (Except.ok.inj done)
    exact .refl s
  | cons h rest ih =>
    unfold Store.collectFrom at done
    split at done
    · cases done
    · split at done
      · obtain ⟨u, freed, done⟩ := bind_eq_ok.mp done
        obtain ⟨⟨m, v⟩, others, done⟩ := bind_eq_ok.mp done
        obtain ⟨-, rfl⟩ := Prod.mk.inj (Except.ok.inj done)
        obtain ⟨first, tidy⟩ := free tidy freed
        exact first.trans (ih tidy others)
      · have kept : Sustains s { s with garbage := s.garbage ++ [h] } :=
          of_facts_eq rfl rfl fun _ => Nat.le_refl _
        exact kept.trans (ih tidy done)

theorem collectGarbage {n : Nat} (tidy : s.facts.Tidy) (done : s.collectGarbage = .ok (n, s')) :
    Sustains s s' := by
  unfold Store.collectGarbage at done
  split at done
  · obtain ⟨-, rfl⟩ := Prod.mk.inj (Except.ok.inj done)
    exact .refl s
  · obtain ⟨⟨m, u⟩, collected, done⟩ := bind_eq_ok.mp done
    obtain ⟨-, rfl⟩ := Prod.mk.inj (Except.ok.inj done)
    have emptied : Sustains s { s with garbage := [] } := of_facts_eq rfl rfl fun _ => Nat.le_refl _
    refine (emptied.trans (collectFrom (s := { s with garbage := [] }) tidy collected)).trans ?_
    exact of_facts_eq rfl rfl fun a => AtomTable.installs_sweep u.atoms _ a

theorem maybeCollect (tidy : s.facts.Tidy) (done : s.maybeCollect = .ok s') : Sustains s s' := by
  unfold Store.maybeCollect at done
  split at done
  · obtain ⟨⟨n, u⟩, collected, rfl⟩ := map_eq_ok.mp done
    exact collectGarbage tidy collected
  · obtain rfl := Except.ok.inj done
    exact .refl s

end Sustains

/-! ### Matches -/

variable [JoinNetwork N] [Custodian N]

/-- Asserted facts are pinned, claimed atoms are installed, and the join network answers for the
matches of every fact. -/
structure Covered (s : Store N) : Prop where
  pinned : ∀ h f, s.get? h = some f → f.isAsserted = true → 0 < f.busy
  installed : ∀ a, s.facts.claims.count a ≤ s.atoms.installs a
  matched : ∀ h f, s.get? h = some f →
    f.matched.Nodup ∧ ∀ id ∈ f.matched, Custodian.Answers s.network h id
  valid : Custodian.Valid s.network

/-- The network takes back matches it answers for, and goes on answering for all others. -/
theorem retractMatches_total (valid : Custodian.Valid s.network) {ids : List MatchId}
    (once : ids.Nodup) (answered : ∀ id ∈ ids, Custodian.Answers s.network h id)
    (report : EvalError → Notice) : ∃ failed notices s',
      s.retractMatches h ids report = .ok (failed, notices, s') ∧ Custodian.Valid s'.network ∧
      ∀ k id, Custodian.Answers s.network k id → ¬ (k = h ∧ id ∈ ids) →
        Custodian.Answers s'.network k id := by
  unfold retractMatches
  split
  · exact ⟨_, _, s, rfl, valid, fun _ _ answers _ => answers⟩
  · obtain ⟨refusal, n, done, valid', kept⟩ := Custodian.retract valid once answered
    rw [done]
    cases refusal <;> exact ⟨_, _, _, rfl, valid', kept⟩

namespace Covered

/-- The atoms that a stored fact claims are installed. -/
theorem claimed (covered : s.Covered) (found : s.get? h = some f) (a : Atom) :
    f.claims.count a ≤ s.atoms.installs a :=
  Nat.le_trans (Arena.count_claims_le found a) (covered.installed a)

theorem sustain (covered : s.Covered) (sustains : Sustains s s') : s'.Covered where
  pinned h g found asserted := by
    rcases (sustains.facts h g found).pinned asserted with pinned | ⟨f, before, asserted', less⟩
    · exact pinned
    · exact Nat.lt_of_lt_of_le (covered.pinned h f before asserted') less
  installed a := by
    have before := covered.installed a
    have step := sustains.atoms a
    omega
  matched h g found := by
    rcases (sustains.facts h g found).matched with none | ⟨f, before, sub⟩
    · rw [none]
      exact ⟨List.nodup_nil, fun _ inside => absurd inside List.not_mem_nil⟩
    · obtain ⟨once, answered⟩ := covered.matched h f before
      rw [sustains.network]
      exact ⟨once.sublist sub, fun id hid => answered id (sub.subset hid)⟩
  valid := sustains.network ▸ covered.valid

/-- Installations beyond those claimed can be taken back. -/
theorem deinstall (covered : s.Covered) (spare : ∀ f, s.get? h = some f →
      (f.isAsserted = true → 1 < f.busy) ∧
      ∀ a, s.facts.claims.count a + (Value.allAtoms f.values).count a ≤ s.atoms.installs a)
    {r : Except StoreError Unit} (done : s.deinstall h = .ok (r, s')) : s'.Covered := by
  obtain ⟨-, -, rfl⟩ | ⟨f, atoms, found, -, given, -, rfl⟩ := deinstall_eq_ok done
  · exact covered
  · obtain ⟨pin, installs⟩ := spare f found
    have released : Sustains s (s.setBusy h (f.busy - 1)) := .setBusy fun g same asserted => by
      obtain rfl := Option.some.inj (found.symm.trans same)
      exact Nat.sub_pos_of_lt (pin asserted)
    refine { covered.sustain released with installed := fun a => ?_ }
    rw [AtomTable.foldlM_deinstall] at given
    have taken := AtomTable.installs_deinstallAtoms given a
    have enough := installs a
    have claims : (s.setBusy h (f.busy - 1)).facts.claims.count a = s.facts.claims.count a :=
      Arena.claims_update found rfl a
    dsimp only
    omega

/-- Facts that no longer name the matches given back do without them. -/
theorem retractMatches (covered : s.Covered) {ids : List MatchId} (once : ids.Nodup)
    (answered : ∀ id ∈ ids, Custodian.Answers s.network h id)
    (dropped : ∀ f, s.get? h = some f → ∀ id ∈ ids, id ∉ f.matched) {report : EvalError → Notice}
    {failed : Bool} {notices : List Notice}
    (done : s.retractMatches h ids report = .ok (failed, notices, s')) : s'.Covered := by
  obtain ⟨_, _, u, taken, valid, kept⟩ := retractMatches_total covered.valid once answered report
  rw [taken] at done
  simp only [Except.ok.injEq, Prod.mk.injEq] at done
  obtain ⟨-, -, rfl⟩ := done
  obtain ⟨network, counters, evaluationError, rfl⟩ := retractMatches_eq_ok taken
  refine { covered with valid, matched := fun k f found => ?_ }
  obtain ⟨once, answered⟩ := covered.matched k f found
  refine ⟨once, fun id inside => kept k id (answered id inside) ?_⟩
  rintro ⟨rfl, given⟩
  exact dropped f found id given inside

/-- Whatever is delivered is answered for. -/
theorem matchFact (covered : s.Covered) {mode : MatchMode} {o : MatchOutcome}
    (done : s.matchFact h mode = .ok (o, s')) :
    s'.Covered ∧ ∃ g, s'.get? h = some g ∧ o.ids.Sublist g.matched := by
  obtain ⟨f, found, ids, -, network, -, -, here, others⟩ := matchFact_eq_ok done
  obtain ⟨facts, n, probe, counters, evaluationError, rfl⟩ := matchFact_rest done
  have taken := taken_deliverAll covered.valid h f (s.walked f mode).1
  rw [← ids, ← network] at taken
  have stored {k : Handle} {g : Fact} (same : Store.get? { s with
      facts, network := n, probe, counters, evaluationError } k = some g) :
      k ≠ h ∧ s.get? k = some g ∨ k = h ∧ g = { f with matched := f.matched ++ o.ids } := by
    by_cases there : k = h
    · rw [there, here] at same
      exact .inr ⟨there, (Option.some.inj same).symm⟩
    · exact .inl ⟨there, (others k there).symm.trans same⟩
  have claims : facts.claims = s.facts.claims := by
    refine Arena.claims_congr fun k => ?_
    by_cases there : k = h
    · rw [there, show facts.get? h = _ from here, show s.facts.get? h = some f from found]
      rfl
    · rw [show facts.get? k = s.facts.get? k from others k there]
  refine ⟨⟨fun k g same asserted => ?_, fun a => claims ▸ covered.installed a, fun k g same => ?_,
    taken.valid⟩, _, here, List.sublist_append_right _ _⟩
  · rcases stored same with ⟨-, before⟩ | ⟨-, rfl⟩
    · exact covered.pinned k g before asserted
    · exact covered.pinned h f found asserted
  · rcases stored same with ⟨-, before⟩ | ⟨rfl, rfl⟩
    · obtain ⟨once, answered⟩ := covered.matched k g before
      exact ⟨once, fun id inside => taken.kept k id (answered id inside)⟩
    · obtain ⟨once, answered⟩ := covered.matched k f found
      refine ⟨List.nodup_append'.mpr ⟨once, taken.once, fun id old new => ?_⟩, fun id inside => ?_⟩
      · exact taken.new id new k (answered id old)
      · rcases List.mem_append.mp inside with old | new
        · exact taken.kept k id (answered id old)
        · exact taken.answered id new

/-- A fact that is detached gives back its matches. -/
theorem detach (covered : s.Covered) (sound : s.Sound) {d : Detached}
    (done : s.detach h = .ok (d, s')) : s'.Covered := by
  obtain ⟨f, found, asserted, -, detaches, -⟩ := detach_spec sound done
  obtain ⟨f', index, u, found', -, unlinked, -, retracted⟩ := detach_eq_ok done
  obtain rfl := Option.some.inj (found.symm.trans found')
  obtain ⟨global, facts, templateLists, rfl⟩ := unlink_eq_ok unlinked
  have replaced : Replaced h f.buried s.facts (facts.update h Fact.buried) := by
    obtain ⟨_, _, _, rfl⟩ := retractMatches_eq_ok retracted
    exact detaches.facts
  have buried : Sustains s (bury { s with index, global, facts, templateLists } h) := by
    refine ⟨replaced.backed ?_, fun a => ?_, rfl⟩
    · refine ⟨fun holds => ?_, .inl rfl⟩
      simp [Fact.isAsserted, Fact.buried] at holds
    · have claims := replaced.count_claims found a
      have same : f.buried.claims = f.claims := rfl
      rw [same] at claims
      exact Nat.le_of_eq (congrArg (s.atoms.installs a + ·) (Nat.add_right_cancel claims))
  obtain ⟨once, answered⟩ := covered.matched h f found
  refine (covered.sustain buried).retractMatches once answered (fun g same id _ => ?_) retracted
  obtain ⟨g', same', bare⟩ := replaced.here
  obtain rfl := Option.some.inj (same.symm.trans same')
  rw [Fact.view_eq Fact.matched bare fun _ => rfl]
  exact List.not_mem_nil

/-- What a replay has just delivered it can withdraw. -/
theorem withdraw (covered : s.Covered) (found : s.get? h = some f) {ids : List MatchId}
    (inside : ids.Sublist f.matched) {notices : List Notice}
    (done : s.withdraw h ids = .ok (notices, s')) : s'.Covered := by
  obtain ⟨⟨failed, notices', u⟩, retracted, done⟩ := bind_eq_ok.mp done
  obtain ⟨-, rfl⟩ := Prod.mk.inj (Except.ok.inj done)
  have forgotten : Sustains s { s with facts := s.facts.update h fun f =>
      { f with matched := f.matched.filter (!ids.contains ·) } } := by
    refine .of_update rfl (fun g _ => ⟨⟨fun asserted => ?_, ?_⟩, rfl⟩) rfl fun _ => Nat.le_refl _
    · exact .inr ⟨g, rfl, asserted, Nat.le_refl _⟩
    · exact .inr ⟨g, rfl, List.filter_sublist⟩
  obtain ⟨once, answered⟩ := covered.matched h f found
  refine (covered.sustain forgotten).retractMatches (once.sublist inside)
    (fun id given => answered id (inside.subset given)) (fun g same id given kept => ?_) retracted
  rw [Store.get?, Arena.get?_update, if_pos rfl, show s.facts.get? h = some f from found] at same
  obtain rfl := Option.some.inj same
  simpa [given] using (List.mem_filter.mp kept).2

/-! ### Replays -/

theorem replayFacts {t : TemplateId} {hs : List Handle} {o : ReplayOutcome} (covered : s.Covered)
    (done : replayFacts t hs s = .ok (o, s')) : s'.Covered := by
  induction hs generalizing s o with
  | nil =>
    obtain ⟨-, rfl⟩ := Prod.mk.inj (Except.ok.inj done)
    exact covered
  | cons h rest ih =>
    unfold Store.replayFacts at done
    split at done
    · exact ih covered done
    · obtain ⟨⟨o, u⟩, matched, done⟩ := bind_eq_ok.mp done
      obtain ⟨covered', g, found, inside⟩ := covered.matchFact matched
      dsimp only at done
      split at done
      · obtain ⟨⟨notices, v⟩, withdrawn, done⟩ := bind_eq_ok.mp done
        obtain ⟨-, rfl⟩ := Prod.mk.inj (Except.ok.inj done)
        exact covered'.withdraw found inside withdrawn
      · obtain ⟨⟨r, v⟩, others, done⟩ := bind_eq_ok.mp done
        obtain ⟨-, rfl⟩ := Prod.mk.inj (Except.ok.inj done)
        have recorded : Covered { u with patterns := u.patterns.updateTree t (·.recordReplayed h) } :=
          { covered' with }
        exact ih recorded others

theorem replay {t : TemplateId} {o : ReplayOutcome} (covered : s.Covered)
    (done : s.replay t = .ok (o, s')) : s'.Covered := by
  obtain ⟨⟨r, u⟩, replayed, done⟩ := bind_eq_ok.mp done
  obtain ⟨-, rfl⟩ := Prod.mk.inj (Except.ok.inj done)
  have guarded : Covered { s with guarded := true } := { covered with }
  have all := guarded.replayFacts replayed
  split <;> exact { all with }

theorem addPattern {p : Pattern} {label : String} {r : Except PatternError EntryId}
    {notices : List Notice} (covered : s.Covered)
    (done : s.addPattern p label = .ok (r, notices, s')) : s'.Covered := by
  unfold Store.addPattern at done
  split at done
  · simp only [Except.ok.injEq, Prod.mk.injEq] at done
    exact done.2.2 ▸ covered
  · split at done
    · simp only [Except.ok.injEq, Prod.mk.injEq] at done
      exact done.2.2 ▸ covered
    · rename_i id patterns _
      have added : Covered { s with patterns } := { covered with }
      dsimp only at done
      split at done
      · obtain ⟨⟨o, u⟩, replayed, done⟩ := bind_eq_ok.mp done
        simp only [Except.ok.injEq, Prod.mk.injEq] at done
        obtain ⟨-, -, rfl⟩ := done
        exact added.replay replayed
      · simp only [Except.ok.injEq, Prod.mk.injEq] at done
        exact done.2.2 ▸ added

theorem replayAll {ts : List TemplateId} {n : Nat} {notices : List Notice} (covered : s.Covered)
    (done : replayAll ts s = .ok (n, notices, s')) : s'.Covered := by
  induction ts generalizing s n notices with
  | nil =>
    simp only [Store.replayAll, Except.ok.injEq, Prod.mk.injEq] at done
    exact done.2.2 ▸ covered
  | cons t rest ih =>
    obtain ⟨⟨o, u⟩, replayed, done⟩ := bind_eq_ok.mp done
    obtain ⟨⟨m, ns, v⟩, others, done⟩ := bind_eq_ok.mp done
    simp only [Except.ok.injEq, Prod.mk.injEq] at done
    obtain ⟨-, -, rfl⟩ := done
    exact ih (covered.replay replayed) others

end Covered

/-! ### Fair steps -/

/-- If a step gives back a pin or an installation, then one beyond those the fact base counts on. -/
structure Fair (s s' : Store N) : Prop where
  pin : ∀ h r, s.release h = .ok (r, s') ∨ s.deinstall h = .ok (r, s') →
    ∀ f, s.get? h = some f → f.isAsserted = true → 1 < f.busy
  atoms : ∀ h r, s.deinstall h = .ok (r, s') → ∀ f, s.get? h = some f →
    ∀ a, s.facts.claims.count a + (Value.allAtoms f.values).count a ≤ s.atoms.installs a

/-- Fair steps leave the fact base what it counts on. -/
theorem Step.covered (step : Step s s') (sound : s.Sound) (fair : Fair s s')
    (covered : s.Covered) : s'.Covered := by
  cases step with
  | createWith done => exact covered.sustain (.createWith sound.tidy done)
  | createFact done =>
    obtain ⟨-, rfl⟩ | ⟨e, h, created, -⟩ := createFact_eq_ok done
    · exact covered
    · obtain ⟨draws, drawn⟩ := defaultFields_eq e.id e.template.slots.zipIdx s
      rw [drawn] at created
      have asked : Covered { s with draws } := { covered with }
      exact asked.sustain (.createWith sound.tidy created)
  | createOrdered done =>
    obtain ⟨e, -, -, rfl⟩ | ⟨id, templates, template, h, -, created, -⟩ := createOrdered_eq_ok done
    · exact covered
    · have implied : Covered { s with templates } := { covered with }
      exact implied.sustain (.createWith sound.tidy created)
  | putSlot done => exact covered.sustain (.putSlot done)
  | putSlotAt done => exact covered.sustain (.putSlotAt done)
  | discard done => exact covered.sustain (.discard sound.tidy done)
  | free _ _ done => exact covered.sustain (Sustains.free sound.tidy done).1
  | retain done => exact covered.sustain (.retain done)
  | release done => exact covered.sustain (.release (fair.pin _ _ (.inl done)) done)
  | install done => exact covered.sustain (.install done)
  | deinstall done =>
    exact covered.deinstall (fun f found =>
      ⟨fair.pin _ _ (.inr done) f found, fair.atoms _ _ done f found⟩) done
  | attach found unattached positive listed listedInTemplate done =>
    exact covered.sustain (.attach sound found unattached positive listed listedInTemplate done)
  | matchFact done => exact (covered.matchFact done).1
  | detach done => exact covered.detach sound done
  | collectGarbage done => exact covered.sustain (.collectGarbage sound.tidy done)
  | maybeCollect done => exact covered.sustain (.maybeCollect sound.tidy done)
  | addPattern done => exact covered.addPattern done
  | removePattern done =>
    unfold Store.removePattern at done
    split at done
    · cases done
    · obtain rfl := Except.ok.inj done
      exact { covered with }
  | replayNewPatterns done => exact covered.replayAll done
  | defineTemplate done =>
    obtain ⟨_, -, rfl⟩ := defineTemplate_eq_ok done
    exact { covered with }
  | undefineTemplate done =>
    unfold Store.undefineTemplate at done
    split at done
    · cases done
    · obtain rfl := Except.ok.inj done
      refine covered.sustain (.of_facts_eq rfl rfl fun a => ?_)
      dsimp only
      split
      · exact Nat.le_of_eq (AtomTable.installs_settle _ _ _).symm
      · exact Nat.le_refl _
  | drawDefault _ t position =>
    obtain ⟨draws, drawn⟩ := drawDefault_eq s t position
    rw [drawn]
    exact { covered with }
  | makeBuilder done =>
    unfold Builder.make at done
    split at done
    · cases done
    · split at done
      · cases done
      · obtain ⟨-, rfl⟩ := Prod.mk.inj (Except.ok.inj done)
        exact { covered with }
  | builderFields b slots =>
    obtain ⟨draws, drawn⟩ := builderFields_eq b slots s
    rw [drawn]
    exact { covered with }
  | intern _ a =>
    exact covered.sustain (.of_facts_eq rfl rfl fun b =>
      Nat.le_of_eq (AtomTable.installs_intern s.atoms a b).symm)
  | settle _ depth =>
    exact covered.sustain (.of_facts_eq rfl rfl fun b =>
      Nat.le_of_eq (AtomTable.installs_settle s.atoms (.changes depth) b).symm)
  | renumber | impliedTemplate | defineModule | setCurrentModule | dropBuilder | listeners
  | guarded | counters | lend | probe | allowDuplicates | clearEvaluationError =>
    exact { covered with }

/-- The fact bases that fair steps lead to, whatever their settings and their content hash. -/
inductive FairlyReachable : Store N → Prop
  | fresh (config : Config) {network : N} (valid : Custodian.Valid network)
      (contentHash : TemplateId → List Value → UInt64) :
      FairlyReachable (fresh config network contentHash)
  | step {s s' : Store N} (before : FairlyReachable s) (step : Step s s') (fair : Fair s s') :
      FairlyReachable s'

theorem FairlyReachable.reachable (fairly : s.FairlyReachable) : s.Reachable := by
  induction fairly with
  | fresh config valid contentHash => exact .fresh config _ contentHash
  | step _ step _ ih => exact ih.step step

theorem FairlyReachable.covered (fairly : s.FairlyReachable) : s.Covered := by
  induction fairly with
  | fresh config valid contentHash =>
    have none := get?_fresh config (N := N)
    exact ⟨fun h f found => by simp [none] at found, fun a => Nat.zero_le _,
      fun h f found => by simp [none] at found, valid⟩
  | step before step fair ih => exact step.covered before.reachable.sound fair ih

end Store

end FactBase

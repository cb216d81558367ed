import FactBase.Proofs.Memory.Dealings
import FactBase.Proofs.Memory.Walks
import FactBase.Proofs.Store.Move

/-!
# What a fact base holds of its matches

Asserted facts hold the names of their matches, and no other facts hold any. What was given to the
fact base and not handed back is held by exactly one fact, the one it was given for. Every step keeps
it so, also where the join network refuses to give up matches and where a replay is halted.
-/

namespace FactBase.Store

variable {N : Type} {s s' : Store N} {h : Handle} {f : Fact}

/-- The names of a fact's matches. -/
def matchedOf (s : Store N) (h : Handle) : List MatchId := (s.get? h).elim [] Fact.matched

/-- The matches of all asserted facts, each with its fact. -/
def held (s : Store N) : List (MatchId × Handle) :=
  s.order.flatMap fun h => (s.matchedOf h).map (·, h)

/-- Only asserted facts have matches. -/
def Bare (s : Store N) : Prop := ∀ h, s.isAsserted h = false → s.matchedOf h = []

/-! ### One fact and the others -/

/-- What is held by one fact, and what by the others. -/
theorem held_perm (consistent : s.Consistent) (bare : s.Bare) (h : Handle) :
    s.held.Perm ((s.matchedOf h).map (·, h) ++
      (s.order.erase h).flatMap fun k => (s.matchedOf k).map (·, k)) := by
  by_cases inside : h ∈ s.order
  · exact (List.perm_cons_erase inside).flatMap_right _
  · have unasserted : s.isAsserted h = false :=
      Bool.eq_false_iff.mpr fun asserted =>
        inside (consistent.mem_order.mpr (isAsserted_iff_exists.mp asserted))
    rw [bare h unasserted, List.erase_of_not_mem inside]
    exact .refl _

/-- If all facts but one hold what they held, the difference is in that fact. -/
theorem held_change (consistent : s.Consistent) (consistent' : s'.Consistent) (bare : s.Bare)
    (bare' : s'.Bare) (others : ∀ k, k ≠ h →
      s'.isAsserted k = s.isAsserted k ∧ s'.matchedOf k = s.matchedOf k) :
    ∃ rest, s.held.Perm ((s.matchedOf h).map (·, h) ++ rest) ∧
      s'.held.Perm ((s'.matchedOf h).map (·, h) ++ rest) := by
  refine ⟨_, held_perm consistent bare h,
    (held_perm consistent' bare' h).trans (List.Perm.append_left _ ?_)⟩
  have once := consistent.threaded_order.once
  have once' := consistent'.threaded_order.once
  have same : (s'.order.erase h).Perm (s.order.erase h) := by
    refine (List.perm_ext_iff_of_nodup (once'.erase h) (once.erase h)).mpr fun k => ?_
    rw [once'.mem_erase_iff, once.mem_erase_iff, consistent.mem_order, consistent'.mem_order,
      ← isAsserted_iff_exists, ← isAsserted_iff_exists]
    exact and_congr_right fun other => by rw [(others k other).1]
  have matched : (s'.order.erase h).flatMap (fun k => (s'.matchedOf k).map (·, k)) =
      (s'.order.erase h).flatMap fun k => (s.matchedOf k).map (·, k) :=
    List.flatMap_congr fun k inside => by rw [(others k (once'.mem_erase_iff.mp inside).1).2]
  rw [matched]
  exact same.flatMap_right _

/-- If all facts hold what they held, so does the fact base. -/
theorem held_same (consistent : s.Consistent) (consistent' : s'.Consistent) (bare : s.Bare)
    (bare' : s'.Bare) (asserted : ∀ k, s'.isAsserted k = s.isAsserted k)
    (matched : ∀ k, s'.matchedOf k = s.matchedOf k) : s'.held.Perm s.held := by
  obtain ⟨rest, before, after⟩ := held_change (h := ⟨0, 0⟩) consistent consistent' bare bare'
    fun k _ => ⟨asserted k, matched k⟩
  rw [matched] at after
  exact after.trans before.symm

/-- What matching does not notice leaves all matches where they are. -/
theorem Aloof.matchedOf (aloof : Aloof s s') (bare : s.Bare) (k : Handle) :
    s'.matchedOf k = s.matchedOf k := by
  have held {a : Option Fact} : a.elim [] Fact.matched =
      (a.map Fact.profile).elim [] fun p => p.2.2.2.2 := by cases a <;> rfl
  have none {a : Option Fact} (idle : ∀ f, a = some f → f.matched = []) :
      a.elim [] Fact.matched = [] := by
    cases a with
    | none => rfl
    | some f => exact idle f rfl
  unfold Store.matchedOf
  rcases aloof.facts k with same | ⟨before, after⟩
  · rw [held, held, same]
  · have idle : ∀ f, s.get? k = some f → f.matched = [] := fun f found => by
      have unasserted : s.isAsserted k = false := by
        rw [Store.isAsserted, found]
        exact Bool.eq_false_iff.mpr (before f found)
      have empty := bare k unasserted
      rwa [Store.matchedOf, found] at empty
    rw [none idle, none fun g found => (after g found).2 idle]

/-- One fact is replaced, and all others hold what they held. -/
theorem matchedOf_replaced {g : Fact} (replaced : Replaced h g s.facts s'.facts) (k : Handle) :
    s'.matchedOf k = (if k = h then g.matched else s.matchedOf k) ∧
      s'.isAsserted k = (if k = h then g.isAsserted else s.isAsserted k) := by
  have matched (a : Option Fact) : a.elim [] Fact.matched =
      (a.map Fact.bare).elim [] Fact.matched := by cases a <;> rfl
  have asserted (a : Option Fact) : a.any (·.isAsserted) =
      (a.map Fact.bare).any (·.isAsserted) := by cases a <;> rfl
  unfold matchedOf isAsserted Store.get?
  rw [matched, asserted, replaced.bare k]
  split
  · exact ⟨rfl, rfl⟩
  · exact ⟨(matched _).symm, (asserted _).symm⟩

/-! ### Counts -/

/-- No match is counted as found or withdrawn. -/
structure SameCounts (s s' : Store N) : Prop where
  alphaMatches : s'.counters.alphaMatches = s.counters.alphaMatches
  matchRetractions : s'.counters.matchRetractions = s.counters.matchRetractions

namespace SameCounts

theorem of_eq (same : s'.counters = s.counters) : SameCounts s s' :=
  ⟨congrArg _ same, congrArg _ same⟩

theorem trans {s'' : Store N} (first : SameCounts s s') (second : SameCounts s' s'') :
    SameCounts s s'' :=
  ⟨second.alphaMatches.trans first.alphaMatches,
    second.matchRetractions.trans first.matchRetractions⟩

end SameCounts

theorem counters_createWith {t : TemplateId} {template : Template} {fields : List Field}
    (done : s.createWith t template fields = .ok (h, s')) : s'.counters = s.counters := by
  obtain ⟨_, _, -, -, rfl⟩ := createWith_eq_ok done
  rfl

theorem counters_putSlotAt {position : Nat} {v : Value} (done : s.putSlotAt h position v = .ok s') :
    s'.counters = s.counters := by
  obtain ⟨f, -, done⟩ := bind_eq_ok.mp done
  split at done
  · cases done
  · split at done
    · cases done
    · obtain rfl := Except.ok.inj done
      rfl

theorem counters_free (done : s.free h = .ok s') : s'.counters = s.counters := by
  obtain ⟨_, _, _, _, -, -, -, rfl⟩ := free_eq_ok done
  rfl

theorem counters_installFields (s : Store N) (h : Handle) :
    (s.installFields h).counters = s.counters := by
  unfold installFields
  split <;> rfl

theorem counters_collectFrom {hs : List Handle} {n : Nat} (done : collectFrom hs s = .ok (n, s')) :
    s'.counters = s.counters := by
  induction hs generalizing s n with
  | nil =>
    obtain ⟨-, rfl⟩ := Prod.mk.inj (Except.ok.inj done)
    rfl
  | cons h rest ih =>
    unfold collectFrom at done
    split at done
    · cases done
    · split at done
      · obtain ⟨u, freed, done⟩ := bind_eq_ok.mp done
        obtain ⟨⟨m, v⟩, others, done⟩ := bind_eq_ok.mp done
        obtain ⟨-, rfl⟩ := Prod.mk.inj (Except.ok.inj done)
        exact (ih others).trans (counters_free freed)
      · exact (ih done).trans rfl

theorem sameCounts_collectGarbage {n : Nat} (done : s.collectGarbage = .ok (n, s')) :
    SameCounts s s' := by
  unfold collectGarbage at done
  split at done
  · obtain ⟨-, rfl⟩ := Prod.mk.inj (Except.ok.inj done)
    exact .of_eq rfl
  · obtain ⟨⟨m, u⟩, collected, done⟩ := bind_eq_ok.mp done
    obtain ⟨-, rfl⟩ := Prod.mk.inj (Except.ok.inj done)
    have freed : SameCounts s u := .of_eq ((counters_collectFrom collected).trans rfl)
    exact freed.trans ⟨rfl, rfl⟩

/-- Chores find and withdraw no matches. -/
theorem Chore.sameCounts (chore : Chore s s') : SameCounts s s' := by
  cases chore with
  | createWith done => exact .of_eq (counters_createWith done)
  | createFact done =>
    obtain ⟨-, rfl⟩ | ⟨e, h, created, -⟩ := createFact_eq_ok done
    · exact .of_eq rfl
    · obtain ⟨draws, drawn⟩ := defaultFields_eq e.id e.template.slots.zipIdx s
      rw [drawn] at created
      exact .of_eq ((counters_createWith created).trans rfl)
  | createOrdered done =>
    obtain ⟨e, -, -, rfl⟩ | ⟨id, templates, template, h, -, created, -⟩ := createOrdered_eq_ok done
    · exact .of_eq rfl
    · exact .of_eq ((counters_createWith created).trans rfl)
  | putSlot done =>
    obtain ⟨f, -, done⟩ := bind_eq_ok.mp done
    split at done
    · cases done
    · exact .of_eq (counters_putSlotAt done)
  | putSlotAt done => exact .of_eq (counters_putSlotAt done)
  | discard done =>
    obtain ⟨e, -, rfl⟩ | ⟨f, -, -, freed, -⟩ := discard_eq_ok done
    · exact .of_eq rfl
    · exact .of_eq (counters_free freed)
  | free _ _ done => exact .of_eq (counters_free done)
  | retain done =>
    obtain ⟨f, -, rfl⟩ := retain_eq_ok done
    exact .of_eq rfl
  | install done =>
    obtain ⟨u, retained, done⟩ := bind_eq_ok.mp done
    obtain rfl := Except.ok.inj done
    obtain ⟨f, -, rfl⟩ := retain_eq_ok retained
    exact .of_eq (counters_installFields _ _)
  | collectGarbage done => exact sameCounts_collectGarbage done
  | maybeCollect done =>
    unfold Store.maybeCollect at done
    split at done
    · obtain ⟨⟨n, u⟩, collected, rfl⟩ := map_eq_ok.mp done
      exact sameCounts_collectGarbage collected
    · obtain rfl := Except.ok.inj done
      exact .of_eq rfl
  | defineTemplate done =>
    obtain ⟨_, -, rfl⟩ := defineTemplate_eq_ok done
    exact .of_eq rfl
  | undefineTemplate done =>
    unfold Store.undefineTemplate at done
    split at done
    · cases done
    · obtain rfl := Except.ok.inj done
      exact .of_eq rfl
  | drawDefault _ t position =>
    obtain ⟨draws, drawn⟩ := drawDefault_eq s t position
    rw [drawn]
    exact .of_eq rfl
  | makeBuilder done =>
    unfold Builder.make at done
    split at done
    · cases done
    · split at done
      · cases done
      · obtain ⟨-, rfl⟩ := Prod.mk.inj (Except.ok.inj done)
        exact .of_eq rfl
  | builderFields b slots =>
    obtain ⟨draws, drawn⟩ := builderFields_eq b slots s
    rw [drawn]
    exact .of_eq rfl
  | impliedTemplate | defineModule | setCurrentModule | dropBuilder | intern | listeners | guarded
  | countAsserted | countDuplicate | countModified | countRefusal | lend | settle
  | clearEvaluationError => exact ⟨rfl, rfl⟩

variable [JoinNetwork N] {start : N} {b : Books}

/-- Matching counts what it delivers. -/
theorem counts_matchFact {mode : MatchMode} {o : MatchOutcome}
    (done : s.matchFact h mode = .ok (o, s')) :
    s'.counters.alphaMatches = s.counters.alphaMatches + o.ids.length ∧
      s'.counters.matchRetractions = s.counters.matchRetractions := by
  unfold matchFact at done
  split at done
  · cases done
  · split at done
    · obtain ⟨rfl, rfl⟩ := Prod.mk.inj (Except.ok.inj done)
      exact ⟨rfl, rfl⟩
    · obtain ⟨rfl, rfl⟩ := Prod.mk.inj (Except.ok.inj done)
      exact of_recordFailure
        (P := fun u => u.counters.alphaMatches = s.counters.alphaMatches + List.length _ ∧
          u.counters.matchRetractions = s.counters.matchRetractions) _ ⟨rfl, rfl⟩ ⟨rfl, rfl⟩

/-- A fact that is not given a name twice gives up the names withdrawn and keeps those it had before. -/
theorem matchedOf_withdraw {old ids : List MatchId} (once : (s.matchedOf h).Nodup)
    (matched : s.matchedOf h = old ++ ids) {notices : List Notice}
    (done : s.withdraw h ids = .ok (notices, s')) :
    s'.matchedOf h = old ∧ ∀ k, k ≠ h → s'.matchedOf k = s.matchedOf k := by
  obtain ⟨⟨failed, ns, u⟩, retracted, done⟩ := bind_eq_ok.mp done
  obtain ⟨-, rfl⟩ := Prod.mk.inj (Except.ok.inj done)
  rw [matched] at once
  have kept : old.filter (!ids.contains ·) = old :=
    List.filter_eq_self.mpr fun id inside => by
      simpa using (List.nodup_append'.mp once).2.2 inside
  have dropped : ids.filter (!ids.contains ·) = [] :=
    List.filter_eq_nil_iff.mpr fun id inside => by simpa using inside
  have rest : (old ++ ids).filter (!ids.contains ·) = old := by
    rw [List.filter_append, kept, dropped, List.append_nil]
  have facts : u.facts = s.facts.update h fun f =>
      { f with matched := f.matched.filter (!ids.contains ·) } := by
    obtain ⟨_, _, _, rfl⟩ := retractMatches_eq_ok retracted
    rfl
  refine ⟨?_, fun k other => ?_⟩
  · rw [matchedOf, Store.get?] at matched ⊢
    rw [facts, Arena.get?_update, if_pos rfl]
    cases stored : s.facts.get? h with
    | none =>
      rw [stored] at matched
      exact (List.append_eq_nil_iff.mp matched.symm).1.symm
    | some f =>
      rw [stored] at matched
      exact (congrArg _ matched).trans rest
  · rw [matchedOf, matchedOf, Store.get?, facts, Arena.get?_update, if_neg other]
    rfl

/-! ### Custody -/

/-- What was given is handed back or held by an asserted fact, and counted as such. -/
structure InCustody (start : N) (b : Books) (s : Store N) : Prop where
  deals : Deals start b s.network
  bare : s.Bare
  given : b.given.Perm (b.handedBack ++ s.held)
  found : s.counters.alphaMatches = b.given.length
  withdrawn : s.counters.matchRetractions = b.handedBack.length

namespace InCustody

theorem fresh (config : Config) (start : N) (contentHash : TemplateId → List Value → UInt64) :
    (Store.fresh config start contentHash).InCustody start {} := by
  have none := get?_fresh config start contentHash
  have empty : (Store.fresh config start contentHash).order = [] := by
    refine List.eq_nil_iff_forall_not_mem.mpr fun h inside => ?_
    obtain ⟨f, found, -⟩ := (sound_fresh config start contentHash).mem_order.mp inside
    simp [none] at found
  refine ⟨.start, fun h _ => by rw [matchedOf, none]; rfl, ?_, rfl, rfl⟩
  rw [held, empty]
  exact .refl _

/-- Names held are all different. -/
theorem held_nodup (custody : s.InCustody start b) (new : NeverReuses start) :
    (s.held.map Prod.fst).Nodup := by
  have once := ((custody.given.map Prod.fst).nodup_iff).mp (custody.deals.once new)
  rw [List.map_append] at once
  exact (List.nodup_append'.mp once).2.1

theorem matchedOf_nodup (custody : s.InCustody start b) (new : NeverReuses start)
    (consistent : s.Consistent) (h : Handle) : (s.matchedOf h).Nodup := by
  have once := (((held_perm consistent custody.bare h).map Prod.fst).nodup_iff).mp
    (custody.held_nodup new)
  rw [List.map_append, List.map_map, show Prod.fst ∘ (fun id => (id, h)) = id from rfl,
    List.map_id] at once
  exact (List.nodup_append'.mp once).1

/-- Steps that matching does not notice. -/
theorem aloof (custody : s.InCustody start b) (sound : s.Sound) (sound' : s'.Sound)
    (aloof : Aloof s s') (counts : SameCounts s s') : s'.InCustody start b := by
  have matched := aloof.matchedOf custody.bare
  have bare : s'.Bare := fun h unasserted => by
    rw [aloof.isAsserted] at unasserted
    rw [matched, custody.bare h unasserted]
  have held := held_same sound.toConsistent sound'.toConsistent custody.bare bare aloof.isAsserted
    matched
  exact ⟨aloof.network ▸ custody.deals, bare, custody.given.trans (held.symm.append_left _),
    counts.alphaMatches.trans custody.found, counts.matchRetractions.trans custody.withdrawn⟩

/-- A fact comes in without matches. -/
theorem attach (custody : s.InCustody start b) (sound : s.Sound) (sound' : s'.Sound)
    (found : s.get? h = some f) (unattached : f.isUnattached = true) {index : Nat}
    (attaches : Attaches h f index s s') : s'.InCustody start b := by
  have unasserted : s.isAsserted h = false := by
    rw [isAsserted, found]
    exact Bool.eq_false_iff.mpr (not_asserted_of_unattached unattached)
  have idle : f.matched = [] := by
    have none := custody.bare h unasserted
    rwa [matchedOf, found] at none
  have after := matchedOf_replaced attaches.facts
  have bare : s'.Bare := fun k other => by
    obtain ⟨matched, asserted⟩ := after k
    rw [matched]
    split
    · exact idle
    · rename_i apart
      rw [if_neg apart] at asserted
      exact custody.bare k (asserted.symm.trans other)
  obtain ⟨rest, before, now⟩ := held_change (h := h) sound.toConsistent sound'.toConsistent
    custody.bare bare fun k other => by
      obtain ⟨matched, asserted⟩ := after k
      rw [if_neg other] at matched asserted
      exact ⟨asserted, matched⟩
  rw [custody.bare h unasserted] at before
  rw [(after h).1, if_pos rfl, show (f.attached index (s.hashOf f)).matched = [] from idle] at now
  obtain ⟨_, _, _, _, _, _, rfl⟩ := attaches.rest
  exact ⟨custody.deals, bare, custody.given.trans ((before.trans now.symm).append_left _),
    custody.found, custody.withdrawn⟩

/-- What matching delivers is held by the fact. -/
theorem matchFact (custody : s.InCustody start b) (sound : s.Sound)
    (asserted : s.isAsserted h = true) {mode : MatchMode} {o : MatchOutcome}
    (done : s.matchFact h mode = .ok (o, s')) :
    s'.InCustody start (b.giveAll o.ids h) ∧ s'.matchedOf h = s.matchedOf h ++ o.ids := by
  have quiet := matchFact_spec done
  obtain ⟨f, found, ids, -, network, -, -, here, others⟩ := matchFact_eq_ok done
  have deals := custody.deals.deliverAll h f (s.walked f mode).1
  rw [← ids, ← network] at deals
  have matched : s'.matchedOf h = s.matchedOf h ++ o.ids := by
    rw [matchedOf, matchedOf, here, found]
    rfl
  have same {k : Handle} (other : k ≠ h) : s'.matchedOf k = s.matchedOf k := by
    rw [matchedOf, matchedOf, others k other]
  have bare : s'.Bare := fun k unasserted => by
    rw [quiet.alike.isAsserted] at unasserted
    by_cases there : k = h
    · rw [there, asserted] at unasserted
      cases unasserted
    · rw [same there, custody.bare k unasserted]
  obtain ⟨rest, before, after⟩ := held_change (h := h) sound.toConsistent
    (sound.quiet quiet).toConsistent custody.bare bare fun k other =>
      ⟨quiet.alike.isAsserted k, same other⟩
  obtain ⟨counted, withdrawn⟩ := counts_matchFact done
  refine ⟨⟨deals, bare, ?_, ?_, withdrawn.trans custody.withdrawn⟩, matched⟩
  · rw [matched, List.map_append, List.append_assoc] at after
    have moved : (s.held ++ o.ids.map (·, h)).Perm s'.held :=
      calc (s.held ++ o.ids.map (·, h)).Perm
            ((s.matchedOf h).map (·, h) ++ rest ++ o.ids.map (·, h)) := before.append_right _
        _ |>.Perm ((s.matchedOf h).map (·, h) ++ (o.ids.map (·, h) ++ rest)) := by
            rw [List.append_assoc]
            exact List.perm_append_comm.append_left _
        _ |>.Perm s'.held := after.symm
    have given := (custody.given.append_right (o.ids.map (·, h)))
    rw [List.append_assoc] at given
    exact given.trans (moved.append_left _)
  · rw [counted, custody.found, Books.giveAll, List.length_append, List.length_map]

/-- Names that a fact gives up are handed back, whether or not the network refuses. -/
theorem handBack (custody : s.InCustody start b) {u : Store N} (network : u.network = s.network)
    (counts : SameCounts s u) {ids : List MatchId} {report : EvalError → Notice} {failed : Bool}
    {notices : List Notice} (done : u.retractMatches h ids report = .ok (failed, notices, s'))
    (bare : s'.Bare) (lost : s.held.Perm (ids.map (·, h) ++ s'.held)) :
    ∃ b', s'.InCustody start b' := by
  unfold retractMatches at done
  split at done
  · rename_i none
    obtain ⟨-, -, rfl⟩ := by simpa using done
    obtain rfl := List.isEmpty_iff.mp none
    exact ⟨b, network ▸ custody.deals, bare, custody.given.trans (lost.append_left _),
      counts.alphaMatches.trans custody.found, counts.matchRetractions.trans custody.withdrawn⟩
  · obtain ⟨⟨refusal, n⟩, taken, done⟩ := bind_eq_ok.mp done
    rw [network] at taken
    have given : (b.takeBack h ids).given.Perm ((b.takeBack h ids).handedBack ++ s'.held) := by
      rw [Books.handedBack_takeBack, List.append_assoc]
      exact custody.given.trans (lost.append_left _)
    have withdrawn : u.counters.matchRetractions + ids.length =
        (b.takeBack h ids).handedBack.length := by
      rw [Books.handedBack_takeBack, List.length_append, List.length_map, counts.matchRetractions,
        custody.withdrawn]
    refine ⟨b.takeBack h ids, ?_⟩
    cases refusal <;>
    · obtain ⟨-, -, rfl⟩ := by simpa using done
      exact ⟨custody.deals.retract taken, bare, given, counts.alphaMatches.trans custody.found,
        withdrawn⟩

/-- A fact that is detached hands back all its matches. -/
theorem detach (custody : s.InCustody start b) (sound : s.Sound) {d : Detached}
    (done : s.detach h = .ok (d, s')) : ∃ b', s'.InCustody start b' := by
  obtain ⟨f, found, -, sound', detaches, -⟩ := detach_spec sound done
  obtain ⟨f', index, u, found', -, unlinked, -, retracted⟩ := detach_eq_ok done
  obtain rfl := Option.some.inj (found.symm.trans found')
  obtain ⟨global, facts, templateLists, rfl⟩ := unlink_eq_ok unlinked
  have after := matchedOf_replaced detaches.facts
  have bare : s'.Bare := fun k unasserted => by
    obtain ⟨matched, asserted⟩ := after k
    rw [matched]
    split
    · rfl
    · rename_i other
      rw [if_neg other] at asserted
      exact custody.bare k (asserted.symm.trans unasserted)
  obtain ⟨rest, before, now⟩ := held_change (h := h) sound.toConsistent sound'.toConsistent
    custody.bare bare fun k other => by
      obtain ⟨matched, asserted⟩ := after k
      rw [if_neg other] at matched asserted
      exact ⟨asserted, matched⟩
  rw [matchedOf, found] at before
  rw [(after h).1, if_pos rfl] at now
  refine custody.handBack ?_ ?_ retracted bare (before.trans (now.symm.append_left _))
  · rfl
  · exact ⟨rfl, rfl⟩

/-- What a halted replay has just delivered it hands back. -/
theorem withdraw (custody : s.InCustody start b) (new : NeverReuses start) (sound : s.Sound)
    (asserted : s.isAsserted h = true) {old ids : List MatchId}
    (matched : s.matchedOf h = old ++ ids) {notices : List Notice}
    (done : s.withdraw h ids = .ok (notices, s')) : ∃ b', s'.InCustody start b' := by
  have quiet := withdraw_spec done
  have once := custody.matchedOf_nodup new sound.toConsistent h
  obtain ⟨here, others⟩ := matchedOf_withdraw once matched done
  obtain ⟨⟨failed, ns, u⟩, retracted, done⟩ := bind_eq_ok.mp done
  obtain ⟨-, rfl⟩ := Prod.mk.inj (Except.ok.inj done)
  have bare : u.Bare := fun k unasserted => by
    rw [quiet.alike.isAsserted] at unasserted
    by_cases there : k = h
    · rw [there, asserted] at unasserted
      cases unasserted
    · rw [others k there, custody.bare k unasserted]
  obtain ⟨rest, before, now⟩ := held_change (h := h) sound.toConsistent
    (sound.quiet quiet).toConsistent custody.bare bare fun k other =>
      ⟨quiet.alike.isAsserted k, others k other⟩
  rw [matched, List.map_append] at before
  rw [here] at now
  refine custody.handBack ?_ ?_ retracted bare (before.trans ?_)
  · rfl
  · exact ⟨rfl, rfl⟩
  · refine (List.perm_append_comm.append_right rest).trans ?_
    rw [List.append_assoc]
    exact now.symm.append_left _

/-! ### Replays -/

theorem replayFacts (custody : s.InCustody start b) (new : NeverReuses start) (sound : s.Sound)
    {t : TemplateId} {hs : List Handle} (asserted : ∀ h ∈ hs, s.isAsserted h = true)
    {o : ReplayOutcome} (done : replayFacts t hs s = .ok (o, s')) :
    ∃ b', s'.InCustody start b' := by
  induction hs generalizing s b o with
  | nil =>
    obtain ⟨-, rfl⟩ := Prod.mk.inj (Except.ok.inj done)
    exact ⟨b, custody⟩
  | cons h rest ih =>
    have others : ∀ k ∈ rest, s.isAsserted k = true :=
      fun k inside => asserted k (List.mem_cons_of_mem h inside)
    have here := asserted h List.mem_cons_self
    unfold Store.replayFacts at done
    split at done
    · exact ih custody sound others done
    · obtain ⟨⟨o, u⟩, matched, done⟩ := bind_eq_ok.mp done
      obtain ⟨custody', more⟩ := custody.matchFact sound here matched
      have quiet := matchFact_spec matched
      have sound' := sound.quiet quiet
      have stays (k : Handle) (before : s.isAsserted k = true) : u.isAsserted k = true :=
        (quiet.alike.isAsserted k).trans before
      dsimp only at done
      split at done
      · obtain ⟨⟨notices, v⟩, withdrawn, done⟩ := bind_eq_ok.mp done
        obtain ⟨-, rfl⟩ := Prod.mk.inj (Except.ok.inj done)
        exact custody'.withdraw new sound' (stays h here) more withdrawn
      · obtain ⟨⟨r, v⟩, replayed, done⟩ := bind_eq_ok.mp done
        obtain ⟨-, rfl⟩ := Prod.mk.inj (Except.ok.inj done)
        have recorded : InCustody start (b.giveAll o.ids h)
            { u with patterns := u.patterns.updateTree t (·.recordReplayed h) } := { custody' with }
        have kept : Quiet [] u { u with
            patterns := u.patterns.updateTree t (·.recordReplayed h) } := .unchanged
        exact ih recorded (sound'.quiet kept) (fun k inside => stays k (others k inside)) replayed

theorem replay (custody : s.InCustody start b) (new : NeverReuses start) (sound : s.Sound)
    {t : TemplateId} {o : ReplayOutcome} (done : s.replay t = .ok (o, s')) :
    ∃ b', s'.InCustody start b' := by
  obtain ⟨⟨r, u⟩, replayed, done⟩ := bind_eq_ok.mp done
  obtain ⟨-, rfl⟩ := Prod.mk.inj (Except.ok.inj done)
  have guarded : InCustody start b { s with guarded := true } := { custody with }
  obtain ⟨b', all⟩ := guarded.replayFacts new ((Step.guarded s true).sound sound)
    (fun h inside => by
      obtain ⟨f, found, asserted, -⟩ := sound.mem_templateFacts.mp inside
      exact isAsserted_iff_exists.mpr ⟨f, found, asserted⟩) replayed
  refine ⟨b', ?_⟩
  split <;> exact { all with }

theorem addPattern (custody : s.InCustody start b) (new : NeverReuses start) (sound : s.Sound)
    {p : Pattern} {label : String} {r : Except PatternError EntryId} {notices : List Notice}
    (done : s.addPattern p label = .ok (r, notices, s')) : ∃ b', s'.InCustody start b' := by
  unfold Store.addPattern at done
  split at done
  · obtain ⟨-, -, rfl⟩ := by simpa using done
    exact ⟨b, custody⟩
  · split at done
    · obtain ⟨-, -, rfl⟩ := by simpa using done
      exact ⟨b, custody⟩
    · rename_i id patterns _
      have added : InCustody start b { s with patterns } := { custody with }
      have kept : Quiet [] s { s with patterns } := .unchanged
      dsimp only at done
      split at done
      · obtain ⟨⟨o, u⟩, replayed, done⟩ := bind_eq_ok.mp done
        obtain ⟨-, -, rfl⟩ := by simpa using done
        exact added.replay new (sound.quiet kept) replayed
      · obtain ⟨-, -, rfl⟩ := by simpa using done
        exact ⟨b, added⟩

theorem replayAll (custody : s.InCustody start b) (new : NeverReuses start) (sound : s.Sound)
    {ts : List TemplateId} {n : Nat} {notices : List Notice}
    (done : replayAll ts s = .ok (n, notices, s')) : ∃ b', s'.InCustody start b' := by
  induction ts generalizing s b n notices with
  | nil =>
    obtain ⟨-, -, rfl⟩ := by simpa [Store.replayAll] using done
    exact ⟨b, custody⟩
  | cons t rest ih =>
    obtain ⟨⟨o, u⟩, replayed, done⟩ := bind_eq_ok.mp done
    obtain ⟨⟨m, ns, v⟩, others, done⟩ := bind_eq_ok.mp done
    obtain ⟨-, -, rfl⟩ := by simpa using done
    obtain ⟨b', first⟩ := custody.replay new sound replayed
    exact ih first (sound.quiet (replay_spec sound replayed)) others

end InCustody

end FactBase.Store

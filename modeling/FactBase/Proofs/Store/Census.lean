import FactBase.Modifier
import FactBase.Proofs.Store.Step

/-!
# The census of a fact base

How many facts are asserted and how many wait to be collected, beside what is counted of asserts,
retractions and collections. Only attaching, detaching and collecting concern the census, and each
of them changes both sides of the balance alike. This does not need that the fact base is sound,
only that empty slots of the storage are kept for reuse once.
-/

namespace FactBase.Store

variable {N : Type} {s s' s'' : Store N} {h : Handle}

structure Census where
  /-- The asserted facts. -/
  live : Nat
  /-- The retracted facts that wait to be collected. -/
  waiting : Nat
  /-- How often a fact was asserted. -/
  asserted : Nat
  /-- How often a fact was retracted. -/
  retracted : Nat
  /-- How many retracted facts were collected. -/
  reclaimed : Nat

def census (s : Store N) : Census :=
  ⟨s.factCount, s.garbage.length, s.counters.asserted, s.counters.retracted, s.counters.reclaimed⟩

/-- Every retracted fact was collected or waits, and every fact that was asserted, or attached in
the place of another one, is asserted or was retracted. -/
structure Census.Balanced (c : Census) (replaced : Nat) : Prop where
  retracted : c.retracted = c.reclaimed + c.waiting
  asserted : c.asserted + replaced = c.live + c.retracted

/-- A step that leads from a balance with `d` more replacements to one with `e` more. -/
structure Rebalances (d e : Nat) (s s' : Store N) : Prop where
  tidy : s.facts.Tidy → s'.facts.Tidy
  balanced : ∀ k, s.census.Balanced (k + d) → s'.census.Balanced (k + e)

/-! ### Steps that leave the census as it is -/

structure SameCensus (s s' : Store N) : Prop where
  tidy : s.facts.Tidy → s'.facts.Tidy
  census : s'.census = s.census

namespace SameCensus

theorem refl (s : Store N) : SameCensus s s := ⟨id, rfl⟩

theorem trans (first : SameCensus s s') (second : SameCensus s' s'') : SameCensus s s'' :=
  ⟨fun tidy => second.tidy (first.tidy tidy), second.census.trans first.census⟩

/-- A fact is changed. -/
theorem of_update {u : Fact → Fact} (facts : s'.facts = s.facts.update h u)
    (census : s'.census = s.census) : SameCensus s s' := by
  refine ⟨fun tidy => ?_, census⟩
  rw [facts]
  exact tidy.update h u

theorem of_facts_eq (facts : s'.facts = s.facts) (census : s'.census = s.census) :
    SameCensus s s' := by
  refine ⟨fun tidy => ?_, census⟩
  rw [facts]
  exact tidy

theorem rebalances (steady : SameCensus s s') (d : Nat) : Rebalances d d s s' := by
  refine ⟨steady.tidy, fun k balanced => ?_⟩
  rw [steady.census]
  exact balanced

end SameCensus

theorem sameCensus_createWith {t : TemplateId} {template : Template} {fields : List Field}
    (done : s.createWith t template fields = .ok (h, s')) : SameCensus s s' := by
  obtain ⟨templates, facts, -, inserted, rfl⟩ := createWith_eq_ok done
  exact ⟨fun tidy => (Arena.insert_spec tidy inserted).2.1, rfl⟩

theorem sameCensus_createFact {name : String} {r : Except StoreError Handle}
    (done : s.createFact name = .ok (r, s')) : SameCensus s s' := by
  obtain ⟨-, rfl⟩ | ⟨e, h, created, -⟩ := createFact_eq_ok done
  · exact .refl _
  · obtain ⟨draws, drawn⟩ := defaultFields_eq e.id e.template.slots.zipIdx s
    rw [drawn] at created
    have filled : SameCensus s { s with draws } := .of_facts_eq rfl rfl
    exact filled.trans (sameCensus_createWith created)

theorem sameCensus_createOrdered {relation : String} {values : List Value}
    {r : Except StoreError Handle} (done : s.createOrdered relation values = .ok (r, s')) :
    SameCensus s s' := by
  obtain ⟨e, -, -, rfl⟩ | ⟨id, templates, template, h, -, created, -⟩ := createOrdered_eq_ok done
  · exact .refl _
  · have defined : SameCensus s { s with templates } := .of_facts_eq rfl rfl
    exact defined.trans (sameCensus_createWith created)

theorem sameCensus_putSlotAt {position : Nat} {v : Value}
    (done : s.putSlotAt h position v = .ok s') : SameCensus s s' := by
  obtain ⟨f, -, done⟩ := bind_eq_ok.mp done
  split at done
  · cases done
  · split at done
    · cases done
    · obtain rfl := Except.ok.inj done
      exact .of_update rfl rfl

theorem sameCensus_putSlot {slot : String} {v : Value} (done : s.putSlot h slot v = .ok s') :
    SameCensus s s' := by
  obtain ⟨f, -, done⟩ := bind_eq_ok.mp done
  split at done
  · cases done
  · exact sameCensus_putSlotAt done

theorem sameCensus_free (done : s.free h = .ok s') : SameCensus s s' := by
  obtain ⟨f, facts, atoms, templates, removed, -, -, rfl⟩ := free_eq_ok done
  exact ⟨fun tidy => (Arena.remove?_spec tidy removed).2.1, rfl⟩

theorem sameCensus_discard {r : Except StoreError Unit} (done : s.discard h = .ok (r, s')) :
    SameCensus s s' := by
  obtain ⟨e, -, rfl⟩ | ⟨f, -, -, freed, -⟩ := discard_eq_ok done
  · exact .refl _
  · exact sameCensus_free freed

theorem sameCensus_retain (done : s.retain h = .ok s') : SameCensus s s' := by
  obtain ⟨f, -, rfl⟩ := retain_eq_ok done
  exact .of_update rfl rfl

theorem sameCensus_release {r : Except StoreError Unit} (done : s.release h = .ok (r, s')) :
    SameCensus s s' := by
  obtain ⟨-, -, rfl⟩ | ⟨f, -, -, -, rfl⟩ := release_eq_ok done
  · exact .refl _
  · exact .of_update rfl rfl

theorem sameCensus_installFields (s : Store N) (h : Handle) : SameCensus s (s.installFields h) := by
  unfold installFields
  split
  · exact .refl s
  · exact .of_update rfl rfl

theorem sameCensus_install (done : s.install h = .ok s') : SameCensus s s' := by
  obtain ⟨u, retained, done⟩ := bind_eq_ok.mp done
  obtain rfl := Except.ok.inj done
  exact (sameCensus_retain retained).trans (sameCensus_installFields u h)

theorem sameCensus_deinstall {r : Except StoreError Unit} (done : s.deinstall h = .ok (r, s')) :
    SameCensus s s' := by
  obtain ⟨-, -, rfl⟩ | ⟨f, atoms, -, -, -, -, rfl⟩ := deinstall_eq_ok done
  · exact .refl _
  · exact .of_update rfl rfl

theorem sameCensus_makeBuilder {name : String} {b : Builder}
    (done : Builder.make name s = .ok (b, s')) : SameCensus s s' := by
  obtain ⟨e, -, -, rfl⟩ := makeBuilder_eq_ok done
  exact .of_facts_eq rfl rfl

theorem sameCensus_makeModifier {m : Modifier} (done : Modifier.make h s = .ok (m, s')) :
    SameCensus s s' := by
  obtain ⟨f, -, done⟩ := bind_eq_ok.mp done
  split at done
  · cases done
  · split at done
    · cases done
    · rename_i retained
      obtain ⟨-, rfl⟩ := Prod.mk.inj (Except.ok.inj done)
      exact sameCensus_retain retained

theorem sameCensus_builderFields (b : Builder) (slots : List ((Slot × Option Value) × Nat))
    (s : Store N) : SameCensus s (b.fields slots s).2 := by
  obtain ⟨draws, same⟩ := builderFields_eq b slots s
  rw [same]
  exact .of_facts_eq rfl rfl

theorem sameCensus_drawDefault (s : Store N) (t : TemplateId) (position : Nat) :
    SameCensus s (s.drawDefault t position).2 := by
  obtain ⟨draws, drawn⟩ := drawDefault_eq s t position
  rw [drawn]
  exact .of_facts_eq rfl rfl

theorem sameCensus_defineTemplate {t : Template} {id : TemplateId}
    (done : s.defineTemplate t = .ok (id, s')) : SameCensus s s' := by
  obtain ⟨_, -, rfl⟩ := defineTemplate_eq_ok done
  exact .of_facts_eq rfl rfl

theorem sameCensus_undefineTemplate {name : String} (done : s.undefineTemplate name = .ok s') :
    SameCensus s s' := by
  unfold undefineTemplate at done
  split at done
  · cases done
  · obtain rfl := Except.ok.inj done
    exact .of_facts_eq rfl rfl

/-! ### Matches and patterns -/

section Matches

variable [JoinNetwork N]

theorem sameCensus_matchFact {mode : MatchMode} {o : MatchOutcome}
    (done : s.matchFact h mode = .ok (o, s')) : SameCensus s s' := by
  unfold matchFact at done
  split at done
  · cases done
  · split at done
    · obtain ⟨-, rfl⟩ := Prod.mk.inj (Except.ok.inj done)
      exact .refl _
    · obtain ⟨-, rfl⟩ := Prod.mk.inj (Except.ok.inj done)
      exact of_recordFailure _ (.of_update rfl rfl) (.of_update rfl rfl)

theorem sameCensus_retractMatches {ids : List MatchId} {report : EvalError → Notice} {failed : Bool}
    {notices : List Notice} (done : s.retractMatches h ids report = .ok (failed, notices, s')) :
    SameCensus s s' := by
  unfold retractMatches at done
  split at done
  · obtain ⟨-, -, rfl⟩ := by simpa using done
    exact .refl _
  · obtain ⟨⟨refusal, network⟩, -, done⟩ := bind_eq_ok.mp done
    cases refusal with
    | none =>
      obtain ⟨-, -, rfl⟩ := by simpa using done
      exact .of_facts_eq rfl rfl
    | some e =>
      obtain ⟨-, -, rfl⟩ := by simpa using done
      exact .of_facts_eq rfl rfl

theorem sameCensus_withdraw {ids : List MatchId} {notices : List Notice}
    (done : s.withdraw h ids = .ok (notices, s')) : SameCensus s s' := by
  obtain ⟨⟨failed, notices', u⟩, retracted, done⟩ := bind_eq_ok.mp done
  obtain ⟨-, rfl⟩ := Prod.mk.inj (Except.ok.inj done)
  have given : SameCensus s { s with facts := s.facts.update h fun f =>
      { f with matched := f.matched.filter (!ids.contains ·) } } := .of_update rfl rfl
  exact given.trans (sameCensus_retractMatches retracted)

theorem sameCensus_replayFacts {t : TemplateId} {hs : List Handle} {o : ReplayOutcome}
    (done : replayFacts t hs s = .ok (o, s')) : SameCensus s s' := by
  induction hs generalizing s o with
  | nil =>
    obtain ⟨-, rfl⟩ := Prod.mk.inj (Except.ok.inj done)
    exact .refl s
  | cons h rest ih =>
    unfold replayFacts at done
    split at done
    · exact ih done
    · obtain ⟨⟨m, u⟩, matched, done⟩ := bind_eq_ok.mp done
      have first := sameCensus_matchFact matched
      dsimp only at done
      split at done
      · obtain ⟨⟨notices, v⟩, withdrawn, done⟩ := bind_eq_ok.mp done
        obtain ⟨-, rfl⟩ := Prod.mk.inj (Except.ok.inj done)
        exact first.trans (sameCensus_withdraw withdrawn)
      · obtain ⟨⟨r, v⟩, replayed, done⟩ := bind_eq_ok.mp done
        obtain ⟨-, rfl⟩ := Prod.mk.inj (Except.ok.inj done)
        have noted : SameCensus u { u with
            patterns := u.patterns.updateTree t (·.recordReplayed h) } := .of_facts_eq rfl rfl
        exact (first.trans noted).trans (ih replayed)

theorem sameCensus_replay {t : TemplateId} {o : ReplayOutcome} (done : s.replay t = .ok (o, s')) :
    SameCensus s s' := by
  obtain ⟨⟨o', u⟩, replayed, done⟩ := bind_eq_ok.mp done
  obtain ⟨-, rfl⟩ := Prod.mk.inj (Except.ok.inj done)
  have held : SameCensus s { s with guarded := true } := .of_facts_eq rfl rfl
  refine (held.trans (sameCensus_replayFacts replayed)).trans ?_
  split <;> exact .of_facts_eq rfl rfl

theorem sameCensus_addPattern {p : Pattern} {label : String} {r : Except PatternError EntryId}
    {notices : List Notice} (done : s.addPattern p label = .ok (r, notices, s')) :
    SameCensus s s' := by
  unfold addPattern at done
  split at done
  · obtain ⟨-, -, rfl⟩ := by simpa using done
    exact .refl s
  · split at done
    · obtain ⟨-, -, rfl⟩ := by simpa using done
      exact .refl s
    · rename_i id patterns _
      have added : SameCensus s { s with patterns } := .of_facts_eq rfl rfl
      dsimp only at done
      split at done
      · obtain ⟨⟨o, u⟩, replayed, done⟩ := bind_eq_ok.mp done
        obtain ⟨-, -, rfl⟩ := by simpa using done
        exact added.trans (sameCensus_replay replayed)
      · obtain ⟨-, -, rfl⟩ := by simpa using done
        exact added

omit [JoinNetwork N] in
theorem sameCensus_removePattern {id : EntryId} (done : s.removePattern id = .ok s') :
    SameCensus s s' := by
  unfold removePattern at done
  split at done
  · cases done
  · obtain rfl := Except.ok.inj done
    exact .of_facts_eq rfl rfl

theorem sameCensus_replayNewPatterns {n : Nat} {notices : List Notice}
    (done : s.replayNewPatterns = .ok (n, notices, s')) : SameCensus s s' := by
  unfold replayNewPatterns at done
  revert done
  generalize s.patterns.needingReplay = ts
  intro done
  induction ts generalizing s n notices with
  | nil =>
    obtain ⟨-, -, rfl⟩ := by simpa [replayAll] using done
    exact .refl s
  | cons t rest ih =>
    unfold replayAll at done
    obtain ⟨⟨o, u⟩, replayed, done⟩ := bind_eq_ok.mp done
    obtain ⟨⟨n', notices', v⟩, others, done⟩ := bind_eq_ok.mp done
    obtain ⟨-, -, rfl⟩ := by simpa using done
    exact (sameCensus_replay replayed).trans (ih others)

end Matches

/-! ### Attaching -/

section Links

variable {l l' : FactList} {a b : Arena Fact} {thread : Thread} {previous next : Option Handle}

theorem tidy_relink {change : Links → Links} (done : FactList.relink a thread h change = .ok b)
    (tidy : a.Tidy) : b.Tidy := by
  obtain ⟨links, -, done⟩ := bind_eq_ok.mp done
  obtain rfl := Except.ok.inj done
  exact tidy.update h _

/-- Links of a fact do not concern the length of a list. -/
theorem setNext_keeps (done : l.setNext a thread previous next = .ok (l', b)) :
    (a.Tidy → b.Tidy) ∧ l'.length = l.length := by
  cases previous with
  | none =>
    obtain ⟨rfl, rfl⟩ := Prod.mk.inj (Except.ok.inj done)
    exact ⟨id, rfl⟩
  | some p =>
    obtain ⟨c, linked, same⟩ := map_eq_ok.mp done
    obtain ⟨rfl, rfl⟩ := Prod.mk.inj same
    exact ⟨tidy_relink linked, rfl⟩

theorem setPrevious_keeps (done : l.setPrevious a thread previous next = .ok (l', b)) :
    (a.Tidy → b.Tidy) ∧ l'.length = l.length := by
  cases next with
  | none =>
    obtain ⟨rfl, rfl⟩ := Prod.mk.inj (Except.ok.inj done)
    exact ⟨id, rfl⟩
  | some n =>
    obtain ⟨c, linked, same⟩ := map_eq_ok.mp done
    obtain ⟨rfl, rfl⟩ := Prod.mk.inj same
    exact ⟨tidy_relink linked, rfl⟩

theorem linkAfter_counts (done : l.linkAfter a thread previous h = .ok (l', b)) :
    (a.Tidy → b.Tidy) ∧ l'.length = l.length + 1 := by
  obtain ⟨next, -, done⟩ := bind_eq_ok.mp done
  obtain ⟨c, placed, done⟩ := bind_eq_ok.mp done
  obtain ⟨⟨m, d⟩, forth, done⟩ := bind_eq_ok.mp done
  obtain ⟨⟨n, e⟩, back, done⟩ := bind_eq_ok.mp done
  obtain ⟨rfl, rfl⟩ := Prod.mk.inj (Except.ok.inj done)
  obtain ⟨tidyForth, forward⟩ := setNext_keeps forth
  obtain ⟨tidyBack, backward⟩ := setPrevious_keeps back
  refine ⟨fun tidy => tidyBack (tidyForth (tidy_relink placed tidy)), ?_⟩
  dsimp only
  omega

/-- What is taken out of a list was counted there. -/
theorem unlink_counts {p : Option Handle} (done : l.unlink a thread h = .ok (p, l', b)) :
    (a.Tidy → b.Tidy) ∧ l.length = l'.length + 1 := by
  obtain ⟨links, -, done⟩ := bind_eq_ok.mp done
  obtain ⟨c, cleared, done⟩ := bind_eq_ok.mp done
  obtain ⟨⟨m, d⟩, forth, done⟩ := bind_eq_ok.mp done
  obtain ⟨⟨n, e⟩, back, done⟩ := bind_eq_ok.mp done
  obtain ⟨tidyForth, forward⟩ := setNext_keeps forth
  obtain ⟨tidyBack, backward⟩ := setPrevious_keeps back
  dsimp only at done
  split at done
  · cases done
  · simp only [Except.ok.injEq, Prod.mk.injEq] at done
    obtain ⟨-, rfl, rfl⟩ := done
    refine ⟨fun tidy => tidyBack (tidyForth (tidy_relink cleared tidy)), ?_⟩
    dsimp only
    omega

end Links

variable {d e n : Nat}

/-- One more fact is asserted, and it takes the place of another one until it is counted. -/
theorem rebalances_link {t : TemplateId} {previous templatePrevious : Option Handle}
    (done : s.link t h previous templatePrevious = .ok s') : Rebalances d (d + 1) s s' := by
  obtain ⟨⟨global, facts⟩, listed, done⟩ := bind_eq_ok.mp done
  obtain ⟨⟨l, facts'⟩, listedInTemplate, done⟩ := bind_eq_ok.mp done
  obtain rfl := Except.ok.inj done
  obtain ⟨tidyGlobal, longer⟩ := linkAfter_counts listed
  refine ⟨fun tidy => (linkAfter_counts listedInTemplate).1 (tidyGlobal tidy), fun k balanced => ?_⟩
  refine ⟨balanced.retracted, ?_⟩
  have present : s.counters.asserted + (k + d) = s.global.length + s.counters.retracted :=
    balanced.asserted
  change s.counters.asserted + (k + (d + 1)) = global.length + s.counters.retracted
  omega

theorem rebalances_attach {reuse : Option Nat} {hash : UInt64}
    {previous templatePrevious : Option Handle} {index : Nat}
    (done : s.attach h reuse hash previous templatePrevious = .ok (index, s')) :
    Rebalances d (d + 1) s s' := by
  have links {t : TemplateId} {u v : Store N} {i : Nat} (steady : SameCensus s u)
      (done : (Store.link { u with index := u.index.insert hash h } t h previous
        templatePrevious >>= fun s => .ok (i, s)) = .ok (index, v)) : Rebalances d (d + 1) s v := by
    obtain ⟨_, linked, done⟩ := bind_eq_ok.mp done
    obtain ⟨-, rfl⟩ := Prod.mk.inj (Except.ok.inj done)
    have indexed : SameCensus u { u with index := u.index.insert hash h } := .of_facts_eq rfl rfl
    have before := (steady.trans indexed).rebalances d
    have linked : Rebalances d (d + 1) { u with index := u.index.insert hash h } _ :=
      rebalances_link linked
    exact ⟨fun tidy => linked.tidy (before.tidy tidy),
      fun k balanced => linked.balanced k (before.balanced k balanced)⟩
  unfold attach at done
  split at done
  · cases done
  · have numbered (index nextIndex : Nat) : SameCensus s { s with
        nextIndex
        facts := s.facts.update h fun f => { f with index, hash, busy := f.busy + 1 } } :=
      .of_update rfl rfl
    cases reuse with
    | none => exact links ((numbered _ _).trans (sameCensus_installFields _ h)) done
    | some i =>
      dsimp only at done
      split at done
      · exact links ((numbered _ _).trans (sameCensus_installFields _ h)) done
      · cases done

/-- A fact that is counted as asserted takes no other fact's place. -/
theorem rebalances_countAsserted (s : Store N) : Rebalances (d + 1) d s
    { s with counters := { s.counters with asserted := s.counters.asserted + 1 } } := by
  refine ⟨id, fun k balanced => ⟨balanced.retracted, ?_⟩⟩
  have present : s.counters.asserted + (k + (d + 1)) = s.factCount + s.counters.retracted :=
    balanced.asserted
  change s.counters.asserted + 1 + (k + d) = s.factCount + s.counters.retracted
  omega

/-! ### Detaching -/

/-- An asserted fact becomes one that waits, and is counted as retracted. -/
theorem rebalances_detach [JoinNetwork N] {detached : Detached}
    (done : s.detach h = .ok (detached, s')) : Rebalances d d s s' := by
  obtain ⟨f, index, u, -, -, unlinked, -, retracted⟩ := detach_eq_ok done
  obtain ⟨⟨p, l, a⟩, listed, unlinked⟩ := bind_eq_ok.mp unlinked
  obtain ⟨tidyGlobal, shorter⟩ := unlink_counts listed
  dsimp only at unlinked
  split at unlinked
  · cases unlinked
  · obtain ⟨⟨q, m, b⟩, listedInTemplate, unlinked⟩ := bind_eq_ok.mp unlinked
    simp only [Except.ok.injEq, Prod.mk.injEq] at unlinked
    obtain ⟨-, -, rfl⟩ := unlinked
    have withdrawn := (sameCensus_retractMatches retracted).rebalances d
    refine ⟨fun tidy => withdrawn.tidy ?_, fun k balanced => withdrawn.balanced k ?_⟩
    · exact ((unlink_counts listedInTemplate).1 (tidyGlobal tidy)).update h _
    · have balance : s.counters.retracted = s.counters.reclaimed + s.garbage.length :=
        balanced.retracted
      have present : s.counters.asserted + (k + d) = s.global.length + s.counters.retracted :=
        balanced.asserted
      constructor
      · change s.counters.retracted + 1 = s.counters.reclaimed + (s.garbage ++ [h]).length
        rw [List.length_append, List.length_singleton]
        omega
      · change s.counters.asserted + (k + d) = l.length + (s.counters.retracted + 1)
        change s.global.length = l.length + 1 at shorter
        omega

/-! ### Collecting -/

/-- Of the facts that wait some are collected and the others go on waiting. -/
theorem census_collectFrom {hs : List Handle} (done : collectFrom hs s = .ok (n, s')) :
    (s.facts.Tidy → s'.facts.Tidy) ∧
      s'.garbage.length + n = s.garbage.length + hs.length ∧
      s'.census = { s.census with waiting := s'.garbage.length } := by
  induction hs generalizing s n with
  | nil =>
    obtain ⟨rfl, rfl⟩ := Prod.mk.inj (Except.ok.inj done)
    exact ⟨id, rfl, rfl⟩
  | cons h rest ih =>
    unfold collectFrom at done
    split at done
    · cases done
    · split at done
      · obtain ⟨u, freed, done⟩ := bind_eq_ok.mp done
        obtain ⟨⟨m, v⟩, others, done⟩ := bind_eq_ok.mp done
        obtain ⟨rfl, rfl⟩ := Prod.mk.inj (Except.ok.inj done)
        have steady := sameCensus_free freed
        have waiting : u.garbage.length = s.garbage.length := congrArg Census.waiting steady.census
        obtain ⟨tidy, total, same⟩ := ih others
        rw [steady.census] at same
        refine ⟨fun before => tidy (steady.tidy before), ?_, same⟩
        rw [List.length_cons]
        omega
      · obtain ⟨tidy, total, same⟩ := ih done
        refine ⟨tidy, ?_, same⟩
        rw [List.length_append, List.length_singleton] at total
        rw [List.length_cons]
        omega

/-- What is collected is counted as collected. -/
theorem rebalances_collectGarbage (done : s.collectGarbage = .ok (n, s')) :
    Rebalances d d s s' := by
  unfold collectGarbage at done
  split at done
  · obtain ⟨-, rfl⟩ := Prod.mk.inj (Except.ok.inj done)
    exact (SameCensus.refl s).rebalances d
  · obtain ⟨⟨m, u⟩, collected, done⟩ := bind_eq_ok.mp done
    obtain ⟨rfl, rfl⟩ := Prod.mk.inj (Except.ok.inj done)
    obtain ⟨tidy, total, same⟩ := census_collectFrom collected
    have retracted : u.counters.retracted = s.counters.retracted := congrArg Census.retracted same
    have reclaimed : u.counters.reclaimed = s.counters.reclaimed := congrArg Census.reclaimed same
    have asserted : u.counters.asserted = s.counters.asserted := congrArg Census.asserted same
    have live : u.factCount = s.factCount := congrArg Census.live same
    have waiting : u.garbage.length + m = 0 + s.garbage.length := total
    refine ⟨tidy, fun k balanced => ?_⟩
    have balance : s.counters.retracted = s.counters.reclaimed + s.garbage.length :=
      balanced.retracted
    have present : s.counters.asserted + (k + d) = s.factCount + s.counters.retracted :=
      balanced.asserted
    constructor
    · change u.counters.retracted = u.counters.reclaimed + m + u.garbage.length
      omega
    · change u.counters.asserted + (k + d) = u.factCount + u.counters.retracted
      omega

theorem rebalances_maybeCollect (done : s.maybeCollect = .ok s') : Rebalances d d s s' := by
  unfold Store.maybeCollect at done
  split at done
  · obtain ⟨⟨n, u⟩, collected, rfl⟩ := map_eq_ok.mp done
    exact rebalances_collectGarbage collected
  · obtain rfl := Except.ok.inj done
    exact (SameCensus.refl _).rebalances d

end FactBase.Store

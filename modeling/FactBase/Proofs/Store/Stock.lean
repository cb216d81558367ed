import FactBase.Builder
import FactBase.Modifier
import FactBase.Proofs.Store.Step

/-!
# The stock of facts

The stock shows of each stored fact what it was made from and how many fields it has. Most steps
change neither templates nor settings, and of the facts only what the stock does not show.
-/

namespace FactBase

/-- What a fact was made from and how many fields it has. -/
def Fact.kind (f : Fact) : TemplateId × Template × Nat := (f.templateId, f.template, f.fields.length)

/-- The kinds of the stored facts. -/
def Arena.census (a : Arena Fact) : List (TemplateId × Template × Nat) := a.values.map Fact.kind

theorem Arena.census_update (a : Arena Fact) (h : Handle) {u : Fact → Fact}
    (same : ∀ f, (u f).kind = f.kind) : (a.update h u).census = a.census :=
  a.map_values_update h u Fact.kind same

namespace FactList

variable {a b : Arena Fact} {thread : Thread} {h : Handle} {l m : FactList}

theorem census_relink {change : Links → Links} (done : relink a thread h change = .ok b) :
    b.census = a.census := by
  obtain ⟨links, -, done⟩ := bind_eq_ok.mp done
  obtain rfl := Except.ok.inj done
  exact a.census_update h fun f => by cases thread <;> rfl

theorem census_setNext {previous next : Option Handle}
    (done : l.setNext a thread previous next = .ok (m, b)) : b.census = a.census := by
  unfold setNext at done
  cases previous with
  | none =>
    obtain ⟨-, rfl⟩ := Prod.mk.inj (Except.ok.inj done)
    rfl
  | some p =>
    obtain ⟨c, relinked, same⟩ := map_eq_ok.mp done
    obtain ⟨-, rfl⟩ := Prod.mk.inj same
    exact census_relink relinked

theorem census_setPrevious {previous next : Option Handle}
    (done : l.setPrevious a thread previous next = .ok (m, b)) : b.census = a.census := by
  unfold setPrevious at done
  cases next with
  | none =>
    obtain ⟨-, rfl⟩ := Prod.mk.inj (Except.ok.inj done)
    rfl
  | some p =>
    obtain ⟨c, relinked, same⟩ := map_eq_ok.mp done
    obtain ⟨-, rfl⟩ := Prod.mk.inj same
    exact census_relink relinked

theorem census_linkAfter {previous : Option Handle}
    (done : l.linkAfter a thread previous h = .ok (m, b)) : b.census = a.census := by
  obtain ⟨next, -, done⟩ := bind_eq_ok.mp done
  obtain ⟨c, relinked, done⟩ := bind_eq_ok.mp done
  obtain ⟨⟨l₁, c₁⟩, first, done⟩ := bind_eq_ok.mp done
  obtain ⟨⟨l₂, c₂⟩, second, done⟩ := bind_eq_ok.mp done
  obtain ⟨-, rfl⟩ := Prod.mk.inj (Except.ok.inj done)
  exact (census_setPrevious second).trans ((census_setNext first).trans (census_relink relinked))

theorem census_unlink {previous : Option Handle}
    (done : l.unlink a thread h = .ok (previous, m, b)) : b.census = a.census := by
  obtain ⟨links, -, done⟩ := bind_eq_ok.mp done
  obtain ⟨c, relinked, done⟩ := bind_eq_ok.mp done
  obtain ⟨⟨l₁, c₁⟩, first, done⟩ := bind_eq_ok.mp done
  obtain ⟨⟨l₂, c₂⟩, second, done⟩ := bind_eq_ok.mp done
  dsimp only at done
  split at done
  · cases done
  · simp only [Except.ok.injEq, Prod.mk.injEq] at done
    obtain ⟨-, -, rfl⟩ := done
    exact (census_setPrevious second).trans ((census_setNext first).trans (census_relink relinked))

end FactList

namespace Store

variable {N : Type} {s s' s'' : Store N} {h : Handle} {f : Fact}

/-- A change of neither stock nor settings. -/
structure SameStock (s s' : Store N) : Prop where
  census : s'.facts.census = s.facts.census
  templates : s'.templates = s.templates := by rfl
  config : s'.config = s.config := by rfl

theorem SameStock.refl (s : Store N) : SameStock s s := ⟨rfl, rfl, rfl⟩

theorem SameStock.trans (first : SameStock s s') (second : SameStock s' s'') : SameStock s s'' :=
  ⟨second.census.trans first.census, second.templates.trans first.templates,
    second.config.trans first.config⟩

/-- One fact changes in what the stock does not show. -/
theorem SameStock.of_update {u : Fact → Fact} (facts : s'.facts = s.facts.update h u)
    (kind : ∀ f, (u f).kind = f.kind) (templates : s'.templates = s.templates)
    (config : s'.config = s.config) : SameStock s s' :=
  ⟨by rw [facts, Arena.census_update _ _ kind], templates, config⟩

theorem SameStock.recordFailure (same : SameStock s s') (failed : Bool) :
    SameStock s (if failed then s'.recordFailure else s') := by
  cases failed with
  | false => exact same
  | true => exact same.trans ⟨rfl, rfl, rfl⟩

/-! ### Pins and slots -/

theorem stock_setBusy (s : Store N) (h : Handle) (busy : Nat) : SameStock s (s.setBusy h busy) :=
  .of_update rfl (fun _ => rfl) rfl rfl

theorem kind_sourced (f : Fact) (source : Source) :
    ({ f with fields := f.fields.map fun field => { field with source } } : Fact).kind = f.kind := by
  simp [Fact.kind]

theorem stock_installFields (s : Store N) (h : Handle) : SameStock s (s.installFields h) := by
  unfold installFields
  split
  · exact .refl s
  · exact .of_update rfl (fun f => kind_sourced f .table) rfl rfl

theorem stock_retain (done : s.retain h = .ok s') : SameStock s s' := by
  obtain ⟨f, -, rfl⟩ := retain_eq_ok done
  exact stock_setBusy s h _

theorem stock_release {r : Except StoreError Unit} (done : s.release h = .ok (r, s')) :
    SameStock s s' := by
  obtain ⟨-, -, rfl⟩ | ⟨f, -, -, -, rfl⟩ := release_eq_ok done
  · exact .refl _
  · exact stock_setBusy s h _

theorem stock_install (done : s.install h = .ok s') : SameStock s s' := by
  obtain ⟨u, retained, done⟩ := bind_eq_ok.mp done
  obtain rfl := Except.ok.inj done
  exact (stock_retain retained).trans (stock_installFields u h)

theorem stock_deinstall {r : Except StoreError Unit} (done : s.deinstall h = .ok (r, s')) :
    SameStock s s' := by
  obtain ⟨-, -, rfl⟩ | ⟨f, atoms, -, -, -, -, rfl⟩ := deinstall_eq_ok done
  · exact .refl _
  · exact .of_update rfl (fun _ => rfl) rfl rfl

theorem stock_putSlotAt {position : Nat} {v : Value} (done : s.putSlotAt h position v = .ok s') :
    SameStock s s' := by
  obtain ⟨f, -, done⟩ := bind_eq_ok.mp done
  split at done
  · cases done
  · split at done
    · cases done
    · obtain rfl := Except.ok.inj done
      exact .of_update rfl (fun f => by simp [Fact.kind]) rfl rfl

theorem stock_putSlot {slot : String} {v : Value} (done : s.putSlot h slot v = .ok s') :
    SameStock s s' := by
  obtain ⟨f, -, done⟩ := bind_eq_ok.mp done
  split at done
  · cases done
  · exact stock_putSlotAt done

/-! ### Defaults -/

theorem stock_drawDefault (s : Store N) (t : TemplateId) (position : Nat) :
    SameStock s (s.drawDefault t position).2 := by
  obtain ⟨draws, same⟩ := drawDefault_eq s t position
  rw [same]
  exact ⟨rfl, rfl, rfl⟩

theorem stock_defaultFields (t : TemplateId) (slots : List (Slot × Nat)) (s : Store N) :
    SameStock s (s.defaultFields t slots).2 := by
  obtain ⟨draws, same⟩ := defaultFields_eq t slots s
  rw [same]
  exact ⟨rfl, rfl, rfl⟩

theorem stock_builderFields (b : Builder) (slots : List ((Slot × Option Value) × Nat))
    (s : Store N) : SameStock s (b.fields slots s).2 := by
  obtain ⟨draws, same⟩ := builderFields_eq b slots s
  rw [same]
  exact ⟨rfl, rfl, rfl⟩

/-! ### Attaching, matching and detaching -/

theorem stock_link {t : TemplateId} {previous templatePrevious : Option Handle}
    (done : s.link t h previous templatePrevious = .ok s') : SameStock s s' := by
  obtain ⟨⟨l, a⟩, first, done⟩ := bind_eq_ok.mp done
  obtain ⟨⟨m, b⟩, second, done⟩ := bind_eq_ok.mp done
  obtain rfl := Except.ok.inj done
  exact ⟨(FactList.census_linkAfter second).trans (FactList.census_linkAfter first), rfl, rfl⟩

theorem stock_unlink {t : TemplateId} {previous templatePrevious : Option Handle}
    (done : s.unlink t h = .ok (previous, templatePrevious, s')) : SameStock s s' := by
  obtain ⟨⟨p, l, a⟩, first, done⟩ := bind_eq_ok.mp done
  dsimp only at done
  split at done
  · cases done
  · obtain ⟨⟨q, m, b⟩, second, done⟩ := bind_eq_ok.mp done
    simp only [Except.ok.injEq, Prod.mk.injEq] at done
    obtain ⟨-, -, rfl⟩ := done
    exact ⟨(FactList.census_unlink second).trans (FactList.census_unlink first), rfl, rfl⟩

theorem stock_attach {reuse : Option Nat} {hash : UInt64} {previous templatePrevious : Option Handle}
    {index : Nat} (done : s.attach h reuse hash previous templatePrevious = .ok (index, s')) :
    SameStock s s' := by
  unfold attach at done
  split at done
  · cases done
  · rename_i f _
    have numbered (index nextIndex : Nat) : SameStock s (installFields { s with
        nextIndex
        facts := s.facts.update h fun f => { f with index, hash, busy := f.busy + 1 } } h) := by
      refine SameStock.trans (.of_update rfl ?_ ?_ ?_) (stock_installFields _ h)
      exacts [fun _ => rfl, rfl, rfl]
    have indexed (u : Store N) : SameStock u { u with index := u.index.insert hash h } :=
      ⟨rfl, rfl, rfl⟩
    have rest {i nextIndex : Nat} (done : (do
        let u := installFields { s with
          nextIndex
          facts := s.facts.update h fun f => { f with index := i, hash, busy := f.busy + 1 } } h
        let u ← { u with index := u.index.insert hash h }.link f.templateId h previous
          templatePrevious
        .ok (i, u)) = Except.ok (index, s')) : SameStock s s' := by
      obtain ⟨u, linked, done⟩ := bind_eq_ok.mp done
      obtain ⟨-, rfl⟩ := Prod.mk.inj (Except.ok.inj done)
      exact (numbered i nextIndex).trans ((indexed _).trans (stock_link linked))
    cases reuse with
    | none => exact rest done
    | some i =>
      dsimp only at done
      split at done
      · exact rest done
      · cases done

variable [JoinNetwork N]

theorem stock_matchFact {mode : MatchMode} {o : MatchOutcome}
    (done : s.matchFact h mode = .ok (o, s')) : SameStock s s' := by
  unfold matchFact at done
  split at done
  · cases done
  · split at done
    · obtain ⟨-, rfl⟩ := Prod.mk.inj (Except.ok.inj done)
      exact .refl s
    · obtain ⟨-, rfl⟩ := Prod.mk.inj (Except.ok.inj done)
      refine SameStock.recordFailure (.of_update rfl ?_ ?_ ?_) _
      exacts [fun _ => rfl, rfl, rfl]

theorem stock_retractMatches {ids : List MatchId} {report : EvalError → Notice} {failed : Bool}
    {notices : List Notice} (done : s.retractMatches h ids report = .ok (failed, notices, s')) :
    SameStock s s' := by
  obtain ⟨network, counters, evaluationError, rfl⟩ := retractMatches_eq_ok done
  exact ⟨rfl, rfl, rfl⟩

theorem stock_detach {d : Detached} (done : s.detach h = .ok (d, s')) : SameStock s s' := by
  obtain ⟨f, index, u, -, -, unlinked, -, retracted⟩ := detach_eq_ok done
  have indexed : SameStock s { s with index } := ⟨rfl, rfl, rfl⟩
  have buried : SameStock u (u.bury h) := .of_update rfl (fun _ => rfl) rfl rfl
  exact (indexed.trans (stock_unlink unlinked)).trans (buried.trans (stock_retractMatches retracted))

theorem stock_withdraw {ids : List MatchId} {notices : List Notice}
    (done : s.withdraw h ids = .ok (notices, s')) : SameStock s s' := by
  obtain ⟨⟨failed, ns, u⟩, retracted, done⟩ := bind_eq_ok.mp done
  obtain ⟨-, rfl⟩ := Prod.mk.inj (Except.ok.inj done)
  refine SameStock.trans ?_ (stock_retractMatches retracted)
  exact .of_update rfl (fun _ => rfl) rfl rfl

/-! ### Replays -/

theorem stock_replayFacts {t : TemplateId} {hs : List Handle} {o : ReplayOutcome}
    (done : replayFacts t hs s = .ok (o, s')) : SameStock s s' := by
  induction hs generalizing s o with
  | nil =>
    obtain ⟨-, rfl⟩ := Prod.mk.inj (Except.ok.inj done)
    exact .refl s
  | cons h rest ih =>
    unfold replayFacts at done
    split at done
    · exact ih done
    · obtain ⟨⟨o, u⟩, matched, done⟩ := bind_eq_ok.mp done
      have first := stock_matchFact matched
      dsimp only at done
      split at done
      · obtain ⟨⟨notices, v⟩, withdrawn, done⟩ := bind_eq_ok.mp done
        obtain ⟨-, rfl⟩ := Prod.mk.inj (Except.ok.inj done)
        exact first.trans (stock_withdraw withdrawn)
      · obtain ⟨⟨r, v⟩, others, done⟩ := bind_eq_ok.mp done
        obtain ⟨-, rfl⟩ := Prod.mk.inj (Except.ok.inj done)
        have recorded : SameStock u
            { u with patterns := u.patterns.updateTree t (·.recordReplayed h) } := ⟨rfl, rfl, rfl⟩
        exact first.trans (recorded.trans (ih others))

theorem stock_replay {t : TemplateId} {o : ReplayOutcome} (done : s.replay t = .ok (o, s')) :
    SameStock s s' := by
  obtain ⟨⟨r, u⟩, replayed, done⟩ := bind_eq_ok.mp done
  obtain ⟨-, rfl⟩ := Prod.mk.inj (Except.ok.inj done)
  have guarded : SameStock s { s with guarded := true } := ⟨rfl, rfl, rfl⟩
  have all := guarded.trans (stock_replayFacts replayed)
  split <;> exact ⟨all.census, all.templates, all.config⟩

theorem stock_addPattern {p : Pattern} {label : String} {r : Except PatternError EntryId}
    {notices : List Notice} (done : s.addPattern p label = .ok (r, notices, s')) :
    SameStock s s' := by
  unfold addPattern at done
  split at done
  · simp only [Except.ok.injEq, Prod.mk.injEq] at done
    exact done.2.2 ▸ .refl s
  · split at done
    · simp only [Except.ok.injEq, Prod.mk.injEq] at done
      exact done.2.2 ▸ .refl s
    · rename_i id patterns _
      have added : SameStock s { s with patterns } := ⟨rfl, rfl, rfl⟩
      dsimp only at done
      split at done
      · obtain ⟨⟨o, u⟩, replayed, done⟩ := bind_eq_ok.mp done
        simp only [Except.ok.injEq, Prod.mk.injEq] at done
        obtain ⟨-, -, rfl⟩ := done
        exact added.trans (stock_replay replayed)
      · simp only [Except.ok.injEq, Prod.mk.injEq] at done
        exact done.2.2 ▸ added

omit [JoinNetwork N] in
theorem stock_removePattern {id : EntryId} (done : s.removePattern id = .ok s') :
    SameStock s s' := by
  unfold removePattern at done
  split at done
  · cases done
  · obtain rfl := Except.ok.inj done
    exact ⟨rfl, rfl, rfl⟩

theorem stock_replayAll {ts : List TemplateId} {n : Nat} {notices : List Notice}
    (done : replayAll ts s = .ok (n, notices, s')) : SameStock s s' := by
  induction ts generalizing s n notices with
  | nil =>
    simp only [replayAll, Except.ok.injEq, Prod.mk.injEq] at done
    exact done.2.2 ▸ .refl s
  | cons t rest ih =>
    obtain ⟨⟨o, u⟩, replayed, done⟩ := bind_eq_ok.mp done
    obtain ⟨⟨m, ns, v⟩, others, done⟩ := bind_eq_ok.mp done
    simp only [Except.ok.injEq, Prod.mk.injEq] at done
    obtain ⟨-, -, rfl⟩ := done
    exact (stock_replay replayed).trans (ih others)

end Store

end FactBase

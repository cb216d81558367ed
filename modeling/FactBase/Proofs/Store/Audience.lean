import FactBase.Modifier
import FactBase.Proofs.Store.Step

/-!
# Steps that leave the listeners alone

Whatever is done with facts, templates, patterns and matches, the registry of listeners stays as it
is. Only calls of the registry and the telling of events concern it.
-/

namespace FactBase.Store

variable {N : Type} {s s' : Store N} {h : Handle}

/-! ### Facts and templates -/

theorem listeners_createWith {t : TemplateId} {template : Template} {fields : List Field}
    (done : s.createWith t template fields = .ok (h, s')) : s'.listeners = s.listeners := by
  obtain ⟨templates, facts, -, -, rfl⟩ := createWith_eq_ok done
  rfl

theorem listeners_createFact {name : String} {r : Except StoreError Handle}
    (done : s.createFact name = .ok (r, s')) : s'.listeners = s.listeners := by
  obtain ⟨-, rfl⟩ | ⟨e, h, created, -⟩ := createFact_eq_ok done
  · rfl
  · obtain ⟨draws, drawn⟩ := defaultFields_eq e.id e.template.slots.zipIdx s
    rw [drawn] at created
    have same := listeners_createWith created
    exact same

theorem listeners_createOrdered {relation : String} {values : List Value}
    {r : Except StoreError Handle} (done : s.createOrdered relation values = .ok (r, s')) :
    s'.listeners = s.listeners := by
  obtain ⟨e, -, -, rfl⟩ | ⟨id, templates, template, h, -, created, -⟩ := createOrdered_eq_ok done
  · rfl
  · have same := listeners_createWith created
    exact same

theorem listeners_putSlotAt {position : Nat} {v : Value}
    (done : s.putSlotAt h position v = .ok s') : s'.listeners = s.listeners := by
  obtain ⟨f, -, done⟩ := bind_eq_ok.mp done
  split at done
  · cases done
  · split at done
    · cases done
    · obtain rfl := Except.ok.inj done
      rfl

theorem listeners_putSlot {slot : String} {v : Value} (done : s.putSlot h slot v = .ok s') :
    s'.listeners = s.listeners := by
  obtain ⟨f, -, done⟩ := bind_eq_ok.mp done
  split at done
  · cases done
  · exact listeners_putSlotAt done

theorem listeners_free (done : s.free h = .ok s') : s'.listeners = s.listeners := by
  obtain ⟨f, facts, atoms, templates, -, -, -, rfl⟩ := free_eq_ok done
  rfl

theorem listeners_discard {r : Except StoreError Unit} (done : s.discard h = .ok (r, s')) :
    s'.listeners = s.listeners := by
  obtain ⟨e, -, rfl⟩ | ⟨f, -, -, freed, -⟩ := discard_eq_ok done
  · rfl
  · exact listeners_free freed

theorem listeners_retain (done : s.retain h = .ok s') : s'.listeners = s.listeners := by
  obtain ⟨f, -, rfl⟩ := retain_eq_ok done
  rfl

theorem listeners_release {r : Except StoreError Unit} (done : s.release h = .ok (r, s')) :
    s'.listeners = s.listeners := by
  obtain ⟨-, -, rfl⟩ | ⟨f, -, -, -, rfl⟩ := release_eq_ok done
  · rfl
  · rfl

theorem listeners_installFields (s : Store N) (h : Handle) :
    (s.installFields h).listeners = s.listeners := by
  unfold installFields
  split <;> rfl

theorem listeners_install (done : s.install h = .ok s') : s'.listeners = s.listeners := by
  obtain ⟨u, retained, done⟩ := bind_eq_ok.mp done
  obtain rfl := Except.ok.inj done
  exact (listeners_installFields u h).trans (listeners_retain retained)

theorem listeners_deinstall {r : Except StoreError Unit} (done : s.deinstall h = .ok (r, s')) :
    s'.listeners = s.listeners := by
  obtain ⟨-, -, rfl⟩ | ⟨f, atoms, -, -, -, -, rfl⟩ := deinstall_eq_ok done
  · rfl
  · rfl

theorem listeners_collectFrom {hs : List Handle} {n : Nat}
    (done : collectFrom hs s = .ok (n, s')) : s'.listeners = s.listeners := by
  induction hs generalizing s n with
  | nil =>
    obtain ⟨-, rfl⟩ := Prod.mk.inj (Except.ok.inj done)
    rfl
  | cons h rest ih =>
    unfold Store.collectFrom at done
    split at done
    · cases done
    · split at done
      · obtain ⟨u, freed, done⟩ := bind_eq_ok.mp done
        obtain ⟨⟨m, v⟩, others, done⟩ := bind_eq_ok.mp done
        obtain ⟨-, rfl⟩ := Prod.mk.inj (Except.ok.inj done)
        exact (ih others).trans (listeners_free freed)
      · have same := ih done
        exact same

theorem listeners_collectGarbage {n : Nat} (done : s.collectGarbage = .ok (n, s')) :
    s'.listeners = s.listeners := by
  unfold Store.collectGarbage at done
  split at done
  · obtain ⟨-, rfl⟩ := Prod.mk.inj (Except.ok.inj done)
    rfl
  · obtain ⟨⟨m, u⟩, collected, done⟩ := bind_eq_ok.mp done
    obtain ⟨-, rfl⟩ := Prod.mk.inj (Except.ok.inj done)
    have same := listeners_collectFrom collected
    exact same

theorem listeners_maybeCollect (done : s.maybeCollect = .ok s') : s'.listeners = s.listeners := by
  unfold Store.maybeCollect at done
  split at done
  · obtain ⟨⟨n, u⟩, collected, rfl⟩ := map_eq_ok.mp done
    exact listeners_collectGarbage collected
  · obtain rfl := Except.ok.inj done
    rfl

theorem listeners_makeBuilder {name : String} {b : Builder}
    (done : Builder.make name s = .ok (b, s')) : s'.listeners = s.listeners := by
  obtain ⟨e, -, -, rfl⟩ := makeBuilder_eq_ok done
  rfl

theorem listeners_builderFields (b : Builder) (slots : List ((Slot × Option Value) × Nat))
    (s : Store N) : (b.fields slots s).2.listeners = s.listeners := by
  obtain ⟨draws, same⟩ := builderFields_eq b slots s
  rw [same]

theorem listeners_makeModifier {m : Modifier} (done : Modifier.make h s = .ok (m, s')) :
    s'.listeners = s.listeners := by
  obtain ⟨f, -, done⟩ := bind_eq_ok.mp done
  split at done
  · cases done
  · split at done
    · cases done
    · rename_i retained
      obtain ⟨-, rfl⟩ := Prod.mk.inj (Except.ok.inj done)
      exact listeners_retain retained

theorem listeners_defineTemplate {t : Template} {id : TemplateId}
    (done : s.defineTemplate t = .ok (id, s')) : s'.listeners = s.listeners := by
  obtain ⟨_, -, rfl⟩ := defineTemplate_eq_ok done
  rfl

theorem listeners_undefineTemplate {name : String} (done : s.undefineTemplate name = .ok s') :
    s'.listeners = s.listeners := by
  unfold undefineTemplate at done
  split at done
  · cases done
  · obtain rfl := Except.ok.inj done
    rfl

theorem listeners_drawDefault (s : Store N) (t : TemplateId) (position : Nat) :
    (s.drawDefault t position).2.listeners = s.listeners := by
  obtain ⟨draws, drawn⟩ := drawDefault_eq s t position
  rw [drawn]

/-! ### Lists -/

theorem listeners_link {t : TemplateId} {previous templatePrevious : Option Handle}
    (done : s.link t h previous templatePrevious = .ok s') : s'.listeners = s.listeners := by
  obtain ⟨⟨l, a⟩, -, done⟩ := bind_eq_ok.mp done
  obtain ⟨⟨m, b⟩, -, done⟩ := bind_eq_ok.mp done
  obtain rfl := Except.ok.inj done
  rfl

theorem listeners_attach {reuse : Option Nat} {hash : UInt64}
    {previous templatePrevious : Option Handle} {index : Nat}
    (done : s.attach h reuse hash previous templatePrevious = .ok (index, s')) :
    s'.listeners = s.listeners := by
  unfold attach at done
  split at done
  · cases done
  · rename_i f _
    have rest {i nextIndex : Nat} (done : (do
        let u := installFields { s with
          nextIndex
          facts := s.facts.update h fun f => { f with index := i, hash, busy := f.busy + 1 } } h
        let u ← { u with index := u.index.insert hash h }.link f.templateId h previous
          templatePrevious
        .ok (i, u)) = Except.ok (index, s')) : s'.listeners = s.listeners := by
      obtain ⟨u, linked, done⟩ := bind_eq_ok.mp done
      obtain ⟨-, rfl⟩ := Prod.mk.inj (Except.ok.inj done)
      exact (listeners_link linked).trans (listeners_installFields _ h)
    cases reuse with
    | none => exact rest done
    | some i =>
      dsimp only at done
      split at done
      · exact rest done
      · cases done

/-! ### Matches and patterns -/

variable [JoinNetwork N]

theorem listeners_matchFact {mode : MatchMode} {o : MatchOutcome}
    (done : s.matchFact h mode = .ok (o, s')) : s'.listeners = s.listeners := by
  obtain ⟨facts, network, probe, counters, evaluationError, rfl⟩ := matchFact_rest done
  rfl

theorem listeners_retractMatches {ids : List MatchId} {report : EvalError → Notice} {failed : Bool}
    {notices : List Notice} (done : s.retractMatches h ids report = .ok (failed, notices, s')) :
    s'.listeners = s.listeners := by
  obtain ⟨network, counters, evaluationError, rfl⟩ := retractMatches_eq_ok done
  rfl

theorem listeners_detach {d : Detached} (done : s.detach h = .ok (d, s')) :
    s'.listeners = s.listeners := by
  obtain ⟨f, index, u, -, -, unlinked, -, retracted⟩ := detach_eq_ok done
  obtain ⟨global, facts, templateLists, rfl⟩ := unlink_eq_ok unlinked
  have same := listeners_retractMatches retracted
  exact same

theorem listeners_replayFacts {t : TemplateId} {hs : List Handle} {o : ReplayOutcome}
    (done : replayFacts t hs s = .ok (o, s')) : s'.listeners = s.listeners := by
  induction hs generalizing s o with
  | nil =>
    obtain ⟨-, rfl⟩ := Prod.mk.inj (Except.ok.inj done)
    rfl
  | cons h rest ih =>
    unfold replayFacts at done
    split at done
    · exact ih done
    · obtain ⟨⟨m, u⟩, matched, done⟩ := bind_eq_ok.mp done
      have first := listeners_matchFact matched
      dsimp only at done
      split at done
      · obtain ⟨⟨notices, v⟩, withdrawn, done⟩ := bind_eq_ok.mp done
        obtain ⟨-, rfl⟩ := Prod.mk.inj (Except.ok.inj done)
        obtain ⟨⟨failed, ns, u'⟩, retracted, withdrawn⟩ := bind_eq_ok.mp withdrawn
        obtain ⟨-, rfl⟩ := Prod.mk.inj (Except.ok.inj withdrawn)
        have second := listeners_retractMatches retracted
        exact second.trans first
      · obtain ⟨⟨r, v⟩, replayed, done⟩ := bind_eq_ok.mp done
        obtain ⟨-, rfl⟩ := Prod.mk.inj (Except.ok.inj done)
        have others := ih replayed
        exact others.trans first

theorem listeners_replay {t : TemplateId} {o : ReplayOutcome} (done : s.replay t = .ok (o, s')) :
    s'.listeners = s.listeners := by
  obtain ⟨⟨o', u⟩, replayed, done⟩ := bind_eq_ok.mp done
  obtain ⟨-, rfl⟩ := Prod.mk.inj (Except.ok.inj done)
  have same := listeners_replayFacts replayed
  split <;> exact same

theorem listeners_addPattern {p : Pattern} {label : String} {r : Except PatternError EntryId}
    {notices : List Notice} (done : s.addPattern p label = .ok (r, notices, s')) :
    s'.listeners = s.listeners := by
  unfold addPattern at done
  split at done
  · obtain ⟨-, -, rfl⟩ := by simpa using done
    rfl
  · split at done
    · obtain ⟨-, -, rfl⟩ := by simpa using done
      rfl
    · rename_i id patterns _
      dsimp only at done
      split at done
      · obtain ⟨⟨o, u⟩, replayed, done⟩ := bind_eq_ok.mp done
        obtain ⟨-, -, rfl⟩ := by simpa using done
        have same := listeners_replay replayed
        exact same
      · obtain ⟨-, -, rfl⟩ := by simpa using done
        rfl

omit [JoinNetwork N] in
theorem listeners_removePattern {id : EntryId} (done : s.removePattern id = .ok s') :
    s'.listeners = s.listeners := by
  unfold removePattern at done
  split at done
  · cases done
  · obtain rfl := Except.ok.inj done
    rfl

theorem listeners_replayAll {ts : List TemplateId} {n : Nat} {notices : List Notice}
    (done : replayAll ts s = .ok (n, notices, s')) : s'.listeners = s.listeners := by
  induction ts generalizing s n notices with
  | nil =>
    obtain ⟨-, -, rfl⟩ := by simpa [replayAll] using done
    rfl
  | cons t rest ih =>
    obtain ⟨⟨o, u⟩, replayed, done⟩ := bind_eq_ok.mp done
    obtain ⟨⟨n', notices', v⟩, others, done⟩ := bind_eq_ok.mp done
    obtain ⟨-, -, rfl⟩ := by simpa using done
    exact (ih others).trans (listeners_replay replayed)

end FactBase.Store

import FactBase.Proofs.Store.Attach

/-!
# Notices of the steps

Steps that succeed report what the network was told and which tests failed. None of them reports a
broken invariant: only a step that breaks off does.
-/

namespace FactBase

/-- No notice of a broken invariant. -/
def Unbroken (ns : List Notice) : Prop := ∀ b, Notice.broken b ∉ ns

theorem unbroken_nil : Unbroken [] := fun _ => List.not_mem_nil

theorem Unbroken.append {ms ns : List Notice} (first : Unbroken ms) (second : Unbroken ns) :
    Unbroken (ms ++ ns) := by
  intro b inside
  rcases List.mem_append.mp inside with before | after
  · exact first b before
  · exact second b after

theorem Unbroken.cons {n : Notice} {ns : List Notice} (other : ∀ b, n ≠ .broken b)
    (rest : Unbroken ns) : Unbroken (n :: ns) := by
  intro b inside
  rcases List.mem_cons.mp inside with here | there
  · exact other b here.symm
  · exact rest b there

namespace Store

variable {N : Type} [JoinNetwork N] {s s' : Store N} {h : Handle}

theorem unbroken_deliverAll (h : Handle) (f : Fact) (ds : List Delivery) (n : N) :
    Unbroken (deliverAll h f ds n).1.notices := by
  induction ds generalizing n with
  | nil => exact unbroken_nil
  | cons d ds ih =>
    cases d with
    | matched entry markers => exact .cons (by simp) (ih _)
    | failed test => exact .cons (by simp) (ih n)

theorem unbroken_matchFact {mode : MatchMode} {o : MatchOutcome}
    (done : s.matchFact h mode = .ok (o, s')) : Unbroken o.notices := by
  unfold matchFact at done
  split at done
  · cases done
  · rename_i f _
    split at done
    · obtain ⟨rfl, -⟩ := Prod.mk.inj (Except.ok.inj done)
      exact unbroken_nil
    · obtain ⟨rfl, -⟩ := Prod.mk.inj (Except.ok.inj done)
      exact unbroken_deliverAll h f _ s.network

theorem unbroken_retractMatches {ids : List MatchId} {report : EvalError → Notice} {failed : Bool}
    {notices : List Notice} (other : ∀ e b, report e ≠ .broken b)
    (done : s.retractMatches h ids report = .ok (failed, notices, s')) : Unbroken notices := by
  unfold retractMatches at done
  split at done
  · obtain ⟨-, rfl, -⟩ := by simpa using done
    exact unbroken_nil
  · obtain ⟨⟨refusal, network⟩, -, done⟩ := bind_eq_ok.mp done
    cases refusal with
    | none =>
      obtain ⟨-, rfl, -⟩ := by simpa using done
      exact .cons (by simp) unbroken_nil
    | some e =>
      obtain ⟨-, rfl, -⟩ := by simpa using done
      exact .cons (by simp) (.cons (other e) unbroken_nil)

theorem unbroken_detach {d : Detached} (done : s.detach h = .ok (d, s')) : Unbroken d.notices := by
  obtain ⟨f, index, u, -, -, -, -, retracted⟩ := detach_eq_ok done
  exact unbroken_retractMatches (by simp) retracted

theorem unbroken_withdraw {ids : List MatchId} {notices : List Notice}
    (done : s.withdraw h ids = .ok (notices, s')) : Unbroken notices := by
  obtain ⟨⟨failed, ns, u⟩, retracted, done⟩ := bind_eq_ok.mp done
  obtain ⟨rfl, -⟩ := Prod.mk.inj (Except.ok.inj done)
  exact unbroken_retractMatches (by simp) retracted

theorem unbroken_replayFacts {t : TemplateId} {hs : List Handle} {o : ReplayOutcome}
    (done : replayFacts t hs s = .ok (o, s')) : Unbroken o.notices := by
  induction hs generalizing s o with
  | nil =>
    obtain ⟨rfl, -⟩ := Prod.mk.inj (Except.ok.inj done)
    exact unbroken_nil
  | cons h rest ih =>
    unfold replayFacts at done
    split at done
    · exact ih done
    · obtain ⟨⟨o, u⟩, matched, done⟩ := bind_eq_ok.mp done
      have first := unbroken_matchFact matched
      dsimp only at done
      split at done
      · obtain ⟨⟨notices, v⟩, withdrawn, done⟩ := bind_eq_ok.mp done
        obtain ⟨rfl, -⟩ := Prod.mk.inj (Except.ok.inj done)
        have halted : Unbroken [.replayHalted t] := .cons (by simp) unbroken_nil
        exact (first.append (unbroken_withdraw withdrawn)).append halted
      · obtain ⟨⟨r, v⟩, others, done⟩ := bind_eq_ok.mp done
        obtain ⟨rfl, rfl⟩ := Prod.mk.inj (Except.ok.inj done)
        exact first.append (ih others)

theorem unbroken_replay {t : TemplateId} {o : ReplayOutcome} (done : s.replay t = .ok (o, s')) :
    Unbroken o.notices := by
  obtain ⟨⟨r, u⟩, replayed, done⟩ := bind_eq_ok.mp done
  obtain ⟨rfl, -⟩ := Prod.mk.inj (Except.ok.inj done)
  exact unbroken_replayFacts replayed

theorem unbroken_addPattern {p : Pattern} {label : String} {r : Except PatternError EntryId}
    {notices : List Notice} (done : s.addPattern p label = .ok (r, notices, s')) :
    Unbroken notices := by
  unfold addPattern at done
  split at done
  · obtain ⟨-, rfl, -⟩ := by simpa using done
    exact unbroken_nil
  · split at done
    · obtain ⟨-, rfl, -⟩ := by simpa using done
      exact unbroken_nil
    · dsimp only at done
      split at done
      · obtain ⟨⟨o, u⟩, replayed, done⟩ := bind_eq_ok.mp done
        obtain ⟨-, rfl, -⟩ := by simpa using done
        exact unbroken_replay replayed
      · obtain ⟨-, rfl, -⟩ := by simpa using done
        exact unbroken_nil

theorem unbroken_replayAll {ts : List TemplateId} {n : Nat} {notices : List Notice}
    (done : replayAll ts s = .ok (n, notices, s')) : Unbroken notices := by
  induction ts generalizing s n notices with
  | nil =>
    obtain ⟨-, rfl, -⟩ := by simpa [replayAll] using done
    exact unbroken_nil
  | cons t rest ih =>
    obtain ⟨⟨o, u⟩, replayed, done⟩ := bind_eq_ok.mp done
    obtain ⟨⟨m, ns, v⟩, others, done⟩ := bind_eq_ok.mp done
    obtain ⟨-, rfl, rfl⟩ := by simpa using done
    exact (unbroken_replay replayed).append (ih others)

end Store

end FactBase

import FactBase.Proofs.Process.Operations

/-!
# Requests and clients

Every request is an operation that goes on by steps, and so does whatever clients make of requests.
What their requests uphold, they uphold.
-/

namespace FactBase

open Store Process

variable {N σ α : Type} [JoinNetwork N] {R : Condition N σ} {pending : Option Handle}
  {w : World N (Memo σ) (Store N)} {hooks : Hooks N (Memo σ) (Store N)}

theorem runs_perform (courteous : Courteous R hooks) (stepwise : Stepwise R none w)
    (current : Current w) (r : Request α) (upheld : r.UpheldAt w.store w.host.notes R) :
    Runs R none (r.perform hooks) w r.facts fun a w' =>
      (∀ h, r.made a = some h → w.store.get? h = none) ∧ SameGuard w w' := by
  have sound := stepwise.reachable.sound
  have nothing {a : Option Handle} {w' : World N (Memo σ) (Store N)} (none : a = none)
      (same : SameGuard w w') : (∀ h, a = some h → w.store.get? h = Option.none) ∧ SameGuard w w' :=
    ⟨fun h made => (by cases none.symm.trans made), same⟩
  have quietly {es : List Handle} {a : Option Handle} {s : Store N} (none : a = none)
      (stepwise : Stepwise R Option.none { w with store := s }) (quiet : Quiet es w.store s) :
      Stepwise R Option.none { w with store := s } ∧ Leaves es w.store s ∧
        (∀ h, a = some h → w.store.get? h = Option.none) ∧ SameGuard w { w with store := s } :=
    ⟨stepwise, quiet.leaves, nothing none quiet.alike.guarded⟩
  have errand {a : Option Handle} {s : Store N} (none : a = none) (errand : Errand w.store s)
      (quiet : Quiet [] w.store s) := quietly none (stepwise.errand errand) quiet
  cases r with
  | createFact template =>
    refine runs_step stepwise (fun a _ done => ?_) fun _ => .createFact
    obtain ⟨quiet, fresh⟩ := createFact_spec sound done
    exact ⟨stepwise.move (.chore (.createFact done))
      (upheld.makes (.created done) stepwise.holds stepwise.reached), quiet.leaves,
      fun h made => fresh h (toOption_eq_some.mp made), quiet.alike.guarded⟩
  | createOrdered relation values =>
    refine runs_step stepwise (fun a _ done => ?_) fun _ => .createOrdered
    obtain ⟨quiet, fresh⟩ := createOrdered_spec sound done
    exact ⟨stepwise.move (.chore (.createOrdered done))
      (upheld.makes (.ordered rfl done) stepwise.holds stepwise.reached), quiet.leaves,
      fun h made => fresh h (toOption_eq_some.mp made), quiet.alike.guarded⟩
  | putSlot h slot v =>
    exact runs_attemptChange stepwise (fun _ done =>
      quietly rfl (stepwise.move (.chore (.putSlot done))
        (upheld.kept done stepwise.holds stepwise.reached)) (putSlot_spec done)) fun _ => nothing rfl rfl
  | putSlotAt h position v =>
    exact runs_attemptChange stepwise (fun _ done =>
      quietly rfl (stepwise.move (.chore (.putSlotAt done))
        (upheld.kept done stepwise.holds stepwise.reached)) (putSlotAt_spec done)) fun _ => nothing rfl rfl
  | discard h =>
    exact runs_step stepwise (fun _ _ done =>
      quietly rfl (stepwise.move (.chore (.discard done))
        (upheld.kept done stepwise.holds stepwise.reached)) (discard_spec sound done)) fun _ => .discard
  | assertAt h position =>
    obtain ⟨assertive, rejected⟩ := upheld.kept
    refine (runs_assertAt courteous assertive stepwise id position ?_).mono
      (fun _ _ tidied => nothing rfl tidied.guard) (List.Subset.refl _)
    exact fun _ _ rejects found unattached done =>
      rejected rejects found unattached done stepwise.holds stepwise.reached
  | assertOrdered relation values =>
    exact (runs_assertOrdered courteous upheld.kept stepwise
      fun _ _ done => upheld.makes (.ordered rfl done)).mono
      (fun _ _ tidied => nothing rfl tidied.guard) (List.nil_subset _)
  | retract h =>
    exact (runs_retract courteous stepwise h).mono (fun _ _ tidied => nothing rfl tidied.guard)
      (List.nil_subset _)
  | retractAll rounds =>
    exact (runs_retractAll courteous rounds stepwise).mono (fun _ _ ⟨_, same⟩ => nothing rfl same)
      (List.nil_subset _)
  | clear rounds =>
    exact (runs_clear courteous rounds upheld.kept stepwise).mono (fun _ _ => nothing rfl)
      (List.nil_subset _)
  | modify h changes =>
    exact (runs_modifyFact courteous upheld.kept (fun _ => not_asserted_of_missing) rfl stepwise
      current fun _ _ _ _ _ _ patched facts next done =>
        upheld.makes (.copied rfl patched facts next done)).mono
        (fun _ _ tidied => nothing rfl tidied.guard) (List.nil_subset _)
  | duplicate h changes =>
    exact (runs_duplicateFact courteous upheld.kept stepwise
      fun _ _ _ _ _ _ patched facts next done =>
        upheld.makes (.copied rfl patched facts next done)).mono
        (fun _ _ tidied => nothing rfl tidied.guard) (List.nil_subset _)
  | collectGarbage =>
    exact (runs_collectGarbage stepwise).mono (fun _ _ ⟨_, same⟩ => nothing rfl same)
      (List.nil_subset _)
  | retain h =>
    exact runs_attemptChange stepwise (fun _ done =>
      quietly rfl (stepwise.move (.chore (.retain done))
        (upheld.kept done stepwise.holds stepwise.reached)) (retain_spec done)) fun _ => nothing rfl rfl
  | release h =>
    exact runs_step stepwise (fun _ _ done =>
      quietly rfl (stepwise.move (.release done) (upheld.kept done stepwise.holds stepwise.reached))
        (release_spec done)) fun _ => .release
  | install h =>
    exact runs_attemptChange stepwise (fun _ done =>
      quietly rfl (stepwise.move (.chore (.install done))
        (upheld.kept done stepwise.holds stepwise.reached)) (install_spec done)) fun _ => nothing rfl rfl
  | deinstall h =>
    exact runs_step stepwise (fun _ _ done =>
      quietly rfl (stepwise.move (.deinstall done)
        (upheld.kept.1 done stepwise.holds stepwise.reached)) (deinstall_spec done))
      fun _ => .deinstall fun text same => same ▸ upheld.kept.2 text
  | makeBuilder template =>
    exact runs_attempt stepwise (fun _ _ done =>
      quietly rfl (stepwise.move (.chore (.makeBuilder done))
        (upheld.kept done stepwise.holds stepwise.reached)) (makeBuilder_spec done))
      fun _ => nothing rfl rfl
  | commitBuilder b =>
    exact (runs_commitBuilder courteous upheld.kept stepwise
      fun current _ _ _ _ drawn done => upheld.makes (.built current drawn done)).mono
        (fun _ _ tidied => nothing rfl tidied.guard) (List.nil_subset _)
  | dropBuilder b =>
    exact runs_update (stepwise.move (.chore (.dropBuilder b w.store))
      (upheld.kept stepwise.holds stepwise.reached))
      (leaves_of_facts_eq rfl rfl)
      (nothing rfl rfl)
  | makeModifier h =>
    refine runs_attempt stepwise (fun _ _ done => ?_) fun _ => nothing rfl rfl
    obtain ⟨quiet, retained, -⟩ := makeModifier_spec done
    exact quietly rfl (stepwise.move (.chore (.retain retained))
      (upheld.kept retained stepwise.holds stepwise.reached)) quiet
  | commitModifier m =>
    obtain ⟨assertive, yields⟩ := upheld.kept
    exact (runs_commitModifier courteous assertive stepwise current m
      (fun _ _ _ _ _ _ patched facts next done =>
        upheld.makes (.copied rfl patched facts next done))
      fun _ _ done => yields done).mono (fun _ _ tidied => nothing rfl tidied.guard)
      (List.Subset.refl _)
  | abortModifier m =>
    exact (runs_unpinModifier stepwise m fun _ _ done => upheld.kept done).mono
      (fun _ _ ⟨_, _, _, same, _⟩ => nothing rfl same) (List.Subset.refl _)
  | addPattern p label =>
    exact (runs_addPattern stepwise upheld.kept).mono (fun _ _ => nothing rfl) (List.nil_subset _)
  | removePattern id =>
    exact runs_attemptChange stepwise (fun _ done =>
      quietly rfl (stepwise.move (.removePattern done)
        (upheld.kept stepwise.holds stepwise.reached done)) (removePattern_spec done))
      fun _ => nothing rfl rfl
  | replayNewPatterns =>
    exact (runs_replayNewPatterns stepwise upheld.kept).mono (fun _ _ => nothing rfl)
      (List.nil_subset _)
  | defineTemplate t =>
    exact runs_attempt stepwise (fun _ _ done =>
      quietly rfl (stepwise.move (.chore (.defineTemplate done))
        (upheld.makes (.defined done) stepwise.holds stepwise.reached)) (defineTemplate_spec done))
      fun _ => nothing rfl rfl
  | undefineTemplate name =>
    exact runs_attemptChange stepwise (fun _ done =>
      errand rfl (.undefineTemplate done) (undefineTemplate_spec sound done))
      fun _ => nothing rfl rfl
  | impliedTemplate relation =>
    refine runs_attempt stepwise (fun _ _ done => ?_) fun _ => nothing rfl rfl
    obtain ⟨⟨id, templates⟩, implied, same⟩ := map_eq_ok.mp done
    cases same
    exact quietly rfl (stepwise.move (.chore (.impliedTemplate implied))
      (upheld.makes (.implied implied) stepwise.holds stepwise.reached)) .unchanged
  | defineModule name imports =>
    refine runs_attemptChange stepwise (fun _ done => ?_) fun _ => nothing rfl rfl
    obtain ⟨templates, defined, rfl⟩ := map_eq_ok.mp done
    exact errand rfl (.defineModule defined) .unchanged
  | setCurrentModule name =>
    refine runs_attemptChange stepwise (fun _ done => ?_) fun _ => nothing rfl rfl
    obtain ⟨templates, current, rfl⟩ := map_eq_ok.mp done
    exact errand rfl (.setCurrentModule current) .unchanged
  | drawDefault t position =>
    refine runs_step stepwise (fun v s done => ?_) fun _ failed => nomatch failed
    obtain rfl : (w.store.drawDefault t position).2 = s := congrArg Prod.snd (Except.ok.inj done)
    exact errand rfl (.drawDefault w.store t position)
      (drawDefault_spec w.store t position)
  | intern a =>
    unfold Request.perform
    exact runs_update (stepwise.errand (.intern w.store a))
      (leaves_of_facts_eq rfl rfl)
      (nothing rfl rfl)
  | addListener name priority =>
    refine runs_attempt stepwise (fun _ _ done => ?_) fun _ => nothing rfl rfl
    obtain ⟨⟨id, listeners⟩, -, same⟩ := map_eq_ok.mp done
    cases same
    exact errand rfl (.listeners w.store listeners) .unchanged
  | removeListener name =>
    refine runs_step stepwise (fun _ _ done => ?_) fun _ failed => nomatch failed
    cases done
    exact errand rfl (.listeners w.store _) .unchanged
  | setAllowDuplicates allowed =>
    unfold Request.perform
    exact runs_update (stepwise.move (.allowDuplicates w.store allowed)
      (upheld.kept stepwise.holds stepwise.reached)) (leaves_of_facts_eq rfl rfl) (nothing rfl rfl)
  | setProbe change =>
    unfold Request.perform
    exact runs_update (stepwise.move (.probe w.store (change w.store.probe))
      (upheld.kept stepwise.holds stepwise.reached)) (leaves_of_facts_eq rfl rfl) (nothing rfl rfl)
  | clearEvaluationError =>
    unfold Request.perform
    exact runs_update (stepwise.errand (.clearEvaluationError w.store))
      (leaves_of_facts_eq rfl rfl)
      (nothing rfl rfl)

/-! ### Clients -/

theorem runs_look (stepwise : Stepwise R pending w) :
    Runs R pending look w [] fun _ => SameGuard w :=
  runs_getStore (ensures_bind (ensures_record (ensures_pure
    ⟨stepwise.look, .unchanged rfl rfl, rfl⟩)))

theorem runs_forget (stepwise : Stepwise R pending w) : Runs R pending forget w [] fun _ w' =>
    Current w' ∧ w'.store = w.store ∧ w'.host.notes = w.host.notes := by
  refine ⟨stepwise.same rfl rfl rfl, ⟨fun r f found _ strange _ => ?_, rfl⟩, ?_, rfl, rfl⟩
  · exact ⟨⟨f, found, rfl⟩, fun inside => strange (List.mem_of_mem_filter inside)⟩
  · exact fun h inside => (List.mem_filter.mp inside).2

omit [JoinNetwork N] in
/-- What a client may ask something of is attached, or the client made it. -/
theorem Spares.of_mayUse {hs : List Handle} {w w' : World N (Memo σ) (Store N)}
    (spares : Spares hs w w') (allowed : hs.all (mayUse w) = true) : Spares [] w w' := by
  refine ⟨fun r f found unattached strange _ => ?_, spares.contentHash⟩
  refine spares.facts r f found unattached strange fun inside => ?_
  have allowed := List.all_eq_true.mp allowed r inside
  simp [mayUse, found, unattached, strange] at allowed

omit [JoinNetwork N] in
/-- To remember a fact that was not there before spares all that were. -/
theorem Spares.remember {made : Option Handle} {w w' : World N (Memo σ) (Store N)}
    (spares : Spares [] w w') (fresh : ∀ h, made = some h → w.store.get? h = none) :
    Spares [] w { w' with host := { w'.host with made := made.toList ++ w'.host.made } } := by
  refine ⟨fun r f found unattached strange _ => ?_, spares.contentHash⟩
  obtain ⟨found', strange'⟩ := spares.facts r f found unattached strange (by simp)
  refine ⟨found', fun inside => ?_⟩
  rcases List.mem_append.mp inside with same | before
  · rw [fresh r (Option.mem_toList.mp same)] at found
    cases found
  · exact strange' before

theorem runs_ask (courteous : Courteous R hooks) (stepwise : Stepwise R none w) (r : Request α)
    (upheld : r.UpheldAt w.store w.host.notes R) :
    Runs R none (ask hooks r) w [] fun _ => SameGuard w := by
  unfold FactBase.ask
  refine (runs_forget stepwise).bind fun _ w₁ stepwise _ ⟨current, same, notes⟩ => ?_
  refine ensures_bind (show Ensures get w₁ _ _ from ?_)
  rw [← same, ← notes] at upheld
  have before : SameGuard w w₁ := congrArg Store.guarded same
  change Runs R none (if r.facts.all (mayUse w₁) then _ else _) w₁ _ _
  split
  · rename_i allowed
    refine ensures_bind (ensures_mono (runs_perform courteous stepwise current r upheld) ?_)
    rintro a w₂ ⟨stepwise, spares, fresh, after⟩
    exact ⟨stepwise.same rfl rfl rfl, (spares.of_mayUse allowed).remember fresh, after.trans before⟩
  · exact runs_pure stepwise before

/-! ### Scripts -/

omit [JoinNetwork N] in
/-- Pins do not matter to what is spared. -/
theorem Spares.setBusy (w : World N (Memo σ) (Store N)) (h : Handle) (busy : Nat) :
    Spares [] w { w with store := w.store.setBusy h busy } := by
  refine ⟨fun r f found _ strange _ => ⟨?_, strange⟩, rfl⟩
  rw [get?_update_facts r rfl]
  split
  · rename_i here
    subst here
    exact ⟨{ f with busy }, congrArg (Option.map _) found, rfl⟩
  · exact ⟨f, found, rfl⟩

theorem runs_breach (stepwise : Stepwise R pending w) {b : Breach} (fails : Fails R.excuses w.store b)
    {Q : α → World N (Memo σ) (Store N) → Prop} : Runs R pending (breach b) w [] Q :=
  ensures_bind (ensures_record (ensures_throw (E := Seen R) (stepwise.fail fails)))

theorem runs_pin (excused : ∀ b, R.excuses b) (stepwise : Stepwise R none w) (h : Handle)
    (takes : (Request.retain h).KeptAt w.store w.host.notes R) :
    Runs R none (Query.pin h) w [] fun _ => SameGuard w := by
  refine ensures_bind (ensures_attemptChange (fun s done => ?_) fun e failed => ?_)
  · have retained : Stepwise R none { w with store := s } :=
      stepwise.move (.chore (.retain done)) (takes done stepwise.holds stepwise.reached)
    obtain ⟨f, -, rfl⟩ := retain_eq_ok done
    exact ⟨retained, .setBusy w h _, rfl⟩
  · exact runs_breach stepwise (.pin (excused _) (retain_eq_error failed))

theorem runs_unpin (excused : ∀ b, R.excuses b) (stepwise : Stepwise R none w) (h : Handle)
    (yields : (Request.release h).KeptAt w.store w.host.notes R) :
    Runs R none (Query.unpin h) w [] fun _ => SameGuard w := by
  refine ensures_bind (ensures_step (fun r s done => ?_) fun b failed =>
    stepwise.fail (.release failed))
  have released : Stepwise R none { w with store := s } :=
    stepwise.move (.release done) (yields done stepwise.holds stepwise.reached)
  obtain ⟨missing, rfl, rfl⟩ | ⟨f, -, -, rfl, rfl⟩ := release_eq_ok done
  · exact runs_breach stepwise (.unpin (excused _) missing)
  · exact ⟨released, .setBusy w h _, rfl⟩

theorem runs_pollHalt (stepwise : Stepwise R none w)
    (upheld : (Request.setProbe fun p => p.poll.2).KeptAt w.store w.host.notes R) :
    Runs R none pollHalt w [] fun _ => SameGuard w := by
  refine runs_getStore (ensures_bind (ensures_updateStore (ensures_pure ⟨?_, ?_, rfl⟩)))
  · exact stepwise.move (.probe w.store _) (upheld stepwise.holds stepwise.reached)
  · exact .of_leaves (leaves_of_facts_eq rfl rfl)

/-- Whatever a script does goes on by steps and leaves the guard as it finds it, and what its
requests uphold is upheld. -/
theorem Script.runs {ok : (α : Type) → Request α → Prop} {P : Store N → Prop}
    {p : Process N (Memo σ) (Store N) α} (script : Script ok p)
    (keeps : ∀ {α : Type} (r : Request α) (start : Store N), ok α r →
      r.UpheldFrom start (Always σ P))
    (stepwise : Stepwise (Always σ P) none w) :
    Runs (Always σ P) none p w [] fun _ => SameGuard w := by
  induction script generalizing w with
  | pure a => exact runs_pure stepwise rfl
  | bind _ _ first rest =>
    exact (first stepwise).followed fun a _ stepwise => rest a stepwise
  | look => exact runs_look stepwise
  | read => exact ⟨stepwise, .refl w, rfl⟩
  | poll querying => exact runs_pollHalt stepwise (keeps _ w.store querying.polls _).kept
  | consult => exact ⟨stepwise, .refl w, rfl⟩
  | note notes =>
    exact ⟨⟨stepwise.upheld, stepwise.reached, stepwise.holds,
      stepwise.seen.go rfl .refl stepwise.holds⟩, .unchanged rfl rfl, rfl⟩
  | giveUp => exact runs_throw stepwise _
  | ask listeners r allowed ih =>
    refine runs_ask ⟨fun id e _ stepwise => ih id e stepwise, fun id h w stepwise _ => ?_,
      fun id e _ _ => (listeners id e).rests⟩ stepwise r (keeps r w.store allowed _)
    refine ensures_mono
      (ih id _ ⟨stepwise.upheld, stepwise.reached, stepwise.holds, stepwise.seen⟩) ?_
    rintro _ _ ⟨⟨upheld, reached, holds, seen⟩, spares, -⟩
    exact ⟨⟨upheld, reached, holds, seen⟩, spares, trivial⟩
  | pin h querying =>
    exact runs_pin (fun _ => trivial) stepwise h (keeps (.retain h) w.store (querying.retains h) _).kept
  | unpin h querying =>
    exact runs_unpin (fun _ => trivial) stepwise h (keeps (.release h) w.store (querying.releases h) _).kept

/-- Listeners that are scripts uphold nothing in particular, and that they do. -/
theorem courteous_of_scripts {ok : (α : Type) → Request α → Prop}
    (scripts : ∀ id e, Script ok (hooks id e)) :
    Courteous (Always σ fun _ => True) hooks := by
  have kept {s s' : Store N} (_ : True) (_ : Step s s') : True := trivial
  refine ⟨fun id e w stepwise => ?_, fun id h w stepwise _ => ?_, fun id e _ _ => (scripts id e).rests⟩
  · exact (scripts id e).runs (fun r start _ => r.upheldFrom_of_kept kept start) stepwise
  · refine ensures_mono ((scripts id _).runs (fun r start _ => r.upheldFrom_of_kept kept start)
      ⟨stepwise.upheld, stepwise.reached, trivial, stepwise.seen⟩) ?_
    rintro _ _ ⟨⟨upheld, reached, holds, seen⟩, spares, -⟩
    exact ⟨⟨upheld, reached, holds, seen⟩, spares, trivial⟩

end FactBase

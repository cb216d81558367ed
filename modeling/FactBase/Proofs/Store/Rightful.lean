import FactBase.Proofs.Store.Breaking
import FactBase.Proofs.Store.Holdings

/-!
# What an alpha memory is handed back

An alpha memory breaks off if it is handed back a name that it has no record of, or one of another
fact. A fact base never does that: no operation breaks off for such a reason.
-/

namespace FactBase

/-- If it breaks off, then not over matches. -/
abbrev Rightful {α : Type} (x : Except Breach α) : Prop := BreaksOver (fun b => b.ofMatches = false) x

theorem rightful_of_plain (b : Breach) (plain : b.isPlain = true) : b.ofMatches = false := by
  rw [Breach.isPlain, Bool.and_eq_true, Bool.and_eq_true, Bool.not_eq_true'] at plain
  exact plain.1.1

theorem rightful_of_atomic (b : Breach) (atomic : b.ofAtoms = true) : b.ofMatches = false := by
  cases b with
  | atomNeverInstalled => rfl
  | _ => cases atomic

/-- An alpha memory breaks off over matches only. -/
theorem AlphaMemory.breaksOver_retract (h : Handle) (ids : List MatchId) (m : AlphaMemory) :
    BreaksOver (·.ofMatches = true) (JoinNetwork.retract h ids m) := by
  refine (breaksOver_foldlM (fun m id => ?_) ids _).map _
  unfold AlphaMemory.retractOne
  split
  · exact breaksOver_error rfl
  · split
    · exact breaksOver_ok _
    · exact breaksOver_error rfl

namespace Store

section

variable {N : Type} (s : Store N)

theorem rightful_gives (f : Fact) : Rightful (f.values.foldlM AtomTable.deinstall s.atoms) :=
  breaksOver_foldlM (AtomTable.breaksOver_deinstall rightful_of_atomic) _ _

theorem rightful_collectGarbage : Rightful s.collectGarbage :=
  breaksOver_collectGarbage rightful_of_plain (P := fun _ => True)
    (fun _ _ _ => rightful_gives _ _) (fun _ _ => trivial) (fun _ _ => trivial) trivial

theorem rightful_maybeCollect : Rightful s.maybeCollect :=
  breaksOver_maybeCollect rightful_of_plain (P := fun _ => True)
    (fun _ _ _ => rightful_gives _ _) (fun _ _ => trivial) (fun _ _ => trivial) trivial

end

/-! ### Operations that withdraw matches -/

variable {s : Store AlphaMemory} {h : Handle} {b : Books}

/-- What is held is what the memory has records of. -/
theorem InCustody.names_perm (custody : s.InCustody ({} : AlphaMemory) b) :
    s.network.names.Perm s.held := by
  have recorded := (AlphaMemory.names_of_deals custody.deals).2
  exact (List.perm_append_left_iff _).mp (recorded.symm.trans custody.given)

/-- Names that a fact holds are taken back. -/
theorem InCustody.rightful_retractMatches (custody : s.InCustody ({} : AlphaMemory) b)
    (consistent : s.Consistent) {u : Store AlphaMemory} (network : u.network = s.network)
    {ids : List MatchId} (inside : ids.Sublist (s.matchedOf h)) (report : EvalError → Notice) :
    Rightful (u.retractMatches h ids report) := by
  have once := (custody.matchedOf_nodup (AlphaMemory.neverReuses _) consistent h).sublist inside
  obtain ⟨m, taken⟩ : ∃ m, s.network.retract h ids = .ok m := by
    refine (AlphaMemory.names_of_deals custody.deals).1.retract_total once fun id given => ?_
    have held : (id, h) ∈ s.held :=
      (held_perm consistent custody.bare h).mem_iff.mpr
        (List.mem_append_left _ (List.mem_map.mpr ⟨id, inside.subset given, rfl⟩))
    obtain ⟨r, recorded, same⟩ := List.mem_map.mp (custody.names_perm.mem_iff.mpr held)
    obtain ⟨named, owned⟩ := Prod.mk.inj same
    exact ⟨r, recorded, named, owned⟩
  have accepted : JoinNetwork.retract h ids u.network = .ok (none, m) := by
    rw [network]
    exact map_eq_ok.mpr ⟨m, taken, rfl⟩
  unfold retractMatches
  split
  · exact breaksOver_ok _
  · rw [accepted]
    exact breaksOver_ok _

theorem InCustody.rightful_detach (custody : s.InCustody ({} : AlphaMemory) b)
    (consistent : s.Consistent) (h : Handle) : Rightful (s.detach h) := by
  unfold Store.detach
  split
  · exact breaksOver_error rfl
  · rename_i f found
    dsimp only
    split
    · exact breaksOver_error rfl
    · refine (breaksOver_unlink rightful_of_plain _ h f.templateId).bind fun ⟨p, tp, u⟩ unlinked => ?_
      dsimp only
      split
      · exact breaksOver_error rfl
      · obtain ⟨global, facts, templateLists, rfl⟩ := unlink_eq_ok unlinked
        have inside : f.matched.Sublist (s.matchedOf h) := by
          rw [matchedOf, found]
          exact .refl _
        refine (custody.rightful_retractMatches consistent ?_ inside _).bind fun _ _ =>
          breaksOver_ok _
        rfl

/-- A halted replay hands back what it has just delivered. -/
theorem InCustody.rightful_replayFacts (custody : s.InCustody ({} : AlphaMemory) b)
    (sound : s.Sound) {t : TemplateId} {hs : List Handle}
    (asserted : ∀ h ∈ hs, s.isAsserted h = true) : Rightful (Store.replayFacts t hs s) := by
  induction hs generalizing s b with
  | nil => exact breaksOver_ok _
  | cons h rest ih =>
    have others : ∀ k ∈ rest, s.isAsserted k = true :=
      fun k inside => asserted k (List.mem_cons_of_mem h inside)
    unfold Store.replayFacts
    split
    · exact ih custody sound others
    · refine (breaksOver_matchFact rightful_of_plain s h .replay).bind fun r matched => ?_
      obtain ⟨o, u⟩ := r
      obtain ⟨custody', more⟩ := custody.matchFact sound (asserted h List.mem_cons_self) matched
      have quiet := matchFact_spec matched
      have sound' := sound.quiet quiet
      dsimp only
      split
      · have inside : o.ids.Sublist (u.matchedOf h) := more ▸ List.sublist_append_right _ _
        have withdrawn : Rightful (u.withdraw h o.ids) := by
          refine (custody'.rightful_retractMatches sound'.toConsistent ?_ inside _).bind fun _ _ =>
            breaksOver_ok _
          rfl
        exact withdrawn.bind fun _ _ => breaksOver_ok _
      · have recorded : InCustody ({} : AlphaMemory) (b.giveAll o.ids h)
            { u with patterns := u.patterns.updateTree t (·.recordReplayed h) } := { custody' with }
        have kept : Quiet [] u { u with
            patterns := u.patterns.updateTree t (·.recordReplayed h) } := .unchanged
        exact (ih recorded (sound'.quiet kept) fun k inside =>
          (quiet.alike.isAsserted k).trans (others k inside)).bind fun _ _ => breaksOver_ok _

theorem InCustody.rightful_replay (custody : s.InCustody ({} : AlphaMemory) b) (sound : s.Sound)
    (t : TemplateId) : Rightful (s.replay t) := by
  have guarded : InCustody ({} : AlphaMemory) b { s with guarded := true } := { custody with }
  refine (guarded.rightful_replayFacts ((Step.guarded s true).sound sound) fun h inside => ?_).bind
    fun _ _ => breaksOver_ok _
  obtain ⟨f, found, asserted, -⟩ := sound.mem_templateFacts.mp inside
  exact isAsserted_iff_exists.mpr ⟨f, found, asserted⟩

theorem InCustody.rightful_addPattern (custody : s.InCustody ({} : AlphaMemory) b) (sound : s.Sound)
    (p : Pattern) (label : String) : Rightful (s.addPattern p label) := by
  unfold Store.addPattern
  split
  · exact breaksOver_ok _
  · split
    · exact breaksOver_ok _
    · rename_i id patterns _
      have added : InCustody ({} : AlphaMemory) b { s with patterns } := { custody with }
      have kept : Quiet [] s { s with patterns } := .unchanged
      dsimp only
      split
      · exact (added.rightful_replay (sound.quiet kept) p.template).bind fun _ _ => breaksOver_ok _
      · exact breaksOver_ok _

theorem InCustody.rightful_replayAll (custody : s.InCustody ({} : AlphaMemory) b) (sound : s.Sound)
    (ts : List TemplateId) : Rightful (Store.replayAll ts s) := by
  induction ts generalizing s b with
  | nil => exact breaksOver_ok _
  | cons t rest ih =>
    refine (custody.rightful_replay sound t).bind fun ⟨o, u⟩ replayed => ?_
    obtain ⟨b', custody'⟩ := custody.replay (AlphaMemory.neverReuses _) sound replayed
    exact (ih custody' (sound.quiet (replay_spec sound replayed))).bind fun _ _ => breaksOver_ok _

/-- No operation breaks off because the memory does not have what it is handed back. -/
theorem InCustody.rightful_fails (custody : s.InCustody ({} : AlphaMemory) b) (sound : s.Sound)
    {x : Breach} {excuses : Breach → Prop} (fails : Fails excuses s x) : x.ofMatches = false := by
  cases fails with
  | createWith failed => exact breaksOver_createWith rightful_of_plain s _ _ _ x failed
  | createFact failed => exact breaksOver_createFact rightful_of_plain s _ x failed
  | createOrdered failed => exact breaksOver_createOrdered rightful_of_plain s _ _ x failed
  | discard failed =>
    exact breaksOver_discard rightful_of_plain (fun f _ _ => rightful_gives s f) x failed
  | free _ _ failed =>
    exact breaksOver_free rightful_of_plain (fun f _ _ => rightful_gives s f) x failed
  | release failed => exact breaksOver_release rightful_of_plain s _ x failed
  | deinstall _ failed =>
    exact breaksOver_deinstall rightful_of_plain (fun f _ => rightful_gives s f) x failed
  | collectGarbage failed => exact rightful_collectGarbage s x failed
  | maybeCollect failed => exact rightful_maybeCollect s x failed
  | detach failed => exact custody.rightful_detach sound.toConsistent _ x failed
  | matchFact _ failed => exact breaksOver_matchFact rightful_of_plain s _ _ x failed
  | addPattern failed => exact custody.rightful_addPattern sound _ _ x failed
  | replayNewPatterns failed => exact custody.rightful_replayAll sound _ x failed
  | pin | unpin => rfl

end Store

end FactBase

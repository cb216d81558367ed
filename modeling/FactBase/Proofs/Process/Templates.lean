import FactBase.Proofs.Process.Keepers
import FactBase.Proofs.Store.Templates

/-!
# Templates outlive their users

A client keeps a ledger of its live builders: it enters a builder that is made for it, and it drops
a builder only if one of the same template is live. Whatever it does otherwise, a template is
removed exactly if no stored fact, no live pattern entry and no live builder refers to it, and what
is in use never refers to a template that was removed.
-/

namespace FactBase

open Store Process TemplateRegistry

variable {N τ α : Type}

namespace Request

/-- The live builders once a request is answered. -/
def live : {α : Type} → Request α → α → List Builder → List Builder
  | _, .makeBuilder _, .ok b, live => b :: live
  | _, .dropBuilder b, (), live => live.eraseP (·.templateId == b.templateId)
  | _, _, _, live => live

end Request

namespace Store

variable {s s' : Store N} {live : List Builder}

/-- Templates count the live builders that were made from them, and these templates are defined. -/
structure Manned (live : List Builder) (s : Store N) : Prop where
  counted : ∀ x ∈ s.templates.roster, x.2.2 = live.countP (·.templateId == x.1)
  made : ∀ b ∈ live, (b.templateId, b.template) ∈ s.templates.catalogue

namespace Manned

theorem same (manned : s.Manned live) (same : SameRoster s.templates s'.templates) :
    s'.Manned live := by
  refine ⟨?_, ?_⟩
  · rw [same.roster]
    exact manned.counted
  · rw [same.catalogue]
    exact manned.made

/-- A template that is defined has no builders yet, and one that is removed has none left. -/
theorem recast (manned : s.Manned live) (tallied : s.Tallied) (recasts : Recasts s s') :
    s'.Manned live := by
  cases recasts with
  | kept same => exact manned.same same
  | @defined t _ roster nextId =>
    refine ⟨fun x inside => ?_, fun b inside => ?_⟩
    · rw [roster] at inside
      rcases List.mem_append.mp inside with before | new
      · exact manned.counted x before
      · rw [List.mem_singleton.mp new, eq_comm, List.countP_eq_zero]
        intro b inside same
        obtain ⟨e, defined, number, -⟩ := mem_catalogue.mp (manned.made b inside)
        have issued := tallied.issued e.id (List.mem_map_of_mem defined)
        rw [number, beq_iff_eq.mp same] at issued
        exact Nat.lt_irrefl _ issued
    · rw [catalogue_eq, roster, List.map_append, ← catalogue_eq]
      exact List.mem_append_left _ (manned.made b inside)
  | @undefined name e named unused roster nextId =>
    have inside := List.mem_of_find?_eq_some named
    have none : live.countP (·.templateId == e.id) = 0 := by
      have counted := manned.counted _ (List.mem_map_of_mem inside)
      dsimp only at counted
      omega
    refine ⟨fun x inside => ?_, fun b inside => ?_⟩
    · rw [roster] at inside
      exact manned.counted x (List.mem_filter.mp inside).1
    · have other : (b.templateId != e.id) = true := by
        have missing := List.countP_eq_zero.mp none b inside
        simpa using missing
      obtain ⟨x, listed, same⟩ := List.mem_map.mp (catalogue_eq _ ▸ manned.made b inside)
      rw [catalogue_eq, roster]
      refine List.mem_map.mpr ⟨x, List.mem_filter.mpr ⟨listed, ?_⟩, same⟩
      rwa [(Prod.mk.inj same).1]

/-- The builders of one template are counted anew. -/
theorem recount {live' : List Builder} (manned : s.Manned live) {id : TemplateId}
    (count : Nat → Nat)
    (here : live'.countP (·.templateId == id) = count (live.countP (·.templateId == id)))
    (elsewhere : ∀ t, t ≠ id →
      live'.countP (·.templateId == t) = live.countP (·.templateId == t))
    (made : ∀ b ∈ live', (b.templateId, b.template) ∈ s.templates.catalogue) :
    Manned live' { s with templates := s.templates.update id fun e =>
      { e with builders := count e.builders } } := by
  refine ⟨fun x inside => ?_, fun b inside => ?_⟩
  · obtain ⟨e, changed, rfl⟩ := List.mem_map.mp inside
    obtain ⟨e₀, listed, rfl⟩ := List.mem_map.mp changed
    have counted := manned.counted _ (List.mem_map_of_mem listed)
    dsimp only at counted ⊢
    split
    · rename_i same
      rw [beq_iff_eq.mp same] at counted ⊢
      rw [here, counted]
    · rename_i other
      rw [elsewhere _ fun same => other (beq_iff_eq.mpr same), counted]
  · have same : SameCatalogue s.templates (s.templates.update id fun e =>
        { e with builders := count e.builders }) := sameCatalogue_update s.templates id fun _ => rfl
    exact same.catalogue ▸ made b inside

theorem makeBuilder {name : String} {b : Builder} (manned : s.Manned live)
    (done : Builder.make name s = .ok (b, s')) : s'.Manned (b :: live) := by
  unfold Builder.make at done
  split at done
  · cases done
  · rename_i e named
    split at done
    · cases done
    · obtain ⟨rfl, rfl⟩ := Prod.mk.inj (Except.ok.inj done)
      refine manned.recount (· + 1) ?_ (fun t other => ?_) fun b inside => ?_
      · rw [List.countP_cons, if_pos (beq_self_eq_true e.id)]
      · rw [List.countP_cons, if_neg fun same => other (beq_iff_eq.mp same).symm, Nat.add_zero]
      · rcases List.mem_cons.mp inside with rfl | before
        · exact List.mem_map_of_mem (List.mem_of_find?_eq_some named)
        · exact manned.made b before

theorem dropBuilder {b : Builder} (manned : s.Manned live)
    (isLive : live.any (·.templateId == b.templateId) = true) :
    (b.drop s).Manned (live.eraseP (·.templateId == b.templateId)) := by
  obtain ⟨c, inside, same⟩ := List.any_eq_true.mp isLive
  obtain ⟨c, front, back, -, same, split, rest⟩ :=
    List.exists_of_eraseP (p := (·.templateId == b.templateId)) inside same
  refine manned.recount (· - 1) ?_ (fun t other => ?_) fun b inside => ?_
  · rw [rest, split, List.countP_append, List.countP_append, List.countP_cons, if_pos same]
    omega
  · have passed : (c.templateId == t) = false :=
      beq_false_of_ne fun here => other (here.symm.trans (beq_iff_eq.mp same))
    rw [rest, split, List.countP_append, List.countP_append, List.countP_cons, passed]
    rfl
  · exact manned.made b (List.mem_of_mem_eraseP inside)

end Manned

/-! ### Requests -/

theorem Manned.attaches {h : Handle} {f : Fact} {index : Nat} (manned : s.Manned live)
    (attaches : Attaches h f index s s') : s'.Manned live := by
  obtain ⟨_, _, _, _, _, _, shape⟩ := attaches.rest
  exact manned.same (.of_eq (by rw [shape]))

theorem Manned.stock (manned : s.Manned live) (same : SameStock s s') : s'.Manned live :=
  manned.same (.of_eq same.templates)

variable [JoinNetwork N]

end Store

namespace Store

variable {s : Store N} {live : List Builder}

/-- A template can be removed exactly if no count of its users is positive. -/
theorem undefineTemplate_ok_iff {name : String} : (∃ s', s.undefineTemplate name = .ok s') ↔
    ∃ e, s.templates.byName? name = some e ∧ e.busy + s.templateShares e.id + e.builders = 0 := by
  constructor
  · rintro ⟨s', done⟩
    obtain ⟨e, named, unused, -⟩ := undefineTemplate_eq_ok done
    exact ⟨e, named, unused⟩
  · rintro ⟨e, named, unused⟩
    unfold undefineTemplate TemplateRegistry.undefine
    rw [named]
    dsimp only
    rw [unused, if_neg (Nat.lt_irrefl 0)]
    exact ⟨_, rfl⟩

/-- What a fact base that looks after its templates makes sure of while some builders are live. -/
structure Serves (live : List Builder) (s : Store N) : Prop where
  /-- Every stored fact counts, be it unattached, asserted or retracted. -/
  busy : ∀ t, s.templates.busyCount t = s.facts.values.countP (·.templateId == t)
  /-- A name and a number each stand for one template. -/
  named : ∀ e ∈ s.templates.entries,
    s.templates.byName? e.template.name = some e ∧ s.templates.entryOf? e.id = some e
  issued : ∀ e ∈ s.templates.entries, e.id.number < s.templates.nextId
  removable : ∀ name, (∃ s', s.undefineTemplate name = .ok s') ↔
    ∃ e, s.templates.byName? name = some e ∧ (∀ h f, s.get? h = some f → f.templateId ≠ e.id) ∧
      (∀ x ∈ s.patterns.owners, x.2 ≠ e.id) ∧ ∀ b ∈ live, b.templateId ≠ e.id
  facts : ∀ h f, s.get? h = some f → (s.templates.get? f.templateId).isSome
  trees : ∀ t tree, s.patterns.tree? t = some tree → (s.templates.get? t).isSome
  builders : ∀ b ∈ live, s.templates.get? b.templateId = some b.template

theorem templateShares_eq_zero (rooted : s.patterns.Rooted) (t : TemplateId) :
    s.templateShares t = 0 ↔ (∀ h f, s.get? h = some f → f.templateId ≠ t) ∧
      ∀ x ∈ s.patterns.owners, x.2 ≠ t := by
  rw [templateShares, Nat.add_eq_zero_iff, List.countP_eq_zero]
  refine and_congr ⟨fun none h f found same => ?_, fun none f inside same => ?_⟩ ?_
  · exact none f (Arena.mem_values found) (beq_iff_eq.mpr same)
  · obtain ⟨h, found⟩ := Arena.exists_of_mem_values inside
    exact none h f found (beq_iff_eq.mp same)
  · have planted := rooted.isSome_tree?_iff t
    constructor
    · intro bare x inside same
      rw [if_pos (planted.mpr ⟨x, inside, same⟩)] at bare
      cases bare
    · intro none
      refine if_neg fun some => ?_
      obtain ⟨x, inside, same⟩ := planted.mp some
      exact none x inside same

theorem busyCount_eq (tallied : s.Tallied) (t : TemplateId) :
    s.templates.busyCount t = s.facts.values.countP (·.templateId == t) := by
  rw [tallied.busy, Arena.census, List.countP_map]
  rfl

/-- Where users are counted properly, templates are removed properly. -/
theorem serves (tallied : s.Tallied) (furnished : s.Furnished) (manned : s.Manned live) :
    s.Serves live := by
  have numbered (e : TemplateEntry) (defined : e ∈ s.templates.entries) :
      s.templates.entryOf? e.id = some e := find?_eq_some_of_nodup tallied.once defined rfl
  refine ⟨busyCount_eq tallied, fun e defined => ⟨furnished.byName? defined, numbered e defined⟩,
    fun e defined => tallied.issued e.id (List.mem_map_of_mem defined), fun name => ?_,
    fun h f found => ?_, fun t tree found => ?_,
    fun b inside => get?_of_mem_catalogue tallied.once (manned.made b inside)⟩
  · refine undefineTemplate_ok_iff.trans (exists_congr fun e => and_congr_right fun named => ?_)
    have defined := List.mem_of_find?_eq_some named
    have busy := busyCount_eq tallied e.id
    rw [busyCount, numbered e defined] at busy
    have counted := manned.counted _ (List.mem_map_of_mem defined)
    dsimp only [Option.map_some, Option.getD_some] at busy counted
    rw [Nat.add_eq_zero_iff, Nat.add_eq_zero_iff, templateShares_eq_zero furnished.rooted, counted,
      List.countP_eq_zero]
    constructor
    · rintro ⟨⟨-, free⟩, none⟩
      exact ⟨free.1, free.2, fun b inside same => none b inside (beq_iff_eq.mpr same)⟩
    · rintro ⟨unused, bare, none⟩
      have idle : e.busy = 0 := by
        rw [busy, List.countP_eq_zero]
        intro f inside same
        obtain ⟨h, found⟩ := Arena.exists_of_mem_values inside
        exact unused h f found (beq_iff_eq.mp same)
      exact ⟨⟨idle, unused, bare⟩, fun b inside same => none b inside (beq_iff_eq.mp same)⟩
  · have busy := tallied.busy_pos found
    rw [busyCount] at busy
    cases here : s.templates.entryOf? f.templateId with
    | none =>
      rw [here] at busy
      cases busy
    | some e => rw [TemplateRegistry.get?, here]; rfl
  · obtain ⟨x, owned, rfl⟩ := (furnished.rooted.isSome_tree?_iff t).mp (found ▸ rfl)
    obtain ⟨y, listed, same⟩ := List.mem_map.mp (furnished.owned x owned)
    rw [← same, get?_of_mem_catalogue tallied.once listed]
    rfl

end Store

/-- Moves in a row define templates under new numbers only. -/
theorem ages_path [JoinNetwork N] {s s' : Store N} (path : Path s s') : Ages s s' := by
  induction path with
  | refl => exact .refl s
  | tail _ move ih => exact ih.trans move.ages

end FactBase

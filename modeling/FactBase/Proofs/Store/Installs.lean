import FactBase.Atoms
import FactBase.Fact
import FactBase.Arena
import FactBase.Proofs.Store.Linking

/-!
# Installed atoms

A fact that was ever asserted claims its atoms, each as often as it occurs in the fact's values. The
atom table counts how often an atom is installed. What an operation installs and takes back is said
through these two counts.
-/

namespace FactBase

namespace AtomTable

variable {t t' : AtomTable} {a b : Atom}

/-- How often an atom is installed. -/
def installs (t : AtomTable) (a : Atom) : Nat := ((t.entryOf? a).map (·.installs)).getD 0

theorem entryOf?_update (t : AtomTable) (a b : Atom) {f : AtomEntry → AtomEntry}
    (same : ∀ e, (f e).atom = e.atom) :
    (t.update a f).entryOf? b = if b = a then (t.entryOf? a).map f else t.entryOf? b := by
  refine (find?_map_update t.entries same a b).trans ?_
  simp only [beq_iff_eq, entryOf?]

theorem installs_installAtom (t : AtomTable) (lender : Option Lender) (a b : Atom) :
    (t.installAtom lender a).installs b = t.installs b + [a].count b := by
  rw [List.count_singleton]
  unfold installAtom installs
  cases found : t.entryOf? a with
  | some e =>
    rw [Option.isSome_some, if_pos rfl, entryOf?_update]
    swap
    · exact fun _ => rfl
    by_cases here : b = a
    · simp [here, found]
    · simp [here, Ne.symm here]
  | none =>
    simp only [Option.isSome_none, Bool.false_eq_true, if_false]
    simp only [entryOf?, List.find?_append] at found ⊢
    by_cases here : b = a
    · subst here
      simp [found]
    · have other : (a == b) = false := beq_false_of_ne (Ne.symm here)
      simp [other]

theorem installs_install (t : AtomTable) (lender : Option Lender) (v : Value) (b : Atom) :
    (t.install lender v).installs b = t.installs b + v.atoms.count b := by
  unfold install
  induction v.atoms generalizing t with
  | nil => rfl
  | cons a rest ih =>
    rw [List.foldl_cons, ih, installs_installAtom, List.count_singleton, List.count_cons]
    omega

/-- Installing fields counts every atom of their values. -/
theorem installs_fields (fields : List Field) (lender : Field → Option Lender) (t : AtomTable)
    (b : Atom) :
    (fields.foldl (fun t field => t.install (lender field) field.value) t).installs b =
      t.installs b + (Value.allAtoms (fields.map (·.value))).count b := by
  induction fields generalizing t with
  | nil => simp [Value.allAtoms]
  | cons field rest ih =>
    rw [List.foldl_cons, ih, installs_install, List.map_cons, Value.allAtoms, List.count_append]
    omega

/-! ### Taking back -/

/-- An atom that is installed can be taken back once. -/
theorem deinstallAtom_total (installed : 0 < t.installs a) : ∃ t', t.deinstallAtom a = .ok t' := by
  unfold installs at installed
  unfold deinstallAtom
  cases found : t.entryOf? a with
  | none => simp [found] at installed
  | some e =>
    obtain ⟨atom, installs, lender⟩ := e
    cases installs with
    | zero => simp [found] at installed
    | succ n => exact ⟨_, rfl⟩

theorem installs_deinstallAtom (done : t.deinstallAtom a = .ok t') (b : Atom) :
    t'.installs b + [a].count b = t.installs b := by
  unfold deinstallAtom at done
  split at done
  · rename_i n _ found
    obtain rfl := Except.ok.inj done
    rw [List.count_singleton, installs, installs, entryOf?_update]
    swap
    · exact fun _ => rfl
    by_cases here : b = a
    · simp [here, found]
    · simp [here, Ne.symm here]
  · cases done

theorem installs_deinstallAtoms {as : List Atom} (done : as.foldlM deinstallAtom t = .ok t')
    (b : Atom) : t'.installs b + as.count b = t.installs b := by
  induction as generalizing t with
  | nil =>
    obtain rfl := Except.ok.inj done
    rfl
  | cons a rest ih =>
    rw [List.foldlM_cons] at done
    obtain ⟨u, first, done⟩ := bind_eq_ok.mp done
    have before := installs_deinstallAtom first b
    have after := ih done
    rw [List.count_singleton] at before
    rw [List.count_cons]
    omega

/-- Atoms that are installed often enough can be taken back. -/
theorem deinstallAtoms_total {as : List Atom} (enough : ∀ b, as.count b ≤ t.installs b) :
    ∃ t', as.foldlM deinstallAtom t = .ok t' := by
  induction as generalizing t with
  | nil => exact ⟨t, rfl⟩
  | cons a rest ih =>
    have here := enough a
    rw [List.count_cons_self] at here
    obtain ⟨u, first⟩ := deinstallAtom_total (Nat.lt_of_lt_of_le (Nat.succ_pos _) here)
    obtain ⟨t', rest⟩ := ih (t := u) fun b => by
      have before := installs_deinstallAtom first b
      have bound := enough b
      rw [List.count_singleton] at before
      rw [List.count_cons] at bound
      omega
    refine ⟨t', ?_⟩
    rw [List.foldlM_cons, first]
    exact rest

theorem foldlM_deinstall (vs : List Value) (t : AtomTable) :
    vs.foldlM deinstall t = (Value.allAtoms vs).foldlM deinstallAtom t := by
  induction vs generalizing t with
  | nil => rfl
  | cons v rest ih =>
    rw [List.foldlM_cons, Value.allAtoms, List.foldlM_append]
    exact congrArg (t.deinstall v >>= ·) (funext ih)

/-! ### What takes nothing back -/

theorem installs_intern (t : AtomTable) (a b : Atom) : (t.intern a).installs b = t.installs b := by
  unfold intern
  split
  · rfl
  · rename_i unknown
    rw [Option.not_isSome_iff_eq_none] at unknown
    unfold installs
    simp only [entryOf?, List.find?_append] at unknown ⊢
    by_cases here : b = a
    · subst here
      simp [unknown]
    · have other : (a == b) = false := beq_false_of_ne (Ne.symm here)
      simp [other]

theorem installs_settle (t : AtomTable) (lender : Lender) (b : Atom) :
    (t.settle lender).installs b = t.installs b := by
  unfold settle installs entryOf?
  have same : ∀ e : AtomEntry, (if e.lender == some lender then { e with lender := none } else e).atom =
      e.atom ∧ (if e.lender == some lender then { e with lender := none } else e).installs =
        e.installs := by
    intro e
    split <;> exact ⟨rfl, rfl⟩
  simp only [List.find?_map, Option.map_map]
  have key : ((fun e : AtomEntry => e.atom == b) ∘ fun e : AtomEntry =>
      if e.lender == some lender then { e with lender := none } else e) = fun e => e.atom == b := by
    funext e
    simp only [Function.comp_apply, (same e).1]
  have count : ((fun e : AtomEntry => e.installs) ∘ fun e : AtomEntry =>
      if e.lender == some lender then { e with lender := none } else e) = fun e => e.installs := by
    funext e
    simp only [Function.comp_apply, (same e).2]
  rw [key, count]

/-- A sweep drops only atoms that are not installed. -/
theorem installs_sweep (t : AtomTable) (inUse : Atom → Bool) (b : Atom) :
    t.installs b ≤ (t.sweep inUse).installs b := by
  unfold sweep installs entryOf?
  dsimp only
  induction t.entries with
  | nil => exact Nat.le_refl 0
  | cons e rest ih =>
    by_cases here : (e.atom == b) = true
    · rw [List.find?_cons_of_pos (p := fun x : AtomEntry => x.atom == b) here]
      by_cases installed : 0 < e.installs
      · rewrite [List.filter_cons_of_pos (by simp [installed]),
          List.find?_cons_of_pos (p := fun x : AtomEntry => x.atom == b) here]
        exact Nat.le_refl _
      · simp [Nat.eq_zero_of_not_pos installed]
    · rw [List.find?_cons_of_neg (p := fun x : AtomEntry => x.atom == b) here]
      refine Nat.le_trans ih ?_
      rw [List.filter_cons]
      split
      · rewrite [List.find?_cons_of_neg (p := fun x : AtomEntry => x.atom == b) here]
        exact Nat.le_refl _
      · exact Nat.le_refl _

end AtomTable

/-! ### Claims -/

/-- The atoms a fact has installed once it was ever asserted. -/
def Fact.claims (f : Fact) : List Atom := if f.index = 0 then [] else Value.allAtoms f.values

theorem Fact.claims_of_unattached {f : Fact} (unattached : f.isUnattached = true) : f.claims = [] :=
  if_pos (Fact.isUnattached_iff.mp unattached).1

theorem Fact.claims_comp_bare : Fact.claims ∘ Fact.bare = Fact.claims := rfl

/-- A fact that goes gives back what it claims. -/
theorem Fact.installs_given {f : Fact} {t t' : AtomTable}
    (given : (if f.index = 0 then .ok t else f.values.foldlM AtomTable.deinstall t) = .ok t')
    (a : Atom) : t'.installs a + f.claims.count a = t.installs a := by
  unfold Fact.claims
  by_cases unnumbered : f.index = 0
  · rw [if_pos unnumbered] at given ⊢
    rw [← Except.ok.inj given, List.count_nil, Nat.add_zero]
  · rw [if_neg unnumbered] at given ⊢
    rw [AtomTable.foldlM_deinstall] at given
    exact AtomTable.installs_deinstallAtoms given a

namespace Arena

/-- What the stored facts have installed. -/
def claims (facts : Arena Fact) : List Atom := facts.values.flatMap Fact.claims

variable {a b : Arena Fact} {h : Handle} {f g : Fact}

theorem claims_congr (same : ∀ h, (b.get? h).elim [] Fact.claims = (a.get? h).elim [] Fact.claims) :
    b.claims = a.claims :=
  flatMap_values_congr same

/-- A stored fact claims no more than all do. -/
theorem count_claims_le (found : a.get? h = some f) (x : Atom) :
    f.claims.count x ≤ a.claims.count x :=
  (List.sublist_flatten_of_mem (List.mem_map_of_mem (mem_values found))).count_le x

/-- Changing a fact changes what it claims. -/
theorem count_claims_update (found : a.get? h = some f) (u : Fact → Fact) (x : Atom) :
    (a.update h u).claims.count x + f.claims.count x =
      a.claims.count x + (u f).claims.count x := by
  obtain ⟨front, back, before, after⟩ := values_split found
  have changed : (a.update h u).values = front ++ u f :: back := by
    unfold update
    rw [found, values]
    simpa using after ⟨h.generation, some (u f)⟩
  rw [claims, claims, changed, before]
  simp only [List.flatMap_append, List.flatMap_cons, List.count_append]
  omega

theorem claims_update (found : a.get? h = some f) {u : Fact → Fact} (same : (u f).claims = f.claims)
    (x : Atom) : (a.update h u).claims.count x = a.claims.count x := by
  have counted := count_claims_update found u x
  rw [same] at counted
  exact Nat.add_right_cancel counted

theorem count_claims_remove? (removed : a.remove? h = some (f, b)) (x : Atom) :
    a.claims.count x = b.claims.count x + f.claims.count x := by
  rw [claims, claims, ((values_remove? removed).flatMap_right _).count_eq, List.flatMap_cons,
    List.count_append]
  omega

theorem count_claims_insert (tidy : a.Tidy) (inserted : a.insert f = (h, b)) (x : Atom) :
    b.claims.count x = a.claims.count x + f.claims.count x := by
  rw [claims, claims, ((values_insert tidy inserted).flatMap_right _).count_eq, List.flatMap_cons,
    List.count_append]
  omega

end Arena

theorem Relinked.claims {a b : Arena Fact} (relinked : Relinked a b) : b.claims = a.claims := by
  refine Arena.claims_congr fun h => ?_
  have same := congrArg (fun o : Option Fact => o.elim [] Fact.claims) (relinked.bare h)
  simpa only [Option.elim_map, Fact.claims_comp_bare] using same

/-- Where one fact stands instead of another, its claims do too. -/
theorem Replaced.count_claims {a b : Arena Fact} {h : Handle} {f g : Fact}
    (replaced : Replaced h g a b) (found : a.get? h = some f) (x : Atom) :
    b.claims.count x + f.claims.count x = a.claims.count x + g.claims.count x := by
  rw [← Arena.count_claims_update found fun _ => g]
  congr 2
  refine Arena.claims_congr fun k => ?_
  have same := congrArg (fun o : Option Fact => o.elim [] Fact.claims) (replaced.bare k)
  rw [Arena.get?_update]
  by_cases here : k = h
  · subst here
    have bare : g.bare.claims = g.claims := rfl
    simpa [found, bare, Fact.claims_comp_bare] using same
  · rw [if_neg here] at same ⊢
    simpa only [Option.elim_map, Fact.claims_comp_bare] using same

end FactBase

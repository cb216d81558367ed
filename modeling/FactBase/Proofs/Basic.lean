import Mathlib.Data.List.Nodup

/-!
# Results and look-ups

A row of steps that may break off succeeds if each of them does. A look-up finds what was put under
a key last. A search through a list goes on up to the first member that decides it.
-/

namespace FactBase

section Result

variable {ε α β : Type}

theorem bind_eq_ok {x : Except ε α} {f : α → Except ε β} {b : β} :
    (x >>= f) = .ok b ↔ ∃ a, x = .ok a ∧ f a = .ok b := by
  cases x with
  | error e => simp [bind, Except.bind]
  | ok a => simp [bind, Except.bind]

theorem bind_eq_error {x : Except ε α} {f : α → Except ε β} {e : ε} :
    (x >>= f) = .error e ↔ x = .error e ∨ ∃ a, x = .ok a ∧ f a = .error e := by
  cases x with
  | error e => simp [bind, Except.bind]
  | ok a => simp [bind, Except.bind]

theorem map_eq_ok {x : Except ε α} {f : α → β} {b : β} :
    x.map f = .ok b ↔ ∃ a, x = .ok a ∧ f a = b := by
  cases x with
  | error e => simp [Except.map]
  | ok a => simp [Except.map]

theorem map_eq_error {x : Except ε α} {f : α → β} {e : ε} : x.map f = .error e ↔ x = .error e := by
  cases x with
  | error e => simp [Except.map]
  | ok a => simp [Except.map]

theorem isOk_iff {x : Except ε Unit} : x.isOk = true ↔ x = .ok () := by
  cases x <;> simp [Except.isOk, Except.toBool]

theorem toOption_eq_some {x : Except ε α} {a : α} : x.toOption = some a ↔ x = .ok a := by
  cases x <;> simp [Except.toOption]

end Result

section Lookup

variable {α β : Type} [BEq α] [LawfulBEq α]

theorem lookup_filter_of_ne (xs : List (α × β)) {a b : α}
    (other : b ≠ a) : (xs.filter (·.1 != a)).lookup b = xs.lookup b := by
  induction xs with
  | nil => rfl
  | cons x xs ih =>
    obtain ⟨k, v⟩ := x
    by_cases here : k = a
    · subst here
      have passed : (b == k) = false := by simpa using other
      simp [List.lookup_cons, passed, ih]
    · simp [List.lookup_cons, here, ih]

theorem lookup_filter_self (xs : List (α × β)) (a : α) :
    (xs.filter (·.1 != a)).lookup a = none := by
  rw [List.lookup_eq_none_iff]
  intro x inside
  have other : x.1 ≠ a := by simpa using (List.mem_filter.mp inside).2
  simpa using other.symm

/-- Changing the value of one key changes what is found there. -/
theorem lookup_map_update (xs : List (α × β)) (a b : α) (f : β → β) :
    (xs.map fun x => (x.1, if x.1 == a then f x.2 else x.2)).lookup b =
      if b == a then (xs.lookup b).map f else xs.lookup b := by
  induction xs with
  | nil => simp
  | cons x xs ih =>
    obtain ⟨k, v⟩ := x
    rw [List.map_cons, List.lookup_cons, List.lookup_cons, ih]
    by_cases here : b = k
    · subst here
      cases b == a <;> simp
    · simp [beq_false_of_ne here]

/-- Changing the members of one key changes what is found under it. -/
theorem find?_map_update (xs : List β) {key : β → α} {f : β → β} (same : ∀ x, key (f x) = key x)
    (a b : α) : (xs.map fun x => if key x == a then f x else x).find? (key · == b) =
      if b == a then (xs.find? (key · == a)).map f else xs.find? (key · == b) := by
  induction xs with
  | nil => simp
  | cons x xs ih =>
    have kept : key (if key x == a then f x else x) = key x := by
      split
      · exact same x
      · rfl
    rw [List.map_cons, List.find?_cons, kept, ih, List.find?_cons, List.find?_cons]
    by_cases here : key x = b
    · subst here
      cases key x == a <;> simp
    · rw [beq_false_of_ne here]
      by_cases there : b = a
      · subst there
        simp [beq_false_of_ne here]
      · simp [there]

/-- Where no key comes twice, a member is found under its key. -/
theorem find?_eq_some_of_nodup {xs : List β} {key : β → α} (once : (xs.map key).Nodup) {x : β}
    (inside : x ∈ xs) {a : α} (named : key x = a) : xs.find? (key · == a) = some x := by
  cases found : xs.find? (key · == a) with
  | none =>
    have none := List.find?_eq_none.mp found x inside
    simp [named] at none
  | some y =>
    have same : key y = a := by simpa using List.find?_some found
    rw [List.inj_on_of_nodup_map once (List.mem_of_find?_eq_some found) inside
      (same.trans named.symm)]

/-- Where no key comes twice, taking the first member of a key away takes all. -/
theorem eraseP_eq_filter_of_nodup {xs : List β} {key : β → α} (once : (xs.map key).Nodup) (a : α) :
    xs.eraseP (key · == a) = xs.filter (key · != a) := by
  induction xs with
  | nil => rfl
  | cons x rest ih =>
    rw [List.map_cons, List.nodup_cons] at once
    by_cases here : key x = a
    · subst here
      rw [List.eraseP_cons_of_pos (by simp), List.filter_cons_of_neg (by simp), eq_comm,
        List.filter_eq_self]
      intro y hy
      exact bne_iff_ne.mpr fun same => once.1 (same ▸ List.mem_map.mpr ⟨y, hy, rfl⟩)
    · rw [List.eraseP_cons_of_neg (by simpa using here),
        List.filter_cons_of_pos (by simpa using here), ih once.2]

end Lookup

/-- Lists that give the same place by place give the same. -/
theorem flatMap_congr_getElem? {α β : Type} {xs ys : List α} {F : α → List β}
    (same : ∀ i : Nat, (xs[i]?).elim [] F = (ys[i]?).elim [] F) : xs.flatMap F = ys.flatMap F := by
  induction xs generalizing ys with
  | nil =>
    refine (List.flatMap_eq_nil_iff.mpr fun y hy => ?_).symm
    obtain ⟨i, here⟩ := List.mem_iff_getElem?.mp hy
    simpa [here] using (same i).symm
  | cons x xs ih =>
    cases ys with
    | nil =>
      refine List.flatMap_eq_nil_iff.mpr fun y hy => ?_
      obtain ⟨i, here⟩ := List.mem_iff_getElem?.mp hy
      simpa [here] using same i
    | cons y ys =>
      rw [List.flatMap_cons, List.flatMap_cons]
      have first : F x = F y := by simpa using same 0
      rw [first, ih fun i => by simpa using same (i + 1)]

section Search

variable {ε α : Type}

/-- What is looked at of a list in order, up to the first member that is accepted. -/
def upTo (accept : α → Bool) : List α → List α
  | [] => []
  | x :: rest => if accept x then [x] else x :: upTo accept rest

theorem filterAuxM_append (p : α → Except ε Bool) (xs acc : List α) :
    xs.filterAuxM p acc = (xs.filterAuxM p []).map (· ++ acc) := by
  induction xs generalizing acc with
  | nil => rfl
  | cons x rest ih =>
    unfold List.filterAuxM
    cases p x with
    | error e => rfl
    | ok accepted =>
      change rest.filterAuxM p _ = (rest.filterAuxM p _).map _
      rw [ih, ih (cond accepted [x] [])]
      cases rest.filterAuxM p [] with
      | error e => rfl
      | ok more => cases accepted <;> simp [Except.map]

theorem filterM_cons (p : α → Except ε Bool) (x : α) (rest : List α) :
    (x :: rest).filterM p = (do
      let accepted ← p x
      return (if accepted then [x] else []) ++ (← rest.filterM p)) := by
  unfold List.filterM
  rw [List.filterAuxM]
  cases p x with
  | error e => rfl
  | ok accepted =>
    change (rest.filterAuxM p _ >>= _) = (rest.filterAuxM p [] >>= _) >>= _
    rw [filterAuxM_append]
    cases rest.filterAuxM p [] with
    | error e => rfl
    | ok more => cases accepted <;> simp [Except.map, bind, Except.bind, pure, Except.pure]

theorem filterM_append (p : α → Except ε Bool) (xs ys : List α) :
    (xs ++ ys).filterM p = (do return (← xs.filterM p) ++ (← ys.filterM p)) := by
  induction xs with
  | nil =>
    rw [List.nil_append]
    change _ = (do return [] ++ (← ys.filterM p))
    cases ys.filterM p <;> rfl
  | cons x rest ih =>
    rw [List.cons_append, filterM_cons, filterM_cons, ih]
    simp [← List.append_assoc]

theorem isSome_findM? (p : α → Except ε Bool) (xs : List α) :
    (xs.findM? p).map (·.isSome) = xs.anyM p := by
  induction xs with
  | nil => rfl
  | cons x rest ih =>
    rw [List.findM?, List.anyM]
    cases p x with
    | error e => rfl
    | ok accepted =>
      cases accepted with
      | false => exact ih
      | true => rfl

end Search

end FactBase

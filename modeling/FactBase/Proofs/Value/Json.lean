import FactBase.Value.Json
import FactBase.Proofs.Basic

/-!
# Values as documents and back

A document is a value exactly if it is a scalar or an array of scalars. What is read from a document
is written as the same document, apart from unsigned integers beyond the signed range. What was
written is read again, as a value of the same form; it is the value that was written unless symbols
have turned into strings or infinite floats into the blank symbol.

The tagged form of values is not treated here.
-/

namespace FactBase

/-! ### Documents -/

/-- The integer or the float that a number stands for, whichever range an integer is held by. -/
def JsonNumber.content : JsonNumber → Int ⊕ Binary64
  | .signed n => .inl n.toInt
  | .unsigned n => .inl n.toNat
  | .float x => .inr x

/-- Whether a number is an integer of the signed range or a float as documents have them. -/
def JsonNumber.isKept : JsonNumber → Bool
  | .signed _ => true
  | .unsigned n => n.toNat < Nat.pow 2 63
  | .float x => x.isFinite

namespace Json

/-- The items of an array; any other document stands alone. -/
def leaves : Json → List Json
  | .array items => items
  | j => [j]

def isScalar : Json → Bool
  | .array _ | .object _ => false
  | _ => true

/-- Whether a scalar is kept by reading it; only numbers may be altered. -/
def isKept : Json → Bool
  | .number n => n.isKept
  | _ => true

/-- Documents that are the same but for the ranges by which their integers are held. -/
inductive Same : Json → Json → Prop
  | refl (j : Json) : Same j j
  | number {m n : JsonNumber} (same : m.content = n.content) : Same (.number m) (.number n)
  | array {items others : List Json} (same : List.Forall₂ Same items others) :
      Same (.array items) (.array others)

end Json

namespace Value

/-- The members of a multifield; any other value stands alone. -/
def leaves : Value → List Value
  | .multifield vs => vs
  | v => [v]

theorem leaves_of_single {v : Value} (single : v.isMultifield = false) : v.leaves = [v] := by
  cases v with
  | multifield vs => cases single
  | symbol | string | integer | float => rfl

/-- Whether the written form of a field tells which value it was. -/
def isKept : Value → Bool
  | .symbol s => s = "TRUE" || s = "FALSE" || s = "nil"
  | .float x => x.isFinite
  | _ => true

theorem toJsons_eq_map (vs : List Value) : toJsons vs = vs.map toJson := by
  induction vs with
  | nil => rfl
  | cons v vs ih => rw [toJsons, ih, List.map_cons]

theorem ofJsons_eq_ok {items : List Json} {vs : List Value} :
    ofJsons items = .ok vs ↔ List.Forall₂ (fun j v => ofJson j = .ok v) items vs := by
  induction items generalizing vs with
  | nil =>
    rw [ofJsons, List.forall₂_nil_left_iff, Except.ok.injEq, eq_comm]
  | cons j items ih =>
    rw [ofJsons, bind_eq_ok, List.forall₂_cons_left_iff]
    constructor
    · rintro ⟨v, first, rest⟩
      obtain ⟨us, others, same⟩ := bind_eq_ok.mp rest
      exact ⟨v, us, first, ih.mp others, (Except.ok.inj same).symm⟩
    · rintro ⟨v, us, first, others, rfl⟩
      exact ⟨v, first, bind_eq_ok.mpr ⟨us, ih.mpr others, rfl⟩⟩

/-- A scalar is read as a single field, and nothing else is. -/
theorem isMultifield_ofJson {j : Json} {v : Value} (read : ofJson j = .ok v) :
    v.isMultifield = false ↔ j.isScalar = true := by
  cases j with
  | null =>
    obtain rfl := Except.ok.inj read
    exact iff_of_true rfl rfl
  | bool b =>
    obtain rfl := Except.ok.inj read
    exact iff_of_true rfl rfl
  | number n =>
    obtain rfl := Except.ok.inj read
    refine iff_of_true ?_ rfl
    cases n with
    | signed n => rfl
    | unsigned n =>
      rw [ofJsonNumber]
      split <;> rfl
    | float x => rfl
  | string s =>
    obtain rfl := Except.ok.inj read
    exact iff_of_true rfl rfl
  | array items =>
    rw [ofJson] at read
    obtain ⟨vs, -, rest⟩ := bind_eq_ok.mp read
    split at rest
    · cases rest
    · obtain rfl := Except.ok.inj rest
      exact iff_of_false Bool.noConfusion Bool.noConfusion
  | object fields => cases read

theorem ofJson_scalar {j : Json} (scalar : j.isScalar = true) : ∃ v, ofJson j = .ok v := by
  cases j with
  | null | bool | number | string => exact ⟨_, rfl⟩
  | array | object => cases scalar

/-- The items of an array are scalars exactly if no multifield would be inside another. -/
theorem any_isMultifield_ofJsons {items : List Json} {vs : List Value}
    (read : List.Forall₂ (fun j v => ofJson j = .ok v) items vs) :
    vs.any isMultifield = false ↔ ∀ j ∈ items, j.isScalar = true := by
  induction read with
  | nil => simp
  | cons first _ ih =>
    rw [List.any_cons, Bool.or_eq_false_iff, ih, isMultifield_ofJson first, List.forall_mem_cons]

theorem ofJson_array_eq_ok {items : List Json} {v : Value} :
    ofJson (.array items) = .ok v ↔ (∀ j ∈ items, j.isScalar = true) ∧
      ∃ vs, v = .multifield vs ∧ List.Forall₂ (fun j u => ofJson j = .ok u) items vs := by
  rw [ofJson, bind_eq_ok]
  constructor
  · rintro ⟨vs, read, rest⟩
    have each := ofJsons_eq_ok.mp read
    split at rest
    · cases rest
    · rename_i single
      rw [Bool.not_eq_true, any_isMultifield_ofJsons each] at single
      exact ⟨single, vs, (Except.ok.inj rest).symm, each⟩
  · rintro ⟨scalars, vs, rfl, each⟩
    refine ⟨vs, ofJsons_eq_ok.mpr each, ?_⟩
    rw [(any_isMultifield_ofJsons each).mpr scalars]
    rfl

/-- Scalars and arrays of scalars are read, and nothing else. -/
theorem exists_ofJson_iff (j : Json) : (∃ v, ofJson j = .ok v) ↔ ∀ x ∈ j.leaves, x.isScalar = true := by
  cases j with
  | array items =>
    constructor
    · rintro ⟨v, read⟩
      exact (ofJson_array_eq_ok.mp read).1
    · intro scalars
      have each : ∃ vs, List.Forall₂ (fun j u => ofJson j = .ok u) items vs := by
        change ∀ x ∈ items, x.isScalar = true at scalars
        induction items with
        | nil => exact ⟨[], .nil⟩
        | cons j items ih =>
          rw [List.forall_mem_cons] at scalars
          obtain ⟨v, first⟩ := ofJson_scalar scalars.1
          obtain ⟨vs, others⟩ := ih scalars.2
          exact ⟨v :: vs, .cons first others⟩
      obtain ⟨vs, each⟩ := each
      exact ⟨.multifield vs, ofJson_array_eq_ok.mpr ⟨scalars, vs, rfl, each⟩⟩
  | object fields =>
    refine iff_of_false (fun ⟨_, read⟩ => by cases read) fun scalar => ?_
    exact Bool.noConfusion (scalar _ (List.mem_singleton_self _))
  | null | bool | number | string =>
    refine iff_of_true (ofJson_scalar rfl) fun x inside => ?_
    rw [List.mem_singleton.mp inside]
    rfl

/-! ### Reading and writing again -/

/-- Below the middle of their range, unsigned integers have the signs of their bits in common. -/
theorem toInt_toInt64 {n : UInt64} (small : n.toNat < Nat.pow 2 63) : n.toInt64.toInt = n.toNat := by
  change n.toBitVec.toInt = _
  rw [BitVec.toInt_eq_toNat_of_lt]
  · rfl
  · change 2 * n.toNat < 2 ^ 64
    have middle : Nat.pow 2 63 = 9223372036854775808 := rfl
    omega

/-- What is read from a scalar is written as that scalar. -/
theorem same_toJson_scalar {j : Json} {v : Value} (scalar : j.isScalar = true)
    (kept : j.isKept = true) (read : ofJson j = .ok v) : Json.Same v.toJson j := by
  cases j with
  | null =>
    obtain rfl := Except.ok.inj read
    exact .refl _
  | bool b =>
    obtain rfl := Except.ok.inj read
    cases b <;> exact .refl _
  | number n =>
    obtain rfl := Except.ok.inj read
    cases n with
    | signed n => exact .refl _
    | unsigned n =>
      have small : n.toNat < Nat.pow 2 63 := of_decide_eq_true kept
      rw [ofJsonNumber, if_pos small]
      exact .number (congrArg Sum.inl (toInt_toInt64 small))
    | float x =>
      have finite : x.isFinite = true := kept
      rw [ofJsonNumber, toJson, Json.ofBinary64, if_pos finite]
      exact .refl _
  | string s =>
    obtain rfl := Except.ok.inj read
    exact .refl _
  | array | object => cases scalar

theorem same_toJson {j : Json} {v : Value} (kept : ∀ x ∈ j.leaves, x.isKept = true)
    (read : ofJson j = .ok v) : Json.Same v.toJson j := by
  cases j with
  | array items =>
    obtain ⟨scalars, vs, rfl, each⟩ := ofJson_array_eq_ok.mp read
    rw [toJson, toJsons_eq_map]
    apply Json.Same.array
    rw [List.forall₂_map_left_iff]
    change ∀ x ∈ items, x.isKept = true at kept
    clear read
    induction each with
    | nil => exact .nil
    | cons first _ ih =>
      rw [List.forall_mem_cons] at scalars kept
      exact .cons (same_toJson_scalar scalars.1 kept.1 first) (ih scalars.2 kept.2)
  | object fields => cases read
  | null | bool | number | string =>
    exact same_toJson_scalar rfl (kept _ (List.mem_singleton_self _)) read

/-! ### Writing and reading again -/

/-- A value is read as another one that has the same written form. -/
structure Rewritten (v w : Value) : Prop where
  read : ofJson v.toJson = .ok w
  same : w.toJson = v.toJson
  kept : w = v ↔ v.isKept = true

/-- Three symbols stand for constants of documents; any other is written as a string. -/
theorem symbol_cases (s : String) : s = "TRUE" ∨ s = "FALSE" ∨ s = "nil" ∨
    isKept (.symbol s) = false ∧ toJson (.symbol s) = .string s := by
  by_cases yes : s = "TRUE"
  · exact .inl yes
  by_cases no : s = "FALSE"
  · exact .inr (.inl no)
  by_cases blank : s = "nil"
  · exact .inr (.inr (.inl blank))
  refine .inr (.inr (.inr ⟨by simp [isKept, yes, no, blank], ?_⟩))
  unfold toJson
  split <;> simp_all only [symbol.injEq, reduceCtorEq]

theorem toJson_float (x : Binary64) : toJson (.float x) = if x.isFinite then .number (.float x) else .null :=
  rfl

theorem isScalar_toJson {v : Value} (single : v.isMultifield = false) : v.toJson.isScalar = true := by
  cases v with
  | symbol s =>
    rcases symbol_cases s with rfl | rfl | rfl | ⟨-, written⟩
    · rfl
    · rfl
    · rfl
    · rw [written]
      rfl
  | string s => rfl
  | integer n => rfl
  | float x =>
    rw [toJson_float]
    split <;> rfl
  | multifield vs => cases single

theorem exists_rewritten_single {v : Value} (single : v.isMultifield = false) :
    ∃ w, Rewritten v w := by
  cases v with
  | symbol s =>
    rcases symbol_cases s with rfl | rfl | rfl | ⟨lost, written⟩
    · exact ⟨_, rfl, rfl, iff_of_true rfl rfl⟩
    · exact ⟨_, rfl, rfl, iff_of_true rfl rfl⟩
    · exact ⟨_, rfl, rfl, iff_of_true rfl rfl⟩
    · refine ⟨.string s, by rw [written, ofJson], by rw [written, toJson], ?_⟩
      exact iff_of_false Value.noConfusion (Bool.eq_false_iff.mp lost)
  | string s => exact ⟨.string s, rfl, rfl, iff_of_true rfl rfl⟩
  | integer n => exact ⟨.integer n, rfl, rfl, iff_of_true rfl rfl⟩
  | float x =>
    by_cases finite : x.isFinite = true
    · refine ⟨.float x, ?_, rfl, iff_of_true rfl finite⟩
      rw [toJson_float, if_pos finite, ofJson, ofJsonNumber]
    · refine ⟨nil, ?_, ?_, iff_of_false Value.noConfusion finite⟩
      · rw [toJson_float, if_neg finite, ofJson]
      · rw [toJson_float, if_neg finite]
        rfl
  | multifield vs => cases single

/-- Members are rewritten one by one. -/
theorem exists_rewritten_multifield {vs : List Value} (single : ∀ v ∈ vs, v.isMultifield = false) :
    ∃ ws, List.Forall₂ (fun j w => ofJson j = .ok w) (vs.map toJson) ws ∧
      ws.map toJson = vs.map toJson ∧ (ws = vs ↔ ∀ v ∈ vs, v.isKept = true) := by
  induction vs with
  | nil => exact ⟨[], .nil, rfl, by simp⟩
  | cons v vs ih =>
    rw [List.forall_mem_cons] at single
    obtain ⟨w, first⟩ := exists_rewritten_single single.1
    obtain ⟨ws, read, same, kept⟩ := ih single.2
    refine ⟨w :: ws, .cons first.read read, ?_, ?_⟩
    · rw [List.map_cons, List.map_cons, first.same, same]
    · rw [List.cons.injEq, first.kept, kept, List.forall_mem_cons]

theorem exists_rewritten {v : Value} (flat : ∀ x ∈ v.leaves, x.isMultifield = false) :
    ∃ w, ofJson v.toJson = .ok w ∧ w.toJson = v.toJson ∧
      (w = v ↔ ∀ x ∈ v.leaves, x.isKept = true) := by
  cases v with
  | multifield vs =>
    change ∀ x ∈ vs, x.isMultifield = false at flat
    obtain ⟨ws, read, same, kept⟩ := exists_rewritten_multifield flat
    refine ⟨.multifield ws, ?_, ?_, ?_⟩
    · rw [toJson, toJsons_eq_map]
      refine ofJson_array_eq_ok.mpr ⟨fun j inside => ?_, ws, rfl, read⟩
      obtain ⟨v, member, rfl⟩ := List.mem_map.mp inside
      exact isScalar_toJson (flat v member)
    · rw [toJson, toJson, toJsons_eq_map, toJsons_eq_map, same]
    · rw [multifield.injEq]
      exact kept
  | symbol | string | integer | float =>
    obtain ⟨w, read, same, kept⟩ := exists_rewritten_single (flat _ (List.mem_singleton_self _))
    refine ⟨w, read, same, kept.trans ?_⟩
    rw [leaves_of_single rfl, List.forall_mem_singleton]

/-- Scalars and arrays of scalars, and only these, are read as values. What is read is written as
the same document unless an unsigned integer is beyond the signed range. What is written of a value
without nested multifields is read as a value of the same written form, and this is the value itself
exactly if it has no symbols but those that stand for constants and no infinite floats. -/
theorem json_round_trips (j : Json) (v : Value) :
    ((∃ u, ofJson j = .ok u) ↔ ∀ x ∈ j.leaves, x.isScalar = true) ∧
    ((∀ x ∈ j.leaves, x.isScalar = true ∧ x.isKept = true) →
      ∃ u, ofJson j = .ok u ∧ Json.Same u.toJson j) ∧
    ((∀ x ∈ v.leaves, x.isMultifield = false) →
      ∃ w, ofJson v.toJson = .ok w ∧ w.toJson = v.toJson ∧
        (w = v ↔ ∀ x ∈ v.leaves, x.isKept = true)) := by
  refine ⟨exists_ofJson_iff j, fun kept => ?_, exists_rewritten⟩
  obtain ⟨u, read⟩ := (exists_ofJson_iff j).mpr fun x inside => (kept x inside).1
  exact ⟨u, read, same_toJson (fun x inside => (kept x inside).2) read⟩

/-- A list of constants comes back; a list with the symbol red comes back with a string. -/
theorem json_round_trips_red :
    let j : Json := .array [.number (.unsigned 5), .string "red", .bool true, .null]
    let v : Value := .multifield [.symbol "red", .symbol "nil", .float .nan]
    (∃ u, ofJson j = .ok u ∧ Json.Same u.toJson j) ∧
      ∃ w, ofJson v.toJson = .ok w ∧ w.toJson = v.toJson ∧ w ≠ v := by
  intro j v
  have trips := json_round_trips j v
  obtain ⟨w, read, same, kept⟩ := trips.2.2 (by decide)
  refine ⟨trips.2.1 (by decide), w, read, same, ?_⟩
  rw [Ne, kept]
  decide

end Value

end FactBase

import FactBase.Proofs.Slot.Ceiling
import FactBase.Proofs.Store.Schema

/-!
# Derived defaults

A default is derived from one constraint at a time, a value is checked against all of them. The
first of the values that are allowed need not have an allowed type or lie in the range, the type that
is preferred need not have a value in the range, and without a lower bound nought need not be in it.
Where none of this is the case, a derived default is a value that its slot takes.
-/

namespace FactBase

namespace Binary64

variable {x y z : Binary64}

theorem compare?_eq_lt :
    x.compare? y = some .lt ↔ x.isNaN = false ∧ y.isNaN = false ∧ x.rank < y.rank := by
  unfold compare?
  cases x.isNaN <;> cases y.isNaN <;> simp [Int.compare_eq_lt]

theorem compare?_eq_gt :
    x.compare? y = some .gt ↔ x.isNaN = false ∧ y.isNaN = false ∧ y.rank < x.rank := by
  unfold compare?
  cases x.isNaN <;> cases y.isNaN <;> simp [Int.compare_eq_gt]

end Binary64

namespace Constraints

variable {c : Constraints} {v : Value} {name : String} {isMulti : Bool}

/-- Whether a number lies between the bounds. -/
def spans (c : Constraints) (x : Binary64) : Bool :=
  !(c.least.any (x.compare? · == some .lt) || c.greatest.any (x.compare? · == some .gt))

theorem spans_iff {x : Binary64} : c.spans x = true ↔
    (∀ low, c.least = some low → x.compare? low ≠ some .lt) ∧
      ∀ high, c.greatest = some high → x.compare? high ≠ some .gt := by
  rw [spans, Bool.not_eq_true', Bool.or_eq_false_iff]
  cases c.least <;> cases c.greatest <;> simp

theorem spans_right {x : Binary64} (spanned : c.spans x = true) :
    c.greatest.any (x.compare? · == some .gt) = false := by
  rw [spans, Bool.not_eq_true', Bool.or_eq_false_iff] at spanned
  exact spanned.2

theorem checkField_eq_ok : c.checkField name v = .ok () ↔
    (∀ types, c.types = some types → v.type ∈ types) ∧
      (∀ values, c.values = some values → v ∈ values) ∧
      ∀ x, v.number? = some x → c.spans x = true := by
  have typed : c.types.any (!·.contains v.type) = false ↔
      ∀ types, c.types = some types → v.type ∈ types := by
    cases c.types <;> simp
  have allowed : c.values.any (!·.contains v) = false ↔
      ∀ values, c.values = some values → v ∈ values := by
    cases c.values <;> simp
  unfold checkField
  rw [← typed, ← allowed]
  cases c.types.any (!·.contains v.type)
  · cases c.values.any (!·.contains v)
    · cases v.number? with
      | none => simp
      | some x => cases spanned : c.spans x <;> simp_all [spans]
    · simp
  · simp

theorem checkFields_replicate (n : Nat) :
    c.checkFields name (List.replicate n v) = .ok () ↔ n = 0 ∨ c.checkField name v = .ok () := by
  induction n with
  | zero => simp [checkFields]
  | succ n ih =>
    rw [List.replicate_succ, checkFields]
    split
    · rename_i refused
      simp [refused]
    · rename_i passes
      simp [ih, passes]

/-- Whether a derived number starts from nought, for want of a number that bounds it below. -/
def startsAtZero (c : Constraints) : Bool :=
  match c.preferredType with
  | .integer => c.least.all (·.isNaN)
  | .float => c.least.isNone
  | .symbol | .string | .multifield => false

/-- What a default is derived from leads to a value that meets all constraints. -/
structure Leads (c : Constraints) (isMulti : Bool) : Prop where
  /-- If values are listed, the first one meets the other constraints as well. -/
  first : ∀ v, c.values.bind List.head? = some v → c.checkField "" v = .ok ()
  /-- It is one field unless it is a member. -/
  single : ∀ v, c.values.bind List.head? = some v → v.isMultifield = true → isMulti = true
  /-- Otherwise there is a value of the preferred type that meets them, -/
  nonempty : c.values.bind List.head? = none → ∃ v : Value, v.type = c.preferredType ∧
    v.isMultifield = false ∧ (∀ x, v.number? = some x → x.isNaN = false) ∧
    c.checkField "" v = .ok ()
  /-- and nought is not above the range where the range does not say where to start. -/
  zero : c.values.bind List.head? = none → c.startsAtZero = true →
    c.greatest.any (Binary64.zero.compare? · == some .gt) = false

/-- An integer is derived from a lower bound if there is one, and from nought otherwise. -/
theorem spans_derivedInteger {n : Int64} (spanned : c.spans (.ofInt n.toInt) = true)
    (zero : c.least.all (·.isNaN) = true →
      c.greatest.any (Binary64.zero.compare? · == some .gt) = false) :
    c.spans (.ofInt ((c.least.map Binary64.ceilInt64).getD 0).toInt) = true := by
  obtain ⟨below, above⟩ := spans_iff.mp spanned
  have fromZero (unbound : c.least.all (·.isNaN) = true) (high : Binary64)
      (given : c.greatest = some high) : Binary64.zero.compare? high ≠ some .gt := by
    have within := zero unbound
    rw [given] at within
    exact beq_eq_false_iff_ne.mp within
  rw [spans_iff]
  cases least : c.least with
  | none => exact ⟨fun _ absent => (Option.some_ne_none _ absent.symm).elim,
      fromZero (by rw [least]; rfl)⟩
  | some low =>
    rw [Option.map_some, Option.getD_some]
    cases number : low.isNaN with
    | true =>
      rw [show low.ceilInt64 = 0 by rw [Binary64.ceilInt64, if_pos number]]
      refine ⟨?_, fromZero (by rw [least]; exact number)⟩
      rintro _ ⟨⟩ lt
      rw [(Binary64.compare?_eq_lt.mp lt).2.1] at number
      exact Bool.false_ne_true number
    | false =>
      have reaches : low.rank ≤ (Binary64.ofInt n.toInt).rank := by
        by_contra short
        exact below low least (Binary64.compare?_eq_lt.mpr
          ⟨Binary64.isNaN_ofInt n, number, Int.not_le.mp short⟩)
      obtain ⟨up, nearest⟩ := Binary64.rank_le_ceilInt64 number reaches
      constructor
      · rintro _ ⟨⟩ lt
        exact up.not_gt (Binary64.compare?_eq_lt.mp lt).2.2
      · intro high given gt
        obtain ⟨-, bound, past⟩ := Binary64.compare?_eq_gt.mp gt
        exact above high given (Binary64.compare?_eq_gt.mpr
          ⟨Binary64.isNaN_ofInt n, bound, past.trans_le nearest⟩)

theorem spans_derivedFloat {y : Binary64} (spanned : c.spans y = true) (number : y.isNaN = false)
    (zero : c.least.isNone = true →
      c.greatest.any (Binary64.zero.compare? · == some .gt) = false) :
    c.spans (c.least.getD .zero) = true := by
  obtain ⟨below, above⟩ := spans_iff.mp spanned
  rw [spans_iff]
  cases least : c.least with
  | none =>
    refine ⟨fun _ absent => (Option.some_ne_none _ absent.symm).elim, fun high given => ?_⟩
    have within := zero (by rw [least]; rfl)
    rw [given] at within
    exact beq_eq_false_iff_ne.mp within
  | some low =>
    rw [Option.getD_some]
    constructor
    · rintro _ ⟨⟩ lt
      exact (Binary64.compare?_eq_lt.mp lt).2.2.ne rfl
    · intro high given gt
      obtain ⟨bounds, bound, past⟩ := Binary64.compare?_eq_gt.mp gt
      have reaches : low.rank ≤ y.rank := by
        by_contra short
        exact below low least (Binary64.compare?_eq_lt.mpr ⟨number, bounds, Int.not_le.mp short⟩)
      exact above high given (Binary64.compare?_eq_gt.mpr
        ⟨number, bound, past.trans_le reaches⟩)

theorem values_eq_none {values : List Value} (unlisted : c.values.bind List.head? = none)
    (given : c.values = some values) : values = [] := by
  rw [given] at unlisted
  exact List.head?_eq_none_iff.mp unlisted

theorem Leads.isMultifield_derivedField (leads : c.Leads isMulti)
    (many : c.derivedField.isMultifield = true) : isMulti = true := by
  unfold derivedField at many
  split at many
  · rename_i first listed
    exact leads.single first listed many
  · split at many <;> cases many

theorem Leads.checkField_derivedField (leads : c.Leads isMulti) (name : String) :
    c.checkField name c.derivedField = .ok () := by
  unfold derivedField
  split
  · rename_i first listed
    exact Slot.checkField_ok_rename name (leads.first first listed)
  · rename_i unlisted
    obtain ⟨v, typed, single, number, passes⟩ := leads.nonempty unlisted
    obtain ⟨types, values, range⟩ := checkField_eq_ok.mp passes
    have zero := leads.zero unlisted
    have absent : ∀ w, ∀ values, c.values = some values → w ∈ values := by
      intro w listed given
      have inside := values listed given
      rw [values_eq_none unlisted given] at inside
      cases inside
    rw [checkField_eq_ok]
    unfold startsAtZero at zero
    rw [← typed] at zero ⊢
    cases v with
    | multifield members => cases single
    | symbol s => exact ⟨types, absent _, fun _ none => nomatch none⟩
    | string s => exact ⟨types, absent _, fun _ none => nomatch none⟩
    | integer n =>
      refine ⟨types, absent _, ?_⟩
      rintro _ ⟨⟩
      exact spans_derivedInteger (range _ rfl) zero
    | float y =>
      refine ⟨types, absent _, ?_⟩
      rintro _ ⟨⟩
      exact spans_derivedFloat (range _ rfl) (number _ rfl) zero

/-- Symbols are preferred where they are allowed. -/
theorem preferredType_eq_symbol (allowed : ∀ types, c.types = some types → .symbol ∈ types) :
    c.preferredType = .symbol := by
  unfold preferredType
  split
  · rfl
  · rename_i types given
    exact if_pos (List.contains_iff_mem.mpr (allowed types given))

/-- Where the lower bound is no number, the range reaches down without end. -/
theorem spans_infinity {low : Binary64} (least : c.least = some low) (unbound : low.isNaN = true) :
    c.spans (.infinity true) = true := by
  rw [spans_iff]
  constructor
  · rintro other given lt
    obtain rfl := Option.some.inj (least.symm.trans given)
    rw [(Binary64.compare?_eq_lt.mp lt).2.1] at unbound
    exact Bool.false_ne_true unbound
  · intro high _ gt
    obtain ⟨-, bound, past⟩ := Binary64.compare?_eq_gt.mp gt
    have bottom : (Binary64.infinity true).rank = -Binary64.infinityMagnitude := by decide
    have finite : high.magnitude ≤ Binary64.infinityMagnitude := not_lt.mp (of_decide_eq_false bound)
    rw [bottom, Binary64.rank] at past
    split at past <;> omega

theorem leads_of_checkField_derivedField (passes : c.checkField name c.derivedField = .ok ())
    (single : c.derivedField.isMultifield = true → isMulti = true) : c.Leads isMulti := by
  constructor
  · intro first listed
    rw [derivedField, listed] at passes
    exact Slot.checkField_ok_rename "" passes
  · intro first listed
    rw [derivedField, listed] at single
    exact single
  · intro unlisted
    have passes := Slot.checkField_ok_rename "" passes
    rw [derivedField, unlisted] at passes
    obtain ⟨types, values, range⟩ := checkField_eq_ok.mp passes
    cases preferred : c.preferredType <;> rw [preferred] at passes types range
    case symbol => exact ⟨.nil, rfl, rfl, nofun, passes⟩
    case string => exact ⟨.string "", rfl, rfl, nofun, passes⟩
    case multifield => cases preferred.symm.trans (preferredType_eq_symbol types)
    case integer =>
      refine ⟨_, rfl, rfl, ?_, passes⟩
      rintro _ ⟨⟩
      exact Binary64.isNaN_ofInt _
    case float =>
      cases number : (c.least.getD .zero).isNaN with
      | false =>
        refine ⟨_, rfl, rfl, ?_, passes⟩
        rintro _ ⟨⟩
        exact number
      | true =>
        -- a number that is none is within every range, so that another value has to be found
        obtain ⟨low, least⟩ : ∃ low, c.least = some low := by
          cases least : c.least with
          | none =>
            rw [least] at number
            exact absurd number (by decide)
          | some low => exact ⟨low, rfl⟩
        rw [least] at number
        refine ⟨.float (.infinity true), rfl, rfl, ?_, checkField_eq_ok.mpr ⟨types, ?_, ?_⟩⟩
        · rintro _ ⟨⟩
          decide
        · intro listed given
          have inside := values listed given
          rw [values_eq_none unlisted given] at inside
          cases inside
        · rintro _ ⟨⟩
          exact spans_infinity least number
  · intro unlisted starts
    rw [derivedField, unlisted] at passes
    obtain ⟨-, -, range⟩ := checkField_eq_ok.mp passes
    unfold startsAtZero at starts
    cases preferred : c.preferredType <;> rw [preferred] at starts range
    case symbol => cases starts
    case string => cases starts
    case multifield => cases starts
    case integer =>
      have nought : (c.least.map Binary64.ceilInt64).getD 0 = 0 := by
        cases least : c.least with
        | none => rfl
        | some low =>
          rw [least] at starts
          exact if_pos starts
      have spanned := range (.ofInt ((c.least.map Binary64.ceilInt64).getD 0).toInt) rfl
      rw [nought] at spanned
      exact spans_right spanned
    case float =>
      have spanned := range (c.least.getD .zero) rfl
      rw [Option.isNone_iff_eq_none.mp starts] at spanned
      exact spans_right spanned

end Constraints

namespace Slot

variable {slot : Slot} {v : Value}

theorem check_eq_ok_single (single : slot.isMulti = false) : slot.check v = .ok () ↔
    v.isMultifield = false ∧ slot.constraints.checkField slot.name v = .ok () := by
  unfold check
  rw [single]
  cases v <;> simp [Value.isMultifield]

theorem check_eq_ok_multi (multi : slot.isMulti = true) : slot.check v = .ok () ↔
    ∃ members, v = .multifield members ∧ slot.constraints.minCount ≤ members.length ∧
      (∀ most, slot.constraints.maxCount = some most → members.length ≤ most) ∧
      slot.constraints.checkFields slot.name members = .ok () := by
  unfold check
  rw [multi]
  cases v with
  | multifield members => cases slot.constraints.maxCount <;> grind
  | _ => simp

/-- Exactly if what it is derived from leads to a value, or no member is needed, a derived default is
a value that the slot takes. -/
theorem check_derived_iff (derived : slot.default = .derived) (passes : slot.check v = .ok ())
    (draws : Nat) : (∃ d, slot.defaultValue? draws = some d ∧ slot.check d = .ok ()) ↔
      slot.isMulti = true ∧ slot.constraints.minCount = 0 ∨ slot.constraints.Leads slot.isMulti := by
  unfold defaultValue?
  rw [derived]
  cases kind : slot.isMulti with
  | false =>
    constructor
    · rintro ⟨_, ⟨⟩, taken⟩
      obtain ⟨single, passes⟩ := (check_eq_ok_single kind).mp taken
      refine .inr (Constraints.leads_of_checkField_derivedField passes fun many => ?_)
      exact absurd (single.symm.trans many) Bool.false_ne_true
    · rintro (⟨⟨⟩, -⟩ | leads)
      refine ⟨_, rfl, (check_eq_ok_single kind).mpr ⟨?_, leads.checkField_derivedField slot.name⟩⟩
      exact Bool.eq_false_iff.mpr fun many => Bool.false_ne_true (leads.isMultifield_derivedField many)
  | true =>
    obtain ⟨members, -, least, most, -⟩ := (check_eq_ok_multi kind).mp passes
    constructor
    · rintro ⟨_, ⟨⟩, taken⟩
      obtain ⟨_, ⟨⟩, -, -, passes⟩ := (check_eq_ok_multi kind).mp taken
      refine ((Constraints.checkFields_replicate _).mp passes).imp (⟨rfl, ·⟩) fun passes => ?_
      exact Constraints.leads_of_checkField_derivedField passes fun _ => rfl
    · intro met
      refine ⟨_, rfl, (check_eq_ok_multi kind).mpr ⟨_, rfl, ?_, ?_, ?_⟩⟩
      · rw [List.length_replicate]
      · rw [List.length_replicate]
        exact fun bound given => least.trans (most bound given)
      · rw [Constraints.checkFields_replicate]
        exact met.imp And.right (·.checkField_derivedField slot.name)

/-- One or more integers from 2.25 to 3. -/
def gauge : Slot where
  name := "x"
  isMulti := true
  constraints :=
    { types := some [.integer]
      least := some ⟨0x4002000000000000⟩
      greatest := some ⟨0x4008000000000000⟩
      minCount := 1 }

theorem check_derived_iff_gauge : (∃ d, gauge.defaultValue? 0 = some d ∧ gauge.check d = .ok ()) ↔
    gauge.isMulti = true ∧ gauge.constraints.minCount = 0 ∨ gauge.constraints.Leads gauge.isMulti :=
  check_derived_iff (v := .multifield [.integer 3]) rfl (by decide +kernel) 0

/-- An integer, of values the first of which is none. -/
def motley : Slot where
  name := "x"
  constraints := { types := some [.integer], values := some [.symbol "a", .integer 5] }

/-- A derived default need not be a value that its slot takes, although there is one. -/
theorem not_check_derived : ¬∀ (slot : Slot) (v : Value) (draws : Nat), slot.default = .derived →
    slot.check v = .ok () → ∃ d, slot.defaultValue? draws = some d ∧ slot.check d = .ok () := by
  intro legal
  obtain ⟨d, default, passes⟩ := legal motley (.integer 5) 0 rfl (by decide +kernel)
  obtain rfl := Option.some.inj default
  cases passes

end Slot

end FactBase

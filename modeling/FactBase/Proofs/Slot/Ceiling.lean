import FactBase.Binary64
import Mathlib.Data.Nat.Log
import Mathlib.Order.Monotone.Basic
import Mathlib.Tactic.Ring

/-!
# The least integer from a number on

An integer is compared with a number after it was rounded to one. The least integer from a number on
is still the best choice: rounded it does not fall below the number, and no integer that, rounded,
does not fall below the number either comes out less than it.
-/

namespace FactBase.Binary64

/-! ### Values -/

/-- The absolute value of the number of a magnitude, counted in the least positive number. -/
def units (magnitude : Nat) : Nat :=
  if magnitude / 2 ^ 52 = 0 then magnitude % 2 ^ 52
  else (magnitude % 2 ^ 52 + 2 ^ 52) * 2 ^ (magnitude / 2 ^ 52 - 1)

/-- The least positive number is a half to the power of this. -/
def depth : Nat := 1074

/-- How often one contains the least positive number. -/
def unity : Nat := 2 ^ depth

theorem unity_pos : 0 < unity := Nat.two_pow_pos depth

theorem two_pow_mul_unity (e : Nat) : 2 ^ e * unity = 2 ^ (e + depth) := (Nat.pow_add 2 e depth).symm

theorem units_zero : units 0 = 0 := rfl

theorem units_succ (m : Nat) : units (m + 1) = units m + 2 ^ (m / 2 ^ 52 - 1) := by
  unfold units
  by_cases carry : m % 2 ^ 52 = 2 ^ 52 - 1
  · have next : (m + 1) / 2 ^ 52 = m / 2 ^ 52 + 1 := by omega
    have rest : (m + 1) % 2 ^ 52 = 0 := by omega
    rw [next, rest, carry, if_neg (Nat.succ_ne_zero _), Nat.add_sub_cancel]
    by_cases small : m / 2 ^ 52 = 0
    · rw [if_pos small, small]
      norm_num
    · obtain ⟨e, exponent⟩ := Nat.exists_eq_succ_of_ne_zero small
      rw [if_neg small, exponent, Nat.succ_sub_one, Nat.pow_succ]
      omega
  · have same : (m + 1) / 2 ^ 52 = m / 2 ^ 52 := by omega
    have rest : (m + 1) % 2 ^ 52 = m % 2 ^ 52 + 1 := by omega
    rw [same, rest]
    by_cases small : m / 2 ^ 52 = 0
    · rw [if_pos small, if_pos small, small]
      rfl
    · rw [if_neg small, if_neg small]
      ring

theorem units_strictMono : StrictMono units := by
  refine strictMono_nat_of_lt_succ fun m => ?_
  rw [units_succ]
  exact Nat.lt_add_of_pos_right (Nat.two_pow_pos _)

/-- A number with its leading digit in place. -/
theorem units_normal {e q : Nat} (least : 2 ^ 52 ≤ q) (greatest : q < 2 ^ 53) :
    units (e * 2 ^ 52 + q) = q * 2 ^ e := by
  have exponent : (e * 2 ^ 52 + q) / 2 ^ 52 = e + 1 := by omega
  have fraction : (e * 2 ^ 52 + q) % 2 ^ 52 = q - 2 ^ 52 := by omega
  rw [units, exponent, fraction, if_neg (Nat.succ_ne_zero _), Nat.add_sub_cancel,
    Nat.sub_add_cancel least]

/-- The quotient that a number stands for is its value. -/
theorem units_ratio (x : Binary64) : units x.magnitude * x.ratio.2 = x.ratio.1 * unity := by
  have value : units x.magnitude = x.significand * 2 ^ (max x.exponentField 1 - 1) := by
    change units x.magnitude = (x.magnitude % 2 ^ 52 + if x.magnitude / 2 ^ 52 = 0 then 0 else 2 ^ 52) *
      2 ^ (max (x.magnitude / 2 ^ 52) 1 - 1)
    unfold units
    by_cases small : x.magnitude / 2 ^ 52 = 0
    · rw [if_pos small, if_pos small, small, Nat.add_zero]
      exact (Nat.mul_one _).symm
    · rw [if_neg small, if_neg small, Nat.max_eq_left (Nat.one_le_iff_ne_zero.mpr small)]
  have exponent : x.exponent = (max x.exponentField 1 : Nat) - 1075 := rfl
  rw [value, ratio, exponent]
  have positive : 1 ≤ max x.exponentField 1 := Nat.le_max_right _ _
  generalize max x.exponentField 1 = e at positive ⊢
  split
  · rename_i whole
    have split : ((e : Int) - 1075).toNat + depth = e - 1 := by rw [depth]; omega
    dsimp only [Nat.pow_eq]
    rw [Nat.mul_one, Nat.mul_assoc, two_pow_mul_unity, split]
  · rename_i part
    have split : e - 1 + (-((e : Int) - 1075)).toNat = depth := by rw [depth]; omega
    dsimp only [Nat.pow_eq]
    rw [Nat.mul_assoc, ← Nat.pow_add, split, unity]

/-! ### Rounding -/

/-- The magnitude of a natural number after rounding. -/
def rounded (k : Nat) : Nat :=
  if k = 0 then 0
  else (k.log2 + 1022) * 2 ^ 52 + roundHalfEven (k * 2 ^ (52 - k.log2)) (2 ^ (k.log2 - 52))

theorem roundHalfEven_cases {num den : Nat} (positive : 0 < den) :
    roundHalfEven num den = num / den ∨
      roundHalfEven num den = num / den + 1 ∧ 0 < num % den := by
  unfold roundHalfEven
  generalize num / den = q
  generalize num % den = r
  dsimp only
  split
  · exact .inl rfl
  · split
    · exact .inr ⟨rfl, by omega⟩
    · rcases Nat.mod_two_eq_zero_or_one q with even | odd
      · exact .inl (by omega)
      · exact .inr ⟨by omega, by omega⟩

/-- The leading 53 digits of a natural number. -/
theorem digits_bounds {k : Nat} (positive : k ≠ 0) :
    2 ^ 52 ≤ k * 2 ^ (52 - k.log2) / 2 ^ (k.log2 - 52) ∧
      k * 2 ^ (52 - k.log2) / 2 ^ (k.log2 - 52) < 2 ^ 53 := by
  have least : 2 ^ k.log2 ≤ k := Nat.log2_self_le positive
  have greatest : k < 2 ^ (k.log2 + 1) := Nat.lt_log2_self
  generalize k.log2 = e at least greatest ⊢
  rw [Nat.le_div_iff_mul_le (Nat.two_pow_pos _), Nat.div_lt_iff_lt_mul (Nat.two_pow_pos _),
    ← Nat.pow_add, ← Nat.pow_add]
  have low : e + (52 - e) = 52 + (e - 52) := by omega
  have high : e + 1 + (52 - e) = 53 + (e - 52) := by omega
  rw [← low, ← high, Nat.pow_add _ e, Nat.pow_add _ (e + 1)]
  exact ⟨Nat.mul_le_mul_right _ least, Nat.mul_lt_mul_of_pos_right greatest (Nat.two_pow_pos _)⟩

/-- Rounding chooses between the greatest magnitude not above and the next one. -/
theorem rounded_cases (k : Nat) : ∃ m, units m ≤ k * unity ∧ k * unity < units (m + 1) ∧
    (rounded k = m ∨ rounded k = m + 1 ∧ units m < k * unity) := by
  by_cases positive : k = 0
  · refine ⟨0, Nat.zero_le _, ?_, .inl (if_pos positive)⟩
    rw [positive, Nat.zero_mul]
    decide
  obtain ⟨least, greatest⟩ := digits_bounds positive
  have scale : 2 ^ (k.log2 + 1022) * 2 ^ (52 - k.log2) = 2 ^ (k.log2 - 52) * unity := by
    rw [two_pow_mul_unity, ← Nat.pow_add, depth]
    congr 1
    omega
  have cases := @roundHalfEven_cases (k * 2 ^ (52 - k.log2)) _ (Nat.two_pow_pos (k.log2 - 52))
  have division := Nat.div_add_mod' (k * 2 ^ (52 - k.log2)) (2 ^ (k.log2 - 52))
  have remainder := Nat.mod_lt (k * 2 ^ (52 - k.log2)) (Nat.two_pow_pos (k.log2 - 52))
  have grown : 0 < 2 ^ (52 - k.log2) := Nat.two_pow_pos _
  rw [rounded, if_neg positive]
  generalize k * 2 ^ (52 - k.log2) / 2 ^ (k.log2 - 52) = q at *
  generalize k * 2 ^ (52 - k.log2) % 2 ^ (k.log2 - 52) = r at *
  have above : units ((k.log2 + 1022) * 2 ^ 52 + q + 1) = (q + 1) * 2 ^ (k.log2 + 1022) := by
    have exponent : ((k.log2 + 1022) * 2 ^ 52 + q) / 2 ^ 52 - 1 = k.log2 + 1022 := by omega
    rw [units_succ, units_normal least greatest, exponent, Nat.succ_mul]
  -- compared after both sides were multiplied by what `k` was multiplied by to have its digits
  have scaled (c : Nat) : c * 2 ^ (k.log2 + 1022) * 2 ^ (52 - k.log2) =
      c * 2 ^ (k.log2 - 52) * unity := by rw [Nat.mul_assoc, scale, Nat.mul_assoc]
  have shifted : k * unity * 2 ^ (52 - k.log2) = k * 2 ^ (52 - k.log2) * unity :=
    Nat.mul_right_comm _ _ _
  refine ⟨(k.log2 + 1022) * 2 ^ 52 + q, ?_, ?_, cases.imp (congrArg _) fun ⟨up, part⟩ =>
    ⟨(congrArg _ up).trans (Nat.add_assoc _ _ _).symm, ?_⟩⟩
  · rw [units_normal least greatest]
    refine Nat.le_of_mul_le_mul_right ?_ grown
    rw [scaled, shifted]
    exact Nat.mul_le_mul_right _ (Nat.le.intro division)
  · rw [above]
    refine Nat.lt_of_mul_lt_mul_right (a := 2 ^ (52 - k.log2)) ?_
    rw [scaled, shifted, ← division, Nat.succ_mul]
    exact Nat.mul_lt_mul_of_pos_right (Nat.add_lt_add_left remainder _) unity_pos
  · rw [units_normal least greatest]
    refine Nat.lt_of_mul_lt_mul_right (a := 2 ^ (52 - k.log2)) ?_
    rw [scaled, shifted, ← division]
    exact Nat.mul_lt_mul_of_pos_right (Nat.lt_add_of_pos_right part) unity_pos

/-- A number that does not exceed a natural number does not when that is rounded. -/
theorem le_rounded {m k : Nat} (below : units m ≤ k * unity) : m ≤ rounded k := by
  obtain ⟨nearest, -, above, choice⟩ := rounded_cases k
  have bound : m < nearest + 1 := units_strictMono.lt_iff_lt.mp (below.trans_lt above)
  omega

/-- A number that a natural number does not exceed is not exceeded when that is rounded. -/
theorem rounded_le {m k : Nat} (above : k * unity ≤ units m) : rounded k ≤ m := by
  obtain ⟨nearest, below, -, rfl | ⟨up, part⟩⟩ := rounded_cases k
  · exact units_strictMono.le_iff_le.mp (below.trans above)
  · rw [up]
    exact units_strictMono.lt_iff_lt.mp (part.trans_le above)

/-- Whether a natural number is a number, so that rounding does nothing. -/
def Exact (k : Nat) : Prop := ∃ m, units m = k * unity

theorem rounded_eq {m k : Nat} (value : units m = k * unity) : rounded k = m :=
  Nat.le_antisymm (rounded_le value.ge) (le_rounded value.le)

theorem exact_shifted {e q : Nat} (least : 2 ^ 52 ≤ q) (greatest : q < 2 ^ 53) :
    Exact (q * 2 ^ e) :=
  ⟨(e + depth) * 2 ^ 52 + q, by
    rw [units_normal least greatest, Nat.mul_assoc, two_pow_mul_unity]⟩

theorem exact_of_lt {k : Nat} (small : k < 2 ^ 53) : Exact k := by
  by_cases positive : k = 0
  · exact ⟨0, by rw [positive, Nat.zero_mul, units_zero]⟩
  have digits : k.log2 < 53 := (Nat.log2_lt positive).mpr small
  obtain ⟨least, greatest⟩ := digits_bounds positive
  rw [Nat.sub_eq_zero_of_le (Nat.le_of_lt_succ digits), Nat.pow_zero, Nat.div_one] at least greatest
  have exponent : 52 - k.log2 + (k.log2 + 1022) = depth := by rw [depth]; omega
  refine ⟨(k.log2 + 1022) * 2 ^ 52 + k * 2 ^ (52 - k.log2), ?_⟩
  rw [units_normal least greatest, Nat.mul_assoc, ← Nat.pow_add, exponent, unity]

namespace Exact

variable {k n : Nat}

theorem units_rounded (exact : Exact k) : units (rounded k) = k * unity := by
  obtain ⟨m, value⟩ := exact
  rw [rounded_eq value, value]

theorem rounded_le_rounded (exact : Exact k) (le : k ≤ n) : rounded k ≤ rounded n :=
  le_rounded (exact.units_rounded.trans_le (Nat.mul_le_mul_right _ le))

theorem rounded_le_rounded' (exact : Exact n) (le : k ≤ n) : rounded k ≤ rounded n :=
  rounded_le ((Nat.mul_le_mul_right _ le).trans_eq exact.units_rounded.symm)

end Exact

theorem exact_two_pow_63 : Exact (2 ^ 63) := by
  have split : 2 ^ 63 = 2 ^ 52 * 2 ^ 11 := rfl
  rw [split]
  exact exact_shifted (Nat.le_refl _) (by decide)

/-- Natural numbers of up to 63 digits stay below infinity. -/
theorem rounded_lt_infinity {k : Nat} (bound : k ≤ 2 ^ 63) : rounded k < infinityMagnitude := by
  exact (exact_two_pow_63.rounded_le_rounded' bound).trans_lt (by decide)

/-! ### Integers -/

theorem magnitude_ofSignMagnitude {negative : Bool} {m : Nat} (bound : m < 2 ^ 63) :
    (ofSignMagnitude negative m).magnitude = m ∧
      (ofSignMagnitude negative m).isNegative = negative := by
  unfold ofSignMagnitude magnitude isNegative
  rw [UInt64.toNat_ofNat']
  dsimp only [Nat.pow_eq]
  cases negative
  · rw [if_neg Bool.false_ne_true]
    exact ⟨by omega, decide_eq_false (by omega)⟩
  · rw [if_pos rfl]
    exact ⟨by omega, decide_eq_true (by omega)⟩

theorem binaryExponent_one {k : Nat} (positive : k ≠ 0) : binaryExponent k 1 = k.log2 := by
  have reached : 1 * 2 ^ k.log2 ≤ k := (Nat.one_mul _).trans_le (Nat.log2_self_le positive)
  have one : (k.log2 : Int) - ((1 : Nat).log2 : Int) = k.log2 := Int.sub_zero _
  unfold binaryExponent
  simp only [one, Nat.pow_eq, Int.natCast_nonneg, Int.toNat_natCast, reached, if_true]

theorem ofInt_eq {n : Int} (bound : n.natAbs ≤ 2 ^ 63) :
    ofInt n = ofSignMagnitude (n < 0) (rounded n.natAbs) := by
  unfold ofInt ofRatio
  by_cases zero : n.natAbs = 0
  · simp [zero, rounded]
  have finite : rounded n.natAbs ≤ infinityMagnitude := (rounded_lt_infinity bound).le
  simp only [zero, decide_false, Bool.false_or, Nat.one_ne_zero, Bool.false_eq_true, if_false,
    binaryExponent_one zero, Nat.pow_eq, Nat.one_mul]
  rw [rounded, if_neg zero] at finite ⊢
  generalize n.natAbs.log2 = e at finite ⊢
  have exponent : max ((e : Int) - 52) (-1074) = e - 52 := by omega
  have biased : ((e : Int) - 52 + 1074).toNat = e + 1022 := by omega
  rw [exponent, biased]
  split
  · have grown : 52 - e = 0 := by omega
    have shifted : ((e : Int) - 52).toNat = e - 52 := by omega
    rw [grown, Nat.pow_zero, Nat.mul_one] at finite ⊢
    rw [shifted, Nat.min_eq_left finite]
  · have kept : e - 52 = 0 := by omega
    have grown : (-((e : Int) - 52)).toNat = 52 - e := by omega
    rw [kept, Nat.pow_zero] at finite ⊢
    rw [grown, Nat.min_eq_left finite]

/-- The position of an integer on the number line. -/
theorem rank_ofInt {n : Int} (bound : n.natAbs ≤ 2 ^ 63) :
    (ofInt n).rank = if n < 0 then -(rounded n.natAbs : Int) else rounded n.natAbs := by
  have small : rounded n.natAbs < 2 ^ 63 := (rounded_lt_infinity bound).trans (by decide)
  obtain ⟨magnitude, negative⟩ := @magnitude_ofSignMagnitude (n < 0) _ small
  rw [rank, ofInt_eq bound, magnitude, negative]
  simp only [decide_eq_true_eq]

theorem isNaN_ofInt (n : Int64) : (ofInt n.toInt).isNaN = false := by
  have least : -2 ^ 63 ≤ n.toInt := n.le_toInt
  have greatest : n.toInt < 2 ^ 63 := n.toInt_lt
  generalize n.toInt = n at least greatest ⊢
  have bound : n.natAbs ≤ 2 ^ 63 := by omega
  have finite := rounded_lt_infinity bound
  have small : rounded n.natAbs < 2 ^ 63 := finite.trans (by decide)
  obtain ⟨magnitude, -⟩ := @magnitude_ofSignMagnitude (n < 0) _ small
  rw [isNaN, ofInt_eq bound, magnitude]
  exact decide_eq_false finite.le.not_gt

/-! ### Ceilings -/

/-- The integer part of the absolute value. -/
def floor (x : Binary64) : Nat := x.ratio.1 / x.ratio.2

/-- The least integer from the absolute value on. -/
def ceil (x : Binary64) : Nat := (x.ratio.1 + x.ratio.2 - 1) / x.ratio.2

theorem ratio_snd_pos (x : Binary64) : 0 < x.ratio.2 := by
  unfold ratio
  split
  · exact Nat.one_pos
  · exact Nat.two_pow_pos _

section Nearest

variable {x : Binary64} {k n : Nat}

theorem le_floor : k ≤ x.floor ↔ k * unity ≤ units x.magnitude := by
  calc k ≤ x.floor ↔ k * x.ratio.2 ≤ x.ratio.1 := Nat.le_div_iff_mul_le x.ratio_snd_pos
    _ ↔ k * x.ratio.2 * unity ≤ x.ratio.1 * unity := (Nat.mul_le_mul_right_iff unity_pos).symm
    _ ↔ k * unity * x.ratio.2 ≤ units x.magnitude * x.ratio.2 := by
      rw [units_ratio, Nat.mul_right_comm]
    _ ↔ k * unity ≤ units x.magnitude := Nat.mul_le_mul_right_iff x.ratio_snd_pos

theorem ceil_le : x.ceil ≤ k ↔ units x.magnitude ≤ k * unity := by
  have positive := x.ratio_snd_pos
  calc x.ceil ≤ k ↔ x.ratio.1 ≤ k * x.ratio.2 := by
        rw [ceil, Nat.div_le_iff_le_mul positive]
        omega
    _ ↔ x.ratio.1 * unity ≤ k * x.ratio.2 * unity := (Nat.mul_le_mul_right_iff unity_pos).symm
    _ ↔ units x.magnitude * x.ratio.2 ≤ k * unity * x.ratio.2 := by
      rw [units_ratio, Nat.mul_right_comm]
    _ ↔ units x.magnitude ≤ k * unity := Nat.mul_le_mul_right_iff positive

theorem floor_lt : x.floor < k ↔ units x.magnitude < k * unity := by
  rw [← Nat.not_le, ← Nat.not_le, le_floor]

theorem lt_ceil : k < x.ceil ↔ k * unity < units x.magnitude := by
  rw [← Nat.not_le, ← Nat.not_le, ceil_le]

theorem ceil_le_succ_floor (x : Binary64) : x.ceil ≤ x.floor + 1 :=
  ceil_le.mpr (floor_lt.mp (Nat.lt_succ_self _)).le

theorem floor_le_ceil (x : Binary64) : x.floor ≤ x.ceil := by
  refine Nat.le_of_mul_le_mul_right ?_ unity_pos
  exact (le_floor.mp (Nat.le_refl _)).trans (ceil_le.mp (Nat.le_refl _))

/-- A number with a part behind the point is small. -/
theorem whole_or_small (x : Binary64) :
    units x.magnitude = x.floor * unity ∧ x.ceil = x.floor ∨ x.floor < 2 ^ 52 := by
  have digits : x.significand < 2 ^ 53 := by
    change x.magnitude % 2 ^ 52 + (if x.magnitude / 2 ^ 52 = 0 then 0 else 2 ^ 52) < 2 ^ 53
    split <;> omega
  have value := x.units_ratio
  unfold floor ceil
  unfold ratio at value ⊢
  split at value <;> rename_i whole
  · rw [Nat.mul_one] at value
    rw [if_pos whole, Nat.div_one, Nat.div_one, Nat.add_sub_cancel]
    exact .inl ⟨value, rfl⟩
  · obtain ⟨e, exponent⟩ : ∃ e, (-x.exponent).toNat = e + 1 := ⟨(-x.exponent).toNat - 1, by omega⟩
    rw [if_neg whole]
    refine .inr ((Nat.div_lt_iff_lt_mul (Nat.two_pow_pos _)).mpr (digits.trans_le ?_))
    rw [exponent, ← Nat.pow_add]
    exact Nat.pow_le_pow_right Nat.two_pos (by omega)

/-- No natural number that comes out from the number on comes out below the least one from it on. -/
theorem rounded_ceil_le (reaches : x.magnitude ≤ rounded n) : rounded x.ceil ≤ rounded n := by
  rcases x.whole_or_small with ⟨value, same⟩ | small
  · rwa [same, rounded_eq value]
  · have bound : x.ceil ≤ 2 ^ 52 := x.ceil_le_succ_floor.trans small
    rcases Nat.lt_or_ge n x.ceil with lt | le
    · have exact : Exact n := exact_of_lt (by omega)
      have misses : rounded n < x.magnitude := by
        rw [← units_strictMono.lt_iff_lt, exact.units_rounded]
        exact lt_ceil.mp lt
      omega
    · have exact : Exact x.ceil := exact_of_lt (by omega)
      exact exact.rounded_le_rounded le

/-- No natural number that comes out up to the number comes out above its integer part. -/
theorem rounded_le_floor (reaches : rounded n ≤ x.magnitude) : rounded n ≤ rounded x.floor := by
  rcases x.whole_or_small with ⟨value, -⟩ | small
  · rwa [rounded_eq value]
  · rcases Nat.lt_or_ge x.floor n with lt | le
    · have exact : Exact (x.floor + 1) := exact_of_lt (by omega)
      have misses : x.magnitude < rounded (x.floor + 1) := by
        rw [← units_strictMono.lt_iff_lt, exact.units_rounded]
        exact floor_lt.mp (Nat.lt_succ_self _)
      have grows := exact.rounded_le_rounded lt
      omega
    · have exact : Exact x.floor := exact_of_lt (by omega)
      exact exact.rounded_le_rounded' le

/-- The same within 64 bits. -/
theorem rounded_le_min_floor (bound : n ≤ 2 ^ 63) (reaches : rounded n ≤ x.magnitude) :
    rounded n ≤ rounded (min x.floor (2 ^ 63)) := by
  rcases Nat.le_total x.floor (2 ^ 63) with le | ge
  · rw [Nat.min_eq_left le]
    exact rounded_le_floor reaches
  · rw [Nat.min_eq_right ge]
    exact exact_two_pow_63.rounded_le_rounded' bound

theorem rounded_min_ceil (bound : n < 2 ^ 63) (reaches : x.magnitude ≤ rounded n) :
    x.magnitude ≤ rounded (min x.ceil (2 ^ 63 - 1)) ∧
      rounded (min x.ceil (2 ^ 63 - 1)) ≤ rounded n := by
  rcases Nat.le_total x.ceil (2 ^ 63 - 1) with le | ge
  · rw [Nat.min_eq_left le]
    exact ⟨le_rounded (ceil_le.mp (Nat.le_refl _)), rounded_ceil_le reaches⟩
  · rw [Nat.min_eq_right ge]
    have up : rounded (2 ^ 63 - 1) = rounded (2 ^ 63) := by decide
    refine ⟨up ▸ reaches.trans (exact_two_pow_63.rounded_le_rounded' bound.le), ?_⟩
    rcases ge.eq_or_lt with same | lt
    · rw [same]
      exact rounded_ceil_le reaches
    · exact (rounded_le (lt_ceil.mp lt).le).trans reaches

end Nearest

/-- Infinity has the value that its digits would have. -/
theorem lt_floor_of_infinite {x : Binary64} (infinite : x.isInfinite = true) :
    2 ^ 63 ≤ x.floor := by
  rw [le_floor, ← exact_two_pow_63.units_rounded, units_strictMono.le_iff_le,
    show x.magnitude = infinityMagnitude from of_decide_eq_true infinite]
  exact (rounded_lt_infinity (Nat.le_refl _)).le

/-- The least integer from a number on, held within 64 bits. -/
theorem toInt_ceilInt64 {x : Binary64} (number : x.isNaN = false) : x.ceilInt64.toInt =
    if x.isNegative then -((min x.floor (2 ^ 63) : Nat) : Int)
    else (min x.ceil (2 ^ 63 - 1) : Nat) := by
  have least : Int64.minValue.toInt = -2 ^ 63 := rfl
  have greatest : Int64.maxValue.toInt = 2 ^ 63 - 1 := rfl
  unfold ceilInt64
  rw [number, if_neg Bool.false_ne_true]
  cases infinite : x.isInfinite
  · rw [if_neg Bool.false_ne_true]
    change (Int64.ofInt (max Int64.minValue.toInt (min Int64.maxValue.toInt
      (if x.isNegative then -(x.floor : Int) else (x.ceil : Int))))).toInt = _
    rw [Int64.toInt_ofInt_of_le (by omega) (by omega), least, greatest]
    split <;> omega
  · have huge := lt_floor_of_infinite infinite
    have huge' := huge.trans x.floor_le_ceil
    rw [if_pos rfl]
    split
    · rw [Nat.min_eq_right huge]
      rfl
    · rw [Nat.min_eq_right (by omega)]
      rfl

theorem rank_ofInt_neg {k : Nat} (bound : k ≤ 2 ^ 63) : (ofInt (-k)).rank = -(rounded k : Int) := by
  rw [rank_ofInt (by omega), Int.natAbs_neg, Int.natAbs_natCast]
  split
  · rfl
  · obtain rfl : k = 0 := by omega
    rfl

theorem rank_ofInt_nat {k : Nat} (bound : k ≤ 2 ^ 63) : (ofInt k).rank = rounded k := by
  rw [rank_ofInt (by omega), Int.natAbs_natCast, if_neg (by omega)]

/-- The least integer from a number on is not below the number after rounding, and no integer of
which that is true is below it. -/
theorem rank_le_ceilInt64 {x : Binary64} (number : x.isNaN = false) {n : Int64}
    (reaches : x.rank ≤ (ofInt n.toInt).rank) : x.rank ≤ (ofInt x.ceilInt64.toInt).rank ∧
      (ofInt x.ceilInt64.toInt).rank ≤ (ofInt n.toInt).rank := by
  have least : -2 ^ 63 ≤ n.toInt := n.le_toInt
  have greatest : n.toInt < 2 ^ 63 := n.toInt_lt
  have rank : x.rank = if x.isNegative then -(x.magnitude : Int) else x.magnitude := rfl
  rw [rank] at reaches ⊢
  rw [toInt_ceilInt64 number]
  generalize n.toInt = n at least greatest reaches ⊢
  cases sign : x.isNegative
  · rw [sign, if_neg Bool.false_ne_true] at reaches
    rw [if_neg Bool.false_ne_true, if_neg Bool.false_ne_true, rank_ofInt_nat (by omega)]
    obtain ⟨k, rfl | rfl⟩ := n.eq_nat_or_neg
    · rw [rank_ofInt_nat (by omega)] at reaches ⊢
      obtain ⟨above, nearest⟩ := rounded_min_ceil (by omega) (Int.ofNat_le.mp reaches)
      exact ⟨Int.ofNat_le.mpr above, Int.ofNat_le.mpr nearest⟩
    · rw [rank_ofInt_neg (by omega)] at reaches ⊢
      have zero : x.magnitude = 0 := by omega
      have nought : x.ceil = 0 := Nat.le_zero.mp (ceil_le.mpr (by rw [zero, Nat.zero_mul]; rfl))
      rw [nought, zero]
      have nearest : rounded k = 0 := by omega
      rw [nearest]
      decide
  · rw [sign, if_pos rfl] at reaches
    rw [if_pos rfl, if_pos rfl, rank_ofInt_neg (Nat.min_le_right _ _)]
    have above : rounded (min x.floor (2 ^ 63)) ≤ x.magnitude :=
      rounded_le (le_floor.mp (Nat.min_le_left _ _))
    refine ⟨by omega, ?_⟩
    obtain ⟨k, rfl | rfl⟩ := n.eq_nat_or_neg
    · rw [rank_ofInt_nat (by omega)]
      omega
    · rw [rank_ofInt_neg (by omega)] at reaches ⊢
      have nearest : rounded k ≤ rounded (min x.floor (2 ^ 63)) :=
        rounded_le_min_floor (by omega) (by omega)
      omega

end FactBase.Binary64

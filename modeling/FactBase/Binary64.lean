/-! Floating-point numbers as their 64 bits, read as exact binary fractions.
Two numbers are the same when their bits are, so zeros of both signs differ and every NaN
payload is its own value; `compare?` is the numerical order instead. Everything is computed on
`Nat` and `Int`, never with the machine's floating-point unit. -/
namespace FactBase

/-- A binary64 number, named by its bits: sign, eleven exponent bits, 52 fraction bits. -/
structure Binary64 where
  bits : UInt64
deriving DecidableEq, Inhabited, Repr

namespace Binary64

/-- All bits but the sign. -/
def magnitude (x : Binary64) : Nat := x.bits.toNat % Nat.pow 2 63

def isNegative (x : Binary64) : Bool := Nat.pow 2 63 ≤ x.bits.toNat

/-- The magnitude at which the numbers end: infinity itself, above it the NaNs. -/
def infinityMagnitude : Nat := 2047 * Nat.pow 2 52

def isNaN (x : Binary64) : Bool := infinityMagnitude < x.magnitude

def isInfinite (x : Binary64) : Bool := x.magnitude = infinityMagnitude

def isFinite (x : Binary64) : Bool := x.magnitude < infinityMagnitude

def exponentField (x : Binary64) : Nat := x.magnitude / Nat.pow 2 52

/-- The integer `m` of a finite number `m * 2 ^ e`, without its sign. -/
def significand (x : Binary64) : Nat :=
  x.magnitude % Nat.pow 2 52 + if x.exponentField = 0 then 0 else Nat.pow 2 52

/-- The exponent `e` of a finite number `m * 2 ^ e`. -/
def exponent (x : Binary64) : Int := (max x.exponentField 1 : Nat) - 1075

def ofSignMagnitude (negative : Bool) (magnitude : Nat) : Binary64 :=
  ⟨UInt64.ofNat (magnitude + if negative then Nat.pow 2 63 else 0)⟩

def zero : Binary64 := ⟨0⟩

def infinity (negative : Bool) : Binary64 := ofSignMagnitude negative infinityMagnitude

/-- The usual quiet NaN. -/
def nan : Binary64 := ofSignMagnitude false (infinityMagnitude + Nat.pow 2 51)

/-- A finite number's absolute value as a quotient of natural numbers. -/
def ratio (x : Binary64) : Nat × Nat :=
  if 0 ≤ x.exponent then (x.significand * Nat.pow 2 x.exponent.toNat, 1)
  else (x.significand, Nat.pow 2 (-x.exponent).toNat)

/-! ### Numerical order -/

/-- The position of a number that is no NaN on the number line; both zeros share one. -/
def rank (x : Binary64) : Int := if x.isNegative then -(x.magnitude : Int) else x.magnitude

/-- The numerical order; a NaN is comparable with nothing. -/
def compare? (x y : Binary64) : Option Ordering :=
  if x.isNaN || y.isNaN then none else some (compare x.rank y.rank)

/-! ### Rounding -/

/-- The quotient rounded to the nearest integer, a half going to the even neighbour. -/
def roundHalfEven (num den : Nat) : Nat :=
  let q := num / den
  let twice := 2 * (num % den)
  if twice < den then q
  else if den < twice then q + 1
  else q + q % 2

/-- The binary exponent of a positive quotient: `2 ^ k ≤ num / den < 2 ^ (k + 1)`. -/
def binaryExponent (num den : Nat) : Int :=
  let k : Int := (num.log2 : Int) - den.log2
  let reached := if 0 ≤ k then den * Nat.pow 2 k.toNat ≤ num else den ≤ num * Nat.pow 2 (-k).toNat
  if reached then k else k - 1

/-- The number nearest to a quotient, ties going to the even significand. A quotient beyond the
largest finite number gives infinity. -/
def ofRatio (negative : Bool) (num den : Nat) : Binary64 :=
  if num = 0 || den = 0 then ofSignMagnitude negative 0
  else
    let e := max (binaryExponent num den - 52) (-1074)
    let m := if 0 ≤ e then roundHalfEven num (den * Nat.pow 2 e.toNat)
      else roundHalfEven (num * Nat.pow 2 (-e).toNat) den
    let magnitude := (e + 1074).toNat * Nat.pow 2 52 + m
    ofSignMagnitude negative (min magnitude infinityMagnitude)

/-- The number nearest to an integer. -/
def ofInt (n : Int) : Binary64 := ofRatio (n < 0) n.natAbs 1

/-- Quotient of two counts, each taken as a number first. -/
def divideCounts (a b : Nat) : Binary64 :=
  let x := (ofInt a).ratio
  let y := (ofInt b).ratio
  ofRatio false (x.1 * y.2) (x.2 * y.1)

/-- Product of two finite numbers. -/
def mul (x y : Binary64) : Binary64 :=
  let a := x.ratio
  let b := y.ratio
  ofRatio (x.isNegative != y.isNegative) (a.1 * b.1) (a.2 * b.2)

/-- The least integer not below the number, held within the 64-bit signed range; a NaN gives 0. -/
def ceilInt64 (x : Binary64) : Int64 :=
  if x.isNaN then 0
  else if x.isInfinite then (if x.isNegative then Int64.minValue else Int64.maxValue)
  else
    let (num, den) := x.ratio
    let n : Int := if x.isNegative then -(num / den : Nat) else ((num + den - 1) / den : Nat)
    Int64.ofInt (max Int64.minValue.toInt (min Int64.maxValue.toInt n))

end Binary64
end FactBase

import FactBase.Binary64
/-! Decimal text of binary64 numbers: the shortest text that reads back, and text with a fixed
number of places. Both are exact; neither depends on a printing routine of the machine. -/
namespace FactBase

/-- The decimal number `digits * 10 ^ exponent`. -/
structure Decimal where
  digits : Nat
  exponent : Int
deriving DecidableEq, Repr

namespace Decimal

/-- Drops trailing zeros of the digits; the fuel bounds how many. -/
def normalize : Nat → Decimal → Decimal
  | 0, d => d
  | fuel + 1, d =>
    if d.digits ≠ 0 ∧ d.digits % 10 = 0 then normalize fuel ⟨d.digits / 10, d.exponent + 1⟩ else d

/-- A comparison of `a * 10 ^ t` with `b / c`. -/
def compareScaled (a : Nat) (t : Int) (b c : Nat) : Ordering :=
  if 0 ≤ t then compare (a * Nat.pow 10 t.toNat * c) b else compare (a * c) (b * Nat.pow 10 (-t).toNat)

/-- The whole multiples of `10 ^ t` in `b / c`. -/
def floorScaled (t : Int) (b c : Nat) : Nat :=
  if 0 ≤ t then b / (c * Nat.pow 10 t.toNat) else b * Nat.pow 10 (-t).toNat / c

end Decimal

namespace Binary64

/-- The decimal exponent of a positive quotient: `10 ^ k ≤ num / den < 10 ^ (k + 1)`. -/
def decimalExponent (num den : Nat) : Int :=
  if den ≤ num then (Nat.toDigits 10 (num / den)).length - 1
  else -(((List.range 400).find? fun k => den ≤ num * Nat.pow 10 k).getD 400 : Nat)

/-- The reals that round to a number, as fractions over one denominator: the number, the ends,
and whether the ends belong. -/
structure Interval where
  value : Nat
  low : Nat
  high : Nat
  den : Nat
  closed : Bool

/-- The interval of a positive finite number. It is narrower below a power of two. -/
def interval (x : Binary64) : Interval :=
  let m := x.significand
  let e := x.exponent - 2
  let scale := if 0 ≤ e then Nat.pow 2 e.toNat else 1
  let below := if m = Nat.pow 2 52 ∧ 1 < x.exponentField then 1 else 2
  { value := 4 * m * scale
    low := (4 * m - below) * scale
    high := (4 * m + 2) * scale
    den := if 0 ≤ e then 1 else Nat.pow 2 (-e).toNat
    closed := m % 2 = 0 }

/-- Whether `d * 10 ^ t` rounds to the number of the interval. -/
def Interval.contains (i : Interval) (d : Nat) (t : Int) : Bool :=
  let lower := Decimal.compareScaled d t i.low i.den
  let upper := Decimal.compareScaled d t i.high i.den
  if i.closed then lower != .lt && upper != .gt else lower == .gt && upper == .lt

/-- The better neighbour of the number on the grid of multiples of `10 ^ t`, if one rounds back
to it. Of two the nearer is taken, and the upper one on a tie. -/
def Interval.nearest? (i : Interval) (t : Int) : Option Decimal :=
  let d := Decimal.floorScaled t i.value i.den
  match i.contains d t, i.contains (d + 1) t with
  | false, false => none
  | true, false => some ⟨d, t⟩
  | false, true => some ⟨d + 1, t⟩
  | true, true =>
    if Decimal.compareScaled (2 * d + 1) t (2 * i.value) i.den == .gt then some ⟨d, t⟩
    else some ⟨d + 1, t⟩

/-- The decimal of fewest digits that rounds to a positive finite number. -/
def shortest (x : Binary64) : Decimal :=
  let i := x.interval
  let k := decimalExponent i.value i.den
  let found := (List.range 17).findSome? fun (n : Nat) => i.nearest? (k - n)
  Decimal.normalize 20 (found.getD ⟨Decimal.floorScaled (k - 16) i.value i.den, k - 16⟩)

/-- How the shortest decimal is laid out. -/
structure Layout where
  /-- From this decimal exponent on, numbers carry an exponent. -/
  large : Int
  /-- Below this decimal exponent, numbers carry an exponent. -/
  small : Int

/-- Positional between one ten-thousandth and ten to the sixteenth. -/
def plainLayout : Layout := ⟨16, -4⟩

/-- Positional text of a decimal, with at least one digit on each side of the point. -/
def positional (d : Decimal) : String :=
  let ds := Nat.toDigits 10 d.digits
  if 0 ≤ d.exponent then
    String.ofList (ds ++ List.replicate d.exponent.toNat '0') ++ ".0"
  else
    let places := (-d.exponent).toNat
    let padded := List.replicate (places + 1 - ds.length) '0' ++ ds
    let whole := padded.length - places
    String.ofList (padded.take whole ++ ['.'] ++ padded.drop whole)

/-- Scientific text of a decimal: one digit, the rest after a point if there is a rest. -/
def scientific (d : Decimal) : String :=
  let ds := Nat.toDigits 10 d.digits
  let exponent := d.exponent + ds.length - 1
  let rest := if ds.length = 1 then [] else '.' :: ds.drop 1
  String.ofList (ds.take 1 ++ rest) ++ "e" ++ toString exponent

/-- The text of a number in a layout: the fewest digits that read back, signed zeros kept apart. -/
def render (layout : Layout) (x : Binary64) : String :=
  let sign := if x.isNegative then "-" else ""
  if x.isNaN then "NaN"
  else if x.isInfinite then sign ++ "inf"
  else if x.magnitude = 0 then sign ++ "0.0"
  else
    let d := x.shortest
    let k := d.exponent + (Nat.toDigits 10 d.digits).length - 1
    sign ++ if layout.small ≤ k ∧ k < layout.large then positional d else scientific d

/-- The usual text of a number. -/
def text (x : Binary64) : String := x.render plainLayout

/-- Text with a fixed number of places after the point, a half going to the even digit. -/
def fixedText (x : Binary64) (places : Nat) : String :=
  let sign := if x.isNegative then "-" else ""
  if x.isNaN then "NaN"
  else if x.isInfinite then sign ++ "inf"
  else
    let (num, den) := x.ratio
    let n := roundHalfEven (num * Nat.pow 10 places) den
    let ds := Nat.toDigits 10 n
    let padded := List.replicate (places + 1 - ds.length) '0' ++ ds
    let whole := padded.length - places
    let point := if places = 0 then [] else ['.']
    sign ++ String.ofList (padded.take whole ++ point ++ padded.drop whole)

end Binary64
end FactBase

/-
This file writes a floating-point number as a decimal: with the fewest digits
that read back as the same number, and of those with the nearest ones.

The decimals that read back are those in an interval around the number, halfway
to its neighbours; the ends belong to it if the significand is even. A grid of
decimals with a given number of digits has a point in the interval if and only
if one of the number's two neighbours on the grid is such a point, so these two
are tried for one digit, for two digits, and so on; with seventeen digits one of
them always is.
-/

import Prebuild.Decimal.Binary64

namespace Prebuild.Binary64

/-- The decimal `digits * 10 ^ exponent`. -/
structure Decimal where
  digits : Nat
  exponent : Int
deriving DecidableEq

/-- What reads back as one number: the number itself and the two ends of the interval, as
numerators over a common denominator, and whether the ends belong to it. -/
structure Interval where
  low : Nat
  middle : Nat
  high : Nat
  closed : Bool

/-- The interval of a positive number, over the denominator `2 ^ 1076`. Below a power of two
the numbers lie twice as close, so there the lower end is nearer. -/
def interval (significand power : Nat) : Interval :=
  let middle := 4 * significand * Nat.pow 2 power
  let gap := Nat.pow 2 power
  { low := if significand == Nat.pow 2 52 && power != 0 then middle - gap else middle - 2 * gap
    middle := middle
    high := middle + 2 * gap
    closed := significand % 2 == 0 }

/-- The decimal exponent of the first digit, plus one, of a positive number. -/
def magnitude (middle : Nat) : Int :=
  ((Text.ofNat (middle * Nat.pow 10 330 / Nat.pow 2 1076)).length : Int) - 330

/-- The nearer of a number's two neighbours among the decimals of one exponent, if it reads
back as the number; the farther one, if only that does. -/
def onGrid? (around : Interval) (exponent : Int) : Option Decimal :=
  let up := Nat.pow 10 (-exponent).toNat
  let denominator := Nat.pow 2 1076 * Nat.pow 10 exponent.toNat
  let below := around.middle * up / denominator
  let readsBack (digits : Nat) : Bool :=
    let point := digits * denominator
    if around.closed then
      decide (around.low * up ≤ point) && decide (point ≤ around.high * up)
    else
      decide (around.low * up < point) && decide (point < around.high * up)
  let lowerIsNearer := 2 * (around.middle * up) < (2 * below + 1) * denominator
  match readsBack below, readsBack (below + 1) with
  | true, true => some ⟨if lowerIsNearer then below else below + 1, exponent⟩
  | true, false => some ⟨below, exponent⟩
  | false, true => some ⟨below + 1, exponent⟩
  | false, false => none

/-- The shortest decimal that reads back as a positive number. -/
def shortest (significand power : Nat) : Decimal :=
  let around := interval significand power
  let first := magnitude around.middle
  let tried := (List.range 17).findSome? fun (count : Nat) =>
    onGrid? around (first - (count : Int) - 1)
  tried.getD ⟨0, 0⟩

/-- A decimal in positional notation, with at least one digit on each side of the point and
no zero after the last digit that counts. -/
def Decimal.positional (decimal : Decimal) : Text :=
  let digits := Text.ofNat decimal.digits
  let places := (-decimal.exponent).toNat
  let padded := List.replicate (places + 1 - digits.length) '0' ++ digits
  let whole := padded.take (padded.length - places) ++ List.replicate decimal.exponent.toNat '0'
  let fraction := ((padded.drop (padded.length - places)).reverse.dropWhile (· == '0')).reverse
  whole ++ '.' :: if fraction.isEmpty then ['0'] else fraction

/-- The text of a number in a message. -/
def text : Binary64 → Text
  | .finite negative significand power =>
    let size : Text := if significand == 0 then "0.0" else (shortest significand power).positional
    if negative then '-' :: size else size
  | .infinite negative => if negative then "-inf" else "inf"
  | .notANumber => "NaN"

end Prebuild.Binary64

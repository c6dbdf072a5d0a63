/-
This file gives the numbers that a configuration file writes with a point or an
exponent: the binary floating-point numbers of 64 bits, and the one of them that
a decimal stands for, which is the nearest, the one with the even significand if
two are equally near.

Everything is exact arithmetic on natural numbers. A finite number is a whole
number of the smallest positive one, which is two to the power -1074, so its
magnitude is a significand below two to the power 53 times a power of two.
-/

import Prebuild.Text

namespace Prebuild

/-- A floating-point number of 64 bits. -/
inductive Binary64 where
  /-- The number of magnitude `significand * 2 ^ power / 2 ^ 1074`. -/
  | finite (negative : Bool) (significand power : Nat)
  | infinite (negative : Bool)
  | notANumber
deriving DecidableEq, Inhabited

namespace Binary64

/-- The whole number nearest to a quotient, an even one if two are equally near. -/
def roundHalfEven (numerator denominator : Nat) : Nat :=
  let quotient := numerator / denominator
  let twice := 2 * (numerator % denominator)
  if twice < denominator || (twice == denominator && quotient % 2 == 0) then
    quotient
  else
    quotient + 1

/-- The number nearest to a quotient. The power is the smallest for which the significand
fits; a significand that rounds up to one bit more is halved. -/
def ofQuotient (negative : Bool) (numerator denominator : Nat) : Binary64 :=
  let scaled := numerator * Nat.pow 2 1074
  let power := (scaled / denominator).log2 + 1 - 53
  let significand := roundHalfEven scaled (denominator * Nat.pow 2 power)
  let normal :=
    if significand == Nat.pow 2 53 then (Nat.pow 2 52, power + 1) else (significand, power)
  if normal.2 > 2045 then .infinite negative else .finite negative normal.1 normal.2

/-- The number nearest to `digits * 10 ^ exponent`. A decimal beyond every finite number is
infinite, and one much below the smallest is zero, whatever its exponent. -/
def ofDecimal (negative : Bool) (digits : Nat) (exponent : Int) : Binary64 :=
  let size := ((Text.ofNat digits).length : Int) + exponent
  if digits == 0 || size < -330 then .finite negative 0 0
  else if size > 310 then .infinite negative
  else ofQuotient negative (digits * Nat.pow 10 exponent.toNat) (Nat.pow 10 (-exponent).toNat)

end Binary64

end Prebuild

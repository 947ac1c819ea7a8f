/-!
# Doubles

The numbers of the binary format of 64 bits, as exact values: a finite number is a sign, an
integral mantissa and a power of two. Reading a decimal gives the double that is nearest to it,
and of two that are equally near the one with the even mantissa. All arithmetic is exact.
-/

namespace LintMark

/-- A double. -/
inductive Double where
  /-- `mantissa * 2 ^ exponent`, or the negative of that. -/
  | finite (negative : Bool) (mantissa : Nat) (exponent : Int)
  /-- Plus or minus infinity. -/
  | infinite (negative : Bool)
  /-- Not a number. -/
  | nan
deriving DecidableEq, Repr

namespace Double

/-- The number of bits of a mantissa. -/
def precision : Nat := 53

/-- The least exponent. -/
def minExponent : Int := -1074

/-- The greatest exponent. -/
def maxExponent : Int := 971

/-- The quotient rounded to the nearest integer, a half to the even neighbour. -/
def roundDiv (num den : Nat) : Nat :=
  let q := num / den
  let r := num % den
  if 2 * r > den ∨ (2 * r = den ∧ q % 2 = 1) then q + 1 else q

/-- The fraction `num / den / 2 ^ exponent` as a pair of integers. -/
def scaled (num den : Nat) (exponent : Int) : Nat × Nat :=
  (num <<< (-exponent).toNat, den <<< exponent.toNat)

/-- The exponent of the double nearest to `num / den`: the one that leaves a mantissa of full
precision, but not less than the least one. -/
def exponentFor (num den : Nat) : Int :=
  -- The quotient of the leading bits is off by less than a factor of two, so there are two guesses.
  let e := (Nat.log2 num : Int) - Nat.log2 den - precision
  let (n, d) := scaled num den e
  max minExponent (if n / d < 1 <<< precision then e else e + 1)

/-- The double nearest to `num / den`, or to its negative. -/
def ofRatio (negative : Bool) (num den : Nat) : Double :=
  if num = 0 then finite negative 0 minExponent
  else
    let e := exponentFor num den
    let (n, d) := scaled num den e
    let m := roundDiv n d
    -- Rounding may carry into one more bit.
    let (m, e) := if m = 1 <<< precision then (1 <<< (precision - 1), e + 1) else (m, e)
    if e > maxExponent then infinite negative else finite negative m e

/-- The number of decimal digits of `n`. -/
def digitCount (n : Nat) : Nat := (Nat.toDigits 10 n).length

/-- The double nearest to `digits * 10 ^ exponent`, or to its negative. A decimal that is far
beyond the greatest or below the least double is settled by its order of magnitude. -/
def ofDecimal (negative : Bool) (digits : Nat) (exponent : Int) : Double :=
  let magnitude := (digitCount digits : Int) + exponent
  if digits = 0 ∨ magnitude < -330 then finite negative 0 minExponent
  else if magnitude > 310 then infinite negative
  else ofRatio negative (digits * Nat.pow 10 exponent.toNat) (Nat.pow 10 (-exponent).toNat)

/-- Whether the number is zero, of either sign. -/
def isZero : Double → Bool
  | finite _ m _ => m = 0
  | _ => false

/-- The absolute value of a finite number, rounded towards zero. -/
def magnitude (mantissa : Nat) (exponent : Int) : Nat :=
  (mantissa <<< exponent.toNat) >>> (-exponent).toNat

end Double

end LintMark

import LintMark.Number.Double

/-!
# The shortest decimal of a double

A double is written with the fewest digits that read back as the same double. The reals that read
back as a double form an interval around it, whose ends belong to it when the mantissa is even.
For one digit, two digits and so on, the two neighbours of the double on the grid of decimals
with that many digits are tried. If any point of a grid lies in the interval then so does one of
these neighbours, and of two the nearer one is taken.

`Layout` holds the choices that the written form makes beyond the digits.
-/

namespace LintMark.Double

/-! ## Digits -/

/-- A decimal `0.d₁d₂… * 10 ^ point` by its digits, the number `digits` having no trailing
zero. -/
structure Decimal where
  /-- The digits, read as a number. -/
  digits : Nat
  /-- The place of the point, counted from the first digit. -/
  point : Int
deriving DecidableEq, Repr

/-- The least `k` with `num / den < 10 ^ k`, for a fraction of the size of a double. -/
def decimalPoint (num den : Nat) : Int :=
  let candidates := (List.range 660).map fun (k : Nat) ↦ (k : Int) - 340
  (candidates.find? fun k ↦ num * Nat.pow 10 (-k).toNat < den * Nat.pow 10 k.toNat).getD 0

/-- The interval of a finite double in units of `2 ^ (exponent - 2)`. Below a power of two the
doubles are twice as dense. -/
def interval (mantissa : Nat) (exponent : Int) : Nat × Nat :=
  let dense := mantissa = 1 <<< (precision - 1) ∧ exponent > minExponent
  (4 * mantissa - (if dense then 1 else 2), 4 * mantissa + 2)

/-- Compares `n * 10 ^ scale` with `bound * 2 ^ exponent`. -/
def compareAt (n : Nat) (scale : Int) (bound : Nat) (exponent : Int) : Ordering :=
  compare ((n * Nat.pow 10 scale.toNat) <<< (-exponent).toNat)
    ((bound * Nat.pow 10 (-scale).toNat) <<< exponent.toNat)

/-- Whether `n * 10 ^ scale` reads back as the double. -/
def readsBack (mantissa : Nat) (exponent : Int) (n : Nat) (scale : Int) : Bool :=
  let (lo, hi) := interval mantissa exponent
  let even := mantissa % 2 = 0
  -- A tie at an end is rounded to the even mantissa.
  let low := compareAt n scale lo (exponent - 2)
  let high := compareAt n scale hi (exponent - 2)
  (low = .gt || (even && low = .eq)) && (high = .lt || (even && high = .eq))

/-- The decimal of at most `count` digits that reads back as the double and is nearest to it. -/
def withDigits? (mantissa : Nat) (exponent : Int) (point : Int) (count : Nat) :
    Option (Nat × Int) :=
  let scale := point - count
  let num := (mantissa * Nat.pow 10 (-scale).toNat) <<< exponent.toNat
  let den := Nat.pow 10 scale.toNat <<< (-exponent).toNat
  let below := num / den
  match readsBack mantissa exponent below scale, readsBack mantissa exponent (below + 1) scale with
  | true, true => some (if 2 * (num % den) ≤ den then below else below + 1, scale)
  | true, false => some (below, scale)
  | false, true => some (below + 1, scale)
  | false, false => none

/-- The digits without the zeros at their end. -/
def stripZeros (digits : List Char) : List Char :=
  (digits.reverse.dropWhile (· = '0')).reverse

/-- The shortest decimal of a positive double, as digits and the place of the point. -/
def shortest (mantissa : Nat) (exponent : Int) : List Char × Int :=
  let point := decimalPoint (mantissa <<< exponent.toNat) (1 <<< (-exponent).toNat)
  -- Seventeen digits tell any two doubles apart, so the search always finds a decimal.
  let found := (List.range 17).findSome? fun k ↦ withDigits? mantissa exponent point (k + 1)
  let (n, scale) := found.getD (mantissa, 0)
  let digits := Nat.toDigits 10 n
  (stripZeros digits, scale + digits.length)

/-! ## Written form -/

/-- What a written form chooses beyond the digits. -/
structure Layout where
  /-- The least place of the point for which no exponent is written. -/
  minPoint : Int
  /-- The greatest place of the point for which no exponent is written. -/
  maxPoint : Int
  /-- What ends an integral number that has no exponent. -/
  integralEnd : String
  /-- The least number of digits of an exponent. -/
  exponentWidth : Nat

/-- The form of numbers in texts: no exponent from `0.0001` up to sixteen integral digits, and
`.0` behind an integral number. -/
def textLayout : Layout := ⟨-3, 16, ".0", 2⟩

/-- The written exponent. -/
def exponentText (layout : Layout) (exponent : Int) : String :=
  let digits := toString exponent.natAbs
  let fill := String.ofList (List.replicate (layout.exponentWidth - digits.length) '0')
  "e" ++ (if exponent < 0 then "-" else "+") ++ fill ++ digits

/-- The written form of digits with a point. -/
def layOut (layout : Layout) (digits : List Char) (point : Int) : String :=
  if layout.minPoint ≤ point ∧ point ≤ layout.maxPoint then
    if point ≤ 0 then
      String.ofList ('0' :: '.' :: List.replicate (-point).toNat '0' ++ digits)
    else if digits.length ≤ point then
      String.ofList (digits ++ List.replicate (point - digits.length).toNat '0')
        ++ layout.integralEnd
    else
      String.ofList (digits.take point.toNat ++ '.' :: digits.drop point.toNat)
  else
    let mark := match digits with
      | d :: e :: rest => String.ofList (d :: '.' :: e :: rest)
      | _ => String.ofList digits
    mark ++ exponentText layout (point - 1)

/-- The text of a double. -/
def text : Double → String
  | nan => "nan"
  | infinite negative => if negative then "-inf" else "inf"
  | finite negative mantissa exponent =>
    let sign := if negative then "-" else ""
    if mantissa = 0 then sign ++ "0.0"
    else
      let (digits, point) := shortest mantissa exponent
      sign ++ layOut textLayout digits point

end LintMark.Double

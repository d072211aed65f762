/-
**Rounding.**

Scores are ratios.  They are computed in binary floating point with 53 significant bits, every
single step rounded to the nearest number of that form, and they are shown with a fixed number of
decimal places.  In both roundings a tie goes to the even neighbour.  Near zero there are fewer
bits, since no number is finer than the finest fraction.

Everything here is exact arithmetic on rational numbers; a binary floating-point number is the
rational number that it stands for.

Main definitions:

* `Numeral.roundHalfEven` — the nearest whole number;
* `Numeral.nearestBinary` — the nearest number with 53 significant bits;
* `Numeral.fixed` — a number with a fixed number of decimal places.
-/

set_option relaxedAutoImplicit false
set_option autoImplicit false

namespace EventRules.Numeral

/-- **The nearest whole number**; of two equally near ones, the even one. -/
def roundHalfEven (q : Rat) : Int :=
  let below := q.floor
  let part := q - below
  if part < 1 / 2 then below
  else if 1 / 2 < part then below + 1
  else if below % 2 = 0 then below
  else below + 1

def scaleBinary (q : Rat) (exponent : Int) : Rat :=
  if 0 ≤ exponent then q * (Nat.pow 2 exponent.toNat : Rat)
  else q / (Nat.pow 2 (-exponent).toNat : Rat)

def significantBits : Nat := 53

/-- The exponent of the finest fraction: every number is a multiple of one by two to this power. -/
def finestExponent : Int := 1074

/-- The power of two that makes a whole number with all significant bits of a positive number. -/
def bitShift (q : Rat) : Int :=
  let guess : Int := significantBits + q.den.log2 - q.num.toNat.log2
  let exponent :=
    if (Nat.pow 2 significantBits : Rat) ≤ scaleBinary q guess then guess - 1 else guess
  if finestExponent < exponent then finestExponent else exponent

/-- **The nearest number with 53 significant bits** to a number that is not negative. -/
def nearestBinary (q : Rat) : Rat :=
  if q ≤ 0 then 0
  else scaleBinary (roundHalfEven (scaleBinary q (bitShift q))) (-bitShift q)

/-- The last `width` decimal digits of a number. -/
def lastDigits : Nat → Nat → List Char
  | 0, _ => []
  | width + 1, n => lastDigits width (n / 10) ++ [Char.ofNat ('0'.toNat + n % 10)]

/-- **A number that is not negative with a fixed number of decimal places.** -/
def fixed (places : Nat) (q : Rat) : String :=
  let n := (roundHalfEven (q * (Nat.pow 10 places : Rat))).toNat
  let whole := toString (n / Nat.pow 10 places)
  if places = 0 then whole else whole ++ "." ++ String.ofList (lastDigits places n)

end EventRules.Numeral

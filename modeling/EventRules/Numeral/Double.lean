/-
**Double-precision numbers and how they are written.**

A number in a document is written in decimal notation and may be taken as the nearest number of
double precision; one beyond the greatest of those has none.  A number of double precision is
written by the fewest digits that lead back to it, and of those by the nearest.

Main definitions:

* `Numeral.Written` — a number as it is written;
* `Numeral.Written.double?` — the nearest number of double precision;
* `Numeral.shortest` — a number of double precision by the fewest digits;
* `Numeral.Written.text` — a number in digits, with an exponent only far from one.
-/

import EventRules.Numeral.Decimal

set_option relaxedAutoImplicit false
set_option autoImplicit false

namespace EventRules.Numeral

/-- **A number as it is written**: `digits · 10 ^ exponent` with a sign, which zero may have too. -/
structure Written where
  negative : Bool := false
  digits : Nat
  exponent : Int := 0
  deriving DecidableEq, Repr, Inhabited

def scaleDecimal (q : Rat) (exponent : Int) : Rat :=
  if 0 ≤ exponent then q * (Nat.pow 10 exponent.toNat : Rat)
  else q / (Nat.pow 10 (-exponent).toNat : Rat)

/-- The number of decimal digits; none for zero. -/
def digitCount (n : Nat) : Nat :=
  if n = 0 then 0 else (Nat.toDigits 10 n).length

/-! ### Reading -/

namespace Written

def size (w : Written) : Rat :=
  scaleDecimal w.digits w.exponent

def bound (w : Written) : Int :=
  digitCount w.digits + w.exponent

/-- **The nearest number of double precision**, without the sign; nothing if it is out of range.  A
number that is far out of range, or that vanishes, is not computed. -/
def double? (w : Written) : Option Rat :=
  if w.digits = 0 || w.bound < -400 then some 0
  else if 400 < w.bound then none
  else
    let nearest := nearestBinary w.size
    if (Nat.pow 2 1024 : Rat) ≤ nearest then none else some nearest

end Written

/-! ### Writing -/

/-- The power of ten that the first digit of a positive number stands for. -/
def leadingPlace (q : Rat) : Int :=
  if 1 ≤ q then (digitCount q.floor.toNat : Int) - 1
  else -(digitCount ((1 / q).ceil.toNat - 1) : Int)

/-- The digits, in multiples of `10 ^ place`, that lead back to a number: of its two neighbours the
nearer one that does. -/
def digitsAt? (q : Rat) (place : Int) : Option Nat :=
  let scaled := scaleDecimal q (-place)
  let leadsBack (digits : Nat) : Bool := ({ digits, exponent := place } : Written).double? == some q
  let near := (roundHalfEven scaled).toNat
  let far := if (near : Rat) ≤ scaled then near + 1 else near - 1
  if leadsBack near then some near else if leadsBack far then some far else none

/-- The fewest digits from `count` on, at most `more` further ones.  A number right below a power of
ten may be written by that power, which needs one digit only. -/
def shortestFrom (q : Rat) : Nat → Nat → Written
  | 0, count =>
      let place := leadingPlace q - count + 1
      { digits := (roundHalfEven (scaleDecimal q (-place))).toNat, exponent := place }
  | more + 1, count =>
      let place := leadingPlace q - count + 1
      match digitsAt? q place with
      | some digits =>
          if digits = Nat.pow 10 count then { digits := 1, exponent := place + count }
          else { digits, exponent := place }
      | none => shortestFrom q more (count + 1)

/-- **A number of double precision by the fewest digits**; seventeen always suffice. -/
def shortest (q : Rat) : Written :=
  if q ≤ 0 then { digits := 0 } else shortestFrom q 16 1

namespace Written

/-- Digits with a point before the last `places` of them. -/
def withPoint (digits places : Nat) : String :=
  if places = 0 then toString digits
  else toString (digits / Nat.pow 10 places) ++ "." ++ String.ofList (lastDigits places digits)

/-- A number that is written with an exponent: the first digit, the others behind a point, and the
power of ten that the first one stands for. -/
def scientific (w : Written) : String :=
  let places := digitCount w.digits - 1
  let place := w.bound - 1
  withPoint w.digits places ++ (if place < 0 then "e-" else "e+") ++ toString place.natAbs

/-- **A number in digits.**  It has an exponent if it is less than a millionth or has more than
twenty-one digits before the point. -/
def text (w : Written) : String :=
  (if w.negative then "-" else "") ++
    if w.digits ≠ 0 && (w.bound < -5 || 21 < w.bound) then w.scientific
    else if w.exponent ≤ 0 then withPoint w.digits (-w.exponent).toNat
    else toString (w.digits * Nat.pow 10 w.exponent.toNat)

end Written

end EventRules.Numeral

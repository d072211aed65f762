/-
**Whole numbers in decimal notation.**

Attributes and requests carry whole numbers as text: an optional sign and at least one ASCII digit,
nothing else.  A number has to fit in 64 bits with sign; for one that does not, the nearest number
that does is known.

Main definitions:

* `Numeral.Reading`, `Numeral.readInteger` — the outcome of reading a number, and reading;
* `Numeral.lenient` — the number in any case: nearest when out of range, zero when malformed;
* `Numeral.strict?` — the number if it is one and in range.
-/

set_option relaxedAutoImplicit false
set_option autoImplicit false

namespace EventRules.Numeral

def least : Int := -9223372036854775808

def greatest : Int := 9223372036854775807

/-- **The outcome of reading a number.** -/
inductive Reading where
  | exact (n : Int)
  /-- The text is a number out of range; `nearest` is the end of the range on its side. -/
  | outOfRange (nearest : Int)
  | malformed
  deriving DecidableEq, Repr

def isDigit (c : Char) : Bool :=
  '0' ≤ c && c ≤ '9'

def digitsValue (ds : List Char) : Nat :=
  ds.foldl (fun n d => n * 10 + (d.toNat - '0'.toNat)) 0

def readDigits (negative : Bool) (ds : List Char) : Reading :=
  if ds.isEmpty || !ds.all isDigit then .malformed
  else
    let n : Int := if negative then -(digitsValue ds : Int) else digitsValue ds
    if n < least then .outOfRange least
    else if greatest < n then .outOfRange greatest
    else .exact n

/-- **Reads a whole number.** -/
def readInteger (s : String) : Reading :=
  match s.toList with
  | '-' :: ds => readDigits true ds
  | '+' :: ds => readDigits false ds
  | ds => readDigits false ds

/-- The number that a text writes, as far as it goes. -/
def lenient (s : String) : Int :=
  match readInteger s with
  | .exact n => n
  | .outOfRange nearest => nearest
  | .malformed => 0

/-- The number that a text writes, if it writes one that is in range. -/
def strict? (s : String) : Option Int :=
  match readInteger s with
  | .exact n => some n
  | _ => none

end EventRules.Numeral

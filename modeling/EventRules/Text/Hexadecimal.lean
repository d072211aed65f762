/-
**Hexadecimal digits.**

Characters that cannot be shown are written by their number in hexadecimal digits, and so are
characters in escapes and references.  Written digits are in lower case; both cases are read.

Main definitions:

* `Text.hexDigit`, `Text.hexDigits` — writing;
* `Text.hexDigit?` — reading.
-/

set_option relaxedAutoImplicit false
set_option autoImplicit false

namespace EventRules.Text

def hexDigit (n : Nat) : Char :=
  if n < 10 then Char.ofNat (0x30 + n) else Char.ofNat (0x57 + n)

/-- The last `width` hexadecimal digits of a number. -/
def hexDigits : Nat → Nat → List Char
  | 0, _ => []
  | width + 1, n => hexDigits width (n / 16) ++ [hexDigit (n % 16)]

def hexDigit? (c : Char) : Option Nat :=
  if '0' ≤ c ∧ c ≤ '9' then some (c.toNat - '0'.toNat)
  else if 'a' ≤ c ∧ c ≤ 'f' then some (c.toNat - 'a'.toNat + 10)
  else if 'A' ≤ c ∧ c ≤ 'F' then some (c.toNat - 'A'.toNat + 10)
  else none

end EventRules.Text

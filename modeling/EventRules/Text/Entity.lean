/-
**Character references in descriptive text.**

Descriptions carry characters as references: `&#65;` and `&#x41;` by number, `&amp;` by name.
Reading them is lenient.  A number needs no closing semicolon, but then it has to have at least two
digits; a name that is not in the table may still begin with one of the names that need no
semicolon, and the longest such beginning wins; everything else stays as it is written.  What a
reference stands for is not looked at again.

Main definitions:

* `Text.referenceChar` — the character with a given number;
* `Text.numericReference?`, `Text.namedReference?` — the reference after an ampersand;
* `Text.unescape` — a text with its references replaced.
-/

import EventRules.Text.Glyph
import EventRules.Text.Hexadecimal
import EventRules.Text.Search
import EventRules.Text.EntityTable

set_option relaxedAutoImplicit false
set_option autoImplicit false

namespace EventRules.Text

/-- What the numbers from 128 to 159 stand for: the characters that the most common single-byte
character set has in these places. -/
def referenceGap : List Nat :=
  [0x20AC, 0x81, 0x201A, 0x192, 0x201E, 0x2026, 0x2020, 0x2021, 0x2C6, 0x2030, 0x160, 0x2039,
    0x152, 0x8D, 0x17D, 0x8F, 0x90, 0x2018, 0x2019, 0x201C, 0x201D, 0x2022, 0x2013, 0x2014,
    0x2DC, 0x2122, 0x161, 0x203A, 0x153, 0x9D, 0x17E, 0x178]

/-- **The character with a given number.**  The number is kept in 32 bits; one that is no
character, zero included, gives the replacement character. -/
def referenceChar (number : UInt32) : Char :=
  let n := number.toNat
  if 0x80 ≤ n ∧ n ≤ 0x9F then
    Char.ofNat ((referenceGap[n - 0x80]?).getD 0xFFFD)
  else if n = 0 ∨ (0xD800 ≤ n ∧ n ≤ 0xDFFF) ∨ 0x10FFFF < n then replacement
  else Char.ofNat n

def decimalDigit? (c : Char) : Option Nat :=
  if '0' ≤ c ∧ c ≤ '9' then some (c.toNat - '0'.toNat) else none

/-- The number that digits write in a base, in 32 bits. -/
def referenceNumber (base : UInt32) (digits : List Nat) : UInt32 :=
  digits.foldl (fun n d => base * n + UInt32.ofNat d) 0

/-- The digits at the front of a text: their values, and how many characters they take together
with a semicolon after them. -/
def referenceDigits (digit? : Char → Option Nat) (cs : List Char) : List Nat × Nat :=
  let digits := cs.takeWhile (fun c => (digit? c).isSome)
  let closed := (cs.drop digits.length).head? == some ';'
  (digits.filterMap digit?, digits.length + if closed then 1 else 0)

/-- The reference by number that follows `&#`: its characters, and how many characters after the
`&` it takes. -/
def numericReference? (cs : List Char) : Option (List Char × Nat) :=
  let (base, marks, body, digit?) : UInt32 × Nat × List Char × (Char → Option Nat) :=
    match cs with
    | 'x' :: more => (16, 1, more, hexDigit?)
    | 'X' :: more => (16, 1, more, hexDigit?)
    | _ => (10, 0, cs, decimalDigit?)
  let (digits, taken) := referenceDigits digit? body
  if cs.length ≤ 1 ∨ marks + taken ≤ 1 then none
  else some ([referenceChar (referenceNumber base digits)], 1 + marks + taken)

def isEntityChar (c : Char) : Bool :=
  ('a' ≤ c && c ≤ 'z') || ('A' ≤ c && c ≤ 'Z') || ('0' ≤ c && c ≤ '9')

def entityChars? (name : String) : Option (List Char) :=
  (entities.lookup name).map (·.map Char.ofNat)

/-- Is the name one that needs no semicolon? -/
def isOpenEntity (name : String) : Bool :=
  openEntities.contains name

/-- The longest beginning of the letters, of between two and `most` characters, that is a name
without semicolon. -/
def openEntity? (letters : List Char) : Nat → Option (List Char × Nat)
  | 0 => none
  | n + 1 =>
      if n + 1 < 2 then none
      else
        let name := String.ofList (letters.take (n + 1))
        if isOpenEntity name then (entityChars? name).map (·, n + 1)
        else openEntity? letters n

/-- The longest name that needs no semicolon has this many letters. -/
def longestOpenEntity : Nat := 6

/-- The reference by name that follows `&`: its characters, and how many characters after the `&`
it takes. -/
def namedReference? (cs : List Char) : Option (List Char × Nat) :=
  let letters := cs.takeWhile isEntityChar
  let name := String.ofList letters
  if (cs.drop letters.length).head? == some ';' then
    match entityChars? name with
    | some found => some (found, letters.length + 1)
    | none => openEntity? letters (min letters.length longestOpenEntity)
  else if isOpenEntity name then (entityChars? name).map (·, letters.length)
  else openEntity? letters (min (letters.length - 1) longestOpenEntity)

def reference? : List Char → Option (List Char × Nat)
  | '#' :: cs => numericReference? cs
  | cs => namedReference? cs

/-- Replacing references with `skip` characters still to be passed over. -/
def unescapeFrom : Nat → List Char → List Char
  | _, [] => []
  | skip + 1, _ :: cs => unescapeFrom skip cs
  | 0, c :: cs =>
      if c = '&' then
        match reference? cs with
        | some (found, taken) => found ++ unescapeFrom taken cs
        | none => '&' :: unescapeFrom 0 cs
      else c :: unescapeFrom 0 cs

def unescapeChars (cs : List Char) : List Char :=
  unescapeFrom 0 cs

/-- **A text with all its references replaced.** -/
def unescape (s : String) : String :=
  String.ofList (unescapeChars s.toList)

theorem unescapeChars_of_not_mem {cs : List Char} (h : '&' ∉ cs) : unescapeChars cs = cs := by
  unfold unescapeChars
  induction cs with
  | nil => rfl
  | cons c cs ih =>
      simp only [List.mem_cons, not_or] at h
      have hc : c ≠ '&' := fun e => h.1 e.symm
      simp [unescapeFrom, hc, ih h.2]

end EventRules.Text

/-
**Documents as bytes and as glyphs.**

A document arrives as bytes.  Everything that reads one works on *glyphs* instead: a glyph is a
character, or a single byte that belongs to no well-formed UTF-8 sequence.  Keeping such a byte as
a glyph of its own postpones the decision what to do about it: an element text refuses it, an
error message shows it as the replacement character, a declared single-byte character set gives
it a meaning.

Decoding walks over the bytes with a counter of bytes that were already used up by the character
before them; this keeps the recursion structural.

Main definitions:

* `Glyph` — a character or a stray byte;
* `Utf8.encode`, `Utf8.decode` — between characters and bytes, every byte accounted for;
* `Utf8.decodeMaximal` — decoding that replaces each maximal ill-formed run by one character;
* `Utf16.decode` — both byte orders, with unpaired surrogates replaced.
-/

set_option relaxedAutoImplicit false
set_option autoImplicit false

namespace EventRules

abbrev Bytes := List UInt8

def replacement : Char := Char.ofNat 0xFFFD

/-- **A glyph**: a character, or a byte that is part of no well-formed UTF-8 sequence. -/
inductive Glyph where
  | char (c : Char)
  /-- A byte outside every well-formed sequence. -/
  | stray (b : UInt8)
  deriving DecidableEq, Repr, Inhabited

namespace Glyph

def shown : Glyph → Char
  | .char c => c
  | .stray _ => replacement

def is (c : Char) : Glyph → Bool
  | .char d => d == c
  | .stray _ => false

/-- Does the glyph hold a character that satisfies `p`? -/
def holds (p : Char → Bool) : Glyph → Bool
  | .char c => p c
  | .stray _ => false

def bytes : Glyph → Bytes
  | .char c => String.utf8EncodeChar c
  | .stray b => [b]

def text (gs : List Glyph) : String :=
  String.ofList (gs.map shown)

def ofString (s : String) : List Glyph :=
  s.toList.map .char

def chars? : List Glyph → Option (List Char)
  | [] => some []
  | .char c :: gs => (chars? gs).map (c :: ·)
  | .stray _ :: _ => none

/-- Do the glyphs begin with the characters `cs`?  If so, what follows them. -/
def strip? : List Char → List Glyph → Option (List Glyph)
  | [], gs => some gs
  | c :: cs, g :: gs => if g.is c then strip? cs gs else none
  | _ :: _, [] => none

@[simp] theorem is_char (c d : Char) : (Glyph.char d).is c = (d == c) := rfl

@[simp] theorem is_stray (c : Char) (b : UInt8) : (Glyph.stray b).is c = false := rfl

@[simp] theorem chars?_map_char (cs : List Char) : chars? (cs.map .char) = some cs := by
  induction cs with
  | nil => rfl
  | cons c cs ih => simp [chars?, ih]

end Glyph

/-! ### UTF-8 -/

namespace Utf8

def encodeChars (cs : List Char) : Bytes :=
  cs.flatMap String.utf8EncodeChar

def encode (s : String) : Bytes :=
  encodeChars s.toList

def size (s : String) : Nat :=
  (encode s).length

def isTail (b : UInt8) : Bool :=
  0x80 ≤ b && b ≤ 0xBF

def tailBits (b : UInt8) : Nat :=
  b.toNat - 0x80

/-- The bytes that may follow the first byte of a sequence of several bytes, and the length of
that sequence; nothing for a byte that starts none. -/
def lead? (b : UInt8) : Option (UInt8 × UInt8 × Nat) :=
  if b < 0xC2 then none
  else if b ≤ 0xDF then some (0x80, 0xBF, 2)
  else if b = 0xE0 then some (0xA0, 0xBF, 3)
  else if b = 0xED then some (0x80, 0x9F, 3)
  else if b ≤ 0xEF then some (0x80, 0xBF, 3)
  else if b = 0xF0 then some (0x90, 0xBF, 4)
  else if b ≤ 0xF3 then some (0x80, 0xBF, 4)
  else if b = 0xF4 then some (0x80, 0x8F, 4)
  else none

/-- The character at the front of the bytes, with the number of bytes it takes after its first
one; nothing if they start with no well-formed sequence. -/
def front? (b : UInt8) (rest : Bytes) : Option (Char × Nat) :=
  if b < 0x80 then some (Char.ofNat b.toNat, 0)
  else
    match lead? b, rest with
    | some (low, high, 2), b₁ :: _ =>
        if low ≤ b₁ && b₁ ≤ high then
          some (Char.ofNat ((b.toNat - 0xC0) * 64 + tailBits b₁), 1)
        else none
    | some (low, high, 3), b₁ :: b₂ :: _ =>
        if low ≤ b₁ && b₁ ≤ high && isTail b₂ then
          some (Char.ofNat (((b.toNat - 0xE0) * 64 + tailBits b₁) * 64 + tailBits b₂), 2)
        else none
    | some (low, high, 4), b₁ :: b₂ :: b₃ :: _ =>
        if low ≤ b₁ && b₁ ≤ high && isTail b₂ && isTail b₃ then
          some (Char.ofNat
            ((((b.toNat - 0xF0) * 64 + tailBits b₁) * 64 + tailBits b₂) * 64 + tailBits b₃), 3)
        else none
    | _, _ => none

/-- Decoding with `skip` bytes still to be passed over. -/
def decodeFrom : Nat → Bytes → List Glyph
  | _, [] => []
  | skip + 1, _ :: rest => decodeFrom skip rest
  | 0, b :: rest =>
    match front? b rest with
    | some (c, more) => .char c :: decodeFrom more rest
    | none => .stray b :: decodeFrom 0 rest

/-- **The glyphs of a document.** -/
def decode (bs : Bytes) : List Glyph :=
  decodeFrom 0 bs

/-- The text that shows a document: a stray byte becomes the replacement character. -/
def text (bs : Bytes) : String :=
  Glyph.text (decode bs)

def text? (bs : Bytes) : Option String :=
  (Glyph.chars? (decode bs)).map String.ofList

/-- The number of further bytes in the longest ill-formed run at the front: as many bytes of the
sequence that the first byte announces as are there and fit. -/
def illFormedTail (b : UInt8) (rest : Bytes) : Nat :=
  match lead? b, rest with
  | some (low, high, n), b₁ :: more =>
      if low ≤ b₁ && b₁ ≤ high then
        1 + ((more.take (n - 2)).takeWhile isTail).length
      else 0
  | _, _ => 0

/-- Decoding that shows every maximal ill-formed run as one replacement character. -/
def decodeMaximalFrom : Nat → Bytes → List Char
  | _, [] => []
  | skip + 1, _ :: rest => decodeMaximalFrom skip rest
  | 0, b :: rest =>
    match front? b rest with
    | some (c, more) => c :: decodeMaximalFrom more rest
    | none => replacement :: decodeMaximalFrom (illFormedTail b rest) rest

/-- The characters of a document, with one replacement character for every maximal ill-formed
run of bytes. -/
def decodeMaximal (bs : Bytes) : List Char :=
  decodeMaximalFrom 0 bs

@[simp] theorem decodeFrom_nil (n : Nat) : decodeFrom n [] = [] := by
  cases n <;> rfl

theorem decodeFrom_eq_drop (n : Nat) (bs : Bytes) : decodeFrom n bs = decodeFrom 0 (bs.drop n) := by
  induction n generalizing bs with
  | zero => rfl
  | succ n ih =>
      cases bs with
      | nil => simp
      | cons b bs => simpa [decodeFrom] using ih bs

end Utf8

/-! ### UTF-16 -/

namespace Utf16

inductive ByteOrder where
  /-- The low byte comes first. -/
  | little
  /-- The high byte comes first. -/
  | big
  deriving DecidableEq, Repr

def unit (order : ByteOrder) (first second : UInt8) : Nat :=
  match order with
  | .little => second.toNat * 256 + first.toNat
  | .big => first.toNat * 256 + second.toNat

/-- The code units of the bytes; `none` stands for a last byte without a partner. -/
def units (order : ByteOrder) : Bytes → List (Option Nat)
  | first :: second :: rest => some (unit order first second) :: units order rest
  | [_] => [none]
  | [] => []

def isHigh (u : Nat) : Bool :=
  0xD800 ≤ u && u < 0xDC00

def isLow (u : Nat) : Bool :=
  0xDC00 ≤ u && u < 0xE000

def pair (high low : Nat) : Char :=
  Char.ofNat ((high - 0xD800) * 0x400 + (low - 0xDC00) + 0x10000)

/-- The characters of the code units.  A surrogate that is followed by a second half uses it up,
whether or not the two form a pair. -/
def ofUnits : List (Option Nat) → List Char
  | [] => []
  | none :: rest => replacement :: ofUnits rest
  | some u :: some v :: rest =>
      if (isHigh u || isLow u) && isLow v then
        (if isHigh u then pair u v else replacement) :: ofUnits rest
      else if isHigh u || isLow u then replacement :: ofUnits (some v :: rest)
      else Char.ofNat u :: ofUnits (some v :: rest)
  | some u :: rest =>
      (if isHigh u || isLow u then replacement else Char.ofNat u) :: ofUnits rest

/-- **The characters of UTF-16 bytes** in the given byte order. -/
def decode (order : ByteOrder) (bs : Bytes) : List Char :=
  ofUnits (units order bs)

def unitBytes (order : ByteOrder) (u : Nat) : Bytes :=
  match order with
  | .little => [UInt8.ofNat (u % 256), UInt8.ofNat (u / 256)]
  | .big => [UInt8.ofNat (u / 256), UInt8.ofNat (u % 256)]

def encodeChar (order : ByteOrder) (c : Char) : Bytes :=
  let n := c.toNat
  if n < 0x10000 then unitBytes order n
  else
    unitBytes order ((n - 0x10000) / 0x400 + 0xD800) ++
      unitBytes order ((n - 0x10000) % 0x400 + 0xDC00)

/-- The UTF-16 bytes of a list of characters, without a byte order mark. -/
def encodeChars (order : ByteOrder) (cs : List Char) : Bytes :=
  cs.flatMap (encodeChar order)

end Utf16

end EventRules

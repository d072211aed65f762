/-
**Variables from a file.**

Settings that the surroundings do not give may stand in a file of variables.  A statement gives a
name and, behind an equals sign or a colon, a value; the word `export` may stand before it.  Blank
lines are passed over, and so is everything from a number sign to the end of its line.

A value without quotes goes to the end of its line or to a comment, which starts with the last
number sign that stands behind a blank.  A value in quotes goes to the next quote of the same kind
that has no backslash before it.  Inside double quotes a backslash makes a line end of `n` or `r`
and is otherwise dropped.  Except in single quotes, a dollar sign with a name stands for the value
that the file has given that name before; a backslash takes away its meaning.

A file with a mistake in it gives nothing at all.  Variables of the surroundings win over those of
the file, even if they are empty.

Main definitions:

* `VariableFile.parse?` — the variables of a file;
* `VariableFile.complete` — the surroundings completed by a file.
-/

import EventRules.Dictionary
import EventRules.Text.Glyph
import EventRules.Text.Search
import EventRules.Text.Space

set_option relaxedAutoImplicit false
set_option autoImplicit false

namespace EventRules.VariableFile

/-- A blank within a line; a carriage return counts as one. -/
def isBlank (c : Char) : Bool :=
  let n := c.toNat
  n == 0x20 || n == 0x09 || (0x0B ≤ n && n ≤ 0x0D) || n == 0x85 || n == 0xA0

/-- A byte that a name may hold: an ASCII letter or digit, an underscore, a point, or a byte that
would be a letter or a number in Latin-1. -/
def isNameByte (b : UInt8) : Bool :=
  let n := b.toNat
  (0x30 ≤ n && n ≤ 0x39) || (0x41 ≤ n && n ≤ 0x5A) || (0x61 ≤ n && n ≤ 0x7A) || n == 0x5F ||
    n == 0x2E || n ∈ [0xAA, 0xB5, 0xBA, 0xB2, 0xB3, 0xB9, 0xBC, 0xBD, 0xBE] ||
    (0xC0 ≤ n && n != 0xD7 && n != 0xF7)

/-- A byte that may stand before the sign: part of a name, or blank. -/
def isKeyByte (b : UInt8) : Bool :=
  isNameByte b || isBlank (Char.ofNat b.toNat)

/-- Where the next statement starts; `comment` says that a comment is being passed over. -/
def statement : Bool → List Glyph → List Glyph
  | _, [] => []
  | true, g :: gs => statement (!g.is '\n') gs
  | false, g :: gs =>
      if g.holds Text.isSpace then statement false gs
      else if g.is '#' then statement true gs
      else g :: gs

/-- The statement without the word `export` before it. -/
def withoutExport (gs : List Glyph) : List Glyph :=
  match Glyph.strip? "export".toList gs with
  | some (g :: rest) => if g.holds isBlank then rest.dropWhile (·.holds isBlank) else gs
  | _ => gs

def endsName (g : Glyph) : Bool :=
  g.is '=' || g.is ':'

/-- The name of a statement and what follows the sign behind it.  A statement that has no sign is
all value and has an empty name; an empty statement is a mistake, and so is one that holds something
else before the sign. -/
def name? (gs : List Glyph) : Option (String × List Glyph) :=
  let before := gs.takeWhile (!endsName ·)
  if gs.isEmpty || !before.all (·.bytes.all isKeyByte) then none
  else
    match gs.dropWhile (!endsName ·) with
    | [] => some ("", gs)
    | _ :: after =>
        some (String.ofList (Text.trimRightChars (before.map Glyph.shown)),
          after.dropWhile (·.holds isBlank))

/-! ### Values -/

/-- A capital letter, a digit or an underscore. -/
def isReferenceChar (c : Char) : Bool :=
  ('A' ≤ c && c ≤ 'Z') || ('0' ≤ c && c ≤ '9') || c == '_'

/-- How many of the given characters start the text: one or none. -/
def optional (c : Char) (cs : List Char) : Nat :=
  if cs.head? = some c then 1 else 0

/-- What follows a dollar sign: the number of characters that belong to it, and the name. -/
def reference (cs : List Char) : Nat × List Char :=
  let a := optional '(' cs
  let b := a + optional '\x7b' (cs.drop a)
  let name := (cs.drop b).takeWhile isReferenceChar
  let c := b + name.length
  (c + optional '\x7d' (cs.drop c), name)

/-- The text with every reference replaced; `skip` characters still belong to the last one. -/
def expandFrom (known : Dictionary String) : Nat → List Char → List Char
  | _, [] => []
  | skip + 1, _ :: cs => expandFrom known skip cs
  | 0, '\\' :: '$' :: cs =>
      let (size, _) := reference cs
      '$' :: cs.take size ++ expandFrom known size cs
  | 0, c :: cs =>
      if c = '$' then
        let (size, name) := reference cs
        (if name.isEmpty then c :: cs.take size
          else ((known.get? (String.ofList name)).getD "").toList) ++ expandFrom known size cs
      else c :: expandFrom known 0 cs

def expand (known : Dictionary String) (cs : List Char) : String :=
  String.ofList (expandFrom known 0 cs)

/-- A backslash with `n` or `r` as the line end it stands for; other pairs stay. -/
def lineEnds : List Char → List Char
  | '\\' :: c :: cs =>
      if c = 'n' then '\n' :: lineEnds cs
      else if c = 'r' then '\r' :: lineEnds cs
      else '\\' :: c :: lineEnds cs
  | c :: cs => c :: lineEnds cs
  | [] => []

def dropBackslashes : List Char → List Char
  | '\\' :: c :: cs => if c = '$' then '\\' :: c :: dropBackslashes cs else c :: dropBackslashes cs
  | c :: cs => c :: dropBackslashes cs
  | [] => []

/-- The characters before the last number sign that stands behind a blank, if there is one, given
the character before. -/
def beforeComment? : Char → List Char → Option (List Char)
  | _, [] => none
  | last, c :: cs =>
      match beforeComment? c cs with
      | some before => some (c :: before)
      | none => if c = '#' && isBlank last then some [] else none

def endsLine (g : Glyph) : Bool :=
  g.is '\n' || g.is '\r'

def plainValue (known : Dictionary String) (line : List Glyph) : String :=
  let shown := line.map Glyph.shown
  let value := (beforeComment? '=' shown).getD shown
  expand known ((value.dropWhile isBlank).reverse.dropWhile isBlank).reverse

/-- What stands before the closing quote, and what after it, given the glyph before. -/
def closing (quote : Char) : Glyph → List Glyph → Option (List Glyph × List Glyph)
  | _, [] => none
  | last, g :: gs =>
      if g.is quote && !last.is '\\' then some ([], gs)
      else (closing quote g gs).map fun (inner, rest) => (g :: inner, rest)

/-- A value in quotes, given what stands between them. -/
def quotedValue (known : Dictionary String) (quote : Char) (inner : List Glyph) : String :=
  let text := ((inner.map Glyph.shown).reverse.dropWhile (· == quote)).reverse
  if quote = '"' then expand known (dropBackslashes (lineEnds text)) else String.ofList text

/-- The value at the beginning of what follows a sign, and what follows the value. -/
def value? (known : Dictionary String) (gs : List Glyph) : Option (String × List Glyph) :=
  match gs with
  | .char c :: rest =>
      if c = '"' || c = '\x27' then
        (closing c (.char c) rest).map fun (inner, after) => (quotedValue known c inner, after)
      else some (plainValue known (gs.takeWhile (!endsLine ·)), gs.dropWhile (!endsLine ·))
  | _ => some (plainValue known (gs.takeWhile (!endsLine ·)), gs.dropWhile (!endsLine ·))

/-! ### Files -/

/-- The variables of at most `fuel` statements on top of those known; every statement takes at
least one glyph. -/
def parseFrom? : Nat → Dictionary String → List Glyph → Option (Dictionary String)
  | 0, known, _ => some known
  | fuel + 1, known, gs =>
      match statement false gs with
      | [] => some known
      | start => do
          let (name, rest) ← name? (withoutExport start)
          let (value, rest') ← value? known rest
          parseFrom? fuel (known.insert name value) rest'

def joinLineEnds : Bytes → Bytes
  | 13 :: 10 :: bs => 10 :: joinLineEnds bs
  | b :: bs => b :: joinLineEnds bs
  | [] => []

/-- **The variables of a file**; nothing if there is a mistake in it. -/
def parse? (file : Bytes) : Option (Dictionary String) :=
  let gs := Utf8.decode (joinLineEnds file)
  parseFrom? gs.length [] gs

/-- Can the surroundings hold this variable?  It needs a name, and its value no null character. -/
def isHeld (name value : String) : Bool :=
  !name.isEmpty && !value.toList.contains '\x00'

/-- **The surroundings completed by a file.** -/
def complete (surroundings : Dictionary String) (file : Bytes) : Dictionary String :=
  ((parse? file).getD []).foldl
    (fun d e =>
      if (surroundings.get? e.1).isSome || !isHeld e.1 e.2 then d else d.insert e.1 e.2)
    surroundings

end EventRules.VariableFile

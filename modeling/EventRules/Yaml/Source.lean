/-
**The characters of a YAML document in their places.**

A document is UTF-8, or UTF-16 if it starts with the byte order mark of that.  It is read as a list
of *spots*: characters with the line and the column they stand in.  The list ends with a spot that
holds no character of the document but the end mark, so that also the end of the document has a
place.

Every usual way to end a line is read as a line feed.  The line and paragraph separators of Unicode
end a line too, but stay what they are.

Main definitions:

* `Yaml.Place`, `Yaml.Spot`, `Yaml.Source` — characters in their places;
* `Yaml.isBlank`, `Yaml.isBreak`, `Yaml.isGap` — what separates words;
* `Yaml.Source.atMark` — the marks between documents;
* `Yaml.Source.read` — the source of a document.
-/

import EventRules.Yaml.Fault

set_option relaxedAutoImplicit false
set_option autoImplicit false

namespace EventRules.Yaml

/-! ### Characters -/

/-- The character that stands for the end of a document; no document holds it. -/
def endMark : Char := '\x00'

def isAllowed (c : Char) : Bool :=
  let n := c.toNat
  n == 0x09 || n == 0x0A || n == 0x0D || (0x20 ≤ n && n ≤ 0x7E) || n == 0x85 ||
    (0xA0 ≤ n && n ≤ 0xFFFD) || 0x10000 ≤ n

def isBlank (c : Char) : Bool :=
  c == ' ' || c == '\t'

def isBreak (c : Char) : Bool :=
  c == '\n' || c.toNat == 0x2028 || c.toNat == 0x2029

def isLineEnd (c : Char) : Bool :=
  isBreak c || c == endMark

/-- **What a word ends at**: a blank, the end of a line or of the document. -/
def isGap (c : Char) : Bool :=
  isBlank c || isLineEnd c

/-! ### Places -/

/-- **A place in a document.**  Everything is counted from zero. -/
structure Place where
  index : Nat := 0
  line : Nat := 0
  column : Nat := 0
  deriving DecidableEq, Repr, Inhabited

/-- The place behind a character that takes `size` characters of the document. -/
def Place.after (p : Place) (c : Char) (size : Nat) : Place :=
  if isBreak c then ⟨p.index + size, p.line + 1, 0⟩ else ⟨p.index + size, p.line, p.column + 1⟩

/-- **A character in its place.** -/
structure Spot where
  char : Char
  place : Place
  deriving DecidableEq, Repr, Inhabited

abbrev Spot.column (s : Spot) : Nat := s.place.column

/-- **What is left of a document**, up to and with its end mark. -/
abbrev Source := List Spot

namespace Source

def char (source : Source) : Char :=
  (source.head?.map Spot.char).getD endMark

def place (source : Source) : Place :=
  (source.head?.map Spot.place).getD {}

/-- Is this the mark between documents that is written with this character? -/
def atMarkOf (c : Char) (source : Source) : Bool :=
  match source with
  | a :: b :: d :: rest =>
      a.column == 0 && a.char == c && b.char == c && d.char == c && isGap (Source.char rest)
  | _ => false

/-- **Is this a mark between documents?** -/
def atMark (source : Source) : Bool :=
  source.atMarkOf '-' || source.atMarkOf '.'

/-- What follows the rest of the line, the end of the line not included. -/
def skipLine (source : Source) : Source :=
  source.dropWhile fun s => !isLineEnd s.char

def skipBlanks (source : Source) : Source :=
  source.dropWhile fun s => isBlank s.char

/-- The characters in their places, from a given place on. -/
def ofCharsFrom : Place → List Char → Source
  | p, [] => [⟨endMark, p⟩]
  | p, '\r' :: '\n' :: cs => ⟨'\n', p⟩ :: ofCharsFrom (p.after '\n' 2) cs
  | p, c :: cs =>
      let read := if c = '\r' || c.toNat = 0x85 then '\n' else c
      ⟨read, p⟩ :: ofCharsFrom (p.after read 1) cs

def ofChars (cs : List Char) : Source :=
  ofCharsFrom {} cs

end Source

/-! ### Bytes -/

def byteProblem (b : UInt8) (rest : Bytes) : Problem :=
  let width := if b < 0xC0 then 0 else if b < 0xE0 then 2 else if b < 0xF0 then 3
    else if b < 0xF8 then 4 else 0
  let tail := rest.take (width - 1)
  if width = 0 then .leadingByte
  else if tail.length + 1 < width then .incomplete
  else if !tail.all Utf8.isTail then .trailingByte
  else if b < 0xC2 || ((b = 0xE0 || b = 0xF0) && (Utf8.front? b rest).isNone) then .overlong
  else .noCharacter

/-- The characters of UTF-8 bytes up to the first problem, and that, with `skip` bytes still to be
passed over. -/
def utf8Chars : Nat → Bytes → List Char × Option Problem
  | _, [] => ([], none)
  | skip + 1, _ :: rest => utf8Chars skip rest
  | 0, b :: rest =>
      match Utf8.front? b rest with
      | none => ([], some (byteProblem b rest))
      | some (c, more) =>
          let (cs, problem) := utf8Chars more rest
          (c :: cs, problem)

/-- The characters of UTF-16 units up to the first problem, and that. -/
def utf16Chars : List (Option Nat) → List Char × Option Problem
  | [] => ([], none)
  | none :: _ => ([], some .incompleteUnit)
  | some u :: rest =>
      if Utf16.isLow u then ([], some .unexpectedLow)
      else if Utf16.isHigh u then
        match rest with
        | some v :: rest' =>
            if Utf16.isLow v then
              let (cs, problem) := utf16Chars rest'
              (Utf16.pair u v :: cs, problem)
            else ([], some .expectedLow)
        | _ => ([], some .incompletePair)
      else
        let (cs, problem) := utf16Chars rest
        (Char.ofNat u :: cs, problem)

/-- The characters of a document without its byte order mark, up to the first problem, and that. -/
def documentChars : Bytes → List Char × Option Problem
  | 0xFF :: 0xFE :: rest => utf16Chars (Utf16.units .little rest)
  | 0xFE :: 0xFF :: rest => utf16Chars (Utf16.units .big rest)
  | 0xEF :: 0xBB :: 0xBF :: rest => utf8Chars 0 rest
  | [] => (['\n'], none)
  | bytes => utf8Chars 0 bytes

/-- **The source of a document**, if all its bytes form characters that it may hold. -/
def Source.read (document : Bytes) : Except Fault Source :=
  match documentChars document with
  | (cs, problem) =>
      if cs.all isAllowed then
        match problem with
        | some p => .error (.problem 0 p)
        | none => .ok (Source.ofChars cs)
      else .error (.problem 0 .control)

end EventRules.Yaml

/-
**Writing YAML documents.**

A record of texts is written as a mapping with one field after the other.  A text that would be read
back as something else, or that holds a character with a meaning of its own, is written in quotes:
in single ones where that is enough, else in double ones, with every character that cannot be shown
written by its number.  A text with line feeds is written as a block, line by line.

The block starts right behind its sign.  If the text starts with a line break, that break ends the
line of the sign, so that it is not read back.

Main definitions:

* `Yaml.Traits` — what matters about the characters of a text;
* `Yaml.Style`, `Yaml.style` — how a text is written;
* `Yaml.scalarText` — a text as it is written;
* `Yaml.document` — a record as it is written.
-/

import EventRules.Yaml.Meaning
import EventRules.Yaml.Source

set_option relaxedAutoImplicit false
set_option autoImplicit false

namespace EventRules.Yaml

/-! ### Texts -/

def isShown (c : Char) : Bool :=
  let n := c.toNat
  n == 0x0A || (0x20 ≤ n && n ≤ 0x7E) || (0xA0 ≤ n && n ≤ 0xFFFD && n != 0xFEFF)

/-- A line break in a text; in a document all of these end a line. -/
def isTextBreak (c : Char) : Bool :=
  isBreak c || c == '\r' || c.toNat == 0x85

/-- Does a text that starts like this need quotes?  `next` is the second character, if there is
one. -/
def startNeedsQuotes (c : Char) (next : Option Char) : Bool :=
  "#,[]\x7b\x7d&*!|>\x27\"%@\x60".toList.contains c ||
    ("?:-".toList.contains c && next.all isBlank)

/-- Is there a colon before a blank or the end, or a number sign behind a blank?  `previous` is the
character before. -/
def hasSeparator : Char → List Char → Bool
  | _, [] => false
  | previous, c :: cs =>
      (c == ':' && cs.head?.all isBlank) || (c == '#' && isGap previous) || hasSeparator c cs

/-- Does some character satisfy `p` with the next one satisfying `q`? -/
def hasPair (p q : Char → Bool) : List Char → Bool
  | a :: b :: cs => (p a && q b) || hasPair p q (b :: cs)
  | _ => false

/-- **What matters about the characters of a text** when it is written. -/
structure Traits where
  isIndicative : Bool
  isPadded : Bool
  endsInSpace : Bool
  isBroken : Bool
  breakSpace : Bool
  spaceBreak : Bool
  hasTab : Bool
  isSpecial : Bool
  deriving DecidableEq, Repr

def traits (cs : List Char) : Traits where
  isIndicative :=
    cs.take 3 == "---".toList || cs.take 3 == "...".toList ||
      (cs.head?.any fun c => startNeedsQuotes c (cs.drop 1).head?) ||
      (cs.head?.any fun c => hasSeparator c (cs.drop 1))
  isPadded :=
    (cs.head?.any fun c => c == ' ' || isTextBreak c) ||
      (cs.getLast?.any fun c => c == ' ' || isTextBreak c)
  endsInSpace := cs.getLast? == some ' '
  isBroken := cs.any isTextBreak
  breakSpace := hasPair isTextBreak (· == ' ') cs
  spaceBreak := hasPair (· == ' ') isTextBreak cs
  hasTab := cs.contains '\t'
  isSpecial := cs.any fun c => !isShown c && c != '\t'

/-! ### Styles -/

/-- **How a text is written.** -/
inductive Style where
  | plain
  | single
  | double
  | literal
  deriving DecidableEq, Repr

def oldTruthWords : List String :=
  ["y", "Y", "yes", "Yes", "YES", "on", "On", "ON",
    "n", "N", "no", "No", "NO", "off", "Off", "OFF"]

/-- Would the text be read back as a text if it were written plainly, by all readers?  Digits with
colons between them are a number to some. -/
def isPlainText (s : String) : Bool :=
  (meaning s == .text || meaning s == .merge) && !oldTruthWords.contains s &&
    !(s.toList.contains ':' && s.toList.head?.any fun c =>
      Numeral.isDigit c || c == '+' || c == '-')

/-- **How a text is written.** -/
def style (s : String) : Style :=
  let t := traits s.toList
  if s.toList.contains '\n' then
    if t.endsInSpace || t.spaceBreak || t.isSpecial then .double else .literal
  else if !isPlainText s then .double
  else if !(t.isIndicative || t.isPadded || t.isBroken || t.hasTab || t.isSpecial) then .plain
  else if t.breakSpace || t.spaceBreak || t.hasTab || t.isSpecial then .double
  else .single

/-! ### Writing -/

/-- The number of blanks before the lines of a text that is written on several lines. -/
def indentation : Nat := 4

def margin : List Char :=
  List.replicate indentation ' '

def codeText (n : Nat) : List Char :=
  let digits (mark : Char) (width : Nat) :=
    '\\' :: mark :: (Text.hexDigits width n).map Char.toUpper
  if n ≤ 0xFF then digits 'x' 2 else if n ≤ 0xFFFF then digits 'u' 4 else digits 'U' 8

def doubleChar (c : Char) : List Char :=
  if isShown c && !isTextBreak c && c != '"' && c != '\\' then [c]
  else
    match c.toNat with
    | 0x00 => ['\\', '0']
    | 0x07 => ['\\', 'a']
    | 0x08 => ['\\', 'b']
    | 0x09 => ['\\', 't']
    | 0x0A => ['\\', 'n']
    | 0x0B => ['\\', 'v']
    | 0x0C => ['\\', 'f']
    | 0x0D => ['\\', 'r']
    | 0x1B => ['\\', 'e']
    | 0x22 => ['\\', '"']
    | 0x5C => ['\\', '\\']
    | 0x85 => ['\\', 'N']
    | 0x2028 => ['\\', 'L']
    | 0x2029 => ['\\', 'P']
    | n => codeText n

/-- Characters line by line, with a margin before the first character of a line; `atStart` says that
a line is starting.  `write` tells how a character is written. -/
def lines (write : Char → List Char) : Bool → List Char → List Char
  | _, [] => []
  | atStart, c :: cs =>
      if isTextBreak c then c :: lines write true cs
      else (if atStart then margin else []) ++ write c ++ lines write false cs

def singleChar (c : Char) : List Char :=
  if c = '\x27' then ['\x27', '\x27'] else [c]

/-- The signs behind the bar of a block: the width of the margin if the text starts with a blank or
a line break, and what becomes of the line breaks at its end. -/
def blockSign (cs : List Char) : List Char :=
  let width := if cs.head?.any fun c => c == ' ' || isTextBreak c then
    (toString indentation).toList else []
  let chomping :=
    match cs.reverse with
    | [] => ['-']
    | [c] => if isTextBreak c then ['+'] else ['-']
    | c :: d :: _ => if !isTextBreak c then ['-'] else if isTextBreak d then ['+'] else []
  width ++ chomping

def literalText (cs : List Char) : List Char :=
  let first := if cs.head?.any isTextBreak then [] else ['\n']
  '|' :: blockSign cs ++ first ++ lines (fun c => [c]) true cs

/-- **A text as it is written.** -/
def scalarText (s : String) : List Char :=
  match style s with
  | .plain => s.toList
  | .single => '\x27' :: lines singleChar false s.toList ++ ['\x27']
  | .double => '"' :: s.toList.flatMap doubleChar ++ ['"']
  | .literal => literalText s.toList

/-- A field of a record, up to the end of its last line. -/
def fieldText (name value : String) : List Char :=
  let written := name.toList ++ ": ".toList ++ scalarText value
  if written.getLast?.any isTextBreak then written else written ++ ['\n']

/-- **A record of texts as it is written.** -/
def document (fields : List (String × String)) : Bytes :=
  Utf8.encodeChars (fields.flatMap fun f => fieldText f.1 f.2)

end EventRules.Yaml

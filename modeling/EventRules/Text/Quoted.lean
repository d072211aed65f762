/-
**Quoted text in messages.**

Messages quote names so that every character is visible: the text stands between double quotes,
printable characters as they are, the usual control characters by their letter, everything else by
its number.  A byte that could not be decoded is shown by its value.

Main definitions:

* `Text.quoteGlyphs` — a list of glyphs in quotes;
* `Text.quote` — a text in quotes.
-/

import EventRules.Text.Glyph
import EventRules.Text.Hexadecimal
import EventRules.Text.Printable

set_option relaxedAutoImplicit false
set_option autoImplicit false

namespace EventRules.Text

def quoteChar (c : Char) : List Char :=
  let n := c.toNat
  if c = '"' then ['\\', '"']
  else if c = '\\' then ['\\', '\\']
  else if isPrintable c then [c]
  else if n = 0x07 then ['\\', 'a']
  else if n = 0x08 then ['\\', 'b']
  else if n = 0x09 then ['\\', 't']
  else if n = 0x0A then ['\\', 'n']
  else if n = 0x0B then ['\\', 'v']
  else if n = 0x0C then ['\\', 'f']
  else if n = 0x0D then ['\\', 'r']
  else if n < 0x20 || n = 0x7F then '\\' :: 'x' :: hexDigits 2 n
  else if n < 0x10000 then '\\' :: 'u' :: hexDigits 4 n
  else '\\' :: 'U' :: hexDigits 8 n

def quoteGlyph : Glyph → List Char
  | .char c => quoteChar c
  | .stray b => '\\' :: 'x' :: hexDigits 2 b.toNat

def quoteGlyphs (gs : List Glyph) : String :=
  String.ofList ('"' :: gs.flatMap quoteGlyph ++ ['"'])

/-- **A text between double quotes.** -/
def quote (s : String) : String :=
  quoteGlyphs (Glyph.ofString s)

end EventRules.Text

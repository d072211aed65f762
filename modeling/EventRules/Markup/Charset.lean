/-
**Declared character sets.**

A declaration inside a document may name the character set of everything that follows it.  UTF-8
and the UTF-16 family mean "as it is", since a document is decoded before it is read; any other
name is looked up in an index, which gives the decoder of the character sets that it knows.  What an
index knows is its own matter: reading a document works with any of them.

One index comes with this library.  It knows a few single-byte character sets, whose lower halves
are ASCII, and a UTF-8 that replaces what is ill-formed.

Main definitions:

* `CharsetIndex` — the decoders of the names that are known;
* `Charset.keepsText` — the names that change nothing;
* `Charset`, `Charset.decode`, `Charset.ofLabel?` — the character sets of this library;
* `Charset.index` — the index of them.
-/

import EventRules.Text.Glyph
import EventRules.Text.Space

set_option relaxedAutoImplicit false
set_option autoImplicit false

namespace EventRules

/-- **An index of character sets**: the decoders of labels, which are given in lower case and
without white space around them. -/
abbrev CharsetIndex := List Glyph → Option (Bytes → List Char)

namespace Charset

/-! ### Labels -/

/-- The lower-case form of a character of a label.  Only letters that have an ASCII lower-case form
matter, as all labels are ASCII: the Kelvin sign and the dotted capital `İ` are the two others. -/
def lowerLabelChar (c : Char) : Char :=
  if c.toNat = 0x212A then 'k' else if c.toNat = 0x130 then 'i' else c.toLower

/-- A label as it is compared: white space around it removed, in lower case. -/
def normalLabel (label : List Glyph) : List Glyph :=
  let blank := Glyph.holds Text.isSpace
  let trimmed := ((label.dropWhile blank).reverse.dropWhile blank).reverse
  trimmed.map fun g =>
    match g with
    | .char c => .char (lowerLabelChar c)
    | .stray b => .stray b

def keepsText (label : List Glyph) : Bool :=
  let l := normalLabel label
  (Glyph.strip? "utf-16".toList l).isSome || l == Glyph.ofString "unicode" ||
    l == Glyph.ofString "utf-8"

end Charset

/-! ### The character sets of this library -/

/-- The characters of `windows-1252` from 128 on; five places are empty. -/
def westernUpper : String :=
  "€\ufffd‚ƒ„…†‡ˆ‰Š‹Œ\ufffdŽ\ufffd\ufffd‘’“”•–—˜™š›œ\ufffdžŸ\u00a0¡¢£¤¥¦§¨©ª«¬\u00ad®¯°" ++
    "±²³´µ¶·¸¹º»¼½¾¿ÀÁÂÃÄÅÆÇÈÉÊËÌÍÎÏÐÑÒÓÔÕÖ×ØÙÚÛÜÝÞßàáâãäåæçèéêëìíîïðñòóôõö÷øùúûüýþÿ"

/-- The characters of `windows-1251` from 128 on; one place is empty. -/
def cyrillicUpper : String :=
  "ЂЃ‚ѓ„…†‡€‰Љ‹ЊЌЋЏђ‘’“”•–—\ufffd™љ›њќћџ\u00a0ЎўЈ¤Ґ¦§Ё©Є«¬\u00ad®Ї°±Ііґµ¶·ё№є»јЅѕїАБВГД" ++
    "ЕЖЗИЙКЛМНОПРСТУФХЦЧШЩЪЫЬЭЮЯабвгдежзийклмнопрстуфхцчшщъыьэюя"

/-- The characters of `koi8-r` from 128 on. -/
def russianUpper : String :=
  "─│┌┐└┘├┤┬┴┼▀▄█▌▐░▒▓⌠■∙√≈≤≥\u00a0⌡°²·÷═║╒ё╓╔╕╖╗╘╙╚╛╜╝╞╟╠╡Ё╢╣╤╥╦╧╨╩╪╫╬©юабцдефгхийклмн" ++
    "опярстужвьызшэщчъЮАБЦДЕФГХИЙКЛМНОПЯРСТУЖВЬЫЗШЭЩЧЪ"

/-- The characters of `iso-8859-2` from 160 on. -/
def latin2Upper : String :=
  "\u00a0Ą˘Ł¤ĽŚ§¨ŠŞŤŹ\u00adŽŻ°ą˛ł´ľśˇ¸šşťź˝žżŔÁÂĂÄĹĆÇČÉĘËĚÍÎĎĐŃŇÓÔŐÖ×ŘŮÚŰÜÝŢßŕáâăäĺćçčé" ++
    "ęëěíîďđńňóôőö÷řůúűüýţ˙"

/-- The characters of `iso-8859-15` from 160 on. -/
def latin9Upper : String :=
  "\u00a0¡¢£€¥Š§š©ª«¬\u00ad®¯°±²³Žµ¶·ž¹º»ŒœŸ¿ÀÁÂÃÄÅÆÇÈÉÊËÌÍÎÏÐÑÒÓÔÕÖ×ØÙÚÛÜÝÞßàáâãäåæçèé" ++
    "êëìíîïðñòóôõö÷øùúûüýþÿ"

/-- **A character set of this library.** -/
inductive Charset where
  | utf8
  /-- This one also serves for ASCII and `iso-8859-1`. -/
  | western
  | cyrillic
  | russian
  | latin2
  | latin9
  deriving DecidableEq, Repr

namespace Charset

/-- The names of each character set, in lower case. -/
def labels : List (Charset × List String) :=
  [(.western,
      ["ansi_x3.4-1968", "ascii", "cp1252", "cp819", "csisolatin1", "ibm819", "iso-8859-1",
       "iso-ir-100", "iso8859-1", "iso88591", "iso_8859-1", "iso_8859-1:1987", "l1", "latin1",
       "us-ascii", "windows-1252", "x-cp1252"]),
    (.cyrillic,
      ["cp1251", "windows-1251", "x-cp1251"]),
    (.russian,
      ["cskoi8r", "koi", "koi8", "koi8-r", "koi8_r"]),
    (.latin2,
      ["csisolatin2", "iso-8859-2", "iso-ir-101", "iso8859-2", "iso88592", "iso_8859-2",
       "iso_8859-2:1987", "l2", "latin2"]),
    (.latin9,
      ["csisolatin9", "iso-8859-15", "iso8859-15", "iso885915", "iso_8859-15", "l9"]),
    (.utf8,
      ["unicode-1-1-utf-8", "unicode11utf8", "unicode20utf8", "utf8", "x-unicode20utf8"])]

/-- The character in a place of the upper half, of which `upper` lists the places from `start` on.
The places before it are empty: what would be a control character is not part of the set. -/
def upperChar (upper : String) (start : Nat) (b : UInt8) : Char :=
  if b.toNat < start then replacement
  else (upper.toList[b.toNat - start]?).getD replacement

/-- The character that a byte stands for in a single-byte character set. -/
def byteChar (upper : String) (start : Nat) (b : UInt8) : Char :=
  if b < 0x80 then Char.ofNat b.toNat else upperChar upper start b

/-- **The characters of the bytes.** -/
def decode : Charset → Bytes → List Char
  | .utf8, bs => Utf8.decodeMaximal bs
  | .western, bs => bs.map (byteChar westernUpper 0x80)
  | .cyrillic, bs => bs.map (byteChar cyrillicUpper 0x80)
  | .russian, bs => bs.map (byteChar russianUpper 0x80)
  | .latin2, bs => bs.map (byteChar latin2Upper 0xA0)
  | .latin9, bs => bs.map (byteChar latin9Upper 0xA0)

def ofLabel? (label : List Glyph) : Option Charset :=
  (labels.find? fun entry => entry.2.any fun l => Glyph.ofString l == label).map (·.1)

/-- **The index of these character sets.** -/
def index : CharsetIndex := fun label =>
  (ofLabel? label).map decode

end Charset

end EventRules

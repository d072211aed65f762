/-
**What can be wrong with a document.**

Reading stops at the first fault.  Most faults are faults of the markup; they are reported with the
line on which reading stopped.  The others are an unsupported version or character set in a
declaration, and a document without any element.

Main definitions:

* `Markup.Flaw`, `Markup.Flaw.message` — the faults of the markup and their wording;
* `Markup.Fault`, `Markup.Fault.message` — everything that makes a document unreadable.
-/

import EventRules.Text.Quoted
import EventRules.Markup.Name

set_option relaxedAutoImplicit false
set_option autoImplicit false

namespace EventRules.Markup

inductive NamePlace where
  | element
  /-- After the bracket and slash that close an element. -/
  | closing
  | attribute
  | instruction
  deriving DecidableEq, Repr

/-- **A fault of the markup.** -/
inductive Flaw where
  | unexpectedEnd
  | unexpectedEndOfLiteral
  | missingName (place : NamePlace)
  | invalidName (name : List Glyph)
  | unfinishedEmptyElement
  | charactersInClosingTag (name : Name)
  | unexpectedClosingTag (name : Name)
  /-- The tag closes an element of the same local name in another space. -/
  | spaceMismatch (opened closed : Name)
  | bracketInQuotes
  /-- The mark that ends literal text stands outside of it. -/
  | literalEndInText
  | invalidEncoding
  | illegalCharacter (c : Char)
  | invalidCommentStart
  | hyphensInComment
  | invalidLiteralStart
  deriving DecidableEq, Repr

/-- A code point as messages show it: at least four hexadecimal digits. -/
def codePoint (c : Char) : String :=
  let digits := (Nat.toDigits 16 c.toNat).map Char.toUpper
  "U+" ++ String.ofList (List.replicate (4 - digits.length) '0' ++ digits)

def NamePlace.message : NamePlace → String
  | .element => "expected element name after <"
  | .closing => "expected element name after </"
  | .attribute => "expected attribute name in element"
  | .instruction => "expected target name after <?"

/-- **The wording of a fault of the markup.** -/
def Flaw.message : Flaw → String
  | .unexpectedEnd => "unexpected EOF"
  | .unexpectedEndOfLiteral => "unexpected EOF in CDATA section"
  | .missingName place => place.message
  | .invalidName name => "invalid XML name: " ++ Glyph.text name
  | .unfinishedEmptyElement => "expected /> in element"
  | .charactersInClosingTag name => "invalid characters between </" ++ name.localPart ++ " and >"
  | .unexpectedClosingTag name => "unexpected end element </" ++ name.localPart ++ ">"
  | .spaceMismatch opened closed =>
      "element <" ++ opened.localPart ++ "> in space " ++ opened.space ++ " closed by </" ++
        closed.localPart ++ "> in space " ++ (if closed.space = "" then "\"\"" else closed.space)
  | .bracketInQuotes => "unescaped < inside quoted string"
  | .literalEndInText => "unescaped ]]> not in CDATA section"
  | .invalidEncoding => "invalid UTF-8"
  | .illegalCharacter c => "illegal character code " ++ codePoint c
  | .invalidCommentStart => "invalid sequence <!- not part of <!--"
  | .hyphensInComment => "invalid sequence \"--\" not allowed in comments"
  | .invalidLiteralStart => "invalid <![ sequence"

/-- **A reason why a document cannot be read.** -/
inductive Fault where
  | flawed (line : Nat) (flaw : Flaw)
  | version (declared : List Glyph)
  | charset (label : List Glyph)
  | noRoot
  deriving DecidableEq, Repr

/-- **The wording of a fault.** -/
def Fault.message : Fault → String
  | .flawed line flaw => s!"xml decode: XML syntax error on line {line}: " ++ flaw.message
  | .version declared =>
      "xml decode: xml: unsupported version " ++ Text.quoteGlyphs declared ++
        "; only version 1.0 is supported"
  | .charset label =>
      "xml decode: xml: opening charset " ++ Text.quoteGlyphs label ++ ": unsupported charset " ++
        Text.quoteGlyphs label ++ ": htmlindex: invalid encoding name"
  | .noRoot => "no root element"

end EventRules.Markup

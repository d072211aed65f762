/-
**What can be wrong with a YAML document.**

A document may hold bytes or characters that it must not hold, it may be laid out wrongly, or it may
be laid out well and still not be what is wanted of it.  In the last case every part that is not
what is wanted is complained about, each with the line it stands in.

Main definitions:

* `Yaml.Problem` — what is wrong with the characters or the layout;
* `Yaml.Complaint` — a part that is not what is wanted;
* `Yaml.Fault`, `Yaml.Fault.message` — why a document cannot be read, and its wording.
-/

import EventRules.Text.Quoted
import EventRules.Text.Search

set_option relaxedAutoImplicit false
set_option autoImplicit false

namespace EventRules.Yaml

/-- **What is wrong with the characters or the layout.** -/
inductive Problem where
  | leadingByte
  | incomplete
  | trailingByte
  | overlong
  | noCharacter
  | incompleteUnit
  | unexpectedLow
  | incompletePair
  | expectedLow
  | control
  | entryNotAllowed
  | keyNotAllowed
  | valueNotAllowed
  | noColon
  | noToken
  | tooDeep
  | tabBeforePlain
  | tabBeforeBlock
  | markInQuotes
  | endInQuotes
  | escape
  | escapeDigits
  | escapeCharacter
  | zeroIndent
  | blockHeader
  | noContent
  | noEntry
  | noKey
  | noSequenceEnd
  | noMappingEnd
  deriving DecidableEq, Repr

def Problem.message : Problem → String
  | .leadingByte => "invalid leading UTF-8 octet"
  | .incomplete => "incomplete UTF-8 octet sequence"
  | .trailingByte => "invalid trailing UTF-8 octet"
  | .overlong => "invalid length of a UTF-8 sequence"
  | .noCharacter => "invalid Unicode character"
  | .incompleteUnit => "incomplete UTF-16 character"
  | .unexpectedLow => "unexpected low surrogate area"
  | .incompletePair => "incomplete UTF-16 surrogate pair"
  | .expectedLow => "expected low surrogate area"
  | .control => "control characters are not allowed"
  | .entryNotAllowed => "block sequence entries are not allowed in this context"
  | .keyNotAllowed => "mapping keys are not allowed in this context"
  | .valueNotAllowed => "mapping values are not allowed in this context"
  | .noColon => "could not find expected ':'"
  | .noToken => "found character that cannot start any token"
  | .tooDeep => "exceeded max depth of 10000"
  | .tabBeforePlain => "found a tab character that violates indentation"
  | .tabBeforeBlock => "found a tab character where an indentation space is expected"
  | .markInQuotes => "found unexpected document indicator"
  | .endInQuotes => "found unexpected end of stream"
  | .escape => "found unknown escape character"
  | .escapeDigits => "did not find expected hexdecimal number"
  | .escapeCharacter => "found invalid Unicode character escape code"
  | .zeroIndent => "found an indentation indicator equal to 0"
  | .blockHeader => "did not find expected comment or line break"
  | .noContent => "did not find expected node content"
  | .noEntry => "did not find expected '-' indicator"
  | .noKey => "did not find expected key"
  | .noSequenceEnd => "did not find expected ',' or ']'"
  | .noMappingEnd => "did not find expected ',' or '\x7d'"

/-- **A part that is not what is wanted.**  Lines are counted from one. -/
inductive Complaint where
  /-- A value of one kind, shown by its text if it is a scalar, stands where another is wanted. -/
  | kind (line : Nat) (found : String) (text : Option String) (wanted : String)
  | duplicate (line : Nat) (key : String) (first : Nat)
  | merge
  deriving DecidableEq, Repr

/-- The text of a scalar as it is shown in a complaint: at most ten bytes of it. -/
def shownText (text : String) : String :=
  if Utf8.size text ≤ 10 then text else Utf8.text ((Utf8.encode text).take 7) ++ "..."

def Complaint.message : Complaint → String
  | .kind line found text wanted =>
      "line " ++ toString line ++ ": cannot unmarshal " ++ found ++
        (text.elim "" fun t => " \x60" ++ shownText t ++ "\x60") ++ " into " ++ wanted
  | .duplicate line key first =>
      "line " ++ toString line ++ ": mapping key " ++ Text.quote key ++
        " already defined at line " ++ toString first
  | .merge => "map merge requires map or sequence of maps as the value"

/-- **Why a document cannot be read.** -/
inductive Fault where
  /-- Something is wrong with the characters or the layout; a line of zero is not told. -/
  | problem (line : Nat) (what : Problem)
  | merge
  | complaints (all : List Complaint)
  deriving DecidableEq, Repr

def Fault.message : Fault → String
  | .problem line what =>
      "yaml: " ++ (if line = 0 then "" else "line " ++ toString line ++ ": ") ++ what.message
  | .merge => "yaml: " ++ Complaint.merge.message
  | .complaints all =>
      "yaml: unmarshal errors:\n  " ++ Text.join "\n  " (all.map Complaint.message)

end EventRules.Yaml

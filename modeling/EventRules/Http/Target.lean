/-
**What a request asks for.**

The target of a request is a path and, behind a question mark, a query.  In both a character may be
written as a percent sign with the two digits of a byte.  The query is a list of names with values;
a plus sign in it stands for a blank, and a pair that cannot be read is passed over.

Main definitions:

* `Http.unescape?`, `Http.escapePath` — reading and writing percent signs;
* `Http.Target`, `Http.Target.parse` — the parts of a target;
* `Http.Target.value` — the value of a name in the query.
-/

import EventRules.Text.Glyph
import EventRules.Text.Hexadecimal
import EventRules.Text.Search

set_option relaxedAutoImplicit false
set_option autoImplicit false

namespace EventRules.Http

/-! ### Percent signs -/

/-- The bytes of characters with percent signs in them; in a query, `plus` makes a plus sign a
blank. -/
def unescapeBytes? (plus : Bool) : List Char → Option Bytes
  | [] => some []
  | '%' :: a :: b :: rest =>
      match Text.hexDigit? a, Text.hexDigit? b with
      | some high, some low =>
          (unescapeBytes? plus rest).map (UInt8.ofNat (high * 16 + low) :: ·)
      | _, _ => none
  | '%' :: _ => none
  | c :: rest =>
      (unescapeBytes? plus rest).map
        (String.utf8EncodeChar (if plus && c = '+' then ' ' else c) ++ ·)

/-- **A text with percent signs, read.** -/
def unescape? (plus : Bool) (s : String) : Option String :=
  (unescapeBytes? plus s.toList).map Utf8.text

def standsInPath (b : UInt8) : Bool :=
  let c := Char.ofNat b.toNat
  (0x41 ≤ b && b ≤ 0x5A) || (0x61 ≤ b && b ≤ 0x7A) || (0x30 ≤ b && b ≤ 0x39) ||
    "-_.~$&+,/:;=@".toList.contains c

/-- A percent sign with the digits of a byte, in upper case. -/
def percent (b : UInt8) : List Char :=
  '%' :: (Text.hexDigits 2 b.toNat).map Char.toUpper

/-- **A path with percent signs.** -/
def escapePath (path : Bytes) : String :=
  String.ofList (path.flatMap fun b =>
    if standsInPath b then [Char.ofNat b.toNat] else percent b)

/-- A text with every character outside ASCII written by its bytes. -/
def escapeForeign (s : String) : String :=
  String.ofList (s.toList.flatMap fun c =>
    if c.toNat < 0x80 then [c]
    else (String.utf8EncodeChar c).flatMap fun b => '%' :: Text.hexDigits 2 b.toNat)

/-! ### Targets -/

/-- **The parts of a target.** -/
structure Target where
  /-- The bytes of the path, with percent signs read. -/
  path : Bytes
  /-- The query as it is written, with its question mark; empty if there is none. -/
  query : String := ""

namespace Target

/-- The bytes of a path as it is written; one that cannot be read is taken as it stands. -/
def pathBytes (written : String) : Bytes :=
  (unescapeBytes? false written.toList).getD (Utf8.encode written)

/-- **The parts of a target** as it is written. -/
def parse (target : String) : Target :=
  match Text.cut '?' target with
  | (path, none) => ⟨pathBytes path, ""⟩
  | (path, some query) => ⟨pathBytes path, "?" ++ query⟩

def pathText (t : Target) : String :=
  Utf8.text t.path

def pair? (written : String) : Option (String × String) :=
  if written = "" || written.toList.contains ';' then none
  else
    let (name, value) := Text.cut '=' written
    match unescape? true name, unescape? true (value.getD "") with
    | some name, some value => some (name, value)
    | _, _ => none

/-- The names of the query with their values, in order. -/
def pairs (t : Target) : List (String × String) :=
  (Text.splitOn '&' (t.query.toList.drop 1)).filterMap fun cs => pair? (String.ofList cs)

/-- **The first value of a name in the query**; empty if there is none. -/
def value (t : Target) (name : String) : String :=
  (t.pairs.lookup name).getD ""

end Target

end EventRules.Http
